import EditorBridge.Command.Line
import EditorBridge.Server.State

/-!
# Jobs

The handling of a message as an interaction tree: it reads and changes the state of the server,
tells the editor something, asks the editor for settings, and runs commands. The answers come from
outside. In between, other jobs may change the state.

`Job.perform` runs a job in a given world without interruption. `Job.perform_bind` says that a
sequence of jobs is performed one after another.
-/

namespace EditorBridge

/-- A computation of the server that gives a value of type `α`. -/
inductive Job (α : Type) : Type where
  | done (value : α)
  /-- Goes on with the state. -/
  | look (next : Server → Job α)
  /-- Changes the state. -/
  | change (f : Server → Server) (next : Job α)
  /-- Tells the editor something. -/
  | tell (notice : Notice) (next : Job α)
  /-- Asks for the settings of a document. There may be no answer. -/
  | ask (scope : Uri) (next : Option (List Json) → Job α)
  /-- Runs a command and goes on with its output. -/
  | run (command : CommandLine) (next : List Char → Job α)

namespace Job

variable {α β : Type}

/-- One job after another. -/
def andThen (f : α → Job β) : Job α → Job β
  | .done a => f a
  | .look next => .look fun s => andThen f (next s)
  | .change g next => .change g (andThen f next)
  | .tell notice next => .tell notice (andThen f next)
  | .ask scope next => .ask scope fun r => andThen f (next r)
  | .run command next => .run command fun r => andThen f (next r)

instance : Monad Job where
  pure := .done
  bind t f := andThen f t

/-- The state. -/
def state : Job Server := .look .done

/-- Changes the state. -/
def update (f : Server → Server) : Job Unit := .change f (.done ())

/-- Tells the editor something. -/
def say (notice : Notice) : Job Unit := .tell notice (.done ())

/-- What the editor says about the settings of a document. -/
def settingsOf (scope : Uri) : Job (Option (List Json)) := .ask scope .done

/-- The output of a command. -/
def outputOf (command : CommandLine) : Job (List Char) := .run command .done

/-- Something that can be seen of a job. -/
inductive Action where
  | told (notice : Notice)
  | asked (scope : Uri)
  | ran (command : CommandLine)

/-- What a job meets: the settings that the editor has for documents, and the output of commands. -/
structure World where
  settings : Uri → Option (List Json)
  output : CommandLine → List Char

/-- The end of a job: its value, the state, and what was seen of it. -/
structure Outcome (α : Type) where
  value : α
  server : Server
  actions : List Action

/-- Puts an action before the others. -/
def Outcome.after (a : Action) (o : Outcome α) : Outcome α := { o with actions := a :: o.actions }

/-- Performs a job in a world. -/
def perform (w : World) : Job α → Server → Outcome α
  | .done a, s => ⟨a, s, []⟩
  | .look next, s => perform w (next s) s
  | .change f next, s => perform w next (f s)
  | .tell notice next, s => (perform w next s).after (.told notice)
  | .ask scope next, s => (perform w (next (w.settings scope)) s).after (.asked scope)
  | .run command next, s => (perform w (next (w.output command)) s).after (.ran command)

theorem andThen_done (t : Job α) : andThen .done t = t := by
  induction t with
  | done a => rfl
  | look next ih => exact congrArg _ (funext ih)
  | change g next ih => exact congrArg _ ih
  | tell notice next ih => exact congrArg _ ih
  | ask scope next ih => exact congrArg _ (funext ih)
  | run command next ih => exact congrArg _ (funext ih)

theorem andThen_andThen {γ : Type} (t : Job α) (f : α → Job β) (g : β → Job γ) :
    andThen g (andThen f t) = andThen (fun a => andThen g (f a)) t := by
  induction t with
  | done a => rfl
  | look next ih => exact congrArg _ (funext ih)
  | change h next ih => exact congrArg _ ih
  | tell notice next ih => exact congrArg _ ih
  | ask scope next ih => exact congrArg _ (funext ih)
  | run command next ih => exact congrArg _ (funext ih)

instance : LawfulMonad Job := .mk' Job andThen_done (fun _ _ => rfl) andThen_andThen

@[simp] theorem perform_pure (w : World) (a : α) (s : Server) :
    perform w (pure a) s = ⟨a, s, []⟩ := rfl

/-- A sequence is performed one after the other, and the actions follow each other. -/
theorem perform_bind (w : World) (t : Job α) (f : α → Job β) (s : Server) :
    perform w (t >>= f) s =
      let first := perform w t s
      let second := perform w (f first.value) first.server
      ⟨second.value, second.server, first.actions ++ second.actions⟩ := by
  show perform w (andThen f t) s = _
  induction t generalizing s with
  | done a => rfl
  | look next ih => exact ih s s
  | change g next ih => exact ih (g s)
  | tell notice next ih => simp only [andThen, perform, ih]; rfl
  | ask scope next ih => simp only [andThen, perform, ih]; rfl
  | run command next ih => simp only [andThen, perform, ih]; rfl

end Job

end EditorBridge
