import EditorBridge.Server.Dispatch

/-!
# Careful jobs

The server remembers the settings that the editor gave for a document, so that it need not ask
again. A job is careful if it finds remembered settings only by `Server.settingsFor`. Two things
follow:

* Nothing but the questions for settings tells it from the same job that never finds anything
  remembered (`Job.forgetful`), and hence asks at each use (`Server.forgetful_settingsFor`).
* It asks for the settings of a document only if they are not remembered, and after that they are.

Carefulness goes from the parts of a job to the whole, and from there to the jobs of the server.
-/

namespace EditorBridge

open Job

variable {α β : Type} (settings : Uri → Option (List Json)) (output : Nat → CommandLine → List Char)

/-! ## Jobs in a changing world -/

namespace Job

/-- Whether the settings of a document are asked for. -/
def Action.asks (uri : Uri) : Action → Bool
  | .asked scope => scope = uri
  | _ => false

/-- Whether an action is anything but a question for settings. -/
def Action.isVisible : Action → Bool
  | .asked _ => false
  | _ => true

/-- Whether a command is run. -/
def Action.runs : Action → Bool
  | .ran _ => true
  | _ => false

/-- All actions but the questions for settings. -/
def visible (actions : List Action) : List Action := actions.filter Action.isVisible

theorem visible_append (xs ys : List Action) : visible (xs ++ ys) = visible xs ++ visible ys :=
  List.filter_append ..

theorem countP_runs_visible (actions : List Action) :
    (visible actions).countP Action.runs = actions.countP Action.runs := by
  rw [visible, List.countP_filter]
  apply List.countP_congr
  rintro (notice | scope | command) - <;> simp [Action.runs, Action.isVisible]

/-- Performs a job where a command may print something else each time: `output n` is for a command
that is run after `n` others. -/
def performAt (settings : Uri → Option (List Json)) (output : Nat → CommandLine → List Char) :
    Job α → Nat → Server → Outcome α
  | .done a, _, s => ⟨a, s, []⟩
  | .look next, n, s => performAt settings output (next s) n s
  | .change f next, n, s => performAt settings output next n (f s)
  | .tell notice next, n, s => (performAt settings output next n s).after (.told notice)
  | .ask scope next, n, s =>
    (performAt settings output (next (settings scope)) n s).after (.asked scope)
  | .run command next, n, s =>
    (performAt settings output (next (output n command)) (n + 1) s).after (.ran command)

/-- In a world that does not change, a job is performed as ever. -/
theorem performAt_eq_perform (w : World) (job : Job α) (n : Nat) (s : Server) :
    job.performAt w.settings (fun _ => w.output) n s = job.perform w s := by
  induction job generalizing n s with
  | done a => rfl
  | look next ih => exact ih s n s
  | change f next ih => exact ih n (f s)
  | tell notice next ih => exact congrArg _ (ih n s)
  | ask scope next ih => exact congrArg _ (ih _ n s)
  | run command next ih => exact congrArg _ (ih _ (n + 1) s)

theorem performAt_bind (job : Job α) (next : α → Job β) (n : Nat) (s : Server) :
    (job >>= next).performAt settings output n s =
      let first := job.performAt settings output n s
      let second :=
        (next first.value).performAt settings output (n + first.actions.countP Action.runs)
          first.server
      ⟨second.value, second.server, first.actions ++ second.actions⟩ := by
  show performAt settings output (andThen next job) n s = _
  induction job generalizing n s with
  | done a => rfl
  | look look ih => exact ih s n s
  | change f rest ih => exact ih n (f s)
  | tell notice rest ih => simp only [andThen, performAt, ih]; rfl
  | ask scope rest ih => simp only [andThen, performAt, ih]; rfl
  | run command rest ih =>
    have hcount (actions : List Action) :
        n + (Action.ran command :: actions).countP Action.runs =
          n + 1 + actions.countP Action.runs := by
      rw [List.countP_cons_of_pos rfl, Nat.add_right_comm, Nat.add_assoc]
    simp only [andThen, performAt, ih, Outcome.after, hcount, List.cons_append]

theorem performAt_state_bind (next : Server → Job α) (n : Nat) (s : Server) :
    (state >>= next).performAt settings output n s = (next s).performAt settings output n s := rfl

end Job

/-! ## The server that asks at each use -/

namespace Server

/-- The state without the remembered settings. -/
def forget (s : Server) : Server := { s with documentSettings := [] }

end Server

namespace Job

/-- The job that never finds remembered settings. -/
def forgetful : Job α → Job α
  | .done a => .done a
  | .look next => .look fun s => forgetful (next s.forget)
  | .change f next => .change f (forgetful next)
  | .tell notice next => .tell notice (forgetful next)
  | .ask scope next => .ask scope fun answer => forgetful (next answer)
  | .run command next => .run command fun output => forgetful (next output)

theorem forgetful_bind (job : Job α) (next : α → Job β) :
    (job >>= next).forgetful = job.forgetful >>= fun a => (next a).forgetful := by
  show forgetful (andThen next job) = andThen _ job.forgetful
  induction job with
  | done a => rfl
  | look look ih => exact congrArg Job.look (funext fun s => ih s.forget)
  | change f rest ih => exact congrArg _ ih
  | tell notice rest ih => exact congrArg _ ih
  | ask scope rest ih => exact congrArg _ (funext ih)
  | run command rest ih => exact congrArg _ (funext ih)

theorem forgetful_state_bind (next : Server → Job α) :
    (state >>= next).forgetful = state >>= fun s => (next s.forget).forgetful := rfl

end Job

namespace Server

/-- The settings of a document by the editor's answer. -/
def settingsOfAnswer : Option (List Json) → Settings
  | some (value :: _) => Settings.ofJson value
  | _ => {}

/-- The server that finds nothing remembered asks at each use, if it can ask. -/
theorem forgetful_settingsFor (uri : Uri) : (settingsFor uri).forgetful = (do
    let s ← state
    if !s.asksSettings then return s.commonSettings
    let settings := settingsOfAnswer (← settingsOf uri)
    update fun s => { s with documentSettings := assign uri settings s.documentSettings }
    return settings) := by
  rw [settingsFor, forgetful_state_bind]
  refine bind_congr fun s => ?_
  cases hasks : s.asksSettings with
  | false => simp only [forget, hasks]; rfl
  | true => simp only [forget, hasks, List.lookup_nil]; rfl

theorem lookup_assign (uri u : Uri) (value : α) (list : List (Uri × α)) :
    (assign uri value list).lookup u = if u = uri then some value else list.lookup u := by
  induction list with
  | nil => grind [assign]
  | cons entry list ih => grind [assign]

theorem lookup_unassign (uri u : Uri) (list : List (Uri × α)) :
    (unassign uri list).lookup u = if u = uri then none else list.lookup u := by
  induction list with
  | nil => simp [unassign]
  | cons entry list ih => grind [unassign]

/-- How many settings of a document are remembered, none or one. -/
def known (s : Server) (uri : Uri) : Nat := (s.documentSettings.lookup uri).isSome.toNat

/-- Only the settings of an editor that can be asked are remembered, and it would still answer with
them. -/
def UpToDate (s : Server) (settings : Uri → Option (List Json)) : Prop :=
  ∀ uri found, s.documentSettings.lookup uri = some found →
    s.asksSettings = true ∧ found = settingsOfAnswer (settings uri)

end Server

/-! ## Careful jobs -/

namespace Job

/-- Two ends of a job, with the same result and the same actions up to questions for settings. The
states differ in what is remembered at most. -/
structure Outcome.Alike (o r : Outcome α) : Prop where
  value : o.value = r.value
  server : o.server.forget = r.server.forget
  visible : visible o.actions = visible r.actions

/-- The same commands are run, so that the next command meets the same output. -/
theorem Outcome.Alike.countP_runs {o r : Outcome α} (h : o.Alike r) :
    o.actions.countP Action.runs = r.actions.countP Action.runs := by
  rw [← countP_runs_visible, h.visible, countP_runs_visible]

/-- A job that remembers what it asks for, and that nothing but the questions tells from a job that
asks at each use. -/
structure Careful (job : Job α) : Prop where
  phase settings output n s : (job.performAt settings output n s).server.phase = s.phase
  asks_le settings output n s uri :
    (job.performAt settings output n s).actions.countP (Action.asks uri) + s.known uri ≤
      (job.performAt settings output n s).server.known uri
  upToDate settings output n s : s.UpToDate settings →
    (job.performAt settings output n s).server.UpToDate settings
  alike settings output n s r : s.UpToDate settings → s.forget = r.forget →
    (job.performAt settings output n s).Alike (job.forgetful.performAt settings output n r)

theorem Careful.bind {job : Job α} {next : α → Job β} (h : job.Careful)
    (hn : ∀ a, (next a).Careful) : (job >>= next).Careful := by
  constructor
  case phase =>
    intro settings output n s
    rw [performAt_bind]
    exact ((hn _).phase ..).trans (h.phase ..)
  case asks_le =>
    intro settings output n s uri
    simp only [performAt_bind, List.countP_append]
    have hfirst := h.asks_le settings output n s uri
    have hsecond := (hn (job.performAt settings output n s).value).asks_le settings output
      (n + (job.performAt settings output n s).actions.countP Action.runs)
      (job.performAt settings output n s).server uri
    omega
  case upToDate =>
    intro settings output n s hs
    rw [performAt_bind]
    exact (hn _).upToDate settings output _ _ (h.upToDate settings output n s hs)
  case alike =>
    intro settings output n s r hs hr
    have hfirst := h.alike settings output n s r hs hr
    simp only [forgetful_bind, performAt_bind, ← hfirst.value, ← hfirst.countP_runs]
    obtain ⟨hvalue, hserver, hvisible⟩ :=
      (hn _).alike settings output _ _ _ (h.upToDate settings output n s hs) hfirst.server
    exact ⟨hvalue, hserver, by rw [visible_append, visible_append, hfirst.visible, hvisible]⟩

/-- A job is careful if it does not look at the state, does not change it and asks for nothing. -/
theorem careful_of_performAt {job : Job α} (hf : job.forgetful = job)
    (h : ∀ settings output n, ∃ a actions,
    (∀ action ∈ actions, action.isVisible) ∧
      ∀ s, job.performAt settings output n s = ⟨a, s, actions⟩) :
    job.Careful := by
  constructor
  case phase =>
    intro settings output n s
    obtain ⟨a, actions, -, hjob⟩ := h settings output n
    rw [hjob]
  case asks_le =>
    intro settings output n s uri
    obtain ⟨a, actions, hvisible, hjob⟩ := h settings output n
    have hasks : actions.countP (Action.asks uri) = 0 := by
      rw [List.countP_eq_zero]
      rintro (notice | scope | command) haction
      · simp [Action.asks]
      · exact absurd (hvisible _ haction) (by simp [Action.isVisible])
      · simp [Action.asks]
    simp [hjob, hasks]
  case upToDate =>
    intro settings output n s hs
    obtain ⟨a, actions, -, hjob⟩ := h settings output n
    rwa [hjob]
  case alike =>
    intro settings output n s r hs hr
    obtain ⟨a, actions, -, hjob⟩ := h settings output n
    rw [hf, hjob, hjob]
    exact ⟨rfl, hr, rfl⟩

theorem careful_pure (a : α) : (pure a : Job α).Careful :=
  careful_of_performAt rfl fun _ _ _ => ⟨a, [], by simp, fun _ => rfl⟩

theorem careful_say (notice : Notice) : (say notice).Careful :=
  careful_of_performAt rfl fun _ _ _ =>
    ⟨(), [.told notice], by simp [Action.isVisible], fun _ => rfl⟩

theorem careful_outputOf (command : CommandLine) : (outputOf command).Careful :=
  careful_of_performAt rfl fun _ output n =>
    ⟨output n command, [.ran command], by simp [Action.isVisible], fun _ => rfl⟩

theorem careful_state_bind {next : Server → Job α} (hf : ∀ s, next s.forget = next s)
    (h : ∀ s, (next s).Careful) : (state >>= next).Careful := by
  constructor
  case phase => exact fun settings output n s => (h s).phase settings output n s
  case asks_le => exact fun settings output n s => (h s).asks_le settings output n s
  case upToDate => exact fun settings output n s => (h s).upToDate settings output n s
  case alike =>
    intro settings output n s r hs hr
    have hnext : next r.forget = next s := by rw [← hr, hf]
    show Outcome.Alike ((next s).performAt settings output n s)
      ((next r.forget).forgetful.performAt settings output n r)
    rw [hnext]
    exact (h s).alike settings output n s r hs hr

/-- A change of the state is careful if it neither reads nor writes what is remembered. -/
theorem careful_update {f : Server → Server}
    (hf : ∀ s list, f { s with documentSettings := list } = { f s with documentSettings := list })
    (hphase : ∀ s, (f s).phase = s.phase) (hasks : ∀ s, (f s).asksSettings = s.asksSettings) :
    (update f).Careful := by
  have hkeeps (s : Server) : (f s).documentSettings = s.documentSettings := by
    have heq : f s = { f s with documentSettings := s.documentSettings } := hf s s.documentSettings
    rw [heq]
  constructor
  case phase => exact fun settings output n s => hphase s
  case asks_le =>
    intro settings output n s uri
    show 0 + s.known uri ≤ (f s).known uri
    simp [Server.known, hkeeps]
  case upToDate =>
    intro settings output n s hs uri found hfound
    show (f s).asksSettings = true ∧ _
    rw [hasks]
    exact hs uri found (hkeeps s ▸ hfound)
  case alike =>
    intro settings output n s r hs hr
    refine ⟨rfl, ?_, rfl⟩
    show (f s).forget = (f r).forget
    calc
      (f s).forget = f s.forget := (hf s []).symm
      _ = f r.forget := by rw [hr]
      _ = (f r).forget := hf r []

theorem careful_forM {f : α → Job Unit} (list : List α) (hf : ∀ a, (f a).Careful) :
    (list.forM f).Careful := by
  induction list with
  | nil => exact careful_pure _
  | cons a list ih => exact (hf a).bind fun _ => ih

theorem careful_mapM {f : α → Job β} (list : List α) (hf : ∀ a, (f a).Careful) :
    (list.mapM f).Careful := by
  induction list with
  | nil => exact careful_pure _
  | cons a list ih =>
    rw [List.mapM_cons]
    exact (hf a).bind fun _ => ih.bind fun _ => careful_pure _

end Job

/-! ## The jobs of the server -/

namespace Server

section Settings

variable (uri : Uri) (n : Nat) (s : Server)

theorem performAt_settingsFor : (settingsFor uri).performAt settings output n s =
    if !s.asksSettings then ⟨s.commonSettings, s, []⟩
    else match s.documentSettings.lookup uri with
      | some found => ⟨found, s, []⟩
      | none =>
        let found := settingsOfAnswer (settings uri)
        ⟨found, { s with documentSettings := assign uri found s.documentSettings },
          [.asked uri]⟩ := by
  rw [settingsFor, performAt_state_bind]
  split
  · rfl
  · cases s.documentSettings.lookup uri <;> rfl

theorem performAt_forgetful_settingsFor :
    (settingsFor uri).forgetful.performAt settings output n s =
    if !s.asksSettings then ⟨s.commonSettings, s, []⟩
    else
      let found := settingsOfAnswer (settings uri)
      ⟨found, { s with documentSettings := assign uri found s.documentSettings },
        [.asked uri]⟩ := by
  rw [forgetful_settingsFor, performAt_state_bind]
  split
  · rfl
  · rfl

end Settings

/-- The settings that are remembered are those that the editor would give, and a question is asked
only for settings that are remembered from then on. -/
theorem careful_settingsFor (uri : Uri) : (settingsFor uri).Careful := by
  constructor
  case phase =>
    intro settings output n s
    rw [performAt_settingsFor]
    split
    · rfl
    · split <;> rfl
  case asks_le =>
    intro settings output n s u
    rw [performAt_settingsFor]
    split
    · simp
    · split
      case h_1 => simp
      case h_2 hnone =>
        by_cases hu : u = uri
        · simp [known, lookup_assign, Action.asks, hu, hnone]
        · simp [known, lookup_assign, Action.asks, hu, Ne.symm hu]
  case upToDate =>
    intro settings output n s hs
    rw [performAt_settingsFor]
    split
    · exact hs
    · split
      case h_1 => exact hs
      case h_2 hasks _ _ =>
        intro u found hfound
        rw [lookup_assign] at hfound
        split at hfound
        case isTrue hu => exact ⟨by simpa using hasks, by rw [hu, Option.some.inj hfound]⟩
        case isFalse => exact hs u found hfound
  case alike =>
    intro settings output n s r hs hr
    have hasks : s.asksSettings = r.asksSettings := (congrArg asksSettings hr :)
    have hcommon : s.commonSettings = r.commonSettings := (congrArg commonSettings hr :)
    rw [performAt_settingsFor, performAt_forgetful_settingsFor]
    split
    case isTrue hno =>
      rw [if_pos (hasks ▸ hno), hcommon]
      exact ⟨rfl, hr, rfl⟩
    case isFalse hno =>
      rw [if_neg (hasks ▸ hno)]
      split
      case h_1 found hfound => exact ⟨(hs uri found hfound).2, hr, rfl⟩
      case h_2 => exact ⟨rfl, hr, rfl⟩

theorem careful_execute (command : CommandLine) : (execute command).Careful :=
  (careful_say _).bind fun _ => careful_outputOf command

theorem careful_announce (publications : List (Publisher.Publication Diagnostic)) :
    (announce publications).Careful :=
  careful_forM publications fun _ => careful_say _

theorem careful_publish (uri : Uri) (map : FileMap Diagnostic) : (publish uri map).Careful := by
  refine careful_state_bind (fun _ => rfl) fun s => ?_
  refine Careful.bind ?_ fun _ => careful_announce _
  exact careful_update (fun _ _ => rfl) (fun _ => rfl) fun _ => rfl

theorem careful_validate (env : Surroundings) (uri : Uri) : (validate env uri).Careful := by
  refine (careful_settingsFor uri).bind fun settings => (careful_execute _).bind fun output => ?_
  exact careful_state_bind (fun _ => rfl) fun s => careful_publish uri _

theorem careful_takeCompletion (output : List Char) : (takeCompletion output).Careful := by
  rw [takeCompletion]
  split
  · exact careful_update (fun _ _ => rfl) (fun _ => rfl) fun _ => rfl
  · exact careful_pure _

theorem careful_refreshCompletion (env : Surroundings) (uri : Uri) :
    (refreshCompletion env uri).Careful := by
  refine (careful_settingsFor uri).bind fun settings => ?_
  refine (careful_mapM _ fun file => careful_execute _).bind fun outputs => ?_
  exact careful_forM outputs careful_takeCompletion

theorem careful_reportAt (env : Surroundings) (uri : Uri) (position : Position) :
    (reportAt env uri position).Careful := by
  refine (careful_settingsFor uri).bind fun settings => (careful_execute _).bind fun output => ?_
  split
  · exact careful_pure _
  · exact careful_state_bind (fun _ => rfl) fun s => careful_pure _

theorem careful_revalidate (env : Surroundings) : (revalidate env).Careful :=
  careful_state_bind (fun _ => rfl) fun _ => careful_forM _ (careful_validate env)

theorem careful_store (uri : Uri) (text : String) : (store uri text).Careful :=
  careful_update (fun _ _ => rfl) (fun _ => rfl) fun _ => rfl

theorem careful_serve (env : Surroundings) (request : Request) : (serve env request).Careful := by
  cases request with
  | hover place =>
    exact (careful_reportAt env _ _).bind fun _ =>
      careful_state_bind (fun _ => rfl) fun _ => careful_pure _
  | definition place =>
    exact (careful_reportAt env _ _).bind fun _ =>
      careful_state_bind (fun _ => rfl) fun _ => careful_pure _
  | completion => exact careful_state_bind (fun _ => rfl) fun _ => careful_pure _
  | resolve item => exact careful_pure _
  | signatureHelp place => exact careful_state_bind (fun _ => rfl) fun _ => careful_pure _
  | unserved => exact careful_pure _

end Server

end EditorBridge
