import EditorBridge.Diagnostic.Basic
import EditorBridge.Diagnostic.Line
import EditorBridge.Resolver

/-!
# Compiler logs

Diagnostics from a log for people. A line with a place opens a diagnostic; a line with a code gives
it its message, and the plain lines after that are its hint. A trace line is a diagnostic of its
own, but only where none is open.
-/

namespace EditorBridge.Log

/-- A diagnostic that is not finished. Its hint is read once its code has been. -/
structure Pending where
  uri : Option Uri
  position : Position
  severity : Int
  message : Option (List Char)
  code : Option (List Char)
  hint : Option (List Char)
deriving DecidableEq, Repr

/-- How a log is read: the files around, the file to which diagnostics without one belong, and
whether hints are shown. -/
structure Setting where
  fs : FileSystem
  resolver : Resolver
  document : Option Uri
  related : Bool

/-- How far a log has been read: the open diagnostic, and the finished ones from the last to the
first. -/
structure State where
  pending : Option Pending
  found : List (Uri × Diagnostic)
deriving DecidableEq, Repr

/-- The state before the first line. -/
def State.start : State := ⟨none, []⟩

/-- A number of 32 bits; other digits stand for the largest one. -/
def word (digits : List Char) : Nat := (Text.boundedNat? 4294967295 digits).getD 4294967295

/-- The position with the given digits. Logs count lines from one. -/
def Place.position (p : Place) : Position := ⟨.ofNat (word p.line - 1), .ofNat (word p.column)⟩

/-- The diagnostic opened by a line with a place. -/
def Setting.opened (s : Setting) (place : Place) (severity : Int) (message : Option (List Char)) :
    Pending :=
  ⟨s.resolver.uri? s.fs place.path, place.position, severity, message, none, none⟩

/-- The diagnostic opened by a line with a code where none was waiting for it. -/
def Pending.placeless : Pending := ⟨none, .origin, Diagnostic.error, none, none, none⟩

/-- The finished diagnostic with its file, if it has one. -/
def Setting.finished? (s : Setting) (p : Pending) : Option (Uri × Diagnostic) := do
  let uri ← p.uri.or s.document
  let range := Range.emptyAt p.position
  let hint := p.hint.getD []
  return (uri,
    { range := range
      severity := some p.severity
      code := p.code.map fun code => .text (String.ofList code)
      source := none
      message := String.ofList (p.message.getD [])
      related :=
        if s.related ∧ hint ≠ [] then some [⟨⟨uri, range⟩, String.ofList hint⟩] else none })

/-- Finishes the open diagnostic. -/
def Setting.finish (s : Setting) (state : State) : State :=
  ⟨none, (state.pending.bind s.finished?).toList ++ state.found⟩

/-- Opens a diagnostic after finishing the one that was open. -/
def Setting.opening (s : Setting) (state : State) (p : Pending) : State :=
  { s.finish state with pending := some p }

/-- Gives code and message to a diagnostic. -/
def Pending.withCode (p : Pending) (code message : List Char) : Pending :=
  { p with message := some message, code := some code, hint := some (p.hint.getD []) }

/-- Reads a line by its shape. -/
def Setting.feedShape (s : Setting) (state : State) (line : List Char) : Shape → State
  | .located place message => s.opening state (s.opened place Diagnostic.error (some message))
  | .header place => s.opening state (s.opened place Diagnostic.error none)
  | .coded code message =>
    match state.pending with
    | some p =>
      if p.message.isSome then s.opening state (Pending.placeless.withCode code message)
      else { state with pending := some (p.withCode code message) }
    | none => { state with pending := some (Pending.placeless.withCode code message) }
  | .plain =>
    { state with pending := state.pending.map fun p => { p with hint := p.hint.map (· ++ line) } }

/-- Reads a line. -/
def Setting.feed (s : Setting) (state : State) (line : List Char) : State :=
  match state.pending, trace? line with
  | none, some (message, place) =>
    s.finish { state with pending := some (s.opened place Diagnostic.information (some message)) }
  | _, _ => s.feedShape state line (shape line)

/-- The finished diagnostics of a log in their order. -/
def Setting.read (s : Setting) (lines : List (List Char)) : List (Uri × Diagnostic) :=
  (s.finish (lines.foldl s.feed .start)).found.reverse

/-- The diagnostics of a log, grouped by file. -/
def parse (fs : FileSystem) (r : Resolver) (document : List Char) (related : Bool)
    (cs : List Char) : FileMap Diagnostic :=
  .group ((Setting.mk fs r (r.uri? fs document) related).read (segments cs))

end EditorBridge.Log
