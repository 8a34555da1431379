import EditorBridge.Text.Blank
import EditorBridge.Text.Digit
import EditorBridge.Text.Split

/-!
# Lines of a log

The shapes a line of a compiler's log may have. Where a line can be cut in more than one way, the
path, and before it the message, is as long as possible.
-/

namespace EditorBridge.Log

/-- A path with the digits of a line and of a column. -/
structure Place where
  path : List Char
  line : List Char
  column : List Char
deriving DecidableEq, Repr

/-- The longest non-empty piece of allowed characters, after `piece` in reverse, whose rest is
accepted. -/
def longest? {α : Type} (allowed : Char → Bool) (accept : List Char → Option α) :
    (piece : List Char) → List Char → Option (List Char × α)
  | _, [] => none
  | piece, c :: cs =>
    if allowed c then
      match longest? allowed accept (c :: piece) cs with
      | some found => some found
      | none => (accept cs).map ((c :: piece).reverse, ·)
    else none

/-- What is found in a text or in the first of its ends in which something is found. -/
def first? {α : Type} (find : List Char → Option α) : List Char → Option α
  | [] => find []
  | c :: cs =>
    match find (c :: cs) with
    | some found => some found
    | none => first? find cs

/-- A colon and a number; the digits and the text after them. -/
def number? : List Char → Option (List Char × List Char)
  | ':' :: cs => if cs.takeWhile Text.isDigit = [] then none else some (cs.span Text.isDigit)
  | _ => none

/-- Line and column after a path; their digits and the text after them. -/
def numbers? (cs : List Char) : Option (List Char × List Char × List Char) := do
  let (line, cs) ← number? cs
  let (column, cs) ← number? cs
  return (line, column, cs)

/-- Line, column and a colon after a path; the digits and the text after the colon. -/
def marked? (cs : List Char) : Option (List Char × List Char × List Char) := do
  match ← numbers? cs with
  | (line, column, ':' :: cs) => return (line, column, cs)
  | _ => none

/-- The text after white space, or its last character if it is all white space. -/
def messageOf? (cs : List Char) : Option (List Char) :=
  match Text.trimStart cs with
  | [] => cs.getLast?.map ([·])
  | message => some message

/-- `<message> at <path>:<line>:<column>`, anywhere in the line. -/
def trace? (cs : List Char) : Option (List Char × Place) := do
  let accept (cs : List Char) := do
    longest? (fun _ => true) numbers? [] (← Text.dropPrefix? " at ".toList cs)
  let (message, path, line, column, _) ← longest? (fun _ => true) accept [] cs
  return (message, ⟨path, line, column⟩)

/-- `<path>:<line>:<column>: <message>`, from the first path in the line. -/
def located? (cs : List Char) : Option (Place × List Char) := do
  let accept (cs : List Char) := do
    let (line, column, rest) ← marked? cs
    return (line, column, ← messageOf? rest)
  let (path, line, column, message) ← first? (longest? (fun c => !Text.isBlank c) accept []) cs
  return (⟨path, line, column⟩, message)

/-- `<path>:<line>:<column>:`, from the first path in the line. -/
def header? (cs : List Char) : Option Place := do
  let (path, line, column, _) ← first? (longest? (fun c => !Text.isBlank c) marked? []) cs
  return ⟨path, line, column⟩

/-- `<code>: <message>`, at the start of the line. -/
def coded? (cs : List Char) : Option (List Char × List Char) :=
  match cs.takeWhile Text.isDigit, cs.dropWhile Text.isDigit with
  | c :: code, ':' :: rest => some (c :: code, Text.trimStart rest)
  | _, _ => none

/-- The shape of a line. -/
inductive Shape where
  /-- A message and the place it is about. -/
  | located (place : Place) (message : List Char)
  /-- A place whose message comes on a later line. -/
  | header (place : Place)
  /-- A message with its code. -/
  | coded (code message : List Char)
  /-- None of these. -/
  | plain
deriving DecidableEq, Repr

/-- The shape of a line. -/
def shape (cs : List Char) : Shape :=
  match located? cs with
  | some (place, message) => .located place message
  | none =>
    match header? cs with
    | some place => .header place
    | none =>
      match coded? cs with
      | some (code, message) => .coded code message
      | none => .plain

/-- The pieces of a log between line feeds and carriage returns. -/
def segments (cs : List Char) : List (List Char) := (Text.lines cs).flatMap (Text.split (· = '\r'))

end EditorBridge.Log
