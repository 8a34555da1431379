import EditorBridge.FileSystem
import EditorBridge.Shell.Filter
import EditorBridge.Shell.Script

/-!
# The state of a run

What a script knows and has done while it runs: variables, arguments, functions, streams and files.
-/

namespace EditorBridge.Shell

/-- Where a stream leads. -/
inductive Sink where
  | output
  | errors
  | nowhere
  | file (place : List (List Char))
deriving DecidableEq, Repr

/-- The streams of a command. -/
structure Streams where
  out : Sink := .output
  err : Sink := .errors
deriving DecidableEq, Repr

/-- The state of a run. -/
structure State where
  bindings : Bindings := []
  /-- The variables that other scripts see. -/
  exported : List (List Char) := []
  /-- The variables that cannot change. -/
  fixed : List (List Char) := []
  /-- The name of the script and its arguments. -/
  arguments : List (List Char) := []
  functions : List (List Char × Command) := []
  /-- What is done for a signal, or at the end for the signal zero. -/
  traps : List (Nat × List Char) := []
  options : List Char := []
  streams : Streams := {}
  status : Nat := 0
  /-- The status of the script that was last run for what it writes. -/
  substituted : Nat := 0
  /-- What was written, last byte first. -/
  written : List UInt8 := []
  input : List UInt8 := []
  /-- The files that were written. -/
  files : List (List (List Char) × List UInt8) := []
  directory : List (List Char) := []
  /-- How long the run waited, in milliseconds. -/
  waited : Nat := 0
  /-- When all that runs in the background is over. -/
  background : Nat := 0
  /-- For each function that is running, the values that variables had outside. -/
  frames : List (List (List Char × Option (List Char))) := []
  /-- Whether a part of the script runs by itself. -/
  apart : Bool := false
  /-- The signal that such a part sent to the script. -/
  signalled : Option Nat := none
  /-- How many more commands are run before the run is given up. -/
  budget : Nat := 300000
  /-- How many loops are running. -/
  loops : Nat := 0
  /-- Whether a failure is looked at, so that it does not end the run. -/
  tested : Bool := false
deriving Inhabited

/-- How a run goes on. -/
inductive Flow where
  | next
  /-- Ends a loop, and as many around it. -/
  | leaveLoop (outer : Nat)
  /-- Ends a turn of a loop, after as many loops in it. -/
  | nextTurn (outer : Nat)
  | leaveFunction
  | exit
  | killed (signal : Nat)
deriving DecidableEq, Repr

namespace State

/-- The number by which a script knows its own process. -/
def processId : List Char := "4242".toList

/-- The number of the process that was last put in the background. -/
def backgroundId : List Char := "4243".toList

/-- Writes bytes to a sink. -/
def write (s : State) (sink : Sink) (bytes : List UInt8) : State :=
  match sink with
  | .output => { s with written := bytes.reverse ++ s.written }
  | .file place =>
    { s with
      files := (place, (s.files.lookup place).getD [] ++ bytes) :: s.files.filter (·.1 ≠ place) }
  | _ => s

/-- Writes bytes to the output. -/
def say (s : State) (bytes : List UInt8) : State := s.write s.streams.out bytes

/-- Ends a command with a status. -/
def ended (s : State) (status : Nat) : State × Flow := ({ s with status := status }, .next)

/-- A time longer than any that is waited for, in milliseconds. -/
def ever : Nat := 1000000000

/-- Gives up a run that does not end. -/
def endless (s : State) : State × Flow := ({ s with status := 2, waited := s.waited + ever }, .exit)

/-- Ends the run because of a mistake in the script, or a signal. -/
def fatal (s : State) : State × Flow :=
  match s.signalled with
  | some signal => if s.apart then ({ s with status := 2 }, .exit) else (s, .killed signal)
  | none => ({ s with status := 2 }, .exit)

/-- The value of a parameter, if it has one. -/
def value? (s : State) (name : List Char) : Option (List Char) :=
  match name with
  | ['$'] => some processId
  | ['!'] => if s.background = 0 then none else some backgroundId
  | ['?'] => some (Nat.toDigits 10 s.status)
  | ['#'] => some (Nat.toDigits 10 (s.arguments.length - 1))
  | ['-'] => some s.options
  | ['@'] | ['*'] => some (Text.join [' '] (s.arguments.drop 1))
  | name => if name.all Char.isDigit then s.arguments[decimal name]? else s.bindings.lookup name

/-- Assigns a variable, if it can change. -/
def assign? (s : State) (name value : List Char) : Option State :=
  if s.fixed.contains name then none else some { s with bindings := s.bindings.set name value }

/-- The characters at which fields are split. -/
def separators (s : State) : List Char := (s.bindings.lookup "IFS".toList).getD [' ', '\t', '\n']

/-- The files around, with those that were written. -/
def around (fs : FileSystem) (s : State) : FileSystem :=
  fs.union (.ofFiles fs.current (s.files.map (·.1)))

/-- The bytes of a file. A file that was there before is empty. -/
def bytes? (fs : FileSystem) (s : State) (path : List Char) : Option (List UInt8) :=
  if path = "/dev/null".toList then some []
  else if path = "/dev/zero".toList then some (List.replicate plenty 0)
  else
    match (s.around fs).follow s.directory path with
    | .ok place =>
      if (s.around fs).isDirectory ⟨true, place⟩ then none
      else some ((s.files.lookup place).getD [])
    | .error _ => none

/-- The place of a file that can be written. -/
def target? (fs : FileSystem) (s : State) (path : List Char) : Option (List (List Char)) :=
  let cut := path.length - (path.reverse.takeWhile (· ≠ '/')).length
  let parent := if cut = 0 then ['.'] else path.take cut
  match (s.around fs).directory s.directory parent with
  | .ok place =>
    let place := place ++ [path.drop cut]
    if path.drop cut = [] ∨ (s.around fs).isDirectory ⟨true, place⟩ then none else some place
  | .error _ => none

/-- The text of the directory of the run. -/
def directoryText (s : State) : List Char := Folded.text ⟨true, s.directory⟩

end State

/-- The fields of a word while it is expanded: those that are complete, last first, and the open
one. -/
structure Fields where
  complete : List Marked := []
  current : Option Marked := none
  /-- Whether white space came last, so that a separator belongs to it. -/
  afterBlank : Bool := false
  /-- The characters at which texts are split. -/
  separators : List Char
  /-- Whether there is one field only. -/
  whole : Bool

namespace Fields

/-- Adds a text to the open field. -/
def append (f : Fields) (m : Marked) : Fields :=
  { f with current := some (f.current.getD [] ++ m), afterBlank := false }

/-- Completes the open field. -/
def close (f : Fields) : Fields :=
  match f.current with
  | some field => { f with complete := field :: f.complete, current := none }
  | none => f

/-- Adds a character that may separate fields. -/
def push (f : Fields) (c : Char) : Fields :=
  if f.whole || !f.separators.contains c then f.append [(c, false)]
  else if [' ', '\t', '\n'].contains c then
    { f.close with afterBlank := f.current.isSome || f.afterBlank }
  else if f.current.isSome then f.close
  else if f.afterBlank then { f with afterBlank := false }
  else { f with complete := [] :: f.complete }

/-- Adds a text. What is quoted is not split. -/
def add (f : Fields) (quoted : Bool) (text : List Char) : Fields :=
  if quoted then f.append (.ofText true text) else text.foldl push f

/-- Adds the characters at the start of a word that stand in place of a value. -/
def addPlain (f : Fields) (w : Word) : Fields :=
  (w.takeWhile Piece.isPlain).foldl (fun f piece => match piece with
    | .char c false => f.push c
    | .char c true => f.append [(c, true)]
    | _ => f.append []) f

/-- Adds several texts, each of them a field of its own. -/
def addEach (f : Fields) (quoted : Bool) : List (List Char) → Fields
  | [] => f
  | first :: rest =>
    rest.foldl (fun f text =>
      ((if f.whole then f.append [(' ', quoted)] else f.close).add quoted text))
      (f.add quoted first)

/-- All fields. -/
def toList (f : Fields) : List Marked := f.close.complete.reverse

end Fields

/-- Whether a text comes before another, or is the same. -/
def textLe (a b : List Char) : Bool := bytesLe (Text.Utf8.encode a) (Text.Utf8.encode b)

/-- The pieces of a pattern between slashes. -/
def pathPieces : Marked → List Marked
  | [] => [[]]
  | m :: rest =>
    if m.1 = '/' then [] :: pathPieces rest
    else
      match pathPieces rest with
      | [] => [[m]]
      | piece :: pieces => (m :: piece) :: pieces

/-- The paths of files that a pattern stands for. -/
def State.matching (fs : FileSystem) (s : State) (m : Marked) : List (List Char) :=
  let files := s.around fs
  let start : List (List Char × List (List Char)) :=
    [([], if (m.head?.map (·.1)) = some '/' then [] else s.directory)]
  let (found, _) := (pathPieces m).foldl (fun (found, first) piece =>
    (found.flatMap fun (text, place) =>
      let text := if first then text else text ++ ['/']
      if !Marked.isPattern piece then
        let name := Marked.text piece
        if name.isEmpty then [(text, place)]
        else match files.walk place [name] with
          | .ok place => [(text ++ name, place)]
          | .error _ => []
      else
        ((files.names place).filter fun name =>
          (name.head? ≠ some '.' || (piece.head?.map (·.1)) = some '.') &&
          Marked.covers piece name).map fun name =>
            (text ++ name, place ++ [name]), false)) (start, true)
  (found.map (·.1)).mergeSort textLe

/-- The outcome of a test of one text. -/
def testOne (fs : FileSystem) (s : State) (operator a : List Char) : Option Bool :=
  let place := (s.around fs).follow s.directory a
  let isDirectory := match place with
    | .ok place => (s.around fs).isDirectory ⟨true, place⟩
    | .error _ => false
  let exists? := place.isOk
  match String.ofList operator with
  | "-n" => some (a ≠ [])
  | "-z" => some (a = [])
  | "-e" | "-r" | "-w" => some exists?
  | "-f" => some (exists? && !isDirectory)
  | "-d" | "-x" => some isDirectory
  | "-s" => some (((s.bytes? fs a).getD []) ≠ [])
  | "-t" | "-L" | "-h" | "-p" | "-S" | "-b" | "-c" | "-u" | "-g" | "-k" => some false
  | _ => none

/-- The outcome of a test of two texts, unless it is none. -/
def testTwo (a operator b : List Char) : Option Bool :=
  let compare (f : Int → Int → Bool) : Option Bool := do return f (← integer? a) (← integer? b)
  match String.ofList operator with
  | "=" => some (a = b)
  | "!=" => some (a ≠ b)
  | "<" => some (textLe a b && a ≠ b)
  | ">" => some (textLe b a && a ≠ b)
  | "-eq" => compare (· = ·)
  | "-ne" => compare (· ≠ ·)
  | "-lt" => compare (· < ·)
  | "-le" => compare (· ≤ ·)
  | "-gt" => compare (· > ·)
  | "-ge" => compare (· ≥ ·)
  | _ => none

/-- The outcome of a test, unless it is none. -/
def test (fs : FileSystem) (s : State) : (fuel : Nat) → List (List Char) → Option Bool
  | 0, _ => none
  | fuel + 1, args =>
    match args with
    | [] => some false
    | [a] => some (a ≠ [])
    | [['!'], a] => some (a = [])
    | [operator, a] => testOne fs s operator a
    | [a, operator, b] =>
      match testTwo a operator b with
      | some outcome => some outcome
      | none =>
        if a = ['!'] then (test fs s fuel [operator, b]).map (!·)
        else if operator = ['-', 'a'] then some (a ≠ [] && b ≠ [])
        else if operator = ['-', 'o'] then some (a ≠ [] || b ≠ [])
        else if a = ['('] && b = [')'] then test fs s fuel [operator]
        else none
    | args =>
      match args.span (· ≠ ['-', 'o']) with
      | (left, _ :: right) => do return (← test fs s fuel left) || (← test fs s fuel right)
      | _ =>
        match args.span (· ≠ ['-', 'a']) with
        | (left, _ :: right) => do return (← test fs s fuel left) && (← test fs s fuel right)
        | _ =>
          match args with
          | ['!'] :: rest => (test fs s fuel rest).map (!·)
          | _ => none

/-- The status of a test. -/
def testStatus (fs : FileSystem) (s : State) (args : List (List Char)) : Nat :=
  match test fs s (args.length + 2) args with
  | some true => 0
  | some false => 1
  | none => 2

end EditorBridge.Shell
