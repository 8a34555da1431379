import EditorBridge.Command.Capture
import EditorBridge.Command.Line
import EditorBridge.Resolver
import EditorBridge.Session.Failure
import EditorBridge.Session.Manager
import EditorBridge.Shell.Run

/-!
# Machines

A machine on which commands run and servers are reached, as a value: which programs it knows, which
directories it has, and which ports answer.
-/

namespace EditorBridge

/-- How a process ends. -/
inductive Exit where
  | code (status : Nat)
  | signal (number : Nat)
deriving DecidableEq, Repr

/-- The text of a process's end. -/
def Exit.text : Exit → String
  | .code status => "exit status: " ++ toString status
  | .signal number =>
    let name := match Shell.signals.find? (·.2 = number) with
      | some (name, _) => " (SIG" ++ name ++ ")"
      | none => ""
    "signal: " ++ toString number ++ name

/-- Why a process was not started. -/
inductive StartFailure where
  | missing
  | denied
  | throughFile
  | longName
  | zeroByte
deriving DecidableEq, Repr

/-- The failure to start what a path leads to. -/
def StartFailure.ofPath : PathFailure → StartFailure
  | .missing => .missing
  | .throughFile => .throughFile
  | .longName => .longName

/-- The text of a failure to start. -/
def StartFailure.message : StartFailure → String
  | .missing => "No such file or directory (os error 2)"
  | .denied => "Permission denied (os error 13)"
  | .throughFile => "Not a directory (os error 20)"
  | .longName => "File name too long (os error 36)"
  | .zeroByte => "nul byte found in provided data"

/-- What a process did. -/
structure Execution where
  output : List UInt8
  exit : Exit
  /-- How long it ran, in milliseconds. -/
  duration : Nat

/-- A machine. -/
structure Machine where
  files : FileSystem
  /-- What an attempt to connect to a port gives: nothing, or the cause of its failure. -/
  connect : Nat → Except String Unit

namespace Machine

/-- How many steps of a command are followed. -/
def patience : Nat := 100000

/-- The files and the programs of a machine. -/
def everything (m : Machine) : FileSystem :=
  m.files.union (.ofFiles m.files.current
    (Shell.programDirectories.flatMap fun d =>
      Shell.programNames.map fun name => d ++ [name.toList]))

/-- The directory in which a process starts. -/
def directory (m : Machine) (path : Option (List Char)) : Except StartFailure (List (List Char)) :=
  let current := (Path.fold m.files.current).names
  match path with
  | some path => (m.everything.directory current path).mapError StartFailure.ofPath
  | none => .ok current

/-- The program with a name, for a process in the directory `base`. A name with a slash is a
path. -/
def program (m : Machine) (base : List (List Char)) (name : List Char) :
    Except StartFailure String :=
  if name.contains '/' then do
    let place ← (m.everything.follow base name).mapError StartFailure.ofPath
    match Shell.programNames.find? fun p =>
      Shell.programDirectories.any fun d => place = d ++ [p.toList] with
    | some program => return program
    | none => throw .denied
  else if (Text.Utf8.encode name).length > FileSystem.longestName then .error .longName
  else if String.ofList name ∈ Shell.programNames then .ok (String.ofList name)
  else .error .missing

/-- Starts a process and follows it to its end. -/
def start (m : Machine) (directory : Option (List Char)) (name : List Char)
    (args : List (List Char)) : Except StartFailure Execution := do
  if (name :: directory.toList ++ args).any (·.contains '\x00') then throw .zeroByte
  let base ← m.directory directory
  let name ← m.program base name
  let s : Shell.State :=
    { directory := base, bindings := [("PWD".toList, Folded.text ⟨true, base⟩)] }
  let (s, flow) :=
    if name = "sh" then Shell.shell m.everything patience s args
    else Shell.program m.everything patience s name.toList args
  return {
    output := s.written.reverse
    exit := match flow with
      | .killed signal => .signal signal
      | _ => .code s.status
    duration := s.waited }

/-- The output of a command: nothing if it cannot be started. -/
def output (m : Machine) (c : CommandLine) : List Char :=
  match m.start none c.program c.arguments with
  | .ok x => capture c.maxOutput x.output
  | .error _ => []

/-- Launches a server: starts it if need be, and connects to its port. A started server is tried as
long as it runs; there is no outcome if it runs longer than `limit` milliseconds. The value says
whether there is a process. -/
def launch (m : Machine) (limit : Nat) (r : Session.Request) : Option (Except LaunchFailure Bool) :=
  let root := String.ofList r.root.name
  if r.spawn then
    match m.start r.directory r.command.toList (r.args.map String.toList) with
    | .error cause => some (.error (.spawn r.command root cause.message))
    | .ok x =>
      match m.connect r.port.toNat with
      | .ok () => some (.ok true)
      | .error _ => if x.duration < limit then some (.error (.exited root x.exit.text)) else none
  else
    match m.connect r.port.toNat with
    | .ok () => some (.ok false)
    | .error cause => some (.error (.connect r.port.toNat cause))

end Machine

end EditorBridge
