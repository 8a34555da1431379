import EditorBridge.Session.Config
import EditorBridge.Text.Split
import EditorBridge.Workspace

/-!
# Sessions

A workspace keeps at most one server for each root. Opening a document asks for the server of its
root; the launch takes time, and so does the end of a session, so both are events of their own,
which may come after anything else. An entry has the number of the call that asked for it, and the
end of a launch or of a session touches the entry of its root only if the numbers agree.

Calls are numbered in 64 bits and the ports of folders are counted in 32 bits. Both counters wrap
around.
-/

namespace EditorBridge.Session

/-- What has become of a server. -/
inductive Status where
  | spawning
  | connected
deriving DecidableEq, Repr, Inhabited

/-- A call that asked for a server. -/
structure Call where
  id : UInt64
  root : Root
  port : UInt16
deriving DecidableEq, Repr, Inhabited

/-- What is asked of a launcher. -/
structure Request where
  root : Root
  port : UInt16
  command : String
  args : List String
  directory : Option (List Char)
  spawn : Bool
deriving DecidableEq, Repr, Inhabited

/-- How a launch ends. -/
inductive Outcome where
  | reached
  | failed
  | timedOut
deriving DecidableEq, Repr, Inhabited

/-- The sessions of a workspace. -/
structure Sessions where
  config : Config
  folders : Folders
  /-- The kept servers, at most one for each root. -/
  entries : List (Call × Status)
  /-- The calls whose launch has not ended. -/
  pending : List Call
  /-- The calls whose server is being looked after. -/
  running : List Call
  /-- The number of the next call. -/
  nextId : UInt64
  /-- How many ports were counted for folders. -/
  folderPorts : UInt32
deriving DecidableEq, Repr, Inhabited

namespace Config

/-- The request for the server of a root. Folders have their own directory. -/
def request (c : Config) (root : Root) (port : UInt16) : Request where
  root := root
  port := port
  command := c.command
  args := c.args.map fun a =>
    String.ofList (Text.replace portPlace (Nat.toDigits 10 port.toNat) a.toList)
  directory := root.directory?.or (c.directory.map String.toList)
  spawn := c.spawn

end Config

/-- Whether an entry is that of a call, which is told by the root and the number. -/
def Call.owns (call : Call) (entry : Call × Status) : Bool :=
  entry.1.root = call.root ∧ entry.1.id = call.id

namespace Sessions

/-- A workspace without folders and sessions. -/
def ofConfig (config : Config) : Sessions := ⟨config, .empty, [], [], [], 0, 0⟩

/-- The kept entry of a root. -/
def kept? (s : Sessions) (root : Root) : Option (Call × Status) :=
  s.entries.find? (·.1.root = root)

/-- What has become of the server of a root. -/
def status? (s : Sessions) (root : Root) : Option Status := (s.kept? root).map (·.2)

/-- Counts the number of a port for a root. Documents that are not saved share the base port;
folders get the numbers after it. -/
def countPort (s : Sessions) : Root → Sessions × UInt32
  | .untitled => (s, s.config.basePort.toUInt32)
  | .folder _ =>
    ({ s with folderPorts := s.folderPorts + 1 },
      s.config.basePort.toUInt32 + (s.folderPorts + 1))

/-- Asks for the server of a document's root. There is nothing to launch if the document has no
root, if the root already has an entry, or if there is no port with the number that is counted for
it. -/
def openDocument (s : Sessions) (document : Uri) : Sessions × Option (Call × Request) :=
  match s.folders.root? document with
  | none => (s, none)
  | some root =>
    if (s.kept? root).isSome then (s, none)
    else
      let (s, number) := s.countPort root
      if Config.maxPort < number then (s, none)
      else
        let call : Call := ⟨s.nextId, root, number.toUInt16⟩
        ({ s with
            entries := (call, .spawning) :: s.entries
            pending := call :: s.pending
            nextId := s.nextId + 1 },
          some (call, s.config.request root call.port))

/-- Removes the entry of a call, and no other. -/
def dropCall (s : Sessions) (call : Call) : Sessions :=
  { s with entries := s.entries.filter (!call.owns ·) }

/-- Ends the launch of a call. A server that was reached is kept, and the call has a session, if the
call's entry is still there; else the server is let go. -/
def endLaunch (s : Sessions) (call : Call) (outcome : Outcome) : Sessions × Option Call :=
  if call ∉ s.pending then (s, none)
  else
    let s := { s with pending := s.pending.erase call }
    if outcome = .reached then
      if s.entries.any call.owns then
        ({ s with
            entries := s.entries.map fun e => if call.owns e then (call, .connected) else e
            running := call :: s.running },
          some call)
      else (s, none)
    else (s.dropCall call, none)

/-- Ends the session of a call: the server is gone and its entry too, if it is still there. -/
def endSession (s : Sessions) (call : Call) : Sessions :=
  if call ∈ s.running then { s.dropCall call with running := s.running.erase call } else s

/-- Sets the open folders. Their sessions stay. -/
def setFolders (s : Sessions) (folders : List Uri) : Sessions :=
  { s with folders := .ofList folders }

/-- Opens a folder. -/
def addFolder (s : Sessions) (folder : Uri) : Sessions := { s with folders := s.folders.add folder }

/-- Closes a folder and drops its entry. -/
def removeFolder (s : Sessions) (folder : Uri) : Sessions :=
  { s with
    folders := s.folders.remove folder
    entries := s.entries.filter (·.1.root ≠ .ofFolder folder) }

/-- Drops all entries. -/
def shutdown (s : Sessions) : Sessions := { s with entries := [] }

/-- Something that happens to the sessions of a workspace. -/
inductive Event where
  | openDocument (document : Uri)
  | endLaunch (call : Call) (outcome : Outcome)
  | endSession (call : Call)
  | setFolders (folders : List Uri)
  | addFolder (folder : Uri)
  | removeFolder (folder : Uri)
  | shutdown
deriving DecidableEq, Repr

/-- What an event gives. -/
inductive Effect where
  | nothing
  | launch (call : Call) (request : Request)
  | opened (call : Call)
deriving DecidableEq, Repr

/-- The effect of one event. -/
def step (s : Sessions) : Event → Sessions × Effect
  | .openDocument document =>
    match s.openDocument document with
    | (s, some (call, request)) => (s, .launch call request)
    | (s, none) => (s, .nothing)
  | .endLaunch call outcome =>
    match s.endLaunch call outcome with
    | (s, some call) => (s, .opened call)
    | (s, none) => (s, .nothing)
  | .endSession call => (s.endSession call, .nothing)
  | .setFolders folders => (s.setFolders folders, .nothing)
  | .addFolder folder => (s.addFolder folder, .nothing)
  | .removeFolder folder => (s.removeFolder folder, .nothing)
  | .shutdown => (s.shutdown, .nothing)

/-- The state after a list of events. -/
def run (s : Sessions) (events : List Event) : Sessions := events.foldl (fun s e => (s.step e).1) s

@[simp] theorem run_nil (s : Sessions) : s.run [] = s := rfl

@[simp] theorem run_cons (s : Sessions) (e : Event) (events : List Event) :
    s.run (e :: events) = (s.step e).1.run events := rfl

theorem run_append (s : Sessions) (a b : List Event) : s.run (a ++ b) = (s.run a).run b :=
  List.foldl_append

end Sessions

end EditorBridge.Session
