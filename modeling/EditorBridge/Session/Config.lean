import EditorBridge.Path

/-!
# Session configuration

How the servers of a workspace's sessions are started.
-/

namespace EditorBridge.Session

/-- How servers are started. Ports and processes are those of one machine. -/
structure Config where
  /-- The program of a server. -/
  command : String
  /-- The template of its arguments. -/
  args : List String
  /-- The directory of the server for documents that are not saved. -/
  directory : Option String
  /-- The port of that server; the ports of folders are counted from it. -/
  basePort : UInt16
  /-- Whether servers are started; else they are already there. -/
  spawn : Bool
  /-- How long a server may take to answer, in milliseconds. -/
  timeout : Nat
deriving DecidableEq, Repr, Inhabited

namespace Config

/-- The largest number of a port. -/
def maxPort : UInt32 := 65535

/-- The place of a port in a template. -/
def portPlace : List Char := "$\x7bport\x7d".toList

/-- A configuration that starts servers and waits for them for four seconds. -/
def ofCommand (command : String) (args : List String) (basePort : UInt16) : Config :=
  ⟨command, args, none, basePort, true, 4000⟩

/-- Sets the port for debugging: a positive port is where servers are started, a negative one where
they already are; zero changes nothing. -/
def withDebugPort (c : Config) (port : Int) : Config :=
  if port = 0 then c
  else { c with spawn := 0 < port, basePort := .ofNat (min port.natAbs maxPort.toNat) }

end Config

end EditorBridge.Session
