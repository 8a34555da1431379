/-!
# Failures of processes

Why a command or a server did not run, and the texts that say so.
-/

namespace EditorBridge

/-- The digits of a number below 1000 as a fraction, without zeros at the end. -/
def fractionText (n : Nat) : String :=
  let digits := Nat.toDigits 10 (1000 + n) |>.drop 1
  match (digits.reverse.dropWhile (· = '0')).reverse with
  | [] => ""
  | digits => String.ofList ('.' :: digits)

/-- The text of a duration in milliseconds, in the largest unit that it fills. -/
def durationText (milliseconds : Nat) : String :=
  if milliseconds = 0 then "0ns"
  else if milliseconds < 1000 then toString milliseconds ++ "ms"
  else toString (milliseconds / 1000) ++ fractionText (milliseconds % 1000) ++ "s"

/-- Why a command gave no output. -/
inductive CommandFailure where
  | spawn (program cause : String)
  | wait (program cause : String)
deriving DecidableEq, Repr

/-- The text of a command's failure. -/
def CommandFailure.message : CommandFailure → String
  | .spawn program cause => "Failed to spawn " ++ program ++ ": " ++ cause
  | .wait program cause => "Failed to wait for " ++ program ++ ": " ++ cause

/-- Why a server was not reached. -/
inductive LaunchFailure where
  | spawn (command root cause : String)
  | connect (port : Nat) (cause : String)
  | exited (root status : String)
  | timeout (port milliseconds : Nat)
deriving DecidableEq, Repr

/-- The text of a server's failure. -/
def LaunchFailure.message : LaunchFailure → String
  | .spawn command root cause => "Failed to spawn " ++ command ++ " for " ++ root ++ ": " ++ cause
  | .connect port cause => "Failed to connect to port " ++ toString port ++ ": " ++ cause
  | .exited root status =>
    "Server for " ++ root ++ " exited before accepting a connection (" ++ status ++ ")"
  | .timeout port milliseconds =>
    "No connection on port " ++ toString port ++ " within " ++ durationText milliseconds

end EditorBridge
