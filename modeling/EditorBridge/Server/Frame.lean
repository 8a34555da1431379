import EditorBridge.Json.Writer
import EditorBridge.Server.Dispatch
import EditorBridge.Text.Blank
import EditorBridge.Text.Digit

/-!
# Frames

The form in which messages travel: header lines that give the length of the content, a blank line,
and the content as JSON.
-/

namespace EditorBridge.Frame

/-- The length that a header line gives for the content. -/
def length? (line : List Char) : Option Nat := do
  let (name, value) := line.span (· ≠ ':')
  if name.map Char.toLower = "content-length".toList then
    Text.boundedNat? 2147483648 (Text.trim (value.drop 1))
  else none

/-- A message with its header lines. -/
def encode (value : Json) : String :=
  let content := value.text
  "Content-Length: " ++ toString content.utf8ByteSize ++ "\r\n\r\n" ++ content

/-- The version of the protocol below. -/
def version : String × Json := ("jsonrpc", .string "2.0")

/-- The message of a notification or, with a number, of a request. -/
def ofOutgoing (id : Option Nat) (o : Outgoing) : Json :=
  .ofPresent [("jsonrpc", some version.2), ("id", id.map Json.nat),
    ("method", some (.string o.method)), ("params", some o.params)]

/-- The text of a refusal. -/
def refusalText : Refusal → String
  | .notInitialized => "Server not initialized"
  | .invalidRequest => "Invalid request"
  | .methodNotFound => "Method not found"
  | .invalidParams => "Invalid params"

/-- The message of a reply. -/
def ofReply? (id : Json) : Reply → Option Json
  | .result value => some (.ofMembers [version, ("id", id), ("result", value)])
  | .refused cause =>
    some (.ofMembers [version, ("id", id), ("error", .ofMembers
      [("code", .int cause.code), ("message", .string (refusalText cause))])])
  | _ => none

/-- The message that came, with the number under which it waits for a reply. -/
def envelope? (value : Json) : Option (Option Json × Envelope) :=
  match value.member? "method" with
  | some (.string method) =>
    let id := value.member? "id"
    some (id, ⟨method, value.member? "params", id.isSome⟩)
  | _ => none

/-- The values that come as the answer to a question with a number. -/
def answer? (id : Nat) (value : Json) : Option (Option (List Json)) :=
  match value.member? "method", value.member? "id" with
  | none, some (.number (.int n)) =>
    if n = id then
      match value.member? "result" with
      | some (.array values) => some (some values)
      | _ => some none
    else none
  | _, _ => none

end EditorBridge.Frame
