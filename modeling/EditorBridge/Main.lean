import EditorBridge.Json.Reader
import EditorBridge.Machine
import EditorBridge.Server.Frame

/-!
# The program

Serves one editor over the standard streams. Commands run on a machine that knows a few programs of
its own.
-/

namespace EditorBridge

/-- The streams of the program, and what it has to remember about them. -/
structure Wire where
  input : IO.FS.Stream
  output : IO.FS.Stream
  /-- Messages that came while the program waited for an answer. -/
  early : IO.Ref (List Json)
  nextId : IO.Ref Nat

namespace Wire

/-- Reads header lines, and the length they give. -/
partial def header (w : Wire) (length : Option Nat) : IO (Option Nat) := do
  let line ← w.input.getLine
  if line.isEmpty then return none
  let line := Text.trim line.toList
  if line.isEmpty then return length
  w.header ((Frame.length? line).or length)

/-- Reads a number of bytes. -/
partial def content (w : Wire) (length : Nat) (read : ByteArray) : IO ByteArray := do
  if length ≤ read.size then return read
  let more ← w.input.read (USize.ofNat (length - read.size))
  if more.isEmpty then return read
  w.content length (read ++ more)

/-- Reads the next message. There is none at the end of the input; what is no JSON is null. -/
def receive (w : Wire) : IO (Option Json) := do
  match ← w.header none with
  | none => return none
  | some length =>
    let bytes ← w.content length .empty
    return some ((Reader.text Tree.toJson (Text.Utf8.decodeLossy bytes.toList)).toOption.getD .null)

/-- Writes a message. -/
def send (w : Wire) (value : Json) : IO Unit := do
  w.output.putStr (Frame.encode value)
  w.output.flush

/-- The number of the next question. -/
def freshId (w : Wire) : IO Nat := w.nextId.modifyGet fun n => (n, n + 1)

/-- Waits for the answer to a question. Other messages are kept for later. -/
partial def await (w : Wire) (id : Nat) : IO (Option (List Json)) := do
  match ← w.receive with
  | none => return none
  | some value =>
    match Frame.answer? id value with
    | some values => return values
    | none =>
      w.early.modify (· ++ [value])
      w.await id

/-- The next message to handle. -/
def next (w : Wire) : IO (Option Json) := do
  match ← w.early.get with
  | value :: rest =>
    w.early.set rest
    return some value
  | [] => w.receive

end Wire

/-- Does a job over the wire. -/
def Job.work {α : Type} (w : Wire) (m : Machine) : Job α → Server → IO (α × Server)
  | .done a, s => return (a, s)
  | .look next, s => work w m (next s) s
  | .change f next, s => work w m next (f s)
  | .tell notice next, s => do
    let id ← match notice with
      | .watchSettings => some <$> w.freshId
      | _ => pure none
    w.send (Frame.ofOutgoing id notice.outgoing)
    work w m next s
  | .ask scope next, s => do
    let id ← w.freshId
    w.send (Frame.ofOutgoing (some id) (.settingsQuestion scope))
    work w m (next (← w.await id)) s
  | .run command next, s => work w m (next (m.output command)) s

/-- Handles messages until the editor ends the conversation. -/
partial def serve (w : Wire) (m : Machine) (s : Server) : IO Unit := do
  match ← w.next with
  | none => return
  | some value =>
    match Frame.envelope? value with
    | none => serve w m s
    | some (id, envelope) =>
      let (reply, s) ← (Server.respond (.inOrder m.files ".".toList) envelope).work w m s
      match id.bind (Frame.ofReply? · reply) with
      | some answer => w.send answer
      | none => pure ()
      if s.phase ≠ .exited then serve w m s

end EditorBridge

open EditorBridge in
/-- Serves an editor, or says what the program is. -/
def main (args : List String) : IO UInt32 := do
  match args with
  | [] =>
    let w : Wire := ⟨← IO.getStdin, ← IO.getStdout, ← IO.mkRef [], ← IO.mkRef 0⟩
    serve w ⟨.ofFiles ['/'] [], fun _ => .error "Network is unreachable (os error 101)"⟩ {}
    return 0
  | ["--version"] | ["-V"] =>
    IO.println "das-lsp 0.1.0"
    return 0
  | _ =>
    IO.eprintln "Usage: das-lsp"
    return 2
