import EditorBridge.Json.Token

/-!
# JSON text as a tree with faults

Every text has a tree. Where the text stops being JSON the tree has a fault, and nothing follows it;
a reader that walks the tree from the left meets the faults in the order of the text. Arrays and
objects nested more than `maxNesting` deep are marked, since only readers that skip a value may pass
them.
-/

namespace EditorBridge

/-- The tree of a JSON text, up to its first fault. -/
inductive Tree where
  /-- No value can be read here. -/
  | fault (cause : Fault)
  | null
  | bool (value : Bool)
  | number (value : Except Fault Number)
  | string (value : Except Fault String)
  /-- The elements, then the fault that stands in place of the closing bracket, if any. -/
  | array (deep : Bool) (elements : List Tree) (stop : Option Fault)
  /-- The members, then the fault that stands in place of the closing brace, if any. -/
  | object (deep : Bool) (members : List (Except Fault String × Tree)) (stop : Option Fault)

namespace Tree

/-- How deep arrays and objects may be nested. -/
def maxNesting : Nat := 127

/-- The name of a member, or why it cannot be read. -/
abbrev Key := Except Fault String

/-- An array or object that is still open, with its parts so far from the last to the first. An
object in which a member has been begun has that member's name. -/
inductive Frame where
  | array (elements : List Tree)
  | object (members : List (Key × Tree)) (key : Option Key)

/-- What the innermost open array or object, or the start of the text, calls for next. -/
inductive Mode where
  /-- A value. -/
  | value
  /-- A value, or the end of an array without elements. -/
  | firstElement
  /-- A name, or the end of an object without members. -/
  | firstKey
  /-- A name. -/
  | key
  /-- The colon after a name. -/
  | colon
  /-- A comma or the end. -/
  | next
deriving DecidableEq, Repr

/-- How far the reading of a text has come. -/
inductive State where
  /-- Inside the given open arrays and objects, innermost first. -/
  | inside (stack : List Frame) (mode : Mode)
  /-- The value is complete. -/
  | done (root : Tree)
  /-- Something follows the complete value. -/
  | trailing (root : Tree)
  /-- A fault has been met. -/
  | failed (root : Tree)

/-- Closes an open array or object, properly or by a fault. `depth` counts the ones around it. -/
def Frame.close (depth : Nat) (stop : Option Fault) : Frame → Tree
  | .array elements => .array (maxNesting ≤ depth) elements.reverse stop
  | .object members none => .object (maxNesting ≤ depth) members.reverse stop
  | .object members (some key) =>
    .object (maxNesting ≤ depth) ((key, .fault (stop.getD .malformed)) :: members).reverse stop

/-- Adds a finished value to an open array or object. -/
def Frame.add (value : Tree) : Frame → Frame
  | .array elements => .array (value :: elements)
  | .object members none => .object members none
  | .object members (some key) => .object ((key, value) :: members) none

/-- Goes on after a finished value. -/
def State.put (value : Tree) : List Frame → State
  | [] => .done value
  | frame :: stack => .inside (frame.add value :: stack) .next

/-- Closes all open arrays and objects by a fault around an unfinished value. -/
def unwind (cause : Fault) : List Frame → Tree → Tree
  | [], value => value
  | frame :: stack, value => unwind cause stack ((frame.add value).close stack.length (some cause))

/-- Stops at a fault in the place of a value. -/
def State.failValue (cause : Fault) (stack : List Frame) : State :=
  .failed (unwind cause stack (.fault cause))

/-- Stops at a fault inside the innermost open array or object, or at the start of the text. -/
def State.failInside (cause : Fault) : List Frame → State
  | [] => .failed (.fault cause)
  | frame :: stack => .failed (unwind cause stack (frame.close stack.length (some cause)))

/-- Reads a token where a value is called for. -/
def stepValue (stack : List Frame) : Token → State
  | .leftBrace => .inside (.object [] none :: stack) .firstKey
  | .leftBracket => .inside (.array [] :: stack) .firstElement
  | .null => .put .null stack
  | .bool b => .put (.bool b) stack
  | .number n => .put (.number n) stack
  | .string s => .put (.string s) stack
  | .fault cause => .failValue cause stack
  | _ => .failValue .malformed stack

/-- Closes the innermost open array or object. -/
def State.close : List Frame → State
  | [] => .failed (.fault .malformed)
  | frame :: stack => .put (frame.close stack.length none) stack

/-- Begins a member of the innermost open object. -/
def State.beginMember (key : Key) : List Frame → State
  | .object members _ :: stack => .inside (.object members (some key) :: stack) .colon
  | stack => .failInside .malformed stack

/-- Reads a token after a finished part of the innermost open array or object. -/
def stepNext : List Frame → Token → State
  | .array elements :: stack, .comma => .inside (.array elements :: stack) .value
  | .object members key :: stack, .comma => .inside (.object members key :: stack) .key
  | .array elements :: stack, .rightBracket => .close (.array elements :: stack)
  | .object members key :: stack, .rightBrace => .close (.object members key :: stack)
  | stack, _ => .failInside .malformed stack

/-- Reads one token. -/
def step : State → Token → State
  | .inside stack .value, token => stepValue stack token
  | .inside stack .firstElement, .rightBracket => .close stack
  | .inside stack .firstElement, token => stepValue stack token
  | .inside stack .firstKey, .rightBrace => .close stack
  | .inside stack .firstKey, .string key => .beginMember key stack
  | .inside stack .key, .string key => .beginMember key stack
  | .inside stack .colon, .colon => .inside stack .value
  | .inside stack .next, token => stepNext stack token
  | .inside stack _, _ => .failInside .malformed stack
  | .done root, _ => .trailing root
  | state, _ => state

/-- The state before the first token. -/
def State.start : State := .inside [] .value

end Tree

/-- A text as a tree, and whether something follows the value. -/
structure Document where
  root : Tree
  trailing : Bool

/-- The document at the end of the text. A value still called for is missing; an array or object
still open has no end. -/
def Tree.State.finish : Tree.State → Document
  | .inside stack .value => ⟨unwind .ended stack (.fault .ended), false⟩
  | .inside [] _ => ⟨.fault .ended, false⟩
  | .inside (frame :: stack) _ =>
    ⟨unwind .ended stack (frame.close stack.length (some .ended)), false⟩
  | .done root => ⟨root, false⟩
  | .trailing root => ⟨root, true⟩
  | .failed root => ⟨root, false⟩

/-- The document of a text. -/
def Document.ofText (cs : List Char) : Document := ((tokens cs).foldl Tree.step .start).finish

end EditorBridge
