import EditorBridge.Json.Basic
import EditorBridge.Number.Shortest

/-!
# Writing JSON

Compact JSON text. Numbers have the fewest digits that read back; strings escape the quote, the
backslash and control characters only.
-/

namespace EditorBridge

namespace Quoted

/-- A lower-case hexadecimal digit. -/
def hexDigit (n : Nat) : Char := Nat.digitChar n

/-- A character as it is written between quotes. -/
def writeChar (c : Char) : List Char :=
  match c with
  | '"' => ['\\', '"']
  | '\\' => ['\\', '\\']
  | '\x08' => ['\\', 'b']
  | '\x0c' => ['\\', 'f']
  | '\n' => ['\\', 'n']
  | '\r' => ['\\', 'r']
  | '\t' => ['\\', 't']
  | c =>
    if c < ' ' then ['\\', 'u', '0', '0', hexDigit (c.toNat / 16), hexDigit (c.toNat % 16)]
    else [c]

/-- A text between quotes. -/
def write (cs : List Char) : List Char := '"' :: cs.flatMap writeChar ++ ['"']

end Quoted

/-- Numbers from `10^-5` up to below `10^16` are written positionally. -/
def Number.layout : Layout := ⟨-5, 15⟩

/-- The text of a number. -/
def Number.write : Number → List Char
  | .int (.ofNat n) => Decimal.digitChars n
  | .int (.negSucc n) => '-' :: Decimal.digitChars (n + 1)
  | .float x => x.write Number.layout

namespace Json

/-- The texts in order with commas between them. -/
def commaSeparated : List (List Char) → List Char
  | [] => []
  | [t] => t
  | t :: rest => t ++ ',' :: commaSeparated rest

mutual

/-- The compact text of a value. -/
def write : Json → List Char
  | .null => ['n', 'u', 'l', 'l']
  | .bool true => ['t', 'r', 'u', 'e']
  | .bool false => ['f', 'a', 'l', 's', 'e']
  | .number n => n.write
  | .string s => Quoted.write s.toList
  | .array elements => '[' :: commaSeparated (writeAll elements) ++ [']']
  | .object members => '{' :: commaSeparated (writeMembers members) ++ ['}']
termination_by structural v => v

/-- The texts of elements. -/
def writeAll : List Json → List (List Char)
  | [] => []
  | v :: rest => write v :: writeAll rest
termination_by structural vs => vs

/-- The texts of members. -/
def writeMembers : List (String × Json) → List (List Char)
  | [] => []
  | (name, v) :: rest => (Quoted.write name.toList ++ ':' :: write v) :: writeMembers rest
termination_by structural ms => ms

end

/-- The compact text of a value. -/
def text (v : Json) : String := String.ofList v.write

end Json

end EditorBridge
