import EditorBridge.Text.Utf8

/-!
# Percent encoding

Bytes outside a set of plain characters are written as `%` and two hexadecimal digits.
-/

namespace EditorBridge.Percent

/-- An upper-case hexadecimal digit. -/
def hexDigit (n : Nat) : Char := if n < 10 then Char.ofNat (n + 48) else Char.ofNat (n + 55)

/-- The value of a hexadecimal digit given as a byte. -/
def hexValue? (b : UInt8) : Option UInt8 :=
  if 48 ≤ b ∧ b ≤ 57 then some (b - 48)
  else if 65 ≤ b ∧ b ≤ 70 then some (b - 55)
  else if 97 ≤ b ∧ b ≤ 102 then some (b - 87)
  else none

/-- The escape of a byte. -/
def escape (b : UInt8) : List Char := ['%', hexDigit (b.toNat / 16), hexDigit (b.toNat % 16)]

/-- A text with all characters escaped, byte by byte, that are not ASCII or satisfy `special`. -/
def encode (special : Char → Bool) (cs : List Char) : List Char :=
  cs.flatMap fun c =>
    if c.toNat < 0x80 ∧ ¬special c then [c] else (String.utf8EncodeChar c).flatMap escape

/-- Decodes the escapes in a sequence of bytes. A `%` without two hexadecimal digits stays. -/
def decodeBytes : List UInt8 → List UInt8
  | b :: x :: y :: rest =>
    match b == 0x25, hexValue? x, hexValue? y with
    | true, some high, some low => (high * 16 + low) :: decodeBytes rest
    | _, _, _ => b :: decodeBytes (x :: y :: rest)
  | bs => bs
termination_by structural bs => bs

/-- The bytes of a text with its escapes decoded. -/
def decode (cs : List Char) : List UInt8 := decodeBytes (Text.Utf8.encode cs)

/-- Control characters. -/
def isControl (c : Char) : Bool := c.toNat < 0x20 || c.toNat = 0x7F

/-- Escaped in fragments. -/
def inFragment (c : Char) : Bool := isControl c || [' ', '"', '<', '>', '\x60'].contains c

/-- Escaped in paths. -/
def inPath (c : Char) : Bool := inFragment c || ['#', '?', '{', '}'].contains c

/-- Escaped in a path segment that is made from the name of a file. -/
def inSegment (c : Char) : Bool := inPath c || ['/', '%', '\\'].contains c

/-- Escaped in queries. -/
def inQuery (c : Char) : Bool := isControl c || [' ', '"', '#', '<', '>'].contains c

/-- Escaped in user names and passwords. -/
def inUserInfo (c : Char) : Bool :=
  inPath c || ['/', ':', ';', '=', '@', '[', '\\', ']', '^', '|'].contains c

end EditorBridge.Percent
