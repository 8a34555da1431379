import EditorBridge.Json.Fault
import EditorBridge.Text.Utf8

/-!
# Quoted text

JSON strings after their opening quote. `Quoted.read` gives the text they stand for and refuses
surrogates that do not form a pair; `Quoted.skip` only finds the closing quote.
-/

namespace EditorBridge.Quoted

/-- The value of a hexadecimal digit. -/
def hexValue? (c : Char) : Option Nat :=
  if '0' ≤ c ∧ c ≤ '9' then some (c.toNat - '0'.toNat)
  else if 'a' ≤ c ∧ c ≤ 'f' then some (c.toNat - 'a'.toNat + 10)
  else if 'A' ≤ c ∧ c ≤ 'F' then some (c.toNat - 'A'.toNat + 10)
  else none

/-- The value of four hexadecimal digits. -/
def unit? (a b c d : Char) : Option Nat := do
  return ((← hexValue? a) * 4096 + (← hexValue? b) * 256 + (← hexValue? c) * 16 + (← hexValue? d))

/-- The fault of a text too short for four hexadecimal digits, by its number of bytes. -/
def unitFault (cs : List Char) : Fault :=
  if (Text.Utf8.encode cs).length < 4 then .ended else .malformed

/-- The character that a backslash and one letter stand for. -/
def escape? : Char → Option Char
  | '"' => some '"'
  | '\\' => some '\\'
  | '/' => some '/'
  | 'b' => some '\x08'
  | 'f' => some '\x0c'
  | 'n' => some '\n'
  | 'r' => some '\r'
  | 't' => some '\t'
  | _ => none

/-- Whether a code unit is the first of a surrogate pair. -/
def isHigh (n : Nat) : Bool := 0xD800 ≤ n && n ≤ 0xDBFF

/-- Whether a code unit is the second of a surrogate pair. -/
def isLow (n : Nat) : Bool := 0xDC00 ≤ n && n ≤ 0xDFFF

/-- The character of a surrogate pair. -/
def pair (high low : Nat) : Char := Char.ofNat (0x10000 + (high - 0xD800) * 0x400 + (low - 0xDC00))

/-- The text after the closing quote. -/
def skip : List Char → Except Fault (List Char)
  | [] => .error .ended
  | '"' :: rest => .ok rest
  | '\\' :: 'u' :: a :: b :: c :: d :: rest =>
    if (unit? a b c d).isSome then skip rest else .error .malformed
  | '\\' :: 'u' :: rest => .error (unitFault rest)
  | '\\' :: c :: rest => if (escape? c).isSome then skip rest else .error .malformed
  | '\\' :: [] => .error .ended
  | c :: rest => if c < ' ' then .error .malformed else skip rest
termination_by structural cs => cs

/-- The characters up to the closing quote. -/
def read : List Char → Except Fault (List Char)
  | [] => .error .ended
  | '"' :: _ => .ok []
  | '\\' :: 'u' :: a :: b :: c :: d :: rest =>
    match unit? a b c d with
    | none => .error .malformed
    | some n =>
      if isLow n then .error .malformed
      else if isHigh n then
        match rest with
        | '\\' :: 'u' :: e :: f :: g :: h :: rest =>
          match unit? e f g h with
          | none => .error .malformed
          | some m => if isLow m then (pair n m :: ·) <$> read rest else .error .malformed
        | '\\' :: 'u' :: rest => .error (unitFault rest)
        | '\\' :: [] => .error .ended
        | [] => .error .ended
        | _ => .error .malformed
      else (Char.ofNat n :: ·) <$> read rest
  | '\\' :: 'u' :: rest => .error (unitFault rest)
  | '\\' :: c :: rest =>
    match escape? c with
    | none => .error .malformed
    | some e => (e :: ·) <$> read rest
  | '\\' :: [] => .error .ended
  | c :: rest => if c < ' ' then .error .malformed else (c :: ·) <$> read rest
termination_by structural cs => cs

theorem length_lt_of_skip {cs rest : List Char} (h : skip cs = .ok rest) :
    rest.length < cs.length := by
  fun_induction skip cs <;> simp_all <;> omega

end EditorBridge.Quoted
