import EditorBridge.Json.Basic
import EditorBridge.Json.Fault
import EditorBridge.Text.Digit

/-!
# Numerals

The text of JSON numbers and the numbers they stand for.
-/

namespace EditorBridge

/-- The parts of a numeral: sign, whole digits, digits after the point, sign and digits of the
exponent. -/
structure Numeral where
  negative : Bool
  whole : List Char
  fraction : Option (List Char)
  exponent : Option (Bool × List Char)
deriving DecidableEq, Repr

namespace Numeral

/-- The fault of a text that should go on with a digit. -/
def digitFault : List Char → Fault
  | [] => .ended
  | _ => .malformed

/-- Reads the digits before the point. A zero is not followed by another digit. -/
def readWhole : List Char → Except Fault (List Char × List Char)
  | '0' :: rest =>
    if (rest.head?.map Char.isDigit).getD false then .error .malformed else .ok (['0'], rest)
  | cs =>
    match cs.takeWhile Char.isDigit with
    | [] => .error (digitFault cs)
    | digits => .ok (digits, cs.dropWhile Char.isDigit)

/-- Reads a point and the digits after it, if there is a point. -/
def readFraction : List Char → Except Fault (Option (List Char) × List Char)
  | '.' :: rest =>
    match rest.takeWhile Char.isDigit with
    | [] => .error (digitFault rest)
    | digits => .ok (some digits, rest.dropWhile Char.isDigit)
  | cs => .ok (none, cs)

/-- Reads the digits of an exponent. -/
def readExponentDigits (negative : Bool) (cs : List Char) :
    Except Fault (Option (Bool × List Char) × List Char) :=
  match cs.takeWhile Char.isDigit with
  | [] => .error (digitFault cs)
  | digits => .ok (some (negative, digits), cs.dropWhile Char.isDigit)

/-- Reads an exponent part, if there is one. -/
def readExponent : List Char → Except Fault (Option (Bool × List Char) × List Char)
  | c :: rest =>
    if c = 'e' ∨ c = 'E' then
      match rest with
      | '+' :: rest => readExponentDigits false rest
      | '-' :: rest => readExponentDigits true rest
      | rest => readExponentDigits false rest
    else .ok (none, c :: rest)
  | [] => .ok (none, [])

/-- Reads what follows the sign of a numeral. -/
def readUnsigned (negative : Bool) (cs : List Char) : Except Fault (Numeral × List Char) := do
  let (whole, cs) ← readWhole cs
  let (fraction, cs) ← readFraction cs
  let (exponent, cs) ← readExponent cs
  return (⟨negative, whole, fraction, exponent⟩, cs)

/-- Reads the numeral at the start of a text. -/
def read : List Char → Except Fault (Numeral × List Char)
  | '-' :: rest => readUnsigned true rest
  | cs => readUnsigned false cs

/-- The largest number of 64 bits. -/
def maxUnsigned : Nat := 18446744073709551615

/-- Takes digits into a number of 64 bits as long as they fit; returns it with the digits left
over. -/
def takeDigits : (value : Nat) → List Char → Nat × List Char
  | value, [] => (value, [])
  | value, c :: cs =>
    let next := value * 10 + (c.toNat - '0'.toNat)
    if next ≤ maxUnsigned then takeDigits next cs else (value, c :: cs)

/-- The power of ten in the exponent part. -/
def exponentValue (n : Numeral) : Int :=
  match n.exponent with
  | none => 0
  | some (negative, digits) =>
    if negative then -(Text.digitsValue digits : Int) else Text.digitsValue digits

/-- The nearest binary64 number by the first digits that fit 64 bits, unless it is too large. -/
def toDouble? (n : Numeral) : Option Double :=
  let (value, left) := takeDigits 0 n.whole
  let fraction := n.fraction.getD []
  let (value, unread) := takeDigits value fraction
  let scale : Int := left.length - (fraction.length - unread.length : Nat)
  (Magnitude.ofDecimal? value (scale + n.exponentValue)).map (⟨n.negative, ·⟩)

/-- The number a numeral stands for. Without a point and an exponent it is an integer if it fits 64
bits; a negative zero is a binary64 number. Numbers too large for that are refused. -/
def toNumber (n : Numeral) : Except Fault Number :=
  let value := Text.digitsValue n.whole
  let plain := n.fraction = none ∧ n.exponent = none
  if plain ∧ ¬n.negative ∧ value ≤ maxUnsigned then .ok (.int value)
  else if plain ∧ n.negative ∧ 0 < value ∧ value ≤ 9223372036854775808 then .ok (.int (-value))
  else
    match n.toDouble? with
    | some x => .ok (.float x)
    | none => .error .malformed

end Numeral

end EditorBridge
