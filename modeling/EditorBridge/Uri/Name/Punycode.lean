/-!
# Labels in ASCII

Every label of a host name can be written in ASCII: its ASCII characters come first, and then, in
ascending order, where the others have to be put in. Each of these is a distance from the one
before, a number of digits that ends with the first digit below a threshold; the thresholds follow
the numbers met so far.
-/

namespace EditorBridge.Uri.Punycode

/-- How many digits there are. -/
def base : Nat := 36

/-- The digit with a value: a letter, or a decimal digit from 26 on. -/
def digit (value : Nat) : Char := if value < 26 then .ofNat (97 + value) else .ofNat (22 + value)

/-- The value of a digit. -/
def value? (c : Char) : Option Nat :=
  if 'a' ≤ c ∧ c ≤ 'z' then some (c.toNat - 97)
  else if 'A' ≤ c ∧ c ≤ 'Z' then some (c.toNat - 65)
  else if '0' ≤ c ∧ c ≤ '9' then some (c.toNat - 22)
  else none

/-- The threshold at a place, which is a multiple of the base. -/
def threshold (bias place : Nat) : Nat := max 1 (min 26 (place - bias))

theorem one_le_threshold (bias place : Nat) : 1 ≤ threshold bias place := Nat.le_max_left ..

/-- Divides a distance until it is small, and counts by places. -/
def settle (delta place : Nat) : Nat :=
  if delta ≤ 455 then place + 36 * delta / (delta + 38) else settle (delta / 35) (place + base)
termination_by delta
decreasing_by exact Nat.div_lt_self (by omega) (by decide)

/-- The bias after a distance, of which the first counts less, in a text of `count` characters. -/
def adapt (delta count : Nat) (first : Bool) : Nat :=
  let delta := if first then delta / 700 else delta / 2
  settle (delta + delta / count) 0

/-- The digits of a distance. -/
def digits (bias place delta : Nat) : List Char :=
  let t := threshold bias place
  if delta < t then [digit delta]
  else digit (t + (delta - t) % (base - t)) :: digits bias (place + base) ((delta - t) / (base - t))
termination_by delta
decreasing_by
  have := one_le_threshold bias place
  exact Nat.lt_of_le_of_lt (Nat.div_le_self ..) (by omega)

/-- A label that is being written: the digits so far, the distance from the last character, the
bias, and the number of characters that are written. -/
structure Encoding where
  out : List Char
  delta : Nat
  bias : Nat
  count : Nat
deriving Repr, Inhabited

/-- Passes a character of the label while those with code point `n` are written, after `ascii`
others. -/
def Encoding.pass (ascii n : Nat) (s : Encoding) (c : Char) : Encoding :=
  if c.toNat < n then { s with delta := s.delta + 1 }
  else if c.toNat = n then
    ⟨s.out ++ digits s.bias base s.delta, 0, adapt s.delta (s.count + 1) (s.count = ascii),
      s.count + 1⟩
  else s

/-- Puts a number into an ascending list, once. -/
def insertOnce (n : Nat) : List Nat → List Nat
  | [] => [n]
  | m :: rest =>
    if n < m then n :: m :: rest else if n = m then m :: rest else m :: insertOnce n rest

/-- Writes the characters with the code points `points`, which are above `last`. -/
def Encoding.write (label : List Char) (ascii : Nat) :
    (points : List Nat) → (last : Nat) → Encoding → Encoding
  | [], _, s => s
  | n :: rest, last, s =>
    let s := label.foldl (pass ascii n) { s with delta := s.delta + (n - last) * (s.count + 1) }
    write label ascii rest (n + 1) { s with delta := s.delta + 1 }

/-- The label in ASCII. -/
def encode (label : List Char) : List Char :=
  let ascii := label.filter (·.toNat < 0x80)
  let points := (label.filter (0x80 ≤ ·.toNat)).foldl (fun points c => insertOnce c.toNat points) []
  ascii ++ (if ascii = [] then [] else ['-']) ++
    (Encoding.write label ascii.length points 0x80 ⟨[], 0, 72, ascii.length⟩).out

/-- A label that is being read: its characters so far, the last code point put in, and the number
that is being read with the weight and the place of its next digit. -/
structure Decoding where
  out : List Char
  point : Nat := 0x80
  bias : Nat := 72
  /-- The number before its first digit. -/
  start : Nat := 0
  number : Nat := 0
  weight : Nat := 1
  place : Nat := base
deriving Repr, Inhabited

/-- Reads a digit. The last digit of a number puts a character in. -/
def Decoding.step? (s : Decoding) (c : Char) : Option Decoding := do
  let value ← value? c
  let t := threshold s.bias s.place
  let number := s.number + value * s.weight
  if t ≤ value then
    return { s with number := number, weight := s.weight * (base - t), place := s.place + base }
  else
    let count := s.out.length + 1
    let point := s.point + number / count
    let index := number % count
    if point.isValidChar then
      return {
        out := s.out.insertIdx index (.ofNat point)
        point := point
        bias := adapt (number - s.start) count (s.start = 0)
        start := index + 1
        number := index + 1 }
    else none

/-- Divides a text at its last hyphen into the ASCII characters of the label and the digits. A
hyphen with nothing before it does not divide, and stays with the digits. -/
def divide (text : List Char) : List Char × List Char :=
  let reversed := text.reverse
  let ascii := ((reversed.dropWhile (· ≠ '-')).drop 1).reverse
  if ascii = [] then ([], text) else (ascii, (reversed.takeWhile (· ≠ '-')).reverse)

/-- The label that a text in ASCII stands for. -/
def decode? (text : List Char) : Option (List Char) := do
  let (ascii, code) := divide text
  if ascii.any (0x80 ≤ ·.toNat) then none
  let s ← code.foldlM Decoding.step? { out := ascii }
  if s.place = base then some s.out else none

end EditorBridge.Uri.Punycode
