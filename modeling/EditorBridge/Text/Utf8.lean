/-!
# UTF-8

Bytes of a text, and the characters of a byte sequence. Decoding marks each maximal run of bytes
that begins a character and cannot go on as one `none`.
-/

namespace EditorBridge.Text.Utf8

/-- The bytes of a text. -/
def encode (cs : List Char) : List UInt8 := cs.flatMap String.utf8EncodeChar

/-- A character of which some bytes have been read: how many more are owed, the range in which the
next byte must lie, and the bits read so far. -/
structure Pending where
  owed : Nat
  low : Nat
  high : Nat
  bits : Nat
deriving DecidableEq, Repr

/-- What a byte between two characters gives: characters read, and a character begun. -/
def begin (b : UInt8) : List (Option Char) × Option Pending :=
  let n := b.toNat
  if n < 0x80 then ([some (Char.ofNat n)], none)
  else if n < 0xC2 then ([none], none)
  else if n < 0xE0 then ([], some ⟨1, 0x80, 0xBF, n - 0xC0⟩)
  else if n = 0xE0 then ([], some ⟨2, 0xA0, 0xBF, 0⟩)
  else if n = 0xED then ([], some ⟨2, 0x80, 0x9F, 0xD⟩)
  else if n < 0xF0 then ([], some ⟨2, 0x80, 0xBF, n - 0xE0⟩)
  else if n = 0xF0 then ([], some ⟨3, 0x90, 0xBF, 0⟩)
  else if n < 0xF4 then ([], some ⟨3, 0x80, 0xBF, n - 0xF0⟩)
  else if n = 0xF4 then ([], some ⟨3, 0x80, 0x8F, 4⟩)
  else ([none], none)

/-- What the next byte gives. A byte that cannot continue a begun character ends it and begins
anew. -/
def step : Option Pending → UInt8 → List (Option Char) × Option Pending
  | none, b => begin b
  | some p, b =>
    if p.low ≤ b.toNat ∧ b.toNat ≤ p.high then
      let bits := p.bits * 64 + b.toNat % 64
      if p.owed ≤ 1 then ([some (Char.ofNat bits)], none)
      else ([], some ⟨p.owed - 1, 0x80, 0xBF, bits⟩)
    else
      let (out, next) := begin b
      (none :: out, next)

/-- Decodes the rest of a byte sequence, in the middle of a character if one is pending. -/
def decodeFrom : Option Pending → List UInt8 → List (Option Char)
  | none, [] => []
  | some _, [] => [none]
  | p, b :: bs => (step p b).1 ++ decodeFrom (step p b).2 bs

/-- The characters of a byte sequence, with `none` for each run of bytes that is no character. -/
def decode (bs : List UInt8) : List (Option Char) := decodeFrom none bs

/-- The text a byte sequence encodes, if it encodes one. -/
def decode? (bs : List UInt8) : Option (List Char) := (decode bs).mapM id

/-- The replacement character, shown for bytes that are no character. -/
def replacement : Char := Char.ofNat 0xFFFD

/-- The text of a byte sequence, with the replacement character for what is no character. -/
def decodeLossy (bs : List UInt8) : List Char := (decode bs).map (·.getD replacement)

@[simp] theorem encode_nil : encode [] = [] := rfl

@[simp] theorem encode_cons (c : Char) (cs : List Char) :
    encode (c :: cs) = String.utf8EncodeChar c ++ encode cs := rfl

@[simp] theorem encode_append (cs ds : List Char) : encode (cs ++ ds) = encode cs ++ encode ds := by
  simp [encode]

end EditorBridge.Text.Utf8
