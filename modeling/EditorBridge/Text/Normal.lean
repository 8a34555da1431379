import EditorBridge.Text.Normal.Table

/-!
# Normal form of texts

Texts that look the same may consist of different characters: a letter with an accent is one
character or two. The normal form takes characters apart, puts the marks of each character into the
order of their classes, and puts together what has a character of its own.
-/

namespace EditorBridge.Text.Normal

/-- The syllables of the Korean script are numbered by their first, middle and last letters. -/
structure Syllable where
  first : Nat
  middle : Nat
  last : Nat
deriving DecidableEq, Repr

namespace Syllable

/-- The letters of a syllable, of which the last may be missing. -/
def letters (s : Syllable) : List Char :=
  .ofNat (0x1100 + s.first) :: .ofNat (0x1161 + s.middle) ::
    (if s.last = 0 then [] else [.ofNat (0x11A7 + s.last)])

/-- The character of a syllable. -/
def char (s : Syllable) : Char := .ofNat (0xAC00 + (s.first * 21 + s.middle) * 28 + s.last)

/-- The syllable of a character. -/
def ofChar? (c : Char) : Option Syllable :=
  let n := c.toNat - 0xAC00
  if 0xAC00 ≤ c.toNat ∧ c.toNat ≤ 0xD7A3 then some ⟨n / 588, n / 28 % 21, n % 28⟩ else none

/-- The syllable of two letters, or of a syllable without a last letter and such a letter. -/
def compose? (a b : Char) : Option Char :=
  if 0x1100 ≤ a.toNat ∧ a.toNat ≤ 0x1112 ∧ 0x1161 ≤ b.toNat ∧ b.toNat ≤ 0x1175 then
    some (char ⟨a.toNat - 0x1100, b.toNat - 0x1161, 0⟩)
  else if 0x11A8 ≤ b.toNat ∧ b.toNat ≤ 0x11C2 then
    ((ofChar? a).filter (·.last = 0)).map fun s => char { s with last := b.toNat - 0x11A7 }
  else none

end Syllable

/-- The characters that a character consists of, at once. -/
def parts? (c : Char) : Option (List Char) :=
  if c.toNat < 0x80 then none
  else
    ((Syllable.ofChar? c).map Syllable.letters).orElse fun _ =>
      (replacements.lookup c).orElse fun _ => (compositions.lookup c).map fun (a, b) => [a, b]

/-- The characters that a character consists of. No character is composed of composed ones more than
`depth` times. -/
def decomposeChar : (depth : Nat) → Char → List Char
  | 0, c => [c]
  | depth + 1, c =>
    match parts? c with
    | none => [c]
    | some parts => parts.flatMap (decomposeChar depth)

/-- Puts a mark after those marks that belong before it. The characters before it come last
first. -/
def place (c : Char) : List Char → List Char
  | [] => [c]
  | d :: before =>
    if 0 < classOf c ∧ classOf c < classOf d then d :: place c before else c :: d :: before

/-- The text with all characters taken apart and all marks in order. -/
def decompose (cs : List Char) : List Char :=
  ((cs.flatMap (decomposeChar 4)).foldl (fun before c => place c before) []).reverse

/-- The character composed of two others. -/
def compose? (a b : Char) : Option Char :=
  (Syllable.compose? a b).orElse fun _ =>
    (compositions.find? fun (_, pair) => pair = (a, b)).map (·.1)

/-- A text that is being put together: what is done, last character first, the character that may
still be composed with others, and the marks after it, last mark first. -/
structure Composing where
  done : List Char := []
  base : Option Char := none
  marks : List Char := []
deriving Repr, Inhabited

namespace Composing

/-- The text so far, last character first. -/
def reversed (s : Composing) : List Char := s.marks ++ s.base.toList ++ s.done

/-- Goes on by a character. It is composed with the base unless a mark of the same or a higher class
stands between. -/
def push (s : Composing) (c : Char) : Composing :=
  let isBlocked := match s.marks with
    | [] => false
    | mark :: _ => classOf c ≤ classOf mark
  match if isBlocked then none else s.base.bind (compose? · c) with
  | some base => { s with base := some base }
  | none => if classOf c = 0 then ⟨s.reversed, some c, []⟩ else { s with marks := c :: s.marks }

end Composing

/-- The text with characters put together. -/
def compose (cs : List Char) : List Char := (cs.foldl Composing.push {}).reversed.reverse

end EditorBridge.Text.Normal

namespace EditorBridge.Text

/-- The normal form of a text. -/
def normal (cs : List Char) : List Char :=
  if cs.all (·.toNat < 0x80) then cs else Normal.compose (Normal.decompose cs)

end EditorBridge.Text
