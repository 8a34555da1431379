import EditorBridge.Proofs.Json.Lexeme

/-!
# The grammar of JSON

The texts of JSON by their phrases, as the format defines them and without regard to how they are
read. Numbers and string literals are free in what they stand for: numbers may be of any size, and
escapes need not form characters.

An object text is enclosed, since each phrase inside of it is steady.
-/

namespace EditorBridge.Grammar

/-- Whether a text is white space. -/
def Gap (cs : List Char) : Prop := ∀ c ∈ cs, Token.isSpace c

/-- Whether a text is one or more digits. -/
def Digits (cs : List Char) : Prop := cs ≠ [] ∧ ∀ c ∈ cs, c.isDigit

/-- The digits before the point, without superfluous zeros. -/
def Whole (cs : List Char) : Prop := Digits cs ∧ (cs.head? = some '0' → cs = ['0'])

/-- A point with the digits after it, if any. -/
def Fraction (cs : List Char) : Prop := cs = [] ∨ ∃ digits, cs = '.' :: digits ∧ Digits digits

/-- An exponent, if any. -/
def Exponent (cs : List Char) : Prop :=
  cs = [] ∨ ∃ e sign digits, cs = e :: sign ++ digits ∧ (e = 'e' ∨ e = 'E') ∧
    (sign = [] ∨ sign = ['+'] ∨ sign = ['-']) ∧ Digits digits

/-- A number. -/
def Number (cs : List Char) : Prop :=
  ∃ sign whole fraction exponent, cs = sign ++ whole ++ fraction ++ exponent ∧
    (sign = [] ∨ sign = ['-']) ∧
    Whole whole ∧ Fraction fraction ∧ Exponent exponent

/-- A hexadecimal digit. -/
def Hex (c : Char) : Prop := ('0' ≤ c ∧ c ≤ '9') ∨ ('a' ≤ c ∧ c ≤ 'f') ∨ ('A' ≤ c ∧ c ≤ 'F')

/-- The kinds of phrases that are made of others. -/
inductive Phrase where
  /-- The characters of a string literal. -/
  | characters
  | literal
  | value
  /-- A value with white space around it. -/
  | element
  /-- One or more elements with commas between them. -/
  | elements
  | member
  /-- One or more members with commas between them. -/
  | members
  | object
deriving DecidableEq, Repr

/-- The texts of each kind of phrase. -/
inductive Derives : Phrase → List Char → Prop where
  | nil : Derives .characters []
  | plain {c : Char} {cs : List Char} (hc : ¬c < ' ') (hq : c ≠ '"') (hb : c ≠ '\\')
      (h : Derives .characters cs) :
      Derives .characters (c :: cs)
  | escape {c : Char} {cs : List Char} (hc : c ∈ ['"', '\\', '/', 'b', 'f', 'n', 'r', 't'])
      (h : Derives .characters cs) : Derives .characters ('\\' :: c :: cs)
  | unit {a b c d : Char} {cs : List Char} (ha : Hex a) (hb : Hex b) (hc : Hex c) (hd : Hex d)
      (h : Derives .characters cs) : Derives .characters ('\\' :: 'u' :: a :: b :: c :: d :: cs)
  | literal {cs : List Char} (h : Derives .characters cs) : Derives .literal ('"' :: cs ++ ['"'])
  | null : Derives .value ['n', 'u', 'l', 'l']
  | yes : Derives .value ['t', 'r', 'u', 'e']
  | no : Derives .value ['f', 'a', 'l', 's', 'e']
  | number {cs : List Char} (h : Number cs) : Derives .value cs
  | string {cs : List Char} (h : Derives .literal cs) : Derives .value cs
  | emptyArray {gap : List Char} (h : Gap gap) : Derives .value ('[' :: gap ++ [']'])
  | array {cs : List Char} (h : Derives .elements cs) : Derives .value ('[' :: cs ++ [']'])
  | objectValue {cs : List Char} (h : Derives .object cs) : Derives .value cs
  | element {before after cs : List Char} (hb : Gap before) (h : Derives .value cs)
      (ha : Gap after) :
      Derives .element (before ++ cs ++ after)
  | oneElement {cs : List Char} (h : Derives .element cs) : Derives .elements cs
  | moreElements {cs rest : List Char} (h : Derives .element cs) (hr : Derives .elements rest) :
      Derives .elements (cs ++ ',' :: rest)
  | member {before after name cs : List Char} (hb : Gap before) (hn : Derives .literal name)
      (ha : Gap after)
      (h : Derives .element cs) : Derives .member (before ++ name ++ after ++ ':' :: cs)
  | oneMember {cs : List Char} (h : Derives .member cs) : Derives .members cs
  | moreMembers {cs rest : List Char} (h : Derives .member cs) (hr : Derives .members rest) :
      Derives .members (cs ++ ',' :: rest)
  | emptyObject {gap : List Char} (h : Gap gap) : Derives .object ('{' :: gap ++ ['}'])
  | object {cs : List Char} (h : Derives .members cs) : Derives .object ('{' :: cs ++ ['}'])

namespace Derives

/-- Characters that need no escape. -/
theorem of_plain {cs : List Char} (h : ∀ c ∈ cs, ¬c < ' ' ∧ c ≠ '"' ∧ c ≠ '\\') :
    Derives .characters cs := by
  induction cs with
  | nil => exact .nil
  | cons c cs ih =>
    obtain ⟨⟨hc, hq, hb⟩, h⟩ := List.forall_mem_cons.1 h
    exact .plain hc hq hb (ih h)

/-- A value without white space around it. -/
theorem of_value {cs : List Char} (h : Derives .value cs) : Derives .element cs := by
  simpa using @Derives.element [] [] cs (by simp [Gap]) h (by simp [Gap])

/-- A member without white space around its name. -/
theorem of_name {name cs : List Char} (hn : Derives .literal name) (h : Derives .element cs) :
    Derives .member (name ++ ':' :: cs) := by
  simpa using @Derives.member [] [] name cs (by simp [Gap]) hn (by simp [Gap]) h

end Derives

/-! ## Outlines of phrases -/

theorem Gap.steady {cs : List Char} (h : Gap cs) : Steady cs :=
  .of_ordinary (List.all_eq_true.2 fun c hc => Token.ordinary_of_isSpace (h c hc))

theorem Hex.isSome {c : Char} (h : Hex c) : (Quoted.hexValue? c).isSome := by
  unfold Quoted.hexValue?
  split
  · rfl
  · split
    · rfl
    · split
      · rfl
      · simp_all [Hex]

theorem Digits.isPart {cs : List Char} (h : Digits cs) : ∀ c ∈ cs, Numeral.isPart c := by
  intro c hc
  simp [Numeral.isPart, h.2 c hc]

theorem Number.steady {cs : List Char} (h : Number cs) : Steady cs := by
  obtain ⟨sign, whole, fraction, exponent, rfl, hs, hw, hf, he⟩ := h
  refine .of_ordinary (List.all_eq_true.2 fun c hc => Numeral.ordinary_of_isPart ?_)
  simp only [List.mem_append] at hc
  rcases hc with ((hc | hc) | hc) | hc
  · rcases hs with rfl | rfl <;> simp_all [Numeral.isPart]
  · exact hw.1.isPart c hc
  · rcases hf with rfl | ⟨digits, rfl, hd⟩
    · simp at hc
    · rcases List.mem_cons.1 hc with rfl | hc
      · decide
      · exact hd.isPart c hc
  · rcases he with rfl | ⟨e, sign, digits, rfl, he, hs, hd⟩
    · simp at hc
    · simp only [List.cons_append, List.mem_cons, List.mem_append] at hc
      rcases hc with rfl | hc | hc
      · rcases he with rfl | rfl <;> decide
      · rcases hs with rfl | rfl | rfl <;> simp_all [Numeral.isPart]
      · exact hd.isPart c hc

/-- What the outline of a phrase is like: characters lead out of their literal, and all else is
steady. -/
def Phrase.Outlined : Phrase → List Char → Prop
  | .characters, cs => Leaves (cs ++ ['"'])
  | _, cs => Steady cs

theorem Derives.outlined {phrase : Phrase} {cs : List Char} (h : Derives phrase cs) :
    phrase.Outlined cs := by
  induction h with
  | nil => exact Leaves.quote
  | plain _ hq hb _ ih => exact Leaves.cons hq hb ih
  | escape _ _ ih => exact Leaves.escape ih
  | unit ha hb hc hd _ ih =>
    exact Leaves.escape (.hex ha.isSome (.hex hb.isSome (.hex hc.isSome (.hex hd.isSome ih))))
  | literal _ ih => exact Steady.literal ih
  | null => exact Steady.of_ordinary (by decide)
  | yes => exact Steady.of_ordinary (by decide)
  | no => exact Steady.of_ordinary (by decide)
  | number h => exact h.steady
  | string _ ih => exact ih
  | emptyArray h => exact (Steady.cons (by decide) h.steady).append (.of_ordinary (by decide))
  | array _ ih => exact (Steady.cons (by decide) ih).append (.of_ordinary (by decide))
  | objectValue _ ih => exact ih
  | element hb _ ha ih => exact (hb.steady.append ih).append ha.steady
  | oneElement _ ih => exact ih
  | moreElements _ _ ih ihr => exact Steady.append ih (.cons (by decide) ihr)
  | member hb _ ha _ ihn ih =>
    exact ((hb.steady.append ihn).append ha.steady).append (.cons (by decide) ih)
  | oneMember _ ih => exact ih
  | moreMembers _ _ ih ihr => exact Steady.append ih (.cons (by decide) ihr)
  | emptyObject h => exact h.steady.braces
  | object _ ih => exact Steady.braces ih

/-- An object text is enclosed. -/
theorem Derives.enclosed {cs : List Char} (h : Derives .object cs) : Enclosed cs := by
  have last : Closes .plain 1 ['}'] := Closes.endBrace.2 ⟨Nat.one_pos, rfl⟩
  cases h with
  | emptyObject h => exact ⟨_, rfl, h.steady 1 _ Nat.one_pos last⟩
  | object h => exact ⟨_, rfl, h.outlined 1 _ Nat.one_pos last⟩

end EditorBridge.Grammar
