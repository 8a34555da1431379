import EditorBridge.Text.Utf8

/-!
# Patterns

Texts in which some characters stand for others: a star for any text, a question mark for any
character, and brackets for one of several. A quoted character stands for itself.
-/

namespace EditorBridge.Shell

/-- A text whose characters are quoted or not. -/
abbrev Marked := List (Char × Bool)

namespace Marked

/-- The text alone. -/
def text (m : Marked) : List Char := m.map (·.1)

/-- A text with the same mark everywhere. -/
def ofText (quoted : Bool) (cs : List Char) : Marked := cs.map (·, quoted)

/-- Whether some character stands for others. -/
def isPattern (m : Marked) : Bool := m.any fun (c, quoted) => !quoted && ['*', '?', '['].contains c

@[simp] theorem text_ofText (quoted : Bool) (cs : List Char) : (ofText quoted cs).text = cs := by
  simp [text, ofText, Function.comp_def]

end Marked

/-- Whether a character is in the class with a name. -/
def inClass (name : String) (c : Char) : Bool :=
  match name with
  | "alpha" => c.isAlpha
  | "digit" => c.isDigit
  | "alnum" => c.isAlphanum
  | "upper" => c.isUpper
  | "lower" => c.isLower
  | "space" => [' ', '\t', '\n', '\r', '\x0b', '\x0c'].contains c
  | "blank" => [' ', '\t'].contains c
  | "punct" => 0x20 < c.toNat && c.toNat < 0x7f && !c.isAlphanum
  | "xdigit" => c.isDigit || ('a' ≤ c && c ≤ 'f') || ('A' ≤ c && c ≤ 'F')
  | _ => false

/-- What brackets hold, up to the closing one, and what follows it. A closing bracket that comes
first, or in the name of a class, does not close. -/
def bracketEnd : (named first : Bool) → Marked → Option (Marked × Marked)
  | _, _, [] => none
  | true, _, (':', false) :: (']', false) :: rest =>
    (bracketEnd false false rest).map fun (inner, after) =>
      ((':', false) :: (']', false) :: inner, after)
  | false, _, ('[', false) :: (':', false) :: rest =>
    (bracketEnd true false rest).map fun (inner, after) =>
      (('[', false) :: (':', false) :: inner, after)
  | named, first, m :: rest =>
    if m = (']', false) ∧ !first ∧ !named then some ([], rest)
    else (bracketEnd named false rest).map fun (inner, after) => (m :: inner, after)

theorem length_lt_of_bracketEnd {named first : Bool} {m inner after : Marked}
    (h : bracketEnd named first m = some (inner, after)) : after.length < m.length := by
  fun_induction bracketEnd named first m generalizing inner with
  | case1 => simp at h
  | case2 _ _ ih | case3 _ _ ih =>
    obtain ⟨⟨i, a⟩, hi, he⟩ := Option.map_eq_some_iff.1 h
    simp only [Prod.mk.injEq] at he
    have := ih (he.2 ▸ hi)
    simp only [List.length_cons]
    omega
  | case4 => simp_all
  | case5 _ _ _ _ _ _ _ ih =>
    obtain ⟨⟨i, a⟩, hi, he⟩ := Option.map_eq_some_iff.1 h
    simp only [Prod.mk.injEq] at he
    have := ih (he.2 ▸ hi)
    simp only [List.length_cons]
    omega

/-- Whether brackets hold a character. -/
def holds (c : Char) : Marked → Bool
  | [] => false
  | ('[', false) :: (':', false) :: rest =>
    let name := (rest.takeWhile fun m => m.1.isAlpha).map (·.1)
    inClass (String.ofList name) c || holds c (rest.drop (name.length + 2))
  | (low, _) :: ('-', false) :: (high, _) :: rest => (low ≤ c && c ≤ high) || holds c rest
  | (d, _) :: rest => c = d || holds c rest
termination_by m => m.length
decreasing_by all_goals (simp only [List.length_cons, List.length_drop]; omega)

/-- The members of brackets without the mark that excludes them. -/
def afterNegation : Marked → Marked
  | ('!', false) :: rest | ('^', false) :: rest => rest
  | rest => rest

theorem length_afterNegation_le (m : Marked) : (afterNegation m).length ≤ m.length := by
  unfold afterNegation
  split <;> simp

/-- Whether a pattern stands for a text. -/
def Marked.fits : Marked → List Char → Bool
  | [], cs => cs.isEmpty
  | ('*', false) :: rest, [] => fits rest []
  | ('*', false) :: rest, c :: cs => fits rest (c :: cs) || fits (('*', false) :: rest) cs
  | (p, quoted) :: rest, cs =>
    match cs with
    | [] => false
    | c :: cs =>
      if quoted then c = p && fits rest cs
      else if p = '?' then fits rest cs
      else if p = '[' then
        match _found : bracketEnd false true (afterNegation rest) with
        | some (members, after) =>
          (holds c members == ((afterNegation rest).length == rest.length)) && fits after cs
        | none => c = p && fits rest cs
      else c = p && fits rest cs
termination_by m cs => m.length + cs.length
decreasing_by
  all_goals
    try have := length_lt_of_bracketEnd _found
    try have := length_afterNegation_le rest
    simp only [List.length_cons, List.length_nil]
    omega

/-- The bytes of a text, each as a character. -/
def byteChars (cs : List Char) : List Char := (Text.Utf8.encode cs).map fun b => Char.ofNat b.toNat

/-- The text of bytes that are characters. -/
def ofByteChars (cs : List Char) : List Char :=
  Text.Utf8.decodeLossy (cs.map fun c => UInt8.ofNat c.toNat)

/-- The pattern for bytes. -/
def Marked.bytes (m : Marked) : Marked :=
  m.flatMap fun (c, quoted) => (byteChars [c]).map (·, quoted)

/-- Whether a pattern stands for the bytes of a text. -/
def Marked.covers (m : Marked) (cs : List Char) : Bool := m.bytes.fits (byteChars cs)

/-- The parts of a text before and after each of its characters, shortest first part first. -/
def cuts : List Char → List (List Char × List Char)
  | [] => [([], [])]
  | c :: cs => ([], c :: cs) :: (cuts cs).map fun (a, b) => (c :: a, b)

/-- A text without the part at its start that a pattern stands for, the shortest one or the
longest. -/
def dropFront (longest : Bool) (m : Marked) (cs : List Char) : List Char :=
  let found := (cuts (byteChars cs)).filter fun (a, _) => m.bytes.fits a
  ((if longest then found.getLast? else found.head?).map fun (_, b) => ofByteChars b).getD cs

/-- A text without the part at its end that a pattern stands for, the shortest one or the
longest. -/
def dropBack (longest : Bool) (m : Marked) (cs : List Char) : List Char :=
  let found := (cuts (byteChars cs)).filter fun (_, b) => m.bytes.fits b
  ((if longest then found.head? else found.getLast?).map fun (a, _) => ofByteChars a).getD cs

end EditorBridge.Shell
