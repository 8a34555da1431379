import EditorBridge.Proofs.Json.Outline
import EditorBridge.Proofs.Json.Thorough

/-!
# The text of lexical elements

A scanner that succeeds has taken a piece from the front of the text. The piece of a string literal
leads through the literal and out of it, and the pieces of numbers and words are of ordinary
characters. So each lexical element is a brace or steady.
-/

namespace EditorBridge

namespace Numeral

/-- Whether a character may stand in a numeral. -/
def isPart (c : Char) : Bool := c.isDigit || c = '-' || c = '+' || c = '.' || c = 'e' || c = 'E'

/-- Whether `rest` is what follows a piece of a numeral at the start of a text. -/
def Taken (cs rest : List Char) : Prop := ∃ w, cs = w ++ rest ∧ ∀ c ∈ w, isPart c

theorem ordinary_of_isPart {c : Char} (h : isPart c) : Zone.ordinary c := by
  simp only [isPart, Bool.or_eq_true, decide_eq_true_eq] at h
  rcases h with ((((h | rfl) | rfl) | rfl) | rfl) | rfl
  · simp only [Zone.ordinary, ne_eq, Bool.and_eq_true, decide_eq_true_eq]
    refine ⟨⟨⟨?_, ?_⟩, ?_⟩, ?_⟩ <;> rintro rfl <;> simp [Char.isDigit] at h
  all_goals decide

namespace Taken

variable {cs rest rest' : List Char}

theorem refl (cs : List Char) : Taken cs cs := ⟨[], rfl, by simp⟩

theorem trans (h : Taken cs rest) (h' : Taken rest rest') : Taken cs rest' := by
  obtain ⟨v, rfl, hv⟩ := h
  obtain ⟨w, rfl, hw⟩ := h'
  refine ⟨v ++ w, by simp, fun c hc => ?_⟩
  rcases List.mem_append.1 hc with hc | hc
  · exact hv c hc
  · exact hw c hc

theorem cons {c : Char} (hc : isPart c) (h : Taken cs rest) : Taken (c :: cs) rest :=
  trans ⟨[c], rfl, by simp [hc]⟩ h

theorem digits (cs : List Char) : Taken cs (cs.dropWhile Char.isDigit) := by
  refine ⟨cs.takeWhile Char.isDigit, List.takeWhile_append_dropWhile.symm, fun c hc => ?_⟩
  have hd : c.isDigit := List.all_eq_true.1 List.all_takeWhile c hc
  simp [isPart, hd]

end Taken

variable {cs rest : List Char}

theorem taken_of_readWhole {digits : List Char} (h : readWhole cs = .ok (digits, rest)) :
    Taken cs rest := by
  unfold readWhole at h
  split at h
  · split at h
    · simp at h
    · obtain ⟨-, rfl⟩ : _ ∧ _ := by simpa using h
      exact .cons (by decide) (.refl _)
  · split at h
    · simp at h
    · obtain ⟨-, rfl⟩ : _ ∧ _ := by simpa using h
      exact .digits cs

theorem taken_of_readFraction {x : Option (List Char)} (h : readFraction cs = .ok (x, rest)) :
    Taken cs rest := by
  unfold readFraction at h
  split at h
  · split at h
    · simp at h
    · obtain ⟨-, rfl⟩ : _ ∧ _ := by simpa using h
      exact .cons (by decide) (.digits _)
  · obtain ⟨-, rfl⟩ : _ ∧ _ := by simpa using h
    exact .refl _

theorem taken_of_readExponentDigits {b : Bool} {x : Option (Bool × List Char)}
    (h : readExponentDigits b cs = .ok (x, rest)) : Taken cs rest := by
  unfold readExponentDigits at h
  split at h
  · simp at h
  · obtain ⟨-, rfl⟩ : _ ∧ _ := by simpa using h
    exact .digits cs

theorem taken_of_readExponent {x : Option (Bool × List Char)}
    (h : readExponent cs = .ok (x, rest)) : Taken cs rest := by
  unfold readExponent at h
  split at h
  · split at h
    · next hc =>
      refine .cons (by rcases hc with rfl | rfl <;> decide) ?_
      split at h
      · exact .cons (by decide) (taken_of_readExponentDigits h)
      · exact .cons (by decide) (taken_of_readExponentDigits h)
      · exact taken_of_readExponentDigits h
    · obtain ⟨-, rfl⟩ : _ ∧ _ := by simpa using h
      exact .refl _
  · obtain ⟨-, rfl⟩ : _ ∧ _ := by simpa using h
    exact .refl _

theorem taken_of_readUnsigned {b : Bool} {n : Numeral} (h : readUnsigned b cs = .ok (n, rest)) :
    Taken cs rest := by
  obtain ⟨⟨whole, cs₁⟩, hw, h⟩ := Fault.bind_eq_ok.1 h
  obtain ⟨⟨fraction, cs₂⟩, hf, h⟩ := Fault.bind_eq_ok.1 h
  obtain ⟨⟨exponent, cs₃⟩, he, h⟩ := Fault.bind_eq_ok.1 h
  obtain ⟨-, rfl⟩ : _ ∧ cs₃ = rest := by simpa [pure, Except.pure] using h
  exact (taken_of_readWhole hw).trans ((taken_of_readFraction hf).trans (taken_of_readExponent he))

theorem taken_of_read {n : Numeral} (h : Numeral.read cs = .ok (n, rest)) : Taken cs rest := by
  unfold Numeral.read at h
  split at h
  · exact .cons (by decide) (taken_of_readUnsigned h)
  · exact taken_of_readUnsigned h

end Numeral

namespace Quoted

theorem isSome_of_unit? {a b c d : Char} (h : (unit? a b c d).isSome) :
    (hexValue? a).isSome ∧ (hexValue? b).isSome ∧ (hexValue? c).isSome ∧ (hexValue? d).isSome := by
  obtain ⟨n, hn⟩ := Option.isSome_iff_exists.1 h
  simp only [unit?, Option.bind_eq_bind, Option.bind_eq_some_iff] at hn
  obtain ⟨w, ha, x, hb, y, hc, z, hd, -⟩ := hn
  simp [ha, hb, hc, hd]

/-- From the inside of a string literal, what is skipped leads out of it. -/
theorem leaves_of_skip {cs rest : List Char} (h : skip cs = .ok rest) :
    ∃ w, cs = w ++ rest ∧ Leaves w := by
  fun_induction skip cs with
  | case2 rest' =>
    obtain rfl : rest' = rest := by simpa using h
    exact ⟨['"'], rfl, .quote⟩
  | case3 a b c d rest' hu ih =>
    obtain ⟨w, rfl, hw⟩ := ih h
    obtain ⟨ha, hb, hc, hd⟩ := isSome_of_unit? hu
    exact ⟨'\\' :: 'u' :: a :: b :: c :: d :: w, rfl,
      .escape (.hex ha (.hex hb (.hex hc (.hex hd hw))))⟩
  | case6 c rest' _ _ _ ih =>
    obtain ⟨w, rfl, hw⟩ := ih h
    exact ⟨'\\' :: c :: w, rfl, .escape hw⟩
  | case10 c rest' hq _ _ hb hb' _ ih =>
    obtain ⟨w, rfl, hw⟩ := ih h
    -- A backslash has been taken care of by the cases before, whatever follows it.
    have hc : c ≠ '\\' := by
      rintro rfl
      cases hr : w ++ rest with
      | nil => exact hb' rfl hr
      | cons d ds => exact hb d ds rfl hr
    exact ⟨c :: w, rfl, .cons hq hc hw⟩
  | _ => simp at h

end Quoted

namespace Token

variable {c : Char} {cs rest : List Char}

theorem eq_append_of_readWord {word : List Char} (h : readWord word cs = .ok rest) :
    cs = word ++ rest := by
  fun_induction readWord word cs with
  | case1 cs => simpa using h
  | case3 word c cs ih => rw [ih h, List.cons_append]
  | _ => simp at h

/-- The text of a word. -/
theorem eq_append_of_word {token : Token} {tail : List Char}
    (h : (word token tail cs).2 = .ok rest) :
    cs = tail ++ rest ∧ (word token tail cs).1 = token := by
  unfold word at h ⊢
  split at h
  · next hw =>
    obtain rfl : _ = rest := by simpa using h
    exact ⟨eq_append_of_readWord hw, rfl⟩
  · simp at h

/-- The text of a numeral. -/
theorem steady_of_numeral (h : (numeral (c :: cs)).2 = .ok rest) :
    ∃ w x, cs = w ++ rest ∧ Steady (c :: w) ∧ (numeral (c :: cs)).1 = .number x := by
  unfold numeral at h ⊢
  split at h
  · next n rest' hn =>
    obtain rfl : rest' = rest := by simpa using h
    obtain ⟨w, hw, hp⟩ := Numeral.taken_of_read hn
    have hlt := length_lt_of_read hn
    cases w with
    | nil => simp [hw] at hlt
    | cons d w =>
      obtain ⟨rfl, rfl⟩ : c = d ∧ cs = w ++ rest' := by simpa using hw
      exact ⟨w, _, rfl,
        .of_ordinary (List.all_eq_true.2 fun e he => Numeral.ordinary_of_isPart (hp e he)), rfl⟩
  · simp at h

/-- The text of a lexical element is a brace, or it is steady and the element is no brace. -/
theorem scan_cases (h : (scan c cs).2 = .ok rest) :
    (c = '{' ∧ rest = cs ∧ (scan c cs).1 = .leftBrace) ∨
    (c = '}' ∧ rest = cs ∧ (scan c cs).1 = .rightBrace) ∨
      ∃ w, cs = w ++ rest ∧ Steady (c :: w) ∧ (scan c cs).1 ≠ .leftBrace ∧
        (scan c cs).1 ≠ .rightBrace := by
  unfold scan at h ⊢
  split at h
  case h_1 => exact .inl ⟨rfl, by simpa using h.symm, rfl⟩
  case h_2 => exact .inr (.inl ⟨rfl, by simpa using h.symm, rfl⟩)
  case h_7 =>
    obtain ⟨w, hw, hl⟩ := Quoted.leaves_of_skip h
    exact .inr (.inr ⟨w, hw, .literal hl, by simp⟩)
  case h_8 =>
    obtain ⟨hw, ht⟩ := eq_append_of_word h
    exact .inr (.inr ⟨_, hw, .of_ordinary (by decide), by simp [ht]⟩)
  case h_9 =>
    obtain ⟨hw, ht⟩ := eq_append_of_word h
    exact .inr (.inr ⟨_, hw, .of_ordinary (by decide), by simp [ht]⟩)
  case h_10 =>
    obtain ⟨hw, ht⟩ := eq_append_of_word h
    exact .inr (.inr ⟨_, hw, .of_ordinary (by decide), by simp [ht]⟩)
  case h_11 =>
    split at h
    · next hc =>
      obtain ⟨w, x, hw, hs, ht⟩ := steady_of_numeral h
      rw [if_pos hc]
      exact .inr (.inr ⟨w, hw, hs, by simp [ht]⟩)
    · simp at h
  all_goals
    obtain rfl : _ = rest := by simpa using h
    exact .inr (.inr ⟨[], rfl, .of_ordinary (by decide), by simp⟩)

/-- Where no text is left after an element, it is no brace. -/
theorem ne_rightBrace_of_error {cause : Fault} (h : (scan c cs).2 = .error cause) :
    (scan c cs).1 ≠ .rightBrace := by
  unfold scan at h ⊢
  split at h <;> try simp at h
  case h_7 => simp
  case h_11 =>
    split <;> try simp
    unfold numeral
    split <;> simp
  all_goals
    unfold word
    split <;> simp

/-- Only a brace or a bracket is the element that opens an object or an array. -/
theorem scan_ne_open (hb : c ≠ '{') (hk : c ≠ '[') :
    (scan c cs).1 ≠ .leftBrace ∧ (scan c cs).1 ≠ .leftBracket := by
  unfold scan
  split
  case h_1 => exact absurd rfl hb
  case h_3 => exact absurd rfl hk
  case h_8 | h_9 | h_10 =>
    unfold word
    split <;> simp
  case h_11 =>
    split
    · unfold numeral
      split <;> simp
    · simp
  all_goals simp

theorem ordinary_of_isSpace (h : isSpace c) : Zone.ordinary c := by
  simp only [isSpace, decide_eq_true_eq] at h
  rcases h with rfl | rfl | rfl | rfl <;> decide

end Token

section Tokens

variable {c : Char} {cs rest : List Char}

theorem tokens_of_isSpace (h : Token.isSpace c) : tokens (c :: cs) = tokens cs := by
  rw [tokens, if_pos h]

theorem tokens_of_scan_ok (hc : ¬Token.isSpace c) (h : (Token.scan c cs).2 = .ok rest) :
    tokens (c :: cs) = (Token.scan c cs).1 :: tokens rest := by
  rw [tokens, if_neg hc]
  split
  · next h' =>
    obtain rfl : _ = rest := by simpa [h'] using h
    rfl
  · next h' => simp [h'] at h

theorem tokens_of_scan_error {cause : Fault} (hc : ¬Token.isSpace c)
    (h : (Token.scan c cs).2 = .error cause) :
    tokens (c :: cs) = (Token.scan c cs).1 :: Token.stop cause := by
  rw [tokens, if_neg hc]
  split
  · next h' => simp [h'] at h
  · next h' =>
    obtain rfl : _ = cause := by simpa [h'] using h
    rfl

/-- The first lexical element. -/
theorem exists_tokens_eq_cons (hc : ¬Token.isSpace c) :
    ∃ more, tokens (c :: cs) = (Token.scan c cs).1 :: more := by
  rw [tokens, if_neg hc]
  exact ⟨_, rfl⟩

/-- A text without lexical elements is white space. -/
theorem isSpace_of_tokens_eq_nil (h : tokens cs = []) : ∀ c ∈ cs, Token.isSpace c := by
  induction cs with
  | nil => simp
  | cons c cs ih =>
    rw [tokens] at h
    split at h
    · next hc => exact List.forall_mem_cons.2 ⟨hc, ih h⟩
    · simp at h

end Tokens

end EditorBridge
