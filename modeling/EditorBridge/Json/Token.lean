import EditorBridge.Json.Numeral
import EditorBridge.Json.Quoted

/-!
# Tokens of JSON text

The lexical elements of a text. Numbers and strings carry what a strict reading makes of them. Where
even their end cannot be found, the tokens stop there: without a further token if the text ended,
with a `fault` token otherwise.
-/

namespace EditorBridge

/-- A lexical element of JSON text. -/
inductive Token where
  | leftBrace
  | rightBrace
  | leftBracket
  | rightBracket
  | comma
  | colon
  | null
  | bool (value : Bool)
  | number (value : Except Fault Number)
  | string (value : Except Fault String)
  /-- Characters that begin no lexical element. -/
  | fault (cause : Fault)

namespace Token

/-- Whether a character may stand between lexical elements. -/
def isSpace (c : Char) : Bool := c = ' ' ∨ c = '\n' ∨ c = '\t' ∨ c = '\r'

/-- What follows `word` in a text that begins with it; otherwise the fault at the first
difference. -/
def readWord : (word cs : List Char) → Except Fault (List Char)
  | [], cs => .ok cs
  | _ :: _, [] => .error .ended
  | w :: word, c :: cs => if w = c then readWord word cs else .error .malformed

/-- The token of a word with the text after it. -/
def word (token : Token) (tail cs : List Char) : Token × Except Fault (List Char) :=
  match readWord tail cs with
  | .ok rest => (token, .ok rest)
  | .error cause => (.fault cause, .error .ended)

/-- The token of a numeral with the text after it. -/
def numeral (cs : List Char) : Token × Except Fault (List Char) :=
  match Numeral.read cs with
  | .ok (n, rest) => (.number n.toNumber, .ok rest)
  | .error cause => (.number (.error cause), .error .malformed)

/-- The token that begins with the character `c`, and the text after it or why there is none. -/
def scan (c : Char) (cs : List Char) : Token × Except Fault (List Char) :=
  match c with
  | '{' => (.leftBrace, .ok cs)
  | '}' => (.rightBrace, .ok cs)
  | '[' => (.leftBracket, .ok cs)
  | ']' => (.rightBracket, .ok cs)
  | ',' => (.comma, .ok cs)
  | ':' => (.colon, .ok cs)
  | '"' => (.string (String.ofList <$> Quoted.read cs), Quoted.skip cs)
  | 'n' => word .null ['u', 'l', 'l'] cs
  | 't' => word (.bool true) ['r', 'u', 'e'] cs
  | 'f' => word (.bool false) ['a', 'l', 's', 'e'] cs
  | c => if c = '-' ∨ c.isDigit then numeral (c :: cs) else (.fault .malformed, .error .ended)

/-- The token that marks why the text after a token cannot be reached. -/
def stop : Fault → List Token
  | .ended => []
  | cause => [.fault cause]

theorem length_le_of_readWord {word cs rest : List Char} (h : readWord word cs = .ok rest) :
    rest.length ≤ cs.length := by
  fun_induction readWord word cs <;> simp_all <;> omega

theorem length_dropWhile_le (p : Char → Bool) (cs : List Char) :
    (cs.dropWhile p).length ≤ cs.length :=
  (List.dropWhile_sublist p).length_le

theorem length_lt_of_readWhole {cs rest digits : List Char}
    (h : Numeral.readWhole cs = .ok (digits, rest)) : rest.length < cs.length := by
  unfold Numeral.readWhole at h
  split at h
  · split at h <;> simp_all
  · split at h
    · simp at h
    · next digits' hd =>
      obtain ⟨-, rfl⟩ : _ ∧ _ := by simpa using h
      cases cs with
      | nil => simp_all
      | cons c cs =>
        have hc : c.isDigit := by
          rcases Bool.eq_false_or_eq_true c.isDigit with hc | hc
          · exact hc
          · simp [hc] at hd
        rw [List.dropWhile_cons_of_pos hc]
        exact Nat.lt_succ_of_le (length_dropWhile_le _ _)

theorem length_le_of_readFraction {cs rest : List Char} {x : Option (List Char)}
    (h : Numeral.readFraction cs = .ok (x, rest)) : rest.length ≤ cs.length := by
  unfold Numeral.readFraction at h
  split at h
  · split at h
    · simp at h
    · obtain ⟨-, rfl⟩ : _ ∧ _ := by simpa using h
      exact Nat.le_succ_of_le (length_dropWhile_le _ _)
  · simp_all

theorem length_le_of_readExponentDigits {b : Bool} {cs rest : List Char}
    {x : Option (Bool × List Char)} (h : Numeral.readExponentDigits b cs = .ok (x, rest)) :
    rest.length ≤ cs.length := by
  unfold Numeral.readExponentDigits at h
  split at h
  · simp at h
  · obtain ⟨-, rfl⟩ : _ ∧ _ := by simpa using h
    exact length_dropWhile_le _ _

theorem length_le_of_readExponent {cs rest : List Char} {x : Option (Bool × List Char)}
    (h : Numeral.readExponent cs = .ok (x, rest)) : rest.length ≤ cs.length := by
  unfold Numeral.readExponent at h
  split at h
  · split at h
    · split at h <;> have := length_le_of_readExponentDigits h <;> simp_all <;> omega
    · simp_all
  · simp_all

theorem length_lt_of_readUnsigned {b : Bool} {cs rest : List Char} {n : Numeral}
    (h : Numeral.readUnsigned b cs = .ok (n, rest)) : rest.length < cs.length := by
  unfold Numeral.readUnsigned at h
  cases hw : Numeral.readWhole cs with
  | error _ => simp [hw, bind, Except.bind] at h
  | ok w =>
    obtain ⟨whole, cs₁⟩ := w
    cases hf : Numeral.readFraction cs₁ with
    | error _ => simp [hw, hf, bind, Except.bind] at h
    | ok f =>
      obtain ⟨fraction, cs₂⟩ := f
      cases he : Numeral.readExponent cs₂ with
      | error _ => simp [hw, hf, he, bind, Except.bind] at h
      | ok e =>
        obtain ⟨exponent, cs₃⟩ := e
        obtain ⟨-, rfl⟩ : _ ∧ cs₃ = rest := by
          simpa [hw, hf, he, bind, Except.bind, pure, Except.pure] using h
        have h₁ := length_lt_of_readWhole hw
        have h₂ := length_le_of_readFraction hf
        have h₃ := length_le_of_readExponent he
        omega

theorem length_lt_of_read {cs rest : List Char} {n : Numeral}
    (h : Numeral.read cs = .ok (n, rest)) : rest.length < cs.length := by
  unfold Numeral.read at h
  split at h
  · exact Nat.lt_succ_of_lt (length_lt_of_readUnsigned h)
  · exact length_lt_of_readUnsigned h

theorem length_le_of_word {token : Token} {tail cs rest : List Char}
    (h : (word token tail cs).2 = .ok rest) : rest.length ≤ cs.length := by
  unfold word at h
  split at h
  · next hw =>
    obtain rfl : _ = rest := by simpa using h
    exact length_le_of_readWord hw
  · simp at h

theorem length_le_of_scan {c : Char} {cs rest : List Char} (h : (scan c cs).2 = .ok rest) :
    rest.length ≤ cs.length := by
  unfold scan at h
  split at h
  case h_7 => exact Nat.le_of_lt (Quoted.length_lt_of_skip h)
  case h_8 => exact length_le_of_word h
  case h_9 => exact length_le_of_word h
  case h_10 => exact length_le_of_word h
  case h_11 =>
    split at h
    · unfold numeral at h
      split at h
      · next hn =>
        injection h with h
        subst h
        exact Nat.le_of_lt_succ (length_lt_of_read hn)
      · simp at h
    · simp at h
  all_goals simp_all

end Token

/-- The lexical elements of a text. -/
def tokens : List Char → List Token
  | [] => []
  | c :: cs =>
    if Token.isSpace c then tokens cs
    else
      (Token.scan c cs).1 ::
        match _h : (Token.scan c cs).2 with
        | .ok rest => tokens rest
        | .error cause => Token.stop cause
termination_by cs => cs.length
decreasing_by
  · simp
  · exact Nat.lt_succ_of_le (Token.length_le_of_scan _h)

end EditorBridge
