import EditorBridge.Json.Token

/-!
# The outline of a text

The outline of a text is what can be told of it by its quotes, backslashes and braces alone: which
characters stand in string literals, and how many braces are open outside of them. `Closes` says
that the braces open at the start of a text are all closed at its end and not before. This is enough
to see that no text that closes its braces begins with another one, and it does not need to know
what the text means.

The second half shows that the lexical elements of JSON go well with outlines: each of them but the
two braces is `Steady`, that is, it can stand in front of any text without a change to the braces
that are open.
-/

namespace EditorBridge

/-- Where a character stands: outside string literals, in one, or in one after the backslash of an
escape. -/
inductive Zone where
  | plain
  | quoted
  | escaped
deriving DecidableEq, Repr

namespace Zone

/-- The zone after a character. -/
def step : Zone → Char → Zone
  | .plain, c => if c = '"' then .quoted else .plain
  | .quoted, c => if c = '"' then .plain else if c = '\\' then .escaped else .quoted
  | .escaped, _ => .quoted

/-- The number of open braces after a character. Braces in string literals do not count. -/
def depth (zone : Zone) (n : Nat) (c : Char) : Nat :=
  if zone = .plain then if c = '{' then n + 1 else if c = '}' then n - 1 else n else n

/-- The zone of what follows a text. -/
def after (cs : List Char) : Zone := cs.foldl step .plain

end Zone

/-- Whether the `n` open braces are all closed at the end of a text and not before, and no backslash
stands outside of string literals. -/
def Closes : Zone → (n : Nat) → List Char → Prop
  | _, n, [] => n = 0
  | zone, n, c :: cs =>
    0 < n ∧ (zone = .plain → c ≠ '\\') ∧ Closes (zone.step c) (zone.depth n c) cs

/-- A brace and the text that closes it. -/
def Enclosed (cs : List Char) : Prop := ∃ body, cs = '{' :: body ∧ Closes .plain 1 body

/-- Whether a text begins with an opening brace and ends with a closing one. -/
def Braced (cs : List Char) : Prop := cs.head? = some '{' ∧ cs.getLast? = some '}'

instance (cs : List Char) : Decidable (Braced cs) := inferInstanceAs (Decidable (_ ∧ _))

/-- Whether a text has no braces. -/
def Braceless (cs : List Char) : Prop := ∀ c ∈ cs, c ≠ '{' ∧ c ≠ '}'

instance (cs : List Char) : Decidable (Braceless cs) := List.decidableBAll _ cs

theorem Braced.exists_cons {cs : List Char} (h : Braced cs) : ∃ body, cs = '{' :: body := by
  cases cs with
  | nil => cases h.1
  | cons c body =>
    obtain rfl : c = '{' := by simpa using h.1
    exact ⟨body, rfl⟩

namespace Closes

variable {zone : Zone} {n : Nat} {cs rest : List Char}

theorem eq_nil_of_zero (h : Closes zone 0 cs) : cs = [] := by
  cases cs with
  | nil => rfl
  | cons c cs => exact absurd h.1 (Nat.lt_irrefl 0)

/-- No text that closes its braces begins with another one. -/
theorem eq_nil_of_append (h : Closes zone n cs) (h' : Closes zone n (cs ++ rest)) : rest = [] := by
  induction cs generalizing zone n with
  | nil =>
    obtain rfl : n = 0 := h
    exact h'.eq_nil_of_zero
  | cons c cs ih => exact ih h.2.2 h'.2.2

/-- The last character is the one that closes the last brace. -/
theorem getLast?_eq (h : Closes zone n cs) (hn : 0 < n) : cs.getLast? = some '}' := by
  induction cs generalizing zone n with
  | nil =>
    have : n = 0 := h
    omega
  | cons c cs ih =>
    obtain ⟨-, -, h⟩ := h
    cases hd : zone.depth n c with
    | zero =>
      -- Only a closing brace takes the number of open braces to zero.
      obtain rfl : c = '}' := by
        unfold Zone.depth at hd
        split at hd
        · split at hd
          · omega
          · split at hd
            · assumption
            · omega
        · omega
      rw [hd] at h
      simp [h.eq_nil_of_zero]
    | succ m =>
      have hcs := ih h (by omega)
      cases cs with
      | nil => simp at hcs
      | cons d ds => rw [List.getLast?_cons_cons, hcs]

theorem brace : Closes .plain n ('{' :: cs) ↔ 0 < n ∧ Closes .plain (n + 1) cs := by
  simp [Closes, Zone.step, Zone.depth]

theorem endBrace : Closes .plain n ('}' :: cs) ↔ 0 < n ∧ Closes .plain (n - 1) cs := by
  simp [Closes, Zone.step, Zone.depth]

theorem quote : Closes .plain n ('"' :: cs) ↔ 0 < n ∧ Closes .quoted n cs := by
  simp [Closes, Zone.step, Zone.depth]

theorem endQuote : Closes .quoted n ('"' :: cs) ↔ 0 < n ∧ Closes .plain n cs := by
  simp [Closes, Zone.step, Zone.depth]

theorem escape {c : Char} : Closes .quoted n ('\\' :: c :: cs) ↔ 0 < n ∧ Closes .quoted n cs := by
  simp [Closes, Zone.step, Zone.depth]

theorem quoted {c : Char} (hq : c ≠ '"') (hb : c ≠ '\\') :
    Closes .quoted n (c :: cs) ↔ 0 < n ∧ Closes .quoted n cs := by
  simp [Closes, Zone.step, Zone.depth, hq, hb]

end Closes

/-- No enclosed text begins with another one. -/
theorem Enclosed.eq_nil_of_append {cs rest : List Char} (h : Enclosed cs)
    (h' : Enclosed (cs ++ rest)) : rest = [] := by
  obtain ⟨body, rfl, hb⟩ := h
  obtain ⟨body', he, hb'⟩ := h'
  obtain rfl : body ++ rest = body' := by simpa using he
  exact hb.eq_nil_of_append hb'

/-- The last character of an enclosed text is the brace that ends it. -/
theorem Enclosed.getLast?_eq {cs : List Char} (h : Enclosed cs) : cs.getLast? = some '}' := by
  obtain ⟨body, rfl, hb⟩ := h
  have hl := hb.getLast?_eq Nat.one_pos
  cases body with
  | nil => simp at hl
  | cons c cs => rw [List.getLast?_cons_cons, hl]

/-! ## Steady texts -/

/-- Whether a text leaves the braces that are open as they are, and begins and ends outside of
string literals. -/
def Steady (w : List Char) : Prop := ∀ n cs, 0 < n → Closes .plain n cs → Closes .plain n (w ++ cs)

/-- Whether a text leads from the inside of a string literal past its closing quote. -/
def Leaves (w : List Char) : Prop := ∀ n cs, 0 < n → Closes .plain n cs → Closes .quoted n (w ++ cs)

/-- Whether a character means nothing to an outline. -/
def Zone.ordinary (c : Char) : Bool := c ≠ '{' && c ≠ '}' && c ≠ '"' && c ≠ '\\'

namespace Steady

theorem nil : Steady [] := fun _ _ _ h => h

theorem append {v w : List Char} (hv : Steady v) (hw : Steady w) : Steady (v ++ w) := by
  intro n cs hn h
  rw [List.append_assoc]
  exact hv n _ hn (hw n cs hn h)

theorem cons {c : Char} {w : List Char} (hc : Zone.ordinary c) (hw : Steady w) :
    Steady (c :: w) := by
  intro n cs hn h
  simp only [Zone.ordinary, ne_eq, Bool.and_eq_true, decide_eq_true_eq] at hc
  obtain ⟨⟨⟨h₁, h₂⟩, h₃⟩, h₄⟩ := hc
  have ih := hw n cs hn h
  simp [Closes, Zone.step, Zone.depth, h₁, h₂, h₃, h₄, hn, ih]

/-- A text of ordinary characters is steady. -/
theorem of_ordinary {w : List Char} (h : w.all Zone.ordinary) : Steady w := by
  induction w with
  | nil => exact nil
  | cons c w ih =>
    obtain ⟨hc, hw⟩ : (_ ∧ _) := by simpa only [List.all_cons, Bool.and_eq_true] using h
    exact cons hc (ih hw)

/-- Braces around a steady text make a steady text. -/
theorem braces {w : List Char} (hw : Steady w) : Steady ('{' :: w ++ ['}']) := by
  intro n cs hn h
  have hclose : Closes .plain (n + 1) ('}' :: cs) := Closes.endBrace.2 ⟨Nat.succ_pos n, h⟩
  simpa using Closes.brace.2 ⟨hn, hw (n + 1) _ (Nat.succ_pos n) hclose⟩

/-- A string literal is steady. -/
theorem literal {w : List Char} (hw : Leaves w) : Steady ('"' :: w) :=
  fun n cs hn h => Closes.quote.2 ⟨hn, hw n cs hn h⟩

end Steady

namespace Leaves

variable {c : Char} {w : List Char}

theorem quote : Leaves ['"'] := fun _ _ hn h => Closes.endQuote.2 ⟨hn, h⟩

theorem escape (hw : Leaves w) : Leaves ('\\' :: c :: w) :=
  fun n cs hn h => Closes.escape.2 ⟨hn, hw n cs hn h⟩

theorem cons (hq : c ≠ '"') (hb : c ≠ '\\') (hw : Leaves w) : Leaves (c :: w) :=
  fun n cs hn h => (Closes.quoted hq hb).2 ⟨hn, hw n cs hn h⟩

/-- Hexadecimal digits are no quotes and no backslashes. -/
theorem hex (hc : (Quoted.hexValue? c).isSome) (hw : Leaves w) : Leaves (c :: w) := by
  refine cons ?_ ?_ hw <;> rintro rfl <;> revert hc <;> decide

end Leaves

end EditorBridge
