import EditorBridge.Proofs.Json.Recovery
import EditorBridge.Proofs.Text.Utf8

/-!
# The region that is searched for

The search for a balanced span goes from character to character and remembers how many braces are
open. What it finds can be said without a search, by places in the bytes of the text: a brace counts
unless the byte before it is a backslash, the region begins at the first opening brace that counts,
and it ends at the first place after it up to which as many closing as opening braces count.

The bytes of a character that is not a single byte are neither braces nor backslashes. So nothing
changes inside of a character, and the region begins and ends with a whole one.
-/

namespace EditorBridge.Recovery

open Text.Utf8 (encode)

/-- Whether a brace stands at a place in a byte sequence and counts there: the byte before it, if
there is one, is no backslash. -/
def Counted (bytes : List UInt8) (brace : Char) (i : Nat) : Prop :=
  bytes[i]? = some brace.toUInt8 ∧ (i = 0 ∨ bytes[i - 1]? ≠ some '\\'.toUInt8)

instance (bytes : List UInt8) (brace : Char) (i : Nat) : Decidable (Counted bytes brace i) :=
  inferInstanceAs (Decidable (_ ∧ _))

/-- The number of braces that count from one place to another, both included. -/
def count (bytes : List UInt8) (brace : Char) (s e : Nat) : Nat :=
  (List.range' s (e + 1 - s)).countP (Counted bytes brace ·)

/-- How many braces are open after the bytes from one place to another. -/
def depth (bytes : List UInt8) (s e : Nat) : Int := count bytes '{' s e - count bytes '}' s e

/-- The bytes from one place to another, both included. -/
def between (bytes : List UInt8) (s e : Nat) : List UInt8 := (bytes.drop s).take (e + 1 - s)

/-- The place of the first opening brace that counts. -/
structure First (bytes : List UInt8) (s : Nat) : Prop where
  counted : Counted bytes '{' s
  none_before : ∀ i < s, ¬Counted bytes '{' i

/-- The region from the first opening brace that counts to the first place after it at which the
braces balance. -/
structure Region (bytes : List UInt8) (s e : Nat) : Prop where
  first : First bytes s
  lt : s < e
  inside : e < bytes.length
  balanced : count bytes '{' s e = count bytes '}' s e
  least : ∀ i < e, s < i → count bytes '{' s i ≠ count bytes '}' s i

instance (bytes : List UInt8) (s : Nat) : Decidable (First bytes s) :=
  decidable_of_iff (Counted bytes '{' s ∧ ∀ i < s, ¬Counted bytes '{' i)
    ⟨fun h => ⟨h.1, h.2⟩, fun h => ⟨h.counted, h.none_before⟩⟩

instance (bytes : List UInt8) (s e : Nat) : Decidable (Region bytes s e) :=
  decidable_of_iff (First bytes s ∧ s < e ∧ e < bytes.length ∧
    count bytes '{' s e = count bytes '}' s e ∧
      ∀ i < e, s < i → count bytes '{' s i ≠ count bytes '}' s i)
    ⟨fun h => ⟨h.1, h.2.1, h.2.2.1, h.2.2.2.1, h.2.2.2.2⟩,
      fun h => ⟨h.first, h.lt, h.inside, h.balanced, h.least⟩⟩

/-- The number of braces that count among bytes, if a backslash may be before them. -/
def looseBytes (brace : Char) : (escaped : Bool) → List UInt8 → Nat
  | _, [] => 0
  | escaped, b :: bs =>
    (if b = brace.toUInt8 ∧ !escaped then 1 else 0) + looseBytes brace (b = '\\'.toUInt8) bs

/-- Bytes are escaped after a backslash. -/
def escaping (bytes : List UInt8) : Bool := bytes.getLast? = some '\\'.toUInt8

theorem counted_append {before after : List UInt8} {brace : Char} {b : UInt8} :
    Counted (before ++ b :: after) brace before.length ↔ b = brace.toUInt8 ∧
      escaping before = false := by
  rw [Counted, List.getElem?_append_right (Nat.le_refl _), Nat.sub_self, List.getElem?_cons_zero,
    Option.some_inj]
  refine and_congr_right fun _ => ?_
  rcases List.eq_nil_or_concat before with rfl | ⟨init, last, rfl⟩
  · simp [escaping]
  · simp [escaping]

theorem countP_range' (before after : List UInt8) (brace : Char) (n : Nat) :
    (List.range' before.length n).countP (Counted (before ++ after) brace ·) =
      looseBytes brace (escaping before) (after.take n) := by
  induction n generalizing before after with
  | zero => rfl
  | succ n ih =>
    cases after with
    | nil =>
      rw [List.take_nil, looseBytes, List.countP_eq_zero]
      intro i hi
      simp only [List.mem_range'_1] at hi
      simp [Counted, hi.1]
    | cons b after =>
      have hstep := ih (before ++ [b]) after
      rw [List.append_assoc, List.singleton_append, List.length_append,
        List.length_singleton] at hstep
      have hlast : escaping (before ++ [b]) = decide (b = '\\'.toUInt8) := by simp [escaping]
      rw [List.range'_succ, List.countP_cons, hstep, List.take_succ_cons, looseBytes, hlast,
        Nat.add_comm]
      simp [counted_append]

section Loose

variable {brace c : Char} {escaped : Bool} {bs : List UInt8}

theorem looseBytes_append_of_high (hbrace : brace.toNat < 0x80) {high : List UInt8}
    (hne : high ≠ []) (hhigh : ∀ b ∈ high, 0x80 ≤ b.toNat) :
    looseBytes brace escaped (high ++ bs) = looseBytes brace false bs := by
  have hother {d : Char} (hd : d.toNat < 0x80) {b : UInt8} (hb : 0x80 ≤ b.toNat) : b ≠
      d.toUInt8 := by
    rintro rfl
    rw [Text.Utf8.toNat_toUInt8 hd] at hb
    omega
  induction high generalizing escaped with
  | nil => exact absurd rfl hne
  | cons b high ih =>
    obtain ⟨hb, hhigh⟩ := List.forall_mem_cons.1 hhigh
    have hbackslash : b ≠ '\\'.toUInt8 := hother (by decide) hb
    rw [List.cons_append, looseBytes, if_neg (fun h => hother hbrace hb h.1), Nat.zero_add,
      decide_eq_false hbackslash]
    cases high with
    | nil => rfl
    | cons next high => exact ih (by simp) hhigh

/-- A character counts among bytes just if it counts among characters. -/
theorem looseBytes_encodeChar (hbrace : brace.toNat < 0x80) :
    looseBytes brace escaped (String.utf8EncodeChar c ++ bs) =
      (if c = brace ∧ !escaped then 1 else 0) + looseBytes brace (c = '\\') bs := by
  rcases Text.Utf8.utf8EncodeChar_ascii_or c with ⟨hc, heq⟩ | ⟨hc, hhigh⟩
  · rw [heq, List.singleton_append, looseBytes]
    simp only [Text.Utf8.toUInt8_inj hc hbrace, Text.Utf8.toUInt8_inj hc (d := '\\') (by decide)]
  · have hother {d : Char} (hd : d.toNat < 0x80) : c ≠ d := by
      rintro rfl
      omega
    rw [looseBytes_append_of_high hbrace (Text.Utf8.utf8EncodeChar_ne_nil c) hhigh,
      if_neg (fun h => hother hbrace h.1), Nat.zero_add, decide_eq_false (hother (by decide))]

/-- Nothing counts in a part of a character. -/
theorem looseBytes_take_encodeChar (hbrace : brace.toNat < 0x80) {k : Nat}
    (hk : k < (String.utf8EncodeChar c).length) :
    looseBytes brace escaped ((String.utf8EncodeChar c).take k) = 0 := by
  cases k with
  | zero => rfl
  | succ k =>
    rcases Text.Utf8.utf8EncodeChar_ascii_or c with ⟨hc, heq⟩ | ⟨hc, hhigh⟩
    · simp [heq] at hk
    · rw [← List.append_nil (List.take ..)]
      exact looseBytes_append_of_high hbrace (by simp) fun b hb => hhigh b (List.mem_of_mem_take hb)

theorem looseBytes_encode (hbrace : brace.toNat < 0x80) (previous : Char) (cs : List Char) :
    looseBytes brace (previous = '\\') (encode cs) = loose brace previous cs := by
  induction cs generalizing previous with
  | nil => rfl
  | cons c cs ih =>
    rw [Text.Utf8.encode_cons, looseBytes_encodeChar hbrace, ih, loose]
    simp

/-- The bytes of a text end in a backslash just if the text does. -/
theorem escaping_encode (cs : List Char) :
    escaping (encode cs) = decide (cs.getLast? = some '\\') := by
  rcases List.eq_nil_or_concat cs with rfl | ⟨init, c, rfl⟩
  · rfl
  · have hc : encode [c] = String.utf8EncodeChar c := List.append_nil _
    rw [escaping, decide_eq_decide, List.concat_eq_append, Text.Utf8.encode_append, hc,
      List.getLast?_concat, Option.some_inj]
    rcases Text.Utf8.utf8EncodeChar_ascii_or c with ⟨hascii, heq⟩ | ⟨hhigh, hbytes⟩
    · rw [heq, List.getLast?_concat, Option.some_inj, Text.Utf8.toUInt8_inj hascii (by decide)]
    · obtain ⟨front, b, heq⟩ :=
        (List.eq_nil_or_concat _).resolve_left (Text.Utf8.utf8EncodeChar_ne_nil c)
      rw [heq] at hbytes ⊢
      rw [List.concat_eq_append, ← List.append_assoc, List.getLast?_concat, Option.some_inj]
      refine iff_of_false ?_ ?_
      · rintro rfl
        exact absurd (hbytes '\\'.toUInt8 (by simp)) (by decide)
      · rintro rfl
        exact absurd hhigh (by decide)

end Loose

/-! ## The search -/

/-- Whether more braces are open than closed after some bytes, if `n` were open before. -/
def Deep (n : Nat) (escaped : Bool) (bs : List UInt8) : Prop :=
  looseBytes '}' escaped bs < n + looseBytes '{' escaped bs

section Search

variable {previous c : Char} {n m k : Nat} {span cs w found : List Char}

/-- What holds after the first character holds from before it, with the number of open braces
changed by it. -/
theorem deep_take_cons (hn : 0 < n)
    (hm : m + (if c = '}' ∧ previous ≠ '\\' then 1 else 0) =
      n + (if c = '{' ∧ previous ≠ '\\' then 1 else 0))
    (h : (String.utf8EncodeChar c).length ≤ k →
      Deep m (c = '\\') ((encode cs).take (k - (String.utf8EncodeChar c).length))) :
    Deep n (previous = '\\') ((encode (c :: cs)).take k) := by
  rw [Text.Utf8.encode_cons]
  by_cases hk : k < (String.utf8EncodeChar c).length
  · rw [Deep, List.take_append_of_le_length (Nat.le_of_lt hk),
      looseBytes_take_encodeChar (by decide) hk, looseBytes_take_encodeChar (by decide) hk]
    omega
  · have hdeep := h (Nat.le_of_not_lt hk)
    rw [Deep] at hdeep
    rw [Deep, List.take_append, List.take_of_length_le (Nat.le_of_not_lt hk),
      looseBytes_encodeChar (by decide), looseBytes_encodeChar (by decide)]
    simp only [ne_eq, Bool.not_eq_true', decide_eq_false_iff_not] at hm ⊢
    omega

/-- Braces stay open if the search finds nothing. -/
theorem deep_of_balance_eq_none (hn : 0 < n) (h : balance previous n span cs = none) :
    Deep n (previous = '\\') ((encode cs).take k) := by
  fun_induction balance previous n span cs generalizing k with
  | case1 => simpa [Deep, looseBytes] using hn
  | case2 previous n span c cs hc ih =>
    obtain ⟨rfl, hp⟩ := hc
    exact deep_take_cons hn (by simp [hp]) fun _ => ih (Nat.succ_pos n) h
  | case3 => simp at h
  | case4 previous n span c cs _ hc hle ih =>
    obtain ⟨rfl, hp⟩ := hc
    exact deep_take_cons hn (by simp [hp]; omega) fun _ => ih (by omega) h
  | case5 previous n span c cs ho hc ih =>
    exact deep_take_cons hn (by rw [if_neg ho, if_neg hc]) fun _ => ih hn h

/-- A text that closes `n` open braces at its end, and not before. -/
structure Stops (previous : Char) (n : Nat) (w : List Char) : Prop where
  balanced : loose '}' previous w = n + loose '{' previous w
  deep : ∀ k < (encode w).length, Deep n (previous = '\\') ((encode w).take k)

theorem Stops.cons (hn : 0 < n)
    (hm : m + (if c = '}' ∧ previous ≠ '\\' then 1 else 0) =
      n + (if c = '{' ∧ previous ≠ '\\' then 1 else 0))
    (h : Stops c m w) : Stops previous n (c :: w) := by
  refine ⟨?_, fun k hk => deep_take_cons hn hm fun hle => h.deep _ ?_⟩
  · have hbalanced := h.balanced
    rw [loose, loose]
    omega
  · rw [Text.Utf8.encode_cons, List.length_append] at hk
    omega

/-- What the search finds ends where the braces balance for the first time. -/
theorem exists_stops_of_balance (hn : 0 < n) (h : balance previous n span cs = some found) :
    ∃ w rest, cs = w ++ rest ∧ found = span.reverse ++ w ∧ Stops previous n w := by
  fun_induction balance previous n span cs with
  | case1 => simp at h
  | case2 previous n span c cs hc ih =>
    obtain ⟨w, rest, rfl, rfl, hstops⟩ := ih (Nat.succ_pos n) h
    obtain ⟨rfl, hp⟩ := hc
    exact ⟨_, rest, rfl, by simp, hstops.cons hn (by simp [hp])⟩
  | case3 previous n span c cs _ hc hle =>
    obtain ⟨rfl, hp⟩ := hc
    obtain rfl : n = 1 := by omega
    obtain rfl : ('}' :: span).reverse = found := by simpa using h
    have hnil : Stops '}' 0 [] := ⟨rfl, by simp⟩
    exact ⟨_, cs, rfl, by simp, hnil.cons hn (by simp [hp])⟩
  | case4 previous n span c cs _ hc hle ih =>
    obtain ⟨w, rest, rfl, rfl, hstops⟩ := ih (by omega) h
    obtain ⟨rfl, hp⟩ := hc
    exact ⟨_, rest, rfl, by simp, hstops.cons hn (by simp [hp]; omega)⟩
  | case5 previous n span c cs ho hc ih =>
    obtain ⟨w, rest, rfl, rfl, hstops⟩ := ih hn h
    exact ⟨_, rest, rfl, by simp, hstops.cons hn (by rw [if_neg ho, if_neg hc])⟩

/-- The search begins at the first opening brace that counts, if there is one. -/
theorem spanAfter_cases (previous : Char) (cs : List Char) :
    spanAfter previous cs = none ∧ loose '{' previous cs = 0 ∨
      ∃ before body, cs = before ++ '{' :: body ∧ loose '{' previous before = 0 ∧
        before.getLast?.getD previous ≠ '\\' ∧
          spanAfter previous cs = balance '{' 1 ['{'] body := by
  induction cs generalizing previous with
  | nil => exact .inl ⟨rfl, rfl⟩
  | cons c cs ih =>
    by_cases hc : c = '{' ∧ previous ≠ '\\'
    · obtain ⟨rfl, hp⟩ := hc
      exact .inr ⟨[], cs, rfl, rfl, hp, spanAfter_brace hp⟩
    · have hspan : spanAfter previous (c :: cs) = spanAfter c cs := if_neg hc
      have hloose (w : List Char) : loose '{' previous (c :: w) = loose '{' c w := by
        rw [loose, if_neg hc, Nat.zero_add]
      rcases ih c with ⟨hnone, hzero⟩ | ⟨before, body, rfl, hzero, hlast, hsome⟩
      · exact .inl ⟨hspan.trans hnone, (hloose _).trans hzero⟩
      · refine .inr ⟨c :: before, body, rfl, (hloose _).trans hzero, ?_, hspan.trans hsome⟩
        simpa [List.getLast?_cons] using hlast

end Search

/-! ## Places of braces -/

section Places

variable {bytes : List UInt8} {s e i : Nat}

theorem First.eq (h : First bytes s) (h' : First bytes i) : s = i := by
  apply Nat.le_antisymm
  · exact Nat.le_of_not_lt fun hlt => h.none_before i hlt h'.counted
  · exact Nat.le_of_not_lt fun hlt => h'.none_before s hlt h.counted

theorem Region.eq {s' e' : Nat} (h : Region bytes s e) (h' : Region bytes s' e') :
    s = s' ∧ e = e' := by
  obtain rfl := h.first.eq h'.first
  refine ⟨rfl, Nat.le_antisymm ?_ ?_⟩
  · exact Nat.le_of_not_lt fun hlt => h.least e' hlt h'.lt h'.balanced
  · exact Nat.le_of_not_lt fun hlt => h'.least e hlt h.lt h.balanced

theorem count_append (before after : List UInt8) (brace : Char) (k : Nat) :
    count (before ++ after) brace before.length (before.length + k) =
      looseBytes brace (escaping before) (after.take (k + 1)) := by
  have hlength : before.length + k + 1 - before.length = k + 1 := by omega
  rw [count, hlength, countP_range']

/-- No brace of a kind is counted in a text that has none. -/
theorem not_counted_of_loose {brace : Char} (hbrace : brace.toNat < 0x80) {before : List Char}
    (h : loose brace ' ' before = 0) (after : List UInt8) :
    ∀ i < (encode before).length, ¬Counted (encode before ++ after) brace i := by
  have hcount : (List.range' 0 (encode before).length).countP
      (Counted (encode before ++ after) brace ·) = 0 := by
    refine (countP_range' [] (encode before ++ after) brace _).trans ?_
    rw [List.take_left, ← h]
    exact looseBytes_encode hbrace ' ' before
  intro i hi hcounted
  rw [List.countP_eq_zero] at hcount
  exact hcount i (by simpa using hi) (by simpa using hcounted)

theorem encode_brace (before body : List Char) :
    encode (before ++ '{' :: body) = encode before ++ '{'.toUInt8 :: encode body := by
  have hbrace : String.utf8EncodeChar '{' = ['{'.toUInt8] := rfl
  rw [Text.Utf8.encode_append, Text.Utf8.encode_cons, hbrace, List.singleton_append]

section Brace

variable {before body w rest : List Char} (hlast : before.getLast?.getD ' ' ≠ '\\')

include hlast

theorem escaping_eq_false : escaping (encode before) = false := by
  rw [escaping_encode, decide_eq_false_iff_not]
  intro h
  simp [h] at hlast

/-- From the brace on, what is counted is what is open. -/
theorem count_brace (k : Nat) :
    count (encode (before ++ '{' :: body)) '{' (encode before).length
        ((encode before).length + k) =
      1 + looseBytes '{' false ((encode body).take k) ∧
    count (encode (before ++ '{' :: body)) '}' (encode before).length
        ((encode before).length + k) =
      looseBytes '}' false ((encode body).take k) := by
  rw [encode_brace, count_append, count_append, escaping_eq_false hlast, List.take_succ_cons,
    looseBytes, looseBytes]
  exact ⟨rfl, Nat.zero_add _⟩

theorem first_brace (hzero : loose '{' ' ' before = 0) :
    First (encode (before ++ '{' :: body)) (encode before).length := by
  rw [encode_brace]
  exact ⟨counted_append.2 ⟨rfl, escaping_eq_false hlast⟩, not_counted_of_loose (by decide) hzero _⟩

theorem region_of_stops (hzero : loose '{' ' ' before = 0) (h : Stops '{' 1 w) :
    Region (encode (before ++ '{' :: (w ++ rest))) (encode before).length
      ((encode before).length + (encode w).length) := by
  have htake : (encode (w ++ rest)).take (encode w).length = encode w := by
    rw [Text.Utf8.encode_append, List.take_left]
  have hcount := @count_brace before (w ++ rest) hlast
  have hloose {brace : Char} (hbrace : brace.toNat < 0x80) :
      looseBytes brace false (encode w) = loose brace '{' w := looseBytes_encode hbrace '{' w
  refine ⟨first_brace hlast hzero, ?_, ?_, ?_, fun i hle hlt => ?_⟩
  · cases w with
    | nil => exact absurd h.balanced (by simp [loose])
    | cons c w =>
      rw [Text.Utf8.encode_cons, List.length_append]
      have := List.length_pos_iff.2 (Text.Utf8.utf8EncodeChar_ne_nil c)
      omega
  · rw [encode_brace, Text.Utf8.encode_append]
    simp only [List.length_append, List.length_cons]
    omega
  · rw [(hcount _).1, (hcount _).2, htake, hloose (by decide), hloose (by decide), h.balanced]
  · obtain ⟨k, rfl⟩ := Nat.exists_eq_add_of_le (Nat.le_of_lt hlt)
    have hk : k < (encode w).length := by omega
    have hdeep := h.deep k hk
    rw [(hcount _).1, (hcount _).2, Text.Utf8.encode_append,
      List.take_append_of_le_length (Nat.le_of_lt hk)]
    exact Nat.ne_of_gt hdeep

end Brace

/-- What the search does: there is nothing to begin with, the braces stay open, or they balance. -/
theorem span?_cases (cs : List Char) :
    span? cs = none ∧ (∀ s, ¬First (encode cs) s) ∨
    (∃ before body, cs = before ++ '{' :: body ∧ loose '{' ' ' before = 0 ∧
      before.getLast?.getD ' ' ≠ '\\' ∧
      span? cs = none ∧ ∀ k, Deep 1 false ((encode body).take k)) ∨
    ∃ before w rest, cs = before ++ '{' :: (w ++ rest) ∧ loose '{' ' ' before = 0 ∧
      before.getLast?.getD ' ' ≠ '\\' ∧ span? cs = some ('{' :: w) ∧ Stops '{' 1 w := by
  rcases spanAfter_cases ' ' cs with ⟨hnone, hzero⟩ | ⟨before, body, rfl, hzero, hlast, hspan⟩
  · refine .inl ⟨hnone, fun s hfirst => ?_⟩
    have hlt : s < (encode cs).length := (List.getElem?_eq_some_iff.1 hfirst.counted.1).1
    exact not_counted_of_loose (by decide) hzero [] s hlt (by simpa using hfirst.counted)
  · refine .inr ?_
    cases hbalance : balance '{' 1 ['{'] body with
    | none =>
      exact .inl ⟨before, body, rfl, hzero, hlast, hspan.trans hbalance,
        fun k => deep_of_balance_eq_none Nat.one_pos hbalance⟩
    | some found =>
      obtain ⟨w, rest, rfl, rfl, hstops⟩ := exists_stops_of_balance Nat.one_pos hbalance
      exact .inr ⟨before, w, rest, rfl, hzero, hlast, hspan.trans hbalance, hstops⟩

theorem exists_region_of_span? {cs span : List Char} (h : span? cs = some span) :
    ∃ before after s e, cs = before ++ span ++ after ∧ Region (encode cs) s e ∧
      (encode before).length = s ∧ (encode (before ++ span)).length = e + 1 := by
  rcases span?_cases cs with ⟨hnone, -⟩ | ⟨_, _, -, -, -, hnone, -⟩ |
    ⟨before, w, rest, rfl, hzero, hlast, hsome, hstops⟩
  · simp [h] at hnone
  · simp [h] at hnone
  · obtain rfl : '{' :: w = span := by simpa [hsome] using h
    refine ⟨before, rest, _, _, by simp, region_of_stops hlast hzero hstops, rfl, ?_⟩
    rw [encode_brace, List.length_append, List.length_cons, Nat.add_assoc]

theorem not_region_of_span? {cs : List Char} (h : span? cs = none) (s e : Nat) :
    ¬Region (encode cs) s e := by
  intro hregion
  rcases span?_cases cs with ⟨-, hnone⟩ | ⟨before, body, rfl, hzero, hlast, -, hdeep⟩ |
    ⟨_, _, _, -, -, -, hsome, -⟩
  · exact hnone s hregion.first
  · obtain rfl := hregion.first.eq (first_brace hlast hzero)
    obtain ⟨k, rfl⟩ := Nat.exists_eq_add_of_le (Nat.le_of_lt hregion.lt)
    have hbalanced := hregion.balanced
    rw [(count_brace hlast k).1, (count_brace hlast k).2] at hbalanced
    exact Nat.ne_of_gt (hdeep k) hbalanced
  · simp [h] at hsome

/-- Up to where the braces balance, there are never more closing than opening ones. -/
theorem count_le_count {cs : List Char} {s i : Nat} (hfirst : First (encode cs) s) (hle : s ≤ i)
    (hbefore : ∀ e < i, ¬Region (encode cs) s e) :
    count (encode cs) '}' s i ≤ count (encode cs) '{' s i := by
  obtain ⟨k, rfl⟩ := Nat.exists_eq_add_of_le hle
  rcases span?_cases cs with ⟨-, hnone⟩ | ⟨before, body, rfl, hzero, hlast, -, hdeep⟩ |
    ⟨before, w, rest, rfl, hzero, hlast, -, hstops⟩
  · exact absurd hfirst (hnone s)
  · obtain rfl := hfirst.eq (first_brace hlast hzero)
    rw [(count_brace hlast k).1, (count_brace hlast k).2]
    exact Nat.le_of_lt (hdeep k)
  · obtain rfl := hfirst.eq (first_brace hlast hzero)
    have hregion := @region_of_stops before w rest hlast hzero hstops
    rcases Nat.lt_trichotomy k (encode w).length with hlt | rfl | hgt
    · rw [(count_brace hlast k).1, (count_brace hlast k).2, Text.Utf8.encode_append,
        List.take_append_of_le_length (Nat.le_of_lt hlt)]
      exact Nat.le_of_lt (hstops.deep k hlt)
    · exact Nat.le_of_eq hregion.balanced.symm
    · exact absurd hregion (hbefore _ (by omega))

/-- The span that is searched for consists of the bytes of the region. -/
theorem span?_eq_some_iff {cs span : List Char} : span? cs = some span ↔
    ∃ s e, Region (encode cs) s e ∧ encode span = between (encode cs) s e := by
  have hbytes {found : List Char} (h : span? cs = some found) :
      ∃ s e, Region (encode cs) s e ∧ encode found = between (encode cs) s e := by
    obtain ⟨before, after, s, e, heq, hregion, rfl, hend⟩ := exists_region_of_span? h
    refine ⟨_, e, hregion, ?_⟩
    rw [Text.Utf8.encode_append, List.length_append] at hend
    have hlength : e + 1 - (encode before).length = (encode found).length := by omega
    rw [between, hlength, heq, List.append_assoc, Text.Utf8.encode_append, Text.Utf8.encode_append,
      List.drop_left, List.take_left]
  refine ⟨hbytes, ?_⟩
  rintro ⟨s, e, hregion, heq⟩
  cases hspan : span? cs with
  | none => exact absurd hregion (not_region_of_span? hspan s e)
  | some found =>
    obtain ⟨s', e', hregion', heq'⟩ := hbytes hspan
    obtain ⟨rfl, rfl⟩ := hregion.eq hregion'
    rw [Option.some_inj, ← Text.Utf8.encode_inj, heq, heq']

end Places

/-! ## Reading with recovery -/

section Read

variable {α : Type} {reader : Reader α} {cs : List Char} {value : α} {cause : Fault}

theorem read_eq_ok_iff : read reader cs = .ok value ↔
    reader.text cs = .ok value ∨
      (∃ cause, reader.text cs = .error cause) ∧ ∃ span, span? cs = some span ∧
        reader.text span = .ok value := by
  constructor
  · intro h
    rcases text_of_read h with hwhole | hspan
    · exact .inl hwhole
    · cases ht : reader.text cs with
      | ok a =>
        rw [read_of_text ht] at h
        exact .inl h
      | error cause => exact .inr ⟨⟨cause, rfl⟩, hspan⟩
  · rintro (h | ⟨⟨cause, h⟩, span, hspan, hvalue⟩)
    · exact read_of_text h
    · exact read_of_span? h hspan hvalue

theorem read_eq_error_iff : read reader cs = .error cause ↔
    reader.text cs = .error cause ∧
      ∀ span value, span? cs = some span → reader.text span ≠ .ok value := by
  constructor
  · intro h
    cases ht : reader.text cs with
    | ok a =>
      rw [read_of_text ht] at h
      cases h
    | error other =>
      have hspan (span : List Char) (value : α) (hs : span? cs = some span) : reader.text span ≠
          .ok value := by
        intro hvalue
        rw [read_of_span? ht hs hvalue] at h
        cases h
      rw [read_eq_error ht hspan] at h
      exact ⟨h, hspan⟩
  · rintro ⟨h, hspan⟩
    exact read_eq_error h hspan

/-- A text is read as a whole or, failing that, from its region; otherwise the fault is that of the
whole. The braces of the region are never closed more often than opened, and it consists of whole
characters. -/
theorem read_region (reader : Reader α) (cs : List Char) :
    let bytes := encode cs
    (∀ value, read reader cs = .ok value ↔
      reader.text cs = .ok value ∨ (∃ cause, reader.text cs = .error cause) ∧
        ∃ s e span, Region bytes s e ∧ encode span = between bytes s e ∧
        reader.text span = .ok value) ∧
    (∀ cause, read reader cs = .error cause ↔
      reader.text cs = .error cause ∧ ∀ s e span value, Region bytes s e →
        encode span = between bytes s e → reader.text span ≠ .ok value) ∧
    (∀ s i, First bytes s → s ≤ i → (∀ e < i, ¬Region bytes s e) → 0 ≤ depth bytes s i) ∧
    ∀ s e, Region bytes s e → ∃ before span after, cs = before ++ span ++ after ∧
      (encode before).length = s ∧ (encode (before ++ span)).length = e + 1 := by
  refine ⟨fun value => ?_, fun cause => ?_, fun s i hfirst hle hbefore => ?_, fun s e hregion => ?_⟩
  · rw [read_eq_ok_iff]
    refine or_congr_right (and_congr_right fun _ => ?_)
    constructor
    · rintro ⟨span, hspan, hvalue⟩
      obtain ⟨s, e, hregion, hbytes⟩ := span?_eq_some_iff.1 hspan
      exact ⟨s, e, span, hregion, hbytes, hvalue⟩
    · rintro ⟨s, e, span, hregion, hbytes, hvalue⟩
      exact ⟨span, span?_eq_some_iff.2 ⟨s, e, hregion, hbytes⟩, hvalue⟩
  · rw [read_eq_error_iff]
    refine and_congr_right fun _ => ?_
    constructor
    · intro h s e span value hregion hbytes
      exact h span value (span?_eq_some_iff.2 ⟨s, e, hregion, hbytes⟩)
    · intro h span value hspan
      obtain ⟨s, e, hregion, hbytes⟩ := span?_eq_some_iff.1 hspan
      exact h s e span value hregion hbytes
  · exact Int.sub_nonneg_of_le (Int.ofNat_le.2 (count_le_count hfirst hle hbefore))
  · cases hspan : span? cs with
    | none => exact absurd hregion (not_region_of_span? hspan s e)
    | some span =>
      obtain ⟨before, after, s', e', heq, hregion', hstart, hend⟩ := exists_region_of_span? hspan
      obtain ⟨rfl, rfl⟩ := hregion.eq hregion'
      exact ⟨before, span, after, heq, hstart, hend⟩

theorem read_region_accent : ∃ (cs span : List Char) (bytes : List UInt8),
    cs = "ü\x7d \\\x7b \x7b\"items\":[\"é\"]\x7d \x7d".toList ∧
    span = "\x7b\"items\":[\"é\"]\x7d".toList ∧
    encode cs = bytes ∧ First bytes 7 ∧ Region bytes 7 22 ∧ encode span = between bytes 7 22 ∧
    (∀ value, CompilerOutput.reader.text cs ≠ .ok value) ∧
    read CompilerOutput.reader cs = .ok ⟨none, some [.string "é"]⟩ ∧ 0 ≤ depth bytes 7 22 ∧
    ∃ before span after, cs = before ++ span ++ after ∧ (encode before).length = 7 ∧
      (encode (before ++ span)).length = 22 + 1 := by
  let cs := "ü\x7d \\\x7b \x7b\"items\":[\"é\"]\x7d \x7d".toList
  obtain ⟨hok, -, hdepth, hwhole⟩ := read_region CompilerOutput.reader cs
  have hregion : Region (encode cs) 7 22 := by decide +kernel
  have hspan : encode "\x7b\"items\":[\"é\"]\x7d".toList = between (encode cs) 7 22 := by
    decide +kernel
  have hvalue : CompilerOutput.reader.text "\x7b\"items\":[\"é\"]\x7d".toList =
      .ok ⟨none, some [.string "é"]⟩ := by
    cbv
  have herror : ∀ value, CompilerOutput.reader.text cs ≠ .ok value :=
    Fault.ne_ok_of_isOk (by decide +kernel)
  refine ⟨cs, _, _, rfl, rfl, rfl, hregion.first, hregion, hspan, herror, ?_, ?_,
    hwhole 7 22 hregion⟩
  · exact (hok _).2 (.inr ⟨Fault.exists_eq_error herror, 7, 22, _, hregion, hspan, hvalue⟩)
  · exact hdepth 7 22 hregion.first (by decide) (by decide +kernel)

end Read

end EditorBridge.Recovery
