import EditorBridge.Command.Capture

/-!
# Decoding what was encoded

The bytes of a text decode to the text. Where they are cut in the middle of a character, the
characters before it are decoded and one mark stands for the rest.
-/

namespace EditorBridge

namespace Text.Utf8

/-- Whether bytes are just what a begun character owes, and complete it to `c`. -/
def Completes (c : Char) : Pending → List UInt8 → Prop
  | _, [] => False
  | p, b :: bs =>
    (p.low ≤ b.toNat ∧ b.toNat ≤ p.high) ∧
      if p.owed ≤ 1 then Char.ofNat (p.bits * 64 + b.toNat % 64) = c ∧ bs = []
      else Completes c ⟨p.owed - 1, 0x80, 0xBF, p.bits * 64 + b.toNat % 64⟩ bs

namespace Completes

variable {c : Char} {p : Pending} {bs : List UInt8}

theorem decodeFrom_append (h : Completes c p bs) (rest : List UInt8) :
    decodeFrom (some p) (bs ++ rest) = some c :: decodeFrom none rest := by
  induction bs generalizing p with
  | nil => exact h.elim
  | cons b bs ih =>
    obtain ⟨hb, h⟩ := h
    rw [List.cons_append, decodeFrom, step, if_pos hb]
    split at h
    · next ho =>
      obtain ⟨rfl, rfl⟩ := h
      simp [ho]
    · next ho => simpa [ho] using ih h

/-- A character that is cut off gives one mark. -/
theorem decodeFrom_take (h : Completes c p bs) {k : Nat} (hk : k < bs.length) :
    decodeFrom (some p) (bs.take k) = [none] := by
  induction bs generalizing p k with
  | nil => exact h.elim
  | cons b bs ih =>
    cases k with
    | zero => rfl
    | succ k =>
      obtain ⟨hb, h⟩ := h
      have hk : k < bs.length := Nat.lt_of_succ_lt_succ hk
      rw [List.take_succ_cons, decodeFrom, step, if_pos hb]
      split at h
      · next ho =>
        obtain ⟨-, rfl⟩ := h
        simp at hk
      · next ho => simpa [ho] using ih h hk

end Completes

section Bytes

variable {n : Nat}

theorem toNat_ofNat (h : n < 256) : (UInt8.ofNat n).toNat = n := by
  simp [Nat.mod_eq_of_lt h]

theorem begin_one (h : n < 0x80) : begin (UInt8.ofNat n) = ([some (Char.ofNat n)], none) := by
  rw [begin, toNat_ofNat (by omega), if_pos h]

theorem begin_two (h : 0xC2 ≤ n) (h' : n < 0xE0) :
    begin (UInt8.ofNat n) = ([], some ⟨1, 0x80, 0xBF, n - 0xC0⟩) := by
  rw [begin, toNat_ofNat (by omega), if_neg (by omega), if_neg (by omega), if_pos h']

/-- The second byte of three is bounded from below after the least first byte, so that no shorter
form would do, and from above where surrogates would follow. -/
theorem begin_three (h : 0xE0 ≤ n) (h' : n < 0xF0) :
    begin (UInt8.ofNat n) = ([],
      some ⟨2, if n = 0xE0 then 0xA0 else 0x80, if n = 0xED then 0x9F else 0xBF, n - 0xE0⟩) := by
  rw [begin, toNat_ofNat (by omega), if_neg (by omega), if_neg (by omega), if_neg (by omega)]
  by_cases h₁ : n = 0xE0
  · subst h₁
    rfl
  by_cases h₂ : n = 0xED
  · subst h₂
    rfl
  · simp only [h₁, h₂, h', if_true, if_false]

/-- The second byte of four is bounded from below after the least first byte, and from above where
the code points end. -/
theorem begin_four (h : 0xF0 ≤ n) (h' : n ≤ 0xF4) :
    begin (UInt8.ofNat n) = ([],
      some ⟨3, if n = 0xF0 then 0x90 else 0x80, if n = 0xF4 then 0x8F else 0xBF, n - 0xF0⟩) := by
  rw [begin, toNat_ofNat (by omega), if_neg (by omega), if_neg (by omega), if_neg (by omega),
    if_neg (by omega), if_neg (by omega), if_neg (by omega)]
  by_cases h₁ : n = 0xF0
  · subst h₁
    rfl
  by_cases h₂ : n = 0xF4
  · subst h₂
    rfl
  · have h₃ : n < 0xF4 := by omega
    simp only [h₁, h₂, h₃, if_true, if_false]

variable {c : Char} {low high bits : Nat}

theorem completes_last (hn : n < 256) (hl : low ≤ n) (hh : n ≤ high)
    (hc : Char.ofNat (bits * 64 + n % 64) = c) :
    Completes c ⟨1, low, high, bits⟩ [UInt8.ofNat n] := by
  rw [Completes, toNat_ofNat hn]
  exact ⟨⟨hl, hh⟩, hc, rfl⟩

theorem completes_cons {owed : Nat} {bs : List UInt8} (hn : n < 256) (hl : low ≤ n) (hh : n ≤ high)
    (h : Completes c ⟨owed + 1, 0x80, 0xBF, bits * 64 + n % 64⟩ bs) :
    Completes c ⟨owed + 2, low, high, bits⟩ (UInt8.ofNat n :: bs) := by
  rw [Completes, toNat_ofNat hn]
  exact ⟨⟨hl, hh⟩, h⟩

end Bytes

/-- The first byte of a character gives it, or begins it with the other bytes to complete it. -/
theorem utf8EncodeChar_cases (c : Char) :
    (∃ b, String.utf8EncodeChar c = [b] ∧ begin b = ([some c], none)) ∨
      ∃ b bs p, String.utf8EncodeChar c = b :: bs ∧ begin b = ([], some p) ∧ Completes c p bs := by
  have hv : c.val.toNat < 0xD800 ∨ 0xDFFF < c.val.toNat ∧ c.val.toNat < 0x110000 := c.valid
  have hc : Char.ofNat c.val.toNat = c := Char.ofNat_toNat c
  unfold String.utf8EncodeChar
  generalize c.val.toNat = n at hv hc
  have eq {m : Nat} (hm : m = n) : Char.ofNat m = c := by rw [hm, hc]
  simp only
  split
  · exact .inl ⟨_, rfl, by rw [begin_one (by omega), hc]⟩
  · refine .inr ?_
    split
    · refine ⟨_, _, _, rfl, begin_two (by omega) (by omega), ?_⟩
      exact completes_last (by omega) (by omega) (by omega) (eq (by omega))
    · split
      · refine ⟨_, _, _, rfl, begin_three (by omega) (by omega), ?_⟩
        refine completes_cons (by omega) (by split <;> omega) (by split <;> omega) ?_
        exact completes_last (by omega) (by omega) (by omega) (eq (by omega))
      · refine ⟨_, _, _, rfl, begin_four (by omega) (by omega), ?_⟩
        refine completes_cons (by omega) (by split <;> omega) (by split <;> omega) ?_
        refine completes_cons (by omega) (by omega) (by omega) ?_
        exact completes_last (by omega) (by omega) (by omega) (eq (by omega))

/-- A character is one byte, or all of its bytes are beyond those of such characters. -/
theorem utf8EncodeChar_ascii_or (c : Char) :
    c.toNat < 0x80 ∧ String.utf8EncodeChar c = [c.toUInt8] ∨
      0x80 ≤ c.toNat ∧ ∀ b ∈ String.utf8EncodeChar c, 0x80 ≤ b.toNat := by
  by_cases hc : c.toNat < 0x80
  · have hval : c.val ≤ 127 := UInt32.le_iff_toNat_le.2 (Nat.le_of_lt_succ hc)
    exact .inl ⟨hc, String.utf8EncodeChar_eq_singleton (Char.utf8Size_eq_one_iff.2 hval)⟩
  · have hbyte {n : Nat} (hlow : 0x80 ≤ n) (hhigh : n < 256) : 0x80 ≤ (UInt8.ofNat n).toNat := by
      rw [toNat_ofNat hhigh]
      exact hlow
    have hval : c.val.toNat = c.toNat := rfl
    refine .inr ⟨Nat.le_of_not_lt hc, ?_⟩
    unfold String.utf8EncodeChar
    simp only [hval]
    rw [if_neg (by omega)]
    split
    · simp only [List.forall_mem_cons]
      exact ⟨hbyte (by omega) (by omega), hbyte (by omega) (by omega), by simp⟩
    · split
      · simp only [List.forall_mem_cons]
        exact ⟨hbyte (by omega) (by omega), hbyte (by omega) (by omega),
          hbyte (by omega) (by omega), by simp⟩
      · simp only [List.forall_mem_cons]
        exact ⟨hbyte (by omega) (by omega), hbyte (by omega) (by omega),
          hbyte (by omega) (by omega), hbyte (by omega) (by omega), by simp⟩

theorem utf8EncodeChar_ne_nil (c : Char) : String.utf8EncodeChar c ≠ [] := by
  rw [← List.length_pos_iff, String.length_utf8EncodeChar]
  exact c.utf8Size_pos

theorem toNat_toUInt8 {c : Char} (hc : c.toNat < 0x80) : c.toUInt8.toNat = c.toNat := by
  have hmod : c.toUInt8.toNat = c.toNat % 256 := UInt32.toNat_toUInt8 c.val
  omega

theorem toUInt8_inj {c d : Char} (hc : c.toNat < 0x80) (hd : d.toNat < 0x80) :
    c.toUInt8 = d.toUInt8 ↔ c = d := by
  rw [← UInt8.toNat_inj, toNat_toUInt8 hc, toNat_toUInt8 hd, Char.toNat_inj]

/-- The bytes of a character decode to it. -/
theorem decodeFrom_utf8EncodeChar (c : Char) (rest : List UInt8) :
    decodeFrom none (String.utf8EncodeChar c ++ rest) = some c :: decodeFrom none rest := by
  rcases utf8EncodeChar_cases c with ⟨b, hb, hc⟩ | ⟨b, bs, p, hb, hp, hc⟩
  · rw [hb, List.singleton_append, decodeFrom, step, hc]
    rfl
  · rw [hb, List.cons_append, decodeFrom, step, hp]
    exact hc.decodeFrom_append rest

/-- The bytes of a text decode to it. -/
theorem decode?_encode (cs : List Char) : decode? (encode cs) = some cs := by
  induction cs with
  | nil => rfl
  | cons c cs ih =>
    rw [decode?, decode] at ih
    rw [encode_cons, decode?, decode, decodeFrom_utf8EncodeChar, List.mapM_cons, ih]
    rfl

theorem encode_inj {cs ds : List Char} : encode cs = encode ds ↔ cs = ds := by
  constructor
  · intro h
    rw [← Option.some_inj, ← decode?_encode, ← decode?_encode, h]
  · rintro rfl
    rfl

/-- A character that is cut off gives one mark, or nothing if it is cut off whole. -/
theorem decodeFrom_take_utf8EncodeChar {c : Char} {k : Nat}
    (hk : k < (String.utf8EncodeChar c).length) :
    decodeFrom none ((String.utf8EncodeChar c).take k) = if k = 0 then [] else [none] := by
  cases k with
  | zero => rfl
  | succ k =>
    rcases utf8EncodeChar_cases c with ⟨b, hb, -⟩ | ⟨b, bs, p, hb, hp, hc⟩
    · simp [hb] at hk
    · rw [hb] at hk ⊢
      rw [List.take_succ_cons, decodeFrom, step, hp]
      exact hc.decodeFrom_take (by simpa using hk)

/-- The bytes of a text that is cut decode to a proper beginning of the text, with a mark after it
if a character is cut. -/
theorem decode_take_encode {cs : List Char} {k : Nat} (hk : k < (encode cs).length) :
    ∃ before after, cs = before ++ after ∧ after ≠ [] ∧
      (decode ((encode cs).take k) = before.map some ∨
        decode ((encode cs).take k) = before.map some ++ [none]) := by
  induction cs generalizing k with
  | nil => simp at hk
  | cons c cs ih =>
    rw [encode_cons] at hk ⊢
    by_cases h : k < (String.utf8EncodeChar c).length
    · refine ⟨[], c :: cs, rfl, by simp, ?_⟩
      rw [List.take_append_of_le_length (Nat.le_of_lt h), decode, decodeFrom_take_utf8EncodeChar h]
      split <;> simp
    · obtain ⟨before, after, rfl, ha, hd⟩ := ih (k := k - (String.utf8EncodeChar c).length) (by
        rw [List.length_append] at hk
        omega)
      refine ⟨c :: before, after, rfl, ha, ?_⟩
      rw [List.take_append, List.take_of_length_le (Nat.le_of_not_lt h), decode,
        decodeFrom_utf8EncodeChar]
      rw [decode] at hd
      simpa using hd

end Text.Utf8

/-- Output that is cut inside of a text is a proper beginning of the text, with a replacement
character after it if a character is cut. -/
theorem capture_of_lt {cs : List Char} {limit : UInt64}
    (h : limit.toNat < (Text.Utf8.encode cs).length) (bytes : List UInt8) :
    ∃ before after, cs = before ++ after ∧ after ≠ [] ∧
      (capture limit (Text.Utf8.encode cs ++ bytes) = before ∨
        capture limit (Text.Utf8.encode cs ++ bytes) = before ++ [Text.Utf8.replacement]) := by
  -- The byte after the limit is read and then left out, except where its number wraps around.
  have hmin : min limit.toNat (limit + 1).toNat < (Text.Utf8.encode cs).length :=
    Nat.lt_of_le_of_lt (Nat.min_le_left _ _) h
  obtain ⟨before, after, hcs, ha, hd⟩ := Text.Utf8.decode_take_encode hmin
  refine ⟨before, after, hcs, ha, ?_⟩
  rw [capture, List.take_take, List.take_append_of_le_length (Nat.le_of_lt hmin),
    Text.Utf8.decodeLossy]
  rcases hd with hd | hd
  · exact .inl (by rw [hd]; simp [Function.comp_def])
  · exact .inr (by rw [hd]; simp [Function.comp_def])

end EditorBridge
