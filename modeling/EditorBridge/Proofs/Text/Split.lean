import EditorBridge.Text.Split

/-!
# Cutting at line breaks

Cutting a text into lines and these at carriage returns gives the same pieces as cutting at all line
feeds and carriage returns at once, up to empty ones. Joined pieces without breaks are found again
by cutting, and cutting at one separator gives the only pieces there are.
-/

namespace EditorBridge.Text

/-- Whether a character is a line feed or a carriage return. -/
def isBreak (c : Char) : Bool := c = '\n' || c = '\r'

/-- The pieces of a text between its separators. -/
structure Pieces (sep : Char) (cs : List Char) (pieces : List (List Char)) : Prop where
  ne_nil : pieces ≠ []
  join_eq : join [sep] pieces = cs
  notMem : ∀ piece ∈ pieces, sep ∉ piece

section Split

variable {p : Char → Bool} {c sep : Char} {cs piece : List Char} {pieces : List (List Char)}

theorem split_cons_of_neg (hc : p c = false) (hs : split p cs = piece :: pieces) :
    split p (c :: cs) = (c :: piece) :: pieces := by
  simp [split, hc, hs]

theorem split_append_cons (xs ys : List Char) (hc : p c) :
    split p (xs ++ c :: ys) = split p xs ++ split p ys := by
  induction xs with
  | nil => simp [split, hc]
  | cons x xs ih =>
    obtain ⟨piece, pieces, hs⟩ := List.exists_cons_of_ne_nil (split_ne_nil p xs)
    rw [hs, List.cons_append] at ih
    by_cases hx : p x
    · simp [split, hx, hs, ih]
    · rw [List.cons_append, split_cons_of_neg (by simpa using hx) ih,
        split_cons_of_neg (by simpa using hx) hs, List.cons_append]

theorem split_eq_singleton (h : ∀ c ∈ cs, p c = false) : split p cs = [cs] := by
  induction cs with
  | nil => rfl
  | cons c cs ih =>
    obtain ⟨hc, h⟩ := List.forall_mem_cons.1 h
    exact split_cons_of_neg hc (ih h)

/-- The characters of a piece are those of the text, and no separator is left among them. -/
theorem forall_of_mem_split (h : piece ∈ split p cs) : ∀ c ∈ piece, c ∈ cs ∧ p c = false := by
  induction cs generalizing piece with
  | nil => simp_all [split]
  | cons d cs ih =>
    have htail {other : List Char} (hother : other ∈ split p cs) : ∀ c ∈ other, c ∈ d :: cs ∧
        p c = false :=
      fun c hc => ⟨List.mem_cons_of_mem d (ih hother c hc).1, (ih hother c hc).2⟩
    by_cases hd : p d
    · rw [split, if_pos hd, List.mem_cons] at h
      rcases h with rfl | h
      · simp
      · exact htail h
    · obtain ⟨first, rest, hs⟩ := List.exists_cons_of_ne_nil (split_ne_nil p cs)
      rw [split_cons_of_neg (by simpa using hd) hs, List.mem_cons] at h
      rcases h with rfl | h
      · rw [List.forall_mem_cons]
        exact ⟨⟨List.mem_cons_self, by simpa using hd⟩, htail (by simp [hs])⟩
      · exact htail (by simp [hs, h])

/-- Joined pieces are found again by cutting. -/
theorem split_join (hsep : p sep) (hne : pieces ≠ [])
    (h : ∀ piece ∈ pieces, ∀ c ∈ piece, p c = false) : split p (join [sep] pieces) = pieces := by
  induction pieces with
  | nil => exact absurd rfl hne
  | cons piece pieces ih =>
    obtain ⟨hpiece, h⟩ := List.forall_mem_cons.1 h
    cases pieces with
    | nil => exact split_eq_singleton hpiece
    | cons next pieces =>
      rw [join_cons_cons, List.append_assoc, List.singleton_append, split_append_cons _ _ hsep,
        split_eq_singleton hpiece, ih (by simp) h, List.singleton_append]

theorem split_eq_iff : split (· = sep) cs = pieces ↔ Pieces sep cs pieces := by
  constructor
  · rintro rfl
    refine ⟨split_ne_nil _ cs, join_split sep cs, fun piece hpiece hsep => ?_⟩
    simpa using (forall_of_mem_split hpiece sep hsep).2
  · intro h
    rw [← h.join_eq]
    refine split_join (by simp) h.ne_nil fun piece hpiece c hc => ?_
    exact decide_eq_false fun heq => h.notMem piece hpiece (heq ▸ hc)

/-- Cutting the pieces once more is cutting at both kinds of separators. -/
theorem flatMap_split (p q : Char → Bool) (cs : List Char) :
    (split p cs).flatMap (split q) = split (fun c => p c || q c) cs := by
  induction cs with
  | nil => rfl
  | cons c cs ih =>
    by_cases hp : p c
    · simp [split, hp, ih]
    · obtain ⟨piece, pieces, hs⟩ := List.exists_cons_of_ne_nil (split_ne_nil p cs)
      rw [hs, List.flatMap_cons] at ih
      rw [split_cons_of_neg (by simpa using hp) hs, List.flatMap_cons]
      by_cases hq : q c
      · simp [split, hq, ← ih]
      · obtain ⟨first, rest, hf⟩ := List.exists_cons_of_ne_nil (split_ne_nil q piece)
        rw [hf, List.cons_append] at ih
        rw [split_cons_of_neg (by simpa using hq) hf, split_cons_of_neg (by simp [hp, hq]) ih.symm,
          List.cons_append]

end Split

theorem filter_split_dropFinalReturn (cs : List Char) :
    (split (· = '\r') (dropFinalReturn cs)).filter (· ≠ []) =
      (split (· = '\r') cs).filter (· ≠ []) := by
  rw [dropFinalReturn]
  split
  case isTrue h =>
    obtain ⟨rest, rfl⟩ := List.getLast?_eq_some_iff.1 h
    rw [split_append_cons _ _ (by simp), List.dropLast_concat]
    simp [split]
  case isFalse => rfl

theorem mem_of_mem_dropFinalReturn {c : Char} {cs : List Char} (h : c ∈ dropFinalReturn cs) :
    c ∈ cs := by
  rw [dropFinalReturn] at h
  split at h
  case isTrue => exact List.dropLast_subset cs h
  case isFalse => exact h

/-- There is no line feed in a line. -/
theorem notMem_of_mem_lines {line cs : List Char} (h : line ∈ lines cs) : '\n' ∉ line := by
  have hpieces := (split_eq_iff.1 (Eq.refl (split (· = '\n') cs))).notMem
  rcases List.mem_append.1 h with h | h
  · obtain ⟨piece, hpiece, rfl⟩ := List.mem_map.1 h
    exact fun hc => hpieces piece (List.dropLast_subset _ hpiece) (mem_of_mem_dropFinalReturn hc)
  · cases hlast : (split (· = '\n') cs).getLast? with
    | none => simp [hlast] at h
    | some last =>
      have hline : line = last := by
        rw [hlast, Option.getD_some] at h
        split at h
        · cases h
        · exact List.mem_singleton.1 h
      rw [hline]
      exact hpieces last (List.mem_of_getLast? hlast)

/-- The pieces of the lines of a text, cut at carriage returns, are those between its line breaks,
up to empty ones. -/
theorem filter_flatMap_lines (cs : List Char) :
    ((lines cs).flatMap (split (· = '\r'))).filter (· ≠ []) =
      (split isBreak cs).filter (· ≠ []) := by
  have hbreak : split isBreak cs = (split (· = '\n') cs).flatMap (split (· = '\r')) :=
    (flatMap_split _ _ cs).symm
  rw [hbreak, List.filter_flatMap, List.filter_flatMap, lines]
  rcases List.eq_nil_or_concat (split (· = '\n') cs) with hnil | ⟨init, last, hs⟩
  · exact absurd hnil (split_ne_nil _ cs)
  · rw [hs, List.concat_eq_append, List.dropLast_concat, List.getLast?_concat, Option.getD_some,
      List.flatMap_append, List.flatMap_append, List.flatMap_map]
    simp only [filter_split_dropFinalReturn]
    by_cases hlast : last = []
    · simp [hlast, split]
    · simp [hlast]

end EditorBridge.Text
