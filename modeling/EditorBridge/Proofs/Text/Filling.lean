import EditorBridge.Text.Split
import Mathlib.Data.List.Infix
import Mathlib.Data.List.Nodup

/-!
# Filling in places of a text

A place is a piece of text that stands for another one. Places may be filled in all at once, so that
only those of the text itself count, or one kind after the other, so that what was put in is looked
at again. Both come to the same unless a place turns up that was not there before: in a text that is
put in, or across one of its ends.
-/

namespace EditorBridge.Text

theorem startsWith_iff {pat cs : List Char} : startsWith pat cs = true ↔ pat <+: cs := by
  rw [startsWith, Option.isSome_iff_exists]
  constructor
  · rintro ⟨rest, h⟩
    exact ⟨rest, (dropPrefix?_eq_some.1 h).symm⟩
  · rintro ⟨rest, rfl⟩
    exact ⟨rest, dropPrefix?_eq_some.2 rfl⟩

theorem contains_iff_isInfix {pat cs : List Char} : contains pat cs = true ↔ pat <:+: cs := by
  induction cs with
  | nil => rw [contains, List.isEmpty_iff, List.infix_nil]
  | cons c cs ih => rw [contains, Bool.or_eq_true, startsWith_iff, ih, List.infix_cons_iff]

/-- The number of places in a text. -/
def occurrences (places : List (List Char)) : List Char → Nat
  | [] => 0
  | c :: cs => (if places.any (startsWith · (c :: cs)) then 1 else 0) + occurrences places cs

/-- Places with what is put in for them. -/
abbrev Filling := List (List Char × List Char)

namespace Filling

/-- The places that are filled in. -/
def places (f : Filling) : List (List Char) := f.map (·.1)

/-- Fills in places from the left, while `skip` more characters belong to the place filled in
last. -/
def fillFrom (f : Filling) : (skip : Nat) → List Char → List Char
  | _, [] => []
  | skip + 1, _ :: cs => fillFrom f skip cs
  | 0, c :: cs =>
    match f.find? fun entry => startsWith entry.1 (c :: cs) with
    | some entry => entry.2 ++ fillFrom f (entry.1.length - 1) cs
    | none => c :: fillFrom f 0 cs

/-- The text with all of its places filled in at once. -/
def fill (f : Filling) (cs : List Char) : List Char := fillFrom f 0 cs

/-- Places that can be told apart: each begins with a mark that is nowhere else in it, none begins
another one, and none is there twice. -/
structure Clear (mark : Char) (f : Filling) : Prop where
  marked : ∀ place ∈ f.places, place.head? = some mark ∧ mark ∉ place.tail
  eq_of_isPrefix : ∀ place ∈ f.places, ∀ other ∈ f.places, place <+: other → place = other
  nodup : f.places.Nodup

/-- A text that makes no place wherever it is put in: it has no mark, and begins with a character of
no place. -/
def Inert (mark : Char) (places : List (List Char)) (text : List Char) : Prop :=
  mark ∉ text ∧ ∃ c rest, text = c :: rest ∧ ∀ place ∈ places, c ∉ place

@[simp] theorem fill_nil (f : Filling) : f.fill [] = [] := rfl

theorem fillFrom_append (f : Filling) (xs ys : List Char) :
    f.fillFrom xs.length (xs ++ ys) = f.fill ys := by
  induction xs with
  | nil => rfl
  | cons x xs ih => exact ih

theorem replace_eq_fill (pat new cs : List Char) : replace pat new cs = fill [(pat, new)] cs := by
  have hfrom (skip : Nat) : replaceFrom pat new skip cs = fillFrom [(pat, new)] skip cs := by
    induction cs generalizing skip with
    | nil => cases skip <;> rfl
    | cons c cs ih =>
      cases skip with
      | succ skip => exact ih skip
      | zero =>
        rw [replaceFrom, fillFrom, ih, ih, List.find?_cons]
        cases startsWith pat (c :: cs) <;> rfl
  exact hfrom 0

variable {f : Filling} {mark c : Char} {rest xs ys : List Char}

/-- A character at which no place begins stays. -/
theorem fill_cons (h : ∀ entry ∈ f, ¬entry.1 <+: c :: rest) :
    f.fill (c :: rest) = c :: f.fill rest := by
  have hnone : (f.find? fun entry => startsWith entry.1 (c :: rest)) = none := by
    rw [List.find?_eq_none]
    intro entry hentry
    rw [startsWith_iff]
    exact h entry hentry
  rw [fill, fillFrom, hnone]
  rfl

theorem any_places_iff {cs : List Char} :
    f.places.any (startsWith · cs) = true ↔ ∃ entry ∈ f, entry.1 <+: cs := by
  simp only [places, List.any_map, List.any_eq_true, Function.comp_apply, startsWith_iff]

theorem occurrences_cons (h : ∀ entry ∈ f, ¬entry.1 <+: c :: rest) :
    occurrences f.places (c :: rest) = occurrences f.places rest := by
  rw [occurrences, if_neg, Nat.zero_add]
  rw [any_places_iff]
  rintro ⟨entry, hentry, hbegins⟩
  exact h entry hentry hbegins

namespace Clear

variable {g : Filling} {entry other : List Char × List Char} (hf : Clear mark f)

include hf

theorem sublist (h : List.Sublist g f) : Clear mark g := by
  have hplaces : List.Sublist g.places f.places := h.map _
  refine ⟨?_, ?_, hf.nodup.sublist hplaces⟩
  · intro place hplace
    exact hf.marked place (hplaces.subset hplace)
  · intro place hplace other hother
    exact hf.eq_of_isPrefix place (hplaces.subset hplace) other (hplaces.subset hother)

theorem exists_cons (hentry : entry ∈ f) : ∃ tail, entry.1 = mark :: tail ∧ mark ∉ tail := by
  obtain ⟨hhead, hmark⟩ := hf.marked entry.1 (List.mem_map_of_mem hentry)
  obtain ⟨tail, htail⟩ := List.head?_eq_some_iff.1 hhead
  rw [htail] at hmark
  exact ⟨tail, htail, hmark⟩

/-- Only one place begins a text. -/
theorem isPrefix_append_iff (hentry : entry ∈ f) (hother : other ∈ f) :
    entry.1 <+: other.1 ++ rest ↔ entry = other := by
  have hentry' : entry.1 ∈ f.places := List.mem_map_of_mem hentry
  have hother' : other.1 ∈ f.places := List.mem_map_of_mem hother
  constructor
  · intro h
    apply List.inj_on_of_nodup_map hf.nodup hentry hother
    rcases List.prefix_or_prefix_of_prefix h (List.prefix_append other.1 rest) with h | h
    · exact hf.eq_of_isPrefix entry.1 hentry' other.1 hother' h
    · exact (hf.eq_of_isPrefix other.1 hother' entry.1 hentry' h).symm
  · rintro rfl
    exact List.prefix_append ..

theorem not_isPrefix (hc : c ≠ mark) : ∀ entry ∈ f, ¬entry.1 <+: c :: rest := by
  intro entry hentry h
  obtain ⟨tail, htail, -⟩ := hf.exists_cons hentry
  rw [htail, List.cons_prefix_cons] at h
  exact hc h.1.symm

/-- A text without a mark stays. -/
theorem fill_append (hxs : mark ∉ xs) : f.fill (xs ++ ys) = xs ++ f.fill ys := by
  induction xs with
  | nil => rfl
  | cons x xs ih =>
    obtain ⟨hx, hxs⟩ := not_or.1 (mt List.mem_cons.2 hxs)
    rw [List.cons_append, fill_cons (hf.not_isPrefix (Ne.symm hx)), ih hxs, List.cons_append]

theorem occurrences_append (hxs : mark ∉ xs) :
    occurrences f.places (xs ++ ys) = occurrences f.places ys := by
  induction xs with
  | nil => rfl
  | cons x xs ih =>
    obtain ⟨hx, hxs⟩ := not_or.1 (mt List.mem_cons.2 hxs)
    rw [List.cons_append, occurrences_cons (hf.not_isPrefix (Ne.symm hx)), ih hxs]

theorem fill_place (hentry : entry ∈ f) : f.fill (entry.1 ++ rest) = entry.2 ++ f.fill rest := by
  have hfind : (f.find? fun other => startsWith other.1 (entry.1 ++ rest)) = some entry := by
    cases hfind : f.find? fun other => startsWith other.1 (entry.1 ++ rest) with
    | none =>
      have hnone := List.find?_eq_none.1 hfind entry hentry
      exact absurd (startsWith_iff.2 (List.prefix_append ..)) hnone
    | some other =>
      have hbegins := List.find?_some hfind
      simp only [startsWith_iff, hf.isPrefix_append_iff (List.mem_of_find?_eq_some hfind) hentry]
        at hbegins
      rw [hbegins]
  obtain ⟨tail, htail, -⟩ := hf.exists_cons hentry
  rw [htail, List.cons_append] at hfind ⊢
  have hskip : entry.1.length - 1 = tail.length := by
    rw [htail, List.length_cons, Nat.add_sub_cancel]
  rw [fill, fillFrom, hfind]
  simp only [hskip, fillFrom_append]

theorem fill_alone (hentry : entry ∈ f) : f.fill entry.1 = entry.2 := by
  rw [← List.append_nil entry.1, hf.fill_place hentry, fill_nil, List.append_nil]

theorem occurrences_place (hentry : entry ∈ f) :
    occurrences f.places (entry.1 ++ rest) = 1 + occurrences f.places rest := by
  obtain ⟨tail, htail, hmark⟩ := hf.exists_cons hentry
  have hany : f.places.any (startsWith · (entry.1 ++ rest)) = true :=
    any_places_iff.2 ⟨entry, hentry, List.prefix_append ..⟩
  rw [htail, List.cons_append] at hany ⊢
  rw [occurrences, if_pos hany, hf.occurrences_append hmark]

/-- No other place begins where a place stands. -/
theorem not_isPrefix_place (hsub : List.Sublist g f) (hentry : entry ∈ f) (hnot : entry ∉ g)
    (rest : List Char) : ∀ other ∈ g, ¬other.1 <+: entry.1 ++ rest := by
  intro other hother h
  rw [hf.isPrefix_append_iff (hsub.subset hother) hentry] at h
  exact hnot (h ▸ hother)

/-- A place that is left as it is stays, and what follows is filled in. -/
theorem fill_other (hsub : List.Sublist g f) (hentry : entry ∈ f) (hnot : entry ∉ g) :
    g.fill (entry.1 ++ rest) = entry.1 ++ g.fill rest := by
  have hnone := hf.not_isPrefix_place hsub hentry hnot rest
  obtain ⟨tail, htail, hmark⟩ := hf.exists_cons hentry
  rw [htail, List.cons_append] at hnone ⊢
  rw [fill_cons hnone, (hf.sublist hsub).fill_append hmark, List.cons_append]

theorem occurrences_other (hsub : List.Sublist g f) (hentry : entry ∈ f) (hnot : entry ∉ g) :
    occurrences g.places (entry.1 ++ rest) = occurrences g.places rest := by
  have hnone := hf.not_isPrefix_place hsub hentry hnot rest
  obtain ⟨tail, htail, hmark⟩ := hf.exists_cons hentry
  rw [htail, List.cons_append] at hnone ⊢
  rw [occurrences_cons hnone, (hf.sublist hsub).occurrences_append hmark]

/-- A text is empty, begins with a place, or with a character at which no place begins. -/
@[elab_as_elim]
theorem induction {motive : List Char → Prop} (nil : motive [])
    (place : ∀ entry ∈ f, ∀ rest, motive rest → motive (entry.1 ++ rest))
    (letter : ∀ c rest, (∀ entry ∈ f, ¬entry.1 <+: c :: rest) → motive rest → motive (c :: rest))
    (cs : List Char) : motive cs := by
  induction hn : cs.length using Nat.strong_induction_on generalizing cs with
  | h n ih =>
    cases cs with
    | nil => exact nil
    | cons c cs =>
      by_cases h : ∃ entry ∈ f, entry.1 <+: c :: cs
      · obtain ⟨entry, hentry, rest, hrest⟩ := h
        obtain ⟨tail, htail, -⟩ := hf.exists_cons hentry
        have hlt : rest.length < n := by
          rw [← hn, ← hrest, htail, List.length_append, List.length_cons]
          omega
        rw [← hrest]
        exact place entry hentry rest (ih _ hlt rest rfl)
      · have hlt : cs.length < n := by
          rw [← hn, List.length_cons]
          omega
        exact letter c cs (fun entry hentry hp => h ⟨entry, hentry, hp⟩) (ih _ hlt cs rfl)

theorem isInfix_of_append (hentry : entry ∈ f) (hxs : mark ∉ xs) (h : entry.1 <:+: xs ++ ys) :
    entry.1 <:+: ys := by
  induction xs with
  | nil => exact h
  | cons x xs ih =>
    obtain ⟨hx, hxs⟩ := not_or.1 (mt List.mem_cons.2 hxs)
    rcases List.infix_cons_iff.1 h with hbegins | h
    · exact absurd hbegins (hf.not_isPrefix (Ne.symm hx) entry hentry)
    · exact ih hxs h

/-- What is put in for a place of a text is found in the filled text. -/
theorem isInfix_fill {cs : List Char} (hentry : entry ∈ f) (h : entry.1 <:+: cs) :
    entry.2 <:+: f.fill cs := by
  induction cs using hf.induction with
  | nil =>
    obtain ⟨tail, htail, -⟩ := hf.exists_cons hentry
    rw [htail, List.infix_nil] at h
    cases h
  | place other hother rest ih =>
    rw [hf.fill_place hother]
    by_cases heq : entry = other
    · rw [heq]
      exact (List.prefix_append ..).isInfix
    · obtain ⟨tail, htail, hmark⟩ := hf.exists_cons hother
      have hbegins : ¬entry.1 <+: other.1 ++ rest := mt (hf.isPrefix_append_iff hentry hother).1 heq
      rw [htail, List.cons_append] at h hbegins
      have hrest := (List.infix_cons_iff.1 h).resolve_left hbegins
      exact (ih (hf.isInfix_of_append hentry hmark hrest)).trans (List.suffix_append ..).isInfix
  | letter c rest hnone ih =>
    rw [fill_cons hnone]
    exact (ih ((List.infix_cons_iff.1 h).resolve_left (hnone entry hentry))).trans
      (List.suffix_cons ..).isInfix

end Clear

/-! ## One after the other -/

section After

variable {f g : Filling} {mark : Char}

theorem occurrences_le_append (places : List (List Char)) (xs ys : List Char) :
    occurrences places ys ≤ occurrences places (xs ++ ys) := by
  induction xs with
  | nil => exact Nat.le_refl _
  | cons x xs ih => exact Nat.le_trans ih (Nat.le_add_left ..)

/-- A text stays if no place begins in it, be it with what follows. -/
theorem fill_append_of_occurrences {xs ys : List Char}
    (h : occurrences g.places (xs ++ ys) = occurrences g.places ys) :
    g.fill (xs ++ ys) = xs ++ g.fill ys := by
  induction xs with
  | nil => rfl
  | cons x xs ih =>
    have hle := occurrences_le_append g.places xs ys
    rw [List.cons_append, occurrences] at h
    have hnone : ∀ entry ∈ g, ¬entry.1 <+: x :: (xs ++ ys) := by
      intro entry hentry hbegins
      rw [if_pos (any_places_iff.2 ⟨entry, hentry, hbegins⟩)] at h
      omega
    rw [List.cons_append, fill_cons hnone, ih (by omega), List.cons_append]

theorem fill_empty (cs : List Char) : fill [] cs = cs := by
  induction cs with
  | nil => rfl
  | cons c cs ih => rw [fill_cons (by simp), ih]

/-- What begins a filled text begins the text, if nothing of it was put in. -/
theorem isPrefix_of_isPrefix_fill (hf : Clear mark f) {piece cs : List Char}
    (hpiece : ∀ entry ∈ f, ∃ d text, entry.2 = d :: text ∧ d ∉ piece) (h : piece <+: f.fill cs) :
    piece <+: cs := by
  induction cs using hf.induction generalizing piece with
  | nil => exact h
  | place entry hentry rest ih =>
    obtain ⟨d, text, htext, hd⟩ := hpiece entry hentry
    rw [hf.fill_place hentry, htext, List.cons_append] at h
    cases piece with
    | nil => exact List.nil_prefix
    | cons p piece =>
      obtain ⟨rfl, -⟩ := List.cons_prefix_cons.1 h
      exact absurd List.mem_cons_self hd
  | letter c rest hnone ih =>
    rw [fill_cons hnone] at h
    cases piece with
    | nil => exact List.nil_prefix
    | cons p piece =>
      obtain ⟨rfl, hrest⟩ := List.cons_prefix_cons.1 h
      rw [List.cons_prefix_cons]
      refine ⟨rfl, ih ?_ hrest⟩
      intro entry hentry
      obtain ⟨d, text, htext, hd⟩ := hpiece entry hentry
      exact ⟨d, text, htext, fun hmem => hd (List.mem_cons_of_mem _ hmem)⟩

variable (hclear : Clear mark (f ++ g))

include hclear

theorem Clear.notMem {entry : List Char × List Char} (hf : entry ∈ f) : entry ∉ g := by
  intro hg
  have hnodup := hclear.nodup
  rw [places, List.map_append, List.nodup_append] at hnodup
  exact hnodup.2.2 entry.1 (List.mem_map_of_mem hf) entry.1 (List.mem_map_of_mem hg) rfl

/-- A text begins with a place of the one filling or of the other, or no place begins with its first
character. In each case it is known what filling in the ones does to it, and how many of the others
it has. -/
@[elab_as_elim]
theorem Clear.induction_append {motive : List Char → Prop} (nil : motive [])
    (former : ∀ entry ∈ f, ∀ rest, f.fill (entry.1 ++ rest) = entry.2 ++ f.fill rest →
      occurrences g.places (entry.1 ++ rest) = occurrences g.places rest → motive rest →
      motive (entry.1 ++ rest))
    (latter : ∀ entry ∈ g, ∀ rest, f.fill (entry.1 ++ rest) = entry.1 ++ f.fill rest → motive rest →
      motive (entry.1 ++ rest))
    (letter : ∀ c rest, (∀ entry ∈ f ++ g, ¬entry.1 <+: c :: rest) →
      f.fill (c :: rest) = [c] ++ f.fill rest →
      occurrences g.places (c :: rest) = occurrences g.places rest → motive rest →
      motive (c :: rest))
    (cs : List Char) : motive cs := by
  induction cs using hclear.induction with
  | nil => exact nil
  | place entry hentry rest ih =>
    rcases List.mem_append.1 hentry with hmem | hmem
    · refine former entry hmem rest ?_ ?_ ih
      · exact (hclear.sublist (List.sublist_append_left ..)).fill_place hmem
      · exact hclear.occurrences_other (List.sublist_append_right ..) hentry (hclear.notMem hmem)
    · refine latter entry hmem rest ?_ ih
      exact hclear.fill_other (List.sublist_append_left ..) hentry fun h => hclear.notMem h hmem
  | letter c rest hnone ih =>
    refine letter c rest hnone ?_ ?_ ih
    · exact fill_cons fun entry hentry => hnone entry (List.mem_append_left _ hentry)
    · exact occurrences_cons fun entry hentry => hnone entry (List.mem_append_right _ hentry)

/-- No place is lost by filling in others. -/
theorem occurrences_le_fill (cs : List Char) :
    occurrences g.places cs ≤ occurrences g.places (f.fill cs) := by
  have hg : Clear mark g := hclear.sublist (List.sublist_append_right ..)
  induction cs using hclear.induction_append with
  | nil => exact Nat.le_refl _
  | former entry hentry rest hfill hcount ih =>
    rw [hfill, hcount]
    exact Nat.le_trans ih (occurrences_le_append ..)
  | latter entry hentry rest hfill ih =>
    rw [hfill, hg.occurrences_place hentry, hg.occurrences_place hentry]
    exact Nat.add_le_add_left ih 1
  | letter c rest hnone hfill hcount ih =>
    rw [hfill, hcount]
    exact Nat.le_trans ih (occurrences_le_append ..)

/-- Where no new place has turned up, filling in one after the other is filling in at once. -/
theorem fill_fill {cs : List Char}
    (h : occurrences g.places (f.fill cs) = occurrences g.places cs) :
    g.fill (f.fill cs) = fill (f ++ g) cs := by
  have hg : Clear mark g := hclear.sublist (List.sublist_append_right ..)
  induction cs using hclear.induction_append with
  | nil => rfl
  | former entry hentry rest hfill hcount ih =>
    -- Neither what is put in nor the rest has a new place.
    have hrest := occurrences_le_fill hclear rest
    have htext := occurrences_le_append g.places entry.2 (f.fill rest)
    rw [hfill, hcount] at h
    rw [hfill, fill_append_of_occurrences (by omega), ih (by omega),
      hclear.fill_place (List.mem_append_left _ hentry)]
  | latter entry hentry rest hfill ih =>
    rw [hfill, hg.occurrences_place hentry, hg.occurrences_place hentry] at h
    rw [hfill, hg.fill_place hentry, ih (by omega),
      hclear.fill_place (List.mem_append_right _ hentry)]
  | letter c rest hnone hfill hcount ih =>
    have hrest := occurrences_le_fill hclear rest
    have hletter := occurrences_le_append g.places [c] (f.fill rest)
    rw [hfill, hcount] at h
    rw [hfill, fill_append_of_occurrences (by omega), ih (by omega), fill_cons hnone]
    rfl

/-- With each place that is filled in a mark goes. -/
theorem count_fill (hvalues : ∀ entry ∈ g, mark ∉ entry.2) (cs : List Char) :
    (fill (f ++ g) cs).count mark + occurrences g.places cs = (f.fill cs).count mark := by
  have hg : Clear mark g := hclear.sublist (List.sublist_append_right ..)
  induction cs using hclear.induction_append with
  | nil => rfl
  | former entry hentry rest hfill hcount ih =>
    rw [hclear.fill_place (List.mem_append_left _ hentry), hfill, hcount, List.count_append,
      List.count_append]
    omega
  | latter entry hentry rest hfill ih =>
    obtain ⟨tail, htail, hmark⟩ := hg.exists_cons hentry
    have hone : entry.1.count mark = 1 := by
      rw [htail, List.count_cons_self, List.count_eq_zero.2 hmark]
    rw [hclear.fill_place (List.mem_append_right _ hentry), hfill, hg.occurrences_place hentry,
      List.count_append, List.count_append, hone, List.count_eq_zero.2 (hvalues entry hentry)]
    omega
  | letter c rest hnone hfill hcount ih =>
    rw [fill_cons hnone, ← List.singleton_append, hfill, hcount, List.count_append,
      List.count_append]
    omega

/-- Filling in one after the other is filling in at once just if no new place turns up. -/
theorem fill_fill_iff (hvalues : ∀ entry ∈ g, mark ∉ entry.2) (cs : List Char) :
    g.fill (f.fill cs) = fill (f ++ g) cs ↔
      occurrences g.places (f.fill cs) = occurrences g.places cs := by
  refine ⟨fun h => ?_, fill_fill hclear⟩
  have hg : Clear mark ([] ++ g) := hclear.sublist (List.sublist_append_right ..)
  -- The marks that are left tell how many places were filled in.
  have hafter := count_fill hg hvalues (f.fill cs)
  have honce := count_fill hclear hvalues cs
  rw [List.nil_append, fill_empty] at hafter
  rw [h] at hafter
  omega

/-- No new place turns up if none is made by what is put in. -/
theorem occurrences_fill (hinert : ∀ entry ∈ f, Inert mark g.places entry.2) (cs : List Char) :
    occurrences g.places (f.fill cs) = occurrences g.places cs := by
  have hf : Clear mark f := hclear.sublist (List.sublist_append_left ..)
  have hg : Clear mark g := hclear.sublist (List.sublist_append_right ..)
  induction cs using hclear.induction_append with
  | nil => rfl
  | former entry hentry rest hfill hcount ih =>
    rw [hfill, hcount, hg.occurrences_append (hinert entry hentry).1, ih]
  | latter entry hentry rest hfill ih =>
    rw [hfill, hg.occurrences_place hentry, hg.occurrences_place hentry, ih]
  | letter c rest hnone hfill hcount ih =>
    have hnew : ∀ other ∈ g, ¬other.1 <+: c :: f.fill rest := by
      intro other hother h
      refine hnone other (List.mem_append_right _ hother)
        (isPrefix_of_isPrefix_fill hf ?_ (hfill ▸ h))
      intro entry hentry
      obtain ⟨-, d, text, htext, hd⟩ := hinert entry hentry
      exact ⟨d, text, htext, hd other.1 (List.mem_map_of_mem hother)⟩
    rw [hfill, hcount, List.singleton_append, occurrences_cons hnew, ih]

end After

end Filling

end EditorBridge.Text
