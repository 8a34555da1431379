import EditorBridge.Diagnostic.Line
import Mathlib.Data.List.TakeDrop
import Mathlib.Data.List.TakeWhile

/-!
# Shapes of lines

The shapes of a line, said without a search, and what the search for each of them finds.
-/

namespace EditorBridge.Log

/-- One digit or more, of any script. -/
def IsNumber (cs : List Char) : Prop := cs ≠ [] ∧ ∀ c ∈ cs, Text.isDigit c

/-- Line and column, with the colons around them. -/
def mark (line column : List Char) : List Char := ':' :: line ++ ':' :: column ++ [':']

/-- `<message> at <path>:<line>:<column>` stands in the line. -/
def IsTrace (cs : List Char) : Prop :=
  ∃ message path line column rest, message ≠ [] ∧ path ≠ [] ∧ IsNumber line ∧ IsNumber column ∧
    cs = message ++ " at ".toList ++ path ++ ':' :: line ++ ':' :: column ++ rest

/-- `<path>:<line>:<column>: <message>` stands in the line. -/
def IsLocated (cs : List Char) : Prop :=
  ∃ before path line column message, path ≠ [] ∧
    (∀ c ∈ path, Text.isBlank c = false) ∧ IsNumber line ∧
    IsNumber column ∧ message ≠ [] ∧ cs = before ++ path ++ mark line column ++ message

/-- `<path>:<line>:<column>:` stands in the line. -/
def IsHeader (cs : List Char) : Prop :=
  ∃ before path line column rest, path ≠ [] ∧ (∀ c ∈ path, Text.isBlank c = false) ∧ IsNumber line ∧
    IsNumber column ∧ cs = before ++ path ++ mark line column ++ rest

/-- The line begins with `<code>:`. -/
def IsCoded (cs : List Char) : Prop := ∃ code message, IsNumber code ∧ cs = code ++ ':' :: message

theorem IsLocated.isHeader {cs : List Char} (h : IsLocated cs) : IsHeader cs := by
  obtain ⟨before, path, line, column, message, hp, hb, hl, hc, -, rfl⟩ := h
  exact ⟨before, path, line, column, message, hp, hb, hl, hc, rfl⟩

/-! ## Searching -/

section Search

variable {α : Type} {allowed : Char → Bool} {accept find : List Char → Option α}
  {piece cs rest : List Char} {a : α}

theorem isSome_longest?_cons {c : Char} : (longest? allowed accept piece (c :: cs)).isSome ↔
    allowed c ∧ ((longest? allowed accept (c :: piece) cs).isSome ∨ (accept cs).isSome) := by
  rw [longest?]
  by_cases hc : allowed c
  · cases longest? allowed accept (c :: piece) cs <;> simp [hc]
  · simp [hc]

theorem isSome_longest? : (longest? allowed accept piece cs).isSome ↔
    ∃ p rest, cs = p ++ rest ∧ p ≠ [] ∧ (∀ c ∈ p, allowed c) ∧ (accept rest).isSome := by
  induction cs generalizing piece with
  | nil =>
    simp only [longest?, Option.isSome_none, Bool.false_eq_true, false_iff]
    rintro ⟨p, rest, h, hp, -⟩
    exact hp (List.append_eq_nil_iff.1 h.symm).1
  | cons c cs ih =>
    rw [isSome_longest?_cons, ih]
    constructor
    · rintro ⟨hc, ⟨p, rest, rfl, -, hall, ha⟩ | ha⟩
      · exact ⟨c :: p, rest, rfl, by simp, by simpa [hc] using hall, ha⟩
      · exact ⟨[c], cs, rfl, by simp, by simpa using hc, ha⟩
    · rintro ⟨p, rest, hcs, hp, hall, ha⟩
      obtain ⟨d, p, rfl⟩ := List.exists_cons_of_ne_nil hp
      obtain ⟨rfl, rfl⟩ := List.cons.inj hcs
      obtain ⟨hc, hall⟩ := List.forall_mem_cons.1 hall
      refine ⟨hc, ?_⟩
      by_cases hp : p = []
      · subst hp
        exact .inr ha
      · exact .inl ⟨p, rest, rfl, hp, hall, ha⟩

/-- A piece is found if its rest is accepted and that of no longer piece is. -/
theorem longest?_append {p : List Char} (hp : p ≠ []) (hall : ∀ c ∈ p, allowed c)
    (ha : accept rest = some a)
    (hmax : ∀ q rest', rest = q ++ rest' → q ≠ [] → (∀ c ∈ q, allowed c) → accept rest' = none) :
    longest? allowed accept piece (p ++ rest) = some (piece.reverse ++ p, a) := by
  induction p generalizing piece with
  | nil => exact absurd rfl hp
  | cons c p ih =>
    obtain ⟨hc, hall⟩ := List.forall_mem_cons.1 hall
    rw [List.cons_append, longest?, if_pos hc]
    by_cases hp : p = []
    · subst hp
      have hnone : longest? allowed accept (c :: piece) rest = none := by
        rw [← Option.not_isSome_iff_eq_none, isSome_longest?]
        rintro ⟨q, rest', hrest, hq, hallowed, hsome⟩
        simp [hmax q rest' hrest hq hallowed] at hsome
      simp [hnone, ha]
    · simp [ih hp hall]

theorem isSome_first? :
    (first? find cs).isSome ↔ ∃ before rest, cs = before ++ rest ∧ (find rest).isSome := by
  induction cs with
  | nil => simp [first?]
  | cons c cs ih =>
    have hcons : (first? find (c :: cs)).isSome ↔ (find (c :: cs)).isSome ∨
        (first? find cs).isSome := by
      rw [first?]
      cases find (c :: cs) <;> simp
    rw [hcons, ih]
    constructor
    · rintro (h | ⟨before, rest, rfl, h⟩)
      · exact ⟨[], c :: cs, rfl, h⟩
      · exact ⟨c :: before, rest, rfl, h⟩
    · rintro ⟨before, rest, hcs, h⟩
      cases before with
      | nil => exact .inl (hcs ▸ h)
      | cons d before => exact .inr ⟨before, rest, (List.cons.inj hcs).2, h⟩

theorem first?_of_some (h : find cs = some a) : first? find cs = some a := by
  cases cs with
  | nil => exact h
  | cons c cs => simp [first?, h]

end Search

/-! ## Numbers -/

section Number

variable {cs digits line column rest : List Char}

theorem IsNumber.takeWhile_append (h : IsNumber digits)
    (hr : ∀ c ∈ rest.head?, Text.isDigit c = false) :
    (digits ++ rest).takeWhile Text.isDigit = digits := by
  rw [List.takeWhile_append_of_pos h.2]
  cases rest with
  | nil => simp
  | cons c rest => simp [hr c rfl]

theorem IsNumber.dropWhile_append (h : IsNumber digits)
    (hr : ∀ c ∈ rest.head?, Text.isDigit c = false) :
    (digits ++ rest).dropWhile Text.isDigit = rest := by
  rw [List.dropWhile_append_of_pos h.2]
  cases rest with
  | nil => simp
  | cons c rest => simp [hr c rfl]

theorem isNumber_takeWhile (h : cs.takeWhile Text.isDigit ≠ []) :
    IsNumber (cs.takeWhile Text.isDigit) :=
  ⟨h, fun _ hc => List.mem_takeWhile_imp hc⟩

theorem colon_ne_digit (rest : List Char) : ∀ c ∈ (':' :: rest).head?, Text.isDigit c = false := by
  simp only [List.head?_cons, Option.mem_def, Option.some.injEq, forall_eq']
  decide

theorem number?_append (h : IsNumber digits) (hr : ∀ c ∈ rest.head?, Text.isDigit c = false) :
    number? (':' :: (digits ++ rest)) = some (digits, rest) := by
  rw [number?, h.takeWhile_append hr, if_neg h.1, List.span_eq_takeWhile_dropWhile,
    h.takeWhile_append hr, h.dropWhile_append hr]

theorem eq_of_number? (h : number? cs = some (digits, rest)) :
    cs = ':' :: digits ++ rest ∧ IsNumber digits := by
  unfold number? at h
  split at h
  case h_1 cs =>
    split at h
    case isTrue => cases h
    case isFalse hne =>
      rw [List.span_eq_takeWhile_dropWhile, Option.some.injEq, Prod.mk.injEq] at h
      obtain ⟨rfl, rfl⟩ := h
      exact ⟨by simp, isNumber_takeWhile hne⟩
  case h_2 => cases h

theorem isSome_numbers? : (numbers? cs).isSome ↔
    ∃ line column rest, IsNumber line ∧ IsNumber column ∧
      cs = ':' :: line ++ ':' :: column ++ rest := by
  rw [Option.isSome_iff_exists]
  constructor
  · rintro ⟨⟨line, column, rest⟩, h⟩
    simp only [numbers?, Option.bind_eq_bind, Option.bind_eq_some_iff, Option.pure_def,
      Option.some.injEq] at h
    obtain ⟨⟨line, cs'⟩, hl, ⟨column, rest⟩, hc, -⟩ := h
    obtain ⟨rfl, hline⟩ := eq_of_number? hl
    obtain ⟨rfl, hcolumn⟩ := eq_of_number? hc
    exact ⟨line, column, rest, hline, hcolumn, by simp⟩
  · rintro ⟨line, column, rest, hl, hc, rfl⟩
    have hne : (column ++ rest).takeWhile Text.isDigit ≠ [] := by
      obtain ⟨c, column, rfl⟩ := List.exists_cons_of_ne_nil hc.1
      simp [hc.2 c (by simp)]
    have hline := number?_append hl (colon_ne_digit (column ++ rest))
    have hcolumn : number? (':' :: (column ++ rest)) = some _ := if_neg hne
    simp [numbers?, hline, hcolumn]

/-- Line, column and colon are read just from a text that begins with their mark. -/
theorem marked?_eq_some : marked? cs = some (line, column, rest) ↔
    IsNumber line ∧ IsNumber column ∧ cs = mark line column ++ rest := by
  constructor
  · intro h
    simp only [marked?, numbers?, Option.bind_eq_bind, Option.bind_eq_some_iff, Option.pure_def,
      Option.some.injEq] at h
    obtain ⟨-, ⟨⟨line, cs'⟩, hl, ⟨column, rest'⟩, hc, rfl⟩, h⟩ := h
    obtain ⟨rfl, hline⟩ := eq_of_number? hl
    obtain ⟨rfl, hcolumn⟩ := eq_of_number? hc
    split at h
    case h_1 => simp_all [mark]
    case h_2 => cases h
  · rintro ⟨hl, hc, rfl⟩
    have hline := number?_append hl (colon_ne_digit (column ++ ':' :: rest))
    have hcolumn := number?_append hc (colon_ne_digit rest)
    simp [mark, marked?, numbers?, hline, hcolumn]

theorem isSome_marked? : (marked? cs).isSome ↔
    ∃ line column rest, IsNumber line ∧ IsNumber column ∧ cs = mark line column ++ rest := by
  simp only [Option.isSome_iff_exists, Prod.exists, marked?_eq_some]

theorem isSome_messageOf? : (messageOf? cs).isSome ↔ cs ≠ [] := by
  rw [messageOf?]
  split
  · simp [List.getLast?_isSome]
  case h_2 h =>
    simp only [Option.isSome_some, true_iff]
    rintro rfl
    exact h rfl

end Number

/-! ## The four searches -/

section Shape

variable {cs : List Char}

theorem isSome_trace? : (trace? cs).isSome ↔ IsTrace cs := by
  simp only [trace?, Option.bind_eq_bind, Option.pure_def, Option.isSome_bind, Option.isSome_some,
    Option.any_true, Option.any_eq_true, isSome_longest?, isSome_numbers?, Text.dropPrefix?_eq_some]
  constructor
  · rintro ⟨message, _, rfl, hm, -, _, rfl, path, _, rfl, hp, -, line, column, rest, hl, hc, rfl⟩
    exact ⟨message, path, line, column, rest, hm, hp, hl, hc, by simp⟩
  · rintro ⟨message, path, line, column, rest, hm, hp, hl, hc, rfl⟩
    exact ⟨message, " at ".toList ++ (path ++ (':' :: line ++ ':' :: column ++ rest)), by simp,
      hm, by simp, _, rfl, path, _, rfl, hp, by simp, line, column, rest, hl, hc, rfl⟩

theorem isSome_header? : (header? cs).isSome ↔ IsHeader cs := by
  simp only [header?, Option.bind_eq_bind, Option.pure_def, Option.isSome_bind, Option.isSome_some,
    Option.any_true, isSome_first?, isSome_longest?, isSome_marked?]
  constructor
  · rintro ⟨before, _, rfl, path, _, rfl, hp, hb, line, column, rest, hl, hc, rfl⟩
    exact ⟨before, path, line, column, rest, hp, by simpa using hb, hl, hc, by simp⟩
  · rintro ⟨before, path, line, column, rest, hp, hb, hl, hc, rfl⟩
    exact ⟨before, path ++ (mark line column ++ rest), by simp, path, _, rfl, hp, by simpa using hb,
      line, column, rest, hl, hc, rfl⟩

theorem isSome_located? : (located? cs).isSome ↔ IsLocated cs := by
  simp only [located?, Option.bind_eq_bind, Option.pure_def, Option.isSome_bind, Option.isSome_some,
    Option.any_true, Option.any_eq_true, isSome_first?, isSome_longest?, isSome_messageOf?,
    Prod.exists, marked?_eq_some]
  constructor
  · rintro ⟨before, _, rfl, path, _, rfl, hp, hb, line, column, message, ⟨hl, hc, rfl⟩, hm⟩
    exact ⟨before, path, line, column, message, hp, by simpa using hb, hl, hc, hm, by simp⟩
  · rintro ⟨before, path, line, column, message, hp, hb, hl, hc, hm, rfl⟩
    exact ⟨before, path ++ (mark line column ++ message), by simp, path, _, rfl,
      hp, by simpa using hb, line, column, message, ⟨hl, hc, rfl⟩, hm⟩

theorem isSome_coded? : (coded? cs).isSome ↔ IsCoded cs := by
  rw [coded?]
  constructor
  · intro h
    split at h
    case h_1 c code rest hcode hrest =>
      refine ⟨c :: code, rest, hcode ▸ isNumber_takeWhile (by simp [hcode]), ?_⟩
      rw [← hcode, ← hrest, List.takeWhile_append_dropWhile]
    case h_2 => cases h
  · rintro ⟨code, rest, hcode, rfl⟩
    obtain ⟨c, code, rfl⟩ := List.exists_cons_of_ne_nil hcode.1
    rw [hcode.takeWhile_append (colon_ne_digit rest), hcode.dropWhile_append (colon_ne_digit rest)]
    rfl

end Shape

/-! ## What is found -/

section Found

variable {path line column rest message code : List Char}

theorem isBlank_of_isDigit {c : Char} (h : Text.isDigit c) : Text.isBlank c = false := by
  obtain ⟨first, hfirst, hd⟩ := List.any_eq_true.1 h
  rw [Text.isBlank, List.any_eq_false]
  intro range hrange hb
  -- no script has its digits among the blanks
  have hapart : Text.digitZeros.all fun first =>
      Text.blankRanges.all fun range => first + 9 < range.1 || range.2 < first := by
    decide
  have := List.all_eq_true.1 (List.all_eq_true.1 hapart first hfirst) range hrange
  simp only [Bool.and_eq_true, Bool.or_eq_true, decide_eq_true_eq] at hd hb this
  omega

theorem isBlank_of_mem_mark (hl : IsNumber line) (hc : IsNumber column) :
    ∀ c ∈ mark line column, Text.isBlank c = false := by
  intro c hmem
  simp only [mark, List.mem_append, List.mem_cons, List.not_mem_nil, or_false] at hmem
  rcases hmem with ((rfl | hmem) | rfl | hmem) | rfl
  · decide
  · exact isBlank_of_isDigit (hl.2 c hmem)
  · decide
  · exact isBlank_of_isDigit (hc.2 c hmem)
  · decide

theorem count_mark (hl : IsNumber line) (hc : IsNumber column) :
    (mark line column).count ':' = 3 := by
  have hzero {cs : List Char} (h : IsNumber cs) : cs.count ':' = 0 := by
    rw [List.count_eq_zero]
    intro hmem
    exact absurd (h.2 ':' hmem) (by decide)
  simp [mark, hzero hl, hzero hc]

/-- No mark begins inside a mark that white space or the end of the line follows. -/
theorem marked?_of_inside {q rest' : List Char} (hl : IsNumber line) (hc : IsNumber column)
    (hr : ∀ c ∈ rest.head?, Text.isBlank c) (h : mark line column ++ rest = q ++ rest')
    (hq : q ≠ []) (hb : ∀ c ∈ q, Text.isBlank c = false) : marked? rest' = none := by
  rw [← Option.not_isSome_iff_eq_none, isSome_marked?]
  rintro ⟨line', column', more, hl', hc', rfl⟩
  have hcolon : 1 ≤ q.count ':' := by
    obtain ⟨c, q, rfl⟩ := List.exists_cons_of_ne_nil hq
    obtain ⟨rfl, -⟩ := List.cons.inj h
    simp
  have hcount := count_mark hl hc
  have hcount' := count_mark hl' hc'
  rw [← List.append_assoc, List.append_eq_append_iff] at h
  rcases h with ⟨as, hq', hrest⟩ | ⟨bs, hmark, -⟩
  · -- the second mark would end behind the first, so it would hold white space
    cases as with
    | nil =>
      have := congrArg (List.count ':') hq'
      simp only [List.count_append, List.append_nil] at this
      omega
    | cons a as =>
      have hblank : Text.isBlank a := hr a (by simp [hrest])
      have hmem : a ∈ q ++ mark line' column' := by simp [hq']
      rcases List.mem_append.1 hmem with ha | ha
      · simp [hb a ha] at hblank
      · simp [isBlank_of_mem_mark hl' hc' a ha] at hblank
  · have := congrArg (List.count ':') hmark
    simp only [List.count_append] at this
    omega

/-- The path before a mark is found whole. -/
theorem longest?_path {α : Type} {accept : List Char → Option α} {a : α} (hp : path ≠ [])
    (hb : ∀ c ∈ path, Text.isBlank c = false) (hl : IsNumber line) (hc : IsNumber column)
    (hr : ∀ c ∈ rest.head?, Text.isBlank c) (hmark : ∀ cs, marked? cs = none → accept cs = none)
    (ha : accept (mark line column ++ rest) = some a) :
    longest? (fun c => !Text.isBlank c) accept [] (path ++ (mark line column ++ rest)) =
      some (path, a) := by
  refine longest?_append hp (by simpa using hb) ha fun q rest' hq hne hallowed => ?_
  exact hmark _ (marked?_of_inside hl hc hr hq hne (by simpa using hallowed))

theorem header?_append (hp : path ≠ []) (hb : ∀ c ∈ path, Text.isBlank c = false)
    (hl : IsNumber line) (hc : IsNumber column) (hr : ∀ c ∈ rest.head?, Text.isBlank c) :
    header? (path ++ (mark line column ++ rest)) = some ⟨path, line, column⟩ := by
  have hmarked : marked? (mark line column ++ rest) = some (line, column, rest) :=
    marked?_eq_some.2 ⟨hl, hc, rfl⟩
  simp [header?, first?_of_some (longest?_path hp hb hl hc hr (fun _ h => h) hmarked)]

theorem located?_append (hp : path ≠ []) (hb : ∀ c ∈ path, Text.isBlank c = false)
    (hl : IsNumber line) (hc : IsNumber column) (hr : ∀ c ∈ rest.head?, Text.isBlank c)
    (hm : messageOf? rest = some message) :
    located? (path ++ (mark line column ++ rest)) = some (⟨path, line, column⟩, message) := by
  have hmarked : marked? (mark line column ++ rest) = some (line, column, rest) :=
    marked?_eq_some.2 ⟨hl, hc, rfl⟩
  simp only [located?, Option.bind_eq_bind, Option.pure_def]
  rw [first?_of_some (longest?_path (a := (line, column, message)) hp hb hl hc hr ?_ ?_)]
  · rfl
  · intro cs h
    simp [h]
  · simp [hmarked, hm]

theorem coded?_append (h : IsNumber code) :
    coded? (code ++ ':' :: rest) = some (code, Text.trimStart rest) := by
  obtain ⟨c, code, rfl⟩ := List.exists_cons_of_ne_nil h.1
  rw [coded?, h.takeWhile_append (colon_ne_digit rest), h.dropWhile_append (colon_ne_digit rest)]
  rfl

end Found

end EditorBridge.Log
