import EditorBridge.Proofs.Diagnostic.Log

/-!
# The format of logs

A compiler writes each of its messages as an entry: on one line behind the place, or below it with a
code and with lines of a hint. Reading a log of such entries gives them back, one diagnostic for
each entry.
-/

namespace EditorBridge.Log

/-! ## Entries -/

/-- A mark of line and column stands in the text. -/
def HasMark (cs : List Char) : Prop :=
  ∃ before line column rest, IsNumber line ∧ IsNumber column ∧
    cs = before ++ mark line column ++ rest

instance : DecidablePred HasMark := fun cs => decidable_of_iff (first? marked? cs).isSome (by
  simp only [isSome_first?, isSome_marked?, HasMark]
  constructor
  · rintro ⟨before, _, rfl, line, column, rest, hl, hc, rfl⟩
    exact ⟨before, line, column, rest, hl, hc, by simp⟩
  · rintro ⟨before, line, column, rest, hl, hc, rfl⟩
    exact ⟨before, mark line column ++ rest, by simp, line, column, rest, hl, hc, rfl⟩)

/-- The text is on one line. -/
def Unbroken (cs : List Char) : Prop := ∀ c ∈ cs, Text.isBreak c = false

instance : DecidablePred Unbroken :=
  fun cs => List.decidableBAll (fun c => Text.isBreak c = false) cs

/-- The text does not begin with white space. -/
def Unindented (cs : List Char) : Prop := ∀ c ∈ cs.head?, Text.isBlank c = false

/-- A message on the line of its place. With the space before it, it has no ` at ` in it. -/
structure Remark where
  message : List Char
  message_ne_nil : message ≠ []
  unbroken_message : Unbroken message
  unindented_message : Unindented message
  not_at_infix : ¬" at ".toList <:+: ' ' :: message

/-- A message with a code, and lines of a hint. None of them looks like a place, and no hint like a
code. -/
structure Block where
  code : List Char
  message : List Char
  hints : List (List Char)
  code_ne_nil : code ≠ []
  isDigit_code : ∀ c ∈ code, c.isDigit
  unbroken_message : Unbroken message
  unindented_message : Unindented message
  not_hasMark_message : ¬HasMark message
  unbroken_hints : ∀ hint ∈ hints, Unbroken hint
  not_hasMark_hints : ∀ hint ∈ hints, ¬HasMark hint
  not_isCoded_hints : ∀ hint ∈ hints, ¬IsCoded hint

/-- What is said about a place. -/
inductive Body where
  | remark (remark : Remark)
  | block (block : Block)

/-- An entry of a log. Its path has no white space and no colon before a digit, and names a file. -/
structure Entry (fs : FileSystem) (r : Resolver) where
  path : List Char
  line : UInt32
  column : UInt32
  body : Body
  uri : Uri
  path_ne_nil : path ≠ []
  isBlank_path : ∀ c ∈ path, Text.isBlank c = false
  isDigit_path : ∀ before c after, path = before ++ ':' :: c :: after → Text.isDigit c = false
  uri?_path : r.uri? fs path = some uri

/-- A number in decimal digits. -/
def decimal (n : UInt32) : List Char := Nat.toDigits 10 n.toNat

namespace Entry

variable {fs : FileSystem} {r : Resolver}

/-- The place of an entry as text. -/
def label (e : Entry fs r) : List Char := e.path ++ mark (decimal e.line) (decimal e.column)

/-- The lines of an entry. -/
def lines (e : Entry fs r) : List (List Char) :=
  match e.body with
  | .remark m => [e.label ++ ' ' :: m.message]
  | .block m => e.label :: (m.code ++ ':' :: ' ' :: m.message) :: m.hints

/-- The text of a log. -/
def log (entries : List (Entry fs r)) : List Char := Text.join ['\n'] (entries.flatMap lines)

/-- The position of an entry. Logs count lines from one, and line zero is taken for the first. -/
def position (e : Entry fs r) : Position := ⟨.ofNat (e.line.toNat - 1), e.column⟩

/-- The diagnostic that an entry stands for. -/
def diagnostic (related : Bool) (e : Entry fs r) : Diagnostic :=
  match e.body with
  | .remark m => .ofLog e.uri e.position Diagnostic.error none m.message [] related
  | .block m =>
    .ofLog e.uri e.position Diagnostic.error (some m.code) m.message m.hints.flatten related

end Entry

/-! ## Numbers -/

section Decimal

theorem isDigit_of_ascii {c : Char} (h : c.isDigit) : Text.isDigit c := by
  rw [Text.isDigit, List.any_eq_true]
  refine ⟨0x30, by decide, ?_⟩
  simpa using Char.isDigit_iff_toNat.1 h

theorem isNumber_decimal (n : UInt32) : IsNumber (decimal n) :=
  ⟨Nat.toDigits_ne_nil, fun _ hc =>
    isDigit_of_ascii (Nat.isDigit_of_mem_toDigits (by decide) (by decide) hc)⟩

theorem digitsValue_decimal (n : UInt32) : Text.digitsValue (decimal n) = n.toNat := by
  have h : Text.digitsValue (decimal n) = Nat.ofDigitChars 10 (Nat.toDigits 10 n.toNat) 0 := by
    simp only [Text.digitsValue, decimal, Nat.ofDigitChars, Nat.mul_comm]
  rw [h, Nat.ofDigitChars_toDigits (by decide) (by decide)]

/-- The digits of a number of 32 bits are read as that number. -/
theorem word_decimal (n : UInt32) : word (decimal n) = n.toNat := by
  have hall : (decimal n).all Char.isDigit := by
    rw [List.all_eq_true]
    exact fun c hc => Nat.isDigit_of_mem_toDigits (by decide) (by decide) hc
  have hle : Text.digitsValue (decimal n) ≤ 4294967295 := by
    have := n.toNat_lt
    rw [digitsValue_decimal]
    omega
  rw [word, Text.boundedNat?, if_pos ⟨Nat.toDigits_ne_nil, hall, hle⟩, digitsValue_decimal]
  rfl

end Decimal

/-! ## Lines of entries -/

section Lines

variable {label rest code message path line column : List Char}

theorem IsHeader.hasMark {cs : List Char} (h : IsHeader cs) : HasMark cs := by
  obtain ⟨before, path, line, column, rest, -, -, hl, hc, rfl⟩ := h
  exact ⟨before ++ path, line, column, rest, hl, hc, rfl⟩

theorem Block.isPlain_hints (m : Block) : ∀ hint ∈ m.hints, IsPlain hint := by
  intro hint hmem
  have hh : ¬IsHeader hint := fun h => m.not_hasMark_hints hint hmem h.hasMark
  exact ⟨mt IsLocated.isHeader hh, hh, m.not_isCoded_hints hint hmem⟩

/-- The ` at ` of a trace stands behind what has no white space. -/
theorem IsTrace.at_infix (h : IsTrace (label ++ rest)) (hb : ∀ c ∈ label, Text.isBlank c = false) :
    " at ".toList <:+: rest := by
  obtain ⟨message, path, line, column, after, -, -, -, -, heq⟩ := h
  have hat : " at ".toList = ' ' :: "at ".toList := by decide
  simp only [List.append_assoc] at heq
  rcases List.append_eq_append_iff.1 heq with ⟨as, rfl, hrest⟩ | ⟨bs, hlabel, hrest⟩
  · exact ⟨as, _, by rw [List.append_assoc]; exact hrest.symm⟩
  · cases bs with
    | nil => exact ⟨[], _, hrest⟩
    | cons b bs =>
      simp only [hat, List.cons_append, List.cons.injEq] at hrest
      obtain ⟨rfl, -⟩ := hrest
      exact absurd (hb ' ' (by simp [hlabel])) (by decide)

/-- A place with nothing behind it has no message. -/
theorem not_isLocated_label
    (hp : ∀ before c after, path = before ++ ':' :: c :: after → Text.isDigit c = false)
    (hl : IsNumber line) (hc : IsNumber column) : ¬IsLocated (path ++ mark line column) := by
  rintro ⟨before, path', line', column', message, -, -, hl', hc', hm, heq⟩
  have hmarked : marked? (mark line' column' ++ message) = some (line', column', message) :=
    marked?_eq_some.2 ⟨hl', hc', rfl⟩
  have hwhole : mark line column ≠ mark line' column' ++ message := by
    intro h
    have hself : marked? (mark line column ++ []) = some (line, column, []) :=
      marked?_eq_some.2 ⟨hl, hc, rfl⟩
    rw [List.append_nil, h, hmarked] at hself
    simp_all
  rw [List.append_assoc _ (mark line' column') message] at heq
  rcases List.append_eq_append_iff.1 heq with ⟨bs, -, hmark⟩ | ⟨as, rfl, hmark⟩
  · -- the mark found would begin inside the only one there is
    cases bs with
    | nil => exact hwhole hmark
    | cons b bs =>
      have hinside : mark line column ++ [] = b :: bs ++ (mark line' column' ++ message) := by
        rw [List.append_nil, hmark]
      have hnone := marked?_of_inside hl hc (by simp) hinside (by simp)
        fun c hmem => isBlank_of_mem_mark hl hc c (hmark ▸ List.mem_append_left _ hmem)
      simp [hmarked] at hnone
  · -- it would begin in the path, with a colon before a digit
    obtain ⟨d, line', rfl⟩ := List.exists_cons_of_ne_nil hl'.1
    have hd : Text.isDigit d := hl'.2 d (by simp)
    cases as with
    | nil => exact hwhole hmark.symm
    | cons a as =>
      simp only [mark, List.cons_append, List.cons.injEq] at hmark
      obtain ⟨rfl, hmark⟩ := hmark
      cases as with
      | nil =>
        simp only [List.nil_append, List.cons.injEq] at hmark
        obtain ⟨rfl, -⟩ := hmark
        exact absurd hd (by decide)
      | cons b as =>
        simp only [List.cons_append, List.cons.injEq] at hmark
        obtain ⟨rfl, -⟩ := hmark
        simp [hp _ d as rfl] at hd

theorem not_hasMark_coded (hcode : IsNumber code) (h : ¬HasMark message) :
    ¬HasMark (code ++ ':' :: ' ' :: message) := by
  rintro ⟨before, line, column, rest, hl, hc, heq⟩
  obtain ⟨d, line, rfl⟩ := List.exists_cons_of_ne_nil hl.1
  have hd : Text.isDigit d := hl.2 d (by simp)
  have hspace : ':' :: ' ' :: message ≠ mark (d :: line) column ++ rest := by
    intro h
    obtain ⟨-, h⟩ := List.cons.inj h
    obtain ⟨rfl, -⟩ := List.cons.inj h
    exact absurd hd (by decide)
  rw [List.append_assoc] at heq
  rcases List.append_eq_append_iff.1 heq with ⟨as, rfl, hmark⟩ | ⟨bs, hcode', hmark⟩
  · match as, hmark with
    | [], hmark => exact hspace hmark
    | [a], hmark => exact absurd (List.cons.inj (List.cons.inj hmark).2).1 (by decide)
    | a :: b :: as, hmark =>
      refine h ⟨as, d :: line, column, rest, hl, hc, ?_⟩
      rw [List.append_assoc]
      exact (List.cons.inj (List.cons.inj hmark).2).2
  · cases bs with
    | nil => exact hspace hmark.symm
    | cons b bs =>
      obtain ⟨rfl, -⟩ := List.cons.inj hmark
      exact absurd (hcode.2 ':' (by simp [hcode'])) (by decide)

theorem isBreak_of_not_isBlank {c : Char} (h : Text.isBlank c = false) :
    Text.isBreak c = false := by
  by_contra hc
  simp only [Text.isBreak, Bool.or_eq_false_iff, decide_eq_false_iff_not, not_and_or, not_not] at hc
  rcases hc with rfl | rfl
  · exact absurd h (by decide)
  · exact absurd h (by decide)

theorem Unbroken.cons {c : Char} {cs : List Char} (h : Unbroken cs) (hc : Text.isBreak c = false) :
    Unbroken (c :: cs) :=
  List.forall_mem_cons.2 ⟨hc, h⟩

theorem Unbroken.append {xs ys : List Char} (hx : Unbroken xs) (hy : Unbroken ys) :
    Unbroken (xs ++ ys) := by
  intro c hc
  rcases List.mem_append.1 hc with hc | hc
  · exact hx c hc
  · exact hy c hc

theorem unindented_cons {c : Char} {cs : List Char} (h : Text.isBlank c = false) :
    Unindented (c :: cs) := by
  simpa [Unindented] using h

theorem trimStart_space (h : Unindented message) : Text.trimStart (' ' :: message) = message := by
  have hspace : Text.isBlank ' ' := by decide
  rw [Text.trimStart, List.dropWhile_cons_of_pos hspace]
  cases message with
  | nil => rfl
  | cons c message => exact List.dropWhile_cons_of_neg (by simp [h c rfl])

theorem messageOf?_space (hne : message ≠ []) (h : Unindented message) :
    messageOf? (' ' :: message) = some message := by
  obtain ⟨c, message, rfl⟩ := List.exists_cons_of_ne_nil hne
  rw [messageOf?, trimStart_space h]

end Lines

/-- A log of lines is read as these lines. -/
theorem read_join {s : Setting} {lines : List (List Char)} (h : ∀ line ∈ lines, Unbroken line) :
    s.read (segments (Text.join ['\n'] lines)) = s.read lines := by
  rw [read_segments]
  by_cases hne : lines = []
  · subst hne
    rw [← read_filter]
    rfl
  · rw [Text.split_join (by decide) hne h]

/-! ## Reading entries -/

namespace Entry

variable {fs : FileSystem} {r : Resolver} {document : Option Uri} {related : Bool} {state : State}

theorem isBlank_label (e : Entry fs r) : ∀ c ∈ e.label, Text.isBlank c = false := by
  intro c hc
  rcases List.mem_append.1 hc with hc | hc
  · exact e.isBlank_path c hc
  · exact isBlank_of_mem_mark (isNumber_decimal _) (isNumber_decimal _) c hc

/-- The open diagnostic after the lines of an entry. -/
def pending (e : Entry fs r) : Pending :=
  match e.body with
  | .remark m => ⟨some e.uri, e.position, Diagnostic.error, some m.message, none, none⟩
  | .block m =>
    ⟨some e.uri, e.position, Diagnostic.error, some m.message, some m.code, some m.hints.flatten⟩

theorem opened_eq (e : Entry fs r) (message : Option (List Char)) :
    (Setting.mk fs r document related).opened ⟨e.path, decimal e.line, decimal e.column⟩
      Diagnostic.error message =
      ⟨some e.uri, e.position, Diagnostic.error, message, none, none⟩ := by
  simp [Setting.opened, e.uri?_path, Place.position, word_decimal, position]

theorem feed_remark (e : Entry fs r) (m : Remark) :
    (Setting.mk fs r document related).feed state (e.label ++ ' ' :: m.message) =
      (Setting.mk fs r document related).opening state
        ⟨some e.uri, e.position, Diagnostic.error, some m.message, none, none⟩ := by
  have hspace : ∀ c ∈ (' ' :: m.message).head?, Text.isBlank c := by
    simp only [List.head?_cons, Option.mem_def, Option.some.injEq, forall_eq']
    decide
  have hlocated : located? (e.label ++ ' ' :: m.message) =
      some (⟨e.path, decimal e.line, decimal e.column⟩, m.message) := by
    rw [label, List.append_assoc]
    exact located?_append e.path_ne_nil e.isBlank_path (isNumber_decimal _)
      (isNumber_decimal _) hspace
      (messageOf?_space m.message_ne_nil m.unindented_message)
  have htrace : ¬IsTrace (e.label ++ ' ' :: m.message) :=
    fun h => m.not_at_infix (h.at_infix e.isBlank_label)
  rw [feed_eq_feedShape fun h => htrace h.1, shape, hlocated, Setting.feedShape, opened_eq]

theorem feed_label (e : Entry fs r) : (Setting.mk fs r document related).feed state e.label =
    (Setting.mk fs r document related).opening state
      ⟨some e.uri, e.position, Diagnostic.error, none, none, none⟩ := by
  have htrace : ¬IsTrace e.label := by
    intro h
    rw [← List.append_nil e.label] at h
    simpa using h.at_infix e.isBlank_label
  have hlocated : located? e.label = none :=
    located?_of_not (not_isLocated_label e.isDigit_path (isNumber_decimal _) (isNumber_decimal _))
  have hheader : header? e.label = some ⟨e.path, decimal e.line, decimal e.column⟩ := by
    have :=
      header?_append e.path_ne_nil e.isBlank_path (isNumber_decimal e.line)
        (isNumber_decimal e.column)
      (by simp : ∀ c ∈ ([] : List Char).head?, Text.isBlank c)
    rwa [List.append_nil] at this
  rw [feed_eq_feedShape fun h => htrace h.1, shape, hlocated, hheader, Setting.feedShape, opened_eq]

theorem feed_code {s : Setting} {p : Pending} {found : List (Uri × Diagnostic)} (m : Block)
    (hp : p.message = none) :
    s.feed ⟨some p, found⟩ (m.code ++ ':' :: ' ' :: m.message) =
      ⟨some (p.withCode m.code m.message), found⟩ := by
  have hcode : IsNumber m.code :=
    ⟨m.code_ne_nil, fun c hc => isDigit_of_ascii (m.isDigit_code c hc)⟩
  have hh : ¬IsHeader (m.code ++ ':' :: ' ' :: m.message) :=
    fun h => not_hasMark_coded hcode m.not_hasMark_message h.hasMark
  have hcoded : coded? (m.code ++ ':' :: ' ' :: m.message) = some (m.code, m.message) := by
    rw [coded?_append hcode, trimStart_space m.unindented_message]
  rw [feed_eq_feedShape (by simp), shape, located?_of_not (mt IsLocated.isHeader hh),
    header?_of_not hh, hcoded]
  simp [Setting.feedShape, hp]

theorem feed_hints {s : Setting} {p : Pending} {found : List (Uri × Diagnostic)}
    {hints : List (List Char)} (h : ∀ hint ∈ hints, IsPlain hint) :
    hints.foldl s.feed ⟨some p, found⟩ =
      ⟨some { p with hint := p.hint.map (· ++ hints.flatten) }, found⟩ := by
  induction hints generalizing p with
  | nil => cases p; simp
  | cons hint hints ih =>
    obtain ⟨hp, h⟩ := List.forall_mem_cons.1 h
    have hshape : shape hint = .plain := by
      rw [shape, located?_of_not hp.1, header?_of_not hp.2.1, coded?_of_not hp.2.2]
    rw [List.foldl_cons, feed_eq_feedShape (by simp), hshape]
    simp only [Setting.feedShape, Option.map_some]
    rw [ih h]
    simp [Function.comp_def]

/-- The lines of an entry finish what was open, and leave the diagnostic of the entry open. -/
theorem foldl_feed_lines (e : Entry fs r) :
    e.lines.foldl (Setting.mk fs r document related).feed state =
    (Setting.mk fs r document related).opening state e.pending := by
  unfold lines pending
  cases e.body with
  | remark m => exact feed_remark e m
  | block m =>
    simp only [List.foldl_cons]
    rw [feed_label, Setting.opening, feed_code m rfl, feed_hints m.isPlain_hints]
    simp [Setting.opening, Pending.withCode]

theorem finished?_pending (e : Entry fs r) :
    (Setting.mk fs r document related).finished? e.pending =
      some (e.uri, e.diagnostic related) := by
  unfold pending diagnostic
  cases e.body <;> rfl

/-- The lines of some entries add their diagnostics to what was found. -/
theorem found_lines (entries : List (Entry fs r)) (state : State) :
    ((Setting.mk fs r document related).finish
        ((entries.flatMap lines).foldl (Setting.mk fs r document related).feed
          state)).found.reverse =
      ((Setting.mk fs r document related).finish state).found.reverse ++
        entries.map fun e => (e.uri, e.diagnostic related) := by
  induction entries generalizing state with
  | nil => simp
  | cons e entries ih =>
    rw [List.flatMap_cons, List.foldl_append, foldl_feed_lines, ih]
    simp [Setting.opening, Setting.finish, finished?_pending]

theorem unbroken_lines (e : Entry fs r) : ∀ line ∈ e.lines, Unbroken line := by
  have hlabel : Unbroken e.label := fun c hc => isBreak_of_not_isBlank (e.isBlank_label c hc)
  unfold lines
  cases e.body with
  | remark m =>
    simp only [List.forall_mem_singleton]
    exact hlabel.append (m.unbroken_message.cons (by decide))
  | block m =>
    simp only [List.forall_mem_cons]
    have hcode : Unbroken m.code := fun c hc =>
      isBreak_of_not_isBlank (isBlank_of_isDigit (isDigit_of_ascii (m.isDigit_code c hc)))
    exact ⟨hlabel, hcode.append ((m.unbroken_message.cons (by decide)).cons (by decide)),
      m.unbroken_hints⟩

/-- Reading a log of entries gives one diagnostic for each entry: grouped by file, in the order of
the entries. -/
theorem parse_log (fs : FileSystem) (r : Resolver) (document : List Char) (related : Bool)
    (entries : List (Entry fs r)) : parse fs r document related (log entries) =
      .gathered (entries.map fun e => (e.uri, e.diagnostic related)) := by
  have hunbroken : ∀ line ∈ entries.flatMap lines, Unbroken line := by
    intro line hline
    obtain ⟨e, -, hline⟩ := List.mem_flatMap.1 hline
    exact e.unbroken_lines line hline
  have hread : (Setting.mk fs r (r.uri? fs document) related).read (entries.flatMap lines) =
      entries.map fun e => (e.uri, e.diagnostic related) :=
    found_lines entries .start
  rw [parse, log, read_join hunbroken, hread, FileMap.group_eq_gathered]

theorem parse_log_mismatch : ∃ entries : List (Entry (.ofFiles [] []) ⟨[]⟩),
    log entries =
      "/a.das:10:5: unexpected token\n/a.das:12:3:\n303: type mismatch\n  at least int".toList ∧
    parse (.ofFiles [] []) ⟨[]⟩ "/d".toList true (log entries) =
      .gathered (entries.map fun e => (e.uri, e.diagnostic true)) := by
  let entry (line column : UInt32) (body : Body) : Entry (.ofFiles [] []) ⟨[]⟩ :=
    { path := "/a.das".toList, line, column, body
      uri := .ofSegments ["a.das".toList]
      path_ne_nil := by decide
      isBlank_path := by
        simpa using List.all_eq_true.1
          (show ("/a.das".toList.all fun c => !Text.isBlank c) by decide)
      isDigit_path := fun before c after h =>
        absurd (by rw [h]; simp) (show ':' ∉ "/a.das".toList by decide)
      uri?_path := by decide +kernel }
  let remark : Remark :=
    ⟨"unexpected token".toList, by decide, by decide,
      unindented_cons (by decide), by decide +kernel⟩
  let block : Block :=
    { code := "303".toList, message := "type mismatch".toList, hints := ["  at least int".toList]
      code_ne_nil := by decide
      isDigit_code := List.all_eq_true.1 (by decide)
      unbroken_message := by decide
      unindented_message := unindented_cons (by decide)
      not_hasMark_message := by decide +kernel
      unbroken_hints := List.forall_mem_singleton.2 (by decide)
      not_hasMark_hints := List.forall_mem_singleton.2 (by decide +kernel)
      not_isCoded_hints := List.forall_mem_singleton.2 (by decide +kernel) }
  exact ⟨[entry 10 5 (.remark remark), entry 12 3 (.block block)], by decide +kernel,
    parse_log _ _ _ _ _⟩

end Entry

end EditorBridge.Log
