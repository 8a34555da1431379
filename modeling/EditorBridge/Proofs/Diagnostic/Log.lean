import EditorBridge.Diagnostic.Log
import EditorBridge.Proofs.Diagnostic.FileMap
import EditorBridge.Proofs.Diagnostic.Line
import EditorBridge.Proofs.Text.Split

/-!
# Diagnostics of a log by its lines

A log is read line by line, with one diagnostic open at most. Here it is said which lines open a
diagnostic, and which of the lines around it make up what that diagnostic says. The main statement
is that reading a log gives just these diagnostics, one for each opening line and in their order.
-/

namespace EditorBridge

/-- A diagnostic without extent. Its hint is shown at the same place if hints are shown and there is
one. -/
def Diagnostic.ofLog (uri : Uri) (position : Position) (severity : Int) (code : Option (List Char))
    (message hint : List Char) (related : Bool) : Diagnostic where
  range := .emptyAt position
  severity := some severity
  code := code.map fun code => .text (String.ofList code)
  source := none
  message := String.ofList message
  related :=
    if related ∧ hint ≠ [] then some [⟨⟨uri, .emptyAt position⟩, String.ofList hint⟩] else none

namespace Log

/-! ## Opening lines -/

instance : DecidablePred IsTrace := fun _ => decidable_of_iff _ isSome_trace?

instance : DecidablePred IsLocated := fun _ => decidable_of_iff _ isSome_located?

instance : DecidablePred IsHeader := fun _ => decidable_of_iff _ isSome_header?

instance : DecidablePred IsCoded := fun _ => decidable_of_iff _ isSome_coded?

/-- A line that may be a trace but has none of the other shapes. -/
def IsPlain (line : List Char) : Prop := ¬IsLocated line ∧ ¬IsHeader line ∧ ¬IsCoded line

instance : DecidablePred IsPlain := fun line => inferInstanceAs (Decidable (¬IsLocated line ∧ _))

/-- All lines so far are traces or have no shape. -/
def Idle (earlier : List (List Char)) : Prop := ∀ line ∈ earlier, IsTrace line ∨ IsPlain line

instance : DecidablePred Idle :=
  fun earlier => List.decidableBAll (fun line => IsTrace line ∨ IsPlain line) earlier

/-- A trace where no line of another shape was before it. The lines before it are given from the
nearest on. -/
def OpensTrace (earlier : List (List Char)) (line : List Char) : Prop := IsTrace line ∧ Idle earlier

instance (earlier : List (List Char)) (line : List Char) : Decidable (OpensTrace earlier line) :=
  inferInstanceAs (Decidable (_ ∧ _))

/-- A place whose message is to come. -/
def IsBare (earlier : List (List Char)) (line : List Char) : Prop :=
  ¬OpensTrace earlier line ∧ IsHeader line ∧ ¬IsLocated line

instance (earlier : List (List Char)) (line : List Char) : Decidable (IsBare earlier line) :=
  inferInstanceAs (Decidable (_ ∧ _))

/-- A line that opens a diagnostic: a trace, a place, or a code for which no place is waiting. -/
def OpensUnless (waiting : Bool) (earlier : List (List Char)) (line : List Char) : Prop :=
  OpensTrace earlier line ∨ IsLocated line ∨ IsHeader line ∨ IsCoded line ∧ waiting = false

instance (waiting : Bool) (earlier : List (List Char)) (line : List Char) :
    Decidable (OpensUnless waiting earlier line) :=
  inferInstanceAs (Decidable (_ ∨ _))

/-- Whether the nearest opening line before is a place whose message is to come, with no code
since. -/
def waiting : List (List Char) → Bool
  | [] => false
  | line :: earlier =>
    if OpensUnless (waiting earlier) earlier line then IsBare earlier line
    else ¬IsCoded line ∧ waiting earlier

/-- A line that opens a diagnostic after some others. -/
def Opens (earlier : List (List Char)) (line : List Char) : Prop :=
  OpensUnless (waiting earlier) earlier line

instance (earlier : List (List Char)) (line : List Char) : Decidable (Opens earlier line) :=
  inferInstanceAs (Decidable (OpensUnless _ _ _))

/-! ## What an opening line and those after it say -/

/-- A line of a log with the lines before it, from the nearest on, and those after it. -/
structure Spot where
  earlier : List (List Char)
  line : List Char
  later : List (List Char)

/-- The lines of a log that follow some others. -/
def spotsFrom (earlier : List (List Char)) : List (List Char) → List Spot
  | [] => []
  | line :: later => ⟨earlier, line, later⟩ :: spotsFrom (line :: earlier) later

/-- The lines up to the next one that opens a diagnostic. -/
def followers (earlier : List (List Char)) : List (List Char) → List (List Char)
  | [] => []
  | line :: later => if Opens earlier line then [] else line :: followers (line :: earlier) later

namespace Spot

/-- The line opens a diagnostic. -/
def IsOpening (x : Spot) : Prop := Opens x.earlier x.line

instance : DecidablePred IsOpening := fun x => inferInstanceAs (Decidable (Opens x.earlier x.line))

/-- The lines after an opening line and before the next one. -/
def own (x : Spot) : List (List Char) := followers (x.line :: x.earlier) x.later

/-- The line with the code of the diagnostic that a line opens, and its own lines after that. -/
def coded (x : Spot) : List (List Char) :=
  if OpensTrace x.earlier x.line ∨ IsLocated x.line then []
  else if IsHeader x.line then x.own.dropWhile (¬IsCoded ·)
  else x.line :: x.own

/-- The place of the diagnostic that a line opens. -/
def place? (x : Spot) : Option Place :=
  if OpensTrace x.earlier x.line then (trace? x.line).map (·.2)
  else ((located? x.line).map (·.1)).or (header? x.line)

/-- Its code. -/
def code? (x : Spot) : Option (List Char) := (x.coded.head?.bind coded?).map (·.1)

/-- Its message, on the opening line or beside the code. -/
def message? (x : Spot) : Option (List Char) :=
  if OpensTrace x.earlier x.line then (trace? x.line).map (·.1)
  else ((located? x.line).map (·.2)).or ((x.coded.head?.bind coded?).map (·.2))

/-- Its hint: the lines after the code that have no shape, or that of a trace. -/
def hint (x : Spot) : List Char := (x.coded.tail.filter IsPlain).flatten

/-- Its severity. -/
def severity (x : Spot) : Int :=
  if OpensTrace x.earlier x.line then Diagnostic.information else Diagnostic.error

/-- The diagnostic that a line opens, with its file. -/
def report (fs : FileSystem) (r : Resolver) (document : Uri) (related : Bool) (x : Spot) :
    Uri × Diagnostic :=
  let uri := (x.place?.bind fun place => r.uri? fs place.path).getD document
  (uri, .ofLog uri ((x.place?.map Place.position).getD .origin) x.severity x.code?
    (x.message?.getD []) x.hint related)

end Spot

/-! ## Steps -/

/-- What a line that opens nothing adds to the open diagnostic. -/
def Pending.absorb (p : Pending) (line : List Char) : Pending :=
  match coded? line with
  | some (code, message) => p.withCode code message
  | none => { p with hint := p.hint.map (· ++ line) }

/-- The diagnostic as its opening line leaves it. -/
def Setting.begun (s : Setting) (earlier : List (List Char)) (line : List Char) : Pending :=
  match if OpensTrace earlier line then trace? line else none, shape line with
  | some (message, place), _ => s.opened place Diagnostic.information (some message)
  | none, .located place message => s.opened place Diagnostic.error (some message)
  | none, .header place => s.opened place Diagnostic.error none
  | none, .coded code message => Pending.placeless.withCode code message
  | none, .plain => .placeless

/-- A state agrees with the lines that were read: whether a diagnostic is open, and whether it waits
for its message. -/
structure Tracks (earlier : List (List Char)) (state : State) : Prop where
  idle_iff : state.pending = none ↔ Idle earlier
  waiting_iff : (∃ p, state.pending = some p ∧ p.message = none) ↔ waiting earlier

section Step

variable {s : Setting} {state : State} {earlier : List (List Char)} {line : List Char}

/-- The shape of a line is the first one that it has. -/
theorem shape_cases (line : List Char) :
    (∃ place message, IsLocated line ∧ shape line = .located place message) ∨
    (∃ place, IsHeader line ∧ ¬IsLocated line ∧ shape line = .header place) ∨
    (∃ code message, IsCoded line ∧ ¬IsHeader line ∧ coded? line = some (code, message) ∧
      shape line = .coded code message) ∨
    (IsPlain line ∧ shape line = .plain) := by
  simp only [IsPlain, ← isSome_located?, ← isSome_header?, ← isSome_coded?]
  unfold shape
  cases located? line with
  | some found => simp
  | none =>
    cases header? line with
    | some place => simp
    | none => cases coded? line <;> simp

theorem located?_of_not (h : ¬IsLocated line) : located? line = none :=
  Option.not_isSome_iff_eq_none.1 (mt isSome_located?.1 h)

theorem header?_of_not (h : ¬IsHeader line) : header? line = none :=
  Option.not_isSome_iff_eq_none.1 (mt isSome_header?.1 h)

theorem coded?_of_not (h : ¬IsCoded line) : coded? line = none :=
  Option.not_isSome_iff_eq_none.1 (mt isSome_coded?.1 h)

theorem waiting_cons_of_opens (h : Opens earlier line) :
    waiting (line :: earlier) = decide (IsBare earlier line) :=
  if_pos h

theorem waiting_cons_of_not_opens (h : ¬Opens earlier line) :
    waiting (line :: earlier) = decide (¬IsCoded line ∧ waiting earlier) :=
  if_neg h

/-- A line that opens nothing has no place. -/
theorem not_isHeader_of_not_opens (h : ¬Opens earlier line) : ¬IsHeader line :=
  fun hh => h (.inr (.inr (.inl hh)))

/-- A line that opens more than a trace has a shape. -/
theorem not_isPlain_of_opens (ho : Opens earlier line) (ht : ¬OpensTrace earlier line) :
    ¬IsPlain line := by
  rintro ⟨hl, hh, hc⟩
  rcases ho with ho | ho | ho | ⟨ho, -⟩
  · exact ht ho
  · exact hl ho
  · exact hh ho
  · exact hc ho

theorem begun_of_opensTrace {message : List Char} {place : Place} (ht : OpensTrace earlier line)
    (htrace : trace? line = some (message, place)) :
    s.begun earlier line = s.opened place Diagnostic.information (some message) := by
  simp only [Setting.begun, if_pos ht, htrace]

theorem absorb_of_not_isCoded (h : ¬IsCoded line) (p : Pending) :
    p.absorb line = { p with hint := p.hint.map (· ++ line) } := by
  rw [Pending.absorb, coded?_of_not h]

theorem feed_of_opensTrace (h : Tracks earlier state) (ht : OpensTrace earlier line) :
    s.feed state line = s.finish { state with pending := some (s.begun earlier line) } := by
  obtain ⟨⟨message, place⟩, htrace⟩ := Option.isSome_iff_exists.1 (isSome_trace?.2 ht.1)
  rw [begun_of_opensTrace ht htrace, Setting.feed, h.idle_iff.2 ht.2, htrace]

/-- Unless it is a trace and nothing is open, a line is read by its shape. -/
theorem feed_eq_feedShape (h : ¬(IsTrace line ∧ state.pending = none)) :
    s.feed state line = s.feedShape state line (shape line) := by
  unfold Setting.feed
  split
  case h_1 message place hp htrace => exact absurd ⟨isSome_trace?.1 (by simp [htrace]), hp⟩ h
  case h_2 => rfl

theorem Tracks.feed_eq_feedShape (h : Tracks earlier state) (ht : ¬OpensTrace earlier line) :
    s.feed state line = s.feedShape state line (shape line) :=
  Log.feed_eq_feedShape fun ⟨htrace, hp⟩ => ht ⟨htrace, h.idle_iff.1 hp⟩

theorem feed_of_opens (h : Tracks earlier state) (ho : Opens earlier line)
    (ht : ¬OpensTrace earlier line) :
    s.feed state line = s.opening state (s.begun earlier line) := by
  rw [h.feed_eq_feedShape ht, Setting.begun, if_neg ht]
  rcases shape_cases line with ⟨place, message, -, hs⟩ | ⟨place, -, -, hs⟩ |
    ⟨code, message, -, hh, -, hs⟩ | ⟨hp, hs⟩
  · rw [hs, Setting.feedShape]
  · rw [hs, Setting.feedShape]
  · -- no diagnostic waits for the code, so that it opens one of its own
    have hw : waiting earlier = false := by
      rcases ho with ho | ho | ho | ⟨-, hw⟩
      · exact absurd ho ht
      · exact absurd ho.isHeader hh
      · exact absurd ho hh
      · exact hw
    rw [hs, Setting.feedShape]
    cases hp : state.pending with
    | none => simp [Setting.opening, Setting.finish, hp]
    | some p =>
      have hm : p.message.isSome := by
        rw [Option.isSome_iff_ne_none]
        intro hm
        simpa [hw] using h.waiting_iff.1 ⟨p, hp, hm⟩
      simp [hm]
  · exact absurd hp (not_isPlain_of_opens ho ht)

theorem feed_of_not_opens (h : Tracks earlier state) (ho : ¬Opens earlier line) :
    s.feed state line = { state with pending := state.pending.map (·.absorb line) } := by
  rw [h.feed_eq_feedShape fun ht => ho (.inl ht)]
  rcases shape_cases line with ⟨_, _, hl, -⟩ | ⟨_, hh, -⟩ | ⟨code, message, hc, -, hcoded, hs⟩ |
    ⟨hp, hs⟩
  · exact absurd hl.isHeader (not_isHeader_of_not_opens ho)
  · exact absurd hh (not_isHeader_of_not_opens ho)
  · -- the code is for the diagnostic that waits for it
    have hw : waiting earlier := by
      by_contra hw
      exact ho (.inr (.inr (.inr ⟨hc, by simpa using hw⟩)))
    obtain ⟨p, hp, hm⟩ := h.waiting_iff.2 hw
    simp [hs, Setting.feedShape, hp, hm, Pending.absorb, hcoded]
  · rw [hs, Setting.feedShape, funext (absorb_of_not_isCoded hp.2.2)]

theorem idle_cons : Idle (line :: earlier) ↔ (IsTrace line ∨ IsPlain line) ∧
    Idle earlier := List.forall_mem_cons

/-- A line that opens more than a trace ends the time in which nothing but traces is read. -/
theorem not_idle_of_opens (ho : Opens earlier line) (ht : ¬OpensTrace earlier line) :
    ¬Idle (line :: earlier) := by
  rw [idle_cons]
  rintro ⟨htrace | hp, hi⟩
  · exact ht ⟨htrace, hi⟩
  · exact not_isPlain_of_opens ho ht hp

/-- After its opening line a diagnostic waits for its message just if the line is a bare place. -/
theorem message_begun (ho : Opens earlier line) (ht : ¬OpensTrace earlier line) :
    (s.begun earlier line).message = none ↔ IsBare earlier line := by
  rw [Setting.begun, if_neg ht]
  rcases shape_cases line with ⟨_, _, hl, hs⟩ | ⟨_, hh, hl, hs⟩ | ⟨_, _, -, hh, -, hs⟩ | ⟨hp, -⟩
  · simp [hs, Setting.opened, IsBare, hl]
  · simp [hs, Setting.opened, IsBare, ht, hl, hh]
  · simp [hs, Pending.withCode, IsBare, hh]
  · exact absurd hp (not_isPlain_of_opens ho ht)

theorem message_absorb (p : Pending) (line : List Char) :
    (p.absorb line).message = none ↔ ¬IsCoded line ∧ p.message = none := by
  by_cases hc : IsCoded line
  · obtain ⟨⟨code, message⟩, hcoded⟩ := Option.isSome_iff_exists.1 (isSome_coded?.2 hc)
    simp [Pending.absorb, hcoded, Pending.withCode, hc]
  · simp [absorb_of_not_isCoded hc, hc]

/-- While no diagnostic is open, a line that opens nothing has no shape. -/
theorem isPlain_of_not_opens (hw : waiting earlier = false) (ho : ¬Opens earlier line) :
    IsPlain line :=
  ⟨fun hl => ho (.inr (.inl hl)), not_isHeader_of_not_opens ho,
    fun hc => ho (.inr (.inr (.inr ⟨hc, hw⟩)))⟩

/-- Reading a line keeps the state in agreement with the lines. -/
theorem Tracks.feed (h : Tracks earlier state) (line : List Char) :
    Tracks (line :: earlier) (s.feed state line) := by
  by_cases ho : Opens earlier line
  · by_cases ht : OpensTrace earlier line
    · have hpending : (s.feed state line).pending = none := by
        simp [feed_of_opensTrace h ht, Setting.finish]
      refine ⟨?_, ?_⟩
      · simpa [hpending] using idle_cons.2 ⟨.inl ht.1, ht.2⟩
      · simp [hpending, waiting_cons_of_opens ho, IsBare, ht]
    · have hpending : (s.feed state line).pending = some (s.begun earlier line) := by
        simp [feed_of_opens h ho ht, Setting.opening]
      refine ⟨?_, ?_⟩
      · simpa [hpending] using not_idle_of_opens ho ht
      · simp [hpending, waiting_cons_of_opens ho, message_begun ho ht]
  · have hpending : (s.feed state line).pending = state.pending.map (·.absorb line) := by
      rw [feed_of_not_opens h ho]
    cases hp : state.pending with
    | none =>
      have hw : waiting earlier = false := by simpa [hp] using h.waiting_iff
      have hi : Idle (line :: earlier) :=
        idle_cons.2 ⟨.inr (isPlain_of_not_opens hw ho), h.idle_iff.1 hp⟩
      refine ⟨?_, ?_⟩
      · simpa [hpending, hp] using hi
      · simp [hpending, hp, waiting_cons_of_not_opens ho, hw]
    | some p =>
      have hi : ¬Idle earlier := by simpa [hp] using h.idle_iff
      have hw : p.message = none ↔ waiting earlier := by simpa [hp] using h.waiting_iff
      refine ⟨?_, ?_⟩
      · simpa [hpending, hp, idle_cons] using fun _ => hi
      · simp [hpending, hp, waiting_cons_of_not_opens ho, message_absorb, hw]

end Step

/-! ## Own lines -/

section Own

variable {s : Setting} {earlier later lines : List (List Char)} {line : List Char} {p : Pending}
  {x : Spot}

theorem followers_cons_of_opens (h : Opens earlier line) : followers earlier (line :: later) = [] :=
  if_pos h

theorem followers_cons_of_not_opens (h : ¬Opens earlier line) :
    followers earlier (line :: later) = line :: followers (line :: earlier) later :=
  if_neg h

/-- Where no code is waited for, all own lines are plain. -/
theorem isPlain_of_mem_followers (hw : waiting earlier = false) :
    ∀ l ∈ followers earlier later, IsPlain l := by
  induction later generalizing earlier with
  | nil => simp [followers]
  | cons line later ih =>
    by_cases ho : Opens earlier line
    · simp [followers_cons_of_opens ho]
    · rw [followers_cons_of_not_opens ho, List.forall_mem_cons]
      exact ⟨isPlain_of_not_opens hw ho, ih (by simp [waiting_cons_of_not_opens ho, hw])⟩

/-- Plain lines only make the hint longer. -/
theorem foldl_absorb_of_isPlain (h : ∀ l ∈ lines, IsPlain l) (p : Pending) :
    lines.foldl Pending.absorb p = { p with hint := p.hint.map (· ++ lines.flatten) } := by
  induction lines generalizing p with
  | nil => cases p; simp
  | cons line lines ih =>
    obtain ⟨hp, h⟩ := List.forall_mem_cons.1 h
    rw [List.foldl_cons, absorb_of_not_isCoded hp.2.2, ih h, List.flatten_cons]
    simp [Function.comp_def]

/-- Where a code is waited for, the first own line with one gives code and message, and those after
it the hint. -/
theorem foldl_absorb_of_waiting (hw : waiting earlier) (hp : p.hint = none) :
    (followers earlier later).dropWhile (¬IsCoded ·) = [] ∧
    (followers earlier later).foldl Pending.absorb p = p ∨
    ∃ line rest code message, (followers earlier later).dropWhile (¬IsCoded ·) = line :: rest ∧
      coded? line = some (code, message) ∧ (∀ l ∈ rest, IsPlain l) ∧
      (followers earlier later).foldl Pending.absorb p =
        { p with message := some message, code := some code, hint := some rest.flatten } := by
  induction later generalizing earlier with
  | nil => exact .inl ⟨rfl, rfl⟩
  | cons line later ih =>
    by_cases ho : Opens earlier line
    · rw [followers_cons_of_opens ho]
      exact .inl ⟨rfl, rfl⟩
    · rw [followers_cons_of_not_opens ho, List.foldl_cons]
      by_cases hc : IsCoded line
      · right
        obtain ⟨⟨code, message⟩, hcoded⟩ := Option.isSome_iff_exists.1 (isSome_coded?.2 hc)
        have hplain : ∀ l ∈ followers (line :: earlier) later, IsPlain l :=
          isPlain_of_mem_followers (by simp [waiting_cons_of_not_opens ho, hc])
        refine ⟨line, followers (line :: earlier) later, code, message, by simp [hc], hcoded,
          hplain, ?_⟩
        rw [foldl_absorb_of_isPlain hplain]
        simp [Pending.absorb, hcoded, Pending.withCode, hp]
      · have habsorb : p.absorb line = p := by
          rw [absorb_of_not_isCoded hc, hp, Option.map_none, ← hp]
        rw [habsorb, List.dropWhile_cons_of_pos (by simp [hc])]
        exact ih (by simp [waiting_cons_of_not_opens ho, hc, hw])

/-- The diagnostic that a line opens, after its own lines. -/
def Setting.ended (s : Setting) (x : Spot) : Pending :=
  x.own.foldl Pending.absorb (s.begun x.earlier x.line)

/-- Only a bare place has an own line with a code. -/
theorem isPlain_of_mem_own (ho : x.IsOpening) (hb : ¬IsBare x.earlier x.line) :
    ∀ l ∈ x.own, IsPlain l :=
  isPlain_of_mem_followers ((waiting_cons_of_opens ho).trans (decide_eq_false hb))

theorem filter_isPlain (h : ∀ l ∈ lines, IsPlain l) : lines.filter IsPlain = lines :=
  List.filter_eq_self.2 fun l hl => decide_eq_true (h l hl)

theorem ended_of_isPlain (h : ∀ l ∈ x.own, IsPlain l) :
    s.ended x = { s.begun x.earlier x.line with
      hint := (s.begun x.earlier x.line).hint.map (· ++ x.own.flatten) } :=
  foldl_absorb_of_isPlain h _

/-- An open diagnostic holds what a line that opens one and its own lines say. -/
structure Setting.Holds (s : Setting) (x : Spot) (p : Pending) : Prop where
  uri_eq : p.uri = x.place?.bind fun place => s.resolver.uri? s.fs place.path
  position_eq : p.position = (x.place?.map Place.position).getD .origin
  severity_eq : p.severity = x.severity
  message_eq : p.message = x.message?
  code_eq : p.code = x.code?
  hint_eq : p.hint.getD [] = x.hint

/-- The lines after a trace add nothing to it. -/
theorem ended_of_opensTrace (ht : OpensTrace x.earlier x.line) :
    s.ended x = s.begun x.earlier x.line := by
  obtain ⟨⟨message, place⟩, htrace⟩ := Option.isSome_iff_exists.1 (isSome_trace?.2 ht.1)
  rw [ended_of_isPlain (isPlain_of_mem_own (.inl ht) fun hb => hb.1 ht),
    begun_of_opensTrace ht htrace]
  rfl

theorem holds_ended_of_opensTrace (ht : OpensTrace x.earlier x.line) : s.Holds x (s.ended x) := by
  obtain ⟨⟨message, place⟩, htrace⟩ := Option.isSome_iff_exists.1 (isSome_trace?.2 ht.1)
  have hcoded : x.coded = [] := if_pos (.inl ht)
  rw [ended_of_opensTrace ht, begun_of_opensTrace ht htrace]
  constructor <;>
    simp [Setting.opened, Spot.place?, Spot.severity, Spot.message?, Spot.code?, Spot.hint, ht,
      htrace, hcoded]

theorem holds_ended_of_isLocated (ho : x.IsOpening) (ht : ¬OpensTrace x.earlier x.line)
    (hl : IsLocated x.line) : s.Holds x (s.ended x) := by
  obtain ⟨⟨place, message⟩, hlocated⟩ := Option.isSome_iff_exists.1 (isSome_located?.2 hl)
  have hplain : ∀ l ∈ x.own, IsPlain l := isPlain_of_mem_own ho fun hb => hb.2.2 hl
  have hbegun : s.begun x.earlier x.line = s.opened place Diagnostic.error (some message) := by
    simp only [Setting.begun, if_neg ht, shape, hlocated]
  have hcoded : x.coded = [] := if_pos (.inr hl)
  rw [ended_of_isPlain hplain, hbegun]
  constructor <;>
    simp [Setting.opened, Spot.place?, Spot.severity, Spot.message?, Spot.code?, Spot.hint, ht,
      hlocated, hcoded]

/-- A bare place takes message and code from its first line with a code, and the hint from those
after it. -/
theorem holds_ended_of_isBare (ho : x.IsOpening) (hb : IsBare x.earlier x.line) :
    s.Holds x (s.ended x) := by
  have hw : waiting (x.line :: x.earlier) := (waiting_cons_of_opens ho).trans (decide_eq_true hb)
  obtain ⟨ht, hh, hl⟩ := hb
  obtain ⟨place, hheader⟩ := Option.isSome_iff_exists.1 (isSome_header?.2 hh)
  have hlocated := located?_of_not hl
  have hbegun : s.begun x.earlier x.line = s.opened place Diagnostic.error none := by
    simp only [Setting.begun, if_neg ht, shape, hlocated, hheader]
  have hcoded : x.coded = x.own.dropWhile (¬IsCoded ·) := by simp [Spot.coded, ht, hl, hh]
  have hnone : (s.opened place Diagnostic.error none).hint = none := rfl
  rw [Setting.ended, hbegun]
  rcases foldl_absorb_of_waiting hw hnone with ⟨hnil, hended⟩ |
    ⟨_, rest, _, _, hcons, hcode, hplain, hended⟩
  · rw [Spot.own, hended]
    rw [Spot.own, hnil] at hcoded
    constructor <;>
      simp [Setting.opened, Spot.place?, Spot.severity, Spot.message?, Spot.code?, Spot.hint, ht,
        hlocated, hheader, hcoded]
  · rw [Spot.own, hended]
    rw [Spot.own, hcons] at hcoded
    constructor <;>
      simp [Setting.opened, Spot.place?, Spot.severity, Spot.message?, Spot.code?, Spot.hint, ht,
        hlocated, hheader, hcoded, hcode, filter_isPlain hplain]

theorem holds_ended_of_isCoded (ho : x.IsOpening) (ht : ¬OpensTrace x.earlier x.line)
    (hh : ¬IsHeader x.line) (hc : IsCoded x.line) : s.Holds x (s.ended x) := by
  obtain ⟨⟨code, message⟩, hcode⟩ := Option.isSome_iff_exists.1 (isSome_coded?.2 hc)
  have hl : ¬IsLocated x.line := mt IsLocated.isHeader hh
  have hlocated := located?_of_not hl
  have hheader := header?_of_not hh
  have hplain : ∀ l ∈ x.own, IsPlain l := isPlain_of_mem_own ho fun hb => hh hb.2.1
  have hbegun : s.begun x.earlier x.line = Pending.placeless.withCode code message := by
    simp only [Setting.begun, if_neg ht, shape, hlocated, hheader, hcode]
  have hcoded : x.coded = x.line :: x.own := by simp [Spot.coded, ht, hl, hh]
  rw [ended_of_isPlain hplain, hbegun]
  constructor <;>
    simp [Pending.withCode, Pending.placeless, Spot.place?, Spot.severity, Spot.message?,
      Spot.code?, Spot.hint, ht, hlocated, hheader, hcoded, hcode, filter_isPlain hplain]

/-- After its own lines, a diagnostic holds what its opening line and they say. -/
theorem holds_ended (ho : x.IsOpening) : s.Holds x (s.ended x) := by
  by_cases ht : OpensTrace x.earlier x.line
  · exact holds_ended_of_opensTrace ht
  · by_cases hl : IsLocated x.line
    · exact holds_ended_of_isLocated ho ht hl
    · by_cases hh : IsHeader x.line
      · exact holds_ended_of_isBare ho ⟨ht, hh, hl⟩
      · have hc : IsCoded x.line := by
          by_contra hc
          exact not_isPlain_of_opens ho ht ⟨hl, hh, hc⟩
        exact holds_ended_of_isCoded ho ht hh hc

end Own

/-! ## Whole logs -/

section Whole

variable {s : Setting} {state : State} {earlier : List (List Char)} {uri : Uri} {x : Spot}

/-- What is found by the end: what was found before, then the open diagnostic with its own lines,
then one diagnostic for each line that opens one. -/
theorem found_foldl_feed (h : Tracks earlier state) (later : List (List Char)) :
    (s.finish (later.foldl s.feed state)).found.reverse =
      state.found.reverse ++
        (state.pending.bind fun p =>
          s.finished? ((followers earlier later).foldl Pending.absorb p)).toList ++
        ((spotsFrom earlier later).filter (·.IsOpening)).flatMap fun x =>
          (s.finished? (s.ended x)).toList := by
  induction later generalizing earlier state with
  | nil =>
    cases hp : state.pending with
    | none => simp [Setting.finish, followers, spotsFrom, hp]
    | some p => cases hf : s.finished? p <;> simp [Setting.finish, followers, spotsFrom, hp, hf]
  | cons line later ih =>
    rw [List.foldl_cons, ih (h.feed line)]
    by_cases ho : Opens earlier line
    · have hspots : (spotsFrom earlier (line :: later)).filter (·.IsOpening) =
          ⟨earlier, line, later⟩ :: (spotsFrom (line :: earlier) later).filter (·.IsOpening) :=
        List.filter_cons_of_pos (decide_eq_true ho)
      rw [hspots, List.flatMap_cons, followers_cons_of_opens ho]
      by_cases ht : OpensTrace earlier line
      · have hended : s.ended ⟨earlier, line, later⟩ = s.begun earlier line :=
          ended_of_opensTrace ht
        rw [feed_of_opensTrace h ht, hended]
        cases hf : s.finished? (s.begun earlier line) <;>
          simp [Setting.finish, h.idle_iff.2 ht.2, hf]
      · have hended : s.ended ⟨earlier, line, later⟩ =
          (followers (line :: earlier) later).foldl Pending.absorb (s.begun earlier line) := rfl
        rw [feed_of_opens h ho ht, hended]
        cases hp : state.pending with
        | none => simp [Setting.opening, Setting.finish, hp]
        | some p => cases hf : s.finished? p <;> simp [Setting.opening, Setting.finish, hp, hf]
    · have hspots : (spotsFrom earlier (line :: later)).filter (·.IsOpening) =
          (spotsFrom (line :: earlier) later).filter (·.IsOpening) :=
        List.filter_cons_of_neg (by rw [decide_eq_true_eq]; exact ho)
      rw [hspots, followers_cons_of_not_opens ho, feed_of_not_opens h ho, Option.bind_map]
      rfl

theorem finished?_of_holds {p : Pending} (hd : s.document = some uri) (h : s.Holds x p) :
    s.finished? p = some (x.report s.fs s.resolver uri s.related) := by
  obtain ⟨hu, hp, hs, hm, hc, hh⟩ := h
  simp only [Setting.finished?, hd, hu, hp, hs, hm, hc, hh, Spot.report, Diagnostic.ofLog]
  cases x.place?.bind fun place => s.resolver.uri? s.fs place.path <;> rfl

theorem tracks_start : Tracks [] .start := by
  constructor <;> simp [State.start, Idle, waiting]

theorem read_eq_reports (hd : s.document = some uri) (lines : List (List Char)) :
    s.read lines =
      ((spotsFrom [] lines).filter (·.IsOpening)).map (·.report s.fs s.resolver uri s.related) := by
  have hreport : ∀ x ∈ (spotsFrom [] lines).filter (·.IsOpening),
      (s.finished? (s.ended x)).toList = [x.report s.fs s.resolver uri s.related] := by
    intro x hx
    have ho : x.IsOpening := by simpa using (List.mem_filter.1 hx).2
    rw [finished?_of_holds hd (holds_ended ho), Option.toList_some]
  rw [Setting.read, found_foldl_feed tracks_start, List.flatMap_def,
    List.map_congr_left hreport, ← List.flatMap_def, ← List.map_eq_flatMap]
  rfl

theorem feed_nil : s.feed state [] = state := by
  have htrace : trace? [] = none := rfl
  have hshape : shape [] = .plain := rfl
  obtain ⟨pending, found⟩ := state
  cases pending <;> simp [Setting.feed, htrace, hshape, Setting.feedShape]

/-- Empty lines change nothing. -/
theorem read_filter (lines : List (List Char)) : s.read (lines.filter (· ≠ [])) = s.read lines := by
  have hfold (state : State) : (lines.filter (· ≠ [])).foldl s.feed state =
      lines.foldl s.feed state := by
    induction lines generalizing state with
    | nil => rfl
    | cons line lines ih =>
      by_cases h : line = []
      · rw [List.filter_cons_of_neg (by simp [h]), List.foldl_cons, h, feed_nil, ih]
      · rw [List.filter_cons_of_pos (by simp [h]), List.foldl_cons, List.foldl_cons, ih]
  rw [Setting.read, Setting.read, hfold]

/-- A log may as well be cut at all of its line feeds and carriage returns. -/
theorem read_segments (s : Setting) (cs : List Char) :
    s.read (segments cs) = s.read (Text.split Text.isBreak cs) := by
  rw [← read_filter, segments, Text.filter_flatMap_lines, read_filter]

/-- A log, cut at its line breaks, has one diagnostic for each line that opens one. They are grouped
by file and keep their order, and each says what its opening line and the lines up to the next one
say. -/
theorem parse_eq_reports (fs : FileSystem) (r : Resolver) {document : List Char} (related : Bool)
    (cs : List Char) (hd : r.uri? fs document = some uri) :
    parse fs r document related cs =
      .gathered (((spotsFrom [] (Text.split Text.isBreak cs)).filter (·.IsOpening)).map
        (·.report fs r uri related)) := by
  rw [parse, read_segments, read_eq_reports hd, FileMap.group_eq_gathered]

theorem parse_eq_reports_block : ∃ (log : List Char) (document : Uri),
    log = "x at /p:1:2\n/q:3:4:\nskipped\n5: m\r\nhint\n7: n".toList ∧
    (⟨[]⟩ : Resolver).uri? (.ofFiles [] []) "/d".toList = some document ∧
    ((spotsFrom [] (Text.split Text.isBreak log)).filter (·.IsOpening)).map
      (fun x => (x.message?, x.hint)) =
      [(some "x".toList, []), (some "m".toList, "hint".toList), (some "n".toList, [])] ∧
    parse (.ofFiles [] []) ⟨[]⟩ "/d".toList true log =
      .gathered (((spotsFrom [] (Text.split Text.isBreak log)).filter (·.IsOpening)).map
        (·.report (.ofFiles [] []) ⟨[]⟩ document true)) := by
  have hd : (⟨[]⟩ : Resolver).uri? (.ofFiles [] []) "/d".toList =
      some (.ofSegments ["d".toList]) := by
    decide +kernel
  exact ⟨_, _, rfl, hd, by decide +kernel, parse_eq_reports _ _ _ _ hd⟩

/-- A trace with a colon at its end is no bare place, though it has the shape of one and not that of
a place with its message. So a code on the next line opens a diagnostic of its own. -/
theorem parse_trace_colon : ∃ trace code : List Char, trace = "a at /p:1:2:".toList ∧
    code = "5: m".toList ∧
    Text.split Text.isBreak (trace ++ '\n' :: code) = [trace, code] ∧
    IsTrace trace ∧ IsHeader trace ∧ ¬IsLocated trace ∧
    IsCoded code ∧ ¬IsTrace code ∧ ¬IsHeader code ∧ ¬IsLocated code ∧
    (parse (.ofFiles [] []) ⟨[]⟩ "/d".toList true (trace ++ '\n' :: code)).map
      (fun entry => entry.2.length) = [1, 1] :=
  ⟨_, _, rfl, rfl, by decide +kernel⟩

end Whole

end Log

end EditorBridge
