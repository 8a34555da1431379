import EditorBridge.Proofs.Diagnostic.Log
import Mathlib.Logic.Relation

/-!
# Sections and line breaks of a log

Reading a log never looks at what it has found so far, and a line with a place finishes what is open
before it opens anything. So whatever came before, a part of a log that begins with such a line is
read as if it stood alone.

Empty lines are read without effect. So all that counts of a log are the pieces between its line
breaks that are not empty, and it makes no difference by what kind of line breaks they are kept
apart.
-/

namespace EditorBridge

namespace Log

/-- The state with some more diagnostics that were finished before. -/
def State.after (state : State) (old : List (Uri × Diagnostic)) : State :=
  ⟨state.pending, state.found ++ old⟩

section After

variable {s : Setting} {line : List Char}

theorem finish_after (state : State) (old : List (Uri × Diagnostic)) :
    s.finish (state.after old) = (s.finish state).after old := by
  simp [Setting.finish, State.after]

theorem opening_after (state : State) (old : List (Uri × Diagnostic)) (p : Pending) :
    s.opening (state.after old) p = (s.opening state p).after old := by
  rw [Setting.opening, Setting.opening, finish_after]
  rfl

theorem feedShape_after (state : State) (old : List (Uri × Diagnostic)) (line : List Char)
    (shape : Shape) :
    s.feedShape (state.after old) line shape = (s.feedShape state line shape).after old := by
  cases shape with
  | located place message => exact opening_after ..
  | header place => exact opening_after ..
  | plain => rfl
  | coded code message =>
    obtain ⟨pending, found⟩ := state
    cases pending with
    | none => rfl
    | some p =>
      by_cases hmessage : p.message.isSome
      · simpa [Setting.feedShape, State.after, hmessage] using
          opening_after ⟨some p, found⟩ old (Pending.placeless.withCode code message)
      · simp [Setting.feedShape, State.after, hmessage]

/-- What was found before does not matter for a line. -/
theorem feed_after (state : State) (old : List (Uri × Diagnostic)) (line : List Char) :
    s.feed (state.after old) line = (s.feed state line).after old := by
  by_cases h : IsTrace line ∧ state.pending = none
  · obtain ⟨⟨message, place⟩, htrace⟩ := Option.isSome_iff_exists.1 (isSome_trace?.2 h.1)
    obtain ⟨pending, found⟩ := state
    obtain rfl : pending = none := h.2
    simp only [Setting.feed, State.after, htrace]
    exact finish_after ⟨some _, found⟩ old
  · rw [feed_eq_feedShape h, @feed_eq_feedShape s (state.after old) line h, feedShape_after]

/-- What was found before does not matter for the lines that follow. -/
theorem foldl_feed_after (state : State) (old : List (Uri × Diagnostic))
    (lines : List (List Char)) :
    lines.foldl s.feed (state.after old) = (lines.foldl s.feed state).after old := by
  induction lines generalizing state with
  | nil => rfl
  | cons line lines ih => rw [List.foldl_cons, List.foldl_cons, feed_after, ih]

/-- A line with a place leaves nothing of the state but what was found, with the open diagnostic
added to it. -/
theorem feed_of_isHeader (hplace : IsHeader line) (htrace : ¬IsTrace line) (state : State) :
    s.feed state line = (s.feed .start line).after (s.finish state).found := by
  have hfeed (state : State) :=
    feed_eq_feedShape (s := s) fun h : IsTrace line ∧ state.pending = none => htrace h.1
  rw [hfeed, hfeed]
  rcases shape_cases line with ⟨place, message, -, hs⟩ | ⟨place, -, -, hs⟩ |
    ⟨_, _, -, hh, -⟩ | ⟨hp, -⟩
  · rw [hs]
    rfl
  · rw [hs]
    rfl
  · exact absurd hplace hh
  · exact absurd hplace hp.2.1

/-- Lines from a place on are read as if nothing came before them. -/
theorem read_append (hplace : IsHeader line) (htrace : ¬IsTrace line)
    (before lines : List (List Char)) :
    s.read (before ++ line :: lines) = s.read before ++ s.read (line :: lines) := by
  rw [Setting.read, Setting.read, Setting.read, List.foldl_append, List.foldl_cons, List.foldl_cons,
    feed_of_isHeader hplace htrace, foldl_feed_after, finish_after]
  exact List.reverse_append

end After

end Log

/-! ## Pieces -/

namespace Text

/-- The pieces of a text between its line breaks that are not empty. -/
def filled (cs : List Char) : List (List Char) := (split isBreak cs).filter (· ≠ [])

/-- A text is turned into another one at one place: a carriage return before a line feed is dropped,
a carriage return becomes a line feed, or an empty line is dropped, which follows a break or stands
at an end of the text. -/
inductive Rebreak : List Char → List Char → Prop
  | returnFeed (xs ys : List Char) : Rebreak (xs ++ '\r' :: '\n' :: ys) (xs ++ '\n' :: ys)
  | lone (xs ys : List Char) : Rebreak (xs ++ '\r' :: ys) (xs ++ '\n' :: ys)
  | blank (xs ys : List Char) (c : Char) : isBreak c →
    Rebreak (xs ++ c :: '\n' :: ys) (xs ++ c :: ys)
  | first (ys : List Char) : Rebreak ('\n' :: ys) ys
  | last (xs : List Char) : Rebreak (xs ++ ['\n']) xs

theorem filled_append_cons {c : Char} (hc : isBreak c) (xs ys : List Char) :
    filled (xs ++ c :: ys) = filled xs ++ filled ys := by
  rw [filled, split_append_cons _ _ hc, List.filter_append]
  rfl

theorem filled_cons {c : Char} (hc : isBreak c) (ys : List Char) : filled (c :: ys) = filled ys :=
  filled_append_cons hc [] ys

theorem filled_eq_of_rebreak {a b : List Char} (h : Rebreak a b) : filled a = filled b := by
  have hfeed : isBreak '\n' := by decide
  have hreturn : isBreak '\r' := by decide
  cases h with
  | returnFeed xs ys => rw [filled_append_cons hreturn, filled_cons hfeed, filled_append_cons hfeed]
  | lone xs ys => rw [filled_append_cons hreturn, filled_append_cons hfeed]
  | blank xs ys c hc => rw [filled_append_cons hc, filled_cons hfeed, filled_append_cons hc]
  | first => exact filled_cons hfeed b
  | last => rw [filled_append_cons hfeed]; exact List.append_nil _

theorem filled_eq_of_eqvGen {a b : List Char} (h : Relation.EqvGen Rebreak a b) :
    filled a = filled b := by
  induction h with
  | rel _ _ h => exact filled_eq_of_rebreak h
  | refl => rfl
  | symm _ _ _ ih => exact ih.symm
  | trans _ _ _ _ _ ih ih' => exact ih.trans ih'

end Text

namespace Log

/-- Only the pieces of a log count. -/
theorem read_filled (s : Setting) (cs : List Char) :
    s.read (segments cs) = s.read (Text.filled cs) := by
  rw [read_segments, Text.filled, read_filter]

/-- A log that begins with a place, and with no trace, is read the same way after any other log. The
diagnostics of each file come after those of the other log, and so do the files that are new. -/
theorem parse_append (fs : FileSystem) (r : Resolver) (document : List Char) (related : Bool)
    (log : List Char) {more line : List Char} (hfirst : (Text.filled more).head? = some line)
    (hplace : IsLocated line ∨ IsHeader line) (htrace : ¬IsTrace line) :
    let whole := parse fs r document related (log ++ '\n' :: more)
    let former := parse fs r document related log
    let latter := parse fs r document related more
    whole = former.extend latter ∧
      whole.files = former.files ++ latter.files.filter (· ∉ former.files) ∧
      ∀ uri, whole.valuesOf uri = former.valuesOf uri ++ latter.valuesOf uri := by
  intro whole former latter
  obtain ⟨rest, hrest⟩ := List.head?_eq_some_iff.1 hfirst
  have hheader : IsHeader line := hplace.elim IsLocated.isHeader id
  have hnodup : latter.files.Nodup := FileMap.nodup_files_group _
  have hwhole : whole = former.extend latter := by
    simp only [whole, former, latter]
    rw [parse, parse, parse, read_filled, read_filled, read_filled,
      Text.filled_append_cons (by decide), hrest, read_append hheader htrace,
      FileMap.group_append_eq_extend]
  refine ⟨hwhole, ?_, fun uri => ?_⟩
  · rw [hwhole, FileMap.files_extend hnodup]
  · rw [hwhole, FileMap.valuesOf_extend hnodup]

theorem parse_append_hint :
    ∃ (log more line : List Char) (former latter whole : FileMap Diagnostic),
    log = "/a:1:2:\n5: m\nhint".toList ∧ more = "\r/b:3:4: n\n/a:5:6:\n7: o".toList ∧
    line = "/b:3:4: n".toList ∧
    (Text.filled more).head? = some line ∧ IsLocated line ∧ ¬IsTrace line ∧
    parse (.ofFiles [] []) ⟨[]⟩ "/d".toList true log = former ∧
    former.map (fun entry => entry.2.length) = [1] ∧
    parse (.ofFiles [] []) ⟨[]⟩ "/d".toList true more = latter ∧
    latter.map (fun entry => entry.2.length) = [1, 1] ∧
    parse (.ofFiles [] []) ⟨[]⟩ "/d".toList true (log ++ '\n' :: more) = whole ∧
    whole.map (fun entry => entry.2.length) = [2, 1] ∧
    whole = former.extend latter ∧
    whole.files = former.files ++ latter.files.filter (· ∉ former.files) ∧
    ∀ uri, whole.valuesOf uri = former.valuesOf uri ++ latter.valuesOf uri := by
  have hfirst : (Text.filled "\r/b:3:4: n\n/a:5:6:\n7: o".toList).head? = some "/b:3:4: n".toList :=
    by decide +kernel
  have hplace : IsLocated "/b:3:4: n".toList := by decide +kernel
  have htrace : ¬IsTrace "/b:3:4: n".toList := by decide +kernel
  exact ⟨_, _, _, _, _, _, rfl, rfl, rfl, hfirst, hplace, htrace, rfl, by decide +kernel,
    rfl, by
      decide +kernel, rfl, by decide +kernel, parse_append _ _ _ _ _ hfirst (.inl hplace) htrace⟩

/-- Logs with the same pieces have the same diagnostics. So it does not matter whether lines end in
a line feed, a carriage return or both, and how many empty lines there are. -/
theorem parse_eq_of_filled (fs : FileSystem) (r : Resolver) (document : List Char)
    (related : Bool) :
    (∀ a b, Text.filled a = Text.filled b →
      parse fs r document related a = parse fs r document related b) ∧
    ∀ a b, Relation.EqvGen Text.Rebreak a b →
      Text.filled a = Text.filled b ∧
        parse fs r document related a = parse fs r document related b := by
  have hparse (a b : List Char) (h : Text.filled a = Text.filled b) :
      parse fs r document related a = parse fs r document related b := by
    rw [parse, parse, read_filled, read_filled, h]
  refine ⟨hparse, fun a b h => ?_⟩
  have hfilled := Text.filled_eq_of_eqvGen h
  exact ⟨hfilled, hparse a b hfilled⟩

theorem parse_eq_of_filled_returns : ∃ a b : List Char,
    a = "/a:1:2:\r\n5: m\rhint".toList ∧ b = "/a:1:2:\n\n5: m\nhint".toList ∧
    Relation.EqvGen Text.Rebreak a b ∧
    Text.filled a = ["/a:1:2:".toList, "5: m".toList, "hint".toList] ∧
    Text.filled a = Text.filled b ∧
    (parse (.ofFiles [] []) ⟨[]⟩ "/d".toList true a).map (fun entry => entry.2.length) = [1] ∧
    parse (.ofFiles [] []) ⟨[]⟩ "/d".toList true a =
      parse (.ofFiles [] []) ⟨[]⟩ "/d".toList true b := by
  have hreturn : Text.Rebreak "/a:1:2:\r\n5: m\rhint".toList "/a:1:2:\n5: m\rhint".toList :=
    .returnFeed "/a:1:2:".toList "5: m\rhint".toList
  have hlone : Text.Rebreak "/a:1:2:\n5: m\rhint".toList "/a:1:2:\n5: m\nhint".toList :=
    .lone "/a:1:2:\n5: m".toList "hint".toList
  have hblank : Text.Rebreak "/a:1:2:\n\n5: m\nhint".toList "/a:1:2:\n5: m\nhint".toList :=
    .blank "/a:1:2:".toList "5: m\nhint".toList '\n' (by decide)
  have hab :=
    (Relation.EqvGen.rel _ _ hreturn).trans _ _ _ ((Relation.EqvGen.rel _ _ hlone).trans _ _ _
    ((Relation.EqvGen.rel _ _ hblank).symm _ _))
  have hparse := (parse_eq_of_filled (.ofFiles [] []) ⟨[]⟩ "/d".toList true).2 _ _ hab
  exact ⟨_, _, rfl, rfl, hab, by decide +kernel, hparse.1, by decide +kernel, hparse.2⟩

end Log

end EditorBridge
