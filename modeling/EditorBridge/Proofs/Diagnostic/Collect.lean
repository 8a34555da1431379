import EditorBridge.Diagnostic.Collect
import EditorBridge.Proofs.Diagnostic.FileMap
import EditorBridge.Proofs.Json.Recovery

/-!
# Which output is taken for JSON

The diagnostics of a run come from the record in its output if one can be read there, as a whole or
from the first balanced span of braces, and else from the output as a log. Since the search for the
span knows nothing of string literals, and since every field of the record may be left out, the line
between the two is not where one would draw it. This file says where it is, for a record with a log
around it and for a log without a record.

* Around an object text, lines without braces change nothing if the braces of the object text
  balance in the sense of the search. Otherwise all of its diagnostics are lost, and the output is
  read as a log.
* A log of places and messages is read as such, unless an opening brace in one of the messages
  begins a span that can be read as a record, or the log as a whole is the array form of a record.
-/

namespace EditorBridge

section Output

variable {fs : FileSystem} {r : Resolver} {document output : List Char} {related : Bool}
  {parsed : CompilerOutput} {cause : Fault}

theorem Text.allBlank_eq_false {c : Char} (hc : c ∈ output) (h : Text.isBlank c = false) :
    Text.allBlank output = false := by
  rw [Text.allBlank, List.all_eq_false]
  exact ⟨c, hc, by simp [h]⟩

namespace Diagnostic

theorem collect_of_read (hb : Text.allBlank output = false)
    (h : Recovery.read CompilerOutput.reader output = .ok parsed) :
    collect fs r document related output =
      ofEntries fs r document (parsed.diagnostics.getD []) := by
  simp [collect, hb, h]

/-- Output from which no record can be read is a log. -/
theorem collect_of_read_error (h : Recovery.read CompilerOutput.reader output = .error cause) :
    collect fs r document related output =
      if Text.allBlank output then [] else Log.parse fs r document related output := by
  simp [collect, h]

/-- No file is reported twice. -/
theorem nodup_files_collect (fs : FileSystem) (r : Resolver) (document : List Char) (related : Bool)
    (output : List Char) : (collect fs r document related output).files.Nodup := by
  rw [collect]
  split
  case isTrue => exact List.nodup_nil
  case isFalse =>
    cases Recovery.read CompilerOutput.reader output with
    | ok parsed => exact FileMap.nodup_files_group _
    | error cause => exact FileMap.nodup_files_group _

end Diagnostic

end Output

/-! ## Noise around a record -/

namespace Diagnostic

section Noise

variable {before object after : List Char} {parsed : CompilerOutput}

/-- Lines without braces around an object text change nothing just if its braces balance; otherwise
the output is read as a log. -/
theorem collect_noise (fs : FileSystem) (r : Resolver) (document : List Char) (related : Bool)
    (ho : Braced object) (hv : CompilerOutput.reader.text object = .ok parsed)
    (hb : Braceless before) (hlast : before.getLast? ≠ some '\\') (ha : Braceless after)
    (hw : ∀ a, CompilerOutput.reader.text (before ++ object ++ after) ≠ .ok a) :
    (Recovery.Balanced object →
      collect fs r document related (before ++ object ++ after) =
        collect fs r document related object) ∧
    (¬Recovery.Balanced object →
      collect fs r document related (before ++ object ++ after) =
        Log.parse fs r document related (before ++ object ++ after)) := by
  have hbrace : '{' ∈ object := List.mem_of_mem_head? ho.1
  have hobject : Text.allBlank object = false := Text.allBlank_eq_false hbrace (by decide)
  have hblank : Text.allBlank (before ++ object ++ after) = false :=
    Text.allBlank_eq_false (c := '{') (by simp [hbrace]) (by decide)
  obtain ⟨cause, ht⟩ := Fault.exists_eq_error hw
  constructor
  · intro hbal
    rw [collect_of_read hblank (Recovery.read_of_balanced ho hv hbal hb hlast ha ht),
      collect_of_read hobject (Recovery.read_of_text hv)]
  · intro hbal
    rw [collect_of_read_error (Recovery.read_of_not_balanced CompilerOutput.thorough_reader ho hv
      hbal hb hlast ha ht), hblank]
    simp

theorem collect_noise_message :
    ∃ balanced unbalanced : List Char,
      balanced = "\x7b\"diagnostics\":[\x7b\"message\":\"\x7b\x7d\"\x7d]\x7d".toList ∧
      unbalanced = "\x7b\"diagnostics\":[\x7b\"message\":\"\x7d\"\x7d]\x7d".toList ∧
      collect (.ofFiles [] []) ⟨[]⟩ "/a".toList true ("log\n".toList ++ balanced ++ "\n".toList) =
        collect (.ofFiles [] []) ⟨[]⟩ "/a".toList true balanced ∧
      collect (.ofFiles [] []) ⟨[]⟩ "/a".toList true ("log\n".toList ++ unbalanced ++ "\n".toList) =
        Log.parse (.ofFiles [] []) ⟨[]⟩ "/a".toList true
          ("log\n".toList ++ unbalanced ++ "\n".toList) := by
  refine ⟨_, _, rfl, rfl, ?_, ?_⟩
  · obtain ⟨parsed, hv⟩ := Fault.isOk_iff.1 (show Except.isOk (CompilerOutput.reader.text
      "\x7b\"diagnostics\":[\x7b\"message\":\"\x7b\x7d\"\x7d]\x7d".toList) = true by decide +kernel)
    exact (collect_noise _ _ _ _ (by decide) hv (by decide) (by decide) (by decide)
      (Fault.ne_ok_of_isOk (by decide +kernel))).1
        ((Recovery.balanced_iff (by decide)).2 (by decide))
  · obtain ⟨parsed, hv⟩ := Fault.isOk_iff.1 (show Except.isOk (CompilerOutput.reader.text
      "\x7b\"diagnostics\":[\x7b\"message\":\"\x7d\"\x7d]\x7d".toList) = true by decide +kernel)
    exact (collect_noise _ _ _ _ (by decide) hv (by decide) (by decide) (by decide)
      (Fault.ne_ok_of_isOk (by decide +kernel))).2
        (mt (Recovery.balanced_iff (by decide)).1 (by decide))

/-- A line before an object text is enough to lose a diagnostic whose message has a brace. -/
theorem collect_noise_ne :
    ∃ object : List Char, object = "\x7b\"diagnostics\":[\x7b\"message\":\"\x7d\"\x7d]\x7d".toList ∧
      Braced object ∧ (CompilerOutput.reader.text object).isOk = true ∧ Braceless "log\n".toList ∧
      (Tree.toJson.text ("log\n".toList ++ object)).isOk = false ∧
      collect (.ofFiles [] []) ⟨[]⟩ "/a".toList true ("log\n".toList ++ object) ≠
        collect (.ofFiles [] []) ⟨[]⟩ "/a".toList true object :=
  ⟨_, rfl, by decide +kernel⟩

end Noise

end Diagnostic

/-! ## A log without a record -/

namespace Log

/-- A line with a place and a message. -/
structure Located extends Place where
  message : List Char
  path_ne_nil : path ≠ []
  isBlank_path : ∀ c ∈ path, Text.isBlank c = false
  braceless_path : Braceless path
  line_ne_nil : line ≠ []
  isDigit_line : ∀ c ∈ line, Text.isDigit c
  column_ne_nil : column ≠ []
  isDigit_column : ∀ c ∈ column, Text.isDigit c
  message_ne_nil : message ≠ []
  feedless_message : '\n' ∉ message

namespace Located

/-- The line up to its message. -/
def label (l : Located) : List Char := l.path ++ ':' :: l.line ++ ':' :: l.column ++ [':', ' ']

/-- The text of a line. -/
def text (l : Located) : List Char := l.label ++ l.message

/-- The log of some lines. The last of them is ended by a line feed or by the end of the log. -/
def log (ended : Bool) (lines : List Located) : List Char :=
  Text.join ['\n'] (lines.map text) ++ if ended then ['\n'] else []

variable {l : Located} {lines : List Located} {ended : Bool} {previous : Char}

theorem braceless_of_isDigit {cs : List Char} (h : ∀ c ∈ cs, Text.isDigit c) : Braceless cs := by
  intro c hc
  have hd := h c hc
  constructor
  · rintro rfl
    exact absurd hd (by decide)
  · rintro rfl
    exact absurd hd (by decide)

theorem braceless_label : Braceless l.label := by
  intro c hc
  simp only [label, List.mem_append, List.mem_cons, List.not_mem_nil, or_false] at hc
  rcases hc with ((hc | rfl | hc) | rfl | hc) | rfl | rfl
  · exact l.braceless_path c hc
  · decide
  · exact braceless_of_isDigit l.isDigit_line c hc
  · decide
  · exact braceless_of_isDigit l.isDigit_column c hc
  · decide
  · decide

/-- No span begins in a line if the opening braces of its message follow a backslash. -/
theorem exists_spanAfter_text (h : Recovery.Guarded Recovery.opening l.message) (previous : Char) :
    ∃ last, ∀ rest, Recovery.spanAfter previous (l.text ++ rest) =
      Recovery.spanAfter last rest := by
  have hlabel : Recovery.guarded Recovery.opening .plain previous l.label :=
    Recovery.guarded_of_braceless braceless_label
  have hlast : l.label.getLast?.getD previous = ' ' := by
    rw [label, List.getLast?_append]
    rfl
  refine ⟨l.message.getLast?.getD ' ', fun rest => ?_⟩
  rw [text, List.append_assoc, Recovery.spanAfter_append hlabel, hlast,
    Recovery.spanAfter_append (Recovery.guarded_iff.1 h)]

/-- Nor does one begin in a log of such lines. -/
theorem spanAfter_log (h : ∀ l ∈ lines, Recovery.Guarded Recovery.opening l.message) :
    Recovery.spanAfter previous (log ended lines) = none := by
  induction lines generalizing previous with
  | nil => cases ended <;> simp [log, Recovery.spanAfter]
  | cons l lines ih =>
    obtain ⟨hl, h⟩ := List.forall_mem_cons.1 h
    cases lines with
    | nil =>
      obtain ⟨last, hspan⟩ := exists_spanAfter_text hl previous
      rw [log, List.map_singleton, Text.join_singleton, hspan]
      cases ended <;> simp [Recovery.spanAfter]
    | cons next lines =>
      have hlog : log ended (l :: next :: lines) = l.text ++ '\n' :: log ended (next :: lines) := by
        simp [log]
      obtain ⟨last, hspan⟩ := exists_spanAfter_text hl previous
      rw [hlog, hspan, Recovery.spanAfter, if_neg (by simp)]
      exact ih h

/-- A span that is found in a log begins at a brace in a message. -/
theorem exists_not_guarded {span : List Char} (h : Recovery.span? (log ended lines) = some span) :
    ∃ l ∈ lines, ¬Recovery.Guarded Recovery.opening l.message := by
  by_contra hnone
  have hguarded : ∀ l ∈ lines, Recovery.Guarded Recovery.opening l.message := by
    intro l hl
    by_contra hl'
    exact hnone ⟨l, hl, hl'⟩
  rw [Recovery.span?, spanAfter_log hguarded] at h
  cases h

/-- A log begins with the path of its first line, and that with a character that is not blank. -/
theorem exists_log_eq_cons (ended : Bool) (first : Located) (rest : List Located) :
    ∃ c more, log ended (first :: rest) = c :: more ∧ first.path.head? = some c ∧
      Text.isBlank c = false ∧ c ≠ '\x7b' := by
  obtain ⟨c, path, hpath⟩ := List.exists_cons_of_ne_nil first.path_ne_nil
  have hc : c ∈ first.path := by simp [hpath]
  have hlog : ∃ more, log ended (first :: rest) = first.path ++ more := by
    cases rest with
    | nil =>
      simp only [log, List.map_singleton, Text.join_singleton, text, label, List.append_assoc]
      exact ⟨_, rfl⟩
    | cons next rest =>
      simp only [log, List.map_cons, Text.join_cons_cons, text, label, List.append_assoc]
      exact ⟨_, rfl⟩
  obtain ⟨more, hlog⟩ := hlog
  refine ⟨c, path ++ more, ?_, ?_, first.isBlank_path c hc, (first.braceless_path c hc).1⟩
  · rw [hlog, hpath, List.cons_append]
  · rw [hpath, List.head?_cons]

theorem allBlank_log (ended : Bool) (first : Located) (rest : List Located) :
    Text.allBlank (log ended (first :: rest)) = false := by
  obtain ⟨c, more, hlog, -, hblank, -⟩ := exists_log_eq_cons ended first rest
  exact Text.allBlank_eq_false (c := c) (by simp [hlog]) hblank

theorem isBlank_of_isSpace {c : Char} (h : Token.isSpace c) : Text.isBlank c = true := by
  simp only [Token.isSpace, decide_eq_true_eq] at h
  rcases h with rfl | rfl | rfl | rfl <;> decide

/-- A log that is a record as a whole begins with a bracket. -/
theorem head?_of_text {first : Located} {rest : List Located} {parsed : CompilerOutput}
    (h : CompilerOutput.reader.text (log ended (first :: rest)) = .ok parsed) :
    first.path.head? = some '[' := by
  obtain ⟨c, more, hlog, hhead, hblank, hbrace⟩ := exists_log_eq_cons ended first rest
  have hspace : ¬Token.isSpace c := fun hs => by simp [isBlank_of_isSpace hs] at hblank
  rw [hlog] at h
  rcases Reader.head_of_record_text hspace h with rfl | rfl
  · exact absurd rfl hbrace
  · exact hhead

/-- A line with a path and a message that can be checked, and the log of it alone. -/
theorem exists_text_eq (path message : List Char) (hpath : path ≠ [])
    (hblank : path.all (!Text.isBlank ·) = true) (hbraces : Braceless path)
    (hmessage : message ≠ []) (hfeed : '\n' ∉ message) : ∃ line : Located,
      line.text = path ++ ":1:2: ".toList ++ message ∧ line.text = log false [line] := by
  have hone : ∀ c ∈ ['1'], Text.isDigit c := List.all_eq_true.1 (by decide)
  have htwo : ∀ c ∈ ['2'], Text.isDigit c := List.all_eq_true.1 (by decide)
  refine ⟨⟨⟨path, ['1'], ['2']⟩, message, hpath, ?_, hbraces, List.cons_ne_nil _ _, hone,
    List.cons_ne_nil _ _, htwo, hmessage, hfeed⟩, ?_, ?_⟩
  · simpa using hblank
  · simp [text, label]
  · simp [log]

end Located

end Log

namespace Diagnostic

/-- How a log of places and messages is read. If it is a record as a whole, and then its first path
begins with a bracket, what is reported are the diagnostics of that record. Else, if its first
balanced span of braces is a record, and then a message has an opening brace that is not directly
after a backslash, they are the diagnostics of that one. A log without a record is read as such. -/
theorem collect_log (fs : FileSystem) (r : Resolver) (document : List Char) (related : Bool)
    {ended : Bool} {first : Log.Located} {rest : List Log.Located} {log : List Char}
    (hlog : log = Log.Located.log ended (first :: rest)) :
    (∀ parsed, CompilerOutput.reader.text log = .ok parsed →
      first.path.head? = some '[' ∧
        collect fs r document related log = ofEntries fs r document (parsed.diagnostics.getD [])) ∧
    (∀ span parsed, (∀ whole, CompilerOutput.reader.text log ≠ .ok whole) →
      Recovery.span? log = some span → CompilerOutput.reader.text span = .ok parsed →
        (∃ line ∈ first :: rest, ¬Recovery.Guarded Recovery.opening line.message) ∧
          collect fs r document related log =
            ofEntries fs r document (parsed.diagnostics.getD [])) ∧
    ((∀ whole, CompilerOutput.reader.text log ≠ .ok whole) →
      (∀ span parsed, Recovery.span? log = some span →
        CompilerOutput.reader.text span ≠ .ok parsed) →
        collect fs r document related log = Log.parse fs r document related log) := by
  subst hlog
  have hblank := Log.Located.allBlank_log ended first rest
  refine ⟨fun parsed htext => ?_, fun span parsed hnone hspan htext => ?_, fun hnone hspan => ?_⟩
  · exact ⟨Log.Located.head?_of_text htext, collect_of_read hblank (Recovery.read_of_text htext)⟩
  · obtain ⟨cause, hwhole⟩ := Fault.exists_eq_error hnone
    exact ⟨Log.Located.exists_not_guarded hspan,
      collect_of_read hblank (Recovery.read_of_span? hwhole hspan htext)⟩
  · obtain ⟨cause, hwhole⟩ := Fault.exists_eq_error hnone
    rw [collect_of_read_error (Recovery.read_eq_error hwhole hspan), hblank]
    rfl

/-- A log that is a record as a whole, one with a record inside of it and one without a record. -/
theorem collect_log_records : ∃ whole inside neither : Log.Located,
    whole.text = "[[\"a:1:2: b\"]]".toList ∧
      (CompilerOutput.reader.text whole.text).isOk = true ∧ whole.path.head? = some '[' ∧
    inside.text = "a:1:2: \x7b\"diagnostics\":[]\x7d".toList ∧
      (CompilerOutput.reader.text inside.text).isOk = false ∧
      (∃ line ∈ [inside], ¬Recovery.Guarded Recovery.opening line.message) ∧
      collect (.ofFiles [] []) ⟨[]⟩ "/a".toList true inside.text = [] ∧
    neither.text = "a:1:2: \x7bb\x7d".toList ∧
      (CompilerOutput.reader.text neither.text).isOk = false ∧
      collect (.ofFiles [] []) ⟨[]⟩ "/a".toList true neither.text =
        Log.parse (.ofFiles [] []) ⟨[]⟩ "/a".toList true neither.text := by
  obtain ⟨whole, hwhole, hwholeLog⟩ := Log.Located.exists_text_eq "[[\"a".toList "b\"]]".toList
    (by decide) (by decide) (by decide) (by decide) (by decide)
  obtain ⟨inside, hinside, hinsideLog⟩ := Log.Located.exists_text_eq "a".toList
    "\x7b\"diagnostics\":[]\x7d".toList (by decide) (by decide) (by decide) (by decide) (by decide)
  obtain ⟨neither, hneither, hneitherLog⟩ := Log.Located.exists_text_eq "a".toList
    "\x7bb\x7d".toList (by decide) (by decide) (by decide) (by decide) (by decide)
  obtain ⟨hrecord, -, -⟩ := collect_log (.ofFiles [] []) ⟨[]⟩ "/a".toList true hwholeLog
  obtain ⟨-, hspan, -⟩ := collect_log (.ofFiles [] []) ⟨[]⟩ "/a".toList true hinsideLog
  obtain ⟨-, -, hplain⟩ := collect_log (.ofFiles [] []) ⟨[]⟩ "/a".toList true hneitherLog
  have hwholeOk : (CompilerOutput.reader.text whole.text).isOk = true := by
    rw [hwhole]
    decide +kernel
  have hinsideOk : (CompilerOutput.reader.text inside.text).isOk = false := by
    rw [hinside]
    decide +kernel
  have hneitherOk : (CompilerOutput.reader.text neither.text).isOk = false := by
    rw [hneither]
    decide +kernel
  obtain ⟨parsed, hparsed⟩ := Fault.isOk_iff.1 hwholeOk
  obtain ⟨hbrace, hcollect⟩ := hspan "\x7b\"diagnostics\":[]\x7d".toList ⟨some [], none⟩
    (Fault.ne_ok_of_isOk hinsideOk) (by rw [hinside]; decide +kernel) (by cbv)
  have hnothing : ∀ span parsed, Recovery.span? neither.text = some span →
      CompilerOutput.reader.text span ≠ .ok parsed := by
    intro span parsed hfound
    have hb : Recovery.span? neither.text = some "\x7bb\x7d".toList := by
      rw [hneither]
      decide +kernel
    obtain rfl := Option.some.inj (hb.symm.trans hfound)
    exact Fault.ne_ok_of_isOk (by decide +kernel) parsed
  exact ⟨whole, inside, neither, hwhole.trans (by decide), hwholeOk, (hrecord parsed hparsed).1,
    hinside.trans (by decide), hinsideOk, hbrace, hcollect, hneither.trans (by decide), hneitherOk,
    hplain (Fault.ne_ok_of_isOk hneitherOk) hnothing⟩

/-- Two braces in a message are enough to lose it: they are a record without diagnostics. -/
theorem collect_log_ne :
    ∃ line : Log.Located, line.text = "/a.das:1:2: unexpected \x7b\x7d".toList ∧
      collect (.ofFiles [] []) ⟨[]⟩ "/a.das".toList true (Log.Located.log false [line]) = [] ∧
      Log.parse (.ofFiles [] []) ⟨[]⟩ "/a.das".toList true (Log.Located.log false [line]) ≠ [] := by
  obtain ⟨line, htext, hlog⟩ := Log.Located.exists_text_eq "/a.das".toList
    "unexpected \x7b\x7d".toList (by decide) (by decide) (by decide) (by decide) (by decide)
  refine ⟨line, htext.trans (by decide), ?_⟩
  rw [← hlog, htext]
  decide +kernel

end Diagnostic

end EditorBridge
