import EditorBridge.Proofs.Diagnostic.Log
import EditorBridge.Proofs.Server.Overlap
import EditorBridge.Proofs.Uri.File

/-!
# Diagnostics without a file

What a compiler reports without naming a file is about the document that is validated. The compiler
is given the document by its path, and the path is all that the reading of its output knows. So the
URI of the document is lost on the way, and a URI is made from the path again. This file says that
it is the same one, and that diagnostics without a file are published there, from JSON and from a
log.
-/

namespace EditorBridge

/-! ## Blank output -/

namespace Diagnostic

variable {output : List Char} {parsed : CompilerOutput}

theorem text_ne_of_allBlank (h : Text.allBlank output) :
    CompilerOutput.reader.text output ≠ .ok parsed := by
  induction output with
  | nil => exact CompilerOutput.thorough_reader.text_nil_ne
  | cons c output ih =>
    rw [Text.allBlank, List.all_cons, Bool.and_eq_true] at h
    by_cases hc : Token.isSpace c
    · have hskip : CompilerOutput.reader.text (c :: output) =
          CompilerOutput.reader.text output := by
        rw [Reader.text, Reader.text, Document.ofText, Document.ofText, tokens_of_isSpace hc]
      rw [hskip]
      exact ih h.2
    · intro hread
      rcases Reader.head_of_record_text hc hread with rfl | rfl
      · exact absurd h.1 (by decide)
      · exact absurd h.1 (by decide)

/-- No record is read from blank output, be it blank in JSON or only to the eye. -/
theorem allBlank_eq_false_of_read (h : Recovery.read CompilerOutput.reader output = .ok parsed) :
    Text.allBlank output = false := by
  rw [Bool.eq_false_iff]
  intro hblank
  rcases Recovery.text_of_read h with hwhole | ⟨span, hspan, -⟩
  · exact text_ne_of_allBlank hblank hwhole
  · have hbraceless : Braceless output := by
      intro c hc
      have hc := List.all_eq_true.1 hblank c hc
      constructor
      · rintro rfl
        exact absurd hc (by decide)
      · rintro rfl
        exact absurd hc (by decide)
    have hguarded : Recovery.guarded Recovery.opening .plain ' ' output :=
      Recovery.guarded_of_braceless hbraceless
    have hnone : Recovery.spanAfter ' ' (output ++ []) = none := Recovery.spanAfter_append hguarded
    rw [Recovery.span?, ← List.append_nil output, hnone] at hspan
    cases hspan

end Diagnostic

namespace Log

variable {x : Spot} {earlier lines : List (List Char)}

theorem line_mem_of_mem_spotsFrom (h : x ∈ spotsFrom earlier lines) : x.line ∈ lines := by
  induction lines generalizing earlier with
  | nil => cases h
  | cons line lines ih =>
    rcases List.mem_cons.1 h with rfl | h
    · exact List.mem_cons_self
    · exact List.mem_cons_of_mem _ (ih h)

/-- A line that opens a diagnostic has a colon. -/
theorem colon_mem_of_isOpening (h : x.IsOpening) : ':' ∈ x.line := by
  have hheader (h : IsHeader x.line) : ':' ∈ x.line := by
    obtain ⟨before, path, line, column, rest, -, -, -, -, heq⟩ := h
    simp [heq, mark]
  rcases h with ⟨⟨message, path, line, column, rest, -, -, -, -, heq⟩, -⟩ | h | h |
    ⟨⟨code, message, -, heq⟩, -⟩
  · simp [heq]
  · exact hheader h.isHeader
  · exact hheader h
  · simp [heq]

theorem allBlank_eq_false_of_isOpening {output : List Char}
    (hx : x ∈ spotsFrom [] (Text.split Text.isBreak output)) (ho : x.IsOpening) :
    Text.allBlank output = false := by
  have hline := Text.forall_of_mem_split (line_mem_of_mem_spotsFrom hx)
  exact Text.allBlank_eq_false (hline ':' (colon_mem_of_isOpening ho)).1 (by decide)

end Log

/-! ## Both ways of reading -/

namespace RawDiagnostic

/-- A reported diagnostic that names no file. -/
def Fileless (raw : RawDiagnostic) : Prop := ∀ uri ∈ raw.uri, Text.allBlank uri.toList

theorem Fileless.path_eq {raw : RawDiagnostic} (h : raw.Fileless) (document : List Char) :
    raw.path document = document := by
  rw [path]
  cases huri : raw.uri with
  | none => rfl
  | some uri => exact if_pos (h uri huri)

end RawDiagnostic

namespace Diagnostic

variable {fs : FileSystem} {r : Resolver} {document output : List Char} {related : Bool} {u : Uri}

/-- An entry without a file is among the diagnostics of the document. -/
theorem exists_mem_collect_of_fileless {parsed : CompilerOutput} {entry : Json}
    {raw : RawDiagnostic} (hu : r.uri? fs document = some u)
    (hread : Recovery.read CompilerOutput.reader output = .ok parsed)
    (hentry : entry ∈ parsed.diagnostics.getD []) (hraw : RawDiagnostic.reader.json entry = .ok raw)
    (hfile : raw.Fileless) (hmessage : raw.message.isSome) :
    ∃ d list, raw.toDiagnostic? fs r document = some (u, d) ∧
      (u, list) ∈ collect fs r document related output ∧ d ∈ list := by
  obtain ⟨message, hmessage⟩ := Option.isSome_iff_exists.1 hmessage
  obtain ⟨d, hd⟩ : ∃ d, raw.toDiagnostic? fs r document = some (u, d) := by
    simp [RawDiagnostic.toDiagnostic?, hmessage, hfile.path_eq, hu]
  have hvalue : (u, d) ∈ (parsed.diagnostics.getD []).filterMap (entryDiagnostic? fs r document) :=
    List.mem_filterMap.2 ⟨entry, hentry, by simp only [entryDiagnostic?, hraw, hd]⟩
  obtain ⟨list, hlist, hmem⟩ := FileMap.exists_mem_group hvalue
  refine ⟨d, list, hd, ?_, hmem⟩
  rw [collect_of_read (allBlank_eq_false_of_read hread) hread]
  exact hlist

/-- A line of a log that opens a diagnostic and gives no place opens one of the document. -/
theorem exists_mem_collect_of_place?_eq_none {cause : Fault} {x : Log.Spot}
    (hu : r.uri? fs document = some u)
    (hread : Recovery.read CompilerOutput.reader output = .error cause)
    (hx : x ∈ Log.spotsFrom [] (Text.split Text.isBreak output)) (ho : x.IsOpening)
    (hplace : x.place? = none) :
    ∃ d list, x.report fs r u related = (u, d) ∧
      (u, list) ∈ collect fs r document related output ∧ d ∈ list := by
  have hreport : x.report fs r u related = (u, (x.report fs r u related).2) := by
    simp [Log.Spot.report, hplace]
  have hlog : collect fs r document related output =
      .group (((Log.spotsFrom [] (Text.split Text.isBreak output)).filter
      (·.IsOpening)).map (·.report fs r u related)) := by
    rw [collect_of_read_error hread, Log.allBlank_eq_false_of_isOpening hx ho, if_neg (by simp),
      Log.parse, Log.read_segments, Log.read_eq_reports hu]
  have hvalue : (u, (x.report fs r u related).2) ∈
      ((Log.spotsFrom [] (Text.split Text.isBreak output)).filter
      (·.IsOpening)).map (·.report fs r u related) := by
    rw [← hreport]
    exact List.mem_map_of_mem (List.mem_filter.2 ⟨hx, decide_eq_true ho⟩)
  obtain ⟨list, hlist, hmem⟩ := FileMap.exists_mem_group hvalue
  exact ⟨_, list, hreport, hlog ▸ hlist, hmem⟩

end Diagnostic

/-! ## Validations -/

namespace Server

open Job

/-- What a validation publishes. -/
theorem publications_validate (env : Surroundings) (w : World) (s : Server) (uri : Uri) :
    let found := (settingsFor uri).perform w s
    let path := Uri.localPath uri.chars
    publications ((validate env uri).perform w s).actions =
      (s.publisher.publish uri
        (Diagnostic.collect env.files (found.server.resolver found.value) path
        found.server.showsRelated (w.output (compileCommand found.value path)))).2 := by
  intro found path
  obtain ⟨hpublisher, hquiet⟩ := quiet_settingsFor uri w s
  obtain ⟨hserver, hactions⟩ := perform_publish w found.server uri
    (Diagnostic.collect env.files (found.server.resolver found.value) path found.server.showsRelated
      (w.output (compileCommand found.value path)))
  rw [hpublisher] at hactions
  rw [validate, perform_bind, publications_append, hquiet, List.nil_append]
  exact hactions

/-- A path from the root without anything to fold, without white space at its end and without a
drive at its start is found again from the URI of its file, and the URI from the path, by all
resolvers. So whatever a compiler reports without a file while the document with this URI is
validated is published for the same URI. -/
theorem validate_fileless {path : List Char} (hpath : Path.IsCanonical path)
    (hlast : ∀ c ∈ path.getLast?, Text.isBlank c = false)
    (hdrive : ∀ c rest, path = '/' :: c :: ':' :: rest → ¬c.isAlphanum ∧ c ≠ '_') :
    ∃ u : Uri, (∀ fs r, Resolver.uri? fs r path = some u) ∧ Uri.localPath u.chars = path ∧
      (∀ fs r, Resolver.uri? fs r (Uri.localPath u.chars) = some u) ∧
      ∀ (env : Surroundings) (w : World) (s : Server),
        let found := (settingsFor u).perform w s
        let resolver := found.server.resolver found.value
        let output := w.output (compileCommand found.value path)
        let published := publications ((validate env u).perform w s).actions
        (∀ parsed, Recovery.read CompilerOutput.reader output = .ok parsed →
          ∀ entry ∈ parsed.diagnostics.getD [], ∀ raw, RawDiagnostic.reader.json entry = .ok raw →
          raw.Fileless →
            raw.message.isSome →
              ∃ d list, raw.toDiagnostic? env.files resolver path = some (u, d) ∧
              (u, list) ∈ published ∧ d ∈ list) ∧
        ∀ cause, Recovery.read CompilerOutput.reader output = .error cause →
          ∀ x ∈ Log.spotsFrom [] (Text.split Text.isBreak output), x.IsOpening → x.place? = none →
            ∃ d list, x.report env.files resolver u found.server.showsRelated = (u, d) ∧
              (u, list) ∈ published ∧ d ∈ list := by
  have hhasDrive : Uri.hasDrive path = false := by
    unfold Uri.hasDrive
    split
    case h_1 c rest => simp [hdrive c rest rfl]
    case h_2 => rfl
  obtain ⟨u, huri, hlocal⟩ := Resolver.exists_uri?_localPath hpath hlast hhasDrive
  refine ⟨u, huri, hlocal, fun fs r => by rw [hlocal, huri], ?_⟩
  intro env w s found resolver output published
  have hpublished {list : List Diagnostic} (h : (u, list) ∈
      Diagnostic.collect env.files resolver path found.server.showsRelated output) : (u, list) ∈
        published := by
    have heq : published = _ := publications_validate env w s u
    rw [hlocal] at heq
    rw [heq]
    exact Publisher.mem_publish.2 (.inl h)
  constructor
  · intro parsed hread entry hentry raw hraw hfile hmessage
    obtain ⟨d, list, hd, hlist, hmem⟩ :=
      Diagnostic.exists_mem_collect_of_fileless (huri _ _) hread hentry hraw hfile hmessage
    exact ⟨d, list, hd, hpublished hlist, hmem⟩
  · intro cause hread x hx ho hplace
    obtain ⟨d, list, hd, hlist, hmem⟩ :=
      Diagnostic.exists_mem_collect_of_place?_eq_none (huri _ _) hread hx ho hplace
    exact ⟨d, list, hd, hpublished hlist, hmem⟩

theorem validate_fileless_escaped : ∃ (path : List Char) (u : Uri) (json log : List Char),
    path = "/my game/100%?#ü.das".toList ∧ u.text = "file:///my%20game/100%25%3F%23%C3%BC.das" ∧
    json = "\x7b\"diagnostics\":[\x7b\"message\":\"x\"\x7d]\x7d".toList ∧ log = "5: m".toList ∧
    (∀ fs r, Resolver.uri? fs r path = some u) ∧ Uri.localPath u.chars = path ∧
    ∀ (env : Surroundings) (s : Server),
      (∃ list ≠ [], (u, list) ∈
        publications ((validate env u).perform ⟨fun _ => none, fun _ => json⟩ s).actions) ∧
      ∃ list ≠ [], (u, list) ∈
        publications ((validate env u).perform ⟨fun _ => none, fun _ => log⟩ s).actions := by
  let json := "\x7b\"diagnostics\":[\x7b\"message\":\"x\"\x7d]\x7d".toList
  let log := "5: m".toList
  obtain ⟨u, huri, hlocal, -, hpublished⟩ := @validate_fileless "/my game/100%?#ü.das".toList
    ⟨_, rfl, .inr (by decide)⟩ (by rintro c ⟨⟩; rfl) (by simp)
  have htext : (Resolver.uri? (.ofFiles [] []) ⟨[]⟩ "/my game/100%?#ü.das".toList).map Uri.text =
      some "file:///my%20game/100%25%3F%23%C3%BC.das" := by decide +kernel
  rw [huri] at htext
  refine ⟨_, u, json, log, rfl, Option.some.inj htext, rfl, rfl, huri, hlocal,
    fun env s => ⟨?_, ?_⟩⟩
  · have hjson : ((Recovery.read CompilerOutput.reader json).toOption.any fun parsed =>
        (parsed.diagnostics.getD []).any fun entry =>
          (RawDiagnostic.reader.json entry).toOption.any fun raw =>
          raw.uri.isNone && raw.message.isSome) = true := by decide +kernel
    simp only [Option.any_eq_true, List.any_eq_true, Bool.and_eq_true,
      Option.isNone_iff_eq_none] at hjson
    obtain ⟨parsed, hread, entry, hentry, raw, hraw, huri, hmessage⟩ := hjson
    obtain ⟨d, list, -, hlist, hd⟩ := (hpublished env ⟨fun _ => none, fun _ => json⟩ s).1 parsed
      (Fault.toOption_eq_some.1 hread) entry hentry raw (Fault.toOption_eq_some.1 hraw)
      (by simp [RawDiagnostic.Fileless, huri]) hmessage
    exact ⟨list, List.ne_nil_of_mem hd, hlist⟩
  · have hspot : (⟨[], log, []⟩ : Log.Spot) ∈ Log.spotsFrom [] (Text.split Text.isBreak log) :=
      List.mem_singleton.2 rfl
    have hopening : (⟨[], log, []⟩ : Log.Spot).IsOpening := by decide
    have hplace : (⟨[], log, []⟩ : Log.Spot).place? = none := by decide
    have hread : (Recovery.read CompilerOutput.reader log).isOk = false := by decide +kernel
    cases hcause : Recovery.read CompilerOutput.reader log with
    | ok parsed => exact absurd hcause (Fault.ne_ok_of_isOk hread parsed)
    | error cause =>
      obtain ⟨d, list, -, hlist, hd⟩ :=
        (hpublished env ⟨fun _ => none, fun _ => log⟩ s).2 cause hcause _ hspot hopening hplace
      exact ⟨list, List.ne_nil_of_mem hd, hlist⟩

end Server

end EditorBridge
