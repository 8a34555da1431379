import EditorBridge.Proofs.Diagnostic.Collect
import EditorBridge.Proofs.Diagnostic.Log
import EditorBridge.Proofs.Uri.File

/-!
# Where diagnostics are shown

A compiler names files in many ways: by paths with and without dots, relative to one of several
directories, with white space around them, or not at all. Whatever it says, each diagnostic and each
remark is shown at the URI of a file by its path from the root, in which nothing is left to fold.
What would not have such a URI is left out.
-/

namespace EditorBridge

namespace Diagnostic

/-- A diagnostic that is shown, together with its remarks, at URIs of files. -/
structure Placed (uri : Uri) (d : Diagnostic) : Prop where
  file : uri.NamesFile
  remarks : ∀ list ∈ d.related, ∀ remark ∈ list, remark.location.uri.NamesFile

variable {fs : FileSystem} {r : Resolver} {document : List Char} {uri : Uri} {d : Diagnostic}

/-! ## Entries -/

/-- A remark without a usable file is shown where its diagnostic is. -/
theorem namesFile_remark (huri : uri.NamesFile) (shift : Shift) (path : List Char)
    (raw : RawRelated) : (RawDiagnostic.remark fs r shift path uri raw).location.uri.NamesFile := by
  rw [RawDiagnostic.remark]
  cases hplace : r.uri? fs (((raw.location.getD {}).uri.map String.toList).getD path) with
  | none => exact huri
  | some other => exact Resolver.namesFile_of_uri? hplace

theorem placed_of_toDiagnostic? {raw : RawDiagnostic}
    (h : raw.toDiagnostic? fs r document = some (uri, d)) : Placed uri d := by
  obtain ⟨message, -, h⟩ := Option.bind_eq_some_iff.1 h
  obtain ⟨found, hfound, h⟩ := Option.bind_eq_some_iff.1 h
  cases h
  have huri : uri.NamesFile := Resolver.namesFile_of_uri? hfound
  refine ⟨huri, ?_⟩
  intro list hlist remark hremark
  obtain ⟨raws, -, rfl⟩ := Option.map_eq_some_iff.1 hlist
  obtain ⟨_, -, rfl⟩ := List.mem_map.1 hremark
  exact namesFile_remark huri ..

theorem placed_of_entryDiagnostic? {entry : Json}
    (h : entryDiagnostic? fs r document entry = some (uri, d)) : Placed uri d := by
  rw [entryDiagnostic?] at h
  split at h
  · exact placed_of_toDiagnostic? h
  · cases h

end Diagnostic

/-! ## Logs -/

namespace Log

variable {s : Setting} {uri : Uri} {d : Diagnostic}

/-- The hint of a diagnostic is shown where the diagnostic is. -/
theorem placed_of_finished? {p : Pending} (hdocument : ∀ u ∈ s.document, u.NamesFile)
    (hp : ∀ u ∈ p.uri, u.NamesFile) (h : s.finished? p = some (uri, d)) :
    Diagnostic.Placed uri d := by
  obtain ⟨found, hfound, h⟩ := Option.bind_eq_some_iff.1 h
  cases h
  have huri : uri.NamesFile := by
    rcases Option.or_eq_some_iff.1 hfound with hfound | ⟨-, hfound⟩
    · exact hp uri hfound
    · exact hdocument uri hfound
  refine ⟨huri, ?_⟩
  intro list hlist remark hremark
  simp only [Option.mem_def, Option.ite_none_right_eq_some, Option.some.injEq] at hlist
  obtain ⟨-, rfl⟩ := hlist
  rw [List.mem_singleton.1 hremark]
  exact huri

theorem placed_of_mem_read (hdocument : ∀ u ∈ s.document, u.NamesFile) {lines : List (List Char)}
    (h : (uri, d) ∈ s.read lines) : Diagnostic.Placed uri d := by
  rw [Setting.read, found_foldl_feed tracks_start] at h
  obtain ⟨x, hx, hfinished⟩ := List.mem_flatMap.1 h
  have ho : x.IsOpening := by simpa using (List.mem_filter.1 hx).2
  refine placed_of_finished? hdocument ?_ (Option.mem_toList.1 hfinished)
  intro u hu
  rw [(holds_ended ho).uri_eq] at hu
  obtain ⟨place, -, hplace⟩ := Option.bind_eq_some_iff.1 hu
  exact Resolver.namesFile_of_uri? hplace

end Log

/-! ## Whole outputs -/

namespace Diagnostic

variable {fs : FileSystem} {r : Resolver} {document : List Char} {related : Bool}

/-- The diagnostics of an output are grouped by file, and each is shown at a file. -/
theorem exists_collect_eq_group (fs : FileSystem) (r : Resolver) (document : List Char)
    (related : Bool) (output : List Char) : ∃ values : List (Uri × Diagnostic),
      collect fs r document related output = .group values ∧
        ∀ uri d, (uri, d) ∈ values → Placed uri d := by
  rw [collect]
  split
  case isTrue => exact ⟨[], rfl, by simp⟩
  case isFalse =>
    cases Recovery.read CompilerOutput.reader output with
    | ok parsed =>
      refine ⟨_, rfl, fun uri d hd => ?_⟩
      obtain ⟨entry, -, hentry⟩ := List.mem_filterMap.1 hd
      exact placed_of_entryDiagnostic? hentry
    | error cause =>
      exact ⟨_, rfl, fun uri d hd =>
        Log.placed_of_mem_read (fun u hu => Resolver.namesFile_of_uri? hu) hd⟩

/-- Whatever a compiler prints, its diagnostics and their remarks are shown at URIs of files by
their canonical paths, no file is reported twice, and none without a diagnostic. -/
theorem collect_namesFile (fs : FileSystem) (r : Resolver) (document : List Char) (related : Bool)
    (output : List Char) :
    let map := collect fs r document related output
    (∀ file list, (file, list) ∈ map → file.NamesFile ∧ list ≠ [] ∧
        ∀ d ∈ list, ∀ remarks ∈ d.related, ∀ remark ∈ remarks, remark.location.uri.NamesFile) ∧
      map.files.Nodup := by
  refine ⟨?_, nodup_files_collect fs r document related output⟩
  obtain ⟨values, heq, hplaced⟩ := exists_collect_eq_group fs r document related output
  rw [heq]
  intro file list hmem
  obtain ⟨⟨value, hvalue⟩, rfl⟩ := FileMap.mem_group.1 hmem
  refine ⟨(hplaced file value hvalue).file, ?_, ?_⟩
  · exact List.ne_nil_of_mem (List.mem_map_of_mem (List.mem_filter.2 ⟨hvalue, by simp⟩))
  · intro d hd
    obtain ⟨⟨u, _⟩, hmem, rfl⟩ := List.mem_map.1 hd
    exact (hplaced u _ (List.mem_filter.1 hmem).1).remarks

theorem collect_namesFile_dots : ∃ (log : List Char) (file : Uri) (list : List Diagnostic),
    log = "../lib//./m.das:1:2:\n5: m\nhint\n/../q:3:4: y".toList ∧
    file.text = "file:///w/lib/m.das" ∧
    (file, list) ∈ collect (.ofFiles "/w/p".toList []) ⟨[]⟩ "/d".toList true log ∧
    file.NamesFile ∧ list ≠ [] ∧ ∀ d ∈ list, ∀ remarks ∈ d.related, ∀ remark ∈ remarks,
      remark.location.uri.NamesFile := by
  let file := Uri.ofSegments ["w".toList, "lib".toList, "m.das".toList]
  let list := [ofLog file ⟨0, 2⟩ error (some ['5']) ['m'] "hint".toList true]
  have hmem : (file, list) ∈ collect (.ofFiles "/w/p".toList []) ⟨[]⟩ "/d".toList true
      "../lib//./m.das:1:2:\n5: m\nhint\n/../q:3:4: y".toList := by decide +kernel
  exact ⟨_, file, list, rfl, by decide, hmem, (collect_namesFile _ _ _ _ _).1 file list hmem⟩

end Diagnostic

end EditorBridge
