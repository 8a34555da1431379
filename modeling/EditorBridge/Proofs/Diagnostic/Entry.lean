import EditorBridge.Diagnostic.Entry
import EditorBridge.Proofs.Diagnostic.FileMap
import Mathlib.Data.List.Basic

/-!
# Entries one by one

A compiler reports its diagnostics as a list of entries, some of which may be of no use. Each entry
is taken by itself: whether it gives a diagnostic, and which one, depends on nothing but the entry.
So an entry that is of no use is as good as absent, and the diagnostics of two lists of entries are
those of the one with those of the other added to them.
-/

namespace EditorBridge.Diagnostic

/-- Why an entry gives no diagnostic: it is no record of one, the record has no message, or what it
is about is no file. -/
inductive Useless (fs : FileSystem) (r : Resolver) (document : List Char) (entry : Json) :
    Prop where
  | unreadable {cause : Fault} (h : RawDiagnostic.reader.json entry = .error cause)
  | silent {raw : RawDiagnostic} (h : RawDiagnostic.reader.json entry = .ok raw)
      (hmessage : raw.message = none)
  | fileless {raw : RawDiagnostic} (h : RawDiagnostic.reader.json entry = .ok raw)
      (huri : r.uri? fs (raw.path document) = none)

section Entry

variable {fs : FileSystem} {r : Resolver} {document : List Char} {entry : Json} {uri : Uri}
  {d : Diagnostic}

theorem entryDiagnostic?_eq_none :
    entryDiagnostic? fs r document entry = none ↔ Useless fs r document entry := by
  rw [entryDiagnostic?]
  cases hread : RawDiagnostic.reader.json entry with
  | error cause => exact iff_of_true rfl (.unreadable hread)
  | ok raw =>
    simp only [RawDiagnostic.toDiagnostic?]
    cases hmessage : raw.message with
    | none => exact iff_of_true rfl (.silent hread hmessage)
    | some message =>
      cases huri : r.uri? fs (raw.path document) with
      | none => exact iff_of_true rfl (.fileless hread huri)
      | some uri =>
        refine iff_of_false (by simp) ?_
        rintro (⟨h⟩ | ⟨h, hnone⟩ | ⟨h, hnone⟩)
        · rw [hread] at h
          cases h
        · rw [hread] at h
          cases h
          rw [hmessage] at hnone
          cases hnone
        · rw [hread] at h
          cases h
          rw [huri] at hnone
          cases hnone

instance (entry : Json) : Decidable (Useless fs r document entry) :=
  decidable_of_iff ((entryDiagnostic? fs r document entry).isNone = true) (by
    rw [Option.isNone_iff_eq_none, entryDiagnostic?_eq_none])

/-- The diagnostic of an entry has the message of the record, and is about the file that its path
leads to. -/
theorem exists_of_entryDiagnostic? (h : entryDiagnostic? fs r document entry = some (uri, d)) :
    ∃ raw, RawDiagnostic.reader.json entry = .ok raw ∧ raw.message = some d.message ∧
      r.uri? fs (raw.path document) = some uri := by
  rw [entryDiagnostic?] at h
  cases hread : RawDiagnostic.reader.json entry with
  | error cause => simp [hread] at h
  | ok raw =>
    rw [hread] at h
    obtain ⟨message, hmessage, h⟩ := Option.bind_eq_some_iff.1 h
    obtain ⟨found, huri, h⟩ := Option.bind_eq_some_iff.1 h
    cases h
    exact ⟨raw, rfl, hmessage, huri⟩

theorem ofEntries_singleton :
    ofEntries fs r document [entry] =
      ((entryDiagnostic? fs r document entry).map fun found => (found.1, [found.2])).toList := by
  rw [ofEntries, List.filterMap_cons, List.filterMap_nil]
  cases entryDiagnostic? fs r document entry <;> rfl

end Entry

section Entries

variable (fs : FileSystem) (r : Resolver) (document : List Char)

theorem ofEntries_append (xs ys : List Json) :
    ofEntries fs r document (xs ++ ys) =
      (ofEntries fs r document xs).extend (ofEntries fs r document ys) := by
  rw [ofEntries, List.filterMap_append, FileMap.group_append_eq_extend]
  rfl

theorem nodup_files_ofEntries (entries : List Json) :
    (ofEntries fs r document entries).files.Nodup :=
  FileMap.nodup_files_group _

theorem size_ofEntries (entries : List Json) :
    (ofEntries fs r document entries).size = entries.countP (¬Useless fs r document ·) := by
  rw [ofEntries, FileMap.size_group, List.length_filterMap_eq_countP]
  refine List.countP_congr fun entry _ => ?_
  rw [Option.isSome_iff_ne_none, Ne, entryDiagnostic?_eq_none, decide_eq_true_eq]

theorem files_ofEntries (entries : List Json) : (ofEntries fs r document entries).files =
    (entries.flatMap fun entry => (ofEntries fs r document [entry]).files).eraseDups := by
  have hfiles (entry : Json) : (ofEntries fs r document [entry]).files =
      ((entryDiagnostic? fs r document entry).map (·.1)).toList := by
    rw [ofEntries_singleton]
    cases entryDiagnostic? fs r document entry <;> rfl
  rw [ofEntries, FileMap.files_group, List.map_filterMap]
  simp only [hfiles, List.filterMap_eq_flatMap_toList]

theorem valuesOf_ofEntries (uri : Uri) (entries : List Json) :
    (ofEntries fs r document entries).valuesOf uri =
    entries.flatMap fun entry => (ofEntries fs r document [entry]).valuesOf uri := by
  induction entries with
  | nil => rfl
  | cons entry entries ih =>
    rw [← List.singleton_append, ofEntries_append,
      FileMap.valuesOf_extend (nodup_files_ofEntries ..), ih]
    rfl

/-- An entry that is of no use may as well be left out, and no other entry may. -/
theorem useless_iff_forall (entry : Json) : Useless fs r document entry ↔
    ∀ xs ys, ofEntries fs r document (xs ++ entry :: ys) = ofEntries fs r document (xs ++ ys) := by
  constructor
  · intro h xs ys
    rw [ofEntries, ofEntries, List.filterMap_append, List.filterMap_append,
      List.filterMap_cons_none (entryDiagnostic?_eq_none.2 h)]
  · intro h
    have hnil : ofEntries fs r document [entry] = [] := h [] []
    rw [ofEntries_singleton] at hnil
    rw [← entryDiagnostic?_eq_none]
    simpa using hnil

/-- Entries are taken one by one. Lists of them add up; an entry that is no record, has no message
or is about no file gives nothing, and every other one gives a diagnostic of its file; and these are
all diagnostics, with the files in the order in which they are first reported, and the diagnostics
of a file in the order of the entries. -/
theorem ofEntries_entrywise :
    (∀ xs ys,
      let whole := ofEntries fs r document (xs ++ ys)
      let former := ofEntries fs r document xs
      let latter := ofEntries fs r document ys
      whole = former.extend latter ∧
        whole.files = former.files ++ latter.files.filter (· ∉ former.files) ∧
        ∀ uri, whole.valuesOf uri = former.valuesOf uri ++ latter.valuesOf uri) ∧
    (∀ entry, Useless fs r document entry ↔
      ∀ xs ys, ofEntries fs r document (xs ++ entry :: ys) = ofEntries fs r document (xs ++ ys)) ∧
    (∀ entry, ¬Useless fs r document entry → ∃ raw uri d,
      RawDiagnostic.reader.json entry = .ok raw ∧ raw.message = some d.message ∧
        r.uri? fs (raw.path document) = some uri ∧ ofEntries fs r document [entry] = [(uri, [d])]) ∧
    ∀ entries,
      let map := ofEntries fs r document entries
      map.size = entries.countP (¬Useless fs r document ·) ∧
      map.files = (entries.flatMap fun entry => (ofEntries fs r document [entry]).files).eraseDups ∧
      ∀ uri, map.valuesOf uri = entries.flatMap fun entry =>
        (ofEntries fs r document [entry]).valuesOf uri := by
  refine ⟨fun xs ys => ?_, useless_iff_forall fs r document, fun entry h => ?_, fun entries => ?_⟩
  · have hnodup := nodup_files_ofEntries fs r document ys
    rw [ofEntries_append]
    exact ⟨rfl, FileMap.files_extend hnodup, fun uri => FileMap.valuesOf_extend hnodup⟩
  · obtain ⟨⟨uri, d⟩, hentry⟩ := Option.ne_none_iff_exists'.1 (mt entryDiagnostic?_eq_none.1 h)
    obtain ⟨raw, hread, hmessage, huri⟩ := exists_of_entryDiagnostic? hentry
    refine ⟨raw, uri, d, hread, hmessage, huri, ?_⟩
    rw [ofEntries_singleton, hentry]
    rfl
  · exact ⟨size_ofEntries .., files_ofEntries .., fun uri => valuesOf_ofEntries ..⟩

theorem ofEntries_entrywise_mixed :
    ∃ (entries : List Json) (entry : Json) (map : FileMap Diagnostic),
    entry = .array [.string "/a", .string "n"] ∧
    entries = [.ofMembers [("uri", .string "/b"), ("message", .string "m")], .string "m", entry,
      .ofMembers [("uri", .string "/b")],
        .ofMembers [("uri", .string "/../q"), ("message", .string "x")],
      .ofMembers [("message", .string "o")]] ∧
    entries.map (fun entry => decide (Useless (.ofFiles [] []) ⟨[]⟩ "/b".toList entry)) =
      [false, true, false, true, true, false] ∧
    ofEntries (.ofFiles [] []) ⟨[]⟩ "/b".toList entries = map ∧
    map.files.map (·.text) = ["file:///b", "file:///a"] ∧
    map.map (fun entry => entry.2.map (·.message)) = [["m", "o"], ["n"]] ∧
    map.size = entries.countP (¬Useless (.ofFiles [] []) ⟨[]⟩ "/b".toList ·) ∧
    ∃ raw uri d, RawDiagnostic.reader.json entry = .ok raw ∧ raw.message = some d.message ∧
      Resolver.uri? (.ofFiles [] []) ⟨[]⟩ (raw.path "/b".toList) = some uri ∧
      ofEntries (.ofFiles [] []) ⟨[]⟩ "/b".toList [entry] = [(uri, [d])] := by
  have h := ofEntries_entrywise (.ofFiles [] []) ⟨[]⟩ "/b".toList
  exact ⟨_, _, _, rfl, rfl, by decide +kernel, rfl, by decide +kernel, by decide +kernel,
    (h.2.2.2 _).1, h.2.2.1 _ (by decide +kernel)⟩

end Entries

end EditorBridge.Diagnostic
