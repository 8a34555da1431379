import EditorBridge.Proofs.Cursor.Definition
import EditorBridge.Proofs.Diagnostic.Entry

/-!
# Spellings of a file

A file can be spelled in many ways: with slashes repeated or left at the end, with `.` and `..` on
the way, with white space around the path. Folding leaves one of them. It is what remains of the
components of a path when each `..` takes away the last one before it, and it can be written, read
and folded again without a change.

Diagnostics are grouped by the URIs of folded paths. The main statement says that two paths from the
root have the same URI if and only if the same components remain of them, so that the diagnostics of
a file stand together however it is spelled, and with no others.
-/

namespace EditorBridge

open EditorBridge.Path (destination components isAbsolute IsName)

/-! ## What remains of components -/

namespace Path

/-- What remains, one component further on. The last component that remains is taken away by `..`,
be that a name or the root. -/
def remain (left : List Component) : Component → List Component
  | .current => left
  | .parent => left.dropLast
  | c => left ++ [c]

/-- What remains of components after all `.` and `..`. -/
def remaining (cs : List Component) : List Component := cs.foldl remain []

variable {cs : List Component} {c : Component}

theorem components_push (f : Folded) (hc : c ≠ .root) :
    (f.push c).components = remain f.components c := by
  obtain ⟨rooted, names⟩ := f
  cases c with
  | root => exact absurd rfl hc
  | current => rfl
  | name text => cases rooted <;> simp [Folded.components, remain]
  | parent =>
    by_cases hnames : names = []
    · -- nothing but the root is left to be taken away
      cases rooted <;> simp [Folded.push, Folded.empty, Folded.components, remain, hnames]
    · have hmap : names.map Component.name ≠ [] := by simpa using hnames
      simp only [Folded.push, if_neg hnames, Folded.components, remain,
        List.dropLast_append_of_ne_nil hmap, List.map_dropLast]

theorem components_foldl_push (f : Folded) (hcs : .root ∉ cs) :
    (cs.foldl Folded.push f).components = cs.foldl remain f.components := by
  induction cs generalizing f with
  | nil => rfl
  | cons c cs ih =>
    obtain ⟨hc, hcs⟩ := not_or.1 (mt List.mem_cons.2 hcs)
    rw [List.foldl_cons, List.foldl_cons, ih _ hcs, components_push f (Ne.symm hc)]

/-- A folded path is what remains of the components of the path. -/
theorem components_fold (path : List Char) :
    (fold path).components = remaining (components path) := by
  rw [fold, Folded.ofComponents, remaining]
  cases habs : isAbsolute path with
  | true =>
    obtain ⟨cs, hcs, heq⟩ := exists_components_of_isAbsolute habs
    rw [heq, List.foldl_cons, List.foldl_cons, components_foldl_push _ hcs]
    rfl
  | false => exact components_foldl_push _ (root_notMem_components habs)

/-- Names remain, and the root before them or not. -/
theorem exists_remaining_eq (path : List Char) : ∃ names : List (List Char),
    (∀ name ∈ names, IsName name ∧ '/' ∉ name) ∧
      (remaining (components path) = names.map .name ∨
        remaining (components path) = .root :: names.map .name) := by
  refine ⟨(fold path).names, proper_fold path, ?_⟩
  rw [← components_fold, Folded.components]
  cases (fold path).rooted with
  | true => exact .inr rfl
  | false => exact .inl rfl

/-- The same remains of two paths that keep the root just if they lead to the same place from
there. -/
theorem remaining_eq_iff {p q : List Char} (hp : (fold p).rooted) (hq : (fold q).rooted) :
    remaining (components p) = remaining (components q) ↔
      destination [] (components p) = destination [] (components q) := by
  rw [← components_fold, ← components_fold, Folded.components_inj, ← names_fold, ← names_fold]
  constructor
  · exact congrArg Folded.names
  · exact congrArg₂ Folded.mk (hp.trans hq.symm)

end Path

/-! ## Keys -/

namespace Uri

variable {f g : Folded} {u v : Uri}

/-- The URIs of files are told apart by their texts. -/
theorem text_eq_iff_of_ofFolded? (hf : f.Proper) (hg : g.Proper) (hu : ofFolded? f = some u)
    (hv : ofFolded? g = some v) : u.text = v.text ↔ f = g := by
  constructor
  · intro h
    obtain ⟨rest, -, hchars, hdecode⟩ := exists_of_ofFolded? hu
    obtain ⟨other, -, hother, hdecodeOther⟩ := exists_of_ofFolded? hv
    rw [text, text, String.ofList_inj, hchars, hother, List.append_cancel_left_eq] at h
    rw [h, hdecodeOther] at hdecode
    exact (Folded.text_inj hf hg).1 (Text.Utf8.encode_inj.1 hdecode.symm)
  · rintro rfl
    rw [Option.some.inj (hu.symm.trans hv)]

end Uri

namespace Resolver

variable {fs : FileSystem} {r : Resolver} {path : List Char}

/-- A path from the root is taken without white space around it, and folded. -/
theorem uri?_of_isAbsolute (h : isAbsolute (Text.trim path)) :
    r.uri? fs path = Uri.ofFolded? (Path.fold (Text.trim path)) := by
  have hresolve : r.resolve fs path = Text.trim path := if_pos (.inr h)
  have hne : Text.trim path ≠ [] := by
    intro hnil
    rw [hnil] at h
    cases h
  rw [uri?_of_ne_nil (by rwa [hresolve]), hresolve, FileSystem.locate, if_pos h]

section Absolute

variable {fs' : FileSystem} {r' : Resolver} {p q : List Char} {u v : Uri}
  (hp : isAbsolute (Text.trim p)) (hq : isAbsolute (Text.trim q)) (hu : r.uri? fs p = some u)
  (hv : r'.uri? fs' q = some v)

include hp hu in
theorem rooted_fold_of_uri? : (Path.fold (Text.trim p)).rooted := by
  rw [uri?_of_isAbsolute hp] at hu
  exact Uri.isSome_ofFolded?.1 (Option.isSome_of_eq_some hu)

include hp hq hu hv

theorem text_eq_iff_remaining : u.text = v.text ↔
    Path.remaining (components (Text.trim p)) = Path.remaining (components (Text.trim q)) := by
  rw [uri?_of_isAbsolute hp] at hu
  rw [uri?_of_isAbsolute hq] at hv
  rw [← Path.components_fold, ← Path.components_fold, Folded.components_inj]
  exact Uri.text_eq_iff_of_ofFolded? (Path.proper_fold _) (Path.proper_fold _) hu hv

theorem eq_iff_remaining : u = v ↔
    Path.remaining (components (Text.trim p)) = Path.remaining (components (Text.trim q)) := by
  constructor
  · rintro rfl
    exact (text_eq_iff_remaining hp hq hu hv).1 rfl
  · intro h
    rw [← Path.components_fold, ← Path.components_fold, Folded.components_inj] at h
    rw [uri?_of_isAbsolute hp, h, ← @uri?_of_isAbsolute fs' r' _ hq, hv] at hu
    exact (Option.some.inj hu).symm

end Absolute

end Resolver

namespace Diagnostic

variable {fs : FileSystem} {r : Resolver} {document : List Char} {entry : Json}
  {entries : List Json} {u : Uri}

/-- The path that an entry reports, if it is a record. -/
def reportedPath? (document : List Char) (entry : Json) : Option (List Char) :=
  (RawDiagnostic.reader.json entry).toOption.map (·.path document)

/-- The file of a diagnostic is that of the reported path. -/
theorem exists_reportedPath? {d : Diagnostic}
    (h : entryDiagnostic? fs r document entry = some (u, d)) :
    ∃ path, reportedPath? document entry = some path ∧ r.uri? fs path = some u := by
  obtain ⟨raw, hread, -, huri⟩ := exists_of_entryDiagnostic? h
  refine ⟨_, ?_, huri⟩
  rw [reportedPath?, hread]
  rfl

/-- The diagnostics of a file can be picked before they are grouped, by anything that tells whether
an entry is about the file. -/
theorem valuesOf_ofEntries_eq_filter {about : Json → Bool}
    (h : ∀ entry ∈ entries, ∀ v d, entryDiagnostic? fs r document entry = some (v, d) →
      (v = u ↔ about entry)) :
    (ofEntries fs r document entries).valuesOf u =
      ((entries.filter about).filterMap (entryDiagnostic? fs r document)).map (·.2) := by
  rw [ofEntries, FileMap.valuesOf_group, List.filter_filterMap, List.filterMap_filter]
  congr 1
  refine List.filterMap_congr fun entry hentry => ?_
  cases hd : entryDiagnostic? fs r document entry with
  | none => simp
  | some found =>
    have hiff := h entry hentry found.1 found.2 hd
    by_cases hu : found.1 = u
    · simp [hu, hiff.1 hu]
    · simp [hu, mt hiff.2 hu]

/-- A path folds to what remains of its components. These are names, with the root before them or
not; they are read again from the text of the folded path, and folding that changes nothing.

Two paths from the root that have URIs have the same one, be it by its parts or by its text, just if
the same components remain of them without the white space around them, and that is just if they
lead to the same place. So wherever all paths are reported from the root on, the diagnostics under
the URI of a path are those of the entries whose paths are spellings of it. -/
theorem keys_canonical :
    (∀ path, components (Path.fold path).text = Path.remaining (components path) ∧
      (∃ names : List (List Char), (∀ name ∈ names, IsName name ∧ '/' ∉ name) ∧
        (Path.remaining (components path) = names.map .name ∨
          Path.remaining (components path) = .root :: names.map .name)) ∧
      Path.fold (Path.fold path).text = Path.fold path) ∧
    ∀ (fs : FileSystem) (r : Resolver) (p : List Char) (u : Uri), isAbsolute (Text.trim p) →
    r.uri? fs p = some u →
      (∀ (fs' : FileSystem) (r' : Resolver) (q : List Char) (v : Uri), isAbsolute (Text.trim q) →
        r'.uri? fs' q = some v →
        (u = v ↔
          Path.remaining (components (Text.trim p)) = Path.remaining (components (Text.trim q))) ∧
        (u.text = v.text ↔
          Path.remaining (components (Text.trim p)) = Path.remaining (components (Text.trim q))) ∧
        (u = v ↔
          destination [] (components (Text.trim p)) = destination [] (components (Text.trim q)))) ∧
      ∀ document entries,
        (∀ entry ∈ entries, ∀ path ∈ reportedPath? document entry, isAbsolute (Text.trim path)) →
        (ofEntries fs r document entries).valuesOf u =
          ((entries.filter fun entry =>
              (reportedPath? document entry).map (fun path =>
                Path.remaining (components (Text.trim path))) =
                some (Path.remaining (components (Text.trim p)))).filterMap
            (entryDiagnostic? fs r document)).map (·.2) := by
  refine ⟨fun path =>
    ⟨?_, Path.exists_remaining_eq path, Folded.fold_text (Path.proper_fold path)⟩, ?_⟩
  · rw [Folded.components_text (Path.proper_fold path), Path.components_fold]
  intro fs r p u hp hu
  constructor
  · intro fs' r' q v hq hv
    have hremaining := Resolver.eq_iff_remaining hp hq hu hv
    have hplace :=
      Path.remaining_eq_iff (Resolver.rooted_fold_of_uri? hp hu)
        (Resolver.rooted_fold_of_uri? hq hv)
    exact ⟨hremaining, Resolver.text_eq_iff_remaining hp hq hu hv, hremaining.trans hplace⟩
  · intro document entries habs
    refine valuesOf_ofEntries_eq_filter fun entry hentry v d hd => ?_
    obtain ⟨path, hpath, hv⟩ := exists_reportedPath? hd
    rw [Resolver.eq_iff_remaining (habs entry hentry path hpath) hp hv hu, hpath]
    simp

/-- A file with an accent, a space and a `%` in its name is spelled in two ways, and what looks like
its escapes is another file. -/
theorem keys_canonical_spellings :
    ∃ (fs : FileSystem) (r : Resolver) (p q other : List Char) (u v w : Uri)
    (entries : List Json),
    p = " /w//./x/../é %.das/\n".toList ∧ q = "/w/é %.das".toList ∧
    other = "/w/%C3%A9%20%25.das".toList ∧
    isAbsolute (Text.trim p) ∧ isAbsolute (Text.trim q) ∧ isAbsolute (Text.trim other) ∧
    r.uri? fs p = some u ∧ r.uri? fs q = some v ∧ r.uri? fs other = some w ∧
    u.text = "file:///w/%C3%A9%20%25.das" ∧ u = v ∧ u ≠ w ∧
    entries =
      [.array [.string (.ofList p), .string "m"], .array [.string (.ofList other), .string "n"],
      .array [.string (.ofList q), .string "o"]] ∧
    (entries.all fun entry =>
      (reportedPath? [] entry).all fun path => isAbsolute (Text.trim path)) ∧
    ((ofEntries fs r [] entries).valuesOf u).map (·.message) = ["m", "o"] := by
  let fs : FileSystem := .ofFiles "/".toList []
  let r : Resolver := ⟨[]⟩
  let p := " /w//./x/../é %.das/\n".toList
  let q := "/w/é %.das".toList
  let other := "/w/%C3%A9%20%25.das".toList
  let u := Uri.ofSegments [['w'], "%C3%A9%20%25.das".toList]
  let w := Uri.ofSegments [['w'], "%25C3%25A9%2520%2525.das".toList]
  let entries : List Json :=
    [.array [.string (.ofList p), .string "m"], .array [.string (.ofList other), .string "n"],
    .array [.string (.ofList q), .string "o"]]
  have hp : isAbsolute (Text.trim p) := by decide +kernel
  have hq : isAbsolute (Text.trim q) := by decide +kernel
  have hother : isAbsolute (Text.trim other) := by decide +kernel
  have hu : r.uri? fs p = some u := by decide +kernel
  have hv : r.uri? fs q = some u := by decide +kernel
  have hw : r.uri? fs other = some w := by decide +kernel
  have habs : entries.all fun entry =>
    (reportedPath? [] entry).all fun path => isAbsolute (Text.trim path) := by
    decide +kernel
  obtain ⟨hpairs, hentries⟩ := keys_canonical.2 fs r p u hp hu
  refine ⟨fs, r, p, q, other, u, u, w, entries, rfl, rfl, rfl, hp, hq, hother, hu, hv,
    hw, by decide +kernel, ?_, ?_, rfl, habs, ?_⟩
  · exact (hpairs fs r q u hq hv).1.2 (by decide +kernel)
  · exact mt (hpairs fs r other w hother hw).1.1 (by decide +kernel)
  · rw [hentries [] entries]
    · decide +kernel
    · intro entry hentry path hpath
      have hentry := List.all_eq_true.1 habs entry hentry
      rwa [Option.mem_def.1 hpath] at hentry

end Diagnostic

end EditorBridge
