import EditorBridge.Proofs.Path.Destination
import EditorBridge.Proofs.Uri.File
import Mathlib.Data.List.Find
import Mathlib.Data.List.TakeWhile

/-!
# Files that reported paths name

A reported path is looked for below each root, and the candidates are folded before it is asked
whether they exist. What is found, or else the path itself, is folded once more for its URI. So all
of it rests on folded paths that lead where the paths lead themselves.

The main statement says when they do, for paths, for the URIs made of them and for the search below
the roots.
-/

namespace EditorBridge

open EditorBridge.Path (destination components Climbs isAbsolute)

/-! ## Places in a file system -/

namespace FileSystem

/-- The place of the current directory. -/
def place (fs : FileSystem) : List (List Char) := destination [] (components fs.current)

/-- The components of a path from the root on. A relative path goes by way of the current
directory. -/
def fromRoot (fs : FileSystem) (path : List Char) : List Component :=
  if isAbsolute path then components path else components fs.current ++ components path

/-- A path exists if there is something at the place to which it leads, and it is not the empty
path. -/
def Holds (fs : FileSystem) (there : List (List Char) → Bool) : Prop :=
  ∀ f, fs.has f = (decide (f ≠ .empty) && there (destination fs.place f.components))

variable {fs : FileSystem} {there : List (List Char) → Bool} {path : List Char}

theorem holds_ofFiles (current : List Char) (files : List (List (List Char))) :
    (ofFiles current files).Holds fun place => files.any (place.isPrefixOf ·) := by
  rintro ⟨rooted, names⟩
  rw [Path.destination_components, Bool.eq_iff_iff]
  cases rooted with
  | true => simp [ofFiles, Folded.empty]
  | false => simp [ofFiles, Folded.empty, place, Path.names_fold]

theorem destination_fromRoot (fs : FileSystem) (path : List Char) :
    destination [] (fs.fromRoot path) = destination fs.place (components path) := by
  rw [fromRoot]
  split
  case isTrue habs =>
    obtain ⟨cs, -, heq⟩ := Path.exists_components_of_isAbsolute habs
    rw [heq]
    rfl
  case isFalse => exact Path.destination_append ..

/-- Where the current directory is given from the root on, so is each path. -/
theorem exists_fromRoot_eq (hcurrent : isAbsolute fs.current) (path : List Char) :
    ∃ cs, .root ∉ cs ∧ fs.fromRoot path = .root :: cs := by
  rw [fromRoot]
  split
  case isTrue habs => exact Path.exists_components_of_isAbsolute habs
  case isFalse hrelative =>
    obtain ⟨cs, hcs, heq⟩ := Path.exists_components_of_isAbsolute hcurrent
    refine ⟨cs ++ components path, ?_, by rw [heq, List.cons_append]⟩
    rw [List.mem_append, not_or]
    exact ⟨hcs, Path.root_notMem_components (by simpa using hrelative)⟩

theorem locate_eq (hcurrent : isAbsolute fs.current) (path : List Char) :
    fs.locate path = ⟨¬Climbs (fs.fromRoot path), destination fs.place (components path)⟩ := by
  have hlocate : fs.locate path = .ofComponents (fs.fromRoot path) := by
    rw [locate, fromRoot]
    split <;> rfl
  obtain ⟨cs, hcs, heq⟩ := exists_fromRoot_eq hcurrent path
  rw [hlocate, ← destination_fromRoot, heq, Path.ofComponents_root hcs]

/-- Whether a folded path exists can be said of the path itself. -/
theorem Holds.has_fold (h : fs.Holds there) (hleads : ¬Climbs (components path) ∨ fs.place = [])
    (hne : Path.fold path ≠ .empty) :
    fs.has (Path.fold path) = there (destination fs.place (components path)) := by
  rw [h, ← Folded.components_text (Path.proper_fold path),
    (Path.destination_fold_iff path fs.place).2 hleads, decide_eq_true hne, Bool.true_and]

end FileSystem

/-! ## Resolved paths -/

theorem Text.trim_eq_nil_iff {cs : List Char} : trim cs = [] ↔ allBlank cs := by
  rw [trim, trimEnd, trimStart, List.reverse_eq_nil_iff, List.dropWhile_eq_nil_iff, allBlank,
    List.all_eq_true]
  constructor
  · intro h c hc
    rw [← List.takeWhile_append_dropWhile (p := isBlank) (l := cs), List.mem_append] at hc
    rcases hc with hc | hc
    · exact List.mem_takeWhile_imp hc
    · exact h c (List.mem_reverse.2 hc)
  · intro h c hc
    exact h c ((List.dropWhile_sublist _).subset (List.mem_reverse.1 hc))

theorem Folded.text_ne_nil {f : Folded} (hf : f.Proper) (hne : f ≠ .empty) : f.text ≠ [] := by
  intro htext
  apply hne
  rw [← Folded.fold_text hf, htext]
  rfl

theorem Uri.isSome_ofFolded? {f : Folded} : (ofFolded? f).isSome ↔ f.rooted := by
  rw [ofFolded?]
  split <;> simp [*]

namespace Resolver

variable {fs : FileSystem} {there : List (List Char) → Bool} {r : Resolver} {path root : List Char}

/-- A relative path is replaced by the first candidate that exists. -/
theorem resolve_of_relative (hblank : Text.allBlank path = false)
    (hrelative : isAbsolute (Text.trim path) = false) :
    r.resolve fs path =
      ((r.roots.find? fun root => fs.has (Path.fold (Path.append root (Text.trim path)))).map
        fun root => (Path.fold (Path.append root (Text.trim path))).text).getD
          (Text.trim path) := by
  have hne : Text.trim path ≠ [] := by simp [Text.trim_eq_nil_iff, hblank]
  rw [resolve, if_neg (by simp [hne, hrelative]), candidates, List.find?_map, Function.comp_def]
  cases r.roots.find? fun root => fs.has (Path.fold (Path.append root (Text.trim path))) <;> rfl

/-- Nothing is left of a blank path only. -/
theorem resolve_ne_nil (hfs : fs.Holds there) (hblank : Text.allBlank path = false) :
    r.resolve fs path ≠ [] := by
  have hne : Text.trim path ≠ [] := by simp [Text.trim_eq_nil_iff, hblank]
  by_cases habs : isAbsolute (Text.trim path)
  · rwa [resolve, if_pos (.inr habs)]
  · rw [resolve_of_relative hblank (by simpa using habs)]
    cases hfind : r.roots.find? fun root =>
      fs.has (Path.fold (Path.append root (Text.trim path))) with
    | none => exact hne
    | some root =>
      have hhas := List.find?_some hfind
      rw [hfs, Bool.and_eq_true, decide_eq_true_eq] at hhas
      exact Folded.text_ne_nil (Path.proper_fold _) hhas.1

/-- The URI is that of the place to which the resolved path leads, and there is one unless the path
climbs above the root on the way. -/
theorem uri?_eq (hcurrent : isAbsolute fs.current) (hfs : fs.Holds there)
    (hblank : Text.allBlank path = false) :
    r.uri? fs path = Uri.ofFolded? ⟨¬Climbs (fs.fromRoot (r.resolve fs path)),
      destination fs.place (components (r.resolve fs path))⟩ := by
  rw [uri?]
  simp only [if_neg (resolve_ne_nil hfs hblank), FileSystem.locate_eq hcurrent]

/-- Below roots from which the path can be folded, the first one with something at the path is
found. -/
theorem destination_resolve (hfs : fs.Holds there) (hblank : Text.allBlank path = false)
    (hrelative : isAbsolute (Text.trim path) = false)
    (hroots : ∀ root ∈ r.roots, Path.fold (Path.append root (Text.trim path)) ≠ .empty ∧
      (¬Climbs (components (Path.append root (Text.trim path))) ∨ fs.place = []))
    (hroot : (r.roots.find? fun root =>
      there (destination fs.place (components (Path.append root (Text.trim path))))) = some root) :
    destination fs.place (components (r.resolve fs path)) =
      destination fs.place (components (Path.append root (Text.trim path))) := by
  have hfind : (r.roots.find? fun root => fs.has (Path.fold (Path.append root (Text.trim path)))) =
      some root := by
    rw [← hroot]
    exact List.find?_congr fun root hmem => hfs.has_fold (hroots root hmem).2 (hroots root hmem).1
  rw [resolve_of_relative hblank hrelative, hfind]
  exact (Path.destination_fold_iff _ _).2 (hroots root (List.mem_of_find?_eq_some hroot)).2

/-- A path and its folded form lead to the same place unless the path climbs above the place where
it starts, and a path from the root folds to one from the root unless it climbs. So a path that is
not blank has a URI, that of the place to which the resolved path leads, unless the resolved path
climbs above the root on the way. And the search below roots gives the place of the path below the
first root where there is something, as long as the path below each root neither climbs nor folds to
nothing. -/
theorem leads_iff_not_climbs (hcurrent : isAbsolute fs.current) (hfs : fs.Holds there)
    (path : List Char) :
    (∀ place, destination place (components (Path.fold path).text) =
      destination place (components path) ↔
      ¬Climbs (components path) ∨ place = []) ∧
    (isAbsolute path → (isAbsolute (Path.fold path).text ↔ ¬Climbs (components path))) ∧
    (Text.allBlank path = false → ∀ r : Resolver,
      ((r.uri? fs path).isSome ↔ ¬Climbs (fs.fromRoot (r.resolve fs path))) ∧
      (∀ u, r.uri? fs path = some u →
        u.decodedPath? =
          some (Folded.text ⟨true, destination fs.place (components (r.resolve fs path))⟩)) ∧
      (isAbsolute (Text.trim path) = false →
        (∀ root ∈ r.roots, Path.fold (Path.append root (Text.trim path)) ≠ .empty ∧
          (¬Climbs (components (Path.append root (Text.trim path))) ∨ fs.place = [])) →
        ∀ root, (r.roots.find? fun root =>
            there (destination fs.place (components (Path.append root (Text.trim path))))) =
              some root →
          destination fs.place (components (r.resolve fs path)) =
            destination fs.place (components (Path.append root (Text.trim path))))) := by
  refine ⟨Path.destination_fold_iff path, fun habs => ?_, fun hblank r => ⟨?_, fun u hu => ?_, ?_⟩⟩
  · rw [Folded.isAbsolute_text (Path.proper_fold path), Path.rooted_fold_iff habs]
  · rw [uri?_eq hcurrent hfs hblank, Uri.isSome_ofFolded?, decide_eq_true_eq]
  · rw [uri?_eq hcurrent hfs hblank] at hu
    have hrooted : decide (¬Climbs (fs.fromRoot (r.resolve fs path))) = true :=
      Uri.isSome_ofFolded?.1 (Option.isSome_of_eq_some hu)
    rw [Uri.decodedPath?_of_ofFolded? hu, hrooted]
  · intro hrelative hroots root hroot
    exact destination_resolve hfs hblank hrelative hroots hroot

theorem leads_iff_not_climbs_below : ∃ (fs : FileSystem) (r : Resolver) (path : List Char),
    fs = .ofFiles "/w".toList [["w".toList, "lib".toList, "m.das".toList]] ∧
    r = ⟨["src".toList, "./lib/sub".toList]⟩ ∧ path = "../m.das ".toList ∧ isAbsolute fs.current ∧
    (fs.Holds fun place => [["w".toList, "lib".toList, "m.das".toList]].any (place.isPrefixOf ·)) ∧
    destination fs.place (components (Path.fold path).text) ≠
      destination fs.place (components path) ∧
    (r.uri? fs path).isSome ∧
    destination fs.place (components (r.resolve fs path)) =
      ["w".toList, "lib".toList, "m.das".toList] := by
  let fs := FileSystem.ofFiles "/w".toList [["w".toList, "lib".toList, "m.das".toList]]
  let r : Resolver := ⟨["src".toList, "./lib/sub".toList]⟩
  have hfs := FileSystem.holds_ofFiles "/w".toList [["w".toList, "lib".toList, "m.das".toList]]
  obtain ⟨hfold, -, hresolver⟩ := @leads_iff_not_climbs fs _ (by decide) hfs "../m.das ".toList
  obtain ⟨huri, -, hroots⟩ := hresolver (by decide) r
  refine ⟨fs, r, _, rfl, rfl, rfl, by decide, hfs, ?_, ?_, ?_⟩
  · rw [ne_eq, hfold]
    decide
  · rw [huri]
    decide +kernel
  · rw [hroots (by decide) (by decide +kernel) "./lib/sub".toList (by decide +kernel)]
    decide +kernel

/-- From below `/w` the path `../lib/m` leads to another place than its folded form, `/../x` has no
URI, and what is below the root `../lib` is not found. -/
theorem resolve_climbing : ∃ (fs : FileSystem) (r : Resolver),
    fs = .ofFiles "/w/p".toList [["w".toList, "lib".toList, "m".toList]] ∧ r = ⟨["../lib".toList]⟩ ∧
    destination fs.place (components (Path.fold "../lib/m".toList).text) ≠
      destination fs.place (components "../lib/m".toList) ∧
    isAbsolute "/../x".toList ∧ isAbsolute (Path.fold "/../x".toList).text = false ∧
    r.uri? fs "/../x".toList = none ∧
    destination fs.place (components (Path.append "../lib".toList "m".toList)) =
      ["w".toList, "lib".toList, "m".toList] ∧
    destination fs.place (components (r.resolve fs "m".toList)) =
      ["w".toList, "p".toList, "m".toList] :=
  ⟨_, _, rfl, rfl, by decide +kernel⟩

end Resolver

end EditorBridge
