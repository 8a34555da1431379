import EditorBridge.Cursor.Hover
import EditorBridge.Diagnostic.Entry
import EditorBridge.Proofs.Resolver

/-!
# Where definitions lead

The path of a record is resolved when the record is read, and what was found is resolved once more
when an editor goes to it. The second search may come to another file. A candidate below a relative
root is itself relative, so that it is looked for below all roots again. And a candidate may end in
white space, which is not part of a reported path.

The main statement says just when the second search comes to the same file, and hence when an editor
goes to the file under which the diagnostics of the same reported path are published.
-/

namespace EditorBridge

open EditorBridge.Path (destination components Climbs isAbsolute)

/-! ## White space around texts -/

namespace Text

variable {cs : List Char}

/-- A text is white space, what trimming leaves of it, and white space. -/
theorem exists_trim (cs : List Char) : ∃ before rest, cs = before ++ (trim cs ++ rest) ∧
    (∀ c ∈ before, isBlank c) ∧ ∀ c ∈ rest, isBlank c := by
  refine ⟨cs.takeWhile isBlank, ((trimStart cs).reverse.takeWhile isBlank).reverse, ?_, ?_, ?_⟩
  · rw [trim, trimEnd, ← List.reverse_append, List.takeWhile_append_dropWhile, List.reverse_reverse,
      trimStart, List.takeWhile_append_dropWhile]
  · exact fun c => List.mem_takeWhile_imp
  · exact fun c hc => List.mem_takeWhile_imp (List.mem_reverse.1 hc)

theorem isBlank_of_mem_getLast?_trim {c : Char} (h : c ∈ (trim cs).getLast?) :
    isBlank c = false := by
  rw [trim, trimEnd, List.getLast?_reverse] at h
  have hhead := List.head?_dropWhile_not isBlank (trimStart cs).reverse
  rwa [Option.mem_def.1 h] at hhead

theorem isBlank_of_mem_head?_trim {c : Char} (h : c ∈ (trim cs).head?) : isBlank c = false := by
  have hprefix : trim cs <+: trimStart cs := by
    rw [trim, trimEnd, ← List.reverse_suffix, List.reverse_reverse]
    exact List.dropWhile_suffix _
  obtain ⟨rest, hrest⟩ := hprefix
  have hhead := List.head?_dropWhile_not isBlank cs
  have hstart : (trimStart cs).head? = some c := by
    rw [← hrest, List.head?_append, Option.mem_def.1 h]
    rfl
  rw [trimStart] at hstart
  rwa [hstart] at hhead

theorem trim_eq_self_iff : trim cs = cs ↔
    (∀ c ∈ cs.head?, isBlank c = false) ∧ ∀ c ∈ cs.getLast?, isBlank c = false := by
  constructor
  · intro h
    rw [← h]
    exact ⟨fun c => isBlank_of_mem_head?_trim, fun c => isBlank_of_mem_getLast?_trim⟩
  · exact fun h => trim_eq_self h.1 h.2

theorem trim_trim (cs : List Char) : trim (trim cs) = trim cs :=
  trim_eq_self_iff.2 ⟨fun _ => isBlank_of_mem_head?_trim, fun _ => isBlank_of_mem_getLast?_trim⟩

end Text

/-! ## How much is written in a path -/

/-- The characters of a name. -/
def Component.chars : Component → List Char
  | .name text => text
  | _ => []

/-- What is written in a path beside its slashes. -/
def Path.written (path : List Char) : List Char := path.filter (· ≠ '/')

namespace Path

variable {path : List Char}

theorem flatten_split (path : List Char) : (Text.split (· = '/') path).flatten = written path := by
  induction path with
  | nil => rfl
  | cons c cs ih =>
    obtain ⟨piece, pieces, hs⟩ := List.exists_cons_of_ne_nil (Text.split_ne_nil (· = '/') cs)
    rw [written] at ih ⊢
    by_cases hc : c = '/'
    · simpa [Text.split, hc] using ih
    · rw [Text.split_cons_of_neg (by simpa using hc) hs,
        List.filter_cons_of_pos (by simpa using hc), ← ih, hs]
      rfl

theorem chars_component?_sublist (first : Bool) (piece : List Char) :
    ((component? first piece).toList.flatMap Component.chars).Sublist piece := by
  rw [component?]
  repeat' split
  all_goals simp [Component.chars]

theorem chars_components_sublist (path : List Char) :
    ((components path).flatMap Component.chars).Sublist (written path) := by
  have hpieces (pieces : List (List Char)) :
      ((pieces.filterMap (component? false)).flatMap Component.chars).Sublist pieces.flatten := by
    induction pieces with
    | nil => exact .slnil
    | cons piece pieces ih =>
      have hcons : (piece :: pieces).filterMap (component? false) =
          (component? false piece).toList ++ pieces.filterMap (component? false) := by
        rw [List.filterMap_cons]
        cases component? false piece <;> rfl
      rw [hcons, List.flatMap_append, List.flatten_cons]
      exact (chars_component?_sublist false piece).append ih
  rw [← flatten_split, components]
  split
  · exact hpieces _
  · split
    case h_1 => simp
    case h_2 piece pieces hsplit =>
      rw [hsplit, List.flatMap_append, List.flatten_cons]
      exact (chars_component?_sublist true piece).append (hpieces pieces)

/-- Following components makes a place longer by no more than their names. -/
theorem length_flatten_destination_le (place : List (List Char)) (cs : List Component) :
    (destination place cs).flatten.length ≤
      place.flatten.length + (cs.flatMap Component.chars).length := by
  induction cs generalizing place with
  | nil => simp
  | cons c cs ih =>
    have hstep : (c.follow place).flatten.length ≤ place.flatten.length + c.chars.length := by
      cases c with
      | root => simp [Component.follow]
      | current => simp [Component.follow]
      | parent =>
        obtain ⟨rest, hrest⟩ := List.dropLast_prefix place
        have hflatten : place.flatten = place.dropLast.flatten ++ rest.flatten := by
          rw [← List.flatten_append, hrest]
        simp [Component.follow, Component.chars, hflatten]
      | name text => simp [Component.follow, Component.chars]
    have htail := ih (c.follow place)
    rw [destination_cons, List.flatMap_cons, List.length_append]
    omega

/-- A path leads to a place that is no longer than what is written in the path, and in the place
where it starts if it is relative. -/
theorem length_flatten_destination_components_le (place : List (List Char)) (path : List Char) :
    (destination place (components path)).flatten.length ≤
      (if isAbsolute path then [] else place).flatten.length + (written path).length := by
  have hchars := (chars_components_sublist path).length_le
  have hstart : destination place (components path) =
      destination (if isAbsolute path then [] else place) (components path) := by
    split
    case isTrue habs =>
      obtain ⟨cs, -, heq⟩ := exists_components_of_isAbsolute habs
      rw [heq]
      rfl
    case isFalse => rfl
  have hle :=
    length_flatten_destination_le (if isAbsolute path then [] else place) (components path)
  rw [hstart]
  omega

theorem slash_notMem_of_blank {cs : List Char} (h : ∀ c ∈ cs, Text.isBlank c) : '/' ∉ cs :=
  fun hslash => absurd (h _ hslash) (by decide)

theorem written_of_blank {cs : List Char} (h : ∀ c ∈ cs, Text.isBlank c) : written cs = cs := by
  rw [written, List.filter_eq_self]
  intro c hc
  exact decide_eq_true (ne_of_mem_of_not_mem hc (slash_notMem_of_blank h))

/-- White space around a path is part of what is written in it. -/
theorem length_written_trim_lt (h : Text.trim path ≠ path) :
    (written (Text.trim path)).length < (written path).length := by
  obtain ⟨before, rest, heq, hbefore, hrest⟩ := Text.exists_trim path
  have hwritten : written path = before ++ (written (Text.trim path) ++ rest) := by
    conv_lhs => rw [heq]
    rw [written, List.filter_append, List.filter_append]
    exact congrArg₂ (· ++ ·) (written_of_blank hbefore) (congrArg _ (written_of_blank hrest))
  have hne : before.length + rest.length ≠ 0 := by
    intro hzero
    obtain ⟨rfl, rfl⟩ : before = [] ∧ rest = [] := by simpa using hzero
    exact h (by simpa using heq.symm)
  rw [hwritten, List.length_append, List.length_append]
  omega

theorem isAbsolute_trim (h : isAbsolute path) : isAbsolute (Text.trim path) := by
  obtain ⟨before, rest, heq, hbefore, hrest⟩ := Text.exists_trim path
  rw [isAbsolute, decide_eq_true_eq] at h ⊢
  rw [heq] at h
  cases before with
  | cons c before =>
    obtain rfl : c = '/' := by simpa using h
    exact absurd List.mem_cons_self (slash_notMem_of_blank hbefore)
  | nil =>
    cases htrim : Text.trim path with
    | nil =>
      rw [htrim] at h
      exact absurd (List.mem_of_head? h) (slash_notMem_of_blank hrest)
    | cons c cs =>
      rw [htrim] at h
      exact h

theorem isAbsolute_append {root : List Char} (h : isAbsolute root) :
    isAbsolute (append root path) := by
  rw [append]
  split
  case isTrue habs => exact habs
  case isFalse =>
    rw [isAbsolute, decide_eq_true_eq] at h ⊢
    split <;> rw [List.head?_append, h] <;> rfl

end Path

namespace Folded

variable {f : Folded}

/-- The text of a folded path is made of its names. -/
theorem length_written_text (h : f.Proper) :
    (Path.written f.text).length = f.names.flatten.length := by
  rw [← Path.flatten_split]
  obtain ⟨rooted, names⟩ := f
  by_cases hnil : names = []
  · cases rooted <;> simp [hnil, text, Text.split]
  · have hsplit := h.split_join hnil
    cases rooted with
    | true => simpa [text, Text.split] using congrArg (·.flatten.length) hsplit
    | false => simpa [text] using congrArg (·.flatten.length) hsplit

end Folded

namespace FileSystem

variable {fs : FileSystem} {f : Folded}

/-- A folded path that has white space around it leads to another place without. -/
theorem locate_trim_eq_iff (hcurrent : isAbsolute fs.current) (hf : f.Proper) :
    fs.locate (Text.trim f.text) = fs.locate f.text ↔ Text.trim f.text = f.text := by
  refine ⟨fun h => ?_, fun h => by rw [h]⟩
  by_contra hne
  -- a folded path leads to all that is written in it, and there is less to write without the white
  -- space
  have hlt := Path.length_written_trim_lt hne
  rw [Folded.length_written_text hf] at hlt
  have hle := Path.length_flatten_destination_components_le fs.place (Text.trim f.text)
  have hnames : destination fs.place (components (Text.trim f.text)) =
      if f.rooted then f.names else fs.place ++ f.names := by
    rw [← Path.destination_components, ← Folded.components_text hf]
    simpa [locate_eq hcurrent] using congrArg Folded.names h
  rw [hnames] at hle
  cases hrooted : f.rooted with
  | true =>
    have habs := Path.isAbsolute_trim ((Folded.isAbsolute_text hf).trans hrooted)
    simp only [hrooted, habs, if_true, List.flatten_nil, List.length_nil] at hle
    omega
  | false =>
    simp only [hrooted, Bool.false_eq_true, if_false, List.flatten_append,
      List.length_append] at hle
    split at hle
    · rw [List.flatten_nil, List.length_nil] at hle
      omega
    · omega

/-- A relative path that is folded leads to its names below the current directory. -/
theorem locate_text_of_relative (hf : f.Proper) (hrelative : f.rooted = false) :
    fs.locate f.text =
      ⟨(Path.fold fs.current).rooted, (Path.fold fs.current).names ++ f.names⟩ := by
  rw [locate, Folded.isAbsolute_text hf, hrelative, if_neg (by simp), Folded.components_text hf,
    Folded.components, hrelative, if_neg (by simp), List.nil_append, Folded.ofComponents,
    List.foldl_append, Folded.foldl_push_names]
  rfl

/-- A relative path with names in it does not lead to the current directory. -/
theorem locate_empty_ne (hf : f.Proper) (hrelative : f.rooted = false) (hne : f ≠ .empty) :
    fs.locate Folded.empty.text ≠ fs.locate f.text := by
  have hempty : Folded.empty.Proper := List.forall_mem_nil _
  intro h
  rw [locate_text_of_relative hempty rfl, locate_text_of_relative hf hrelative, Folded.mk.injEq,
    List.append_right_inj] at h
  exact hne (congrArg₂ Folded.mk hrelative h.2.symm)

/-- The place of a folded path has a URI if the current directory has one. -/
theorem rooted_locate (hcurrent : isAbsolute fs.current) (hclimbs : ¬Climbs (components fs.current))
    (hf : f.Proper) : (fs.locate f.text).rooted := by
  cases hrooted : f.rooted with
  | true => rwa [locate, Folded.isAbsolute_text hf, hrooted, if_pos rfl, Folded.fold_text hf]
  | false =>
    rw [locate_text_of_relative hf hrooted]
    exact (Path.rooted_fold_iff hcurrent).2 hclimbs

end FileSystem

/-! ## Searching twice -/

theorem Uri.ofFolded?_inj {f g : Folded} (hf : f.Proper) (hg : g.Proper) (hrooted : g.rooted) :
    ofFolded? f = ofFolded? g ↔ f = g := by
  refine ⟨fun h => ?_, fun h => by rw [h]⟩
  obtain ⟨u, hu⟩ := Option.isSome_iff_exists.1 (isSome_ofFolded?.2 hrooted)
  exact (Folded.text_inj hf hg).1 (Option.some.inj
    ((decodedPath?_of_ofFolded? (h.trans hu)).symm.trans (decodedPath?_of_ofFolded? hu)))

namespace Resolver

variable {fs : FileSystem} {r : Resolver} {path : List Char} {f : Folded}

/-- What is found for a reported path: the first candidate that exists, if the path is relative. -/
def found? (fs : FileSystem) (r : Resolver) (path : List Char) : Option Folded :=
  if Text.allBlank path ∨ isAbsolute (Text.trim path) then none
  else (r.candidates (Text.trim path)).find? fs.has

/-- What was found stays what it is when it is searched for: either nothing else is found and there
is no white space around it, or something in the same place is found. -/
def Stays (fs : FileSystem) (r : Resolver) (f : Folded) : Prop :=
  match r.found? fs f.text with
  | none => Text.trim f.text = f.text
  | some g => fs.locate g.text = fs.locate f.text

theorem resolve_eq_found? (fs : FileSystem) (r : Resolver) (path : List Char) :
    r.resolve fs path = ((r.found? fs path).map Folded.text).getD (Text.trim path) := by
  rw [resolve, found?]
  simp only [Text.trim_eq_nil_iff]
  split
  · rfl
  · cases (r.candidates (Text.trim path)).find? fs.has <;> rfl

theorem resolve_of_found? (h : r.found? fs path = some f) : r.resolve fs path = f.text := by
  rw [resolve_eq_found?, h]
  rfl

theorem resolve_of_found?_eq_none (h : r.found? fs path = none) :
    r.resolve fs path = Text.trim path := by
  rw [resolve_eq_found?, h]
  rfl

theorem proper_of_found? (h : r.found? fs path = some f) : f.Proper := by
  rw [found?] at h
  split at h
  · cases h
  · obtain ⟨root, -, rfl⟩ := List.mem_map.1 (List.mem_of_find?_eq_some h)
    exact Path.proper_fold _

theorem found?_of_isAbsolute (h : isAbsolute path) : r.found? fs path = none :=
  if_pos (.inr (Path.isAbsolute_trim h))

/-- Only the path without white space around it matters. -/
theorem resolve_trim (fs : FileSystem) (r : Resolver) (path : List Char) :
    r.resolve fs (Text.trim path) = r.resolve fs path := by
  rw [resolve, resolve, Text.trim_trim]

theorem uri?_of_ne_nil (h : r.resolve fs path ≠ []) :
    r.uri? fs path = Uri.ofFolded? (fs.locate (r.resolve fs path)) :=
  if_neg h

/-- While the current directory has a URI, the search for what was found comes to the same URI just
if it stays. -/
theorem uri?_text_eq_iff (hcurrent : isAbsolute fs.current)
    (hclimbs : ¬Climbs (components fs.current)) (hf : f.Proper) (hne : f ≠ .empty) :
    r.uri? fs f.text = Uri.ofFolded? (fs.locate f.text) ↔ r.Stays fs f := by
  have htext : f.text ≠ [] := Folded.text_ne_nil hf hne
  have hrooted : (fs.locate f.text).rooted := FileSystem.rooted_locate hcurrent hclimbs hf
  have hinj :=
    @Uri.ofFolded?_inj (fs.locate (r.resolve fs f.text)) _ (fs.proper_locate _)
      (fs.proper_locate _) hrooted
  have hsome : Uri.ofFolded? (fs.locate f.text) ≠ none := by
    rw [Option.ne_none_iff_isSome, Uri.isSome_ofFolded?]
    exact hrooted
  rw [Stays]
  cases hfound : r.found? fs f.text with
  | none =>
    have hresolve := resolve_of_found?_eq_none hfound
    by_cases hnil : Text.trim f.text = []
    · rw [uri?, hresolve, if_pos hnil, hnil]
      exact iff_of_false hsome.symm htext.symm
    · rw [uri?_of_ne_nil (by rwa [hresolve]), hinj, hresolve]
      exact FileSystem.locate_trim_eq_iff hcurrent hf
  | some g =>
    have hresolve := resolve_of_found? hfound
    have hrelative : f.rooted = false := by
      by_contra habs
      rw [found?_of_isAbsolute ((Folded.isAbsolute_text hf).trans (by simpa using habs))] at hfound
      cases hfound
    by_cases hempty : g = .empty
    · -- the empty path has no URI, and would lead to the current directory
      rw [hempty] at hresolve ⊢
      have hnone : r.uri? fs f.text = none := by
        rw [uri?, hresolve]
        rfl
      rw [hnone]
      exact iff_of_false hsome.symm (FileSystem.locate_empty_ne hf hrelative hne)
    · have hnil : g.text ≠ [] := Folded.text_ne_nil (proper_of_found? hfound) hempty
      rw [uri?_of_ne_nil (by rwa [hresolve]), hinj, hresolve]

/-- Resolving twice comes to the same URI just if what was found stays what it is. -/
theorem uri?_resolve_eq_iff (hcurrent : isAbsolute fs.current)
    (hclimbs : ¬Climbs (components fs.current)) :
    r.uri? fs (r.resolve fs path) = r.uri? fs path ↔
      ∀ f, r.found? fs path = some f → r.Stays fs f := by
  cases hfound : r.found? fs path with
  | none =>
    refine iff_of_true ?_ nofun
    rw [resolve_of_found?_eq_none hfound, uri?, uri?, resolve_trim]
  | some f =>
    have hresolve := resolve_of_found? hfound
    have hf : f.Proper := proper_of_found? hfound
    simp only [Option.some.injEq, forall_eq']
    by_cases hempty : f = .empty
    · subst hempty
      refine iff_of_true ?_ rfl
      rw [hresolve, uri?, uri?, hresolve]
      rfl
    · have hnil : f.text ≠ [] := Folded.text_ne_nil hf hempty
      have huri : r.uri? fs path = Uri.ofFolded? (fs.locate f.text) := by
        rw [uri?_of_ne_nil (by rwa [hresolve]), hresolve]
      rw [← uri?_text_eq_iff hcurrent hclimbs hf hempty, hresolve, huri]

/-- What is found from the root on stays if it does not end in white space. -/
theorem stays_iff_of_rooted (hf : f.Proper) (hrooted : f.rooted) :
    r.Stays fs f ↔ ∀ c ∈ f.text.getLast?, Text.isBlank c = false := by
  have habs : isAbsolute f.text := (Folded.isAbsolute_text hf).trans hrooted
  rw [Stays, found?_of_isAbsolute habs, Text.trim_eq_self_iff, and_iff_right]
  intro c hc
  rw [isAbsolute, decide_eq_true_eq] at habs
  obtain rfl : '/' = c := Option.some.inj (habs.symm.trans hc)
  decide

/-- Below roots from which the path does not climb, what is found begins at the root of the file
system. -/
theorem rooted_of_found?
    (hroots : ∀ root ∈ r.roots, isAbsolute root ∧
      ¬Climbs (components (Path.append root (Text.trim path))))
    (h : r.found? fs path = some f) : f.rooted := by
  rw [found?] at h
  split at h
  case isTrue => cases h
  case isFalse hrelative =>
    obtain ⟨root, hroot, rfl⟩ := List.mem_map.1 (List.mem_of_find?_eq_some h)
    obtain ⟨habs, hclimbs⟩ := hroots root hroot
    exact (Path.rooted_fold_iff (Path.isAbsolute_append habs)).2 hclimbs

end Resolver

/-! ## Places to go to -/

namespace Cursor

section Goal

variable (fs : FileSystem) (r : Resolver)

/-- The record of a function that tells where to go to: the function's own, or that of its generic
function if the own path is resolved to nothing. -/
def RawFunction.goal (raw : RawFunction) : RawFunc :=
  if pathOf fs r raw.own.uri = [] then raw.generic.getD raw.own else raw.own

/-- The path and range that are reported for the place to go to. -/
def RawReport.goal? (raw : RawReport) : Option (Option String × Option RawRange) :=
  match (merge raw.oneVariable raw.vars).head? with
  | some v => some (v.uri, v.range)
  | none =>
    (((merge raw.oneCall raw.calls).head?.bind (·.function)).or
      (merge raw.oneFunction raw.functions).head?).map
      fun f => ((f.goal fs r).uri, (f.goal fs r).range)

theorem target_ofRaw (raw : RawFunction) :
    (Function.ofRaw fs r raw).target = Func.ofRaw fs r (raw.goal fs r) := by
  have hown : (Func.ofRaw fs r raw.own).path = pathOf fs r raw.own.uri := rfl
  rw [Function.target, Function.ofRaw, RawFunction.goal]
  by_cases hpath : pathOf fs r raw.own.uri = []
  · rw [if_pos hpath]
    cases raw.generic with
    | none => simp
    | some generic =>
      by_cases hblank : (Func.ofRaw fs r raw.own).isBlank
      · simp [hblank]
      · simp [hblank, hown, hpath]
  · have hblank : (Func.ofRaw fs r raw.own).isBlank = false := by simp [Func.isBlank, hown, hpath]
    simp [hblank, hown, hpath]

theorem target?_ofRaw (raw : RawReport) :
    (Report.ofRaw fs r raw).target? = (raw.goal? fs r).map fun g =>
      (pathOf fs r g.1, editorRange g.2) := by
  rw [Report.target?, RawReport.goal?]
  simp only [Report.ofRaw, List.head?_map]
  cases (merge raw.oneVariable raw.vars).head? with
  | some v => rfl
  | none =>
    have hfunction :
        (((merge raw.oneCall raw.calls).head?.map fun c => (⟨c.name.getD "", pathOf fs r c.uri,
        editorRange c.range, c.function.map (Function.ofRaw fs r)⟩ : Call)).bind (·.function)) =
          ((merge raw.oneCall raw.calls).head?.bind (·.function)).map (Function.ofRaw fs r) := by
      cases (merge raw.oneCall raw.calls).head? <;> rfl
    simp only [hfunction, ← Option.map_or, Option.map_map, Function.comp_def, target_ofRaw,
      Func.ofRaw, Option.map_none]

/-- An editor goes to what the resolved path is resolved to. -/
theorem definition?_ofRaw (raw : RawReport) : (Report.ofRaw fs r raw).definition? fs r =
    (raw.goal? fs r).bind fun g =>
      (r.uri? fs (pathOf fs r g.1)).map fun uri => ⟨uri, (editorRange g.2).getD .origin⟩ := by
  rw [Report.definition?, target?_ofRaw]
  cases raw.goal? fs r with
  | none => rfl
  | some g =>
    by_cases hpath : pathOf fs r g.1 = []
    · simp [hpath, Resolver.uri?, Resolver.resolve]
    · cases huri : r.uri? fs (pathOf fs r g.1) <;> simp [hpath, huri]

theorem fst_toDiagnostic? {entry : RawDiagnostic} {document : List Char}
    (h : entry.message ≠ none) :
    (entry.toDiagnostic? fs r document).map Prod.fst = r.uri? fs (entry.path document) := by
  obtain ⟨message, hmessage⟩ := Option.ne_none_iff_exists'.1 h
  cases huri : r.uri? fs (entry.path document) <;>
    simp [RawDiagnostic.toDiagnostic?, hmessage, huri]

end Goal

open Resolver

variable {fs : FileSystem}

/-- Resolving a reported path twice comes to the file to which resolving it once comes just if
nothing was found, or what was found stays what it is. Below roots that begin at the root of the
file system, and from which the path does not climb above it, that is so unless what was found ends
in white space. And just then an editor goes to the file under which the diagnostics of the path are
published. -/
theorem definition?_uri_eq_iff (hcurrent : isAbsolute fs.current)
    (hclimbs : ¬Climbs (components fs.current)) (r : Resolver) (path : List Char) :
    (r.uri? fs (r.resolve fs path) = r.uri? fs path ↔
      ∀ f, r.found? fs path = some f → r.Stays fs f) ∧
    ((∀ root ∈ r.roots, isAbsolute root ∧
      ¬Climbs (components (Path.append root (Text.trim path)))) →
      (r.uri? fs (r.resolve fs path) = r.uri? fs path ↔
        ∀ f, r.found? fs path = some f → ∀ c ∈ f.text.getLast?, Text.isBlank c = false)) ∧
    ∀ (raw : RawReport) (entry : RawDiagnostic) (document : List Char),
      (raw.goal? fs r).map (fun g => (g.1.getD "").toList) = some path →
      entry.message ≠ none → entry.path document = path →
      (((Report.ofRaw fs r raw).definition? fs r).map Location.uri =
        (entry.toDiagnostic? fs r document).map Prod.fst ↔
        ∀ f, r.found? fs path = some f → r.Stays fs f) := by
  have hiff := @uri?_resolve_eq_iff fs r path hcurrent hclimbs
  refine ⟨hiff, fun hroots => ?_, fun raw entry document hgoal hmessage hpath => ?_⟩
  · rw [hiff]
    refine forall₂_congr fun f hfound => ?_
    exact stays_iff_of_rooted (proper_of_found? hfound) (rooted_of_found? hroots hfound)
  · obtain ⟨g, hg, rfl⟩ := Option.map_eq_some_iff.1 hgoal
    rw [definition?_ofRaw, hg, fst_toDiagnostic? fs r hmessage, hpath, ← hiff, Option.bind_some,
      Option.map_map]
    exact iff_of_eq (congrArg (· = _) (Option.map_id' ..))

/-- A path with white space before it is found below a relative root, and nothing is found for what
was found. -/
theorem definition?_uri_eq_iff_below :
    ∃ (fs : FileSystem) (r : Resolver) (raw : RawReport) (entry : RawDiagnostic),
    fs = .ofFiles "/w".toList [["w".toList, "lib".toList, "m.das".toList]] ∧ r = ⟨["lib".toList]⟩ ∧
    isAbsolute fs.current ∧ ¬Climbs (components fs.current) ∧
    raw.goal? fs r = some (some " m.das", none) ∧ entry.message ≠ none ∧
    entry.path [] = " m.das".toList ∧
    r.found? fs " m.das".toList = some ⟨false, ["lib".toList, "m.das".toList]⟩ ∧
    ((Report.ofRaw fs r raw).definition? fs r).map Location.uri =
      (entry.toDiagnostic? fs r []).map Prod.fst ∧
    (entry.toDiagnostic? fs r []).bind (·.1.decodedPath?) = some "/w/lib/m.das".toList := by
  let fs : FileSystem := .ofFiles "/w".toList [["w".toList, "lib".toList, "m.das".toList]]
  let r : Resolver := ⟨["lib".toList]⟩
  let raw : RawReport := { oneVariable := some { uri := some " m.das" } }
  let entry : RawDiagnostic := { uri := some " m.das", message := some "" }
  have hclimbs : ¬Climbs (components fs.current) := by decide +kernel
  have hmessage : entry.message ≠ none := by decide
  have hpath : entry.path [] = " m.das".toList := by decide +kernel
  have hfound : r.found? fs " m.das".toList = some ⟨false, ["lib".toList, "m.das".toList]⟩ := by
    decide +kernel
  have hstays : r.Stays fs ⟨false, ["lib".toList, "m.das".toList]⟩ := by
    have hagain : r.found? fs (Folded.text ⟨false, ["lib".toList, "m.das".toList]⟩) = none := by
      decide +kernel
    rw [Stays, hagain]
    decide +kernel
  obtain ⟨-, -, hdefinition⟩ := @definition?_uri_eq_iff fs (by decide) hclimbs r " m.das".toList
  refine ⟨fs, r, raw, entry, rfl, rfl, by decide, hclimbs, rfl, hmessage, hpath, hfound,
    ?_, by decide +kernel⟩
  refine (hdefinition raw entry [] rfl hmessage hpath).2 fun f hf => ?_
  rwa [← Option.some.inj (hfound.symm.trans hf)]

/-- Diagnostics of `e.das` are published for what is found below the root `sub`, and an editor goes
to what is found for `sub/e.das` below the next root. And a directory that is found for `a /` loses
the space at its end. -/
theorem definition?_elsewhere :
    ∃ (fs : FileSystem) (r : Resolver) (raw : RawReport) (entry : RawDiagnostic),
    fs = .ofFiles "/w".toList [["w".toList, "sub".toList, "e.das".toList],
      ["lib".toList, "sub".toList, "e.das".toList], ["lib".toList, "a ".toList, "m".toList]] ∧
    r = ⟨["sub".toList, "/lib".toList]⟩ ∧ raw.goal? fs r = some (some "e.das", none) ∧
    entry.message ≠ none ∧
    entry.path [] = "e.das".toList ∧
    (entry.toDiagnostic? fs r []).bind (·.1.decodedPath?) = some "/w/sub/e.das".toList ∧
    ((Report.ofRaw fs r raw).definition? fs r).bind (·.uri.decodedPath?) =
      some "/lib/sub/e.das".toList ∧
    (r.uri? fs "a /".toList).bind Uri.decodedPath? = some "/lib/a ".toList ∧
    (r.uri? fs (r.resolve fs "a /".toList)).bind Uri.decodedPath? = some "/lib/a".toList :=
  ⟨_, _, { oneVariable := some { uri := some "e.das" } },
    { uri := some "e.das", message := some "" }, rfl, rfl, by decide +kernel⟩

end Cursor

end EditorBridge
