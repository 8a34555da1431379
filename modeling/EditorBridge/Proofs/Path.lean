import EditorBridge.FileSystem
import EditorBridge.Proofs.Text.Split
import Mathlib.Data.List.Infix

/-!
# Folded paths

Folding a path leaves names only: no empty piece, no `.` and no `..`. A path from the root that is
made of names is its own folded form.
-/

namespace EditorBridge

namespace Path

/-- A piece of a path that names something. -/
def IsName (piece : List Char) : Prop := piece ≠ [] ∧ piece ≠ ['.'] ∧ piece ≠ ['.', '.']

instance : DecidablePred IsName := fun _ => inferInstanceAs (Decidable (_ ∧ _))

/-- A path from the root that is the root itself or has names between its slashes. -/
def IsCanonical (path : List Char) : Prop :=
  ∃ rest, path = '/' :: rest ∧ (rest = [] ∨ ∀ piece ∈ Text.split (· = '/') rest, IsName piece)

section Component

variable {first : Bool} {piece text path : List Char}

theorem component?_of_isName (h : IsName piece) : component? first piece = some (.name piece) := by
  obtain ⟨hnil, hpoint, hpoints⟩ := h
  rw [component?, if_neg hnil, if_neg hpoint, if_neg hpoints]

theorem of_component?_eq_name (h : component? first piece = some (.name text)) :
    text = piece ∧ IsName piece := by
  rw [component?] at h
  split at h
  · cases h
  split at h
  · split at h <;> cases h
  split at h
  · cases h
  · cases h
    exact ⟨rfl, ‹_›, ‹_›, ‹_›⟩

/-- The components of a path come from its pieces, the root apart. -/
theorem exists_of_mem_components {c : Component} (h : c ∈ components path) :
    c = .root ∨ ∃ first, ∃ piece ∈ Text.split (· = '/') path, component? first piece = some c := by
  rw [components] at h
  split at h
  · rcases List.mem_cons.1 h with rfl | h
    · exact .inl rfl
    · obtain ⟨piece, hpiece, hc⟩ := List.mem_filterMap.1 h
      exact .inr ⟨false, piece, hpiece, hc⟩
  · cases hs : Text.split (· = '/') path with
    | nil => exact absurd hs (Text.split_ne_nil _ path)
    | cons piece rest =>
      rw [hs] at h
      right
      rcases List.mem_append.1 h with h | h
      · exact ⟨true, piece, by simp, Option.mem_toList.1 h⟩
      · obtain ⟨other, hother, hc⟩ := List.mem_filterMap.1 h
        exact ⟨false, other, by simp [hother], hc⟩

theorem slash_notMem_of_mem_split (h : piece ∈ Text.split (· = '/') path) : '/' ∉ piece := by
  intro hslash
  simpa using (Text.forall_of_mem_split h '/' hslash).2

theorem isName_of_mem_components (h : .name text ∈ components path) : IsName text ∧ '/' ∉ text := by
  rcases exists_of_mem_components h with h | ⟨first, piece, hpiece, hc⟩
  · cases h
  · obtain ⟨rfl, hname⟩ := of_component?_eq_name hc
    exact ⟨hname, slash_notMem_of_mem_split hpiece⟩

end Component

end Path

namespace Folded

/-- All parts of a folded path are names. -/
def Proper (f : Folded) : Prop := ∀ name ∈ f.names, Path.IsName name ∧ '/' ∉ name

variable {f : Folded} {cs : List Component} {names : List (List Char)}

theorem Proper.push (h : f.Proper) {c : Component}
    (hc : ∀ text, c = .name text → Path.IsName text ∧ '/' ∉ text) : (f.push c).Proper := by
  cases c with
  | root => exact List.forall_mem_nil _
  | current => exact h
  | parent =>
    rw [Folded.push]
    split
    · exact List.forall_mem_nil _
    · exact fun name hname => h name (List.mem_of_mem_dropLast hname)
  | name text =>
    intro name hname
    rcases List.mem_append.1 hname with hname | hname
    · exact h name hname
    · rw [List.mem_singleton.1 hname]
      exact hc text rfl

theorem Proper.foldl_push (h : f.Proper)
    (hcs : ∀ text, .name text ∈ cs → Path.IsName text ∧ '/' ∉ text) :
    (cs.foldl Folded.push f).Proper := by
  induction cs generalizing f with
  | nil => exact h
  | cons c cs ih =>
    refine ih (h.push ?_) fun text htext => hcs text (List.mem_cons_of_mem _ htext)
    rintro text rfl
    exact hcs text List.mem_cons_self

theorem proper_ofComponents (hcs : ∀ text, .name text ∈ cs → Path.IsName text ∧ '/' ∉ text) :
    (ofComponents cs).Proper :=
  Proper.foldl_push (List.forall_mem_nil _) hcs

theorem Proper.split_join (h : f.Proper) (hne : f.names ≠ []) :
    Text.split (· = '/') (Text.join ['/'] f.names) = f.names := by
  refine Text.split_join (by simp) hne fun name hname c hc => ?_
  simpa using ne_of_mem_of_not_mem hc (h name hname).2

theorem foldl_push_names (f : Folded) (names : List (List Char)) :
    (names.map .name).foldl Folded.push f = ⟨f.rooted, f.names ++ names⟩ := by
  induction names generalizing f with
  | nil => simp
  | cons name names ih => simp [ih]

/-- The text of a folded path begins at the root just if the path does. -/
theorem isAbsolute_text (h : f.Proper) : Path.isAbsolute f.text = f.rooted := by
  obtain ⟨rooted, names⟩ := f
  cases rooted with
  | true => simp [Path.isAbsolute, text]
  | false =>
    cases names with
    | nil => rfl
    | cons name names =>
      obtain ⟨hname, hslash⟩ := h name List.mem_cons_self
      obtain ⟨c, cs, rfl⟩ := List.exists_cons_of_ne_nil hname.1
      have hc : c ≠ '/' := Ne.symm (not_or.1 (mt List.mem_cons.2 hslash)).1
      cases names <;> simp [Path.isAbsolute, text, hc]

/-- The text of a folded path is read as its components. -/
theorem components_text (h : f.Proper) : Path.components f.text = f.components := by
  have hname {first : Bool} {name : List Char} (hname : name ∈ f.names) :
      Path.component? first name = some (.name name) :=
    Path.component?_of_isName (h name hname).1
  have hnames {names : List (List Char)} (hsub : names ⊆ f.names) :
      names.filterMap (Path.component? false) = names.map .name := by
    rw [← List.filterMap_eq_map]
    exact List.filterMap_congr fun name hmem => hname (hsub hmem)
  rw [Path.components, isAbsolute_text h]
  obtain ⟨rooted, names⟩ := f
  cases rooted with
  | true =>
    have hsplit : Text.split (· = '/') (text ⟨true, names⟩) =
        [] :: Text.split (· = '/') (Text.join ['/'] names) := by
      simp [text, Text.split]
    rw [if_pos rfl, hsplit, List.filterMap_cons]
    by_cases hnil : names = []
    · simp [hnil, Text.split, Path.component?, components]
    · rw [h.split_join hnil, hnames (List.Subset.refl _)]
      rfl
  | false =>
    cases names with
    | nil => rfl
    | cons name names =>
      have hsplit : Text.split (· = '/') (text ⟨false, name :: names⟩) = name :: names :=
        h.split_join (by simp)
      rw [if_neg (by simp), hsplit]
      simp only [hname List.mem_cons_self, hnames (List.subset_cons_self _ _)]
      rfl

theorem ofComponents_components (f : Folded) : ofComponents f.components = f := by
  obtain ⟨rooted, names⟩ := f
  cases rooted with
  | true => simp [ofComponents, components, foldl_push_names]
  | false => simp [ofComponents, components, foldl_push_names, empty]

/-- A folded path is found again from its text. -/
theorem fold_text (h : f.Proper) : Path.fold f.text = f := by
  rw [Path.fold, components_text h, ofComponents_components]

theorem components_inj {g : Folded} : f.components = g.components ↔ f = g := by
  refine ⟨fun h => ?_, fun h => by rw [h]⟩
  rw [← ofComponents_components f, h, ofComponents_components]

theorem text_inj {g : Folded} (hf : f.Proper) (hg : g.Proper) : f.text = g.text ↔ f = g := by
  refine ⟨fun h => ?_, fun h => by rw [h]⟩
  rw [← fold_text hf, h, fold_text hg]

end Folded

namespace Path

variable {path : List Char}

theorem proper_fold (path : List Char) : (fold path).Proper :=
  Folded.proper_ofComponents fun _ => isName_of_mem_components

/-- The canonical paths are the texts of the folded paths from the root. -/
theorem isCanonical_iff :
    IsCanonical path ↔ ∃ names, Folded.Proper ⟨true, names⟩ ∧ path = Folded.text ⟨true, names⟩ := by
  constructor
  · rintro ⟨rest, rfl, rfl | hrest⟩
    · exact ⟨[], List.forall_mem_nil _, rfl⟩
    · refine ⟨Text.split (· = '/') rest, ?_, by simp [Folded.text, Text.join_split]⟩
      exact fun piece hpiece => ⟨hrest piece hpiece, slash_notMem_of_mem_split hpiece⟩
  · rintro ⟨names, hproper, rfl⟩
    refine ⟨Text.join ['/'] names, rfl, ?_⟩
    by_cases hnil : names = []
    · exact .inl (by simp [hnil])
    · right
      rw [hproper.split_join hnil]
      exact fun name hname => (hproper name hname).1

end Path

theorem FileSystem.proper_locate (fs : FileSystem) (path : List Char) :
    (fs.locate path).Proper := by
  rw [locate]
  split
  · exact Path.proper_fold path
  · refine Folded.proper_ofComponents fun text htext => ?_
    rcases List.mem_append.1 htext with htext | htext
    · exact Path.isName_of_mem_components htext
    · exact Path.isName_of_mem_components htext

end EditorBridge
