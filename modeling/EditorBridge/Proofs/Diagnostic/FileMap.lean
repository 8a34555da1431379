import EditorBridge.Diagnostic.FileMap
import Mathlib.Data.List.Induction

/-!
# Grouping by file

Values that are added one after another end up under their files: the files in the order in which
they were first seen, each once, and the values of a file in their order.
-/

namespace EditorBridge.FileMap

variable {α : Type}

/-- The files of some values in the order in which they are first seen, each with its values. -/
def gathered (values : List (Uri × α)) : FileMap α :=
  (values.map (·.1)).eraseDups.map fun uri => (uri, (values.filter (·.1 = uri)).map (·.2))

section First

variable {β : Type} [DecidableEq β] {xs : List β} {x : β}

theorem eraseDups_concat :
    (xs ++ [x]).eraseDups = if x ∈ xs then xs.eraseDups else xs.eraseDups ++ [x] := by
  rw [List.eraseDups_append, List.cons_removeAll]
  by_cases h : x ∈ xs <;> simp [h, List.eraseDups_cons]

theorem nodup_eraseDups (xs : List β) : xs.eraseDups.Nodup := by
  induction xs using List.reverseRecOn with
  | nil => simp
  | append_singleton xs x ih =>
    rw [eraseDups_concat]
    split
    case isTrue => exact ih
    case isFalse h =>
      rw [List.nodup_append]
      refine ⟨ih, by simp, ?_⟩
      rintro other hother _ hmem rfl
      simp_all

end First

section Group

variable {uri : Uri} {value : α} {uris : List Uri} {values : List (Uri × α)}

theorem add_map (hu : uris.Nodup) (lists : Uri → List α) :
    add uri value (uris.map fun u => (u, lists u)) =
    if uri ∈ uris then uris.map fun u => (u, if u = uri then lists u ++ [value] else lists u)
    else uris.map (fun u => (u, lists u)) ++ [(uri, [value])] := by
  induction uris with
  | nil => rfl
  | cons u uris ih =>
    obtain ⟨hmem, hu⟩ := List.nodup_cons.1 hu
    rw [List.map_cons, add]
    by_cases h : u = uri
    · subst h
      have hrest : (uris.map fun v => (v, if v = u then lists v ++ [value] else lists v)) =
          uris.map fun v => (v, lists v) :=
        List.map_congr_left fun v hv => by simp [ne_of_mem_of_not_mem hv hmem]
      simp [hrest]
    · rw [if_neg h, ih hu]
      by_cases hin : uri ∈ uris <;> simp [hin, h, Ne.symm h]

theorem gathered_concat :
    gathered (values ++ [(uri, value)]) = add uri value (gathered values) := by
  have hlists (u : Uri) : ((values ++ [(uri, value)]).filter (·.1 = u)).map (·.2) =
      if u = uri then (values.filter (·.1 = u)).map (·.2) ++ [value]
      else (values.filter (·.1 = u)).map (·.2) := by
    by_cases h : u = uri
    · simp [h]
    · simp [h, Ne.symm h]
  rw [gathered, gathered, List.map_append, List.map_singleton, eraseDups_concat,
    add_map (nodup_eraseDups _)]
  simp only [hlists, List.mem_eraseDups]
  split
  case isTrue => rfl
  case isFalse h =>
    have hnone : values.filter (·.1 = uri) = [] := by
      simp only [List.filter_eq_nil_iff, decide_eq_true_eq]
      rintro entry hentry rfl
      exact h (List.mem_map_of_mem hentry)
    rw [List.map_append, List.map_singleton, if_pos rfl, hnone]
    congr 1
    refine List.map_congr_left fun u hu => ?_
    rw [if_neg (ne_of_mem_of_not_mem (List.mem_eraseDups.1 hu) h)]

theorem group_eq_gathered (values : List (Uri × α)) : group values = gathered values := by
  induction values using List.reverseRecOn with
  | nil => rfl
  | append_singleton values entry ih =>
    rw [group_append, ih, gathered_concat]
    rfl

/-- The list of a file in a group has just the values of that file, and there is at least one. -/
theorem mem_group {list : List α} : (uri, list) ∈ group values ↔
    (∃ value, (uri, value) ∈ values) ∧ list = (values.filter (·.1 = uri)).map (·.2) := by
  rw [group_eq_gathered, gathered, List.mem_map]
  simp only [List.mem_eraseDups, List.mem_map, Prod.mk.injEq]
  constructor
  · rintro ⟨_, ⟨⟨_, value⟩, hvalue, rfl⟩, rfl, rfl⟩
    exact ⟨⟨value, hvalue⟩, rfl⟩
  · rintro ⟨⟨value, hvalue⟩, rfl⟩
    exact ⟨uri, ⟨_, hvalue, rfl⟩, rfl, rfl⟩

theorem exists_mem_group (h : (uri, value) ∈ values) :
    ∃ list, (uri, list) ∈ group values ∧ value ∈ list := by
  refine ⟨_, mem_group.2 ⟨⟨value, h⟩, rfl⟩, ?_⟩
  exact List.mem_map_of_mem (List.mem_filter.2 ⟨h, by simp⟩)

/-- Files stand in the order in which they are first seen. -/
theorem files_group (values : List (Uri × α)) :
    (group values).files = (values.map (·.1)).eraseDups := by
  rw [group_eq_gathered, files, gathered, List.map_map]
  exact List.map_id _

/-- No file is in a group twice. -/
theorem nodup_files_group (values : List (Uri × α)) : (group values).files.Nodup := by
  rw [files_group]
  exact nodup_eraseDups _

end Group

/-! ## Extending a map -/

/-- The values of a file in a map. -/
def valuesOf (uri : Uri) (map : FileMap α) : List α := (map.lookup uri).getD []

section Extend

variable {uri u : Uri} {value : α} {values : List α} {map more : FileMap α}

theorem addList_concat :
    addList uri (values ++ [value]) map = add uri value (addList uri values map) := by
  induction map with
  | nil => simp [addList, add]
  | cons entry map ih =>
    obtain ⟨w, old⟩ := entry
    rw [addList, addList]
    by_cases h : w = uri
    · simp [h, add]
    · simp [h, add, ih]

theorem addList_singleton : addList uri [value] map = add uri value map := by
  induction map with
  | nil => rfl
  | cons entry map ih =>
    obtain ⟨w, old⟩ := entry
    rw [addList, add, ih]

theorem files_addList :
    (addList uri values map).files = if uri ∈ map.files then map.files else map.files ++ [uri] := by
  induction map with
  | nil => simp [addList, files]
  | cons entry map ih =>
    obtain ⟨w, old⟩ := entry
    rw [files, files] at ih
    rw [addList]
    by_cases h : w = uri
    · simp [h, files]
    · by_cases hmem : uri ∈ files map <;> simp_all [files, Ne.symm h]

theorem mem_files_addList : u ∈ (addList uri values map).files ↔ u = uri ∨ u ∈ map.files := by
  rw [files_addList]
  split
  case isTrue h => exact ⟨.inr, fun hu => hu.elim (fun heq => heq ▸ h) id⟩
  case isFalse => rw [List.mem_append, List.mem_singleton, or_comm]

/-- A value of a file that is there already may as well be added before those of another file. -/
theorem addList_add (hne : u ≠ uri) (hmem : uri ∈ map.files) :
    addList u values (add uri value map) = add uri value (addList u values map) := by
  induction map with
  | nil => simp [files] at hmem
  | cons entry map ih =>
    obtain ⟨w, old⟩ := entry
    rw [add, addList]
    by_cases huri : w = uri
    · subst huri
      simp [addList, add, Ne.symm hne]
    · have hrest : uri ∈ files map := by simpa [files, Ne.symm huri] using hmem
      by_cases hu : w = u
      · subst hu
        simp [addList, add, hne]
      · simp [addList, add, huri, hu, ih hrest]

theorem extend_cons (map : FileMap α) (u : Uri) (values : List α) (more : FileMap α) :
    extend map ((u, values) :: more) = extend (addList u values map) more := rfl

theorem extend_add_left (hmem : uri ∈ map.files) (hmore : uri ∉ more.files) :
    extend (add uri value map) more = add uri value (extend map more) := by
  induction more generalizing map with
  | nil => rfl
  | cons entry more ih =>
    obtain ⟨u, values⟩ := entry
    obtain ⟨hne, hmore⟩ : uri ≠ u ∧ uri ∉ files more := by simpa [files] using hmore
    rw [extend_cons, extend_cons, addList_add hne.symm hmem,
      ih (mem_files_addList.2 (.inr hmem)) hmore]

theorem extend_add (hmore : more.files.Nodup) :
    extend map (add uri value more) = add uri value (extend map more) := by
  induction more generalizing map with
  | nil => exact addList_singleton
  | cons entry more ih =>
    obtain ⟨u, values⟩ := entry
    obtain ⟨hu, hmore⟩ := List.nodup_cons.1 hmore
    rw [add]
    by_cases h : u = uri
    · subst h
      rw [if_pos rfl, extend_cons, extend_cons, addList_concat,
        extend_add_left (mem_files_addList.2 (.inl rfl)) hu]
    · rw [if_neg h, extend_cons, extend_cons, ih hmore]

/-- Values that are grouped in two parts are grouped as a whole if the one map is extended by the
other. -/
theorem group_append_eq_extend (xs ys : List (Uri × α)) :
    group (xs ++ ys) = extend (group xs) (group ys) := by
  induction ys using List.reverseRecOn with
  | nil => rw [List.append_nil, group_nil, extend, List.foldl_nil]
  | append_singleton ys entry ih =>
    obtain ⟨uri, value⟩ := entry
    have hconcat (zs : List (Uri × α)) : group (zs ++ [(uri, value)]) = add uri value (group zs) :=
      group_append ..
    rw [← List.append_assoc, hconcat, hconcat, ih, extend_add (nodup_files_group ys)]

/-- New files follow the old ones. -/
theorem files_extend (hmore : more.files.Nodup) :
    (extend map more).files = map.files ++ more.files.filter (· ∉ map.files) := by
  induction more generalizing map with
  | nil => simp [extend, files]
  | cons entry more ih =>
    obtain ⟨u, values⟩ := entry
    obtain ⟨hu, hmore⟩ := List.nodup_cons.1 hmore
    have hcons : files ((u, values) :: more) = u :: files more := rfl
    rw [extend_cons, ih hmore, files_addList, hcons]
    by_cases hmem : u ∈ files map
    · rw [if_pos hmem, List.filter_cons_of_neg (by simp [hmem])]
    · have hfilter : (files more).filter (· ∉ files map ++ [u]) =
          (files more).filter (· ∉ files map) :=
        List.filter_congr fun w hw => by simp [ne_of_mem_of_not_mem hw hu]
      rw [if_neg hmem, List.filter_cons_of_pos (by simp [hmem]), hfilter, List.append_assoc,
        List.singleton_append]

theorem valuesOf_cons (w : Uri) (old : List α) (map : FileMap α) :
    valuesOf uri ((w, old) :: map) = if w = uri then old else valuesOf uri map := by
  rw [valuesOf, List.lookup_cons]
  by_cases h : w = uri
  · simp [h]
  · simp [h, beq_false_of_ne (Ne.symm h), valuesOf]

theorem valuesOf_addList :
    valuesOf uri (addList u values map) =
      if u = uri then valuesOf uri map ++ values else valuesOf uri map := by
  induction map with
  | nil =>
    rw [addList, valuesOf_cons]
    rfl
  | cons entry map ih =>
    obtain ⟨w, old⟩ := entry
    rw [addList]
    by_cases hu : w = u
    · subst hu
      by_cases huri : w = uri <;> simp [valuesOf_cons, huri]
    · by_cases huri : w = uri
      · subst huri
        simp [valuesOf_cons, hu, Ne.symm hu]
      · simp [valuesOf_cons, hu, huri, ih]

/-- The values of a file stand in their order. -/
theorem valuesOf_group (uri : Uri) (entries : List (Uri × α)) :
    valuesOf uri (group entries) = (entries.filter (·.1 = uri)).map (·.2) := by
  induction entries using List.reverseRecOn with
  | nil => rfl
  | append_singleton entries entry ih =>
    obtain ⟨u, value⟩ := entry
    have hconcat : group (entries ++ [(u, value)]) = addList u [value] (group entries) :=
      (group_append ..).trans addList_singleton.symm
    rw [hconcat, valuesOf_addList, ih]
    by_cases h : u = uri <;> simp [h]

/-- Values are added per file. -/
theorem valuesOf_extend (hmore : more.files.Nodup) :
    valuesOf uri (extend map more) = valuesOf uri map ++ valuesOf uri more := by
  induction more generalizing map with
  | nil => simp [extend, valuesOf]
  | cons entry more ih =>
    obtain ⟨u, values⟩ := entry
    obtain ⟨hu, hmore⟩ := List.nodup_cons.1 hmore
    rw [extend_cons, ih hmore, valuesOf_addList, valuesOf_cons]
    by_cases h : u = uri
    · subst h
      have hnone : List.lookup u more = none := by
        rw [List.lookup_eq_none_iff]
        intro entry hentry
        exact bne_iff_ne.2 (ne_of_mem_of_not_mem (List.mem_map_of_mem hentry) hu).symm
      simp [valuesOf, hnone]
    · simp [h]

end Extend

/-! ## Counting values -/

/-- The number of values in a map. -/
def size (map : FileMap α) : Nat := (map.flatMap (·.2)).length

theorem size_add (uri : Uri) (value : α) (map : FileMap α) :
    size (add uri value map) = size map + 1 := by
  induction map with
  | nil => rfl
  | cons entry map ih =>
    obtain ⟨w, old⟩ := entry
    rw [add]
    by_cases h : w = uri
    · simp only [if_pos h, size, List.flatMap_cons, List.length_append, List.length_singleton]
      omega
    · simp only [size] at ih
      simp only [if_neg h, size, List.flatMap_cons, List.length_append, ih]
      omega

/-- No value is lost, and none is there twice. -/
theorem size_group (values : List (Uri × α)) : size (group values) = values.length := by
  induction values using List.reverseRecOn with
  | nil => rfl
  | append_singleton values entry ih =>
    have hconcat : group (values ++ [entry]) = add entry.1 entry.2 (group values) := group_append ..
    rw [hconcat, size_add, ih, List.length_append, List.length_singleton]

end EditorBridge.FileMap
