import EditorBridge.Uri.Basic

/-!
# Values grouped by file

Lists of values per file. Files stand in the order in which they first got a value.
-/

namespace EditorBridge

/-- Values grouped by the URI of a file. -/
abbrev FileMap (α : Type) := List (Uri × List α)

namespace FileMap

variable {α : Type}

/-- Adds a value at the end of a file's values. -/
def add (uri : Uri) (value : α) : FileMap α → FileMap α
  | [] => [(uri, [value])]
  | (u, values) :: rest =>
    if u = uri then (u, values ++ [value]) :: rest else (u, values) :: add uri value rest

/-- Adds values in their order. -/
def addAll (map : FileMap α) (values : List (Uri × α)) : FileMap α :=
  values.foldl (fun map (uri, value) => add uri value map) map

/-- The given values grouped by file. -/
def group (values : List (Uri × α)) : FileMap α := addAll [] values

/-- Adds values at the end of a file's values. The file is in the map afterwards even if there are
none. -/
def addList (uri : Uri) (values : List α) : FileMap α → FileMap α
  | [] => [(uri, values)]
  | (u, old) :: rest =>
    if u = uri then (u, old ++ values) :: rest else (u, old) :: addList uri values rest

/-- A map extended by another: values are added per file, and new files follow the old ones. -/
def extend (map more : FileMap α) : FileMap α :=
  more.foldl (fun map (uri, values) => addList uri values map) map

/-- The files of a map in their order. -/
def files (map : FileMap α) : List Uri := map.map (·.1)

@[simp] theorem group_nil : group ([] : List (Uri × α)) = [] := rfl

theorem addAll_append (map : FileMap α) (xs ys : List (Uri × α)) :
    addAll map (xs ++ ys) = addAll (addAll map xs) ys := by
  simp [addAll]

theorem group_append (xs ys : List (Uri × α)) : group (xs ++ ys) = addAll (group xs) ys :=
  addAll_append [] xs ys

end FileMap

end EditorBridge
