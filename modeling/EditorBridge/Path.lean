import EditorBridge.Text.Split

/-!
# File paths

Paths as texts, their components, and folding of `.` and `..` without looking at files. Files and
folders whose names are not text, because their bytes are not UTF-8, are left out.
-/

namespace EditorBridge

/-- A component of a path. -/
inductive Component where
  | root
  | current
  | parent
  | name (text : List Char)
deriving DecidableEq, Repr

namespace Path

/-- Whether a path starts at the root. -/
def isAbsolute (path : List Char) : Bool := path.head? = some '/'

/-- The component a piece between slashes stands for. Empty pieces stand for none, and so does `.`
unless a relative path begins with it. -/
def component? (first : Bool) (piece : List Char) : Option Component :=
  if piece = [] then none
  else if piece = ['.'] then if first then some .current else none
  else if piece = ['.', '.'] then some .parent
  else some (.name piece)

/-- The components of a path. -/
def components (path : List Char) : List Component :=
  if isAbsolute path then .root :: (Text.split (· = '/') path).filterMap (component? false)
  else
    match Text.split (· = '/') path with
    | [] => []
    | piece :: rest => (component? true piece).toList ++ rest.filterMap (component? false)

/-- The path `path` seen from the directory `base`. -/
def append (base path : List Char) : List Char :=
  if isAbsolute path then path
  else if base = [] ∨ base.getLast? = some '/' then base ++ path
  else base ++ '/' :: path

end Path

/-- A path without `.` and `..`: whether it starts at the root, and its names. -/
structure Folded where
  rooted : Bool
  names : List (List Char)
deriving DecidableEq, Repr, Inhabited

namespace Folded

/-- The path with no components. -/
def empty : Folded := ⟨false, []⟩

/-- Goes on from a folded path by one component. The parent of a path is the path without its last
component, be that a name or the root. -/
def push (f : Folded) : Component → Folded
  | .root => ⟨true, []⟩
  | .current => f
  | .parent => if f.names = [] then empty else ⟨f.rooted, f.names.dropLast⟩
  | .name text => ⟨f.rooted, f.names ++ [text]⟩

/-- Folds components from the left. -/
def ofComponents (cs : List Component) : Folded := cs.foldl push empty

/-- The components of a folded path. -/
def components (f : Folded) : List Component :=
  (if f.rooted then [.root] else []) ++ f.names.map .name

/-- The text of a folded path. -/
def text (f : Folded) : List Char := (if f.rooted then ['/'] else []) ++ Text.join ['/'] f.names

@[simp] theorem ofComponents_nil : ofComponents [] = empty := rfl

@[simp] theorem push_current (f : Folded) : f.push .current = f := rfl

@[simp] theorem push_root (f : Folded) : f.push .root = ⟨true, []⟩ := rfl

@[simp] theorem push_name (f : Folded) (text : List Char) :
    f.push (.name text) = ⟨f.rooted, f.names ++ [text]⟩ :=
  rfl

end Folded

/-- The path without `.` and `..`. -/
def Path.fold (path : List Char) : Folded := .ofComponents (components path)

end EditorBridge
