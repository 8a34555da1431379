import EditorBridge.Path
import EditorBridge.Text.Utf8

/-!
# File systems

What is known of the files around: which paths name something, and where a path leads if each of its
pieces is looked up in turn.
-/

namespace EditorBridge

/-- What is known of the files around: the current directory, which folded paths name something,
which of them a directory, and the names in a directory. -/
structure FileSystem where
  current : List Char
  has : Folded → Bool
  isDirectory : Folded → Bool
  names : List (List Char) → List (List Char)

/-- Why a path leads nowhere. -/
inductive PathFailure where
  | missing
  | throughFile
  | longName
deriving DecidableEq, Repr

namespace FileSystem

/-- The file system that holds the given files, by the names on their paths, and the directories
above them. -/
def ofFiles (current : List Char) (files : List (List (List Char))) : FileSystem where
  current := current
  has f :=
    if f.rooted then files.any (f.names.isPrefixOf ·)
    else f.names ≠ [] ∧ files.any (((Path.fold current).names ++ f.names).isPrefixOf ·)
  isDirectory f :=
    let names := if f.rooted then f.names else (Path.fold current).names ++ f.names
    files.any fun file => names.isPrefixOf file && names ≠ file
  names place :=
    (files.filterMap fun file => if place.isPrefixOf file then (file.drop place.length).head?
      else none).eraseDups

/-- The files of two file systems, in the current directory of the first. -/
def union (fs other : FileSystem) : FileSystem where
  current := fs.current
  has f := fs.has f || other.has f
  isDirectory f := fs.isDirectory f || other.isDirectory f
  names place := (fs.names place ++ other.names place).eraseDups

/-- The folded path from the root that a path names, seen from the current directory. -/
def locate (fs : FileSystem) (path : List Char) : Folded :=
  if Path.isAbsolute path then Path.fold path
  else .ofComponents (Path.components fs.current ++ Path.components path)

/-- The longest name of a file, in bytes. -/
def longestName : Nat := 255

/-- The longest path, in bytes. -/
def longestPath : Nat := 4095

/-- Follows the pieces of a path from a place on. Each piece is looked up in a directory, so that
all places on the way must be there. -/
def walk (fs : FileSystem) :
    (place : List (List Char)) → List (List Char) → Except PathFailure (List (List Char))
  | place, [] => .ok place
  | place, piece :: rest =>
    if !fs.isDirectory ⟨true, place⟩ then .error .throughFile
    else if piece = [] ∨ piece = ['.'] then walk fs place rest
    else if piece = ['.', '.'] then walk fs place.dropLast rest
    else if (Text.Utf8.encode piece).length > longestName then .error .longName
    else if !fs.has ⟨true, place ++ [piece]⟩ then .error .missing
    else walk fs (place ++ [piece]) rest

/-- The place that a path leads to from the directory `base`. -/
def follow (fs : FileSystem) (base : List (List Char)) (path : List Char) :
    Except PathFailure (List (List Char)) :=
  if path = [] then .error .missing
  else if (Text.Utf8.encode path).length > longestPath then .error .longName
  else fs.walk (if Path.isAbsolute path then [] else base) (Text.split (· = '/') path)

/-- The directory that a path leads to from the directory `base`. -/
def directory (fs : FileSystem) (base : List (List Char)) (path : List Char) :
    Except PathFailure (List (List Char)) := do
  let place ← fs.follow base path
  if fs.isDirectory ⟨true, place⟩ then return place else throw .throughFile

end FileSystem

end EditorBridge
