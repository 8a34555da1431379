import EditorBridge.FileSystem
import EditorBridge.Text.Blank
import EditorBridge.Uri.Basic

/-!
# Resolving reported paths

A compiler reports paths relative to any of several roots. They are resolved by looking at which
files exist, and named by URIs.
-/

namespace EditorBridge

/-- Where reported paths are looked for, first root first. -/
structure Resolver where
  roots : List (List Char)
deriving DecidableEq, Repr, Inhabited

namespace Resolver

/-- Project roots are tried before workspace folders. -/
def ofRoots (projectRoots folders : List (List Char)) : Resolver := ⟨projectRoots ++ folders⟩

/-- The places at which a relative path may name something. -/
def candidates (r : Resolver) (path : List Char) : List Folded :=
  r.roots.map fun root => Path.fold (Path.append root path)

/-- The path without white space around it, replaced by the first candidate that exists if the path
is relative. -/
def resolve (fs : FileSystem) (r : Resolver) (path : List Char) : List Char :=
  let path := Text.trim path
  if path = [] ∨ Path.isAbsolute path then path
  else
    match (r.candidates path).find? fs.has with
    | some found => found.text
    | none => path

/-- The URI of the file that a reported path names. -/
def uri? (fs : FileSystem) (r : Resolver) (path : List Char) : Option Uri :=
  let resolved := r.resolve fs path
  if resolved = [] then none else Uri.ofFolded? (fs.locate resolved)

end Resolver

end EditorBridge
