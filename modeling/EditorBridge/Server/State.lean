import EditorBridge.Completion.Signature
import EditorBridge.Diagnostic.Basic
import EditorBridge.Publisher
import EditorBridge.Resolver
import EditorBridge.Settings

/-!
# The state of the server

What the server remembers between two messages, and what it tells the editor.
-/

namespace EditorBridge

/-- How far the conversation with the editor has come. -/
inductive Phase where
  | waiting
  | serving
  | stopping
  | exited
deriving DecidableEq, Repr, Inhabited

/-- The state of the server. -/
structure Server where
  phase : Phase := .waiting
  /-- Whether the editor can be asked for the settings of a document. -/
  asksSettings : Bool := false
  /-- Whether the editor shows the related information of diagnostics. -/
  showsRelated : Bool := false
  /-- The paths of the open folders. -/
  folders : List (List Char) := []
  /-- The settings of all documents, if the editor cannot be asked. -/
  commonSettings : Settings := {}
  /-- The settings the editor was asked for. -/
  documentSettings : List (Uri × Settings) := []
  /-- The texts of the open documents. -/
  documents : List (Uri × String) := []
  publisher : Publisher := .empty
  completion : CompletionList := []
deriving Inhabited

/-- What the server tells the editor without waiting for an answer that matters. -/
inductive Notice where
  /-- News for the user. -/
  | info (text : List Char)
  /-- A line of the log. -/
  | log (text : List Char)
  /-- The wish to hear of changed settings. -/
  | watchSettings
  /-- All diagnostics of a file. -/
  | diagnostics (uri : Uri) (list : List Diagnostic)

/-- What does not change while a message is handled. -/
structure Surroundings where
  files : FileSystem
  /-- The directory of the running program. -/
  programDirectory : List Char
  /-- The order in which documents are visited. It may be any order, and each one is visited
  once. -/
  visits : List Uri → List Uri
  visits_perm : ∀ uris, (visits uris).Perm uris

/-- The surroundings in which documents are visited in the order in which they were opened. -/
def Surroundings.inOrder (files : FileSystem) (programDirectory : List Char) : Surroundings :=
  ⟨files, programDirectory, id, fun _ => .refl _⟩

namespace Server

/-- Puts a value at a document, in place of an older one. -/
def assign {α : Type} (uri : Uri) (value : α) : List (Uri × α) → List (Uri × α)
  | [] => [(uri, value)]
  | (u, old) :: rest => if u = uri then (u, value) :: rest else (u, old) :: assign uri value rest

/-- Takes away the value of a document. -/
def unassign {α : Type} (uri : Uri) (list : List (Uri × α)) : List (Uri × α) :=
  list.filter (·.1 ≠ uri)

/-- Where reported paths are looked for: first in the project roots, then in the open folders. -/
def resolver (s : Server) (settings : Settings) : Resolver :=
  .ofRoots (settings.projectRoots.map String.toList) s.folders

/-- Changes the open folders. Paths with the same components are the same folder. -/
def changeFolders (s : Server) (added removed : List (List Char)) : Server :=
  let same (a b : List Char) : Bool := Path.components a = Path.components b
  let kept := s.folders.filter fun f => !removed.any (same f)
  { s with folders := added.foldl (fun fs f => if fs.any (same f) then fs else fs ++ [f]) kept }

end Server

end EditorBridge
