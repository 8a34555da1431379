import EditorBridge.Uri.Reader

/-!
# Workspace folders

The open folders of a workspace, and the root to which a document belongs: the outermost open folder
that holds it, or the common root of documents that are not saved.
-/

namespace EditorBridge

/-- The root of a group of documents. A folder is the text of its URI with a slash at its end. -/
inductive Root where
  | untitled
  | folder (text : List Char)
deriving DecidableEq, Repr, Inhabited

namespace Root

/-- The text with a slash at its end. -/
def slashed (text : List Char) : List Char :=
  if text.getLast? = some '/' then text else text ++ ['/']

/-- The root of the folder with the given URI. -/
def ofFolder (uri : Uri) : Root := .folder (slashed uri.chars)

/-- The name under which a root is shown. -/
def name : Root → List Char
  | .untitled => "____untitled____".toList
  | .folder text => text

/-- The directory of a root. -/
def directory? : Root → Option (List Char)
  | .untitled => none
  | .folder text => (Uri.read? text).bind Uri.filePath?

end Root

/-- The open folders by the texts of their URIs, shortest first. -/
structure Folders where
  texts : List (List Char)
deriving DecidableEq, Repr, Inhabited

namespace Folders

/-- No open folders. -/
def empty : Folders := ⟨[]⟩

/-- Puts a text before the first longer one. -/
def insertByLength (text : List Char) : List (List Char) → List (List Char)
  | [] => [text]
  | t :: rest => if text.length < t.length then text :: t :: rest else t :: insertByLength text rest

/-- Opens a folder. -/
def add (folders : Folders) (uri : Uri) : Folders :=
  let text := Root.slashed uri.chars
  if text ∈ folders.texts then folders else ⟨insertByLength text folders.texts⟩

/-- Closes a folder. -/
def remove (folders : Folders) (uri : Uri) : Folders :=
  ⟨folders.texts.filter (· ≠ Root.slashed uri.chars)⟩

/-- Whether a folder is open. -/
def has (folders : Folders) (uri : Uri) : Bool := Root.slashed uri.chars ∈ folders.texts

/-- The folders opened one after another. -/
def ofList (uris : List Uri) : Folders := uris.foldl add empty

/-- The root of a document. -/
def root? (folders : Folders) (document : Uri) : Option Root :=
  if document.scheme = "untitled".toList then some .untitled
  else if document.scheme = Uri.fileScheme then
    (folders.texts.find? (·.isPrefixOf document.chars)).map .folder
  else none

@[simp] theorem texts_empty : empty.texts = [] := rfl

@[simp] theorem ofList_nil : ofList [] = empty := rfl

variable {folders : Folders} {uri document : Uri} {uris : List Uri} {text : List Char}

@[simp] theorem mem_insertByLength {new : List Char} {texts : List (List Char)} :
    text ∈ insertByLength new texts ↔ text = new ∨ text ∈ texts := by
  induction texts with
  | nil => simp [insertByLength]
  | cons t texts ih =>
    rw [insertByLength]
    split
    case isTrue => simp
    case isFalse => simp only [List.mem_cons, ih, or_left_comm]

@[simp] theorem mem_texts_add :
    text ∈ (folders.add uri).texts ↔ text = Root.slashed uri.chars ∨ text ∈ folders.texts := by
  rw [add]
  split
  case isTrue h =>
    constructor
    · exact .inr
    · rintro (rfl | ht)
      · exact h
      · exact ht
  case isFalse => exact mem_insertByLength

@[simp] theorem mem_texts_remove :
    text ∈ (folders.remove uri).texts ↔ text ∈ folders.texts ∧ text ≠ Root.slashed uri.chars := by
  simp [remove]

theorem mem_texts_foldl_add :
    text ∈ (uris.foldl add folders).texts ↔ (∃ uri ∈ uris, text = Root.slashed uri.chars) ∨
      text ∈ folders.texts := by
  induction uris generalizing folders with
  | nil => simp
  | cons uri uris ih =>
    rw [List.foldl_cons, ih, mem_texts_add]
    simp [or_assoc, or_left_comm]

@[simp] theorem mem_texts_ofList :
    text ∈ (ofList uris).texts ↔ ∃ uri ∈ uris, text = Root.slashed uri.chars := by
  rw [ofList, mem_texts_foldl_add]
  simp

theorem mem_texts_of_root? (h : folders.root? document = some (.folder text)) :
    text ∈ folders.texts := by
  rw [root?] at h
  split at h
  · simp at h
  · split at h
    · obtain ⟨found, hfound, heq⟩ := Option.map_eq_some_iff.1 h
      cases heq
      exact List.mem_of_find?_eq_some hfound
    · simp at h

end Folders

end EditorBridge
