import EditorBridge.Diagnostic.FileMap

/-!
# Publishing

A document's validation may show something in other files. The publisher remembers the files of each
document's last validation, and clears those that the next one leaves out.
-/

namespace EditorBridge

/-- The files shown by the last validation of each document. -/
structure Publisher where
  shown : List (Uri × List Uri)
deriving DecidableEq, Repr, Inhabited

namespace Publisher

/-- Nothing is shown. -/
def empty : Publisher := ⟨[]⟩

/-- The files of a document's last validation. -/
def dependencies (p : Publisher) (document : Uri) : List Uri := (p.shown.lookup document).getD []

/-- The publisher without a document. -/
def forget (p : Publisher) (document : Uri) : Publisher := ⟨p.shown.filter (·.1 ≠ document)⟩

/-- The publisher with the files of a document. -/
def remember (p : Publisher) (document : Uri) (files : List Uri) : Publisher :=
  ⟨(document, files) :: (p.forget document).shown⟩

/-- What replaces the content shown for a file. -/
abbrev Publication (α : Type) := Uri × List α

variable {α : Type}

/-- Publishes a validation of a document: the files it reports, then nothing for the files it no
longer reports. -/
def publish (p : Publisher) (document : Uri) (map : FileMap α) : Publisher × List (Publication α) :=
  let files := FileMap.files map
  let stale := (p.dependencies document).filter (· ∉ files)
  (p.remember document files, map ++ stale.map (·, []))

/-- Closes a document: nothing is shown for it and for the files of its last validation. -/
def close (p : Publisher) (document : Uri) : Publisher × List (Publication α) :=
  (p.forget document,
    (document, []) :: ((p.dependencies document).filter (· ≠ document)).map (·, []))

@[simp] theorem dependencies_empty (document : Uri) : empty.dependencies document = [] := rfl

end Publisher

end EditorBridge
