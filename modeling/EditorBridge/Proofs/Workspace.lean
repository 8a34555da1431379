import EditorBridge.Workspace
import Mathlib.Data.List.Infix
import Mathlib.Data.Set.Insert

/-!
# The outermost open folder

The open folders are kept as a list, shortest first, in which the first folder that holds a document
is taken for its root. Folders of the same length stand in the order in which they were opened, so
the list depends on the history. The root does not: of two folders that hold the same document one
lies in the other, and the shorter one is the outer one.

The main statement compares the list with the set of open folders, over all histories of opening and
closing.
-/

namespace EditorBridge

theorem Root.getLast?_slashed (text : List Char) : (slashed text).getLast? = some '/' := by
  rw [slashed]
  split
  case isTrue h => exact h
  case isFalse => simp

namespace Folders

/-! ## Histories -/

/-- A folder is opened or closed. -/
inductive Change where
  | add (uri : Uri)
  | remove (uri : Uri)

/-- The open folders after a change. -/
def change (folders : Folders) : Change → Folders
  | .add uri => folders.add uri
  | .remove uri => folders.remove uri

/-- The open folders after a history, which begins with some folders. -/
def after (uris : List Uri) (changes : List Change) : Folders := changes.foldl change (ofList uris)

/-- What a change does to the set of open folders. -/
def Change.onSet (opened : Set (List Char)) : Change → Set (List Char)
  | .add uri => insert (Root.slashed uri.chars) opened
  | .remove uri => opened \ {Root.slashed uri.chars}

/-- The set of the folders that are open after a history, by their texts. -/
def openAfter (uris : List Uri) (changes : List Change) : Set (List Char) :=
  changes.foldl Change.onSet {text | ∃ uri ∈ uris, text = Root.slashed uri.chars}

/-- A folder that holds a document and lies in no other open folder that does. -/
def Outermost (opened : Set (List Char)) (document : Uri) (text : List Char) : Prop :=
  text ∈ opened ∧ text <+: document.chars ∧
    ∀ other ∈ opened, other <+: document.chars → text <+: other

/-- The folders in the form in which they are kept: each once, shortest first, and with a slash at
its end. -/
structure Orderly (folders : Folders) : Prop where
  nodup : folders.texts.Nodup
  sorted : folders.texts.Pairwise (·.length ≤ ·.length)
  slash : ∀ text ∈ folders.texts, text.getLast? = some '/'

variable {folders : Folders} {document uri : Uri} {uris : List Uri} {changes : List Change}
  {text new : List Char} {texts : List (List Char)}

/-! ## The list -/

theorem nodup_insertByLength (h : texts.Nodup) (hnew : new ∉ texts) :
    (insertByLength new texts).Nodup := by
  induction texts with
  | nil => simp [insertByLength]
  | cons t texts ih =>
    rw [insertByLength]
    split
    case isTrue => exact List.nodup_cons.2 ⟨hnew, h⟩
    case isFalse =>
      obtain ⟨ht, h⟩ := List.nodup_cons.1 h
      obtain ⟨hne, hnew⟩ := not_or.1 (mt List.mem_cons.2 hnew)
      refine List.nodup_cons.2 ⟨?_, ih h hnew⟩
      rw [mem_insertByLength]
      exact not_or.2 ⟨Ne.symm hne, ht⟩

theorem sorted_insertByLength (h : texts.Pairwise (·.length ≤ ·.length)) (new : List Char) :
    (insertByLength new texts).Pairwise (·.length ≤ ·.length) := by
  induction texts with
  | nil => exact List.pairwise_singleton _ new
  | cons t texts ih =>
    obtain ⟨ht, h⟩ := List.pairwise_cons.1 h
    rw [insertByLength]
    split
    case isTrue hlt =>
      refine List.pairwise_cons.2 ⟨?_, List.pairwise_cons.2 ⟨ht, h⟩⟩
      intro other hother
      rcases List.mem_cons.1 hother with rfl | hother
      · exact Nat.le_of_lt hlt
      · exact Nat.le_trans (Nat.le_of_lt hlt) (ht other hother)
    case isFalse hle =>
      refine List.pairwise_cons.2 ⟨?_, ih h⟩
      intro other hother
      rcases mem_insertByLength.1 hother with rfl | hother
      · exact Nat.le_of_not_lt hle
      · exact ht other hother

namespace Orderly

theorem empty : Orderly .empty := ⟨List.nodup_nil, .nil, by simp⟩

theorem add (h : Orderly folders) (uri : Uri) : Orderly (folders.add uri) := by
  have hslash : ∀ text ∈ (folders.add uri).texts, text.getLast? = some '/' := by
    intro text htext
    rcases mem_texts_add.1 htext with rfl | htext
    · exact Root.getLast?_slashed _
    · exact h.slash text htext
  by_cases hmem : Root.slashed uri.chars ∈ folders.texts
  · rwa [Folders.add, if_pos hmem]
  · have hadd : (folders.add uri).texts =
        insertByLength (Root.slashed uri.chars) folders.texts := by
      rw [Folders.add, if_neg hmem]
    refine ⟨?_, ?_, hslash⟩
    · rw [hadd]
      exact nodup_insertByLength h.nodup hmem
    · rw [hadd]
      exact sorted_insertByLength h.sorted _

theorem remove (h : Orderly folders) (uri : Uri) : Orderly (folders.remove uri) where
  nodup := h.nodup.filter _
  sorted := h.sorted.filter _
  slash text htext := h.slash text (mem_texts_remove.1 htext).1

theorem change (h : Orderly folders) (c : Change) : Orderly (folders.change c) := by
  cases c with
  | add uri => exact h.add uri
  | remove uri => exact h.remove uri

theorem foldl_add (h : Orderly folders) (uris : List Uri) :
    Orderly (uris.foldl Folders.add folders) := by
  induction uris generalizing folders with
  | nil => exact h
  | cons uri uris ih => exact ih (h.add uri)

theorem foldl_change (h : Orderly folders) (changes : List Change) :
    Orderly (changes.foldl Folders.change folders) := by
  induction changes generalizing folders with
  | nil => exact h
  | cons c changes ih => exact ih (h.change c)

end Orderly

theorem orderly_after (uris : List Uri) (changes : List Change) : Orderly (after uris changes) :=
  (Orderly.empty.foldl_add uris).foldl_change changes

theorem mem_texts_change {opened : Set (List Char)}
    (h : ∀ text, text ∈ folders.texts ↔ text ∈ opened) (c : Change) :
    text ∈ (folders.change c).texts ↔ text ∈ c.onSet opened := by
  cases c with
  | add uri => simp [change, Change.onSet, h]
  | remove uri => simp [change, Change.onSet, h]

/-- The list holds just the open folders. -/
theorem mem_texts_after (uris : List Uri) (changes : List Change) (text : List Char) :
    text ∈ (after uris changes).texts ↔ text ∈ openAfter uris changes := by
  have hrun {folders : Folders} {opened : Set (List Char)} (h : ∀ text, text ∈ folders.texts ↔
      text ∈ opened) :
      text ∈ (changes.foldl change folders).texts ↔ text ∈ changes.foldl Change.onSet opened := by
    induction changes generalizing folders opened with
    | nil => exact h text
    | cons c changes ih => exact ih fun _ => mem_texts_change h c
  exact hrun fun _ => mem_texts_ofList

/-! ## The root -/

theorem Outermost.eq {opened : Set (List Char)} {other : List Char}
    (h : Outermost opened document text) (ho : Outermost opened document other) : text = other :=
  have hle : text.length ≤ other.length := (h.2.2 other ho.1 ho.2.1).length_le
  (ho.2.2 text h.1 h.2.1).eq_of_length_le hle |>.symm

/-- In a list with the shortest folders first, the first one that holds a document is the
outermost. -/
theorem Orderly.outermost_of_find? (h : Orderly folders)
    (hfind : folders.texts.find? (·.isPrefixOf document.chars) = some text) :
    Outermost {t | t ∈ folders.texts} document text := by
  obtain ⟨hp, before, later, htexts, hbefore⟩ := List.find?_eq_some_iff_append.1 hfind
  have hholds : text <+: document.chars := List.isPrefixOf_iff_prefix.1 hp
  refine ⟨List.mem_of_find?_eq_some hfind, hholds, ?_⟩
  intro other (hother : other ∈ folders.texts) hotherHolds
  have hlength : text.length ≤ other.length := by
    have hsorted := h.sorted
    rw [htexts, List.mem_append, List.mem_cons] at hother
    rw [htexts, List.pairwise_append, List.pairwise_cons] at hsorted
    rcases hother with hother | rfl | hother
    · -- a folder before it does not hold the document
      have hno := hbefore other hother
      simp [List.isPrefixOf_iff_prefix.2 hotherHolds] at hno
    · exact Nat.le_refl _
    · exact hsorted.2.1.1 other hother
  exact List.prefix_of_prefix_length_le hholds hotherHolds hlength

theorem root?_of_file (h : document.scheme = Uri.fileScheme) :
    folders.root? document = (folders.texts.find? (·.isPrefixOf document.chars)).map .folder := by
  have hne : document.scheme ≠ "untitled".toList := by
    rw [h]
    decide
  rw [root?, if_neg hne, if_pos h]

theorem root?_eq_none (h : document.scheme = Uri.fileScheme) :
    folders.root? document = none ↔ ∀ text ∈ folders.texts, ¬text <+: document.chars := by
  rw [root?_of_file h, Option.map_eq_none_iff, List.find?_eq_none]
  simp only [List.isPrefixOf_iff_prefix]

theorem Orderly.root?_eq_folder (ho : Orderly folders) (h : document.scheme = Uri.fileScheme) :
    folders.root? document = some (.folder text) ↔
      Outermost {t | t ∈ folders.texts} document text := by
  rw [root?_of_file h]
  cases hfind : folders.texts.find? (·.isPrefixOf document.chars) with
  | none =>
    rw [List.find?_eq_none] at hfind
    constructor
    · simp
    · intro hout
      exact absurd (List.isPrefixOf_iff_prefix.2 hout.2.1) (hfind text hout.1)
  | some found =>
    have hout := ho.outermost_of_find? hfind
    constructor
    · intro heq
      cases heq
      exact hout
    · intro hother
      rw [hother.eq hout]
      rfl

/-- Folders that are the same as a set give the same roots, in whatever order they are kept. -/
theorem Orderly.root?_congr {other : Folders} (ho : Orderly folders) (hother : Orderly other)
    (h : ∀ text, text ∈ other.texts ↔ text ∈ folders.texts) (document : Uri) :
    other.root? document = folders.root? document := by
  by_cases hfile : document.scheme = Uri.fileScheme
  · have hset : {t | t ∈ other.texts} = {t | t ∈ folders.texts} := Set.ext h
    cases hroot : folders.root? document with
    | none =>
      rw [root?_eq_none hfile] at hroot ⊢
      exact fun text htext => hroot text ((h text).1 htext)
    | some root =>
      cases root with
      | untitled => simp [root?_of_file hfile] at hroot
      | folder text =>
        rwa [ho.root?_eq_folder hfile, ← hset, ← hother.root?_eq_folder hfile] at hroot
  · rw [root?, root?, if_neg hfile, if_neg hfile]

/-- After every history of opening and closing, the list of folders is in order, and the root of a
file is the outermost open folder that holds it. So the roots of all documents depend on the set of
open folders alone. -/
theorem root?_after (uris : List Uri) (changes : List Change) :
    let folders := after uris changes
    let opened := openAfter uris changes
    (folders.texts.Nodup ∧ folders.texts.Pairwise (·.length ≤ ·.length) ∧
        ∀ text ∈ folders.texts, text.getLast? = some '/') ∧
      (∀ text, text ∈ folders.texts ↔ text ∈ opened) ∧
      (∀ document : Uri, document.scheme = Uri.fileScheme →
        (∀ text, folders.root? document = some (.folder text) ↔ Outermost opened document text) ∧
        (folders.root? document = none ↔ ∀ text ∈ opened, ¬text <+: document.chars)) ∧
      ∀ otherUris otherChanges, openAfter otherUris otherChanges = opened →
        ∀ document, (after otherUris otherChanges).root? document = folders.root? document := by
  intro folders opened
  have ho : Orderly folders := orderly_after uris changes
  have hmem : ∀ text, text ∈ folders.texts ↔ text ∈ opened := mem_texts_after uris changes
  have hset : {t | t ∈ folders.texts} = opened := Set.ext hmem
  refine ⟨⟨ho.nodup, ho.sorted, ho.slash⟩, hmem, ?_, ?_⟩
  · intro document hfile
    refine ⟨fun text => ?_, ?_⟩
    · rw [ho.root?_eq_folder hfile, hset]
    · rw [root?_eq_none hfile]
      simp only [hmem]
  · intro otherUris otherChanges heq document
    refine ho.root?_congr (orderly_after otherUris otherChanges) (fun text => ?_) document
    rw [mem_texts_after, heq, hmem]

theorem root?_after_nested : ∃ outer inner document : Uri,
    outer.text = "file:///work/game" ∧ inner.text = "file:///work/game/engine" ∧
    document.text = "file:///work/game/engine/render.das" ∧ document.scheme = Uri.fileScheme ∧
    openAfter [outer] [.add inner] = openAfter [inner] [.remove outer, .add outer] ∧
    (after [inner] [.remove outer, .add outer]).root? document = some (.ofFolder outer) ∧
    (after [outer] [.add inner]).root? document =
      (after [inner] [.remove outer, .add outer]).root? document := by
  let outer := Uri.ofSegments ["work".toList, "game".toList]
  let inner := Uri.ofSegments ["work".toList, "game".toList, "engine".toList]
  let document :=
    Uri.ofSegments ["work".toList, "game".toList, "engine".toList, "render.das".toList]
  have hset : openAfter [outer] [.add inner] = openAfter [inner] [.remove outer, .add outer] := by
    ext text
    simp only [openAfter, Change.onSet, List.foldl_cons, List.foldl_nil, List.mem_singleton,
      exists_eq_left]
    grind
  have hout : Outermost (openAfter [inner] [.remove outer, .add outer]) document
      (Root.slashed outer.chars) := by
    refine ⟨.inl rfl, by decide, ?_⟩
    rintro other (rfl | ⟨⟨_, hinner, rfl⟩, -⟩) -
    · exact List.prefix_rfl
    · rw [List.mem_singleton.1 hinner]
      decide
  exact ⟨outer, inner, document, by decide, by decide, by decide, rfl, hset,
    (((root?_after [inner] [.remove outer, .add outer]).2.2.1 document rfl).1 _).2 hout,
    (root?_after [inner] [.remove outer, .add outer]).2.2.2 _ _ hset document⟩

end Folders

end EditorBridge
