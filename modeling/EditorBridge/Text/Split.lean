/-!
# Cutting and joining text

Texts are handled as lists of characters: cutting at separators, cutting into lines, joining with a
separator, and finding or replacing a fixed piece.
-/

namespace EditorBridge.Text

/-- The pieces between the characters that satisfy `p`. There is always at least one piece. -/
def split (p : Char → Bool) : List Char → List (List Char)
  | [] => [[]]
  | c :: cs =>
    if p c then [] :: split p cs
    else
      match split p cs with
      | [] => [[c]]
      | piece :: rest => (c :: piece) :: rest

/-- The texts in order with a separator between neighbours. -/
def join (sep : List Char) : List (List Char) → List Char
  | [] => []
  | [piece] => piece
  | piece :: rest => piece ++ sep ++ join sep rest

/-- A text without one final carriage return. -/
def dropFinalReturn (cs : List Char) : List Char :=
  if cs.getLast? = some '\r' then cs.dropLast else cs

/-- The lines of a text. A line ends at a line feed, which may have a carriage return before it;
what follows the last line feed is a line of its own unless it is empty. -/
def lines (cs : List Char) : List (List Char) :=
  let pieces := split (· = '\n') cs
  let last := (pieces.getLast?.getD [])
  pieces.dropLast.map dropFinalReturn ++ (if last = [] then [] else [last])

/-- What follows `pat` in a text that begins with it. -/
def dropPrefix? : (pat cs : List Char) → Option (List Char)
  | [], cs => some cs
  | _ :: _, [] => none
  | p :: pat, c :: cs => if p = c then dropPrefix? pat cs else none

/-- Whether a text begins with `pat`. -/
def startsWith (pat cs : List Char) : Bool := (dropPrefix? pat cs).isSome

/-- Whether `pat` stands somewhere in a text. -/
def contains (pat : List Char) : List Char → Bool
  | [] => pat.isEmpty
  | c :: cs => startsWith pat (c :: cs) || contains pat cs

/-- Replaces occurrences of `pat` from the left, while `skip` more characters belong to the
occurrence replaced last. -/
def replaceFrom (pat new : List Char) : (skip : Nat) → List Char → List Char
  | _, [] => []
  | skip + 1, _ :: cs => replaceFrom pat new skip cs
  | 0, c :: cs =>
    if startsWith pat (c :: cs) then new ++ replaceFrom pat new (pat.length - 1) cs
    else c :: replaceFrom pat new 0 cs

/-- The text with every occurrence of `pat`, found from the left without overlap, replaced by `new`.
The pattern is not empty. -/
def replace (pat new cs : List Char) : List Char := replaceFrom pat new 0 cs

@[simp] theorem dropPrefix?_nil (cs : List Char) : dropPrefix? [] cs = some cs := rfl

@[simp] theorem join_nil (sep : List Char) : join sep [] = [] := rfl

@[simp] theorem join_singleton (sep piece : List Char) : join sep [piece] = piece := rfl

@[simp] theorem join_cons_cons (sep piece next : List Char) (rest : List (List Char)) :
    join sep (piece :: next :: rest) = piece ++ sep ++ join sep (next :: rest) := rfl

theorem dropPrefix?_eq_some {pat cs rest : List Char} :
    dropPrefix? pat cs = some rest ↔ cs = pat ++ rest := by
  induction pat generalizing cs with
  | nil => simp
  | cons p pat ih =>
    cases cs with
    | nil => simp [dropPrefix?]
    | cons c cs =>
      by_cases h : p = c
      · simp [dropPrefix?, h, ih]
      · simp [dropPrefix?, h, Ne.symm h]

theorem split_ne_nil (p : Char → Bool) (cs : List Char) : split p cs ≠ [] := by
  cases cs with
  | nil => simp [split]
  | cons c cs =>
    rw [split]
    split
    · simp
    · split <;> simp

/-- Nothing is lost by cutting at a separator. -/
theorem join_split (sep : Char) (cs : List Char) : join [sep] (split (· = sep) cs) = cs := by
  induction cs with
  | nil => rfl
  | cons c cs ih =>
    obtain ⟨piece, rest, hs⟩ := List.exists_cons_of_ne_nil (split_ne_nil (· = sep) cs)
    rw [hs] at ih
    by_cases hc : c = sep
    · simp [split, hs, hc, ih]
    · cases rest with
      | nil => simp_all [split]
      | cons next rest => simp_all [split]

end EditorBridge.Text
