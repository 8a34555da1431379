import EditorBridge.Text.Split

/-!
# Tables of characters

Properties of characters are given as lines of text: entries between blanks, each of which consists
of hexadecimal numbers between commas.
-/

namespace EditorBridge.Text

/-- The value of a hexadecimal digit in lower case. -/
def digitValue (c : Char) : Nat := if c.isDigit then c.toNat - 48 else c.toNat - 87

/-- The value of a hexadecimal number in lower case. -/
def hexadecimal (digits : List Char) : Nat := digits.foldl (fun n c => n * 16 + digitValue c) 0

/-- The entries of a table. -/
def rows (table : List String) : List (List Nat) :=
  table.flatMap fun line =>
    (split (· = ' ') line.toList).map fun entry => (split (· = ',') entry).map hexadecimal

/-- A set of characters, by ranges of code points. -/
structure CharSet where
  ranges : List (Nat × Nat)
deriving Repr, Inhabited

namespace CharSet

/-- The set that a table gives by the first and the last character of each range. A range of one
character is given by that character. -/
def ofTable (table : List String) : CharSet :=
  ⟨(rows table).map fun row => (row.headD 0, row.getLastD 0)⟩

/-- Whether a character is in a set. -/
def contains (s : CharSet) (c : Char) : Bool :=
  s.ranges.any fun (first, last) => first ≤ c.toNat && c.toNat ≤ last

end CharSet

end EditorBridge.Text
