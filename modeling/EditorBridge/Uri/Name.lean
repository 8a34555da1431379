import EditorBridge.Text.Split
import EditorBridge.Uri.Name.Direction
import EditorBridge.Uri.Name.Joiner
import EditorBridge.Uri.Name.Mapping
import EditorBridge.Uri.Name.Punycode

/-!
# Names of hosts

Names of hosts in all scripts and their form in ASCII. Characters are replaced by those they stand
for, and labels with characters outside of ASCII are written in ASCII.
-/

namespace EditorBridge.Uri.Name

/-- A label of a host name, and the text for it in ASCII. -/
structure Label where
  chars : List Char
  ascii : List Char
deriving DecidableEq, Repr

/-- Whether a text is ASCII. -/
def isAscii (cs : List Char) : Bool := cs.all (·.toNat < 0x80)

/-- What a label in ASCII begins with if it stands for another one. -/
def mark : List Char := ['x', 'n', '-', '-']

/-- The longest label that is written in ASCII, and the longest text for one. -/
def longestLabel : Nat := 1000

/-- Reads a label after its characters are replaced. -/
def Label.read? (text : List Char) : Option Label := do
  match Text.dropPrefix? mark text with
  | some code =>
    if text.length > 2 * longestLabel then none
    let chars ← Punycode.decode? code
    if isAscii chars ∨ Text.normal chars ≠ chars ∨ !chars.all isPlain then none
    return ⟨chars, text⟩
  | none =>
    if isAscii text then return ⟨text, text⟩
    if text.length > longestLabel then none
    return ⟨text, mark ++ Punycode.encode text⟩

/-- Whether a label is one that can be seen for what it is: it does not begin with a mark, and its
joiners make a difference. -/
def Label.isProper (label : Label) : Bool :=
  !(label.chars.head?.any marks.contains) && isJoined [] label.chars

/-- The labels of a host name. `denied` says which ASCII characters they must not hold. If some
characters are written from right to left, all labels must be told apart. -/
def labels? (denied : Char → Bool) (name : List Char) : Option (List Label) := do
  let chars := Text.normal (← name.mapM mapChar?).flatten
  let labels ← (Text.split (· = '.') chars).mapM Label.read?
  let isMixed := labels.any fun label =>
    !isAscii label.chars && label.chars.any (Direction.ofChar · |>.isForeign)
  let isRight (label : Label) : Bool :=
    !label.chars.any denied && (isAscii label.chars || label.isProper) &&
      (!isMixed || isDirected label.chars)
  if labels.all isRight then some labels else none

/-- The host name in ASCII, if it is one. -/
def ascii? (denied : Char → Bool) (name : List Char) : Option (List Char) :=
  (labels? denied name).map fun labels => Text.join ['.'] (labels.map (·.ascii))

end EditorBridge.Uri.Name
