import EditorBridge.Completion.Item
import EditorBridge.Text.Blank
import EditorBridge.Text.Split

/-!
# Documentation and signatures

What a list of completion items says about a function, a type, or the call around a position in a
text.
-/

namespace EditorBridge

namespace Documentation

/-- Whether a line opens or closes a block of code. -/
def isFence (line : List Char) : Bool :=
  Text.startsWith ['\x60', '\x60', '\x60'] (Text.trimStart line)

/-- The lines of documentation, without those around blocks of code. -/
def plainLines (d : Documentation) : List (List Char) :=
  (Text.lines d.value.toList).filter (!isFence ·)

/-- The text of documentation, without the lines around blocks of code. -/
def plainText (d : Documentation) : List Char := Text.join ['\n'] d.plainLines

end Documentation

/-- The completion items an editor is offered. -/
abbrev CompletionList := List CompletionItem

namespace CompletionList

/-- The documentation of the items whose filter text satisfies `p`. -/
def documentationWhere (items : CompletionList) (p : List Char → Bool) : List (List Char) :=
  (items.filter fun i => (i.filterText.map fun s => p s.toList).getD false).filterMap fun i =>
    i.documentation.map (·.plainText)

/-- The documentation of a function. -/
def functionDocumentation (items : CompletionList) (name : List Char) : List (List Char) :=
  if name = [] then [] else items.documentationWhere (· = name)

/-- Whether `name` is all of a type's text or its first word. -/
def namesType (type name : List Char) : Bool :=
  !name.isEmpty &&
    match Text.dropPrefix? name type with
    | none => false
    | some rest => rest.isEmpty || rest.head? = some ' '

/-- The documentation of a type. -/
def typeDocumentation (items : CompletionList) (type : List Char) : List (List Char) :=
  if type = [] then [] else items.documentationWhere (namesType type)

/-- Whether `name` is all of a token, or ends in it before an opening parenthesis or a point. -/
def namesToken (token name : List Char) : Bool :=
  !name.isEmpty &&
    match Text.dropPrefix? name token with
    | none => false
    | some rest => rest.isEmpty || rest.head? = some '(' || rest.head? = some '.'

/-- The documentation of the first item that has some and whose key names a token. -/
def documentationFor? (items : CompletionList) (key : CompletionItem → Option String)
    (token : List Char) : Option Documentation :=
  items.findSome? fun i => do
    let documentation ← i.documentation
    let name ← key i
    if namesToken token name.toList then some documentation else none

end CompletionList

namespace Call

/-- The offset of a position in a text: the end of the text if there is no such line, the end of the
line if it is shorter. -/
def offsetAt : (line character : Nat) → List Char → Nat
  | 0, character, cs => min character (cs.takeWhile (· ≠ '\n')).length
  | _ + 1, _, [] => 0
  | line + 1, character, c :: cs =>
    (if c = '\n' then offsetAt line character cs else offsetAt (line + 1) character cs) + 1

/-- Characters that end a token. -/
def isBoundary (c : Char) : Bool := ['\t', '\r', ' ', '\n', '.', '{', ')', ',', '('].contains c

/-- The text, read backwards, before the nearest open parenthesis or double colon. A closing
parenthesis ends the search. The character after the text is `next`. -/
def openBefore? : (next : Option Char) → List Char → Option (List Char)
  | _, [] => none
  | next, c :: rest =>
    if c = '(' ∨ (c = ':' ∧ next = some ':') then some rest
    else if c = ')' then none
    else openBefore? (some c) rest

/-- The token before the innermost open call at an offset. -/
def tokenAt? (cs : List Char) (offset : Nat) : Option (List Char) := do
  let before ← openBefore? (cs.drop offset).head? (cs.take offset).reverse
  let token := (before.takeWhile (!isBoundary ·)).reverse
  if token = [] then none else some token

/-- The token before the innermost open call at a position. -/
def token? (cs : List Char) (p : Position) : Option (List Char) :=
  tokenAt? cs (offsetAt p.line.toNat p.character.toNat cs)

end Call

/-- The signatures of a call, by their labels. -/
structure SignatureHelp where
  labels : List (List Char)
deriving DecidableEq, Repr

namespace SignatureHelp

/-- The signature help as JSON; the first signature and the first parameter are active. -/
def toJson (s : SignatureHelp) : Json :=
  .ofMembers
    [("signatures",
      .array (s.labels.map fun l => .ofMembers [("label", .string (String.ofList l))])),
     ("activeSignature", .nat 0),
     ("activeParameter", .nat 0)]

/-- The signature help of documentation: one signature for each line. -/
def ofDocumentation (d : Documentation) : SignatureHelp := ⟨Text.split (· = '\n') d.plainText⟩

end SignatureHelp

/-- The signatures of the call around a position. Items are looked up by their filter texts, then by
their labels. -/
def CompletionList.signatureHelp? (items : CompletionList) (cs : List Char) (p : Position) :
    Option SignatureHelp := do
  let token ← Call.token? cs p
  let documentation ←
    (items.documentationFor? (·.filterText) token).or
      (items.documentationFor? (fun i => some i.label) token)
  return .ofDocumentation documentation

end EditorBridge
