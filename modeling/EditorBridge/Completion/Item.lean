import EditorBridge.Compiler.Output
import EditorBridge.Json.Recovery
import EditorBridge.Span

/-!
# Completion items

What an editor offers to complete a word with, as a compiler reports it.
-/

namespace EditorBridge

namespace Position

/-- The fields of a position in their order. -/
def fields : List (Field Position) :=
  [.of "line" Reader.nat32 fun x r => { r with line := .ofNat x },
   .of "character" Reader.nat32 fun x r => { r with character := .ofNat x }]

/-- Reads a position in a document. -/
def reader : Reader Position := Reader.required ["line", "character"] fields .origin

end Position

namespace Range

/-- The fields of a range in their order. -/
def fields : List (Field Range) :=
  [.of "start" Position.reader fun x r => { r with start := x },
   .of "end" Position.reader fun x r => { r with stop := x }]

/-- Reads a range in a document. -/
def reader : Reader Range := Reader.required ["start", "end"] fields .origin

end Range

/-- A change of text. -/
structure TextEdit where
  range : Range := .origin
  newText : String := ""
deriving DecidableEq, Repr, Inhabited

/-- A change of text that either inserts or replaces. -/
structure InsertReplaceEdit where
  newText : String := ""
  insert : Range := .origin
  replace : Range := .origin
deriving DecidableEq, Repr, Inhabited

/-- The change an item makes. -/
inductive ItemEdit where
  | plain (value : TextEdit)
  | either (value : InsertReplaceEdit)
deriving DecidableEq, Repr

/-- The format of documentation. -/
inductive MarkupKind where
  | plaintext
  | markdown
deriving DecidableEq, Repr, Inhabited

/-- The documentation of an item. -/
inductive Documentation where
  | text (value : String)
  | markup (kind : MarkupKind) (value : String)
deriving DecidableEq, Repr

/-- What is shown beside an item. -/
structure LabelDetails where
  detail : Option String := none
  description : Option String := none
deriving DecidableEq, Repr, Inhabited

/-- What an editor runs after it has taken an item. -/
structure ItemCommand where
  title : String := ""
  command : String := ""
  arguments : Option (List Json) := none
deriving Repr, Inhabited

/-- A completion item. -/
structure CompletionItem where
  label : String := ""
  labelDetails : Option LabelDetails := none
  kind : Option Int := none
  detail : Option String := none
  documentation : Option Documentation := none
  deprecated : Option Bool := none
  preselect : Option Bool := none
  sortText : Option String := none
  filterText : Option String := none
  insertText : Option String := none
  insertTextFormat : Option Int := none
  insertTextMode : Option Int := none
  textEdit : Option ItemEdit := none
  additionalTextEdits : Option (List TextEdit) := none
  command : Option ItemCommand := none
  commitCharacters : Option (List String) := none
  data : Option Json := none
  tags : Option (List Int) := none
deriving Repr, Inhabited

namespace TextEdit

/-- The fields of a change in their order. -/
def fields : List (Field TextEdit) :=
  [.of "range" Range.reader fun x r => { r with range := x },
   .of "newText" Reader.string fun x r => { r with newText := x }]

/-- Reads a change. -/
def reader : Reader TextEdit := Reader.required ["range", "newText"] fields {}

/-- The change as JSON. -/
def toJson (e : TextEdit) : Json :=
  .ofMembers [("range", e.range.toJson), ("newText", .string e.newText)]

end TextEdit

namespace InsertReplaceEdit

/-- The fields of a change in their order. -/
def fields : List (Field InsertReplaceEdit) :=
  [.of "newText" Reader.string fun x r => { r with newText := x },
   .of "insert" Range.reader fun x r => { r with insert := x },
   .of "replace" Range.reader fun x r => { r with replace := x }]

/-- Reads a change. -/
def reader : Reader InsertReplaceEdit := Reader.required ["newText", "insert", "replace"] fields {}

/-- The change as JSON. -/
def toJson (e : InsertReplaceEdit) : Json :=
  .ofMembers [("newText", .string e.newText), ("insert", e.insert.toJson),
    ("replace", e.replace.toJson)]

end InsertReplaceEdit

namespace ItemEdit

/-- Reads the change of an item. -/
def reader : Reader ItemEdit :=
  Reader.orElse (fun t => ItemEdit.plain <$> TextEdit.reader t)
    (fun t => ItemEdit.either <$> InsertReplaceEdit.reader t)

/-- The change as JSON. -/
def toJson : ItemEdit → Json
  | .plain e => e.toJson
  | .either e => e.toJson

end ItemEdit

namespace MarkupKind

/-- The name of a format. -/
def name : MarkupKind → String
  | .plaintext => "plaintext"
  | .markdown => "markdown"

/-- The format with a name. -/
def ofName? (s : String) : Option MarkupKind := [plaintext, markdown].find? (·.name = s)

/-- Reads the name of a format. -/
def reader : Reader MarkupKind := Reader.choice ofName?

end MarkupKind

namespace Documentation

/-- The fields of formatted documentation in their order. -/
def fields : List (Field (MarkupKind × String)) :=
  [.of "kind" MarkupKind.reader fun x r => (x, r.2), .of "value" Reader.string fun x r => (r.1, x)]

/-- Reads documentation. -/
def reader : Reader Documentation :=
  Reader.orElse (fun t => Documentation.text <$> Reader.string t) (fun t => do
    let (kind, value) ← Reader.required ["kind", "value"] fields (.plaintext, "") t
    return .markup kind value)

/-- The documentation as JSON. -/
def toJson : Documentation → Json
  | .text s => .string s
  | .markup kind value => .ofMembers [("kind", .string kind.name), ("value", .string value)]

/-- The text of documentation. -/
def value : Documentation → String
  | .text s => s
  | .markup _ s => s

end Documentation

namespace LabelDetails

/-- The fields of label details in their order. -/
def fields : List (Field LabelDetails) :=
  [.of "detail" (Reader.optional Reader.string) fun x r => { r with detail := x },
   .of "description" (Reader.optional Reader.string) fun x r => { r with description := x }]

/-- Reads label details. -/
def reader : Reader LabelDetails := Reader.required [] fields {}

/-- The label details as JSON. -/
def toJson (d : LabelDetails) : Json :=
  .ofPresent [("detail", d.detail.map .string), ("description", d.description.map .string)]

end LabelDetails

namespace ItemCommand

/-- The fields of a command in their order. -/
def fields : List (Field ItemCommand) :=
  [.of "title" Reader.string fun x r => { r with title := x },
   .of "command" Reader.string fun x r => { r with command := x },
   .of "arguments" (Reader.optional (Reader.list Tree.toJson)) fun x r => { r with arguments := x }]

/-- Reads a command. -/
def reader : Reader ItemCommand := Reader.required ["title", "command"] fields {}

/-- The command as JSON. -/
def toJson (c : ItemCommand) : Json :=
  .ofPresent [("title", some (.string c.title)), ("command", some (.string c.command)),
    ("arguments", c.arguments.map .array)]

end ItemCommand

namespace CompletionItem

/-- The fields of an item in their order. -/
def fields : List (Field CompletionItem) :=
  let text := Reader.optional Reader.string
  let flag := Reader.optional Reader.bool
  let number := Reader.optional Reader.int32
  [.of "label" Reader.string fun x r => { r with label := x },
   .of "labelDetails" (Reader.optional LabelDetails.reader) fun x r => { r with labelDetails := x },
   .of "kind" number fun x r => { r with kind := x },
   .of "detail" text fun x r => { r with detail := x },
   .of "documentation" (Reader.optional Documentation.reader) fun x r =>
     { r with documentation := x },
   .of "deprecated" flag fun x r => { r with deprecated := x },
   .of "preselect" flag fun x r => { r with preselect := x },
   .of "sortText" text fun x r => { r with sortText := x },
   .of "filterText" text fun x r => { r with filterText := x },
   .of "insertText" text fun x r => { r with insertText := x },
   .of "insertTextFormat" number fun x r => { r with insertTextFormat := x },
   .of "insertTextMode" number fun x r => { r with insertTextMode := x },
   .of "textEdit" (Reader.optional ItemEdit.reader) fun x r => { r with textEdit := x },
   .of "additionalTextEdits" (Reader.optional (Reader.list TextEdit.reader)) fun x r =>
     { r with additionalTextEdits := x },
   .of "command" (Reader.optional ItemCommand.reader) fun x r => { r with command := x },
   .of "commitCharacters" (Reader.optional (Reader.list Reader.string)) fun x r =>
     { r with commitCharacters := x },
   .of "data" (Reader.optional Tree.toJson) fun x r => { r with data := x },
   .of "tags" (Reader.optional (Reader.list Reader.int32)) fun x r => { r with tags := x }]

/-- Reads an item, which has a label at least. -/
def reader : Reader CompletionItem := Reader.required ["label"] fields {}

/-- The item as JSON, without what is absent. -/
def toJson (i : CompletionItem) : Json :=
  .ofPresent
    [("label", some (.string i.label)),
     ("labelDetails", i.labelDetails.map LabelDetails.toJson),
     ("kind", i.kind.map .int),
     ("detail", i.detail.map .string),
     ("documentation", i.documentation.map Documentation.toJson),
     ("deprecated", i.deprecated.map .bool),
     ("preselect", i.preselect.map .bool),
     ("sortText", i.sortText.map .string),
     ("filterText", i.filterText.map .string),
     ("insertText", i.insertText.map .string),
     ("insertTextFormat", i.insertTextFormat.map .int),
     ("insertTextMode", i.insertTextMode.map .int),
     ("textEdit", i.textEdit.map ItemEdit.toJson),
     ("additionalTextEdits", i.additionalTextEdits.map fun l => .array (l.map TextEdit.toJson)),
     ("command", i.command.map ItemCommand.toJson),
     ("commitCharacters", i.commitCharacters.map fun l => .array (l.map .string)),
     ("data", i.data),
     ("tags", i.tags.map fun l => .array (l.map .int))]

/-- The items of which an entry is well formed. -/
def ofEntries (entries : List Json) : List CompletionItem :=
  entries.filterMap (reader.json · |>.toOption)

/-- The items in a compiler's output, if it has a list of them. -/
def collect? (output : List Char) : Option (List CompletionItem) :=
  match Recovery.read CompilerOutput.reader output with
  | .ok parsed => parsed.items.map ofEntries
  | .error _ => none

end CompletionItem

end EditorBridge
