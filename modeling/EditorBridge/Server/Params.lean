import EditorBridge.Server.Abilities

/-!
# Parameters

The values that come with messages. A message with parameters of another form is not understood.
-/

namespace EditorBridge

/-- The document of a message. -/
def Uri.documentReader : Reader Uri :=
  Reader.required ["uri"] [.of "uri" Uri.reader fun x _ => x] default

/-- A place in a document. -/
structure DocumentPosition where
  uri : Uri
  position : Position
deriving DecidableEq, Repr, Inhabited

/-- A folder of the workspace. -/
def Uri.folderReader : Reader Uri :=
  Reader.required ["uri", "name"] [.of "uri" Uri.reader fun x _ => x,
    .checked "name" Reader.string] default

namespace Params

/-- Reads a mark under which something is told. -/
def markReader : Reader Unit :=
  Reader.orElse (Entry.discard Reader.int32) (Entry.discard Reader.string)

/-- A field with a mark under which something is told. -/
def mark {ρ : Type} (name : String) : Field ρ := .checked name (Reader.optional markReader)

/-- The mark under which progress is told. -/
def workMark {ρ : Type} : Field ρ := mark "workDoneToken"

/-- The mark under which parts of a result are told. -/
def partsMark {ρ : Type} : Field ρ := mark "partialResultToken"

/-- The marks under which progress and parts of a result are told. -/
def progress {ρ : Type} : List (Field ρ) := [workMark, partsMark]

/-- Reads a place in a document, with further fields. -/
def place (more : List (Field DocumentPosition)) : Reader DocumentPosition :=
  Reader.named ["textDocument", "position"]
    ([.of "textDocument" Uri.documentReader fun x r => { r with uri := x },
      .of "position" Position.reader fun x r => { r with position := x }] ++ more) default

/-- Reads the place of a hover. -/
def hoverPlace : Reader DocumentPosition := place [workMark]

/-- Reads the place of a definition. -/
def definitionPlace : Reader DocumentPosition := place progress

/-- Reads the place of a completion. -/
def completionPlace : Reader DocumentPosition :=
  place <| progress ++ [.checked "context" (Reader.optional (Form.reader
    [.must "triggerKind" Reader.int32, .text "triggerCharacter"]))]

/-- Reads the label of a parameter: its text, or where that starts and ends in the label of the
signature. -/
def parameterLabel : Reader Unit :=
  Reader.orElse (Entry.discard Reader.string) (Form.elements [Reader.nat32, Reader.nat32])

/-- Reads a signature. -/
def signature : Reader Unit :=
  let parameter :=
    Form.reader [.must "label" parameterLabel, .may "documentation" Documentation.reader]
  Form.reader
    [.must "label" Reader.string, .may "documentation" Documentation.reader,
     .may "parameters" (Reader.list parameter), .may "activeParameter" Reader.nat32]

/-- Reads the place of a signature help. -/
def signaturePlace : Reader DocumentPosition :=
  let help := Form.reader
    [.must "signatures" (Reader.list signature), .may "activeSignature" Reader.nat32,
     .may "activeParameter" Reader.nat32]
  place [workMark, .checked "context" (Reader.optional (Form.reader
    [.must "triggerKind" Reader.int32, .text "triggerCharacter", .must "isRetrigger" Reader.bool,
     .may "activeSignatureHelp" help]))]

/-- A document and its text. -/
structure DocumentText where
  uri : Uri
  text : Option String
deriving DecidableEq, Repr, Inhabited

/-- Reads an opened document. -/
def opened : Reader DocumentText :=
  let item := Reader.required ["uri", "languageId", "version", "text"]
    [.of "uri" Uri.reader fun x r => { r with uri := x }, .checked "languageId" Reader.string,
     .checked "version" Reader.int32, .of "text" Reader.string fun x r => { r with text := some x }]
    (default : DocumentText)
  Reader.required ["textDocument"] [.of "textDocument" item fun x _ => x] default

/-- Reads a changed document. Each change gives the whole text, so that the last one counts. -/
def changed : Reader DocumentText :=
  let document := Reader.required ["uri", "version"]
    [.of "uri" Uri.reader fun x _ => x, .checked "version" Reader.int32] (default : Uri)
  let change := Reader.required ["text"]
    [.checked "range" (Reader.optional Range.reader),
     .checked "rangeLength" (Reader.optional Reader.nat32),
     .of "text" Reader.string fun x _ => x] ""
  Reader.required ["textDocument", "contentChanges"]
    [.of "textDocument" document fun x r => { r with uri := x },
     .of "contentChanges" (Reader.list change) fun x r => { r with text := x.getLast? }] default

/-- Reads a saved document. -/
def saved : Reader DocumentText :=
  Reader.required ["textDocument"]
    [.of "textDocument" Uri.documentReader fun x r => { r with uri := x },
     .of "text" (Reader.optional Reader.string) fun x r => { r with text := x }] default

/-- Reads a closed document. -/
def closed : Reader Uri :=
  Reader.required ["textDocument"] [.of "textDocument" Uri.documentReader fun x _ => x] default

/-- Reads changed settings. -/
def settings : Reader Json :=
  Reader.required ["settings"] [.of "settings" Tree.toJson fun x _ => x] .null

/-- Reads the folders that are added and removed. -/
def folders : Reader (List Uri × List Uri) :=
  let event := Reader.required ["added", "removed"]
    [.of "added" (Reader.list Uri.folderReader) fun x r => (x, r.2),
     .of "removed" (Reader.list Uri.folderReader) fun x r => (r.1, x)] ([], [])
  Reader.required ["event"] [.of "event" event fun x _ => x] ([], [])

/-- What an editor can do, and the folders it has open. -/
structure Introduction where
  abilities : Abilities := {}
  folders : List Uri := []
deriving DecidableEq, Repr, Inhabited

/-- Reads how an editor introduces itself. -/
def introduction : Reader Introduction :=
  let client := Form.reader [.must "name" Reader.string, .text "version"]
  Reader.required ["capabilities"]
    [.checked "processId" (Reader.optional Reader.nat32),
     .checked "rootPath" (Reader.optional Reader.string),
     .checked "rootUri" (Reader.optional Uri.reader),
     .checked "initializationOptions" Tree.toJson,
     .of "capabilities" Abilities.reader fun x r => { r with abilities := x },
     .checked "trace" (Reader.optional (Abilities.oneOf ["off", "messages", "verbose"])),
     .of "workspaceFolders" (Reader.optional (Reader.list Uri.folderReader)) fun x r =>
       { r with folders := x.getD [] },
     .checked "clientInfo" (Reader.optional client),
     .checked "locale" (Reader.optional Reader.string)] {}

end Params

end EditorBridge
