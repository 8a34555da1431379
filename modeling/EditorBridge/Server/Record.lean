import EditorBridge.Server.Params

/-!
# Records of the protocol

Records that come with requests which are known and not served.
-/

namespace EditorBridge.Params

open Entry

/-- A range, which must be there. -/
def range : Entry := must "range" Range.reader

/-- Reads a place in some document. -/
def location : Reader Unit := Form.reader [must "uri" Uri.reader, range]

/-- Reads a text, or a text in some format. -/
def tooltip : Reader Documentation := Documentation.reader

/-- Reads a diagnostic. -/
def diagnostic : Reader Unit := Form.reader
  [range,
   may "severity" Reader.int32,
   may "code" (Reader.orElse (discard Reader.int32) (discard Reader.string)),
   may "codeDescription" (Form.reader [must "href" Uri.reader]),
   text "source",
   must "message" Reader.string,
   may "relatedInformation"
     (Reader.list (Form.reader [must "location" location, must "message" Reader.string])),
   may "tags" (Reader.list Reader.int32),
   any "data"]

/-- Reads how a file is created or renamed. -/
def creation : Reader Unit := Form.reader [flag "overwrite", flag "ignoreIfExists"]

/-- Reads a change of files: one is created, renamed or deleted. -/
def fileOperation : Reader Unit := Reader.tagged "kind"
  [("create", Form.reader [must "uri" Uri.reader, may "options" creation, text "annotationId"]),
   ("rename", Form.reader
     [must "oldUri" Uri.reader, must "newUri" Uri.reader, may "options" creation,
      text "annotationId"]),
   ("delete", Form.reader
     [must "uri" Uri.reader,
      may "options"
        (Form.reader [flag "recursive", flag "ignoreIfNotExists", text "annotationId"])])]

/-- Reads the changes of a document. -/
def documentEdit : Reader Unit := Form.reader
  [must "textDocument" (Form.reader [must "uri" Uri.reader, may "version" Reader.int32]),
   must "edits" (Reader.list TextEdit.reader)]

/-- Reads a change of many files. -/
def workspaceEdit : Reader Unit := Form.reader
  [may "changes" (Reader.table (fun s => (Uri.ofString? s).isSome) (Reader.list TextEdit.reader)),
   may "documentChanges" (Reader.list (Reader.orElse fileOperation documentEdit)),
   may "changeAnnotations" (Reader.table (fun _ => true) (Form.reader
     [must "label" Reader.string, flag "needsConfirmation", text "description"]))]

/-- Reads a code action. -/
def codeAction : Reader Unit := Form.reader
  [must "title" Reader.string,
   text "kind",
   may "diagnostics" (Reader.list diagnostic),
   may "edit" workspaceEdit,
   may "command" ItemCommand.reader,
   flag "isPreferred",
   may "disabled" (Form.reader [must "reason" Reader.string]),
   any "data"]

/-- Reads an item of a hierarchy, with tags as `readTags` reads them. -/
def hierarchyItem {α : Type} (readTags : Reader α) : Reader Unit := Form.reader
  [must "name" Reader.string, must "kind" Reader.int32, may "tags" readTags, text "detail",
   must "uri" Uri.reader, range, must "selectionRange" Range.reader, any "data"]

/-- Reads a link in a document. -/
def documentLink : Reader Unit :=
  Form.reader [range, may "target" Uri.reader, text "tooltip", any "data"]

/-- Reads a command shown above a line. -/
def codeLens : Reader Unit := Form.reader [range, may "command" ItemCommand.reader, any "data"]

/-- Reads a symbol of a workspace. -/
def workspaceSymbol : Reader Unit := Form.reader
  [must "name" Reader.string, must "kind" Reader.int32, may "tags" (Reader.list Reader.int32),
   text "containerName",
   must "location" (Reader.orElse location (Form.reader [must "uri" Uri.reader])), any "data"]

/-- Reads a hint between the characters of a line. -/
def inlayHint : Reader Unit :=
  let part := Form.reader
    [must "value" Reader.string, may "tooltip" tooltip, may "location" location,
     may "command" ItemCommand.reader]
  Form.reader
    [must "position" Position.reader,
     must "label" (Reader.orElse (discard Reader.string) (discard (Reader.list part))),
     may "kind" Reader.int32,
     may "textEdits" (Reader.list TextEdit.reader),
     may "tooltip" tooltip,
     flag "paddingLeft", flag "paddingRight",
     any "data"]

/-- Reads how a text is laid out. Further options are truth values, integers or texts. -/
def layout : Reader Unit := Form.namedWith
  [must "tabSize" Reader.nat32, must "insertSpaces" Reader.bool, flag "trimTrailingWhitespace",
   flag "insertFinalNewline", flag "trimFinalNewlines"]
  (Reader.orElse (discard Reader.bool)
    (Reader.orElse (discard Reader.int32) (discard Reader.string)))

/-- Reads a colour. -/
def colour : Reader Unit :=
  Form.reader (["red", "green", "blue", "alpha"].map (must · Reader.number))

end EditorBridge.Params
