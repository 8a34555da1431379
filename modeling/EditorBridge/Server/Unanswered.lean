import EditorBridge.Server.Record

/-!
# Messages without an answer

Messages of the protocol that the server knows and does not serve. Their parameters are checked all
the same, since a message that is not understood is refused for another reason than one that is not
served.
-/

namespace EditorBridge.Params

open Entry

/-- The mark under which progress is told, if there is one. -/
def work : Form := [may "workDoneToken" markReader]

/-- The marks under which progress and parts of a result are told. -/
def marks : Form := work ++ [may "partialResultToken" markReader]

/-- A document. -/
def document : Form := [must "textDocument" Uri.documentReader]

/-- A place in a document. -/
def spot : Form := document ++ [must "position" Position.reader]

/-- Reads names of files. -/
def fileNames (names : List String) : Reader Unit :=
  Form.reader [must "files" (Reader.list (Form.reader (names.map (must · Reader.string))))]

/-- Reads an item of a hierarchy of calls, from which one goes on. -/
def callItem : Reader Unit :=
  Form.named (must "item" (hierarchyItem (Reader.list Reader.int32)) :: marks)

/-- Reads an item of a hierarchy of types, from which one goes on. -/
def typeItem : Reader Unit := Form.named (must "item" (hierarchyItem Reader.int32) :: marks)

/-- The requests that are known and not served, with their parameters. -/
def unserved : List (String × Reader Unit) :=
  [("textDocument/declaration", Form.named (spot ++ marks)),
   ("textDocument/typeDefinition", Form.named (spot ++ marks)),
   ("textDocument/implementation", Form.named (spot ++ marks)),
   ("textDocument/references", Form.named (spot ++ marks ++
      [must "context" (Form.reader [must "includeDeclaration" Reader.bool])])),
   ("textDocument/prepareCallHierarchy", Form.named (spot ++ work)),
   ("callHierarchy/incomingCalls", callItem),
   ("callHierarchy/outgoingCalls", callItem),
   ("textDocument/prepareTypeHierarchy", Form.named (spot ++ work)),
   ("typeHierarchy/supertypes", typeItem),
   ("typeHierarchy/subtypes", typeItem),
   ("textDocument/documentHighlight", Form.named (spot ++ marks)),
   ("textDocument/documentLink", Form.named (document ++ marks)),
   ("documentLink/resolve", documentLink),
   ("textDocument/codeLens", Form.named (document ++ marks)),
   ("codeLens/resolve", codeLens),
   ("textDocument/foldingRange", Form.named (document ++ marks)),
   ("textDocument/selectionRange", Form.named (document ++ marks ++
      [must "positions" (Reader.list Position.reader)])),
   ("textDocument/documentSymbol", Form.named (document ++ marks)),
   ("textDocument/semanticTokens/full", Form.named (document ++ marks)),
   ("textDocument/semanticTokens/full/delta", Form.named (document ++ marks ++
      [must "previousResultId" Reader.string])),
   ("textDocument/semanticTokens/range", Form.named (document ++ marks ++ [range])),
   ("textDocument/inlineValue", Form.named (document ++ work ++
      [range, must "context" (Form.reader
        [must "frameId" Reader.int32, must "stoppedLocation" Range.reader])])),
   ("textDocument/inlayHint", Form.named (document ++ work ++ [range])),
   ("inlayHint/resolve", inlayHint),
   ("textDocument/moniker", Form.named (spot ++ marks)),
   ("textDocument/diagnostic",
    Form.named (document ++ marks ++ [text "identifier", text "previousResultId"])),
   ("workspace/diagnostic", Form.named (marks ++
      [text "identifier", must "previousResultIds" (Reader.list (Form.reader
        [must "uri" Uri.reader, must "value" Reader.string]))])),
   ("textDocument/codeAction", Form.named (document ++ marks ++
      [range, must "context" (Form.reader
        [must "diagnostics" (Reader.list diagnostic), may "only" (Reader.list Reader.string),
         may "triggerKind" Reader.int32])])),
   ("codeAction/resolve", codeAction),
   ("textDocument/documentColor", Form.named (document ++ marks)),
   ("textDocument/colorPresentation",
    Form.named (document ++ marks ++ [must "color" colour, range])),
   ("textDocument/formatting", Form.named (document ++ work ++ [must "options" layout])),
   ("textDocument/rangeFormatting",
    Form.named (document ++ work ++ [range, must "options" layout])),
   ("textDocument/onTypeFormatting",
    Form.named (spot ++ [must "ch" Reader.string, must "options" layout])),
   ("textDocument/rename", Form.named (spot ++ work ++ [must "newName" Reader.string])),
   ("textDocument/prepareRename", Form.reader spot),
   ("textDocument/linkedEditingRange", Form.named (spot ++ work)),
   ("textDocument/willSaveWaitUntil", Form.reader (document ++ [must "reason" Reader.int32])),
   ("workspace/symbol", Form.named (marks ++ [must "query" Reader.string])),
   ("workspaceSymbol/resolve", workspaceSymbol), ("workspace/willCreateFiles", fileNames ["uri"]),
   ("workspace/willRenameFiles", fileNames ["oldUri", "newUri"]),
   ("workspace/willDeleteFiles", fileNames ["uri"]),
   ("workspace/executeCommand", Form.named (work ++
      [must "command" Reader.string, unlessAbsent "arguments" (Reader.list Tree.toJson)]))]

/-- The notifications that are known and have no effect. -/
def unheard : List String :=
  ["textDocument/willSave", "workspace/didChangeWatchedFiles", "workspace/didCreateFiles",
   "workspace/didRenameFiles", "workspace/didDeleteFiles"]

end EditorBridge.Params
