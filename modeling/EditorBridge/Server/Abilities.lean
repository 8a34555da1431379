import EditorBridge.Server.Form

/-!
# Abilities of editors

What an editor says it can do when it introduces itself. Two of these abilities make a difference to
the server; the others are checked to be well formed.
-/

namespace EditorBridge

/-- The abilities of an editor that make a difference. -/
structure Abilities where
  /-- It can be asked for settings. -/
  asksSettings : Bool := false
  /-- It shows places that are related to a diagnostic. -/
  showsRelated : Bool := false
deriving DecidableEq, Repr, Inhabited

namespace Abilities

open Entry

/-- An ability that consists of truth values, each of which may be left out. -/
def flags (names : List String) : Reader Unit := Form.reader (names.map flag)

/-- An ability that can only be registered later. -/
def registered : Reader Unit := flags ["dynamicRegistration"]

/-- An ability to look at results anew. -/
def refreshed : Reader Unit := flags ["refreshSupport"]

/-- An entry with a list of values, which must be there. -/
def values {α : Type} (read : Reader α) : Entry := must "valueSet" (Reader.list read)

/-- Reads a list of values that may be left out. -/
def someValues {α : Type} (read : Reader α) : Reader Unit :=
  Form.reader [may "valueSet" (Reader.list read)]

/-- Reads a list of the properties that can be found out later. -/
def resolved : Reader Unit := Form.reader [must "properties" (Reader.list Reader.string)]

/-- Reads which tags are known. A truth value stands for none. -/
def tags : Reader Unit :=
  Reader.orElse (discard Reader.bool) (Form.reader [values Reader.int32])

/-- An entry on which tags are known, before which an array may end. -/
def tagSupport : Entry := { may "tagSupport" tags with trailing := true }

/-- Reads one of some names. -/
def oneOf (names : List String) : Reader String :=
  Reader.choice fun s => if s ∈ names then some s else none

/-- Reads a list of formats. -/
def formats : Reader (List MarkupKind) := Reader.list MarkupKind.reader

/-- Reads the kinds of symbols that are known. -/
def symbolKinds : Reader Unit := someValues Reader.int32

/-- Reads how changes of many files are applied. -/
def workspaceEdit : Reader Unit := Form.reader
  [flag "documentChanges",
   may "resourceOperations" (Reader.list (oneOf ["create", "rename", "delete"])),
   may "failureHandling" (oneOf ["abort", "transactional", "textOnlyTransactional", "undo"]),
   flag "normalizesLineEndings",
   may "changeAnnotationSupport" (flags ["groupsOnLabel"])]

/-- Reads how symbols of a workspace are shown. -/
def workspaceSymbol : Reader Unit := Form.reader
  [flag "dynamicRegistration", may "symbolKind" symbolKinds, tagSupport,
   may "resolveSupport" resolved]

/-- The entries on workspaces before that on settings. -/
def workspaceBefore : Form :=
  [flag "applyEdit",
   may "workspaceEdit" workspaceEdit,
   may "didChangeConfiguration" registered,
   may "didChangeWatchedFiles" (flags ["dynamicRegistration", "relativePatternSupport"]),
   may "symbol" workspaceSymbol,
   may "executeCommand" registered,
   flag "workspaceFolders"]

/-- The entries on workspaces after that on settings. -/
def workspaceAfter : Form :=
  [may "semanticTokens" refreshed,
   may "codeLens" refreshed,
   may "fileOperations"
     (flags ["dynamicRegistration", "didCreate", "willCreate", "didRename", "willRename",
     "didDelete", "willDelete"]),
   may "inlineValue" refreshed,
   may "inlayHint" refreshed,
   may "diagnostic" refreshed]

/-- Reads whether an editor can be asked for settings, among what it can do with workspaces. -/
def workspace : Reader Bool :=
  Reader.required []
    (workspaceBefore.map Entry.field ++
      .of "configuration" (Reader.optional Reader.bool) (fun x _ => x.getD false) ::
      workspaceAfter.map Entry.field) false

/-- Reads how completion items are shown. -/
def completionItem : Reader Unit := Form.reader
  [flag "snippetSupport", flag "commitCharactersSupport", may "documentationFormat" formats,
   flag "deprecatedSupport", flag "preselectSupport", tagSupport, flag "insertReplaceSupport",
   may "resolveSupport" resolved, may "insertTextModeSupport" (Form.reader [values Reader.int32]),
   flag "labelDetailsSupport"]

/-- Reads how completion is done. -/
def completion : Reader Unit := Form.reader
  [flag "dynamicRegistration",
   may "completionItem" completionItem,
   may "completionItemKind" (someValues Reader.int32),
   flag "contextSupport",
   may "insertTextMode" Reader.int32,
   may "completionList" (Form.reader [may "itemDefaults" (Reader.list Reader.string)])]

/-- Reads how signatures are shown. -/
def signatureHelp : Reader Unit := Form.reader
  [flag "dynamicRegistration",
   may "signatureInformation" (Form.reader
     [may "documentationFormat" formats, may "parameterInformation" (flags ["labelOffsetSupport"]),
      flag "activeParameterSupport"]),
   flag "contextSupport"]

/-- Reads how the symbols of a document are shown. -/
def documentSymbol : Reader Unit := Form.reader
  [flag "dynamicRegistration", may "symbolKind" symbolKinds,
   flag "hierarchicalDocumentSymbolSupport", tagSupport]

/-- Reads how places are gone to. -/
def places : Reader Unit := flags ["dynamicRegistration", "linkSupport"]

/-- Reads how code actions are taken. -/
def codeAction : Reader Unit := Form.reader
  [flag "dynamicRegistration",
   may "codeActionLiteralSupport"
     (Form.reader [must "codeActionKind" (Form.reader [values Reader.string])]),
   flag "isPreferredSupport", flag "disabledSupport", flag "dataSupport",
   may "resolveSupport" resolved,
   flag "honorsChangeAnnotations"]

/-- Reads how names are changed. -/
def rename : Reader Unit := Form.reader
  [flag "dynamicRegistration", flag "prepareSupport",
   may "prepareSupportDefaultBehavior" Reader.int32, flag "honorsChangeAnnotations"]

/-- Reads whether an editor shows places that are related to a diagnostic. -/
def diagnostics : Reader Bool :=
  Reader.required []
    (.of "relatedInformation" (Reader.optional Reader.bool) (fun x _ => x.getD false) ::
      ([tagSupport, flag "versionSupport", flag "codeDescriptionSupport",
      flag "dataSupport"] : Form).map
        Entry.field) false

/-- Reads how ranges are folded. -/
def foldingRange : Reader Unit := Form.reader
  [flag "dynamicRegistration", may "rangeLimit" Reader.nat32, flag "lineFoldingOnly",
   may "foldingRangeKind" (someValues (oneOf ["comment", "imports", "region"])),
   may "foldingRange" (flags ["collapsedText"])]

/-- Reads how tokens are coloured. -/
def semanticTokens : Reader Unit :=
  let names := Reader.list Reader.string
  Form.reader
    [flag "dynamicRegistration",
     must "requests" (Form.reader
       [flag "range",
        may "full" (Reader.orElse (discard Reader.bool) (Form.named [flag "delta"]))]),
     must "tokenTypes" names, must "tokenModifiers" names, must "formats" names,
     flag "overlappingTokenSupport", flag "multilineTokenSupport", flag "serverCancelSupport",
     flag "augmentsSyntaxTokens"]

/-- The entries on documents before that on diagnostics. -/
def documentBefore : Form :=
  [may "synchronization"
    (flags ["dynamicRegistration", "willSave", "willSaveWaitUntil", "didSave"]),
   may "completion" completion,
   may "hover" (Form.reader [flag "dynamicRegistration", may "contentFormat" formats]),
   may "signatureHelp" signatureHelp,
   may "references" registered,
   may "documentHighlight" registered,
   may "documentSymbol" documentSymbol,
   may "formatting" registered,
   may "rangeFormatting" registered,
   may "onTypeFormatting" registered,
   may "declaration" places,
   may "definition" places,
   may "typeDefinition" places,
   may "implementation" places,
   may "codeAction" codeAction,
   may "codeLens" registered,
   may "documentLink" (flags ["dynamicRegistration", "tooltipSupport"]),
   may "colorProvider" registered,
   may "rename" rename]

/-- The entries on documents after that on diagnostics. -/
def documentAfter : Form :=
  [may "foldingRange" foldingRange,
   may "selectionRange" registered,
   may "linkedEditingRange" registered,
   may "callHierarchy" registered,
   may "semanticTokens" semanticTokens,
   may "moniker" registered,
   may "typeHierarchy" registered,
   may "inlineValue" registered,
   may "inlayHint" (Form.reader [flag "dynamicRegistration", may "resolveSupport" resolved]),
   may "diagnostic" (flags ["dynamicRegistration", "relatedDocumentSupport"])]

/-- Reads whether an editor shows related places, among what it can do with documents. -/
def document : Reader Bool :=
  Reader.required []
    (documentBefore.map Entry.field ++
      .of "publishDiagnostics" (Reader.optional diagnostics) (fun x _ => x.getD false) ::
      documentAfter.map Entry.field) false

/-- Reads what an editor can show in windows. -/
def window : Reader Unit := Form.reader
  [flag "workDoneProgress",
   may "showMessage"
     (Form.reader [may "messageActionItem" (flags ["additionalPropertiesSupport"])]),
   may "showDocument" (Form.reader [must "support" Reader.bool])]

/-- Reads what an editor can do in general. -/
def general : Reader Unit := Form.reader
  [may "regularExpressions" (Form.reader [must "engine" Reader.string, text "version"]),
   may "markdown" (Form.reader
     [must "parser" Reader.string, text "version", may "allowedTags" (Reader.list Reader.string)]),
   may "staleRequestSupport" (Form.reader
     [must "cancel" Reader.bool, must "retryOnContentModified" (Reader.list Reader.string)]),
   may "positionEncodings" (Reader.list Reader.string)]

/-- Reads what an editor can do. -/
def reader : Reader Abilities :=
  Reader.required []
    [.of "workspace" (Reader.optional workspace) fun x r => { r with asksSettings := x.getD false },
     .of "textDocument" (Reader.optional document) fun x r =>
       { r with showsRelated := x.getD false },
     .checked "window" (Reader.optional window),
     .checked "general" (Reader.optional general),
     .checked "experimental" Tree.toJson] {}

end Abilities

end EditorBridge
