import EditorBridge.Server.State

/-!
# The form of notices

The methods and parameters under which the server speaks to the editor.
-/

namespace EditorBridge

/-- A message of the server: its method and its parameters. -/
structure Outgoing where
  method : String
  params : Json

/-- A line for the log of the editor. -/
def Outgoing.logLine (kind : Nat) (text : List Char) : Outgoing :=
  ⟨"window/logMessage", .ofMembers [("type", .nat kind), ("message", .string (String.ofList text))]⟩

/-- The form of a notice. -/
def Notice.outgoing : Notice → Outgoing
  | .info text => .logLine 3 text
  | .log text => .logLine 4 text
  | .watchSettings =>
    ⟨"client/registerCapability", .ofMembers [("registrations", .array [.ofMembers
      [("id", .string "dascript-configuration"),
       ("method", .string "workspace/didChangeConfiguration")]])]⟩
  | .diagnostics uri list =>
    ⟨"textDocument/publishDiagnostics",
      .ofMembers [("uri", .string uri.text), ("diagnostics", .array (list.map Diagnostic.toJson))]⟩

/-- The question for the settings of a document. -/
def Outgoing.settingsQuestion (scope : Uri) : Outgoing :=
  ⟨"workspace/configuration", .ofMembers [("items", .array [.ofMembers
    [("scopeUri", .string scope.text), ("section", .string Settings.sectionName)]])]⟩

/-- What the server can do. -/
def Server.abilities : Json :=
  .ofMembers
    [("textDocumentSync",
      .ofMembers [("openClose", .bool true), ("change", .nat 1), ("save", .bool true)]),
     ("completionProvider", .ofMembers [("resolveProvider", .bool true)]),
     ("hoverProvider", .bool true),
     ("definitionProvider", .bool true),
     ("signatureHelpProvider",
     .ofMembers [("triggerCharacters", .array [.string "(", .string ":"])]),
     ("workspace", .ofMembers [("workspaceFolders", .ofMembers
       [("supported", .bool true), ("changeNotifications", .bool true)])])]

/-- How the server introduces itself. -/
def Server.introduction : Json :=
  .ofMembers
    [("capabilities", abilities),
     ("serverInfo", .ofMembers [("name", .string "das-lsp"), ("version", .string "0.1.0")])]

end EditorBridge
