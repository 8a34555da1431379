import EditorBridge.Server.Unanswered

/-!
# Messages

What an editor can say to the server. A message comes as the name of a method with parameters; it is
a request, which waits for a reply, or a notification.
-/

namespace EditorBridge

/-- A message as it comes. -/
structure Envelope where
  method : String
  params : Option Json
  isRequest : Bool

/-- A request. -/
inductive Request where
  | hover (place : DocumentPosition)
  | definition (place : DocumentPosition)
  | completion
  | resolve (item : CompletionItem)
  | signatureHelp (place : DocumentPosition)
  /-- A request that is known and not served. -/
  | unserved

/-- A notification. -/
inductive Notification where
  | initialized
  | settings (value : Json)
  | folders (added removed : List Uri)
  | opened (uri : Uri) (text : String)
  | changed (uri : Uri) (text : Option String)
  | saved (uri : Uri) (text : Option String)
  | closed (uri : Uri)
  /-- A notification that is known and has no effect. -/
  | unheard

/-- The method of a message, with what is read from its parameters. -/
inductive Method where
  | introduce (read : Reader Params.Introduction)
  | stop
  | ask (read : Reader Request)
  | notify (read : Reader Notification)
  /-- Takes a request back, which has no effect on one that has been answered. -/
  | cancel

namespace Method

variable {α β : Type}

/-- Reads something and converts it. -/
def reading (f : α → β) (read : Reader α) : Reader β := fun t => f <$> read t

/-- The methods that are served. -/
def served : List (String × Method) :=
  [("initialize", .introduce Params.introduction),
   ("shutdown", .stop),
   ("$/cancelRequest", .cancel),
   ("textDocument/hover", .ask (reading .hover Params.hoverPlace)),
   ("textDocument/definition", .ask (reading .definition Params.definitionPlace)),
   ("textDocument/completion", .ask (reading (fun _ => .completion) Params.completionPlace)),
   ("completionItem/resolve", .ask (reading .resolve CompletionItem.reader)),
   ("textDocument/signatureHelp", .ask (reading .signatureHelp Params.signaturePlace)),
   ("initialized", .notify (reading (fun _ => .initialized) (Form.reader []))),
   ("workspace/didChangeConfiguration", .notify (reading .settings Params.settings)),
   ("workspace/didChangeWorkspaceFolders",
   .notify (reading (fun p => .folders p.1 p.2) Params.folders)),
   ("textDocument/didOpen",
   .notify (reading (fun p => .opened p.uri (p.text.getD "")) Params.opened)),
   ("textDocument/didChange", .notify (reading (fun p => .changed p.uri p.text) Params.changed)),
   ("textDocument/didSave", .notify (reading (fun p => .saved p.uri p.text) Params.saved)),
   ("textDocument/didClose", .notify (reading .closed Params.closed))]

/-- The method with a name. -/
def ofName? (name : String) : Option Method :=
  (served.lookup name).orElse fun _ =>
    ((Params.unserved.lookup name).map fun read => .ask (reading (fun _ => .unserved) read)).orElse
      fun _ =>
      if name ∈ Params.unheard then some (.notify (reading (fun _ => .unheard) Tree.toJson))
      else none

end Method

end EditorBridge
