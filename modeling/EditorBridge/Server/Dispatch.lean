import EditorBridge.Server.Message
import EditorBridge.Server.Notice
import EditorBridge.Server.Work

/-!
# The conversation

How the server handles a message: `Server.respond` decides from the phase of the conversation
whether the message is served, reads its parameters, and does what it asks for.
-/

namespace EditorBridge

/-- Why a request is refused. -/
inductive Refusal where
  | notInitialized
  | invalidRequest
  | methodNotFound
  | invalidParams
deriving DecidableEq, Repr

/-- The number of a refusal in the protocol. -/
def Refusal.code : Refusal → Int
  | .notInitialized => -32002
  | .invalidRequest => -32600
  | .methodNotFound => -32601
  | .invalidParams => -32602

/-- What a message gets back. -/
inductive Reply where
  /-- Nothing at all. -/
  | silence
  | result (value : Json)
  | refused (cause : Refusal)
  /-- The conversation is over. -/
  | exited

namespace Server

open Job

/-- Serves a request. -/
def serve (env : Surroundings) : Request → Job Reply
  | .hover place => do
    let (settings, report) ← reportAt env place.uri place.position
    let s ← state
    return .result
      ((Cursor.Hover.of? s.completion settings.verboseHover report).elim .null Cursor.Hover.toJson)
  | .definition place => do
    let (settings, report) ← reportAt env place.uri place.position
    let s ← state
    let location := report.bind (·.definition? env.files (s.resolver settings))
    return .result (location.elim .null Location.toJson)
  | .completion => do
    let s ← state
    return .result (.array (s.completion.map CompletionItem.toJson))
  | .resolve item => return .result item.toJson
  | .signatureHelp place => do
    let s ← state
    let help := (s.documents.lookup place.uri).bind fun text =>
      CompletionList.signatureHelp? s.completion text.toList place.position
    return .result (help.elim .null SignatureHelp.toJson)
  | .unserved => return .refused .methodNotFound

/-- Stores the text of a document. -/
def store (uri : Uri) (text : String) : Job Unit :=
  update fun s => { s with documents := assign uri text s.documents }

/-- A line of the log about a document. -/
def logDocument (verb : String) (uri : Uri) : Job Unit :=
  say (.log ('[' :: verb.toList ++ ' ' :: uri.chars ++ [']']))

/-- Hears a notification. -/
def hear (env : Surroundings) : Notification → Job Unit
  | .initialized => do
    say (.info "das-lsp initialized".toList)
    let s ← state
    if s.asksSettings then say .watchSettings
  | .settings value => do
    update fun s =>
      if s.asksSettings then { s with documentSettings := [] }
      else { s with
        commonSettings := Settings.ofJson ((value.member? Settings.sectionName).getD .null) }
    revalidate env
  | .folders added removed =>
    update fun s =>
      s.changeFolders (added.filterMap Uri.filePath?) (removed.filterMap Uri.filePath?)
  | .opened uri text => do
    logDocument "open" uri
    store uri text
    validate env uri
    refreshCompletion env uri
  | .changed uri text =>
    match text with
    | some text => store uri text
    | none => pure ()
  | .saved uri text => do
    logDocument "save" uri
    match text with
    | some text => store uri text
    | none => pure ()
    validate env uri
    refreshCompletion env uri
  | .closed uri => do
    update fun s =>
      { s with
        documentSettings := unassign uri s.documentSettings
        documents := unassign uri s.documents }
    let s ← state
    let (publisher, publications) := s.publisher.close uri
    update fun s => { s with publisher := publisher }
    announce publications
  | .unheard => pure ()

/-- Takes in how the editor introduces itself. -/
def welcome (p : Params.Introduction) : Job Reply := do
  update fun s =>
    { s with
      phase := .serving
      asksSettings := p.abilities.asksSettings
      showsRelated := p.abilities.showsRelated
      folders := p.folders.filterMap Uri.filePath? }
  return .result introduction

/-- Refuses a message, if it waits for a reply. -/
def refuse (m : Envelope) (cause : Refusal) : Job Reply :=
  return if m.isRequest then .refused cause else .silence

/-- Reads the parameters of a message and goes on with them. -/
def withParams {α : Type} (m : Envelope) (read : Reader α) (next : α → Job Reply) : Job Reply :=
  match m.params.map read.json with
  | some (.ok value) => next value
  | _ => refuse m .invalidParams

/-- Refuses a message outside of its phase. -/
def refuseEarly (m : Envelope) (phase : Phase) : Job Reply :=
  refuse m (if phase = .waiting then .notInitialized else .invalidRequest)

/-- Handles a message with a known method. -/
def handle (env : Surroundings) (m : Envelope) (phase : Phase) (method : Method) : Job Reply :=
  match method with
  | .introduce read =>
    if phase ≠ .waiting then refuse m .invalidRequest
    else if !m.isRequest then return .silence
    else withParams m read welcome
  | .stop => do
    if phase ≠ .serving then return ← refuseEarly m phase
    update fun s => { s with phase := .stopping }
    if !m.isRequest then return .silence
    if m.params.isSome then return .refused .invalidParams
    return .result .null
  | .ask read =>
    if phase ≠ .serving then refuseEarly m phase
    else if !m.isRequest then return .silence
    else withParams m read (serve env)
  | .notify read =>
    if phase ≠ .serving then refuseEarly m phase
    else if m.isRequest then return .refused .invalidRequest
    else withParams m read fun n => do
      hear env n
      return .silence
  | .cancel => refuse m .invalidRequest

/-- Handles a message. Messages of an unknown method that concern the protocol itself, marked by
`$/`, get no reply. -/
def respond (env : Surroundings) (m : Envelope) : Job Reply := do
  let s ← state
  if s.phase = .exited then return .exited
  if m.method = "exit" then
    update fun s => { s with phase := .exited }
    return .silence
  match Method.ofName? m.method with
  | some method => handle env m s.phase method
  | none =>
    if Text.startsWith ['$', '/'] m.method.toList then return .silence
    refuse m .methodNotFound

end Server

end EditorBridge
