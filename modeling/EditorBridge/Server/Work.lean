import EditorBridge.Cursor.Hover
import EditorBridge.Diagnostic.Collect
import EditorBridge.Server.Job

/-!
# Work with the compiler

What the server does for a document: it finds the document's settings, validates it, collects the
completion list, and asks the compiler about a place.
-/

namespace EditorBridge.Server

open Job

/-- The settings of a document. The editor is asked at most once for each document, if it can be
asked. -/
def settingsFor (uri : Uri) : Job Settings := do
  let s ← state
  if !s.asksSettings then return s.commonSettings
  match s.documentSettings.lookup uri with
  | some settings => return settings
  | none =>
    let settings := match ← settingsOf uri with
      | some (value :: _) => Settings.ofJson value
      | _ => {}
    update fun s => { s with documentSettings := assign uri settings s.documentSettings }
    return settings

/-- Runs a command and leaves its line in the log. -/
def execute (command : CommandLine) : Job (List Char) := do
  say (.log ('>' :: ' ' :: command.text))
  outputOf command

/-- The command that compiles a file. -/
def compileCommand (settings : Settings) (file : List Char) : CommandLine :=
  { CommandLine.ofTemplate settings.compiler.toList (settings.compilerArgs.map String.toList)
    file with
    maxOutput := settings.maxOutputBytes }

/-- The command that asks about a place in a file. Lines are counted from one, in 32 bits. -/
def cursorCommand (settings : Settings) (file : List Char) (position : Position) : CommandLine :=
  { (CommandLine.ofTemplate settings.compiler.toList (settings.cursorArgs.map String.toList)
    file).atPosition
      (position.line + 1).toNat position.character.toNat with
    maxOutput := settings.maxOutputBytes }

/-- Publishes files one after another. -/
def announce (publications : List (Publisher.Publication Diagnostic)) : Job Unit :=
  publications.forM fun (uri, list) => say (.diagnostics uri list)

/-- Publishes the diagnostics of a document. -/
def publish (uri : Uri) (map : FileMap Diagnostic) : Job Unit := do
  let s ← state
  let (publisher, publications) := s.publisher.publish uri map
  update fun s => { s with publisher := publisher }
  announce publications

/-- Compiles a document and publishes what is reported. -/
def validate (env : Surroundings) (uri : Uri) : Job Unit := do
  let settings ← settingsFor uri
  let path := Uri.localPath uri.chars
  let output ← execute (compileCommand settings path)
  let s ← state
  publish uri (Diagnostic.collect env.files (s.resolver settings) path s.showsRelated output)

/-- Takes the completion list of an output, if it has one. -/
def takeCompletion (output : List Char) : Job Unit :=
  match CompletionItem.collect? output with
  | some items => update fun s => { s with completion := items }
  | none => pure ()

/-- Compiles the completion files, and takes the completion lists of all outputs in order. -/
def refreshCompletion (env : Surroundings) (uri : Uri) : Job Unit := do
  let settings ← settingsFor uri
  let outputs ← (settings.completionPaths env.programDirectory).mapM fun file =>
    execute (compileCommand settings file)
  outputs.forM takeCompletion

/-- What the compiler says about a place. -/
def reportAt (env : Surroundings) (uri : Uri) (position : Position) :
    Job (Settings × Option Cursor.Report) := do
  let settings ← settingsFor uri
  let output ← execute (cursorCommand settings (Uri.localPath uri.chars) position)
  if Text.allBlank output then return (settings, none)
  let s ← state
  return (settings, (Cursor.Report.read env.files (s.resolver settings) output).toOption)

/-- Validates all open documents again, in the order of the surroundings. -/
def revalidate (env : Surroundings) : Job Unit := do
  let s ← state
  (env.visits (s.documents.map (·.1))).forM (validate env)

end EditorBridge.Server
