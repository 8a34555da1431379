import EditorBridge.Command.Capture
import EditorBridge.Command.Line
import EditorBridge.Compiler.Output
import EditorBridge.Completion.Item
import EditorBridge.Completion.Signature
import EditorBridge.Cursor.Hover
import EditorBridge.Cursor.Record
import EditorBridge.Cursor.Report
import EditorBridge.Cursor.Text
import EditorBridge.Diagnostic.Basic
import EditorBridge.Diagnostic.Collect
import EditorBridge.Diagnostic.Entry
import EditorBridge.Diagnostic.FileMap
import EditorBridge.Diagnostic.Line
import EditorBridge.Diagnostic.Log
import EditorBridge.FileSystem
import EditorBridge.Json.Basic
import EditorBridge.Json.Fault
import EditorBridge.Json.Numeral
import EditorBridge.Json.Quoted
import EditorBridge.Json.Reader
import EditorBridge.Json.Recovery
import EditorBridge.Json.Token
import EditorBridge.Json.Tree
import EditorBridge.Json.Writer
import EditorBridge.Machine
import EditorBridge.Main
import EditorBridge.Number.Double
import EditorBridge.Number.Shortest
import EditorBridge.Path
import EditorBridge.Proofs.Command.Line
import EditorBridge.Proofs.Command.Truncation
import EditorBridge.Proofs.Completion.Call
import EditorBridge.Proofs.Completion.Signature
import EditorBridge.Proofs.Cursor.Definition
import EditorBridge.Proofs.Cursor.Hover
import EditorBridge.Proofs.Diagnostic.Collect
import EditorBridge.Proofs.Diagnostic.Entry
import EditorBridge.Proofs.Diagnostic.FileMap
import EditorBridge.Proofs.Diagnostic.Format
import EditorBridge.Proofs.Diagnostic.Line
import EditorBridge.Proofs.Diagnostic.Location
import EditorBridge.Proofs.Diagnostic.Log
import EditorBridge.Proofs.Diagnostic.Section
import EditorBridge.Proofs.Diagnostic.Spelling
import EditorBridge.Proofs.Json.Grammar
import EditorBridge.Proofs.Json.Lexeme
import EditorBridge.Proofs.Json.Nesting
import EditorBridge.Proofs.Json.Outline
import EditorBridge.Proofs.Json.Recovery
import EditorBridge.Proofs.Json.Region
import EditorBridge.Proofs.Json.Thorough
import EditorBridge.Proofs.Path
import EditorBridge.Proofs.Path.Destination
import EditorBridge.Proofs.Publisher
import EditorBridge.Proofs.Resolver
import EditorBridge.Proofs.Server.Attribution
import EditorBridge.Proofs.Server.Careful
import EditorBridge.Proofs.Server.Completion
import EditorBridge.Proofs.Server.Overlap
import EditorBridge.Proofs.Server.Remembered
import EditorBridge.Proofs.Session.Protocol
import EditorBridge.Proofs.Session.Roots
import EditorBridge.Proofs.Span
import EditorBridge.Proofs.Text.Filling
import EditorBridge.Proofs.Text.Split
import EditorBridge.Proofs.Text.Utf8
import EditorBridge.Proofs.Uri.File
import EditorBridge.Proofs.Workspace
import EditorBridge.Publisher
import EditorBridge.Resolver
import EditorBridge.Server.Abilities
import EditorBridge.Server.Dispatch
import EditorBridge.Server.Form
import EditorBridge.Server.Frame
import EditorBridge.Server.Job
import EditorBridge.Server.Message
import EditorBridge.Server.Notice
import EditorBridge.Server.Params
import EditorBridge.Server.Record
import EditorBridge.Server.State
import EditorBridge.Server.Unanswered
import EditorBridge.Server.Work
import EditorBridge.Session.Config
import EditorBridge.Session.Failure
import EditorBridge.Session.Manager
import EditorBridge.Settings
import EditorBridge.Shell.Arithmetic
import EditorBridge.Shell.Builtin
import EditorBridge.Shell.Filter
import EditorBridge.Shell.Format
import EditorBridge.Shell.Pattern
import EditorBridge.Shell.Run
import EditorBridge.Shell.Script
import EditorBridge.Shell.State
import EditorBridge.Shell.Token
import EditorBridge.Span
import EditorBridge.Text.Blank
import EditorBridge.Text.Digit
import EditorBridge.Text.Normal
import EditorBridge.Text.Normal.Table
import EditorBridge.Text.Split
import EditorBridge.Text.Table
import EditorBridge.Text.Utf8
import EditorBridge.Uri.Address
import EditorBridge.Uri.Basic
import EditorBridge.Uri.Host
import EditorBridge.Uri.Name
import EditorBridge.Uri.Name.Direction
import EditorBridge.Uri.Name.Joiner
import EditorBridge.Uri.Name.Mapping
import EditorBridge.Uri.Name.Punycode
import EditorBridge.Uri.Percent
import EditorBridge.Uri.Reader
import EditorBridge.Workspace
