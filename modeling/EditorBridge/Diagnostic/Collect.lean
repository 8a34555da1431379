import EditorBridge.Compiler.Output
import EditorBridge.Diagnostic.Entry
import EditorBridge.Diagnostic.Log
import EditorBridge.Json.Recovery

/-!
# Diagnostics of a run

The diagnostics in the output of a compiler run, which is JSON, perhaps amid noise, or else a log.
-/

namespace EditorBridge.Diagnostic

/-- The diagnostics in a compiler's output, grouped by file. Blank output has none. -/
def collect (fs : FileSystem) (r : Resolver) (document : List Char) (related : Bool)
    (output : List Char) : FileMap Diagnostic :=
  if Text.allBlank output then []
  else
    match Recovery.read CompilerOutput.reader output with
    | .ok parsed => ofEntries fs r document (parsed.diagnostics.getD [])
    | .error _ => Log.parse fs r document related output

end EditorBridge.Diagnostic
