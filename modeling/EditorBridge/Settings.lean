import EditorBridge.Command.Line
import EditorBridge.Json.Reader
import EditorBridge.Path

/-!
# Settings

What an editor may set for a document, and where data is kept.
-/

namespace EditorBridge

/-- The settings of a document. -/
structure Settings where
  /-- The compiler to run. -/
  compiler : String := "dasAot"
  /-- The template of its arguments for a validation. -/
  compilerArgs : List String := ["$\x7bfile\x7d", "dummy.cpp", "-j"]
  /-- The template of its arguments for a question about a place. -/
  cursorArgs : List String :=
    ["$\x7bfile\x7d", "dummy.cpp", "-j", "-cursor", "$\x7bcharacter\x7d", "$\x7bline\x7d"]
  /-- Where reported paths are looked for first. -/
  projectRoots : List String := []
  /-- Whether hovers show all there is. -/
  verboseHover : Bool := false
  /-- How much of a run's output is taken. -/
  maxOutputBytes : UInt64 := CommandLine.defaultMaxOutput
  /-- The files that are compiled for the completion list. -/
  completionFiles : List String := ["items.das", "items2.das"]
deriving DecidableEq, Repr, Inhabited

namespace Settings

/-- The section of an editor's configuration that holds the settings. -/
def sectionName : String := "dascript"

/-- The fields of settings in their order. -/
def fields : List (Field Settings) :=
  let texts := Reader.list Reader.string
  [.of "compiler" Reader.string fun x r => { r with compiler := x },
   .of "compilerArgs" texts fun x r => { r with compilerArgs := x },
   .of "cursorArgs" texts fun x r => { r with cursorArgs := x },
   .of "projectRoots" texts fun x r => { r with projectRoots := x },
   .of "verboseHover" Reader.bool fun x r => { r with verboseHover := x },
   .of "maxOutputBytes" Reader.uint64 fun x r => { r with maxOutputBytes := x },
   .of "completionFiles" texts fun x r => { r with completionFiles := x }]

/-- Reads settings. What is left out has its default. -/
def reader : Reader Settings := Reader.defaulted fields {}

/-- The settings an editor sends. Settings that cannot be read are the default ones. -/
def ofJson (value : Json) : Settings := ((reader.json value).toOption).getD {}

/-- The paths of the completion files, seen from the directory of the program. -/
def completionPaths (s : Settings) (programDirectory : List Char) : List (List Char) :=
  s.completionFiles.map fun file => Path.append programDirectory file.toList

end Settings

namespace DataDirectory

/-- The name of the program's own directory. -/
def programName : List Char := "das-lsp".toList

/-- The home directory: the one that is set, unless that is empty, else the one of the account. -/
def home? (set account : Option (List Char)) : Option (List Char) :=
  (set.filter (· ≠ [])).or account

/-- Where data is kept: in the directory that is set for data, else in the home directory's place
for it, else here. -/
def path (dataHome home : Option (List Char)) : List Char :=
  let parent := (dataHome.or (home.map (Path.append · ".local/share".toList))).getD ['.']
  Path.append parent programName

/-- The file of the log. -/
def logPath (dataHome home : Option (List Char)) : List Char :=
  Path.append (path dataHome home) "das-lsp.log".toList

end DataDirectory

end EditorBridge
