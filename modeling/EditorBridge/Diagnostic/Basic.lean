import EditorBridge.Diagnostic.FileMap
import EditorBridge.Span

/-!
# Diagnostics

What an editor shows about a place in a file.
-/

namespace EditorBridge

/-- A place in a file. -/
structure Location where
  uri : Uri
  range : Range
deriving DecidableEq, Repr, Inhabited

/-- The code of a diagnostic. -/
inductive Code where
  | number (value : Int)
  | text (value : String)
deriving DecidableEq, Repr

/-- A remark that belongs to a diagnostic. -/
structure Related where
  location : Location
  message : String
deriving DecidableEq, Repr

/-- A diagnostic of a file. -/
structure Diagnostic where
  range : Range
  severity : Option Int
  code : Option Code
  source : Option String
  message : String
  related : Option (List Related)
deriving DecidableEq, Repr

/-- The location as JSON. -/
def Location.toJson (l : Location) : Json :=
  .ofMembers [("uri", .string l.uri.text), ("range", l.range.toJson)]

/-- The code as JSON. -/
def Code.toJson : Code → Json
  | .number n => .int n
  | .text s => .string s

/-- The remark as JSON. -/
def Related.toJson (r : Related) : Json :=
  .ofMembers [("location", r.location.toJson), ("message", .string r.message)]

namespace Diagnostic

/-- The severity of errors. -/
def error : Int := 1

/-- The severity of information. -/
def information : Int := 3

/-- The diagnostic as JSON, without what is absent. -/
def toJson (d : Diagnostic) : Json :=
  .ofPresent
    [("range", some d.range.toJson),
     ("severity", d.severity.map .int),
     ("code", d.code.map Code.toJson),
     ("source", d.source.map .string),
     ("message", some (.string d.message)),
     ("relatedInformation", d.related.map fun l => .array (l.map Related.toJson))]

end Diagnostic

end EditorBridge
