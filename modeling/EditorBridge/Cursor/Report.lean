import EditorBridge.Cursor.Record
import EditorBridge.Json.Recovery
import EditorBridge.Json.Writer
import EditorBridge.Resolver

/-!
# Cursor reports

What stands at a place in a text: functions, calls, variables and constants, with resolved paths and
editor ranges.
-/

namespace EditorBridge.Cursor

/-- The place that was asked about. The tab size tells apart scopes that share a range. -/
structure Anchor where
  path : List Char
  range : Option Range
  tab : Option Int
deriving DecidableEq, Repr

/-- A function by itself. Its documentation is found by its short name. -/
structure Func where
  name : String
  shortName : Option String
  path : List Char
  range : Option Range
deriving DecidableEq, Repr, Inhabited

/-- A function and the generic function it is an instance of. -/
structure Function where
  concrete : Func
  generic : Option Func
deriving DecidableEq, Repr, Inhabited

/-- A call, with the function that is called if it is known. -/
structure Call where
  name : String
  path : List Char
  range : Option Range
  function : Option Function
deriving DecidableEq, Repr, Inhabited

/-- The kinds of variables. -/
inductive Category where
  | localVariable
  | globalVariable
  | blockArgument
  | functionArgument
  | structureField
  | tupleField
  | variantField
  | swizzleField
  | fieldLookup
  | capture
  | annotationField
  | unknown
  /-- A kind that is only known by its label. -/
  | other (label : String)
deriving DecidableEq, Repr

/-- A variable. -/
structure Variable where
  name : String
  path : List Char
  range : Option Range
  type : Option String
  category : Option Category
  index : Option Int
deriving DecidableEq, Repr

/-- A constant by its text. -/
structure Constant where
  value : String
  type : Option String
deriving DecidableEq, Repr

/-- What stands at a place. -/
structure Report where
  cursor : Option Anchor
  functions : List Function
  calls : List Call
  vars : List Variable
  constants : List Constant
deriving DecidableEq, Repr

namespace Category

/-- The label of a kind. -/
def label : Category → String
  | .localVariable => "local"
  | .globalVariable => "global"
  | .blockArgument => "block argument"
  | .functionArgument => "function argument"
  | .structureField => "structure field"
  | .tupleField => "tuple field"
  | .variantField => "variant field"
  | .swizzleField => "vector swizzle field"
  | .fieldLookup => "field lookup"
  | .capture => "capture"
  | .annotationField => "annotation field"
  | .unknown => "unknown"
  | .other label => label

/-- The kind with a label. Captures have three labels. -/
def ofLabel : String → Category
  | "local" => .localVariable
  | "global" => .globalVariable
  | "block argument" => .blockArgument
  | "function argument" => .functionArgument
  | "structure field" => .structureField
  | "tuple field" => .tupleField
  | "variant field" => .variantField
  | "vector swizzle field" => .swizzleField
  | "field lookup" => .fieldLookup
  | "capture" => .capture
  | "lambda capture" => .capture
  | "generator capture" => .capture
  | "annotation field" => .annotationField
  | "unknown" => .unknown
  | label => .other label

/-- Whether a kind is more than a label. -/
def isKnown : Category → Bool
  | .other _ => false
  | _ => true

end Category

/-- A text that is not empty. -/
def nonEmpty (s : Option String) : Option String := s.filter (· ≠ "")

/-- The editor's range. -/
def editorRange (raw : Option RawRange) : Option Range := raw.map Shift.cursor.apply

/-- A list if it has elements, else the single record. -/
def merge {α : Type} (single : Option α) (many : Option (List α)) : List α :=
  match many with
  | some (x :: xs) => x :: xs
  | _ => single.toList

/-- The resolved path of a record. -/
def pathOf (fs : FileSystem) (r : Resolver) (uri : Option String) : List Char :=
  r.resolve fs (uri.getD "").toList

namespace Func

/-- A function by itself from its record. -/
def ofRaw (fs : FileSystem) (r : Resolver) (raw : RawFunc) : Func :=
  ⟨raw.name.getD "", nonEmpty raw.shortName, pathOf fs r raw.uri, editorRange raw.range⟩

/-- Whether a function has neither name nor place. -/
def isBlank (f : Func) : Bool := f.name = "" ∧ f.path = [] ∧ f.range = none

/-- The name by which documentation is found, or the empty text. -/
def lookup (f : Func) : String := f.shortName.getD ""

end Func

namespace Function

/-- A function from its record. A record that only has a generic function stands for that. -/
def ofRaw (fs : FileSystem) (r : Resolver) (raw : RawFunction) : Function :=
  let generic := raw.generic.map (Func.ofRaw fs r)
  let own := Func.ofRaw fs r raw.own
  ⟨if own.isBlank then generic.getD own else own, generic⟩

/-- The name by which documentation is found: the generic function's if it has one. -/
def lookup (f : Function) : String := (f.generic.bind (·.shortName)).getD f.concrete.lookup

/-- The function to go to: the generic one only if the concrete one has no path. -/
def target (f : Function) : Func :=
  if f.concrete.path = [] then f.generic.getD f.concrete else f.concrete

end Function

namespace Report

/-- A report from its record. -/
def ofRaw (fs : FileSystem) (r : Resolver) (raw : RawReport) : Report where
  cursor := raw.cursor.map fun c => ⟨pathOf fs r c.uri, editorRange c.range, c.tab⟩
  functions := (merge raw.oneFunction raw.functions).map (Function.ofRaw fs r)
  calls := (merge raw.oneCall raw.calls).map fun c =>
    ⟨c.name.getD "", pathOf fs r c.uri, editorRange c.range, c.function.map (Function.ofRaw fs r)⟩
  vars := (merge raw.oneVariable raw.vars).map fun v =>
    ⟨v.name.getD "", pathOf fs r v.uri, editorRange v.range, nonEmpty v.type,
      (nonEmpty v.category).map Category.ofLabel, v.index⟩
  constants := (raw.constants.getD []).map fun c =>
    ⟨match c.value with
      | .string s => s
      | value => value.text, nonEmpty c.type⟩

/-- Reads a report from a compiler's output. -/
def read (fs : FileSystem) (r : Resolver) (output : List Char) : Except Fault Report :=
  ofRaw fs r <$> Recovery.read RawReport.reader output

/-- Whether nothing stands at the place. -/
def isEmpty (d : Report) : Bool :=
  d.functions.isEmpty && d.calls.isEmpty && d.vars.isEmpty && d.constants.isEmpty

end Report

end EditorBridge.Cursor
