import EditorBridge.Span

/-!
# Cursor records

What a compiler reports about a place in a text, as it is written in JSON. Most parts come both as a
single record and as a list.
-/

namespace EditorBridge.Cursor

/-- The place that was asked about. -/
structure RawAnchor where
  uri : Option String := none
  range : Option RawRange := none
  tab : Option Int := none
deriving DecidableEq, Repr, Inhabited

/-- A function by itself. -/
structure RawFunc where
  name : Option String := none
  shortName : Option String := none
  uri : Option String := none
  range : Option RawRange := none
deriving DecidableEq, Repr, Inhabited

/-- A function and the generic function it is an instance of. -/
structure RawFunction where
  own : RawFunc := {}
  generic : Option RawFunc := none
deriving DecidableEq, Repr, Inhabited

/-- A call. -/
structure RawCall where
  name : Option String := none
  uri : Option String := none
  range : Option RawRange := none
  function : Option RawFunction := none
deriving DecidableEq, Repr, Inhabited

/-- A variable. -/
structure RawVariable where
  name : Option String := none
  uri : Option String := none
  range : Option RawRange := none
  type : Option String := none
  category : Option String := none
  index : Option Int := none
deriving DecidableEq, Repr, Inhabited

/-- A constant. -/
structure RawConstant where
  value : Json := .null
  type : Option String := none
deriving Repr, Inhabited

/-- All that is reported about a place. -/
structure RawReport where
  cursor : Option RawAnchor := none
  oneFunction : Option RawFunction := none
  functions : Option (List RawFunction) := none
  oneCall : Option RawCall := none
  calls : Option (List RawCall) := none
  oneVariable : Option RawVariable := none
  vars : Option (List RawVariable) := none
  constants : Option (List RawConstant) := none
deriving Repr, Inhabited

/-- Reads a text that may be absent. -/
def textField : Reader (Option String) := Reader.optional Reader.string

/-- Reads a range that may be absent. -/
def rangeField : Reader (Option RawRange) := Reader.optional RawRange.reader

/-- Reads the place that was asked about. -/
def RawAnchor.reader : Reader RawAnchor := Reader.defaulted
  [.of "uri" textField fun x r => { r with uri := x },
   .of "range" rangeField fun x r => { r with range := x },
   .of "tab" (Reader.optional Reader.int64) fun x r => { r with tab := x }] {}

/-- Reads a function, with generic functions nested up to the given depth. -/
def RawFunction.readerTo : (depth : Nat) → Reader RawFunction
  | 0 => fun _ => .error .malformed
  | depth + 1 => Reader.defaulted
    [.of "name" textField fun x r => { r with own := { r.own with name := x } },
     .of "shortname" textField fun x r => { r with own := { r.own with shortName := x } },
     .of "uri" textField fun x r => { r with own := { r.own with uri := x } },
     .of "range" rangeField fun x r => { r with own := { r.own with range := x } },
     .of "generic" (Reader.optional (readerTo depth)) fun x r =>
       { r with generic := x.map (·.own) }] {}

/-- Reads a function. No text nests its generic functions deeper than this. -/
def RawFunction.reader : Reader RawFunction := readerTo (Tree.maxNesting + 1)

/-- Reads a call. -/
def RawCall.reader : Reader RawCall := Reader.defaulted
  [.of "name" textField fun x r => { r with name := x },
   .of "uri" textField fun x r => { r with uri := x },
   .of "range" rangeField fun x r => { r with range := x },
   .of "function" (Reader.optional RawFunction.reader) fun x r => { r with function := x }] {}

/-- Reads a variable. -/
def RawVariable.reader : Reader RawVariable := Reader.defaulted
  [.of "name" textField fun x r => { r with name := x },
   .of "uri" textField fun x r => { r with uri := x },
   .of "range" rangeField fun x r => { r with range := x },
   .of "type" textField fun x r => { r with type := x },
   .of "category" textField fun x r => { r with category := x },
   .of "index" (Reader.optional Reader.int64) fun x r => { r with index := x }] {}

/-- Reads a constant. -/
def RawConstant.reader : Reader RawConstant := Reader.defaulted
  [.of "value" Tree.toJson fun x r => { r with value := x },
   .of "type" textField fun x r => { r with type := x }] {}

/-- Reads all that is reported about a place. -/
def RawReport.reader : Reader RawReport := Reader.defaulted
  [.of "cursor" (Reader.optional RawAnchor.reader) fun x r => { r with cursor := x },
   .of "function" (Reader.optional RawFunction.reader) fun x r => { r with oneFunction := x },
   .of "functions" (Reader.optional (Reader.list RawFunction.reader)) fun x r =>
     { r with functions := x },
   .of "call" (Reader.optional RawCall.reader) fun x r => { r with oneCall := x },
   .of "calls" (Reader.optional (Reader.list RawCall.reader)) fun x r => { r with calls := x },
   .of "variable" (Reader.optional RawVariable.reader) fun x r => { r with oneVariable := x },
   .of "variables" (Reader.optional (Reader.list RawVariable.reader)) fun x r =>
     { r with vars := x },
   .of "constants" (Reader.optional (Reader.list RawConstant.reader)) fun x r =>
     { r with constants := x }] {}

end EditorBridge.Cursor
