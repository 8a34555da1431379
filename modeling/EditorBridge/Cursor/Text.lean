import EditorBridge.Cursor.Report

/-!
# Texts of what stands at a place

Each function, call, variable and constant has a short text; the verbose text adds where it stands.
-/

namespace EditorBridge.Cursor

/-- Path and range on a line of their own. The empty range at the start of a text is no place. -/
def placeText (path : List Char) (range : Option Range) : String :=
  let pathText := if path = [] then "" else "\n// " ++ String.ofList path
  match range.filter (· ≠ .origin) with
  | none => pathText
  | some range => pathText ++ (if path = [] then "\n// " else " ") ++ range.text

/-- The text of a function. -/
def Func.text (verbose : Bool) (f : Func) : String :=
  "def " ++ f.name ++ if verbose then placeText f.path f.range else ""

/-- The text of a call by itself. -/
def Call.text (verbose : Bool) (c : Call) : String :=
  c.name ++ " // call" ++ if verbose then placeText c.path c.range else ""

/-- A type after the thing it is the type of. -/
def typeText : Option String → String
  | none => ""
  | some type => ": " ++ type

/-- The text of a variable's index, which is shown unless it is zero. -/
def indexText : Option Int → String
  | none => ""
  | some index => if index = 0 then "" else " @" ++ toString index

/-- The text of a variable. -/
def Variable.text (verbose : Bool) (v : Variable) : String :=
  v.name ++ typeText v.type ++ " // " ++ ((v.category.map (·.label)).getD "variable") ++
    if verbose then indexText v.index ++ placeText v.path v.range else ""

/-- The text of a constant. -/
def Constant.text (c : Constant) : String := c.value ++ typeText c.type ++ " // constant"

end EditorBridge.Cursor
