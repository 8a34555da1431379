import EditorBridge.Number.Double

/-!
# JSON values

Untyped JSON values. The members of an object are kept in ascending order of their names, each name
once.
-/

namespace EditorBridge

/-- A JSON number: integers of up to 64 bits are exact, all others are binary64 numbers. -/
inductive Number where
  | int (value : Int)
  | float (value : Double)
deriving DecidableEq, Repr, Inhabited

/-- A JSON value. -/
inductive Json where
  | null
  | bool (value : Bool)
  | number (value : Number)
  | string (value : String)
  | array (elements : List Json)
  | object (members : List (String × Json))
deriving Repr, Inhabited

namespace Json

/-- The integer `n` as a value. -/
def int (n : Int) : Json := .number (.int n)

/-- The natural number `n` as a value. -/
def nat (n : Nat) : Json := .int n

/-- Puts a member at its place among members in ascending order of names, instead of one with its
name. -/
def insertMember (name : String) (value : Json) : List (String × Json) → List (String × Json)
  | [] => [(name, value)]
  | (n, v) :: rest =>
    if name < n then (name, value) :: (n, v) :: rest
    else if name = n then (name, value) :: rest
    else (n, v) :: insertMember name value rest

/-- The members in ascending order of names. Of members with one name the last counts. -/
def sortMembers (members : List (String × Json)) : List (String × Json) :=
  members.foldl (fun sorted (name, value) => insertMember name value sorted) []

/-- The object with the given members. -/
def ofMembers (members : List (String × Json)) : Json := .object (sortMembers members)

/-- The object with those of the given members that are present. -/
def ofPresent (members : List (String × Option Json)) : Json :=
  ofMembers (members.filterMap fun (name, value) => value.map (name, ·))

/-- The value of a member, if the value is an object that has it. -/
def member? (name : String) : Json → Option Json
  | .object members => members.lookup name
  | _ => none

@[simp] theorem sortMembers_nil : sortMembers [] = [] := rfl

end Json

end EditorBridge
