import EditorBridge.Json.Tree

/-!
# Readers

A reader turns a tree into a value of some type. It goes from the left and stops at the first fault,
be it of the text or of the kind of value met. Records are read from objects by the names of their
fields, or from arrays by the order of their fields.
-/

namespace EditorBridge

/-- What turns a tree into a value. -/
abbrev Reader (α : Type) := Tree → Except Fault α

namespace Tree

/-- The fault of a tree that is not of the kind asked for. Numbers and strings must be readable to
be of another kind; arrays and objects need not be. -/
def wrongKind : Tree → Fault
  | .fault cause => cause
  | .number (.error cause) => cause
  | .string (.error cause) => cause
  | _ => .mismatched

/-- Succeeds if there is no fault. -/
def proceed : Option Fault → Except Fault Unit
  | none => .ok ()
  | some cause => .error cause

/-- Whether a member stands in an object. Everything stands in an array, where fields have no
names. -/
def hasMember (t : Tree) (name : String) : Bool :=
  match t with
  | .object _ members _ => members.any fun (key, _) => match key with
    | .ok n => n = name
    | .error _ => false
  | _ => true

mutual

/-- Passes over a value: it must be complete, but numbers, strings and nesting are not checked
further. -/
def skip : Reader Unit
  | .fault cause => .error cause
  | .array _ elements stop => do
    skipAll elements
    proceed stop
  | .object _ members stop => do
    skipMembers members
    proceed stop
  | _ => .ok ()
termination_by structural t => t

/-- Passes over elements. -/
def skipAll : List Tree → Except Fault Unit
  | [] => .ok ()
  | t :: rest => do
    skip t
    skipAll rest
termination_by structural ts => ts

/-- Passes over members. -/
def skipMembers : List (Key × Tree) → Except Fault Unit
  | [] => .ok ()
  | (_, t) :: rest => do
    skip t
    skipMembers rest
termination_by structural ms => ms

end

mutual

/-- Reads an untyped value. -/
def toJson : Reader Json
  | .fault cause => .error cause
  | .null => .ok .null
  | .bool b => .ok (.bool b)
  | .number n => .number <$> n
  | .string s => .string <$> s
  | .array deep elements stop => do
    if deep then throw .malformed
    let values ← toJsonAll elements
    proceed stop
    return .array values
  | .object deep members stop => do
    if deep then throw .malformed
    let values ← toJsonMembers members
    proceed stop
    return Json.ofMembers values
termination_by structural t => t

/-- Reads untyped elements. -/
def toJsonAll : List Tree → Except Fault (List Json)
  | [] => .ok []
  | t :: rest => do
    let value ← toJson t
    let values ← toJsonAll rest
    return value :: values
termination_by structural ts => ts

/-- Reads untyped members. -/
def toJsonMembers : List (Key × Tree) → Except Fault (List (String × Json))
  | [] => .ok []
  | (key, t) :: rest => do
    let name ← key
    let value ← toJson t
    let values ← toJsonMembers rest
    return (name, value) :: values
termination_by structural ms => ms

end

mutual

/-- The tree of a value. -/
def ofJson : Json → Tree
  | .null => .null
  | .bool b => .bool b
  | .number n => .number (.ok n)
  | .string s => .string (.ok s)
  | .array elements => .array false (ofJsonAll elements) none
  | .object members => .object false (ofJsonMembers members) none
termination_by structural v => v

/-- The trees of elements. -/
def ofJsonAll : List Json → List Tree
  | [] => []
  | v :: rest => ofJson v :: ofJsonAll rest
termination_by structural vs => vs

/-- The trees of members. -/
def ofJsonMembers : List (String × Json) → List (Key × Tree)
  | [] => []
  | (name, v) :: rest => (.ok name, ofJson v) :: ofJsonMembers rest
termination_by structural ms => ms

end

end Tree

namespace Reader

/-- Reads a string. -/
def string : Reader String
  | .string s => s
  | t => .error t.wrongKind

/-- Reads a truth value. -/
def bool : Reader Bool
  | .bool b => .ok b
  | t => .error t.wrongKind

/-- Reads an integer from `lo` to `hi`. -/
def intBetween (lo hi : Int) : Reader Int
  | .number n => do
    match ← n with
    | .int i => if lo ≤ i ∧ i ≤ hi then return i else throw .mismatched
    | .float _ => throw .mismatched
  | t => .error t.wrongKind

/-- Reads a signed integer of 64 bits. -/
def int64 : Reader Int := intBetween (-9223372036854775808) 9223372036854775807

/-- Reads a signed integer of 32 bits. -/
def int32 : Reader Int := intBetween (-2147483648) 2147483647

/-- Reads an unsigned integer of 32 bits. -/
def nat32 : Reader Nat := fun t => Int.toNat <$> intBetween 0 4294967295 t

/-- Reads an unsigned integer of 64 bits. -/
def uint64 : Reader UInt64 := fun t =>
  (fun i => .ofNat i.toNat) <$> intBetween 0 18446744073709551615 t

/-- Reads a value that may be absent, which is written as null. -/
def optional {α : Type} (read : Reader α) : Reader (Option α)
  | .null => .ok none
  | t => some <$> read t

/-- Reads a list of values. -/
def list {α : Type} (read : Reader α) : Reader (List α)
  | .array deep elements stop => do
    if deep then throw .malformed
    let values ← elements.mapM read
    Tree.proceed stop
    return values
  | t => .error t.wrongKind

/-- Reads by the first of two readers that succeeds, else fails as a value of neither kind. -/
def orElse {α : Type} (first second : Reader α) : Reader α := fun t =>
  match first t with
  | .ok a => .ok a
  | .error _ =>
    match second t with
    | .ok a => .ok a
    | .error _ => .error .mismatched

/-- Reads a value and converts it; a value that cannot be converted is of the wrong kind. -/
def filterMap {α β : Type} (read : Reader α) (convert : α → Option β) : Reader β := fun t => do
  match convert (← read t) with
  | some b => return b
  | none => throw .mismatched

/-- Reads a number. -/
def number : Reader Number
  | .number n => n
  | t => .error t.wrongKind

/-- Reads one of some names. The name may also be the only one in an object, with null as its
value. -/
def choice {α : Type} (ofName? : String → Option α) : Reader α
  | .object _ [(.ok name, .null)] none => (ofName? name).elim (.error .mismatched) .ok
  | t => filterMap string ofName? t

end Reader

/-- A field of a record: its name, and how its value is taken into the record. -/
structure Field (ρ : Type) where
  name : String
  set : Tree → ρ → Except Fault ρ
  /-- Whether an array may end before the field. -/
  trailing : Bool := false

/-- The field that is read by `read` and stored by `put`. -/
def Field.of {ρ α : Type} (name : String) (read : Reader α) (put : α → ρ → ρ) : Field ρ :=
  { name, set := fun t r => (put · r) <$> read t }

namespace Reader

/-- Takes the members of an object into a record. Members without a field are passed over; a field
is not given twice. -/
def members {ρ : Type} (fields : List (Field ρ)) :
    (given : List String) → List (Tree.Key × Tree) → ρ → Except Fault ρ
  | _, [], r => .ok r
  | given, (key, t) :: rest, r => do
    let name ← key
    match fields.find? (·.name = name) with
    | none =>
      t.skip
      members fields given rest r
    | some field =>
      if name ∈ given then throw .mismatched
      members fields (name :: given) rest (← field.set t r)

/-- Takes the elements of an array into the fields of a record in their order. Too many elements are
no JSON for a record. Too few leave the other fields as they are, if `short` or these fields allow
that. -/
def elements {ρ : Type} (short : Bool) (stop : Option Fault) :
    List (Field ρ) → List Tree → ρ → Except Fault ρ
  | [], [], r => do
    Tree.proceed stop
    return r
  | field :: fields, [], r => do
    Tree.proceed stop
    if short || (field :: fields).all (·.trailing) then return r else throw .mismatched
  | [], _ :: _, _ => .error .malformed
  | field :: fields, t :: rest, r => do elements short stop fields rest (← field.set t r)

/-- Reads a record, starting from `initial`. -/
def record {ρ : Type} (short : Bool) (fields : List (Field ρ)) (initial : ρ) : Reader ρ
  | .array deep ts stop => do
    if deep then throw .malformed
    elements short stop fields ts initial
  | .object deep ms stop => do
    if deep then throw .malformed
    let r ← members fields [] ms initial
    Tree.proceed stop
    return r
  | t => .error t.wrongKind

/-- Reads a record whose fields may all be left out. -/
def defaulted {ρ : Type} (fields : List (Field ρ)) (initial : ρ) : Reader ρ :=
  record true fields initial

/-- Reads a record in which the fields with the given names must be present. -/
def required {ρ : Type} (names : List String) (fields : List (Field ρ)) (initial : ρ) : Reader ρ :=
  fun t => do
  let r ← record false fields initial t
  if names.all (t.hasMember ·) then return r else throw .mismatched

end Reader

/-- Reads the value of a whole document, which nothing follows. -/
def Document.read {α : Type} (read : Reader α) (doc : Document) : Except Fault α := do
  let value ← read doc.root
  if doc.trailing then throw .malformed
  return value

/-- Reads a text as one value. -/
def Reader.text {α : Type} (read : Reader α) (cs : List Char) : Except Fault α :=
  (Document.ofText cs).read read

/-- Reads an untyped value as a value of some type. -/
def Reader.json {α : Type} (read : Reader α) (value : Json) : Except Fault α := read (.ofJson value)

end EditorBridge
