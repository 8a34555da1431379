import EditorBridge.Completion.Item
import EditorBridge.Uri.Reader

/-!
# Forms

Records that are checked and not kept. A form lists the entries of a record in their order, and says
which of them must be there.
-/

namespace EditorBridge

/-- Reads a URI. -/
def Uri.reader : Reader Uri := Reader.filterMap Reader.string Uri.ofString?

/-- A field that is read and not kept. -/
def Field.checked {ρ α : Type} (name : String) (read : Reader α) : Field ρ :=
  { name, set := fun t r => do
    let _ ← read t
    return r }

/-- Reads a record by the names of its fields only. -/
def Reader.named {ρ : Type} (names : List String) (fields : List (Field ρ)) (initial : ρ) :
    Reader ρ := fun t =>
  match t with
  | .object .. => Reader.required names fields initial t
  | t => .error t.wrongKind

/-- An entry of a form. -/
structure Entry where
  name : String
  needed : Bool
  read : Reader Unit
  /-- Whether an array may end before the entry. -/
  trailing : Bool := false

namespace Entry

variable {α : Type}

/-- Reads a value that is not kept. -/
def discard (read : Reader α) : Reader Unit := fun t => do
  let _ ← read t
  return ()

/-- An entry that must be there. -/
def must (name : String) (read : Reader α) : Entry :=
  { name, needed := true, read := discard read }

/-- An entry that may be left out, but not be null. -/
def unlessAbsent (name : String) (read : Reader α) : Entry :=
  { name, needed := false, read := discard read }

/-- An entry that may be left out or be null. -/
def may (name : String) (read : Reader α) : Entry :=
  { name, needed := false, read := discard (Reader.optional read) }

/-- A truth value that may be left out. -/
def flag (name : String) : Entry := may name Reader.bool

/-- A text that may be left out. -/
def text (name : String) : Entry := may name Reader.string

/-- Any value, which may be left out. -/
def any (name : String) : Entry := may name Tree.toJson

/-- The entry as a field. -/
def field {ρ : Type} (e : Entry) : Field ρ :=
  { (.checked e.name e.read : Field ρ) with trailing := e.trailing }

end Entry

/-- A form. -/
abbrev Form := List Entry

namespace Form

/-- The names of the entries that must be there. -/
def needed (form : Form) : List String := (form.filter (·.needed)).map (·.name)

/-- Reads a record by the names of its entries, or by their order. -/
def reader (form : Form) : Reader Unit := Reader.required form.needed (form.map (·.field)) ()

/-- Reads a record by the names of its entries only. -/
def named (form : Form) : Reader Unit := Reader.named form.needed (form.map (·.field)) ()

/-- Reads a record by the names of its entries only. Members that are not entries are read by
`others`. -/
def namedWith {α : Type} (form : Form) (others : Reader α) : Reader Unit := fun t => do
  form.named t
  match t with
  | .object _ members _ =>
    members.forM fun (key, member) => do
      let name ← key
      if form.any (·.name = name) then return ()
      Entry.discard others member
  | _ => return ()

/-- Reads an array of as many elements as there are readers. -/
def elements {α : Type} (readers : List (Reader α)) : Reader Unit
  | .array _ ts none =>
    if ts.length = readers.length then (readers.zip ts).forM fun (read, t) => Entry.discard read t
    else .error .mismatched
  | t => .error t.wrongKind

end Form

namespace Reader

variable {α : Type}

/-- Reads an object as a table, with keys that satisfy `allowed`. -/
def table (allowed : String → Bool) (read : Reader α) : Reader Unit
  | .object _ members _ =>
    members.forM fun (key, member) => do
      let name ← key
      if !allowed name then throw .mismatched
      Entry.discard read member
  | t => .error t.wrongKind

/-- The reader for a kind, which is given by its name or by its place. -/
def kind? (kinds : List (String × Reader α)) : Tree → Option (Reader α)
  | .string (.ok name) => kinds.lookup name
  | .number (.ok (.int place)) => if place < 0 then none else kinds[place.toNat]?.map (·.2)
  | _ => none

/-- Reads a value of one of several kinds. Its kind is told by a member or by the first element. -/
def tagged (mark : String) (kinds : List (String × Reader α)) : Reader α
  | .array deep (t :: rest) stop =>
    (kind? kinds t).elim (.error .mismatched) fun read => read (.array deep rest stop)
  | .object deep members stop =>
    let isMark (member : Tree.Key × Tree) : Bool := match member.1 with
      | .ok name => name = mark
      | .error _ => false
    let others := members.filter fun member => !isMark member
    ((members.find? isMark).bind fun member => kind? kinds member.2).elim (.error .mismatched)
      fun read => read (.object deep others stop)
  | t => .error t.wrongKind

end Reader

end EditorBridge
