import EditorBridge.Json.Reader

/-!
# Positions and ranges

Ranges as a compiler reports them, with signed coordinates and conventions of their own, and ranges
in an editor, which count from zero.
-/

namespace EditorBridge

/-- A position in a document: line and character count from zero. -/
structure Position where
  line : UInt32
  character : UInt32
deriving DecidableEq, Repr, Inhabited

/-- A range in a document. -/
structure Range where
  start : Position
  stop : Position
deriving DecidableEq, Repr, Inhabited

namespace Position

/-- The start of a document. -/
def origin : Position := ⟨0, 0⟩

/-- The position as JSON. -/
def toJson (p : Position) : Json :=
  .ofMembers [("line", .nat p.line.toNat), ("character", .nat p.character.toNat)]

/-- Line and character as text. -/
def text (p : Position) : String := toString p.line.toNat ++ ":" ++ toString p.character.toNat

end Position

namespace Range

/-- The empty range at the start of a document. -/
def origin : Range := ⟨.origin, .origin⟩

/-- The empty range at a position. -/
def emptyAt (p : Position) : Range := ⟨p, p⟩

/-- The range as JSON. -/
def toJson (r : Range) : Json := .ofMembers [("start", r.start.toJson), ("end", r.stop.toJson)]

/-- The two positions as text. -/
def text (r : Range) : String := r.start.text ++ "-" ++ r.stop.text

end Range

/-- A position as a compiler reports it. -/
structure RawPosition where
  line : Int := 0
  character : Int := 0
deriving DecidableEq, Repr, Inhabited

/-- A range as a compiler reports it. Its last line is the one after the last covered line. -/
structure RawRange where
  start : RawPosition := {}
  stop : RawPosition := {}
deriving DecidableEq, Repr, Inhabited

namespace RawPosition

/-- The fields of a reported position in their order. -/
def fields : List (Field RawPosition) :=
  [.of "line" Reader.int64 fun x r => { r with line := x },
   .of "character" Reader.int64 fun x r => { r with character := x }]

/-- Reads a reported position. -/
def reader : Reader RawPosition := Reader.defaulted fields {}

end RawPosition

namespace RawRange

/-- The fields of a reported range in their order. -/
def fields : List (Field RawRange) :=
  [.of "start" RawPosition.reader fun x r => { r with start := x },
   .of "end" RawPosition.reader fun x r => { r with stop := x }]

/-- Reads a reported range. -/
def reader : Reader RawRange := Reader.defaulted fields {}

end RawRange

/-- The offsets between reported and editor coordinates: of both lines, and of the last
character. -/
structure Shift where
  line : Int
  stop : Int
deriving DecidableEq, Repr

namespace Shift

/-- Cursor reports count lines from one. -/
def cursor : Shift := ⟨-1, 0⟩

/-- Diagnostics count lines from zero. -/
def diagnostic : Shift := ⟨0, 0⟩

/-- Diagnostics with a tab size count lines from one, and their last character is inside. -/
def tabbed : Shift := ⟨-1, 1⟩

/-- The sum in signed numbers of 64 bits, with the nearest such number where it does not fit. -/
def add (a b : Int) : Int := max (-9223372036854775808) (min 9223372036854775807 (a + b))

/-- The nearest unsigned number of 32 bits. -/
def clamp (n : Int) : UInt32 := UInt32.ofNat (min n.toNat 4294967295)

/-- The editor's range for a reported range. Its lines and characters are moved, made at least zero,
and the end is put behind the start; only then are they cut to 32 bits. -/
def apply (shift : Shift) (raw : RawRange) : Range :=
  let startLine := max 0 (add raw.start.line shift.line)
  let startCharacter := max 0 raw.start.character
  let stopLine := max startLine (max 0 (add raw.stop.line shift.line) - 1)
  let stopCharacter := max 0 (add raw.stop.character shift.stop)
  let stopCharacter :=
    if startLine = stopLine then max stopCharacter startCharacter else stopCharacter
  ⟨⟨clamp startLine, clamp startCharacter⟩, ⟨clamp stopLine, clamp stopCharacter⟩⟩

end Shift

end EditorBridge
