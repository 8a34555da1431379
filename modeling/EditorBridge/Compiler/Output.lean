import EditorBridge.Json.Reader

/-!
# Compiler output

The record a compiler run prints: entries for diagnostics and for completion items, each still
untyped.
-/

namespace EditorBridge

/-- What a compiler run reports, as far as it reports it. -/
structure CompilerOutput where
  diagnostics : Option (List Json) := none
  items : Option (List Json) := none
deriving Inhabited

namespace CompilerOutput

/-- The fields of the record in their order. -/
def fields : List (Field CompilerOutput) :=
  let entries := Reader.optional (Reader.list Tree.toJson)
  [.of "diagnostics" entries fun x r => { r with diagnostics := x },
   .of "items" entries fun x r => { r with items := x }]

/-- Reads compiler output. -/
def reader : Reader CompilerOutput := Reader.defaulted fields {}

end CompilerOutput

end EditorBridge
