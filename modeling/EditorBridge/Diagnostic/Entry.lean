import EditorBridge.Diagnostic.Basic
import EditorBridge.Resolver
import EditorBridge.Text.Blank

/-!
# Diagnostic entries

Diagnostics as a compiler reports them in JSON. An entry that is malformed, has no message or no
usable file is left out.
-/

namespace EditorBridge

/-- A reported place. -/
structure RawLocation where
  uri : Option String := none
  range : Option RawRange := none
deriving DecidableEq, Repr, Inhabited

/-- A reported remark. -/
structure RawRelated where
  location : Option RawLocation := none
  message : Option String := none
deriving DecidableEq, Repr, Inhabited

/-- A reported diagnostic. With a tab size its coordinates follow another convention. -/
structure RawDiagnostic where
  uri : Option String := none
  message : Option String := none
  range : Option RawRange := none
  severity : Option Int := none
  code : Option Code := none
  source : Option String := none
  related : Option (List RawRelated) := none
  tabbed : Bool := false
deriving DecidableEq, Repr, Inhabited

namespace RawLocation

/-- The fields of a reported place in their order. -/
def fields : List (Field RawLocation) :=
  [.of "uri" (Reader.optional Reader.string) fun x r => { r with uri := x },
   .of "range" (Reader.optional RawRange.reader) fun x r => { r with range := x }]

/-- Reads a reported place. -/
def reader : Reader RawLocation := Reader.defaulted fields {}

end RawLocation

namespace RawRelated

/-- The fields of a reported remark in their order. -/
def fields : List (Field RawRelated) :=
  [.of "location" (Reader.optional RawLocation.reader) fun x r => { r with location := x },
   .of "message" (Reader.optional Reader.string) fun x r => { r with message := x }]

/-- Reads a reported remark. -/
def reader : Reader RawRelated := Reader.defaulted fields {}

end RawRelated

/-- Reads a code: a number of 32 bits or a text. -/
def Code.reader : Reader Code :=
  Reader.orElse (fun t => Code.number <$> Reader.int32 t) (fun t => Code.text <$> Reader.string t)

namespace RawDiagnostic

/-- The fields of a reported diagnostic in their order. -/
def fields : List (Field RawDiagnostic) :=
  [.of "uri" (Reader.optional Reader.string) fun x r => { r with uri := x },
   .of "message" (Reader.optional Reader.string) fun x r => { r with message := x },
   .of "range" (Reader.optional RawRange.reader) fun x r => { r with range := x },
   .of "severity" (Reader.optional Reader.int32) fun x r => { r with severity := x },
   .of "code" (Reader.optional Code.reader) fun x r => { r with code := x },
   .of "source" (Reader.optional Reader.string) fun x r => { r with source := x },
   .of "relatedInformation" (Reader.optional (Reader.list RawRelated.reader)) fun x r =>
     { r with related := x },
   .of "tab" (Reader.optional Tree.toJson) fun x r => { r with tabbed := x.isSome }]

/-- Reads a reported diagnostic. -/
def reader : Reader RawDiagnostic := Reader.defaulted fields {}

/-- The path of the file a diagnostic is about. Without one it is about the document. -/
def path (raw : RawDiagnostic) (document : List Char) : List Char :=
  match raw.uri with
  | some uri => if Text.allBlank uri.toList then document else uri.toList
  | none => document

/-- The convention of a diagnostic's coordinates. -/
def shift (raw : RawDiagnostic) : Shift := if raw.tabbed then .tabbed else .diagnostic

/-- The remark of a diagnostic about the file `uri` at `path`. A remark without a usable place of
its own is about the same file. -/
def remark (fs : FileSystem) (r : Resolver) (shift : Shift) (path : List Char) (uri : Uri)
    (raw : RawRelated) : Related :=
  let location := raw.location.getD {}
  let place := (location.uri.map String.toList).getD path
  ⟨⟨(r.uri? fs place).getD uri, shift.apply (location.range.getD {})⟩, raw.message.getD ""⟩

/-- The diagnostic with its file, if it has a message and a usable file. -/
def toDiagnostic? (fs : FileSystem) (r : Resolver) (document : List Char) (raw : RawDiagnostic) :
    Option (Uri × Diagnostic) := do
  let message ← raw.message
  let path := raw.path document
  let uri ← r.uri? fs path
  return (uri,
    { range := raw.shift.apply (raw.range.getD {})
      severity := raw.severity
      code := raw.code
      source := raw.source
      message := message
      related := raw.related.map (·.map (remark fs r raw.shift path uri)) })

end RawDiagnostic

namespace Diagnostic

/-- The diagnostic of one entry with its file. -/
def entryDiagnostic? (fs : FileSystem) (r : Resolver) (document : List Char) (entry : Json) :
    Option (Uri × Diagnostic) :=
  match RawDiagnostic.reader.json entry with
  | .ok raw => raw.toDiagnostic? fs r document
  | .error _ => none

/-- The diagnostics of all entries, grouped by file. -/
def ofEntries (fs : FileSystem) (r : Resolver) (document : List Char) (entries : List Json) :
    FileMap Diagnostic :=
  .group (entries.filterMap (entryDiagnostic? fs r document))

end Diagnostic

end EditorBridge
