import EditorBridge.Path
import EditorBridge.Uri.Percent

/-!
# URIs

URIs by their parts, their text, and the paths of files they name.
-/

namespace EditorBridge

/-- The authority of a URI. The user part includes its `@` and the port its colon. -/
structure Authority where
  user : List Char
  host : List Char
  port : List Char
deriving DecidableEq, Repr, Inhabited

namespace Uri

/-- The path of a URI: segments after slashes, or a text that does not begin with a slash. -/
inductive UriPath where
  | segments (segments : List (List Char))
  | rootless (text : List Char)
deriving DecidableEq, Repr, Inhabited

end Uri

/-- A URI by its parts, with all characters escaped that have to be. -/
structure Uri where
  scheme : List Char
  authority : Option Authority
  path : Uri.UriPath
  query : Option (List Char)
  fragment : Option (List Char)
deriving DecidableEq, Repr, Inhabited

namespace Authority

/-- The empty authority. -/
def empty : Authority := ⟨[], [], []⟩

/-- The text of an authority. -/
def text (a : Authority) : List Char := a.user ++ a.host ++ a.port

end Authority

namespace Uri

/-- The text of a path of segments. -/
def segmentsText (segments : List (List Char)) : List Char := segments.flatMap ('/' :: ·)

/-- The text of a URI without query and fragment. Segments that would look like an authority are
kept apart from the colon. -/
def hierarchy (u : Uri) : List Char :=
  match u.authority, u.path with
  | some a, .segments segments => '/' :: '/' :: a.text ++ segmentsText segments
  | some a, .rootless text => '/' :: '/' :: a.text ++ text
  | none, .segments ([] :: s :: segments) => '/' :: '.' :: segmentsText ([] :: s :: segments)
  | none, .segments segments => segmentsText segments
  | none, .rootless text => text

/-- A part that follows a mark, if it is there. -/
def marked (mark : Char) : Option (List Char) → List Char
  | none => []
  | some text => mark :: text

/-- The text of a URI as characters. -/
def chars (u : Uri) : List Char :=
  u.scheme ++ ':' :: u.hierarchy ++ marked '?' u.query ++ marked '#' u.fragment

/-- The text of a URI. -/
def text (u : Uri) : String := String.ofList u.chars

/-- The scheme of files. -/
def fileScheme : List Char := ['f', 'i', 'l', 'e']

/-- The URI of a file by the segments of its path. -/
def ofSegments (segments : List (List Char)) : Uri :=
  ⟨fileScheme, some .empty, .segments segments, none, none⟩

/-- The URI of a file by its folded path. Only a path from the root has one. -/
def ofFolded? (f : Folded) : Option Uri :=
  if f.rooted then
    some (.ofSegments (if f.names = [] then [[]]
      else f.names.map (Percent.encode Percent.inSegment)))
  else none

/-- Whether a path ends in a letter and a colon or bar after another character. -/
def endsInDrive (path : List Char) : Bool :=
  match path.reverse with
  | mark :: letter :: _ :: _ => (mark = ':' ∨ mark = '|') ∧ letter.isAlpha
  | _ => false

/-- The path of the file that a URI names: it has segments, and no host other than the local one.
The path is text. Where the decoded bytes are not, there are replacement characters in it, and names
that differ in such bytes only are taken for the same. -/
def filePath? (u : Uri) : Option (List Char) :=
  match u.path with
  | .rootless _ => none
  | .segments [] => none
  | .segments segments =>
    let host := (u.authority.map (·.host)).getD []
    if host = [] ∨ host = "localhost".toList then
      let path := Text.Utf8.decodeLossy (segments.flatMap fun s => 0x2F :: Percent.decode s)
      some (if endsInDrive path then path ++ ['/'] else path)
    else none

/-- Whether a path begins with a slash, a letter, digit or underscore, and a colon. -/
def hasDrive : List Char → Bool
  | '/' :: c :: ':' :: _ => c.isAlphanum || c = '_'
  | _ => false

/-- The path in the text of a document's URI: escapes are decoded if the result is text, the scheme
of files is dropped, and so is the slash before a drive. -/
def localPath (uri : List Char) : List Char :=
  let decoded := (Text.Utf8.decode? (Percent.decode uri)).getD uri
  match Text.dropPrefix? "file://".toList decoded with
  | none => decoded
  | some rest => if hasDrive rest then rest.drop 1 else rest

end Uri

end EditorBridge
