import EditorBridge.Uri.Host

/-!
# Reading URIs

The parts of a URI from its text. Blanks around the text and line breaks in it are dropped, the
scheme is put into lower case, dot segments are folded, and characters that need it are escaped.
-/

namespace EditorBridge.Uri

/-- Tabs and line breaks, which are not part of a URI. -/
def isBreak (c : Char) : Bool := c = '\t' || c = '\n' || c = '\r'

/-- The text without tabs and line breaks. -/
def unbroken (cs : List Char) : List Char := cs.filter (!isBreak ·)

/-- Drops spaces and control characters around a text. -/
def trim (cs : List Char) : List Char :=
  let isOuter (c : Char) : Bool := c.toNat ≤ 0x20
  ((cs.dropWhile isOuter).reverse.dropWhile isOuter).reverse

/-- Cuts a scheme and the text after its colon. -/
def splitScheme? (cs : List Char) : Option (List Char × List Char) :=
  let isPart (c : Char) : Bool := c.isAlphanum || c = '+' || c = '-' || c = '.' || isBreak c
  let scheme := unbroken (cs.takeWhile isPart)
  match scheme, cs.dropWhile isPart with
  | c :: _, ':' :: rest => if c.isAlpha then some (scheme.map Char.toLower, rest) else none
  | _, _ => none

/-- Cuts a text at the first `mark`. -/
def splitMark (mark : Char) (cs : List Char) : List Char × Option (List Char) :=
  (cs.takeWhile (· ≠ mark), (cs.dropWhile (· ≠ mark)).tail?)

/-- A segment with escaped points read as points. -/
def pointText (segment : List Char) : List Char :=
  Text.replace ['%', '2', 'e'] ['.'] (segment.map Char.toLower)

/-- Whether a text is a letter and a colon or bar. -/
def isDrive (segment : List Char) : Bool :=
  match segment with
  | [c, mark] => c.isAlpha && (mark = ':' || mark = '|')
  | _ => false

/-- A path that is being read: its segments, and whether it begins with the drive of a file. -/
structure PathReading where
  segments : List (List Char) := []
  hasDrive : Bool := false
deriving DecidableEq, Repr, Inhabited

/-- The segments without the last one. A drive stays. -/
def shorten (segments : List (List Char)) : List (List Char) :=
  if (segments.getLast?.map isDrive).getD false then segments else segments.dropLast

/-- The drive in a segment that goes on after a tab or line break, and the text after it. -/
def brokenDrive? (segment : List Char) : Option (List Char × List Char) :=
  match unbroken segment with
  | letter :: ':' :: c :: cs =>
    let after := ((segment.dropWhile (· ≠ ':')).drop 1)
    if letter.isAlpha ∧ (after.head?.map isBreak).getD false then some ([letter, ':'], c :: cs)
    else none
  | _ => none

/-- Reads a segment of a path, which is the last one or not. One point stays where it is, two go
back by one segment; a path that ends in a dot segment ends in a slash. The path of a `file` may
begin with a drive, after which a slash is put in if need be. -/
def PathReading.push (file isLast : Bool) (s : PathReading) (segment : List Char) : PathReading :=
  let encode := Percent.encode Percent.inPath
  let slash : List (List Char) := if isLast then [[]] else []
  let text := unbroken segment
  match if file ∧ s.segments = [] then brokenDrive? segment else none with
  | some (drive, rest) => { s with segments := [drive, encode rest] }
  | none =>
    let point := pointText text
    if point = ['.', '.'] then { s with segments := shorten s.segments ++ slash }
    else if point = ['.'] then { s with segments := s.segments ++ slash }
    else if file ∧ s.segments = [] ∧ isDrive text then ⟨[text.take 1 ++ [':']], true⟩
    else { s with segments := s.segments ++ [encode text] }

/-- Reads the segments of a path. -/
def PathReading.pushAll (file : Bool) : PathReading → List (List Char) → PathReading
  | s, [] => s
  | s, segment :: rest => (s.push file rest.isEmpty segment).pushAll file rest

/-- The segments without empty ones at the start, the last one apart. -/
def dropEmpty : List (List Char) → List (List Char)
  | [] :: segment :: rest => dropEmpty (segment :: rest)
  | segments => segments

/-- Reads a path without its first slash. -/
def readPath (file : Bool) (path : List Char) : PathReading :=
  let s := PathReading.pushAll file {} (Text.split (· = '/') path)
  if file then { s with segments := dropEmpty s.segments } else s

/-- The text after a slash at its start. -/
def afterSlash? (cs : List Char) : Option (List Char) :=
  match cs.dropWhile isBreak with
  | '/' :: rest => some rest
  | _ => none

/-- The text without one slash at its start. -/
def dropSlash (cs : List Char) : List Char := (afterSlash? cs).getD cs

/-- The host in the URI of a file; the local one is empty. -/
def fileHost? (text : List Char) : Option (List Char) :=
  if text = [] then some []
  else (host? true text).map fun host => if host = "localhost".toList then [] else host

/-- Reads authority and path of the URI of a file. A drive at the start of the path stands for the
host. -/
def readFile (cs : List Char) : Option (Option Authority × UriPath) :=
  let inside (path : List Char) : Option Authority × UriPath :=
    (some .empty, .segments (readPath true path).segments)
  match (afterSlash? cs).bind afterSlash? with
  | none => some (inside (dropSlash cs))
  | some rest =>
    let hostText := unbroken (rest.takeWhile (· ≠ '/'))
    let path := rest.dropWhile (· ≠ '/')
    if isDrive hostText then some (inside rest)
    else do
      let host ← fileHost? hostText
      if host = [] then return inside path
      let s := readPath true (dropSlash path)
      return (some ⟨[], if s.hasDrive then [] else host, []⟩, .segments s.segments)

/-- Reads authority and path of a URI with another special scheme. -/
def readSpecial (scheme : List Char) (isEnd : Bool) (cs : List Char) :
    Option (Option Authority × UriPath) := do
  let (authority, path) ← authority? scheme isEnd (cs.dropWhile (· = '/'))
  return (some authority, .segments (readPath false (dropSlash path)).segments)

/-- Reads authority and path of a URI with any other scheme. -/
def readPlain (scheme : List Char) (isEnd : Bool) (cs : List Char) :
    Option (Option Authority × UriPath) :=
  match cs with
  | '/' :: '/' :: rest => do
    let (authority, path) ← authority? scheme isEnd rest
    return (some authority,
      .segments (if path = [] then [] else (readPath false (dropSlash path)).segments))
  | '/' :: path => some (none, .segments (readPath false path).segments)
  | text => some (none, .rootless (Percent.encode Percent.isControl text))

/-- Reads a URI. -/
def read? (cs : List Char) : Option Uri := do
  let (scheme, rest) ← splitScheme? (trim cs)
  let (body, fragment) := splitMark '#' rest
  let (body, query) := splitMark '?' body
  let special := isSpecial scheme
  let isEnd := query.isNone && fragment.isNone
  let body := if special then body.map fun c => if c = '\\' then '/' else c else body
  let (authority, path) ←
    if scheme = fileScheme then readFile body
    else if special then readSpecial scheme isEnd (unbroken body)
    else readPlain scheme isEnd (unbroken body)
  let inQuery (c : Char) : Bool := Percent.inQuery c || (special && c = '\x27')
  return ⟨scheme, authority, path, query.map fun q => Percent.encode inQuery (unbroken q),
    fragment.map fun f => Percent.encode Percent.inFragment (unbroken f)⟩

/-- Reads a URI from a text. -/
def ofString? (s : String) : Option Uri := read? s.toList

end EditorBridge.Uri
