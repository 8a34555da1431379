/-!
# Tokens of a shell script

The words and operators of a script. A word keeps its pieces apart, since what is quoted is expanded
in another way than what is not. Text that cannot be read is a token too, so that what comes before
it can still be run.
-/

namespace EditorBridge.Shell

/-- A piece of a word. -/
inductive Piece where
  | char (c : Char) (quoted : Bool)
  /-- An empty quoted text. -/
  | nothing
  | parameter (name : List Char) (quoted : Bool)
  /-- A parameter that is replaced, cut or measured as `operator` and `text` say. -/
  | shaped (name operator text : List Char) (quoted : Bool)
  | arithmetic (expression : List Char) (quoted : Bool)
  /-- What a script writes. -/
  | substitution (script : List Char) (quoted : Bool)
deriving DecidableEq, Repr

/-- Whether a piece stands for itself. -/
def Piece.isPlain : Piece → Bool
  | .char .. | .nothing => true
  | _ => false

/-- A word of a script. -/
abbrev Word := List Piece

/-- Where a redirection leads. -/
inductive Direction where
  | toFile
  | atEnd
  | toStream
  | fromFile
  | fromStream
  | fromText
deriving DecidableEq, Repr

/-- A token of a script. -/
inductive Token where
  | word (w : Word)
  | newline
  | semicolon
  | doubleSemicolon
  | background
  | both
  | either
  | pipe
  | opening
  | closing
  | redirect (stream : Nat) (direction : Direction)
  | unreadable
deriving DecidableEq, Repr

/-- Whether a character ends a word. -/
def endsWord (c : Char) : Bool := [' ', '\t', '\n', ';', '&', '|', '<', '>', '(', ')'].contains c

/-- Whether a character may stand in a name. -/
def inName (c : Char) : Bool := c.isAlphanum || c = '_'

/-- Whether a text is a name. -/
def isName : List Char → Bool
  | [] => false
  | c :: cs => inName c && !c.isDigit && cs.all inName

/-- Whether a character names a parameter by itself. -/
def isSpecial (c : Char) : Bool := ['$', '?', '#', '@', '*', '!', '-'].contains c

/-- The text up to the quotation mark that ends a quotation, and what follows it. -/
def quotationEnd (mark : Char) : List Char → Option (List Char × List Char)
  | [] => none
  | '\\' :: c :: rest =>
    if mark = '\x27' then
      if c = mark then some (['\\'], rest)
      else (quotationEnd mark rest).map fun (inner, after) => ('\\' :: c :: inner, after)
    else (quotationEnd mark rest).map fun (inner, after) => ('\\' :: c :: inner, after)
  | c :: rest =>
    if c = mark then some ([], rest)
    else (quotationEnd mark rest).map fun (inner, after) => (c :: inner, after)

/-- The text up to the bracket that closes, and what follows it. Brackets in quotations do not
count. -/
def bracketed (left right : Char) : (fuel depth : Nat) → List Char → Option (List Char × List Char)
  | 0, _, _ => none
  | fuel + 1, depth, cs =>
    match cs with
    | [] => none
    | '\\' :: c :: rest =>
      (bracketed left right fuel depth rest).map fun (inner, after) => ('\\' :: c :: inner, after)
    | c :: rest =>
      if c = '\x27' ∨ c = '"' ∨ c = '\x60' then
        match quotationEnd c rest with
        | some (quotation, after) =>
          (bracketed left right fuel depth after).map fun (inner, after) =>
            (c :: quotation ++ c :: inner, after)
        | none => none
      else if c = right then
        match depth with
        | 0 => some ([], rest)
        | depth + 1 =>
          (bracketed left right fuel depth rest).map fun (inner, after) => (c :: inner, after)
      else
        (bracketed left right fuel (if c = left then depth + 1 else depth) rest).map
          fun (inner, after) =>
          (c :: inner, after)

/-- The expression of an arithmetic expansion, up to its two closing brackets. -/
def arithmeticEnd : (depth : Nat) → List Char → Option (List Char × List Char)
  | 0, ')' :: ')' :: rest => some ([], rest)
  | depth, c :: rest =>
    let depth := if c = '(' then depth + 1 else if c = ')' then depth - 1 else depth
    (arithmeticEnd depth rest).map fun (e, rest) => (c :: e, rest)
  | _, [] => none

/-- The operators that change the value of a parameter, each one before those it begins with. -/
def shapes : List (List Char) :=
  [":-", ":=", ":+", ":?", "-", "=", "+", "?", "%%", "%", "##", "#"].map String.toList

/-- The name of a parameter at the start of a text, and what follows it. -/
def parameterName : List Char → List Char × List Char
  | [] => ([], [])
  | c :: rest =>
    if c.isDigit then (c :: rest.takeWhile Char.isDigit, rest.dropWhile Char.isDigit)
    else if inName c then (c :: rest.takeWhile inName, rest.dropWhile inName)
    else if isSpecial c then ([c], rest)
    else ([], c :: rest)

/-- The piece in braces after a dollar sign. -/
def braced (quoted : Bool) (inner : List Char) : Piece :=
  match inner with
  | '#' :: c :: rest =>
    let (name, after) := parameterName (c :: rest)
    if after.isEmpty then .shaped name ['l', 'e', 'n'] [] quoted else shaped ['#'] (c :: rest)
  | inner => let (name, after) := parameterName inner; shaped name after
where
  shaped (name after : List Char) : Piece :=
    if name.isEmpty then .shaped [] [] [] quoted
    else if after.isEmpty then .parameter name quoted
    else
      match shapes.find? (·.isPrefixOf after) with
      | some operator => .shaped name operator (after.drop operator.length) quoted
      | none => .shaped name [] [] quoted

/-- The expansion after a dollar sign, and what follows it. It may be no expansion at all, or one
without end. -/
def expansion (quoted : Bool) (cs : List Char) : Option (Option (Piece × List Char)) :=
  match cs with
  | '(' :: '(' :: rest =>
    match arithmeticEnd 0 rest with
    | some (e, rest) => some (some (.arithmetic e quoted, rest))
    | none => none
  | '(' :: rest => substitution rest
  | '{' :: rest =>
    (bracketed '{' '}' (rest.length + 1) 0 rest).map fun (inner, rest) =>
      some (braced quoted inner, rest)
  | c :: rest =>
    if isName [c] then
      some (some (.parameter (c :: rest.takeWhile inName) quoted, rest.dropWhile inName))
    else if c.isDigit || isSpecial c then some (some (.parameter [c] quoted, rest))
    else some none
  | [] => some none
where
  substitution (rest : List Char) : Option (Option (Piece × List Char)) :=
    (bracketed '(' ')' (rest.length + 1) 0 rest).map fun (inner, rest) =>
      some (.substitution inner quoted, rest)

/-- The script between two grave accents. -/
def unescaped (quoted : Bool) : List Char → List Char
  | '\\' :: c :: rest =>
    if ['\\', '$', '\x60'].contains c || (quoted && c = '"') then c :: unescaped quoted rest
    else '\\' :: c :: unescaped quoted rest
  | c :: rest => c :: unescaped quoted rest
  | [] => []

/-- The pieces of a quoted text up to `mark`, or to its end if there is none, and what follows
it. -/
def quotedPieces (mark : Option Char) : (fuel : Nat) → List Char → Option (List Piece × List Char)
  | 0, _ => none
  | fuel + 1, cs =>
    match cs with
    | [] => if mark.isNone then some ([], []) else none
    | '\\' :: c :: rest =>
      if ['$', '\x60', '\\'].contains c || mark = some c then more fuel (.char c true) rest
      else if c = '\n' then quotedPieces mark fuel rest
      else more fuel (.char '\\' true) (c :: rest)
    | '$' :: rest => do
      match ← expansion true rest with
      | some (piece, rest) => more fuel piece rest
      | none => more fuel (.char '$' true) rest
    | '\x60' :: rest => do
      let (script, rest) ← quotationEnd '\x60' rest
      more fuel (.substitution (unescaped true script) true) rest
    | c :: rest => if mark = some c then some ([], rest) else more fuel (.char c true) rest
where
  more (fuel : Nat) (piece : Piece) (rest : List Char) : Option (List Piece × List Char) :=
    (quotedPieces mark fuel rest).map fun (pieces, rest) => (piece :: pieces, rest)

/-- The pieces of a text up to a character that ends it, and what follows them. -/
def pieces (ends : Char → Bool) : (fuel : Nat) → List Char → Option (Word × List Char)
  | 0, _ => none
  | fuel + 1, cs =>
    match cs with
    | [] => some ([], [])
    | '\x27' :: rest => do
      let (body, rest) := rest.span (· ≠ '\x27')
      if rest.isEmpty then none else more fuel (.nothing :: body.map (.char · true)) (rest.drop 1)
    | '"' :: rest => do
      let (inner, rest) ← quotedPieces (some '"') (rest.length + 1) rest
      more fuel (if inner.isEmpty then [.nothing] else inner) rest
    | '\\' :: c :: rest => if c = '\n' then pieces ends fuel rest else more fuel [.char c true] rest
    | '$' :: rest => do
      match ← expansion false rest with
      | some (piece, rest) => more fuel [piece] rest
      | none => more fuel [.char '$' false] rest
    | '\x60' :: rest => do
      let (script, rest) ← quotationEnd '\x60' rest
      more fuel [.substitution (unescaped false script) false] rest
    | c :: rest => if ends c then some ([], c :: rest) else more fuel [.char c false] rest
where
  more (fuel : Nat) (found : List Piece) (rest : List Char) : Option (Word × List Char) :=
    (pieces ends fuel rest).map fun (w, rest) => (found ++ w, rest)

/-- The word at the start of a text, and what follows it. -/
def wordAt (cs : List Char) : Option (Word × List Char) := pieces endsWord (cs.length + 1) cs

/-- The word that a whole text is. -/
def Word.ofText? (quoted : Bool) (cs : List Char) : Option Word :=
  if quoted then (quotedPieces none (cs.length + 1) cs).map (·.1)
  else (pieces (fun _ => false) (cs.length + 1) cs).map (·.1)

/-- The text of a word in which nothing is quoted or expanded. -/
def plain? (w : Word) : Option (List Char) :=
  w.mapM fun
    | .char c false => some c
    | _ => none

/-- The operator at the start of a text, and what follows it. -/
def operator? : List Char → Option (Token × List Char)
  | '&' :: '&' :: rest => some (.both, rest)
  | '|' :: '|' :: rest => some (.either, rest)
  | ';' :: ';' :: rest => some (.doubleSemicolon, rest)
  | ';' :: rest => some (.semicolon, rest)
  | '\n' :: rest => some (.newline, rest)
  | '&' :: rest => some (.background, rest)
  | '|' :: rest => some (.pipe, rest)
  | '(' :: rest => some (.opening, rest)
  | ')' :: rest => some (.closing, rest)
  | '>' :: '&' :: rest => some (.redirect 1 .toStream, rest)
  | '>' :: '>' :: rest => some (.redirect 1 .atEnd, rest)
  | '>' :: '|' :: rest => some (.redirect 1 .toFile, rest)
  | '>' :: rest => some (.redirect 1 .toFile, rest)
  | '<' :: '&' :: rest => some (.redirect 0 .fromStream, rest)
  | '<' :: '<' :: rest => some (.redirect 0 .fromText, rest)
  | '<' :: rest => some (.redirect 0 .fromFile, rest)
  | _ => none

/-- A digit directly before a redirection names its stream. -/
def withStream (w : Word) (token : Token) : Option Token :=
  match plain? w, token with
  | some [c], .redirect _ direction =>
    if c.isDigit then some (.redirect (c.toNat - '0'.toNat) direction) else none
  | _, _ => none

/-- The lines of a text up to one that is the delimiter, and the text after that. -/
def documentEnd (dropTabs : Bool) (delimiter : List Char) :
    (fuel : Nat) → List Char → List Char × List Char
  | 0, cs => ([], cs)
  | fuel + 1, cs =>
    if cs.isEmpty then ([], [])
    else
      let line :=
        if dropTabs then (cs.takeWhile (· ≠ '\n')).dropWhile (· = '\t') else cs.takeWhile (· ≠ '\n')
      match cs.dropWhile (· ≠ '\n') with
      | [] => (if line = delimiter then [] else line, [])
      | lineBreak :: after =>
        if line = delimiter then ([], after)
        else
          let (document, rest) := documentEnd dropTabs delimiter fuel after
          (line ++ lineBreak :: document, rest)

/-- The text that stands in the lines after a redirection, as a word, and the script without it. -/
def document? (cs : List Char) : Option (Word × List Char) := do
  let (dropTabs, cs) := match cs with
    | '-' :: rest => (true, rest)
    | rest => (false, rest)
  let (delimiter, rest) ← wordAt (cs.dropWhile fun c => c = ' ' || c = '\t')
  let quoted := (plain? delimiter).isNone
  let text := delimiter.filterMap fun
    | .char c _ => some c
    | _ => none
  let line := rest.takeWhile (· ≠ '\n')
  let (body, after) :=
    documentEnd dropTabs text (rest.length + 1) ((rest.dropWhile (· ≠ '\n')).drop 1)
  let body ← if quoted then some (body.map (.char · true)) else Word.ofText? true body
  return (body, line ++ '\n' :: after)

/-- The tokens of a script, up to the first text that cannot be read. -/
def tokensOf : (fuel : Nat) → List Char → List Token
  | 0, _ => [.unreadable]
  | fuel + 1, cs =>
    match cs with
    | [] => []
    | ' ' :: rest | '\t' :: rest => tokensOf fuel rest
    | '\\' :: '\n' :: rest => tokensOf fuel rest
    | '#' :: rest => tokensOf fuel (rest.dropWhile (· ≠ '\n'))
    | cs =>
      match operator? cs with
      | some (token, rest) => operator fuel token rest
      | none =>
        match wordAt cs with
        | none => [.unreadable]
        | some (w, rest) =>
          match operator? rest with
          | some (token, after) =>
            match withStream w token with
            | some token => operator fuel token after
            | none => .word w :: tokensOf fuel rest
          | none => .word w :: tokensOf fuel rest
where
  operator (fuel : Nat) (token : Token) (rest : List Char) : List Token :=
    match token with
    | .redirect _ .fromText =>
      match document? rest with
      | some (document, rest) => token :: .word document :: tokensOf fuel rest
      | none => [.unreadable]
    | token => token :: tokensOf fuel rest

/-- The tokens of a script. -/
def tokens (script : List Char) : List Token := tokensOf (2 * script.length + 2) script

end EditorBridge.Shell
