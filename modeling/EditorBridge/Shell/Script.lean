import EditorBridge.Shell.Token

/-!
# Shell scripts

The commands of a script and how they are put together. A script is read line by line, so that the
lines before one that cannot be read still have their commands.
-/

namespace EditorBridge.Shell

/-- A redirection of a stream. -/
structure Redirection where
  stream : Nat
  direction : Direction
  target : Word
deriving DecidableEq, Repr

/-- A command of a script. -/
inductive Command where
  | empty
  | simple (assignments : List (List Char × Word)) (words : List Word)
      (redirections : List Redirection)
  | pipe (left right : Command)
  | andThen (first second : Command)
  | both (first second : Command)
  | either (first second : Command)
  | negated (command : Command)
  | background (command : Command)
  | branch (test yes no : Command)
  /-- Runs `yes` if a pattern stands for the text of `subject`. -/
  | select (subject : Word) (patterns : List Word) (yes no : Command)
  /-- Repeats `body` as long as `test` succeeds, or as long as it fails. -/
  | loop (expected : Bool) (test body : Command)
  | each (name : List Char) (words : List Word) (body : Command)
  | define (name : List Char) (body : Command)
  | group (subshell : Bool) (body : Command) (redirections : List Redirection)
deriving Repr, Inhabited

/-- The assignment in a word. -/
def assignment? (w : Word) : Option (List Char × Word) :=
  let name := (w.takeWhile fun
    | .char c false => c ≠ '='
    | _ => false).filterMap fun
    | .char c _ => some c
    | _ => none
  match w.drop name.length with
  | .char '=' false :: value => if isName name then some (name, value) else none
  | _ => none

/-- Words that end a list of commands. -/
def closers : List String := ["then", "do", "done", "fi", "else", "elif", "esac", "\x7d"]

/-- Whether a token is the given plain word. -/
def Token.isWord (t : Token) (text : String) : Bool :=
  match t with
  | .word w => plain? w = some text.toList
  | _ => false

/-- The tokens after an expected word. -/
def expect (text : String) : List Token → Option (List Token)
  | t :: rest => if t.isWord text then some rest else none
  | [] => none

/-- The tokens after line breaks. -/
def skipLines (ts : List Token) : List Token := ts.dropWhile (· = .newline)

/-- Reads the words and redirections of a simple command. -/
def simpleCommand (assignments : List (List Char × Word)) (words : List Word)
    (redirections : List Redirection) : List Token → Option (Command × List Token)
  | .redirect stream direction :: .word target :: rest =>
    simpleCommand assignments words (redirections ++ [⟨stream, direction, target⟩]) rest
  | .redirect .. :: _ => none
  | .word w :: rest =>
    match words, assignment? w with
    | [], some a => simpleCommand (assignments ++ [a]) [] redirections rest
    | _, _ => simpleCommand assignments (words ++ [w]) redirections rest
  | rest => some (.simple assignments words redirections, rest)

/-- Reads redirections. -/
def redirectionsOf (found : List Redirection) : List Token → List Redirection × List Token
  | .redirect stream direction :: .word target :: rest =>
    redirectionsOf (found ++ [⟨stream, direction, target⟩]) rest
  | rest => (found, rest)

/-- Reads words. -/
def wordsOf (found : List Word) : List Token → List Word × List Token
  | .word w :: rest => wordsOf (found ++ [w]) rest
  | rest => (found, rest)

/-- Reads patterns up to the bracket that closes them. -/
def patternsOf (found : List Word) : List Token → Option (List Word × List Token)
  | .word w :: .pipe :: rest => patternsOf (found ++ [w]) rest
  | .word w :: .closing :: rest => some (found ++ [w], rest)
  | _ => none

/-- A command with redirections after it. -/
def Command.redirected (c : Command) (rest : List Token) : Command × List Token :=
  match redirectionsOf [] rest with
  | ([], rest) => (c, rest)
  | (redirections, rest) => (.group false c redirections, rest)

/-- The words that stand for all arguments. -/
def allArguments : List Word := [[.parameter ['@'] true]]

mutual

/-- Reads commands with separators between them, at least one, up to a token that does not begin a
command. -/
def listOf (lines : Bool) : (fuel : Nat) → List Token → Option (Command × List Token)
  | 0, _ => none
  | fuel + 1, ts => do
    let (first, rest) ← chainOf fuel (if lines then skipLines ts else ts)
    match rest with
    | .semicolon :: rest => listRest lines fuel first rest
    | .background :: rest => listRest lines fuel (.background first) rest
    | .newline :: rest =>
      if lines then listRest lines fuel first rest else return (first, .newline :: rest)
    | rest => return (first, rest)

/-- Reads what follows a command and a separator. -/
def listRest (lines : Bool) : (fuel : Nat) → Command → List Token → Option (Command × List Token)
  | 0, _, _ => none
  | fuel + 1, first, ts =>
    match if lines then skipLines ts else ts with
    | [] => some (first, [])
    | .newline :: rest => some (first, .newline :: rest)
    | .closing :: rest => some (first, .closing :: rest)
    | .doubleSemicolon :: rest => some (first, .doubleSemicolon :: rest)
    | t :: rest =>
      if closers.any t.isWord then some (first, t :: rest)
      else (listOf lines fuel (t :: rest)).map fun (second, rest) => (.andThen first second, rest)

/-- Reads commands that depend on each other's success. -/
def chainOf : (fuel : Nat) → List Token → Option (Command × List Token)
  | 0, _ => none
  | fuel + 1, ts => do
    let (first, rest) ← pipelineOf fuel ts
    chainRest fuel first rest

/-- Reads what follows the first command of a chain. -/
def chainRest : (fuel : Nat) → Command → List Token → Option (Command × List Token)
  | 0, _, _ => none
  | fuel + 1, first, ts =>
    match ts with
    | .both :: rest => do
      let (second, rest) ← pipelineOf fuel (skipLines rest)
      chainRest fuel (.both first second) rest
    | .either :: rest => do
      let (second, rest) ← pipelineOf fuel (skipLines rest)
      chainRest fuel (.either first second) rest
    | rest => some (first, rest)

/-- Reads commands joined by pipes. -/
def pipelineOf : (fuel : Nat) → List Token → Option (Command × List Token)
  | 0, _ => none
  | fuel + 1, ts =>
    match expect "!" ts with
    | some rest => (pipesOf fuel rest).map fun (command, rest) => (.negated command, rest)
    | none => pipesOf fuel ts

/-- Reads commands joined by pipes, the first of which is not negated. -/
def pipesOf : (fuel : Nat) → List Token → Option (Command × List Token)
  | 0, _ => none
  | fuel + 1, ts => do
    let (first, rest) ← commandOf fuel ts
    match rest with
    | .pipe :: rest =>
      (pipesOf fuel (skipLines rest)).map fun (second, rest) => (.pipe first second, rest)
    | rest => return (first, rest)

/-- Reads one command. -/
def commandOf : (fuel : Nat) → List Token → Option (Command × List Token)
  | 0, _ => none
  | fuel + 1, ts =>
    match ts with
    | .opening :: rest => do
      let (body, rest) ← listOf true fuel rest
      match rest with
      | .closing :: rest => return (Command.group true body []).redirected rest
      | _ => none
    | .word w :: .opening :: .closing :: rest => do
      let name ← plain? w
      if closers.contains (String.ofList name) then none
      let (body, rest) ← commandOf fuel (skipLines rest)
      return (.define name body, rest)
    | .word w :: rest =>
      match (plain? w).map String.ofList with
      | some "\x7b" => do
        let (body, rest) ← listOf true fuel rest
        return (Command.group false body []).redirected (← expect "\x7d" rest)
      | some "if" => (branchOf fuel rest).map fun (c, rest) => c.redirected rest
      | some "while" => loopOf fuel true rest
      | some "until" => loopOf fuel false rest
      | some "for" =>
        match rest with
        | .word name :: rest => do
          let name ← plain? name
          let (words, rest) := match expect "in" (skipLines rest) with
            | some rest => wordsOf [] rest
            | none => (allArguments, rest)
          let rest := skipLines (match rest with
            | .semicolon :: rest => rest
            | rest => rest)
          let (body, rest) ← bodyOf fuel rest
          return (Command.each name words body).redirected rest
        | _ => none
      | some "case" =>
        match rest with
        | .word subject :: rest => do
          let (c, rest) ← casesOf fuel subject (skipLines (← expect "in" (skipLines rest)))
          return c.redirected rest
        | _ => none
      | some name =>
        if closers.contains name || name = "!" then none
        else simpleCommand [] [] [] (.word w :: rest)
      | none => simpleCommand [] [] [] (.word w :: rest)
    | .redirect stream direction :: rest =>
      simpleCommand [] [] [] (.redirect stream direction :: rest)
    | _ => none

/-- Reads the body of a loop. -/
def bodyOf : (fuel : Nat) → List Token → Option (Command × List Token)
  | 0, _ => none
  | fuel + 1, ts => do
    let (body, rest) ← listOf true fuel (← expect "do" ts)
    return (body, ← expect "done" rest)

/-- Reads the test and the body of a loop. -/
def loopOf : (fuel : Nat) → Bool → List Token → Option (Command × List Token)
  | 0, _, _ => none
  | fuel + 1, expected, ts => do
    let (test, rest) ← listOf true fuel ts
    let (body, rest) ← bodyOf fuel rest
    return (Command.loop expected test body).redirected rest

/-- Reads the test and the branches of a conditional. -/
def branchOf : (fuel : Nat) → List Token → Option (Command × List Token)
  | 0, _ => none
  | fuel + 1, ts => do
    let (test, rest) ← listOf true fuel ts
    let (yes, rest) ← listOf true fuel (← expect "then" rest)
    match expect "elif" rest with
    | some rest => (branchOf fuel rest).map fun (no, rest) => (.branch test yes no, rest)
    | none =>
      match expect "else" rest with
      | some rest => do
        let (no, rest) ← listOf true fuel rest
        return (.branch test yes no, ← expect "fi" rest)
      | none => return (.branch test yes .empty, ← expect "fi" rest)

/-- Reads the cases of a selection. -/
def casesOf : (fuel : Nat) → Word → List Token → Option (Command × List Token)
  | 0, _, _ => none
  | fuel + 1, subject, ts =>
    match expect "esac" ts with
    | some rest => some (.select subject [] .empty .empty, rest)
    | none => do
      let (patterns, rest) ← patternsOf [] (match ts with
        | .opening :: rest => rest
        | rest => rest)
      let rest := skipLines rest
      let (yes, rest) ← if (expect "esac" rest).isSome || rest.head? = some .doubleSemicolon then
          some (.empty, rest)
        else listOf true fuel rest
      let (no, rest) ← match rest with
        | .doubleSemicolon :: rest => casesOf fuel subject (skipLines rest)
        | rest => (expect "esac" rest).map fun rest => (.select subject [] .empty .empty, rest)
      return (.select subject patterns yes no, rest)

end

/-- The commands of a line, unless it cannot be read, and the tokens after it. There are none if
nothing follows. -/
def lineOf (ts : List Token) : Option (Option (Command × List Token)) :=
  match skipLines ts with
  | [] => none
  | ts =>
    match listOf false (8 * (ts.length + 1)) ts with
    | some (c, []) => some (some (c, []))
    | some (c, .newline :: rest) => some (some (c, rest))
    | _ => some none

/-- Whether all lines of a script can be read, and all scripts in their words. -/
def readable : (fuel : Nat) → List Token → Bool
  | 0, _ => true
  | fuel + 1, ts =>
    match lineOf ts with
    | none => true
    | some none => false
    | some (some (_, rest)) =>
      (ts.take (ts.length - rest.length)).all (fun
        | .word w => w.all fun
          | .substitution script _ => readable fuel (tokens script)
          | _ => true
        | _ => true) && readable fuel rest

/-- The commands of a line, unless it or a script in its words cannot be read, and the tokens after
it. There are none if nothing follows. -/
def nextLineOf (ts : List Token) : Option (Option (Command × List Token)) :=
  match lineOf ts with
  | some (some (c, rest)) =>
    let line := ts.take (ts.length - rest.length)
    some (if readable (line.length + 1) line then some (c, rest) else none)
  | other => other

end EditorBridge.Shell
