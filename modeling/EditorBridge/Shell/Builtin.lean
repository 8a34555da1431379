import EditorBridge.Shell.State

/-!
# Commands of the shell

What the commands do that a shell knows by itself and that run no other command.
-/

namespace EditorBridge.Shell

/-- The signals by their names. -/
def signals : List (String × Nat) :=
  [("HUP", 1), ("INT", 2), ("QUIT", 3), ("ILL", 4), ("TRAP", 5), ("ABRT", 6), ("BUS", 7),
   ("FPE", 8), ("KILL", 9), ("USR1", 10), ("SEGV", 11), ("USR2", 12), ("PIPE", 13), ("ALRM", 14),
   ("TERM", 15), ("STKFLT", 16), ("CHLD", 17), ("CONT", 18), ("STOP", 19), ("TSTP", 20),
   ("TTIN", 21), ("TTOU", 22), ("URG", 23), ("XCPU", 24), ("XFSZ", 25), ("VTALRM", 26),
   ("PROF", 27), ("WINCH", 28), ("IO", 29), ("PWR", 30), ("SYS", 31)]

/-- Signals that a process does not notice. -/
def unnoticed : List Nat := [0, 17, 18, 23, 28]

/-- Signals that stop a process for good. -/
def stopping : List Nat := [19, 20, 21, 22]

/-- The signal with a name or a number. The end of a run counts as the signal zero. -/
def signal? (text : List Char) : Option Nat :=
  let upper := String.ofList (text.map Char.toUpper)
  if text ≠ [] ∧ text.all Char.isDigit then if decimal text ≤ 64 then some (decimal text) else none
  else if upper = "EXIT" then some 0
  else signals.lookup upper

/-- The milliseconds of a duration in seconds, unless it is none. -/
def milliseconds? (text : List Char) : Option Nat :=
  let whole := text.takeWhile Char.isDigit
  let rest := text.dropWhile Char.isDigit
  let (places, rest) := match rest with
    | '.' :: rest => (rest.takeWhile Char.isDigit, rest.dropWhile Char.isDigit)
    | rest => ([], rest)
  let time := 1000 * decimal whole + decimal ((places ++ ['0', '0', '0']).take 3)
  if whole.isEmpty && places.isEmpty then none
  else
    match rest with
    | [] | ['s'] => some time
    | ['m'] => some (60 * time)
    | ['h'] => some (3600 * time)
    | ['d'] => some (86400 * time)
    | _ => none

/-- The commands whose mistakes end a script, and before which assignments stay. -/
def specialNames : List String :=
  [":", ".", "eval", "exec", "exit", "export", "readonly", "return", "set", "shift", "times",
   "trap", "unset", "break", "continue"]

/-- The other commands that a shell knows by itself. -/
def builtinNames : List String :=
  ["[", "alias", "bg", "cd", "chdir", "command", "echo", "false", "fg", "getopts", "hash", "jobs",
   "kill", "local", "printf", "pwd", "read", "test", "true", "type", "ulimit", "umask",
   "unalias", "wait"]

/-- The programs of their own. -/
def programNames : List String :=
  ["sh", "echo", "printf", "true", "false", "cat", "sleep", "seq", "head", "tail", "test", "[",
   "wc", "tr", "sort", "uniq", "cut", "rev", "tac", "basename", "dirname", "yes", "pwd",
   "ls", "kill"]

/-- The words of the grammar. -/
def keywords : List String :=
  ["!", "\x7b", "\x7d", "case", "do", "done", "elif", "else", "esac", "fi", "for", "if", "in",
   "then", "until", "while"]

/-- Where a name and a value are parted. -/
def splitAssignment (cs : List Char) : List Char × Option (List Char) :=
  (cs.takeWhile (· ≠ '='), (cs.dropWhile (· ≠ '=')).tail?)

/-- The letters of options with names. -/
def optionLetter? (name : List Char) : Option Char :=
  [("errexit", 'e'), ("noglob", 'f'), ("nounset", 'u'), ("xtrace", 'x'), ("verbose", 'v'),
   ("noclobber", 'C'), ("allexport", 'a'), ("noexec", 'n')].lookup (String.ofList name)

namespace State

/-- Switches options on or off. -/
def switch (s : State) (on : Bool) (letters : List Char) : State :=
  { s with options := s.options.filter (!letters.contains ·) ++ (if on then letters else []) }

/-- Sets options and arguments. -/
def setAll (s : State) : (fuel : Nat) → List (List Char) → State
  | 0, _ => s
  | fuel + 1, args =>
    let setArguments (args : List (List Char)) : State :=
      { s with arguments := s.arguments.take 1 ++ args }
    match args with
    | [] => s
    | ['-', '-'] :: rest => setArguments rest
    | ['-'] :: rest => if rest.isEmpty then s else setArguments rest
    | ['-', 'o'] :: name :: rest => (s.switch true (optionLetter? name).toList).setAll fuel rest
    | ['+', 'o'] :: name :: rest => (s.switch false (optionLetter? name).toList).setAll fuel rest
    | ('-' :: letters) :: rest => (s.switch true letters).setAll fuel rest
    | ('+' :: letters) :: rest => (s.switch false letters).setAll fuel rest
    | args => setArguments args

/-- Exports variables, or makes them constant. -/
def declare (s : State) (constant : Bool) : List (List Char) → Option State
  | [] => some s
  | arg :: rest => do
    let (name, value) := splitAssignment arg
    if !isName name then none
    let s ← match value with
      | some value => s.assign? name value
      | none => some s
    let s :=
      if constant then { s with fixed := name :: s.fixed }
      else { s with exported := name :: s.exported }
    s.declare constant rest

/-- Keeps the values of variables for the end of the function that is running. -/
def localize (s : State) : List (List Char) → Option State
  | [] => some s
  | arg :: rest => do
    let (name, value) := splitAssignment arg
    match s.frames with
    | [] => none
    | frame :: frames =>
      let frame :=
        if (frame.lookup name).isSome then frame else (name, s.bindings.lookup name) :: frame
      let s := { s with frames := frame :: frames }
      let s ← match value with
        | some value => s.assign? name value
        | none => some s
      s.localize rest

/-- The variables after a function. -/
def restore (bindings : Bindings) (frame : List (List Char × Option (List Char))) : Bindings :=
  frame.foldl (fun b (name, value) => match value with
    | some value => b.set name value
    | none => b.filter (·.1 ≠ name)) bindings

/-- The first line of the input, whether it ends, and the input after it. A backslash takes the
meaning from the character after it, unless the line is `raw`. -/
def nextLine (raw : Bool) : List UInt8 → List (UInt8 × Bool) × Bool × List UInt8
  | [] => ([], false, [])
  | 92 :: b :: rest =>
    if raw then
      if b = 10 then ([(92, false)], true, rest)
      else
        let (line, isEnded, rest) := nextLine raw rest
        ((92, false) :: (b, false) :: line, isEnded, rest)
    else
      let (line, isEnded, rest) := nextLine raw rest
      (if b = 10 then line else (b, true) :: line, isEnded, rest)
  | b :: rest =>
    if b = 10 then ([], true, rest)
    else
      let (line, isEnded, rest) := nextLine raw rest
      ((b, false) :: line, isEnded, rest)

/-- The values that a line gives to names: one field for each, and the rest of the line for the
last. -/
def lineValues (separators : List Char) : (count : Nat) → Marked → List (List Char)
  | 0, _ => []
  | count + 1, m =>
    let isBlank (m : Char × Bool) : Bool :=
      !m.2 && separators.contains m.1 && [' ', '\t', '\n'].contains m.1
    let isMark (m : Char × Bool) : Bool := !m.2 && separators.contains m.1
    let m := m.dropWhile isBlank
    if count = 0 then [Marked.text (m.reverse.dropWhile isBlank).reverse]
    else
      let rest := (m.dropWhile (!isMark ·)).dropWhile isBlank
      let rest := match rest with
        | c :: after => if isMark c then after else rest
        | [] => []
      Marked.text (m.takeWhile (!isMark ·)) :: lineValues separators count rest

/-- Reads a line into variables. -/
def readLine (s : State) (args : List (List Char)) : State × Flow :=
  let (found, names) := optionsOf ['p'] args
  let (line, isEnded, rest) := nextLine (found.lookup 'r').isSome s.input
  let s := { s with input := rest }
  let text := Text.Utf8.decodeLossy (line.map (·.1))
  let marks :=
    if text.length = line.length then line.map (·.2) else List.replicate text.length false
  let values := lineValues s.separators names.length (text.zip marks)
  if names.isEmpty then s.ended 2
  else
    match (names.zip values).foldlM (fun s (name, value) => s.assign? name value) s with
    | some s => s.ended (if isEnded then 0 else 1)
    | none => s.fatal

/-- Goes to a directory. -/
def enter (fs : FileSystem) (s : State) (path : List Char) (tell : Bool) : State × Flow :=
  match (s.around fs).directory s.directory path with
  | .ok place =>
    let moved := { s with
      directory := place
      bindings :=
        (s.bindings.set "OLDPWD".toList s.directoryText).set "PWD".toList
          (Folded.text ⟨true, place⟩) }
    (if tell then moved.say (Text.Utf8.encode (moved.directoryText ++ ['\n'])) else moved).ended 0
  | .error _ => s.ended 2

/-- Where a command is found: a text for each way of asking. -/
def described (s : State) (name : List Char) (brief : Bool) : Option (List Char) :=
  let text := String.ofList name
  let say (long : String) : List Char := if brief then name else name ++ (" is " ++ long).toList
  if keywords.contains text then some (say "a shell keyword")
  else if specialNames.contains text then some (say "a special shell builtin")
  else if (s.functions.lookup name).isSome then some (say "a shell function")
  else if builtinNames.contains text then some (say "a shell builtin")
  else if programNames.contains text then
    let path := "/usr/bin/".toList ++ name
    some (if brief then path else name ++ " is ".toList ++ path)
  else none

/-- Tells where commands are found. -/
def describe (s : State) (names : List (List Char)) (brief : Bool) : State × Flow :=
  names.foldl (fun (s, _) name =>
    match s.described name brief with
    | some text => (s.say (Text.Utf8.encode (text ++ ['\n']))).ended s.status
    | none =>
      (if brief then s else s.say (Text.Utf8.encode (name ++ ": not found\n".toList))).ended 127)
        (s.ended 0)

/-- Writes a format with arguments. -/
def print (s : State) (format : List Char) (args : List (List Char)) : State × Flow :=
  let (bytes, status) := formatted format args
  (s.say bytes).ended status

/-- The signals that a trap is set for, with what is done. -/
def trap (s : State) (args : List (List Char)) : State × Flow :=
  let args := if args.head? = some ['-', '-'] then args.drop 1 else args
  let set (action : Option (List Char)) (names : List (List Char)) : State × Flow :=
    match names.mapM signal? with
    | some numbers =>
      let others := s.traps.filter (!numbers.contains ·.1)
      let added := match action with
        | some action => numbers.map (·, action)
        | none => []
      { s with traps := added ++ others }.ended 0
    | none => s.ended 1
  match args with
  | [] => s.ended 0
  | [name] => set none [name]
  | action :: names =>
    if action = ['-'] ∨ (action ≠ [] ∧ action.all Char.isDigit) then
      set none (if action = ['-'] then names else action :: names)
    else set (some action) names

end State

/-- What a program writes that only writes its arguments. Options may say that escapes are meant, or
that no line break follows. -/
def plainEcho (args : List (List Char)) : List UInt8 :=
  let isOption (arg : List Char) : Bool := match arg with
    | '-' :: c :: rest => (c :: rest).all fun c => ['n', 'e', 'E'].contains c
    | _ => false
  let letters := (args.takeWhile isOption).flatMap (List.drop 1)
  let text := Text.join [' '] (args.dropWhile isOption)
  let line : List UInt8 := if letters.contains 'n' then [] else [10]
  if (letters.filter (· ≠ 'n')).getLast? = some 'e' then
    let (bytes, cut) := escaped true true (text.length + 1) text
    if cut then bytes else bytes ++ line
  else Text.Utf8.encode text ++ line

/-- Runs a command that a shell knows by itself. -/
def builtin? (fs : FileSystem) (s : State) (name : String) (args : List (List Char)) :
    Option (State × Flow) :=
  match name with
  | "true" | ":" | "alias" | "unalias" | "hash" | "jobs" | "bg" | "fg" | "times" | "ulimit" =>
    some (s.ended 0)
  | "false" => some (s.ended 1)
  | "getopts" => some (s.ended 1)
  | "umask" => some ((s.say (Text.Utf8.encode "0022\n".toList)).ended 0)
  | "echo" =>
    let (line, args) : List UInt8 × List (List Char) := match args with
      | ['-', 'n'] :: rest => ([], rest)
      | args => ([10], args)
    let (bytes, cut) := echoed (Text.join [' '] args)
    some ((s.say (if cut then bytes else bytes ++ line)).ended 0)
  | "printf" =>
    match args with
    | ['-', '-'] :: format :: args => some (s.print format args)
    | ('-' :: _ :: _) :: _ => some (s.ended 2)
    | format :: args => some (s.print format args)
    | [] => some (s.ended 2)
  | "exit" | "return" =>
    let flow : Flow := if name = "exit" then .exit else .leaveFunction
    match args with
    | code :: _ =>
      some (if code.all Char.isDigit ∧ code ≠ [] then
        ({ s with status := decimal code % 256 }, flow)
        else s.fatal)
    | [] => some (s, flow)
  | "break" | "continue" =>
    let count := (integerOf (args.headD ['1'])).toNat
    if s.loops = 0 then some (s.ended 0)
    else
      let outer := min count s.loops - 1
      some ({ s with status := 0 }, if name = "break" then .leaveLoop outer else .nextTurn outer)
  | "export" | "readonly" =>
    some (match s.declare (name = "readonly") (args.filter (· ≠ ['-', 'p'])) with
      | some s => s.ended 0
      | none => s.fatal)
  | "local" => some (match s.frames, s.localize args with
    | _ :: _, some s => s.ended 0
    | _, _ => s.fatal)
  | "unset" =>
    let (found, names) := optionsOf [] args
    if (found.lookup 'f').isSome then
      some ({ s with
        functions := s.functions.filter fun (name, _) => !names.contains name }.ended 0)
    else if names.any s.fixed.contains then some s.fatal
    else
      some ({ s with
        bindings := s.bindings.filter fun (name, _) => !names.contains name }.ended 0)
  | "set" => some ((s.setAll (args.length + 1) args).ended 0)
  | "shift" =>
    let count := (integerOf (args.headD ['1'])).toNat
    if s.arguments.length - 1 < count then some s.fatal
    else some ({ s with arguments := s.arguments.take 1 ++ s.arguments.drop (1 + count) }.ended 0)
  | "test" => some (s.ended (testStatus fs s args))
  | "[" => some (s.ended (if args.getLast? = some [']'] then testStatus fs s args.dropLast else 2))
  | "read" => some (s.readLine args)
  | "cd" | "chdir" =>
    some (match args with
      | ['-'] :: _ => s.enter fs ((s.bindings.lookup "OLDPWD".toList).getD s.directoryText) true
      | path :: _ => s.enter fs path false
      | [] => s.enter fs ((s.bindings.lookup "HOME".toList).getD []) false)
  | "pwd" => some ((s.say (Text.Utf8.encode (s.directoryText ++ ['\n']))).ended 0)
  | "wait" => some ({ s with waited := max s.waited s.background }.ended 0)
  | "type" => some (s.describe args false)
  | "trap" => some (s.trap args)
  | _ => none

/-- The names in a directory, or a file. -/
def listing (fs : FileSystem) (s : State) (args : List (List Char)) : List UInt8 × Nat :=
  let (_, operands) := optionsOf [] args
  let path := operands.headD ['.']
  match (s.around fs).follow s.directory path with
  | .ok place =>
    let names := if (s.around fs).isDirectory ⟨true, place⟩ then
      ((s.around fs).names place |>.filter (·.head? ≠ some '.')).mergeSort textLe else [path]
    (Text.Utf8.encode (names.flatMap (· ++ ['\n'])), 0)
  | .error _ => ([], 2)

/-- The input of a filter: its files if it names some, with a status, and the state after it has
read them. -/
def filterInput (fs : FileSystem) (s : State) (operands : List (List Char)) :
    List UInt8 × Nat × State :=
  if operands.isEmpty || operands = [['-']] then (s.input, 0, { s with input := [] })
  else
    operands.foldl (fun (bytes, status, s) path =>
      if path = ['-'] then (bytes ++ s.input, status, { s with input := [] })
      else
        match s.bytes? fs path with
        | some more => (bytes ++ more, status, s)
        | none => (bytes, 1, s)) ([], 0, s)

/-- Runs a program of its own that starts no other. -/
def program? (fs : FileSystem) (s : State) (name : String) (args : List (List Char)) :
    Option (State × Flow) :=
  match name with
  | "true" | "false" | "printf" | "test" | "[" | "pwd" => builtin? fs s name args
  | "echo" => some ((s.say (plainEcho args)).ended 0)
  | "ls" => let (bytes, status) := listing fs s args; some ((s.say bytes).ended status)
  | "sleep" =>
    some (match args.mapM milliseconds? with
      | some (first :: rest) => { s with waited := (first :: rest).foldl (· + ·) s.waited }.ended 0
      | _ => s.ended 1)
  | "seq" | "basename" | "dirname" | "yes" =>
    (filter? name args []).map fun (bytes, status) => (s.say bytes).ended status
  | name =>
    let (input, problems, after) := filterInput fs s (fileOperands name args)
    (filter? name args input).map fun (bytes, status) =>
      (after.say bytes).ended (max status problems)

end EditorBridge.Shell
