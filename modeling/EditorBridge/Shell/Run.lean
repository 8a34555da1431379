import EditorBridge.Shell.Builtin

/-!
# Running scripts

What a script writes and how it ends, as a function: commands that only write, compute and wait are
run by themselves, without a process. A run takes a bounded number of steps.
-/

namespace EditorBridge.Shell

/-- Comes back from a part of the script that ran by itself: only what it did to the outside is
kept. -/
def comeBack (outer : State) (inner : State × Flow) : State × Flow :=
  let s := { outer with
    status := inner.1.status
    written := inner.1.written
    files := inner.1.files
    input := inner.1.input
    waited := inner.1.waited
    budget := inner.1.budget
    background := max outer.background inner.1.background
    signalled := inner.1.signalled }
  match inner.2, s.signalled with
  | .killed signal, _ => (s, .killed signal)
  | _, some signal =>
    if s.apart ∨ (s.traps.lookup signal).isSome then (s, .next) else (s, .killed signal)
  | _, none => (s, .next)

/-- The state in which a part of a script runs by itself. -/
def State.byItself (s : State) : State :=
  { s with traps := s.traps.filter (·.2.isEmpty), apart := true }

/-- Ends the run if a command failed where no failure is looked at. -/
def checked (result : State × Flow) : State × Flow :=
  match result with
  | (s, .next) =>
    if s.status ≠ 0 ∧ !s.tested ∧ s.options.contains 'e' then (s, .exit) else (s, .next)
  | result => result

/-- The state in which another script starts. -/
def childOf (s : State) (arguments : List (List Char)) (options : List Char) : State where
  bindings := s.bindings.filter fun (name, _) => s.exported.contains name || name = "PWD".toList
  exported := s.exported
  arguments := arguments
  options := options
  streams := s.streams
  written := s.written
  input := s.input
  files := s.files
  directory := s.directory
  waited := s.waited
  budget := s.budget

/-- The directories in which programs are found. -/
def programDirectories : List (List (List Char)) := [["usr".toList, "bin".toList], ["bin".toList]]

/-- The program that a path leads to. The status says why there is none. -/
def programAt (fs : FileSystem) (s : State) (path : List Char) : Except Nat String :=
  match (s.around fs).follow s.directory path with
  | .ok place =>
    match programNames.find? fun p => programDirectories.any fun d => place = d ++ [p.toList] with
    | some name => .ok name
    | none => .error 126
  | .error _ => .error 127

/-- The options of a shell, the script if it is an argument, and the arguments left. -/
def shellArguments : (letters : List Char) → List (List Char) → List Char × List (List Char)
  | letters, ('-' :: c :: more) :: rest =>
    if c = '-' then (letters, rest) else shellArguments (letters ++ c :: more) rest
  | letters, args => (letters, args)

mutual

/-- Expands pieces of a word one after the other. There are no fields if the script has to end. -/
def expandPieces (fs : FileSystem) :
    (fuel : Nat) → State → Fields → List Piece → State × Option Fields
  | 0, s, _, _ => (s, none)
  | _ + 1, s, f, [] => (s, some f)
  | fuel + 1, s, f, piece :: rest =>
    match piece with
    | .char c quoted => expandPieces fs fuel s (f.append [(c, quoted)]) rest
    | .nothing => expandPieces fs fuel s (f.append []) rest
    | .parameter name quoted =>
      match s.value? name with
      | some value => expandPieces fs fuel s (addValue s f name quoted value) rest
      | none =>
        if s.options.contains 'u' then (s, none)
        else expandPieces fs fuel s (if quoted then f.append [] else f) rest
    | .arithmetic expression quoted =>
      match Word.ofText? true expression with
      | none => (s, none)
      | some w =>
        match expandWhole fs fuel s w with
        | (s, none) => (s, none)
        | (s, some m) =>
          match (Expression.ofText? m.text).bind (·.evaluate? s.bindings) with
          | none => (s, none)
          | some (n, bindings) =>
            expandPieces fs fuel { s with bindings := bindings }
              (f.add quoted (toString n).toList) rest
    | .substitution script quoted =>
      let start := { s.byItself with streams := { s.streams with out := .output }, written := [] }
      let (inner, flow) := finish fs fuel (runScript fs fuel script start)
      let text :=
        ((Text.Utf8.decodeLossy inner.written.reverse).reverse.dropWhile (· = '\n')).reverse
      let (after, flow) := comeBack s ({ inner with written := s.written }, flow)
      let after := { after with status := s.status, substituted := after.status }
      if flow = .next then expandPieces fs fuel after (f.add quoted text) rest else (after, none)
    | .shaped name operator text quoted =>
      let value := s.value? name
      let colon := operator.head? = some ':'
      let isSet := value.isSome && !(colon && value = some [])
      let known := addValue s f name quoted (value.getD [])
      if value.isNone && s.options.contains 'u' &&
        !("-+?=".toList.contains (operator.getLast?.getD ' ')) then (s, none)
      else match String.ofList (if colon then operator.drop 1 else operator) with
      | "len" =>
        let count := if name = ['@'] ∨ name = ['*'] then s.arguments.length - 1
          else (Text.Utf8.encode (value.getD [])).length
        expandPieces fs fuel s (f.add quoted (Nat.toDigits 10 count)) rest
      | "-" =>
        if isSet then expandPieces fs fuel s known rest else instead fs fuel s f text quoted rest
      | "+" =>
        if isSet then instead fs fuel s f text quoted rest
        else expandPieces fs fuel s (if quoted then f.append [] else f) rest
      | "?" => if isSet then expandPieces fs fuel s known rest else (s, none)
      | "=" =>
        if isSet then expandPieces fs fuel s known rest
        else
          match (Word.ofText? quoted text).map (expandWhole fs fuel s) with
          | some (s, some m) =>
            match s.assign? name m.text with
            | some s => expandPieces fs fuel s (f.add quoted m.text) rest
            | none => (s, none)
          | _ => (s, none)
      | "%" | "%%" | "#" | "##" =>
        match (Word.ofText? false text).map (expandWhole fs fuel s) with
        | some (s, some m) =>
          let longest := operator.length = 2
          let cut := if operator.head? = some '%' then dropBack longest m (value.getD [])
            else dropFront longest m (value.getD [])
          expandPieces fs fuel s (f.add quoted cut) rest
        | _ => (s, none)
      | _ => (s, none)
where
  /-- Adds the value of a parameter. All arguments together are as many fields. -/
  addValue (s : State) (f : Fields) (name : List Char) (quoted : Bool)
    (value : List Char) : Fields :=
    if name = ['@'] then f.addEach quoted (s.arguments.drop 1)
    else if name = ['*'] then
      if quoted then
        f.add true (Text.join (s.separators.take 1) (s.arguments.drop 1))
      else f.addEach false (s.arguments.drop 1)
    else f.add quoted value

/-- Expands a text in place of a parameter, and then the pieces after it. -/
def instead (fs : FileSystem) :
    (fuel : Nat) → State → Fields → (text : List Char) → (quoted : Bool) → List Piece →
    State × Option Fields
  | 0, s, _, _, _, _ => (s, none)
  | fuel + 1, s, f, text, quoted, rest =>
    match Word.ofText? quoted text with
    | some w =>
      if quoted then expandPieces fs fuel s (f.append []) (w ++ rest)
      else expandPieces fs fuel s (f.addPlain w) (w.dropWhile Piece.isPlain ++ rest)
    | none => (s, none)

/-- The text of a word that is not split. -/
def expandWhole (fs : FileSystem) : (fuel : Nat) → State → Word → State × Option Marked
  | 0, s, _ => (s, none)
  | fuel + 1, s, w =>
    let (s, f) := expandPieces fs fuel s ⟨[], none, false, [], true⟩ w
    (s, f.map fun f => f.toList.flatten)

/-- The fields of words. -/
def expand (fs : FileSystem) : (fuel : Nat) → State → List Word → State × Option (List (List Char))
  | 0, s, _ => (s, none)
  | _ + 1, s, [] => (s, some [])
  | fuel + 1, s, w :: words =>
    match expandPieces fs fuel s ⟨[], none, false, s.separators, false⟩ w with
    | (s, none) => (s, none)
    | (s, some f) =>
      let fields := f.toList.flatMap fun m =>
        let found := if m.isPattern && !s.options.contains 'f' then s.matching fs m else []
        if found.isEmpty then [m.text] else found
      let (s, others) := expand fs fuel s words
      (s, others.map (fields ++ ·))

/-- Redirects streams. The second value says whether all of them could be. -/
def redirect (fs : FileSystem) : (fuel : Nat) → State → List Redirection → State × Option Bool
  | 0, s, _ => (s, none)
  | _ + 1, s, [] => (s, some true)
  | fuel + 1, s, r :: rest =>
    match expandWhole fs fuel s r.target with
    | (s, none) => (s, none)
    | (s, some m) =>
      let path := m.text
      let toSink (sink : Sink) (s : State) : State × Option Bool :=
        match r.stream with
        | 1 => redirect fs fuel { s with streams := { s.streams with out := sink } } rest
        | 2 => redirect fs fuel { s with streams := { s.streams with err := sink } } rest
        | _ => redirect fs fuel s rest
      match r.direction with
      | .toStream =>
        match path with
        | ['1'] => toSink s.streams.out s
        | ['2'] => toSink s.streams.err s
        | ['-'] => toSink .nowhere s
        | _ => (s, some false)
      | .fromStream => redirect fs fuel s rest
      | .fromText => redirect fs fuel { s with input := Text.Utf8.encode path } rest
      | .fromFile =>
        match s.bytes? fs path with
        | some bytes => redirect fs fuel { s with input := bytes } rest
        | none => (s, some false)
      | .toFile | .atEnd =>
        match String.ofList path with
        | "/dev/null" => toSink .nowhere s
        | "/dev/stdout" => toSink s.streams.out s
        | "/dev/stderr" => toSink s.streams.err s
        | _ =>
          match s.target? fs path with
          | none => (s, some false)
          | some place =>
            let others := s.files.filter (·.1 ≠ place)
            let old := if r.direction = .atEnd then (s.files.lookup place).getD [] else []
            toSink (.file place) { s with files := (place, old) :: others }

/-- Assigns variables. -/
def assignAll (fs : FileSystem) : (fuel : Nat) → State → List (List Char × Word) → State × Bool
  | 0, s, _ => (s, false)
  | _ + 1, s, [] => (s, true)
  | fuel + 1, s, (name, w) :: rest =>
    match expandWhole fs fuel s w with
    | (s, none) => (s, false)
    | (s, some m) =>
      match s.assign? name m.text with
      | some s => assignAll fs fuel s rest
      | none => (s, false)

/-- Runs a command for at most `fuel` steps in a row. -/
def run (fs : FileSystem) : (fuel : Nat) → Command → State → State × Flow
  | 0, _, s => s.endless
  | fuel + 1, command, s =>
    if s.budget = 0 then s.endless
    else
    let s := { s with budget := s.budget - 1 }
    match command with
    | .empty => s.ended 0
    | .simple assignments words redirections =>
      checked (simple fs fuel assignments words redirections s)
    | .pipe left right =>
      let start := { s.byItself with streams := { s.streams with out := .output }, written := [] }
      let (first, flow) := finish fs fuel (run fs fuel left start)
      match flow with
      | .killed signal => ({ s with waited := first.waited }, .killed signal)
      | _ =>
        let between := { s.byItself with
          input := first.written.reverse
          waited := first.waited
          files := first.files
          budget := first.budget }
        let (after, flow) := comeBack s (finish fs fuel (run fs fuel right between))
        checked ({ after with input := s.input }, flow)
    | .andThen first second =>
      match run fs fuel first s with
      | (s, .next) => run fs fuel second s
      | stopped => stopped
    | .both first second =>
      match run fs fuel first { s with tested := true } with
      | (t, .next) =>
        let t := { t with tested := s.tested }
        if t.status = 0 then run fs fuel second t else (t, .next)
      | (t, flow) => ({ t with tested := s.tested }, flow)
    | .either first second =>
      match run fs fuel first { s with tested := true } with
      | (t, .next) =>
        let t := { t with tested := s.tested }
        if t.status = 0 then (t, .next) else run fs fuel second t
      | (t, flow) => ({ t with tested := s.tested }, flow)
    | .negated command =>
      match run fs fuel command { s with tested := true } with
      | (t, .next) => { t with tested := s.tested }.ended (if t.status = 0 then 1 else 0)
      | (t, flow) => ({ t with tested := s.tested }, flow)
    | .background command =>
      let (after, _) :=
        comeBack s (finish fs fuel (run fs fuel command { s.byItself with input := [] }))
      { after with
        waited := s.waited
        input := s.input
        background := max s.background (max 1 after.waited) }.ended 0
    | .branch test yes no =>
      match run fs fuel test { s with tested := true } with
      | (t, .next) =>
        let t := { t with tested := s.tested }
        run fs fuel (if t.status = 0 then yes else no) t
      | (t, flow) => ({ t with tested := s.tested }, flow)
    | .select subject patterns yes no =>
      match expandWhole fs fuel s subject with
      | (s, none) => s.fatal
      | (s, some m) =>
        match fits fs fuel s m.text patterns with
        | (s, none) => s.fatal
        | (s, some true) => run fs fuel yes s
        | (s, some false) => run fs fuel no s
    | .loop expected test body =>
      let (t, flow) := repeatWhile fs fuel expected test body 0 { s with loops := s.loops + 1 }
      ({ t with loops := s.loops }, flow)
    | .each name words body =>
      match expand fs fuel s words with
      | (s, none) => s.fatal
      | (s, some values) =>
        let status := if values.isEmpty then 0 else s.status
        let (t, flow) :=
          turns fs fuel name values body { s with loops := s.loops + 1, status := status }
        ({ t with loops := s.loops }, flow)
    | .define name body =>
      { s with functions := (name, body) :: s.functions.filter (·.1 ≠ name) }.ended 0
    | .group subshell body redirections =>
      match redirect fs fuel s redirections with
      | (s, none) => s.fatal
      | (_, some false) => checked (s.ended 2)
      | (inner, some true) =>
        let back (t : State) : State :=
          { t with
            streams := s.streams
            input := if redirections.any (·.stream = 0) then s.input else t.input }
        if subshell then
          let (t, flow) := comeBack s (finish fs fuel (run fs fuel body inner.byItself))
          checked (back t, flow)
        else
          let (t, flow) := run fs fuel body inner
          (back t, flow)

/-- Whether one of several patterns stands for a text. -/
def fits (fs : FileSystem) : (fuel : Nat) → State → List Char → List Word → State × Option Bool
  | 0, s, _, _ => (s, none)
  | _ + 1, s, _, [] => (s, some false)
  | fuel + 1, s, text, w :: rest =>
    match expandWhole fs fuel s w with
    | (s, none) => (s, none)
    | (s, some m) => if m.covers text then (s, some true) else fits fs fuel s text rest

/-- Runs the turns of a loop with a test. Its status is that of the last turn. -/
def repeatWhile (fs : FileSystem) :
    (fuel : Nat) → Bool → Command → Command → (last : Nat) → State → State × Flow
  | 0, _, _, _, _, s => s.endless
  | fuel + 1, expected, test, body, last, s =>
    match run fs fuel test { s with tested := true } with
    | (t, .next) =>
      let t := { t with tested := s.tested }
      if decide (t.status = 0) ≠ expected then t.ended last
      else
        match run fs fuel body t with
        | (s, .next) | (s, .nextTurn 0) => repeatWhile fs fuel expected test body s.status s
        | (s, .leaveLoop 0) => (s, .next)
        | (s, .leaveLoop (n + 1)) => (s, .leaveLoop n)
        | (s, .nextTurn (n + 1)) => (s, .nextTurn n)
        | stopped => stopped
    | (t, .leaveLoop 0) => ({ t with tested := s.tested }, .next)
    | (t, flow) => ({ t with tested := s.tested }, flow)

/-- Runs the turns of a loop over values. -/
def turns (fs : FileSystem) :
    (fuel : Nat) → List Char → List (List Char) → Command → State → State × Flow
  | 0, _, _, _, s => s.endless
  | fuel + 1, name, values, body, s =>
    match values with
    | [] => (s, .next)
    | value :: rest =>
      match s.assign? name value with
      | none => s.fatal
      | some s =>
        match run fs fuel body s with
        | (s, .next) | (s, .nextTurn 0) => turns fs fuel name rest body s
        | (s, .leaveLoop 0) => (s, .next)
        | (s, .leaveLoop (n + 1)) => (s, .leaveLoop n)
        | (s, .nextTurn (n + 1)) => (s, .nextTurn n)
        | stopped => stopped

/-- Runs a command of words. -/
def simple (fs : FileSystem) :
    (fuel : Nat) → List (List Char × Word) → List Word → List Redirection → State → State × Flow
  | 0, _, _, _, s => s.endless
  | fuel + 1, assignments, words, redirections, s =>
    match expand fs fuel { s with substituted := 0 } words with
    | (s, none) => s.fatal
    | (s, some fields) =>
      let name := String.ofList (fields.headD [])
      let special := specialNames.contains name && (s.functions.lookup name.toList).isNone
      match redirect fs fuel s redirections with
      | (s, none) => s.fatal
      | (_, some false) => if special then s.fatal else s.ended 2
      | (inner, some true) =>
        match assignAll fs fuel inner assignments with
        | (s, false) => s.fatal
        | (inner, true) =>
          let back (t : State) : State :=
            { t with
              streams := s.streams
              input := if redirections.any (·.stream = 0) then s.input else t.input }
          match fields with
          | [] => (back inner).ended inner.substituted
          | word :: args =>
            if name = "exec" ∧ args.isEmpty then inner.ended 0
            else
              let names := assignments.map (·.1)
              let (t, flow) :=
                call fs fuel { inner with exported := names ++ inner.exported } word args
              let t := back t
              if special || names.isEmpty then (t, flow)
              else
                let outer := names.map fun name => (name, s.bindings.lookup name)
                ({ t with bindings := State.restore t.bindings outer, exported := s.exported },
                  flow)

/-- Runs a command with its arguments. -/
def call (fs : FileSystem) : (fuel : Nat) → State → List Char → List (List Char) → State × Flow
  | 0, s, _, _ => s.endless
  | fuel + 1, s, name, args =>
    match s.functions.lookup name with
    | some body =>
      let inner :=
        { s with arguments := s.arguments.take 1 ++ args, frames := [] :: s.frames, loops := 0 }
      let (t, flow) := run fs fuel body inner
      let t := { t with
        arguments := s.arguments
        frames := s.frames
        loops := s.loops
        bindings := State.restore t.bindings (t.frames.headD []) }
      (t, if flow = .leaveFunction then .next else flow)
    | none =>
      match String.ofList name, args with
      | "eval", args =>
        runScript fs fuel (Text.join [' '] args)
          { s with status := if args.isEmpty then 0 else s.status }
      | ".", path :: _ =>
        match s.bytes? fs path with
        | some bytes =>
          let (t, flow) := runScript fs fuel (Text.Utf8.decodeLossy bytes) { s with status := 0 }
          (t, if flow = .leaveFunction then .next else flow)
        | none => s.fatal
      | "exec", name :: args =>
        match program fs fuel { s with traps := [] } name args with
        | (s, .killed signal) => (s, .killed signal)
        | (s, _) => (s, .exit)
      | "command", ['-', 'v'] :: names => s.describe names true
      | "command", ['-', 'V'] :: names => s.describe names false
      | "command", name :: args =>
        call fs fuel { s with functions := s.functions.filter (·.1 ≠ name) } name args
      | "kill", args => kill fs fuel s args
      | text, args =>
        match builtin? fs s text args with
        | some result => result
        | none => program fs fuel s name args

/-- Sends a signal. -/
def kill (fs : FileSystem) : (fuel : Nat) → State → List (List Char) → State × Flow
  | 0, s, _ => s.endless
  | fuel + 1, s, args =>
    let (signal, targets) := match args with
      | ['-', 's'] :: name :: targets => (signal? name, targets)
      | ['-', '-'] :: targets => (some 15, targets)
      | ('-' :: name) :: targets => (signal? name, targets)
      | targets => (some 15, targets)
    match signal, targets with
    | none, _ | _, [] => s.ended 2
    | some signal, targets =>
      if signal = 0 then s.ended (if targets.contains State.processId then 0 else 1)
      else if targets.contains State.processId then
        if s.apart then { s with signalled := s.signalled.or (some signal) }.ended 0
        else match s.traps.lookup signal with
        | some action =>
          if signal = 9 ∨ signal = 19 then (s, .killed signal)
          else if action.isEmpty then s.ended 0
          else
            let (t, flow) := runScript fs fuel action { s with status := 0 }
            ({ t with status := 0 }, flow)
        | none =>
          if signal ∈ unnoticed then s.ended 0
          else if signal ∈ stopping then { s with waited := s.waited + State.ever }.ended 0
          else (s, .killed signal)
      else s.ended (if targets.all (· = State.backgroundId) then 0 else 1)

/-- Runs a program of its own. -/
def program (fs : FileSystem) : (fuel : Nat) → State → List Char → List (List Char) → State × Flow
  | 0, s, _, _ => s.endless
  | fuel + 1, s, name, args =>
    let found : Except Nat String :=
      if name.contains '/' then programAt fs s name
      else if programNames.contains (String.ofList name) then .ok (String.ofList name)
      else .error 127
    match found with
    | .error status => s.ended status
    | .ok "sh" =>
      let (t, flow) := shell fs fuel s args
      let t := { s with
        written := t.written
        files := t.files
        input := t.input
        waited := t.waited
        budget := t.budget
        status := t.status }
      match flow with
      | .killed signal => t.ended (128 + signal)
      | _ => (t, .next)
    | .ok "kill" => kill fs fuel s args
    | .ok name => (program? fs s name args).getD (s.ended 127)

/-- Runs another shell. -/
def shell (fs : FileSystem) : (fuel : Nat) → State → List (List Char) → State × Flow
  | 0, s, _ => s.endless
  | fuel + 1, s, args =>
    let (letters, operands) := shellArguments [] args
    let child (arguments : List (List Char)) : State :=
      childOf s arguments (letters.filter (· ≠ 'c'))
    if letters.contains 'c' then
      match operands with
      | [] => s.fatal
      | script :: rest =>
        finish fs fuel
          (runScript fs fuel script (child (if rest.isEmpty then ["sh".toList] else rest)))
    else
      match operands with
      | [] =>
        let script := Text.Utf8.decodeLossy s.input
        finish fs fuel (runScript fs fuel script { child ["sh".toList] with input := [] })
      | path :: _ =>
        match s.bytes? fs path with
        | some bytes =>
          finish fs fuel (runScript fs fuel (Text.Utf8.decodeLossy bytes) (child operands))
        | none => if (s.around fs).has (Path.fold path) then (s, .exit) else s.fatal

/-- Runs the lines of a script. -/
def runScript (fs : FileSystem) : (fuel : Nat) → List Char → State → State × Flow
  | 0, _, s => s.endless
  | fuel + 1, script, s => lines fs fuel (tokens script) s

/-- Runs lines. One that cannot be read ends the run. -/
def lines (fs : FileSystem) : (fuel : Nat) → List Token → State → State × Flow
  | 0, _, s => s.endless
  | fuel + 1, ts, s =>
    match nextLineOf ts with
    | none => (s, .next)
    | some none => s.fatal
    | some (some (command, rest)) =>
      match run fs fuel command s with
      | (s, .next) => lines fs fuel rest s
      | stopped => stopped

/-- Does what is to be done at the end of a run. -/
def finish (fs : FileSystem) : (fuel : Nat) → State × Flow → State × Flow
  | 0, (s, _) => s.endless
  | fuel + 1, (s, flow) =>
    match flow, s.traps.lookup 0 with
    | .killed signal, _ => (s, .killed signal)
    | _, some action =>
      match runScript fs fuel action { s with traps := [] } with
      | (t, .exit) => (t, .exit)
      | (t, .killed signal) => (t, .killed signal)
      | (t, _) => ({ t with status := s.status }, .exit)
    | _, none => (s, .exit)

end

end EditorBridge.Shell
