import EditorBridge.Shell.Format
import EditorBridge.Shell.Pattern
import EditorBridge.Text.Split

/-!
# Filters

Programs that write a function of their input and their arguments, and do nothing else.
-/

namespace EditorBridge.Shell

/-- The options of a program and its operands. An option in `valued` has a value, in the same
argument or the next. -/
def options (valued : List Char) :
    (fuel : Nat) → List (List Char) → List (Char × List Char) × List (List Char)
  | 0, args => ([], args)
  | fuel + 1, args =>
    match args with
    | ['-', '-'] :: rest => ([], rest)
    | ('-' :: c :: tail) :: rest =>
      if valued.contains c then
        let (value, rest) := if tail.isEmpty then (rest.headD [], rest.drop 1) else (tail, rest)
        let (found, operands) := options valued fuel rest
        ((c, value) :: found, operands)
      else
        let (found, operands) :=
          options valued fuel (if tail.isEmpty then rest else ('-' :: tail) :: rest)
        ((c, []) :: found, operands)
    | operand :: rest =>
      let (found, operands) := options valued fuel rest
      (found, operand :: operands)
    | [] => ([], [])

/-- The options of a program and its operands. -/
def optionsOf (valued : List Char) (args : List (List Char)) :
    List (Char × List Char) × List (List Char) :=
  options valued (args.flatten.length + args.length + 1) args

/-- The lines of bytes, each with its line break if it has one. -/
def byteLines : List UInt8 → List (List UInt8)
  | [] => []
  | b :: rest =>
    if b = 10 then [10] :: byteLines rest
    else
      match byteLines rest with
      | [] => [[b]]
      | line :: lines => (b :: line) :: lines

/-- A line without its line break. -/
def bareLine (line : List UInt8) : List UInt8 :=
  if line.getLast? = some 10 then line.dropLast else line

/-- A count, with a sign in front that is told apart from its size. -/
def signedCount (cs : List Char) : Char × Nat :=
  match cs with
  | '-' :: rest => ('-', decimal rest)
  | '+' :: rest => ('+', decimal rest)
  | rest => (' ', decimal rest)

/-- The first parts: as many as the count says, or all but as many. -/
def firstOf {α : Type} (count : List Char) (parts : List α) : List α :=
  match signedCount count with
  | ('-', n) => parts.take (parts.length - n)
  | (_, n) => parts.take n

/-- The last parts: as many as the count says, or all from a number on. -/
def lastOf {α : Type} (count : List Char) (parts : List α) : List α :=
  match signedCount count with
  | ('+', n) => parts.drop (n - 1)
  | (_, n) => parts.drop (parts.length - n)

/-- A number as an option becomes the count of lines. -/
def countAsOption (args : List (List Char)) : List (List Char) :=
  match args with
  | ('-' :: c :: tail) :: rest => if c.isDigit then ['-', 'n'] :: (c :: tail) :: rest else args
  | args => args

/-- The start or the end of the input. -/
def cutInput (fromEnd : Bool) (args : List (List Char)) (input : List UInt8) : List UInt8 :=
  let (found, _) := optionsOf ['n', 'c'] (countAsOption args)
  match found.lookup 'c' with
  | some count => if fromEnd then lastOf count input else firstOf count input
  | none =>
    let count := (found.lookup 'n').getD ['1', '0']
    (if fromEnd then lastOf count (byteLines input) else firstOf count (byteLines input)).flatten

/-- How many words there are in bytes. -/
def wordCount (input : List UInt8) : Nat :=
  let isBlank (b : UInt8) : Bool := b = 32 || (9 ≤ b && b ≤ 13)
  (input.foldl (fun (n, blank) b => if isBlank b then (n, true)
    else (if blank then n + 1 else n, false))
    ((0, true) : Nat × Bool)).1

/-- The counts of lines, words and bytes. -/
def counts (args : List (List Char)) (input : List UInt8) : List Char :=
  let (found, _) := optionsOf [] args
  let wanted (c : Char) : Bool := (found.lookup c).isSome
  let all := found.isEmpty
  let numbers := (if all || wanted 'l' then [input.count 10] else []) ++
    (if all || wanted 'w' then [wordCount input] else []) ++
    (if wanted 'm' then [input.length] else []) ++
    (if all || wanted 'c' then [input.length] else [])
  let pad (text : List Char) : List Char :=
    if numbers.length = 1 then text else List.replicate (7 - text.length) ' ' ++ text
  Text.join [' '] (numbers.map fun n => pad (Nat.toDigits 10 n)) ++ ['\n']

/-- The bytes of a set of characters. -/
def byteSet : (fuel : Nat) → List Char → List UInt8
  | 0, _ => []
  | fuel + 1, cs =>
    match cs with
    | [] => []
    | '[' :: ':' :: rest =>
      let name := rest.takeWhile Char.isAlpha
      ((List.range 128).filter fun n => inClass (String.ofList name) (Char.ofNat n)).map
        UInt8.ofNat ++
        byteSet fuel (rest.drop (name.length + 2))
    | '\\' :: c :: rest =>
      if isOctal c then
        let digits := ((c :: rest).take 3).takeWhile isOctal
        UInt8.ofNat (ofDigits 8 digits) :: byteSet fuel ((c :: rest).drop digits.length)
      else ((escapeByte? c).map ([·])).getD (Text.Utf8.encode [c]) ++ byteSet fuel rest
    | low :: '-' :: high :: rest =>
      ((List.range 128).filter fun n => low.toNat ≤ n ∧ n ≤ high.toNat).map UInt8.ofNat ++
        byteSet fuel rest
    | c :: rest => Text.Utf8.encode [c] ++ byteSet fuel rest

/-- The bytes without repetitions of those in a set. -/
def squeeze (set : List UInt8) : List UInt8 → List UInt8
  | a :: b :: rest =>
    if a = b && set.contains a then squeeze set (b :: rest) else a :: squeeze set (b :: rest)
  | bytes => bytes

/-- Replaces, removes or squeezes bytes. -/
def exchange (args : List (List Char)) (input : List UInt8) : List UInt8 :=
  let (found, operands) := optionsOf [] args
  let has (c : Char) : Bool := (found.lookup c).isSome
  let set (i : Nat) : List UInt8 := let cs := operands.getD i []; byteSet (cs.length + 1) cs
  let first := if has 'c' || has 'C' then
    ((List.range 256).map UInt8.ofNat).filter (!(set 0).contains ·) else set 0
  if has 'd' then
    let kept := input.filter (!first.contains ·)
    if has 's' then squeeze (set 1) kept else kept
  else if operands.length < 2 then if has 's' then squeeze first input else input
  else
    let second := set 1
    let moved := input.map fun b =>
      match first.reverse.idxOf? b with
      | some i =>
        let i := first.length - 1 - i
        (second[i]?).getD (second.getLast?.getD b)
      | none => b
    if has 's' then squeeze second moved else moved

/-- The number at the start of a line. -/
def lineNumber (line : List UInt8) : Int :=
  let cs := (Text.Utf8.decodeLossy line).dropWhile (· = ' ')
  match cs with
  | '-' :: rest => -(decimal (rest.takeWhile Char.isDigit) : Int)
  | rest => decimal (rest.takeWhile Char.isDigit)

/-- Whether bytes come before others, or are the same. -/
def bytesLe : List UInt8 → List UInt8 → Bool
  | [], _ => true
  | _ :: _, [] => false
  | a :: as, b :: bs => a < b || (a = b && bytesLe as bs)

/-- The lines in order. -/
def sorted (args : List (List Char)) (input : List UInt8) : List UInt8 :=
  let (found, _) := optionsOf [] args
  let has (c : Char) : Bool := (found.lookup c).isSome
  let le (a b : List UInt8) : Bool :=
    if has 'n' then
      let x := lineNumber a
      let y := lineNumber b
      x < y || (x = y && bytesLe a b)
    else bytesLe a b
  let lines := ((byteLines input).map bareLine).mergeSort fun a b =>
    if has 'r' then le b a else le a b
  ((if has 'u' then lines.eraseDups else lines).map (· ++ [10])).flatten

/-- The lines without repetitions, with their numbers if wanted. -/
def distinct (args : List (List Char)) (input : List UInt8) : List UInt8 :=
  let counted := args.contains ['-', 'c']
  let groups :=
    ((byteLines input).map bareLine).foldr (fun line (groups : List (List UInt8 × Nat)) =>
    match groups with
    | (other, n) :: rest => if other = line then (line, n + 1) :: rest else (line, 1) :: groups
    | [] => [(line, 1)]) []
  groups.flatMap fun (line, n) =>
    let text := Nat.toDigits 10 n
    (if counted then Text.Utf8.encode (List.replicate (7 - text.length) ' ' ++ text ++ [' '])
      else []) ++ line ++ [10]

/-- Whether a list of numbers and ranges has a number. -/
def inRanges (ranges : List Char) (n : Nat) : Bool :=
  (Text.split (· = ',') ranges).any fun range =>
    let low := range.takeWhile (· ≠ '-')
    match range.dropWhile (· ≠ '-') with
    | [] => decimal low = n
    | _ :: high => (low.isEmpty || decimal low ≤ n) && (high.isEmpty || n ≤ decimal high)

/-- The fields or the bytes of each line. -/
def columns (args : List (List Char)) (input : List UInt8) : List UInt8 :=
  let (found, _) := optionsOf ['d', 'f', 'c', 'b'] args
  let chosen {α : Type} (ranges : List Char) (parts : List α) : List α :=
    (parts.zipIdx.filter fun (_, i) => inRanges ranges (i + 1)).map (·.1)
  ((byteLines input).map fun line =>
    let line := bareLine line
    let picked := match found.lookup 'f' with
      | some ranges =>
        let cs := Text.Utf8.decodeLossy line
        let mark := ((found.lookup 'd').bind List.head?).getD '\t'
        if cs.contains mark then
          Text.Utf8.encode (Text.join [mark] (chosen ranges (Text.split (· = mark) cs)))
        else line
      | none => chosen (((found.lookup 'c').or (found.lookup 'b')).getD []) line
    picked ++ [10]).flatten

/-- The integers from `a` to `b` in steps of `d`, each on its line. -/
def sequenceText (a d b : Int) : List Char :=
  if d = 0 then []
  else
    (List.range ((b - a).fdiv d + 1).toNat).flatMap fun i : Nat =>
      (toString (a + d * (i : Int))).toList ++ ['\n']

/-- The last name of a path, without an ending. -/
def lastName (path ending : List Char) : List Char :=
  let bare := (path.reverse.dropWhile (· = '/')).reverse
  if bare.isEmpty then if path.isEmpty then [] else ['/']
  else
    let name := (bare.reverse.takeWhile (· ≠ '/')).reverse
    if name ≠ ending && ending.reverse.isPrefixOf name.reverse then
      name.take (name.length - ending.length)
    else name

/-- The path without its last name. -/
def parentPath (path : List Char) : List Char :=
  let bare := (path.reverse.dropWhile (· = '/')).reverse
  let above := ((bare.reverse.dropWhile (· ≠ '/')).dropWhile (· = '/')).reverse
  if above.isEmpty then if path.head? = some '/' then ['/'] else ['.'] else above

/-- How many bytes are written where there is no end. -/
def plenty : Nat := 1100000

/-- The files among the arguments of a program, if it reads files. -/
def fileOperands (name : String) (args : List (List Char)) : List (List Char) :=
  match name with
  | "cat" | "wc" | "sort" | "uniq" | "rev" | "tac" => (optionsOf [] args).2
  | "head" | "tail" => (optionsOf ['n', 'c'] (countAsOption args)).2
  | "cut" => (optionsOf ['d', 'f', 'c', 'b'] args).2
  | _ => []

/-- What a filter writes, and its status. -/
def filter? (name : String) (args : List (List Char)) (input : List UInt8) :
    Option (List UInt8 × Nat) :=
  match name with
  | "cat" => some (input, 0)
  | "head" => some (cutInput false args input, 0)
  | "tail" => some (cutInput true args input, 0)
  | "wc" => some (Text.Utf8.encode (counts args input), 0)
  | "tr" => some (exchange args input, 0)
  | "sort" => some (sorted args input, 0)
  | "uniq" => some (distinct args input, 0)
  | "cut" => some (columns args input, 0)
  | "rev" =>
    some (((byteLines input).map fun line =>
      Text.Utf8.encode (Text.Utf8.decodeLossy (bareLine line)).reverse ++
        (if line.getLast? = some 10 then [10] else [])).flatten, 0)
  | "tac" => some ((byteLines input).reverse.flatten, 0)
  | "seq" =>
    match args.map integerOf with
    | [b] => some (Text.Utf8.encode (sequenceText 1 1 b), 0)
    | [a, b] => some (Text.Utf8.encode (sequenceText a 1 b), 0)
    | [a, d, b] => some (Text.Utf8.encode (sequenceText a d b), 0)
    | _ => some ([], 1)
  | "basename" =>
    match args with
    | [] => some ([], 1)
    | path :: rest => some (Text.Utf8.encode (lastName path (rest.headD []) ++ ['\n']), 0)
  | "dirname" =>
    some (Text.Utf8.encode (args.flatMap fun path => parentPath path ++ ['\n']),
      if args = [] then 1 else 0)
  | "yes" =>
    let line := Text.Utf8.encode ((if args.isEmpty then ['y'] else Text.join [' '] args) ++ ['\n'])
    some ((List.replicate (plenty / line.length + 1) line).flatten, 0)
  | _ => none

end EditorBridge.Shell
