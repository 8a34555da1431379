import EditorBridge.Number.Shortest
import EditorBridge.Shell.Arithmetic
import EditorBridge.Text.Utf8

/-!
# Written text

The bytes that are written for texts with escapes and for formats with arguments.
-/

namespace EditorBridge.Shell

/-- Whether a character is an octal digit. -/
def isOctal (c : Char) : Bool := '0' ≤ c && c ≤ '7'

/-- The byte of a letter after a backslash. -/
def escapeByte? (c : Char) : Option UInt8 :=
  [('a', 7), ('b', 8), ('e', 27), ('f', 12), ('n', 10), ('r', 13), ('t', 9), ('v', 11),
   ('\\', 92)].lookup c

/-- The bytes of a text with escapes. In an argument, a zero before octal digits does not count, and
an escape may cut off the text, which the second value says. Some programs know hexadecimal digits
too. -/
def escaped (argument hexadecimal : Bool) : (fuel : Nat) → List Char → List UInt8 × Bool
  | 0, _ => ([], false)
  | fuel + 1, cs =>
    match cs with
    | [] => ([], false)
    | '\\' :: c :: rest =>
      if c = 'c' ∧ argument then ([], true)
      else if isOctal c then
        let leading := argument && c = '0' && (rest.head?.map isOctal).getD false
        let digits := ((if leading then rest else c :: rest).take 3).takeWhile isOctal
        before [UInt8.ofNat (ofDigits 8 digits)] fuel
          ((if leading then rest else c :: rest).drop digits.length)
      else
        let digits := (rest.take 2).takeWhile (digitValue · < 16)
        if hexadecimal ∧ c = 'x' ∧ !digits.isEmpty then
          before [UInt8.ofNat (ofDigits 16 digits)] fuel (rest.drop digits.length)
        else
          match escapeByte? c with
          | some b => before [b] fuel rest
          | none => before [92] fuel (c :: rest)
    | c :: rest => before (Text.Utf8.encode [c]) fuel rest
where
  before (bytes : List UInt8) (fuel : Nat) (rest : List Char) : List UInt8 × Bool :=
    let (more, cut) := escaped argument hexadecimal fuel rest
    (bytes ++ more, cut)

/-- The bytes of an argument with escapes. -/
def echoed (cs : List Char) : List UInt8 × Bool := escaped true false (cs.length + 1) cs

/-- A directive of a format. -/
structure Directive where
  flags : List Char
  width : Nat
  precision : Option Nat
  conversion : Char

/-- The number of a size in a directive, which may be an argument, with what follows it and the
arguments left. -/
def sizeAt (cs : List Char) (arguments : List (List Char)) :
    Option Int × List Char × List (List Char) :=
  match cs with
  | '*' :: rest => (some (integerOf (arguments.headD [])), rest, arguments.drop 1)
  | cs =>
    let digits := cs.takeWhile Char.isDigit
    (if digits.isEmpty then none else some (decimal digits), cs.dropWhile Char.isDigit, arguments)

/-- The directive after a percent sign, with what follows it and the arguments left. -/
def directive? (cs : List Char) (arguments : List (List Char)) :
    Option (Directive × List Char × List (List Char)) :=
  let isFlag (c : Char) : Bool := ['-', '0', '+', ' ', '#'].contains c
  let (width, rest, arguments) := sizeAt (cs.dropWhile isFlag) arguments
  let (precision, rest, arguments) := match rest with
    | '.' :: rest =>
      let (n, rest, arguments) := sizeAt rest arguments
      (some (n.getD 0), rest, arguments)
    | rest => (none, rest, arguments)
  let width := width.getD 0
  let flags := cs.takeWhile isFlag ++ (if width < 0 then ['-'] else [])
  match rest with
  | c :: rest =>
    some (⟨flags, width.natAbs, (precision.filter (0 ≤ ·)).map Int.toNat, c⟩, rest, arguments)
  | [] => none

namespace Directive

/-- Fills bytes up to the width. Zeros are put between the sign of a number and its digits. -/
def fill (d : Directive) (zeros : Bool) (sign bytes : List UInt8) : List UInt8 :=
  let missing := d.width - (sign ++ bytes).length
  if d.flags.contains '-' then sign ++ bytes ++ List.replicate missing 32
  else if zeros && d.flags.contains '0' then sign ++ List.replicate missing 48 ++ bytes
  else List.replicate missing 32 ++ sign ++ bytes

/-- The sign of a number. -/
def sign (d : Directive) (negative : Bool) : List UInt8 :=
  if negative then [45] else if d.flags.contains '+' then [43]
  else if d.flags.contains ' ' then [32] else []

/-- The digits of a whole number with at least as many as the precision says. -/
def digits (d : Directive) (base n : Nat) : List UInt8 :=
  let text := if n = 0 ∧ d.precision = some 0 then [] else Nat.toDigits base n
  List.replicate (d.precision.getD 0 - text.length) 48 ++ Text.Utf8.encode text

/-- The bytes of a whole number. -/
def whole (d : Directive) (n : Int) : List UInt8 :=
  let zeros := d.precision.isNone
  let bits := (n.emod 18446744073709551616).toNat
  let marked (mark : String) : List UInt8 :=
    if d.flags.contains '#' && n ≠ 0 then Text.Utf8.encode mark.toList else []
  match d.conversion with
  | 'o' =>
    let digits := d.digits 8 bits
    d.fill zeros [] (if d.flags.contains '#' && digits.head? ≠ some 48 then 48 :: digits
      else digits)
  | 'u' => d.fill zeros [] (d.digits 10 bits)
  | 'x' => d.fill zeros (marked "0x") (d.digits 16 bits)
  | 'X' => d.fill zeros (marked "0X") ((d.digits 16 bits).map fun b => if 97 ≤ b then b - 32 else b)
  | _ => d.fill zeros (d.sign (n < 0)) (d.digits 10 n.natAbs)

/-- The text of a number with a fixed count of places. A point without places is written if
`pointed` holds. -/
def fixed (pointed : Bool) (places : Nat) (x : Magnitude) : List Char :=
  let (n, m) := x.onGrid (-(places : Int))
  let digits := Nat.toDigits 10 (roundDiv n m)
  let digits := List.replicate (places + 1 - digits.length) '0' ++ digits
  let cut := digits.length - places
  digits.take cut ++ (if places = 0 && !pointed then [] else '.' :: digits.drop cut)

/-- The digits of a number with one before the point and `places` after it, and its power of ten. -/
def scientific (places : Nat) (x : Magnitude) : List Char × Int :=
  if x.mantissa = 0 then (List.replicate (places + 1) '0', 0)
  else
    let e := x.scale - 1
    let (n, m) := x.onGrid (e - places)
    let digits := Nat.toDigits 10 (roundDiv n m)
    if digits.length > places + 1 then (digits.take (places + 1), e + 1) else (digits, e)

/-- The text of a number in powers of ten. -/
def power (pointed : Bool) (digits : List Char) (e : Int) : List Char :=
  let size := Nat.toDigits 10 e.natAbs
  digits.take 1 ++ (if digits.length ≤ 1 && !pointed then [] else '.' :: digits.drop 1) ++
    ['e', if e < 0 then '-' else '+'] ++ List.replicate (2 - size.length) '0' ++ size

/-- The text of a number without zeros at its end. -/
def dropZeros (text : List Char) : List Char :=
  if text.contains '.' then
    let text := (text.reverse.dropWhile (· = '0')).reverse
    if text.getLast? = some '.' then text.dropLast else text
  else text

/-- The bytes of a number with a point. -/
def real (d : Directive) (x : Double) : List UInt8 :=
  let places := d.precision.getD 6
  let pointed := d.flags.contains '#'
  let short (text : List Char) : List Char := if pointed then text else dropZeros text
  let text := match d.conversion.toLower with
    | 'f' => fixed pointed places x.magnitude
    | 'e' => let (digits, e) := scientific places x.magnitude; power pointed digits e
    | _ =>
      let places := max places 1
      let (digits, e) := scientific (places - 1) x.magnitude
      if -4 ≤ e ∧ e < places then short (fixed pointed ((places : Int) - 1 - e).toNat x.magnitude)
      else
        let kept :=
          if pointed then digits.drop 1 else ((digits.drop 1).reverse.dropWhile (· = '0')).reverse
        power pointed (digits.take 1 ++ kept) e
  let text := if d.conversion.isUpper then text.map Char.toUpper else text
  d.fill true (d.sign x.negative) (Text.Utf8.encode text)

end Directive

/-- The number that an argument is, and whether it is one as a whole. A quotation mark stands before
a character whose code is meant. A number of more than 64 bits is replaced by the largest one. -/
def wholeArgument (signed : Bool) (argument : List Char) : Int × Bool :=
  match argument with
  | '\x27' :: c :: _ | '"' :: c :: _ =>
    ((((Text.Utf8.encode [c]).head?.map UInt8.toNat).getD 0 : Nat), true)
  | [] => (0, true)
  | argument =>
    match numberAt? argument with
    | some (n, rest) =>
      let digits := argument.dropWhile fun c =>
        [' ', '\t', '\n', '\x0b', '\x0c', '\r', '-', '+'].contains c
      let size := (magnitudeAt digits).1
      if size ≤ n.natAbs then (n, rest.isEmpty)
      else if signed then (n, false)
      else if size < 18446744073709551616 then (if n < 0 then -(size : Int) else size, rest.isEmpty)
      else (18446744073709551615, false)
    | none => (0, false)

/-- The number with a point at the start of a text without a sign, and what follows it. -/
def decimalAt (cs : List Char) : Option Magnitude × List Char :=
  let before := cs.takeWhile Char.isDigit
  let rest := cs.dropWhile Char.isDigit
  let (after, rest) := match rest with
    | '.' :: rest => (rest.takeWhile Char.isDigit, rest.dropWhile Char.isDigit)
    | rest => ([], rest)
  let (e, rest) : Int × List Char := match rest with
    | 'e' :: tail | 'E' :: tail =>
      let digits := match tail with
        | '-' :: digits | '+' :: digits => digits
        | digits => digits
      if (digits.head?.map Char.isDigit).getD false then
        let n : Int := decimal (digits.takeWhile Char.isDigit)
        (if tail.head? = some '-' then -n else n, digits.dropWhile Char.isDigit)
      else (0, rest)
    | rest => (0, rest)
  let e := e - after.length
  let magnitude := Magnitude.ofRatio? (decimal (before ++ after) * Nat.pow 10 (min e.toNat 400))
    (Nat.pow 10 (min (-e).toNat 400))
  if (before ++ after).isEmpty then (none, cs) else (magnitude, rest)

/-- The number with a point that an argument is, and whether it is one as a whole. -/
def realArgument (argument : List Char) : Double × Bool :=
  match argument with
  | [] => (⟨false, .zero⟩, true)
  | '\x27' :: _ | '"' :: _ =>
    let (n, valid) := wholeArgument true argument
    (⟨false, (Magnitude.ofRatio? n.toNat 1).getD .zero⟩, valid)
  | argument =>
    let cs := argument.dropWhile (· = ' ')
    let digits := if cs.head? = some '-' ∨ cs.head? = some '+' then cs.drop 1 else cs
    let (magnitude, rest) := match digits with
      | '0' :: 'x' :: _ | '0' :: 'X' :: _ =>
        let (n, rest) := magnitudeAt digits
        (Magnitude.ofRatio? n 1, rest)
      | digits => decimalAt digits
    match magnitude with
    | some magnitude => (⟨cs.head? = some '-', magnitude⟩, rest.isEmpty)
    | none => (⟨false, .zero⟩, false)

/-- What a format wrote: the bytes, the arguments left, a status that says whether all numbers were
numbers and the format was one, and whether it was cut off. -/
structure Written where
  bytes : List UInt8
  arguments : List (List Char)
  status : Nat := 0
  cut : Bool := false

/-- The bytes of an argument, whether a number in it is one, and whether the output is cut off. -/
def Directive.write (d : Directive) (argument : List Char) : List UInt8 × Bool × Bool :=
  let short (bytes : List UInt8) : List UInt8 := match d.precision with
    | some n => bytes.take n
    | none => bytes
  match d.conversion with
  | 'c' => (d.fill false [] [((Text.Utf8.encode argument).head?).getD 0], true, false)
  | 's' => (d.fill false [] (short (Text.Utf8.encode argument)), true, false)
  | 'b' => let (bytes, cut) := echoed argument; (d.fill false [] (short bytes), true, cut)
  | 'd' | 'i' => let (n, valid) := wholeArgument true argument; (d.whole n, valid, false)
  | 'o' | 'u' | 'x' | 'X' =>
    let (n, valid) := wholeArgument false argument
    (d.whole n, valid, false)
  | _ => let (x, valid) := realArgument argument; (d.real x, valid, false)

/-- Whether a character is a conversion. -/
def isConversion (c : Char) : Bool := "diouxXeEfFgGcsb".toList.contains c

/-- Writes a format once. -/
def formatOnce : (fuel : Nat) → List Char → List (List Char) → Written
  | 0, _, arguments => ⟨[], arguments, 0, false⟩
  | fuel + 1, cs, arguments =>
    match cs with
    | [] => ⟨[], arguments, 0, false⟩
    | '%' :: '%' :: rest => before [37] 0 fuel rest arguments
    | '%' :: rest =>
      match directive? rest arguments with
      | some (d, rest, arguments) =>
        if isConversion d.conversion then
          let (bytes, valid, cut) := d.write (arguments.headD [])
          let status := if valid then 0 else 1
          if cut then ⟨bytes, [], status, true⟩
          else before bytes status fuel rest (arguments.drop 1)
        else ⟨[], [], 2, true⟩
      | none => ⟨[], [], 2, true⟩
    | cs =>
      let text := cs.takeWhile (· ≠ '%')
      before (escaped false false (text.length + 1) text).1 0 fuel (cs.dropWhile (· ≠ '%'))
        arguments
where
  before (bytes : List UInt8) (status fuel : Nat) (rest : List Char)
    (arguments : List (List Char)) : Written :=
    let w := formatOnce fuel rest arguments
    { w with bytes := bytes ++ w.bytes, status := max status w.status }

/-- Writes a format as often as there are arguments for it, at least once. -/
def formatAll (cs : List Char) : (fuel : Nat) → List (List Char) → List UInt8 × Nat
  | 0, _ => ([], 0)
  | fuel + 1, arguments =>
    let w := formatOnce (cs.length + 1) cs arguments
    if w.cut || w.arguments.isEmpty || w.arguments.length = arguments.length then
      (w.bytes, w.status)
    else
      let (bytes, status) := formatAll cs fuel w.arguments
      (w.bytes ++ bytes, max w.status status)

/-- The bytes of a format with arguments, and its status. -/
def formatted (cs : List Char) (arguments : List (List Char)) : List UInt8 × Nat :=
  formatAll cs (arguments.length + 1) arguments

end EditorBridge.Shell
