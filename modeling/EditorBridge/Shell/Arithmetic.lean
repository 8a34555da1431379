/-!
# Arithmetic of the shell

The values of arithmetic expansions. Numbers have 64 bits and wrap around.
-/

namespace EditorBridge.Shell

/-- An expression. -/
inductive Expression where
  | number (n : Int)
  | name (text : List Char)
  | negate (a : Expression)
  | invert (a : Expression)
  | deny (a : Expression)
  | binary (operator : String) (a b : Expression)
  | both (a b : Expression)
  | either (a b : Expression)
  | choose (test yes no : Expression)
  /-- Gives a variable the value of `a`, or of the operator applied to its value and `a`. -/
  | assign (text : List Char) (operator : String) (a : Expression)
deriving Repr, Inhabited

/-- A token of an expression. -/
inductive Term where
  | number (n : Int)
  | name (text : List Char)
  | operator (name : String)
deriving DecidableEq, Repr

/-- The number that 64 bits hold. -/
def wrap (n : Int) : Int := n.bmod 18446744073709551616

/-- The value of a digit, or a number beyond all digits. -/
def digitValue (c : Char) : Nat :=
  if c.isDigit then c.toNat - '0'.toNat
  else if 'a' ≤ c ∧ c ≤ 'z' then c.toNat - 'a'.toNat + 10
  else if 'A' ≤ c ∧ c ≤ 'Z' then c.toNat - 'A'.toNat + 10
  else 36

/-- The value of digits. -/
def ofDigits (base : Nat) (digits : List Char) : Nat :=
  digits.foldl (fun n c => base * n + digitValue c) 0

/-- The value of a decimal number. -/
def decimal (digits : List Char) : Nat := ofDigits 10 digits

/-- The largest number of 64 bits. -/
def largest : Nat := 9223372036854775807

/-- The number at the start of a text without a sign, and what follows it. A zero in front means
octal digits, and an `x` after it hexadecimal ones. -/
def magnitudeAt (cs : List Char) : Nat × List Char :=
  let digits (base : Nat) (cs : List Char) : Nat × List Char :=
    let inBase (c : Char) : Bool := digitValue c < base
    (ofDigits base (cs.takeWhile inBase), cs.dropWhile inBase)
  match cs with
  | '0' :: 'x' :: c :: rest | '0' :: 'X' :: c :: rest =>
    if digitValue c < 16 then digits 16 (c :: rest) else digits 8 cs
  | '0' :: _ => digits 8 cs
  | _ => digits 10 cs

/-- The number at the start of a text after blanks, if there is one, and what follows it. -/
def numberAt? (cs : List Char) : Option (Int × List Char) :=
  let cs := cs.dropWhile fun c => [' ', '\t', '\n', '\x0b', '\x0c', '\r'].contains c
  let (negative, digits) := match cs with
    | '-' :: rest => (true, rest)
    | '+' :: rest => (false, rest)
    | rest => (false, rest)
  if (digits.head?.map Char.isDigit).getD false then
    let (n, rest) := magnitudeAt digits
    some (if negative then -(min n (largest + 1) : Nat) else (min n largest : Nat), rest)
  else none

/-- The integer that a text is, in the notation of expressions, if it has 64 bits. -/
def integer? (cs : List Char) : Option Int :=
  let digits := cs.dropWhile fun c => [' ', '\t', '\n', '\x0b', '\x0c', '\r', '-', '+'].contains c
  match numberAt? cs with
  | some (n, []) => if (magnitudeAt digits).1 ≤ n.natAbs then some n else none
  | _ => none

/-- The integer that a decimal text is, or zero. -/
def integerOf (cs : List Char) : Int :=
  let (negative, digits) := match cs with
    | '-' :: rest => (true, rest)
    | '+' :: rest => (false, rest)
    | rest => (false, rest)
  if digits.all Char.isDigit then (if negative then -(decimal digits : Int) else decimal digits)
  else 0

/-- The operators, longer ones first. -/
def operators : List String :=
  ["<<=", ">>=", "||", "&&", "==", "!=", "<=", ">=", "<<", ">>", "+=", "-=", "*=", "/=", "%=", "&=",
   "^=", "|=", "+", "-", "*", "/", "%", "<", ">", "!", "~", "&", "^", "|", "?", ":", "=", "(", ")"]

/-- The tokens of an expression, if it has no other characters. -/
def termsOf : (fuel : Nat) → List Char → Option (List Term)
  | 0, _ => none
  | fuel + 1, cs =>
    match cs with
    | [] => some []
    | c :: rest =>
      if [' ', '\t', '\n'].contains c then termsOf fuel rest
      else if c.isDigit then
        let (n, after) := magnitudeAt (c :: rest)
        (termsOf fuel after).map (.number (min n largest : Nat) :: ·)
      else if c.isAlpha || c = '_' then
        let inName (c : Char) : Bool := c.isAlphanum || c = '_'
        (termsOf fuel (rest.dropWhile inName)).map (.name (c :: rest.takeWhile inName) :: ·)
      else
        match operators.find? (·.toList.isPrefixOf (c :: rest)) with
        | some name => (termsOf fuel ((c :: rest).drop name.length)).map (.operator name :: ·)
        | none => none

/-- How tightly an operator binds. -/
def rank? (name : String) : Option Nat :=
  [("||", 1), ("&&", 2), ("|", 3), ("^", 4), ("&", 5), ("==", 6), ("!=", 6), ("<", 7), ("<=", 7),
   (">", 7), (">=", 7), ("<<", 8), (">>", 8), ("+", 9), ("-", 9), ("*", 10), ("/", 10),
   ("%", 10)].lookup name

/-- The operators that assign, with the operators they apply. -/
def assigners : List (String × String) :=
  [("=", ""), ("+=", "+"), ("-=", "-"), ("*=", "*"), ("/=", "/"), ("%=", "%"), ("<<=", "<<"),
   (">>=", ">>"), ("&=", "&"), ("^=", "^"), ("|=", "|")]

mutual

/-- Reads an operand. -/
def operandOf : (fuel : Nat) → List Term → Option (Expression × List Term)
  | 0, _ => none
  | fuel + 1, ts =>
    match ts with
    | .number n :: rest => some (.number n, rest)
    | .name text :: rest => some (.name text, rest)
    | .operator "-" :: rest => (operandOf fuel rest).map fun (a, rest) => (.negate a, rest)
    | .operator "+" :: rest => operandOf fuel rest
    | .operator "~" :: rest => (operandOf fuel rest).map fun (a, rest) => (.invert a, rest)
    | .operator "!" :: rest => (operandOf fuel rest).map fun (a, rest) => (.deny a, rest)
    | .operator "(" :: rest => do
      let (a, rest) ← assignmentOf fuel rest
      match rest with
      | .operator ")" :: rest => return (a, rest)
      | _ => none
    | _ => none

/-- Reads an expression of operators that bind at least as tightly as `rank`. -/
def expressionOf : (fuel rank : Nat) → List Term → Option (Expression × List Term)
  | 0, _, _ => none
  | fuel + 1, rank, ts => do
    let (a, rest) ← operandOf fuel ts
    operationsOf fuel rank a rest

/-- Reads the operators that follow an operand. -/
def operationsOf : (fuel rank : Nat) → Expression → List Term → Option (Expression × List Term)
  | 0, _, _, _ => none
  | fuel + 1, rank, a, ts =>
    match ts with
    | .operator name :: rest =>
      match rank? name with
      | some r =>
        if r < rank then some (a, ts)
        else do
          let (b, rest) ← expressionOf fuel (r + 1) rest
          operationsOf fuel rank (match name with
            | "&&" => .both a b
            | "||" => .either a b
            | name => .binary name a b) rest
      | none => some (a, ts)
    | rest => some (a, rest)

/-- Reads an expression that may choose between two others. -/
def choiceOf : (fuel : Nat) → List Term → Option (Expression × List Term)
  | 0, _ => none
  | fuel + 1, ts => do
    let (test, rest) ← expressionOf fuel 1 ts
    match rest with
    | .operator "?" :: rest =>
      let (yes, rest) ← assignmentOf fuel rest
      match rest with
      | .operator ":" :: rest =>
        (choiceOf fuel rest).map fun (no, rest) => (.choose test yes no, rest)
      | _ => none
    | rest => return (test, rest)

/-- Reads an expression that may assign. -/
def assignmentOf : (fuel : Nat) → List Term → Option (Expression × List Term)
  | 0, _ => none
  | fuel + 1, ts =>
    match ts with
    | .name text :: .operator name :: rest =>
      match assigners.lookup name with
      | some operator =>
        (assignmentOf fuel rest).map fun (a, rest) => (.assign text operator a, rest)
      | none => choiceOf fuel ts
    | ts => choiceOf fuel ts

end

/-- The expression that a text is. -/
def Expression.ofText? (cs : List Char) : Option Expression := do
  let terms ← termsOf (cs.length + 1) cs
  if terms.isEmpty then return .number 0
  let (a, rest) ← assignmentOf (8 * (terms.length + 1)) terms
  if rest.isEmpty then return a else none

/-- The number of a truth value. -/
def truth (b : Bool) : Int := if b then 1 else 0

/-- The value of an operation on 64 bits, seen as a number without a sign. -/
def onBits (f : Nat → Nat → Nat) (a b : Int) : Int :=
  wrap (f (a.emod 18446744073709551616).toNat (b.emod 18446744073709551616).toNat)

/-- The value of an operator. Nothing can be divided by zero. -/
def result? (name : String) (a b : Int) : Option Int :=
  match name with
  | "|" => some (onBits (· ||| ·) a b)
  | "^" => some (onBits (· ^^^ ·) a b)
  | "&" => some (onBits (· &&& ·) a b)
  | "==" => some (truth (a = b))
  | "!=" => some (truth (a ≠ b))
  | "<" => some (truth (a < b))
  | "<=" => some (truth (a ≤ b))
  | ">" => some (truth (a > b))
  | ">=" => some (truth (a ≥ b))
  | "<<" => some (wrap (a * Nat.pow 2 (b.emod 64).toNat))
  | ">>" => some (a.fdiv (Nat.pow 2 (b.emod 64).toNat))
  | "+" => some (wrap (a + b))
  | "-" => some (wrap (a - b))
  | "*" => some (wrap (a * b))
  | "/" => if b = 0 then none else some (wrap (a.tdiv b))
  | "%" => if b = 0 then none else some (a.tmod b)
  | _ => some b

/-- The variables with the texts of their values. -/
abbrev Bindings := List (List Char × List Char)

/-- The bindings with a new value for a variable. -/
def Bindings.set (b : Bindings) (name value : List Char) : Bindings :=
  (name, value) :: b.filter (·.1 ≠ name)

/-- The number that a variable holds, if it holds one. -/
def Bindings.number? (b : Bindings) (name : List Char) : Option Int :=
  match b.lookup name with
  | none => some 0
  | some text => if text.all (· = ' ') then some 0 else integer? text

/-- The value of an expression, and the variables after it. -/
def Expression.evaluate? (b : Bindings) : Expression → Option (Int × Bindings)
  | .number n => some (n, b)
  | .name text => (b.number? text).map (·, b)
  | .negate a => (a.evaluate? b).map fun (n, b) => (wrap (-n), b)
  | .invert a => (a.evaluate? b).map fun (n, b) => (-n - 1, b)
  | .deny a => (a.evaluate? b).map fun (n, b) => (truth (n = 0), b)
  | .binary operator a c => do
    let (n, b) ← a.evaluate? b
    let (m, b) ← c.evaluate? b
    return (← result? operator n m, b)
  | .both a c => do
    let (n, b) ← a.evaluate? b
    if n = 0 then return (0, b)
    let (m, b) ← c.evaluate? b
    return (truth (m ≠ 0), b)
  | .either a c => do
    let (n, b) ← a.evaluate? b
    if n ≠ 0 then return (1, b)
    let (m, b) ← c.evaluate? b
    return (truth (m ≠ 0), b)
  | .choose test yes no => do
    let (n, b) ← test.evaluate? b
    if n ≠ 0 then yes.evaluate? b else no.evaluate? b
  | .assign text operator a => do
    let (m, b) ← a.evaluate? b
    let n ← result? operator (← if operator = "" then some 0 else b.number? text) m
    return (n, b.set text (toString n).toList)

end EditorBridge.Shell
