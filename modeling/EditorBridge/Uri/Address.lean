import EditorBridge.Json.Quoted
import EditorBridge.Text.Digit
import EditorBridge.Text.Split

/-!
# Addresses of hosts

The numbers by which hosts are addressed. An IPv4 address is one number of 32 bits, an IPv6 address
has eight pieces of 16 bits each.
-/

namespace EditorBridge.Uri

/-- The value of a number with digits below `base`. -/
def numberIn? (base : Nat) (digits : List Char) : Option Nat :=
  digits.foldlM (fun n c => do
    let d ← Quoted.hexValue? c
    if d < base then some (n * base + d) else none) 0

/-- The value of a number in an IPv4 address, which may be octal or hexadecimal. -/
def ipv4Number? : List Char → Option Nat
  | [] => none
  | '0' :: 'x' :: rest | '0' :: 'X' :: rest => numberIn? 16 rest
  | '0' :: d :: rest => numberIn? 8 (d :: rest)
  | digits => numberIn? 10 digits

/-- The labels of a host name, without the empty one after a final point. -/
def labels (host : List Char) : List (List Char) :=
  let parts := Text.split (· = '.') host
  if parts.length > 1 ∧ parts.getLast? = some [] then parts.dropLast else parts

/-- Whether a host name ends in a number, so that it must be an IPv4 address. -/
def endsInNumber (host : List Char) : Bool :=
  match (labels host).getLast? with
  | none => false
  | some last => last ≠ [] ∧ (last.all Char.isDigit ∨ (ipv4Number? last).isSome)

/-- The text of an IPv4 address. -/
def ipv4Text (address : Nat) : List Char :=
  Text.join ['.']
    ([address / 16777216, address / 65536 % 256, address / 256 % 256, address % 256].map
      (Nat.toDigits 10))

/-- The address that an IPv4 host stands for: the last number fills the bytes that are left. -/
def ipv4? (host : List Char) : Option Nat := do
  let parts := labels host
  if parts.length > 4 then none
  let numbers ← parts.mapM ipv4Number?
  let last ← numbers.getLast?
  let front := numbers.dropLast
  if front.all (· ≤ 255) ∧ last < Nat.pow 256 (4 - front.length) then
    some ((List.range front.length).foldl (fun n i =>
      n + front.getD i 0 * Nat.pow 256 (3 - i)) last)
  else none

namespace Ipv6

/-- Reads a piece: up to four hexadecimal digits. -/
def piece? (text : List Char) : Option Nat :=
  if text = [] ∨ text.length > 4 then none else numberIn? 16 text

/-- Reads a byte in decimal digits. -/
def byte? (text : List Char) : Option Nat :=
  if text = [] ∨ text.length > 3 ∨ (text.length > 1 ∧ text.head? = some '0') then none
  else (numberIn? 10 text).filter (· ≤ 255)

/-- Reads the last pieces: one, or two that are written as four bytes. -/
def lastPieces? (text : List Char) : Option (List Nat) :=
  if text.contains '.' then do
    match ← (Text.split (· = '.') text).mapM byte? with
    | [a, b, c, d] => some [a * 256 + b, c * 256 + d]
    | _ => none
  else (piece? text).map ([·])

/-- Reads pieces between colons, of which the last may be written in bytes if they end the
address. -/
def pieces? (isEnd : Bool) (text : List Char) : Option (List Nat) :=
  if text = [] then some []
  else do
    let parts := Text.split (· = ':') text
    let front ← parts.dropLast.mapM piece?
    let last ← (if isEnd then lastPieces? else fun t => (piece? t).map ([·])) (parts.getLastD [])
    return front ++ last

/-- Cuts a text at its first two colons in a row. -/
def cut : List Char → Option (List Char × List Char)
  | [] => none
  | c :: cs =>
    match c, cs with
    | ':', ':' :: rest => some ([], rest)
    | _, _ => (cut cs).map fun (before, after) => (c :: before, after)

/-- Reads the pieces of an address. Two colons in a row stand for one piece or more that are
zero. -/
def read? (text : List Char) : Option (List Nat) :=
  match cut text with
  | none => (pieces? true text).filter (·.length = 8)
  | some (before, after) => do
    let front ← pieces? false before
    let back ← pieces? true after
    if front.length + back.length ≤ 7 then
      some (front ++ List.replicate (8 - front.length - back.length) 0 ++ back)
    else none

/-- How many pieces from the place `i` on are zero. -/
def zerosAt (pieces : List Nat) (i : Nat) : Nat := ((pieces.drop i).takeWhile (· = 0)).length

/-- The first place from which most pieces are zero. -/
def longestZeros (pieces : List Nat) : Nat :=
  (List.range pieces.length).foldl (fun best i => if zerosAt pieces best < zerosAt pieces i then i
    else best) 0

/-- The text of an address. Two or more pieces in a row that are zero are written as two colons. -/
def text (pieces : List Nat) : List Char :=
  let write (ps : List Nat) : List Char := Text.join [':'] (ps.map (Nat.toDigits 16))
  let start := longestZeros pieces
  let count := zerosAt pieces start
  if count < 2 then write pieces
  else write (pieces.take start) ++ [':', ':'] ++ write (pieces.drop (start + count))

end Ipv6

end EditorBridge.Uri
