import EditorBridge.Uri.Address
import EditorBridge.Uri.Basic
import EditorBridge.Uri.Name

/-!
# Hosts and authorities

Hosts of URIs. The schemes that are special have names or addresses as hosts; all others have
addresses between brackets, or any text without delimiters.
-/

namespace EditorBridge.Uri

/-- The special schemes other than that of files, with their default ports. -/
def defaultPorts : List (String × Nat) :=
  [("http", 80), ("https", 443), ("ws", 80), ("wss", 443), ("ftp", 21)]

/-- The default port of a scheme. -/
def defaultPort? (scheme : List Char) : Option Nat := defaultPorts.lookup (String.ofList scheme)

/-- Whether a scheme takes backslashes for slashes and needs a path. -/
def isSpecial (scheme : List Char) : Bool := scheme = fileScheme ∨ (defaultPort? scheme).isSome

/-- Characters that no host holds. -/
def isForbidden (c : Char) : Bool :=
  ['\x00', '\t', '\n', '\r', ' ', '#', '/', ':', '<', '>', '?', '@', '[', '\\', ']', '^',
   '|'].contains c

/-- Characters that no host name holds. -/
def isForbiddenInName (c : Char) : Bool := isForbidden c || Percent.isControl c || c = '%'

/-- The host that a name stands for in a special scheme. -/
def nameHost? (host : List Char) : Option (List Char) := do
  let decoded ← Text.Utf8.decode? (Percent.decode host)
  let name ← Name.ascii? isForbiddenInName decoded
  if name = [] then none
  else if endsInNumber name then (ipv4? name).map ipv4Text
  else some name

/-- The host of a scheme that is not special. -/
def plainHost? (host : List Char) : Option (List Char) :=
  if host.any isForbidden then none else some (Percent.encode Percent.isControl host)

/-- A host between brackets. -/
def bracketHost? (host : List Char) : Option (List Char) :=
  if host.getLast? = some ']' then
    (Ipv6.read? (host.drop 1).dropLast).map fun pieces => '[' :: Ipv6.text pieces ++ [']']
  else none

/-- A host as the scheme allows it. -/
def host? (special : Bool) (host : List Char) : Option (List Char) :=
  if host.head? = some '[' then bracketHost? host
  else if special then nameHost? host
  else plainHost? host

/-- The user part, from the text before its `@`. -/
def userText (user : List Char) : List Char :=
  let name := user.takeWhile (· ≠ ':')
  let password := (user.dropWhile (· ≠ ':')).drop 1
  let encode := Percent.encode Percent.inUserInfo
  if name = [] ∧ password = [] then []
  else encode name ++ (if password = [] then [] else ':' :: encode password) ++ ['@']

/-- The port, from its digits. A default port is left out. -/
def port? (scheme digits : List Char) : Option (List Char) :=
  if digits = [] then some []
  else
    let port := Text.digitsValue digits
    if port ≤ 65535 then
      some (if defaultPort? scheme = some port then [] else ':' :: Nat.toDigits 10 port)
    else none

/-- Cuts a host and what follows it, which starts with the colon of a port. A colon between brackets
belongs to the host. -/
def splitPort (text : List Char) : List Char × List Char :=
  let body := if text.head? = some '[' then text.takeWhile (· ≠ ']') else []
  let rest := text.drop body.length
  (body ++ rest.takeWhile (· ≠ ':'), rest.dropWhile (· ≠ ':'))

/-- Cuts a text at its last `@`. -/
def splitUser (text : List Char) : Option (List Char) × List Char :=
  let reversed := text.reverse
  let host := (reversed.takeWhile (· ≠ '@')).reverse
  (((reversed.dropWhile (· ≠ '@')).tail?).map List.reverse, host)

/-- Reads an authority up to a slash, and gives what follows. `isEnd` says whether the URI ends with
the text. A user needs a host, and so does a port. The host of a special scheme is not empty. A
backslash ends a port. -/
def authority? (scheme : List Char) (isEnd : Bool) (text : List Char) :
    Option (Authority × List Char) := do
  let (user, hostPort) := splitUser (text.takeWhile (· ≠ '/'))
  let path := text.dropWhile (· ≠ '/')
  let (hostText, portText) := splitPort hostPort
  let user ← match user with
    | none => some []
    | some user =>
      if user = [] ∧ hostPort = [] ∧ ¬(isEnd ∧ path = []) then none else some (userText user)
  if hostText = [] ∧ (isSpecial scheme ∨ portText ≠ [] ∨ user ≠ []) then none
  let host ← if hostText = [] then some [] else host? (isSpecial scheme) hostText
  let digits := (portText.drop 1).takeWhile Char.isDigit
  let rest := portText.drop (1 + digits.length)
  let port ← port? scheme digits
  if rest.head?.all (· = '\\') then some (⟨user, host, port⟩, rest ++ path) else none

end EditorBridge.Uri
