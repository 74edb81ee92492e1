import KeyRotation.Text.Basic

/-! Addresses of web servers, as a client resolves them before it sends a request. -/
namespace KeyRotation

/-- A path has its segments, each in the form in which it is sent. A fragment is not sent,
so it is no part of an address. -/
structure Url where
  secure : Bool
  host : String
  portNumber : Option Nat
  path : List String
  query : Option String
  deriving DecidableEq, Repr

namespace Url

def hexDigit (n : Nat) : Char := ((Nat.toDigits 16 n).headD '0').toUpper

def percent (b : UInt8) : List Char := ['%', hexDigit (b.toNat / 16), hexDigit (b.toNat % 16)]

/-- Characters of a set, and all but printable ASCII, are sent as the bytes of their
UTF-8 form. -/
def encode (set : List Char) (cs : List Char) : List Char :=
  cs.flatMap fun c =>
    if c.toNat < 0x20 ∨ 0x7e < c.toNat ∨ set.contains c then
      (String.utf8EncodeChar c).flatMap percent
    else [c]

def querySet : List Char := [' ', '"', '#', '<', '>', '\'']

def pathSet : List Char := [' ', '"', '#', '<', '>', '?', '^', '\x60', '\x7b', '\x7d']

def isSlash (c : Char) : Bool := c == '/' || c == '\\'

def splitSlash : List Char → List (List Char)
  | [] => [[]]
  | c :: cs =>
    if isSlash c then [] :: splitSlash cs
    else
      match splitSlash cs with
      | [] => [[c]]
      | part :: parts => (c :: part) :: parts

/-- A point may be written by its number. -/
def unescapeDots : List Char → List Char
  | '%' :: '2' :: 'e' :: cs | '%' :: '2' :: 'E' :: cs => '.' :: unescapeDots cs
  | c :: cs => c :: unescapeDots cs
  | [] => []

/-- A letter and a colon, or a bar in its place. -/
def isDrive (segment : String) : Bool :=
  match segment.toList with
  | [letter, mark] => letter.isAlpha && (mark == ':' || mark == '|')
  | _ => false

/-- A step back takes the latest segment away, unless that names a drive. -/
def back : List String → List String
  | [] => []
  | segment :: before => if isDrive segment then segment :: before else before

/-- Segments with the steps back and the steps on the spot taken out; `before` holds the
segments in front, the latest first. A step at the end leaves an empty segment. -/
def resolve (before : List String) : List (List Char) → List String
  | [] => before.reverse
  | part :: parts =>
    let dots := unescapeDots part
    if dots = ['.', '.'] then
      resolve (if parts.isEmpty then "" :: back before else back before) parts
    else if dots = ['.'] then resolve (if parts.isEmpty then "" :: before else before) parts
    else resolve (String.ofList (encode pathSet part) :: before) parts

def pathOf (cs : List Char) : List String :=
  match cs with
  | [] => [""]
  | _ :: cs => resolve [] (splitSlash cs)

def isForbidden (c : Char) : Bool :=
  c.toNat ≤ 0x20 || c.toNat == 0x7f
    || ['#', '/', ':', '<', '>', '?', '@', '[', '\\', ']', '^', '|', '%', '\x60'].contains c

def hostAndPort (cs : List Char) : List Char × List Char :=
  match cs with
  | '[' :: _ =>
    let inner := (cs.takeWhile (· != ']')).length
    (cs.take (inner + 1), cs.drop (inner + 1))
  | _ => Text.run (· != ':') cs

def validHost (host : List Char) : Bool :=
  match host with
  | '[' :: rest =>
    rest.getLast? == some ']'
      && rest.dropLast.all fun c => (Text.hexDigit? c).isSome || c == ':' || c == '.'
  | _ => !host.any isForbidden

/-- The form in which a host is sent. Names of any script are taken as they are written. -/
def readHost? (host : List Char) : Option String :=
  if validHost host then some (String.ofList (host.map Char.toLower)) else none

def portNumber? (secure : Bool) : List Char → Option (Option Nat)
  | [] | [':'] => some none
  | ':' :: cs => do
    let n ← Text.natural? cs
    if UInt16.size ≤ n then none
    else some (if n = (if secure then 443 else 80) then none else some n)
  | _ => none

def isEdge (c : Char) : Bool := c.toNat ≤ 0x20

def isLineBreak (c : Char) : Bool := c == '\t' || c == '\n' || c == '\r'

/-- Spaces and controls around an address, and tabs and ends of lines within it, do not count. -/
def cleaned (text : String) : List Char :=
  let cs := ((text.toList.dropWhile isEdge).reverse.dropWhile isEdge).reverse
  cs.filter (!isLineBreak ·)

def scheme? (cs : List Char) : Option Bool :=
  let word := String.ofList (cs.map Char.toLower)
  if word = "http" then some false else if word = "https" then some true else none

/-- The server that an authority names: its host, which is never empty, and the number of its
port. What is in front of the last `@` is for the server itself. -/
def site? (readHost? : List Char → Option String) (secure : Bool) (authority : List Char) :
    Option (String × Option Nat) := do
  let afterUser := (authority.reverse.takeWhile (· != '@')).reverse
  let (host, digits) := hostAndPort afterUser
  let portNumber ← portNumber? secure digits
  if host.isEmpty then none else (readHost? host).map (·, portNumber)

def inAuthority (c : Char) : Bool := !isSlash c && c != '?' && c != '#'

def inPath (c : Char) : Bool := c != '?' && c != '#'

def queryOf : List Char → Option String
  | '?' :: cs => some (String.ofList (encode querySet (cs.takeWhile (· != '#'))))
  | _ => none

def ofChars? (readHost? : List Char → Option String) (cs : List Char) : Option Url := do
  let (scheme, rest) := Text.run (· != ':') cs
  let rest ← Text.after? [':'] rest
  let secure ← scheme? scheme
  let (authority, rest) := Text.run inAuthority (rest.dropWhile isSlash)
  let (host, portNumber) ← site? readHost? secure authority
  let (pathText, rest) := Text.run inPath rest
  pure ⟨secure, host, portNumber, pathOf pathText, queryOf rest⟩

/-- The address that a text names. How its host is read is left open: hosts have rules of their
own, and the rest of an address does not depend on them. -/
def parse? (text : String) (readHost? : List Char → Option String := readHost?) : Option Url :=
  ofChars? readHost? (cleaned text)

def target (url : Url) : String :=
  "/" ++ "/".intercalate url.path ++ (url.query.elim "" ("?" ++ ·))

end Url
end KeyRotation
