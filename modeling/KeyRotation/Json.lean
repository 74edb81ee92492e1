import KeyRotation.Text.Basic

/-! JSON values with their two written forms, compact and indented by two spaces, and how a name
is read from JSON text: a string, or an object whose one field has that name and is null. -/
namespace KeyRotation

/-- `amount` is a number that is not whole, already written. -/
inductive Json where
  | null
  | bool (value : Bool)
  | int (value : Int)
  | amount (text : String)
  | str (text : String)
  | arr (items : List Json)
  | obj (fields : List (String × Json))

namespace Json

def ofOption (f : α → Json) : Option α → Json
  | none => .null
  | some a => f a

def escaped (c : Char) : List Char :=
  match c with
  | '"' => ['\\', '"']
  | '\\' => ['\\', '\\']
  | '\n' => ['\\', 'n']
  | '\r' => ['\\', 'r']
  | '\t' => ['\\', 't']
  | '\x08' => ['\\', 'b']
  | '\x0c' => ['\\', 'f']
  | c =>
    if c.toNat < 0x20 then
      let cs := Nat.toDigits 16 c.toNat
      ['\\', 'u'] ++ List.replicate (4 - cs.length) '0' ++ cs
    else [c]

def quoted (text : String) : String :=
  String.ofList ('"' :: text.toList.flatMap escaped ++ ['"'])

mutual

def compact : Json → String
  | .null => "null"
  | .bool b => if b then "true" else "false"
  | .int n => toString n
  | .amount text => text
  | .str text => quoted text
  | .arr items => "[" ++ ",".intercalate (compactItems items) ++ "]"
  | .obj fields => "\x7b" ++ ",".intercalate (compactFields fields) ++ "\x7d"

def compactItems : List Json → List String
  | [] => []
  | item :: items => compact item :: compactItems items

def compactFields : List (String × Json) → List String
  | [] => []
  | (name, value) :: fields => (quoted name ++ ":" ++ compact value) :: compactFields fields

end

def margin (depth : Nat) : String := "\n" ++ String.ofList (List.replicate (2 * depth) ' ')

def bracketed (left right : String) (depth : Nat) (entries : List String) : String :=
  if entries.isEmpty then left ++ right
  else
    left ++ ",".intercalate (entries.map (margin (depth + 1) ++ ·)) ++ margin depth ++ right

mutual

def prettyAt (depth : Nat) : Json → String
  | .null => "null"
  | .bool b => if b then "true" else "false"
  | .int n => toString n
  | .amount text => text
  | .str text => quoted text
  | .arr items => bracketed "[" "]" depth (prettyItems (depth + 1) items)
  | .obj fields => bracketed "\x7b" "\x7d" depth (prettyFields (depth + 1) fields)

def prettyItems (depth : Nat) : List Json → List String
  | [] => []
  | item :: items => prettyAt depth item :: prettyItems depth items

def prettyFields (depth : Nat) : List (String × Json) → List String
  | [] => []
  | (name, value) :: fields =>
    (quoted name ++ ": " ++ prettyAt depth value) :: prettyFields depth fields

end

def pretty (value : Json) : String := prettyAt 0 value

end Json

namespace Json.Tag

def isSpace (c : Char) : Bool := c == ' ' || c == '\n' || c == '\t' || c == '\r'

def skip (cs : List Char) : List Char := cs.dropWhile isSpace

def unit? (a b c d : Char) : Option Nat := do
  let a ← Text.hexDigit? a
  let b ← Text.hexDigit? b
  let c ← Text.hexDigit? c
  let d ← Text.hexDigit? d
  pure (((a * 16 + b) * 16 + c) * 16 + d)

def simpleEscape? : Char → Option Char
  | '"' => some '"'
  | '\\' => some '\\'
  | '/' => some '/'
  | 'b' => some '\x08'
  | 'f' => some '\x0c'
  | 'n' => some '\n'
  | 'r' => some '\r'
  | 't' => some '\t'
  | _ => none

/-- The characters up to the closing quote and what follows it. No name has a character
outside the first plane, so half of a surrogate pair ends the reading. -/
def body? : List Char → Option (List Char × List Char)
  | [] => none
  | '"' :: rest => some ([], rest)
  | '\\' :: 'u' :: a :: b :: c :: d :: rest => do
    let n ← unit? a b c d
    if 0xd800 ≤ n ∧ n < 0xe000 then none
    let (cs, rest) ← body? rest
    pure (Char.ofNat n :: cs, rest)
  | '\\' :: c :: rest => do
    let c ← simpleEscape? c
    let (cs, rest) ← body? rest
    pure (c :: cs, rest)
  | c :: rest => do
    if c.toNat < 0x20 then none
    let (cs, rest) ← body? rest
    pure (c :: cs, rest)

def string? (cs : List Char) : Option (String × List Char) :=
  match skip cs with
  | '"' :: rest => (body? rest).map fun (cs, rest) => (String.ofList cs, rest)
  | _ => none

/-- One name, with nothing but space around it. -/
def read? (text : String) : Option String := do
  let (name, rest) ← match skip text.toList with
    | '\x7b' :: rest => do
      let (name, rest) ← string? rest
      match skip rest with
      | ':' :: rest =>
        match skip rest with
        | 'n' :: 'u' :: 'l' :: 'l' :: rest =>
          match skip rest with
          | '\x7d' :: rest => some (name, rest)
          | _ => none
        | _ => none
      | _ => none
    | cs => string? cs
  if (skip rest).isEmpty then some name else none

end Json.Tag
end KeyRotation
