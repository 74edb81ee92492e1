import KeyRotation.Calendar
import KeyRotation.Decimal
import KeyRotation.Text.Basic

/-! The values of a TOML document, and its smallest parts: white space, comments, ends of lines,
quoted text, keys, numbers, dates and times. -/
namespace KeyRotation.Toml

/-- Of a floating point number and of a date or time it is only kept that there is one:
no setting takes either. -/
inductive Value where
  | text (value : String)
  | integer (value : Int64)
  | boolean (value : Bool)
  | float
  | moment
  | array (items : List Value)
  | table (entries : List (String × Value))

abbrev Entries := List (String × Value)

open Text (Scan after? run many either separated)

def isSpace (c : Char) : Bool := c == ' ' || c == '\t'

def isPlain (c : Char) : Bool := c == '\t' || (' ' ≤ c && c != '\x7f')

def skipSpace (cs : List Char) : List Char := (run isSpace cs).2

def lineEnd? : List Char → Option (List Char)
  | '\n' :: cs => some cs
  | '\r' :: '\n' :: cs => some cs
  | _ => none

def skipComment : List Char → List Char
  | '#' :: cs => (run isPlain cs).2
  | cs => cs

/-- Space and a comment up to the end of the line or of the text. -/
def closeLine? (cs : List Char) : Option (List Char) :=
  match skipComment (skipSpace cs) with
  | [] => some []
  | cs => lineEnd? cs

def blankPiece : Scan Unit
  | '#' :: cs => some ((), (run isPlain cs).2)
  | c :: cs => if isSpace c then some ((), cs) else (lineEnd? (c :: cs)).map ((), ·)
  | [] => none

def skipBlank (cs : List Char) : List Char := (many blankPiece cs).2

def numbered (digits : Nat) : Scan (List Char) := fun cs =>
  let (read, rest) := (cs.take digits, cs.drop digits)
  let n := Text.hexadecimal read
  if read.length = digits ∧ read.all (Text.hexDigit? · |>.isSome) ∧ n.isValidChar then
    some ([Char.ofNat n], rest)
  else none

def escaped : Scan (List Char)
  | 'b' :: cs => some (['\x08'], cs)
  | 't' :: cs => some (['\t'], cs)
  | 'n' :: cs => some (['\n'], cs)
  | 'f' :: cs => some (['\x0c'], cs)
  | 'r' :: cs => some (['\r'], cs)
  | '"' :: cs => some (['"'], cs)
  | '\\' :: cs => some (['\\'], cs)
  | 'u' :: cs => numbered 4 cs
  | 'U' :: cs => numbered 8 cs
  | _ => none

/-- A piece of text with escapes: an escape, or plain characters up to the next quote or
backslash. -/
def basicPiece : Scan (List Char)
  | '\\' :: cs => escaped cs
  | cs => some (run (fun c => isPlain c && c != '"' && c != '\\') cs)

def literalPiece : Scan (List Char) := fun cs =>
  some (run (fun c => isPlain c && c != '\'') cs)

def enclosed (quote : Char) (piece : Scan (List Char)) : Scan String := fun cs =>
  let (pieces, rest) := many piece cs
  (after? [quote] rest).map (String.ofList pieces.flatten, ·)

def lineText : Scan String
  | '"' :: cs => enclosed '"' basicPiece cs
  | '\'' :: cs => enclosed '\'' literalPiece cs
  | _ => none

/-- The end of a line within text is a line feed. -/
def newlinePiece : Scan (List Char) := fun cs => (lineEnd? cs).map (['\n'], ·)

/-- A backslash at the end of a line hides the space that follows, lines included. -/
def hiddenPiece : Scan (List Char)
  | '\\' :: cs => do
    let rest ← lineEnd? (skipSpace cs)
    let spaceOrEnd : Scan Unit := fun cs =>
      match cs with
      | c :: rest => if isSpace c then some ((), rest) else (lineEnd? cs).map ((), ·)
      | [] => none
    pure ([], (many spaceOrEnd rest).2)
  | _ => none

/-- One or two quotes do not end a text that three quotes end. -/
def quotePiece (quote : Char) : Scan (List Char) := fun cs =>
  let (quotes, rest) := run (· == quote) cs
  if quotes.length < 3 then some (quotes, rest) else none

/-- Pieces up to three quotes, before which two more belong to the text. -/
def enclosedLong (quote : Char) (piece : Scan (List Char)) : Scan String := fun cs =>
  let start := (lineEnd? cs).getD cs
  let (pieces, rest) := many piece start
  let (quotes, rest) := run (· == quote) rest
  if 3 ≤ quotes.length ∧ quotes.length ≤ 5 then
    some (String.ofList (pieces.flatten ++ quotes.drop 3), rest)
  else none

def longText : Scan String
  | '"' :: '"' :: '"' :: cs =>
    let piece (cs : List Char) := match cs with
      | '"' :: _ => quotePiece '"' cs
      | '\\' :: _ => either hiddenPiece basicPiece cs
      | '\n' :: _ | '\r' :: _ => newlinePiece cs
      | cs => basicPiece cs
    enclosedLong '"' piece cs
  | '\'' :: '\'' :: '\'' :: cs =>
    let piece (cs : List Char) := match cs with
      | '\'' :: _ => quotePiece '\'' cs
      | '\n' :: _ | '\r' :: _ => newlinePiece cs
      | cs => literalPiece cs
    enclosedLong '\'' piece cs
  | _ => none

def isBare (c : Char) : Bool := c.isAlphanum || c == '-' || c == '_'

def simpleKey : Scan String
  | '"' :: cs => lineText ('"' :: cs)
  | '\'' :: cs => lineText ('\'' :: cs)
  | cs =>
    let (key, rest) := run isBare cs
    if key.isEmpty then none else some (String.ofList key, rest)

/-- The nesting of values and the parts of a key stay below this. -/
def depthLimit : Nat := 80

def keyPath : Scan (List String) := fun cs => do
  let part : Scan String := fun cs => do
    let (key, cs) ← simpleKey (skipSpace cs)
    pure (key, skipSpace cs)
  let (path, cs) ← separated ['.'] part cs
  if path.length < depthLimit then some (path, cs) else none

open Text (Scan after? run many)

/-- A digit, which an underscore may precede. -/
def digitAfter (ok : Char → Bool) : Scan Char
  | '_' :: c :: cs => if ok c then some (c, cs) else none
  | c :: cs => if ok c then some (c, cs) else none
  | [] => none

def digits (ok : Char → Bool) : Scan (List Char)
  | c :: cs =>
    if ok c then
      let (others, rest) := many (digitAfter ok) cs
      some (c :: others, rest)
    else none
  | [] => none

def sign : Scan (List Char)
  | '+' :: cs => some ([], cs)
  | '-' :: cs => some (['-'], cs)
  | cs => some ([], cs)

def whole : Scan (List Char)
  | '0' :: cs => some (['0'], cs)
  | cs => digits Char.isDigit cs

def fraction : Scan (List Char)
  | '.' :: cs => (digits Char.isDigit cs).map fun (read, rest) => ('.' :: read, rest)
  | _ => none

def exponent : Scan (List Char)
  | c :: cs =>
    if c = 'e' ∨ c = 'E' then do
      let (minus, cs) ← sign cs
      let (read, rest) ← digits Char.isDigit cs
      pure ('e' :: minus ++ read, rest)
    else none
  | [] => none

/-- A number with a fraction or an exponent. One that is too large for floating point is
none. -/
def float : Scan Value := fun cs => do
  let (minus, cs) ← sign cs
  match after? "inf".toList cs, after? "nan".toList cs with
  | some rest, _ | _, some rest => some (.float, rest)
  | none, none =>
    let (whole, cs) ← whole cs
    let (fraction, exponent, rest) ← match fraction cs with
      | some (fraction, cs) =>
        let (exponent, rest) := (exponent cs).getD ([], cs)
        some (fraction, exponent, rest)
      | none => (exponent cs).map fun (exponent, rest) => ([], exponent, rest)
    let numeral := String.ofList (minus ++ whole ++ fraction ++ exponent)
    if Decimal.Binary64.ofText? numeral = some (.infinite false) then none
    else some (.float, rest)

def ofInt? (n : Int) : Option Value :=
  if Int64.minValue.toInt ≤ n ∧ n ≤ Int64.maxValue.toInt then some (.integer (Int64.ofInt n))
  else none

def based (base : Nat) (cs : List Char) : Nat :=
  cs.foldl (fun n c => base * n + (Text.hexDigit? c).getD 0) 0

def basedInteger (base : Nat) : Scan Value := fun cs => do
  let ok (c : Char) := (Text.hexDigit? c).any (· < base)
  let (read, rest) ← digits ok cs
  let value ← ofInt? (based base read)
  pure (value, rest)

/-- A number without a fraction: in decimal, or without a sign in one of three other
bases. -/
def integer : Scan Value
  | '0' :: 'x' :: cs => basedInteger 16 cs
  | '0' :: 'o' :: cs => basedInteger 8 cs
  | '0' :: 'b' :: cs => basedInteger 2 cs
  | cs => do
    let (minus, cs) ← sign cs
    let (read, rest) ← whole cs
    let n : Int := Text.positional read
    let value ← ofInt? (if minus.isEmpty then n else -n)
    pure (value, rest)

def fixedDigits (count : Nat) : Scan Nat := fun cs =>
  let read := cs.take count
  if read.length = count ∧ read.all Char.isDigit then
    some (Text.positional read, cs.drop count)
  else none

def below (limit : Nat) : Scan Nat := fun cs =>
  (fixedDigits 2 cs).filter (·.1 < limit)

def date : Scan Unit := fun cs => do
  let (year, cs) ← fixedDigits 4 cs
  let cs ← after? ['-'] cs
  let (month, cs) ← fixedDigits 2 cs
  let cs ← after? ['-'] cs
  let (day, cs) ← fixedDigits 2 cs
  if Calendar.Date.Valid ⟨year, month, day⟩ then some ((), cs) else none

/-- A time of day, which may fall into a leap second. -/
def timeOfDay : Scan Unit := fun cs => do
  let (_, cs) ← below 24 cs
  let cs ← after? [':'] cs
  let (_, cs) ← below 60 cs
  let cs ← after? [':'] cs
  let (_, cs) ← below 61 cs
  match cs with
  | '.' :: rest =>
    let (read, rest) := run Char.isDigit rest
    if read.isEmpty then some ((), cs) else some ((), rest)
  | cs => some ((), cs)

def offset : Scan Unit
  | 'Z' :: cs | 'z' :: cs => some ((), cs)
  | '+' :: cs | '-' :: cs => do
    let (_, cs) ← below 24 cs
    let cs ← after? [':'] cs
    let (_, cs) ← below 60 cs
    pure ((), cs)
  | _ => none

def timeAfterDate : Scan Unit
  | c :: cs =>
    if c = 'T' ∨ c = 't' ∨ c = ' ' then do
      let (_, cs) ← timeOfDay cs
      pure ((offset cs).getD ((), cs))
    else none
  | [] => none

def moment : Scan Value := fun cs =>
  match date cs with
  | some (_, cs) => some (.moment, ((timeAfterDate cs).getD ((), cs)).2)
  | none => (timeOfDay cs).map fun (_, rest) => (.moment, rest)

def number : Scan Value := fun cs => ((moment cs).or (float cs)).or (integer cs)

end KeyRotation.Toml
