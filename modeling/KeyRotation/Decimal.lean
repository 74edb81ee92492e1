import KeyRotation.Text.Basic

/-! Binary floating point with 53 significant bits, as exact numbers: a sign, and a significand
times a power of two. A number is read from decimal text as the nearest one, and written in the
fewest digits that read back as it, or with a fixed count of places. -/
namespace KeyRotation.Decimal

/-- The nearest whole number to a quotient; a half goes to the even neighbour. -/
def roundHalfEven (num den : Nat) : Nat :=
  let q := num / den
  let r := num % den
  if 2 * r < den then q
  else if den < 2 * r then q + 1
  else if q % 2 = 0 then q else q + 1

/-- A floating point number that is not a NaN. A finite one is
`significand * 2 ^ exponent`, with the largest significand below `2 ^ 53` that has an
exponent no less than -1074. -/
inductive Binary64 where
  | finite (negative : Bool) (significand : Nat) (exponent : Int)
  | infinite (negative : Bool)
  deriving DecidableEq, Repr

namespace Binary64

def minExponent : Int := -1074
def maxExponent : Int := 971

def scaled (num den : Nat) (exponent : Int) : Nat × Nat :=
  if exponent ≤ 0 then (num <<< (-exponent).toNat, den) else (num, den <<< exponent.toNat)

/-- The exponent for which a quotient has a significand of 53 bits, or the least one. -/
def exponentOf (num den : Nat) : Int :=
  let guess : Int := (num.log2 : Int) - den.log2 - 52
  let (n, d) := scaled num den guess
  max minExponent (if n < d <<< 52 then guess - 1 else guess)

def ofRatio (negative : Bool) (num den : Nat) : Binary64 :=
  if num = 0 then .finite negative 0 minExponent else
  let exponent := exponentOf num den
  let (n, d) := scaled num den exponent
  let significand := roundHalfEven n d
  let (significand, exponent) :=
    if significand = 1 <<< 53 then (1 <<< 52, exponent + 1) else (significand, exponent)
  if exponent > maxExponent then .infinite negative else .finite negative significand exponent

def magnitude (significand : Nat) (exponent : Int) : Nat × Nat :=
  if exponent ≤ 0 then (significand, 1 <<< (-exponent).toNat)
  else (significand <<< exponent.toNat, 1)

def add : Binary64 → Binary64 → Binary64
  | .finite _ a p, .finite _ b q =>
    let (n, d) := magnitude a p
    let (m, e) := magnitude b q
    ofRatio false (n * e + m * d) (d * e)
  | _, _ => .infinite false

end Binary64

structure Scientific where
  digits : Nat
  exponent : Int
  deriving DecidableEq, Repr

namespace Shortest

def compareWith (num den a : Nat) (e : Int) : Ordering :=
  if e ≤ 0 then compare (a * den) (num * Nat.pow 10 (-e).toNat)
  else compare (a * Nat.pow 10 e.toNat * den) num

/-- `a * 10 ^ e` reads back as the number: it is no further from it than half the way
to the next number, and exactly half the way only if the significand is even. The
number below a power of two is half as far away. -/
def readsBack (significand : Nat) (exponent : Int) (a : Nat) (e : Int) : Bool :=
  let below := if significand = 1 <<< 52 ∧ exponent > Binary64.minExponent then 1 else 2
  let (lo, d) := Binary64.magnitude (4 * significand - below) (exponent - 2)
  let (hi, d') := Binary64.magnitude (4 * significand + 2) (exponent - 2)
  let even := significand % 2 = 0
  (match compareWith lo d a e with | .gt => true | .eq => even | .lt => false) &&
  (match compareWith hi d' a e with | .lt => true | .eq => even | .gt => false)

def leading (num den : Nat) : Int :=
  let guess : Int := ((num.log2 : Int) - den.log2) * 30103 / 100000
  if compareWith num den 1 (guess + 1) ≠ .gt then guess + 1
  else if compareWith num den 1 guess ≠ .gt then guess
  else guess - 1

/-- The decimals with `count` digits on both sides of a number, those that read back,
the nearer one first. -/
def candidates (significand : Nat) (exponent : Int) (count : Nat) : List Scientific :=
  let (num, den) := Binary64.magnitude significand exponent
  let e := leading num den - (count - 1 : Int)
  let (n, d) :=
    if e ≤ 0 then (num * Nat.pow 10 (-e).toNat, den) else (num, den * Nat.pow 10 e.toNat)
  let low := n / d
  let nearer := roundHalfEven n d
  let further := if nearer = low then low + 1 else low
  [nearer, further].filterMap fun a =>
    if readsBack significand exponent a e then some ⟨a, e⟩ else none

/-- Seventeen digits always read back. -/
def scientific (significand : Nat) (exponent : Int) : Scientific :=
  (((List.range 17).map (· + 1)).findSome? fun count =>
    (candidates significand exponent count).head?).getD ⟨significand, 0⟩

end Shortest

/-- How a decimal is laid out. A number whose first digit has its exponent between
`positionalFrom` and `positionalTo` is written out in full with a fraction, any other
with its first digit, the rest as a fraction and an exponent. -/
structure Layout where
  positionalFrom : Int
  positionalTo : Int
  plus : Bool
  infinity : String

namespace Layout

def stripped (n : Nat) : List Char :=
  let cs := (Nat.toDigits 10 n).reverse.dropWhile (· == '0')
  if cs.isEmpty then ['0'] else cs.reverse

def exponentText (layout : Layout) (e : Int) : List Char :=
  let sign := if e < 0 then ['-'] else if layout.plus then ['+'] else []
  sign ++ Nat.toDigits 10 e.natAbs

def positional (cs : List Char) (first : Int) : List Char :=
  if first < 0 then ['0', '.'] ++ List.replicate (-first - 1).toNat '0' ++ cs
  else
    let whole := first.toNat + 1
    let padded := cs ++ List.replicate (whole - cs.length) '0'
    let fraction := padded.drop whole
    padded.take whole ++ ['.'] ++ (if fraction.isEmpty then ['0'] else fraction)

def exponential (layout : Layout) (cs : List Char) (first : Int) : List Char :=
  let fraction := cs.drop 1
  cs.take 1 ++ (if fraction.isEmpty then [] else '.' :: fraction) ++ ['e']
    ++ layout.exponentText first

def render (layout : Layout) : Binary64 → String
  | .infinite negative => (if negative then "-" else "") ++ layout.infinity
  | .finite negative significand exponent =>
    let sign := if negative then ['-'] else []
    if significand = 0 then String.ofList (sign ++ ['0', '.', '0']) else
    let shortest := Shortest.scientific significand exponent
    let first := shortest.exponent + ((Nat.toDigits 10 shortest.digits).length - 1 : Int)
    let cs := stripped shortest.digits
    let body :=
      if layout.positionalFrom ≤ first ∧ first ≤ layout.positionalTo then positional cs first
      else exponential layout cs first
    String.ofList (sign ++ body)

end Layout

/-- A finite number with a fixed count of decimal places, rounded from its exact value,
a half going to the even neighbour. -/
def fixed (places : Nat) : Binary64 → String
  | .infinite negative => if negative then "-inf" else "inf"
  | .finite negative significand exponent =>
    let (num, den) := Binary64.magnitude significand exponent
    let n := roundHalfEven (num * Nat.pow 10 places) den
    let cs := Nat.toDigits 10 n
    let padded := List.replicate (places + 1 - cs.length) '0' ++ cs
    let whole := padded.length - places
    let fraction := if places = 0 then [] else '.' :: padded.drop whole
    String.ofList ((if negative then ['-'] else []) ++ padded.take whole ++ fraction)

namespace Binary64

/-- The nearest number to `digits * 10 ^ exponent`. What lies outside the range of
exponents is settled by the place of the first digit. -/
def ofDecimal (negative : Bool) (digits : Nat) (exponent : Int) : Binary64 :=
  let place := exponent + (Nat.toDigits 10 digits).length
  if digits = 0 ∨ place < -400 then .finite negative 0 minExponent
  else if 400 < place then .infinite negative
  else if 0 ≤ exponent then ofRatio negative (digits * Nat.pow 10 exponent.toNat) 1
  else ofRatio negative digits (Nat.pow 10 (-exponent).toNat)

def exponent? : List Char → Option Int
  | [] => some 0
  | c :: cs => if c = 'e' ∨ c = 'E' then Text.integer? cs else none

def unsigned? (negative : Bool) (cs : List Char) : Option Binary64 :=
  let (whole, rest) := Text.run Char.isDigit cs
  let (fraction, rest) := match rest with
    | '.' :: rest => Text.run Char.isDigit rest
    | rest => ([], rest)
  if whole.isEmpty && fraction.isEmpty then none
  else
    (exponent? rest).map fun e =>
      ofDecimal negative (Text.positional (whole ++ fraction)) (e - fraction.length)

def ofText? (text : String) : Option Binary64 :=
  let (negative, cs) := match text.toList with
    | '-' :: cs => (true, cs)
    | '+' :: cs => (false, cs)
    | cs => (false, cs)
  let word := String.ofList (cs.map Char.toLower)
  if word = "inf" ∨ word = "infinity" then some (.infinite negative)
  else unsigned? negative cs

end Binary64
end KeyRotation.Decimal
