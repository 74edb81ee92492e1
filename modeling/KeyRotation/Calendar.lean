/-! Dates and times of the proleptic Gregorian calendar, whose year 0 exists, and their
texts. Days are numbered from the first of January of year 0. -/
namespace KeyRotation.Calendar

def isLeap (year : Int) : Bool := year % 4 == 0 && (year % 100 != 0 || year % 400 == 0)

/-- The days in front of a year; every fourth year has one more, except three in four
hundred. -/
def daysBeforeYear (year : Int) : Int :=
  365 * year + (year + 3) / 4 - (year + 99) / 100 + (year + 399) / 400

def daysInMonth (leap : Bool) : Nat → Nat
  | 1 => 31
  | 2 => if leap then 29 else 28
  | 3 => 31
  | 4 => 30
  | 5 => 31
  | 6 => 30
  | 7 => 31
  | 8 => 31
  | 9 => 30
  | 10 => 31
  | 11 => 30
  | 12 => 31
  | _ => 0

def daysBeforeMonth (leap : Bool) : Nat → Nat
  | 0 => 0
  | 1 => 0
  | month + 1 => daysBeforeMonth leap month + daysInMonth leap month

structure Date where
  year : Int
  month : Nat
  day : Nat
  deriving DecidableEq, Repr

namespace Date

def Valid (date : Date) : Prop :=
  1 ≤ date.month ∧ date.month ≤ 12 ∧
    1 ≤ date.day ∧ date.day ≤ daysInMonth (isLeap date.year) date.month

instance (date : Date) : Decidable date.Valid :=
  inferInstanceAs (Decidable (_ ∧ _))

def dayNumber (date : Date) : Int :=
  daysBeforeYear date.year + daysBeforeMonth (isLeap date.year) date.month + date.day - 1

def yearOf (n : Int) : Int :=
  let guess := n * 400 / 146097
  if n < daysBeforeYear guess then guess - 1
  else if daysBeforeYear (guess + 1) ≤ n then guess + 1
  else guess

/-- The month that a day of the year belongs to, the days counted from zero: the last
whose first day is not later. -/
def monthOf (leap : Bool) (dayOfYear : Nat) : Nat → Nat
  | 0 => 1
  | month + 1 =>
    if daysBeforeMonth leap (month + 1) ≤ dayOfYear then month + 1
    else monthOf leap dayOfYear month

def ofDayNumber (n : Int) : Date :=
  let year := yearOf n
  let dayOfYear := (n - daysBeforeYear year).toNat
  let month := monthOf (isLeap year) dayOfYear 12
  ⟨year, month, dayOfYear - daysBeforeMonth (isLeap year) month + 1⟩

end Date

/-- A moment without a time zone. Nanoseconds go on past a second's worth within a leap
second, which is the last second of a minute twice over. -/
structure DateTime where
  date : Date
  hour : Nat
  minute : Nat
  second : Nat
  nano : Nat
  deriving DecidableEq, Repr

namespace DateTime

def nanosPerSecond : Nat := 1000000000

def secondsPerDay : Int := 86400

/-- The years that dates are kept for. -/
def minYear : Int := -262143

def maxYear : Int := 262142

def isLeapSecond (t : DateTime) : Bool := nanosPerSecond ≤ t.nano

def Valid (t : DateTime) : Prop :=
  t.date.Valid ∧ minYear ≤ t.date.year ∧ t.date.year ≤ maxYear ∧
    t.hour < 24 ∧ t.minute < 60 ∧ t.second < 60 ∧
    (t.nano < nanosPerSecond ∨ t.second = 59 ∧ t.nano < 2 * nanosPerSecond)

instance (t : DateTime) : Decidable t.Valid :=
  inferInstanceAs (Decidable (_ ∧ _))

def of? (year : Int) (month day hour minute second nano : Nat) : Option DateTime :=
  let t : DateTime := ⟨⟨year, month, day⟩, hour, minute, second, nano⟩
  if t.Valid then some t else none

/-- Whole seconds from the start of year 0; a leap second has the number of the second
it repeats. -/
def seconds (t : DateTime) : Int :=
  t.date.dayNumber * secondsPerDay + (t.hour * 3600 + t.minute * 60 + t.second : Nat)

def ofSeconds (n : Int) (nano : Nat) : DateTime :=
  let rest := (n % secondsPerDay).toNat
  ⟨Date.ofDayNumber (n / secondsPerDay), rest / 3600, rest / 60 % 60, rest % 60, nano⟩

/-- The moment a number of days earlier, unless it is before the first year. Whoever
steps out of a leap second steps from the second after it. -/
def daysEarlier? (t : DateTime) (days : Nat) : Option DateTime :=
  if days = 0 then some t
  else
    let (start, nano) :=
      if t.isLeapSecond then (t.seconds + 1, t.nano - nanosPerSecond) else (t.seconds, t.nano)
    let earlier := ofSeconds (start - days * secondsPerDay) nano
    if earlier.date.year < minYear then none else some earlier

def padded (width n : Nat) : String :=
  let cs := Nat.toDigits 10 n
  String.ofList (List.replicate (width - cs.length) '0' ++ cs)

/-- A year has four digits; one outside of them has a sign. -/
def yearText (year : Int) : String :=
  if year < 0 then "-" ++ padded 4 year.natAbs
  else if year > 9999 then "+" ++ padded 4 year.natAbs
  else padded 4 year.natAbs

def text (t : DateTime) : String :=
  yearText t.date.year ++ "-" ++ padded 2 t.date.month ++ "-" ++ padded 2 t.date.day ++ " "
    ++ padded 2 t.hour ++ ":" ++ padded 2 t.minute ++ ":"
    ++ padded 2 (t.second + t.nano / nanosPerSecond)

end DateTime
end KeyRotation.Calendar
