import Mathlib
import KeyRotation.Calendar

/-! The calendar behind dates. Years and months follow each other without a gap, so the days are
numbered in the order of their dates, and stepping back by whole days is a subtraction of seconds.
In the years with four digits the texts of moments are ordered as the moments are, and whatever is
before year 0 comes before all of them. -/
namespace KeyRotation.Calendar

theorem daysInMonth_le (leap : Bool) (month : Nat) : daysInMonth leap month ≤ 31 := by
  unfold daysInMonth
  split
  case h_2 => split <;> decide
  all_goals decide

theorem daysBeforeMonth_succ (leap : Bool) (month : Nat) :
    daysBeforeMonth leap (month + 1) = daysBeforeMonth leap month + daysInMonth leap month := by
  cases month <;> rfl

theorem daysBeforeMonth_le (leap : Bool) {month later : Nat} (order : month ≤ later) :
    daysBeforeMonth leap month ≤ daysBeforeMonth leap later := by
  induction order with
  | refl => exact Nat.le_refl _
  | step order ih =>
    rw [daysBeforeMonth_succ]
    exact Nat.le_add_right_of_le ih

theorem daysBeforeYear_succ (year : Int) :
    daysBeforeYear (year + 1) = daysBeforeYear year + daysBeforeMonth (isLeap year) 13 := by
  have common : daysBeforeMonth false 13 = 365 := rfl
  have longer : daysBeforeMonth true 13 = 366 := rfl
  unfold daysBeforeYear
  cases leap : isLeap year with
  | false =>
    simp only [isLeap, Bool.and_eq_false_iff, Bool.or_eq_false_iff, beq_eq_false_iff_ne,
      bne_eq_false_iff_eq] at leap
    omega
  | true =>
    simp only [isLeap, Bool.and_eq_true, Bool.or_eq_true, beq_iff_eq, bne_iff_ne] at leap
    omega

theorem daysBeforeYear_le {year later : Int} (order : year ≤ later) :
    daysBeforeYear year ≤ daysBeforeYear later := by
  unfold daysBeforeYear
  omega

namespace Date

theorem yearOf_spec (n : Int) :
    daysBeforeYear (yearOf n) ≤ n ∧ n < daysBeforeYear (yearOf n + 1) := by
  have low : daysBeforeYear (n * 400 / 146097 - 1) ≤ n := by
    unfold daysBeforeYear
    omega
  have high : n < daysBeforeYear (n * 400 / 146097 + 1 + 1) := by
    unfold daysBeforeYear
    omega
  unfold yearOf
  simp only
  split
  next early => exact ⟨low, by rwa [Int.sub_add_cancel]⟩
  split
  next late => exact ⟨late, high⟩
  next notEarly notLate => exact ⟨Int.not_lt.1 notEarly, Int.not_le.1 notLate⟩

theorem monthOf_spec (leap : Bool) (dayOfYear : Nat) :
    ∀ {month : Nat}, dayOfYear < daysBeforeMonth leap (month + 1) →
      let found := monthOf leap dayOfYear month
      1 ≤ found ∧ found ≤ month ∧ daysBeforeMonth leap found ≤ dayOfYear ∧
        dayOfYear < daysBeforeMonth leap (found + 1)
  | 0, early => absurd early (Nat.not_lt_zero _)
  | month + 1, early => by
    unfold monthOf
    split
    next begun => exact ⟨Nat.succ_pos _, Nat.le_refl _, begun, early⟩
    next ahead =>
      obtain ⟨first, last, begun, ends⟩ := monthOf_spec leap dayOfYear (Nat.not_le.1 ahead)
      exact ⟨first, Nat.le_succ_of_le last, begun, ends⟩

/-- Every number is that of a day of the calendar. -/
theorem valid_ofDayNumber (n : Int) : (ofDayNumber n).Valid ∧ (ofDayNumber n).dayNumber = n := by
  obtain ⟨begun, ends⟩ := yearOf_spec n
  rw [daysBeforeYear_succ] at ends
  have early : (n - daysBeforeYear (yearOf n)).toNat < daysBeforeMonth (isLeap (yearOf n)) 13 := by
    omega
  obtain ⟨first, last, since, til⟩ := monthOf_spec _ _ early
  rw [daysBeforeMonth_succ] at til
  simp only [Valid, dayNumber, ofDayNumber]
  omega

section Order

variable {a b : Date}

theorem dayNumber_bounds (valid : a.Valid) :
    daysBeforeYear a.year ≤ a.dayNumber ∧ a.dayNumber < daysBeforeYear (a.year + 1) := by
  obtain ⟨first, last, start, inside⟩ := valid
  have whole : daysBeforeMonth (isLeap a.year) (a.month + 1) ≤
      daysBeforeMonth (isLeap a.year) 13 := daysBeforeMonth_le _ (Nat.succ_le_succ last)
  rw [daysBeforeMonth_succ] at whole
  rw [daysBeforeYear_succ, dayNumber]
  omega

/-- Days are numbered in the order of their dates. -/
theorem dayNumber_lt (validA : a.Valid) (validB : b.Valid)
    (before : a.year < b.year ∨ a.year = b.year ∧
      (a.month < b.month ∨ a.month = b.month ∧ a.day < b.day)) : a.dayNumber < b.dayNumber := by
  rcases before with earlier | ⟨year, earlier | ⟨month, earlier⟩⟩
  · have within := (dayNumber_bounds validA).2
    have after := (dayNumber_bounds validB).1
    have years := daysBeforeYear_le (Int.add_one_le_of_lt earlier)
    omega
  · have within := validA.2.2.2
    have months := daysBeforeMonth_le (isLeap a.year) earlier
    rw [daysBeforeMonth_succ] at months
    have start := validB.2.2.1
    simp only [dayNumber, ← year]
    omega
  · simp only [dayNumber, ← year, ← month]
    omega

end Order
end Date

namespace DateTime

/-- A moment with its parts in their places; a second does not go on past its end. -/
structure Regular (t : DateTime) : Prop where
  date : t.date.Valid
  hour : t.hour < 24
  minute : t.minute < 60
  second : t.second < 60
  nano : t.nano < nanosPerSecond

instance (t : DateTime) : Decidable t.Regular :=
  decidable_of_iff
    (t.date.Valid ∧ t.hour < 24 ∧ t.minute < 60 ∧ t.second < 60 ∧ t.nano < nanosPerSecond)
    ⟨fun ⟨date, hour, minute, second, nano⟩ => ⟨date, hour, minute, second, nano⟩,
      fun ⟨date, hour, minute, second, nano⟩ => ⟨date, hour, minute, second, nano⟩⟩

theorem Regular.isLeapSecond_eq {t : DateTime} (regular : t.Regular) : t.isLeapSecond = false := by
  simpa [isLeapSecond] using regular.nano

theorem regular_ofSeconds (n : Int) {nano : Nat} (plain : nano < nanosPerSecond) :
    (ofSeconds n nano).Regular where
  date := (Date.valid_ofDayNumber _).1
  hour := by
    have inside : n % secondsPerDay < 86400 := Int.emod_lt_of_pos n (by decide)
    simp only [ofSeconds]
    omega
  minute := Nat.mod_lt _ (by decide)
  second := Nat.mod_lt _ (by decide)
  nano := plain

theorem seconds_ofSeconds (n : Int) (nano : Nat) : (ofSeconds n nano).seconds = n := by
  have whole : (Date.ofDayNumber (n / 86400)).dayNumber = n / 86400 :=
    (Date.valid_ofDayNumber _).2
  simp only [ofSeconds, seconds, secondsPerDay]
  omega

/-- Whoever steps back from a second that is none of the added ones arrives at the same time of an
earlier day. -/
theorem seconds_of_daysEarlier? {t first : DateTime} {days : Nat} (regular : t.Regular)
    (found : t.daysEarlier? days = some first) :
    first.Regular ∧ first.seconds = t.seconds - days * secondsPerDay := by
  unfold daysEarlier? at found
  split at found
  next still =>
    obtain rfl := Option.some.inj found
    exact ⟨regular, by simp [still]⟩
  · simp only [regular.isLeapSecond_eq, Bool.false_eq_true, if_false] at found
    split at found
    · cases found
    · obtain rfl := Option.some.inj found
      exact ⟨regular_ofSeconds _ regular.nano, seconds_ofSeconds _ _⟩

def earliest : DateTime := ⟨⟨minYear, 1, 1⟩, 0, 0, 0, 0⟩

theorem seconds_earliest : earliest.seconds = daysBeforeYear minYear * secondsPerDay := by decide

/-- The second that steps by whole days start from. -/
def departure (t : DateTime) : Int := if t.isLeapSecond then t.seconds + 1 else t.seconds

theorem Regular.departure_eq {t : DateTime} (regular : t.Regular) : t.departure = t.seconds := by
  simp [departure, regular.isLeapSecond_eq]

theorem seconds_le_departure (t : DateTime) : t.seconds ≤ t.departure := by
  unfold departure
  split <;> omega

theorem earliest_le_seconds {t : DateTime} (date : t.date.Valid) (kept : minYear ≤ t.date.year) :
    earliest.seconds ≤ t.seconds := by
  have begins := (Date.dayNumber_bounds date).1
  have years := daysBeforeYear_le kept
  rw [seconds_earliest]
  simp only [seconds, secondsPerDay]
  omega

theorem year_ofSeconds_lt_iff (n : Int) (nano : Nat) :
    (ofSeconds n nano).date.year < minYear ↔ n < earliest.seconds := by
  obtain ⟨valid, number⟩ := Date.valid_ofDayNumber (n / secondsPerDay)
  obtain ⟨begun, ends⟩ := Date.dayNumber_bounds valid
  rw [number] at begun ends
  rw [seconds_earliest, ← Int.ediv_lt_iff_lt_mul (by decide)]
  change (Date.ofDayNumber (n / secondsPerDay)).year < minYear ↔ _
  constructor
  · intro early
    exact Int.lt_of_lt_of_le ends (daysBeforeYear_le early)
  · intro before
    refine Int.not_le.1 fun late => ?_
    have years := daysBeforeYear_le late
    omega

/-- There is no moment some days earlier where it would be before the first. -/
theorem daysEarlier?_eq_none_iff {t : DateTime} (date : t.date.Valid)
    (kept : minYear ≤ t.date.year) (days : Nat) :
    t.daysEarlier? days = none ↔ t.departure - days * secondsPerDay < earliest.seconds := by
  unfold daysEarlier?
  split
  next still =>
    have early := earliest_le_seconds date kept
    have := seconds_le_departure t
    simp only [still, secondsPerDay, reduceCtorEq, false_iff]
    omega
  · cases leap : t.isLeapSecond <;>
      simp only [departure, leap, if_true, Bool.false_eq_true, if_false, ite_eq_left_iff,
        reduceCtorEq, imp_false, Decidable.not_not, year_ofSeconds_lt_iff]

theorem seconds_lt_of_year_lt {a b : DateTime} (regularA : a.Regular) (regularB : b.Regular)
    (earlier : a.date.year < b.date.year) : a.seconds < b.seconds := by
  have before := (Date.dayNumber_bounds regularA.date).2
  have after := (Date.dayNumber_bounds regularB.date).1
  have years := daysBeforeYear_le (Int.add_one_le_of_lt earlier)
  obtain ⟨-, hour, minute, second, -⟩ := regularA
  simp only [seconds, secondsPerDay]
  omega

def parts (t : DateTime) : List Nat :=
  [t.date.year.toNat, t.date.month, t.date.day, t.hour, t.minute, t.second]

theorem seconds_lt_of_parts_lt {a b : DateTime} (regularA : a.Regular) (regularB : b.Regular)
    (eraA : 0 ≤ a.date.year) (eraB : 0 ≤ b.date.year) (before : a.parts < b.parts) :
    a.seconds < b.seconds := by
  simp only [parts, List.cons_lt_cons_iff, List.not_lt_nil, and_false, or_false] at before
  obtain ⟨dateA, hourA, minuteA, secondA, -⟩ := regularA
  have days := Date.dayNumber_lt dateA regularB.date
  have same : a.date.year = b.date.year → a.date.month = b.date.month → a.date.day = b.date.day →
      a.date.dayNumber = b.date.dayNumber := by
    intro year month day
    simp only [Date.dayNumber, year, month, day]
  simp only [seconds, secondsPerDay]
  omega

/-- Seconds are counted in the order of the parts. -/
theorem parts_lt_iff {a b : DateTime} (regularA : a.Regular) (regularB : b.Regular)
    (eraA : 0 ≤ a.date.year) (eraB : 0 ≤ b.date.year) :
    a.parts < b.parts ↔ a.seconds < b.seconds := by
  refine ⟨seconds_lt_of_parts_lt regularA regularB eraA eraB, fun before => ?_⟩
  rcases Std.lt_trichotomy a.parts b.parts with earlier | same | later
  · exact earlier
  · simp only [parts, List.cons.injEq] at same
    obtain ⟨year, month, day, hour, minute, second, -⟩ := same
    replace year : a.date.year = b.date.year := by omega
    have still : a.seconds = b.seconds := by
      simp only [seconds, Date.dayNumber, year, month, day, hour, minute, second]
    omega
  · have := seconds_lt_of_parts_lt regularB regularA eraB eraA later
    omega

end DateTime

def digits : Nat → Nat → List Char
  | 0, _ => []
  | width + 1, n => digits width (n / 10) ++ [(n % 10).digitChar]

theorem digitChar_lt_iff {m n : Nat} (small : m < 10) (few : n < 10) :
    m.digitChar < n.digitChar ↔ m < n := by
  rw [Char.lt_def, UInt32.lt_iff_toNat_lt]
  change m.digitChar.toNat < n.digitChar.toNat ↔ m < n
  rw [Nat.toNat_digitChar_of_lt_ten small, Nat.toNat_digitChar_of_lt_ten few]
  omega

theorem digitChar_eq_iff {m n : Nat} (small : m < 10) (few : n < 10) :
    m.digitChar = n.digitChar ↔ m = n := by
  refine ⟨fun same => ?_, congrArg _⟩
  have codes := congrArg Char.toNat same
  rw [Nat.toNat_digitChar_of_lt_ten small, Nat.toNat_digitChar_of_lt_ten few] at codes
  omega

theorem toList_padded {width n : Nat} (fits : n < 10 ^ (width + 1)) :
    (DateTime.padded (width + 1) n).toList = digits (width + 1) n := by
  induction width generalizing n with
  | zero =>
    have small : n < 10 := by omega
    simp [DateTime.padded, digits, Nat.toDigits_of_lt_base small, Nat.mod_eq_of_lt small]
  | succ width ih =>
    have shorter : n / 10 < 10 ^ (width + 1) := by omega
    rw [digits, ← ih shorter]
    simp only [DateTime.padded, String.toList_ofList]
    by_cases small : n < 10
    · rw [Nat.toDigits_of_lt_base small, Nat.div_eq_of_lt small, Nat.mod_eq_of_lt small,
        Nat.toDigits_zero]
      simp [List.replicate_succ']
    · rw [Nat.toDigits_of_base_le (by decide) (Nat.not_lt.1 small)]
      simp

theorem digits_append_lt {width a b : Nat} (fitsA : a < 10 ^ width) (fitsB : b < 10 ^ width)
    {x y : List Char} : digits width a ++ x < digits width b ++ y ↔ a < b ∨ a = b ∧ x < y := by
  induction width generalizing a b x y with
  | zero =>
    obtain rfl : a = 0 := by omega
    obtain rfl : b = 0 := by omega
    simp [digits]
  | succ width ih =>
    have lastA := Nat.mod_lt a (show 0 < 10 by decide)
    have lastB := Nat.mod_lt b (show 0 < 10 by decide)
    simp only [digits, List.append_assoc, List.singleton_append]
    rw [ih (by omega) (by omega), List.cons_lt_cons_iff, digitChar_lt_iff lastA lastB,
      digitChar_eq_iff lastA lastB]
    by_cases less : x < y <;> simp only [less, and_true, and_false, or_false] <;> omega

theorem sign_lt_digits (n : Nat) (x y : List Char) : '-' :: x < digits 4 n ++ y := by
  have first : digits 4 n ++ y = (n / 10 / 10 / 10 % 10).digitChar ::
      (digits 4 n ++ y).tail := by simp [digits]
  rw [first, List.cons_lt_cons_iff]
  left
  rw [Char.lt_def, UInt32.lt_iff_toNat_lt]
  change '-'.toNat < (n / 10 / 10 / 10 % 10).digitChar.toNat
  rw [Nat.toNat_digitChar_of_lt_ten (Nat.mod_lt _ (by decide))]
  exact Nat.lt_of_lt_of_le (by decide) (Nat.le_add_right 48 _)

namespace DateTime

/-- A moment of a year with four digits, outside of the leap seconds. -/
structure Dated (t : DateTime) : Prop where
  regular : t.Regular
  era : 0 ≤ t.date.year
  recent : t.date.year ≤ 9999

instance (t : DateTime) : Decidable t.Dated :=
  decidable_of_iff (t.Regular ∧ 0 ≤ t.date.year ∧ t.date.year ≤ 9999)
    ⟨fun ⟨regular, era, recent⟩ => ⟨regular, era, recent⟩,
      fun ⟨regular, era, recent⟩ => ⟨regular, era, recent⟩⟩

theorem Dated.fits {t : DateTime} (dated : t.Dated) :
    t.date.year.toNat < 10 ^ 4 ∧ t.date.month < 10 ^ 2 ∧ t.date.day < 10 ^ 2 ∧
      t.hour < 10 ^ 2 ∧ t.minute < 10 ^ 2 ∧ t.second < 10 ^ 2 := by
  obtain ⟨⟨⟨-, month, -, day⟩, hour, minute, second, -⟩, era, recent⟩ := dated
  have longest := daysInMonth_le (isLeap t.date.year) t.date.month
  omega

theorem toList_text {t : DateTime} (dated : t.Dated) :
    t.text.toList = digits 4 t.date.year.toNat ++ '-' :: (digits 2 t.date.month ++ '-' ::
      (digits 2 t.date.day ++ ' ' :: (digits 2 t.hour ++ ':' :: (digits 2 t.minute ++ ':' ::
        (digits 2 t.second ++ []))))) := by
  have year : t.date.year.natAbs = t.date.year.toNat := by
    have := dated.era
    omega
  have whole : t.nano / nanosPerSecond = 0 := Nat.div_eq_of_lt dated.regular.nano
  have ⟨_, _, _, _, _, _⟩ := dated.fits
  simp only [text, yearText, Int.not_lt.2 dated.era, Int.not_lt.2 dated.recent, if_false, year,
    whole, Nat.add_zero, String.toList_append]
  rw [toList_padded, toList_padded, toList_padded, toList_padded, toList_padded, toList_padded]
  · simp
  all_goals assumption

/-- Texts are ordered as the moments they tell. -/
theorem text_lt_text_iff {a b : DateTime} (datedA : a.Dated) (datedB : b.Dated) :
    a.text < b.text ↔ a.seconds < b.seconds := by
  obtain ⟨yearA, monthA, dayA, hourA, minuteA, secondA⟩ := datedA.fits
  obtain ⟨yearB, monthB, dayB, hourB, minuteB, secondB⟩ := datedB.fits
  rw [← parts_lt_iff datedA.regular datedB.regular datedA.era datedB.era,
    String.lt_iff_toList_lt, toList_text datedA, toList_text datedB]
  simp only [digits_append_lt yearA yearB, digits_append_lt monthA monthB,
    digits_append_lt dayA dayB, digits_append_lt hourA hourB, digits_append_lt minuteA minuteB,
    digits_append_lt secondA secondB, List.cons_lt_cons_iff, lt_self_iff_false, false_or,
    true_and, parts]

/-- The text of a moment before year 0 comes before those of all moments after it. -/
theorem text_lt_text_of_year_neg {a b : DateTime} (early : a.date.year < 0) (dated : b.Dated) :
    a.text < b.text := by
  rw [String.lt_iff_toList_lt, toList_text dated]
  simp only [text, yearText, early, if_true, String.toList_append, List.append_assoc]
  exact sign_lt_digits _ _ _

/-- A window of texts that begins some days before now is one of seconds, even where it begins
before year 0. -/
theorem not_text_lt_of_daysEarlier? {now first t : DateTime} {days : Nat} (datedNow : now.Dated)
    (found : now.daysEarlier? days = some first) (dated : t.Dated) :
    ¬t.text < first.text ↔ now.seconds - days * secondsPerDay ≤ t.seconds := by
  obtain ⟨regular, seconds⟩ := seconds_of_daysEarlier? datedNow.regular found
  rw [← seconds]
  rcases Int.lt_or_le first.date.year 0 with early | era
  · have sooner := seconds_lt_of_year_lt regular dated.regular (Int.lt_of_lt_of_le early dated.era)
    exact iff_of_true (lt_asymm (text_lt_text_of_year_neg early dated)) (Int.le_of_lt sooner)
  · have recent : first.date.year ≤ 9999 := by
      by_contra late
      have after := seconds_lt_of_year_lt datedNow.regular regular
        (Int.lt_of_le_of_lt datedNow.recent (Int.not_le.1 late))
      simp only [secondsPerDay] at seconds
      omega
    rw [text_lt_text_iff dated ⟨regular, era, recent⟩, Int.not_lt]

end DateTime
end KeyRotation.Calendar
