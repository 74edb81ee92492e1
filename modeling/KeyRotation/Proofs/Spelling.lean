import KeyRotation.Text.Basic

/-! Words as decimal text. Whatever is printed of a word is one numeral without blanks around it,
and reads as the word again. A text that is trimmed and read as a numeral gives a word exactly
where it spells that word: digits behind an optional sign, with white space around them. -/
namespace KeyRotation.Text

/-- Text that is not blank and has no white space around it. -/
structure Trimmed (text : String) : Prop where
  filled : text ≠ ""
  first : ∀ c ∈ text.toList.head?, isBlank c = false
  last : ∀ c ∈ text.toList.getLast?, isBlank c = false

theorem Trimmed.trim_eq {text : String} (trimmed : Trimmed text) : trim text = text := by
  have stays : ∀ {cs : List Char}, (∀ c ∈ cs.head?, isBlank c = false) →
      cs.dropWhile isBlank = cs := by
    intro cs first
    cases cs with
    | nil => rfl
    | cons c cs => simp [first c rfl]
  rw [trim, trimChars, stays trimmed.first, stays (by simpa using trimmed.last),
    List.reverse_reverse, String.ofList_toList]

theorem natural?_toDigits (n : Nat) : natural? (Nat.toDigits 10 n) = some n := by
  have digits : (Nat.toDigits 10 n).all Char.isDigit = true :=
    List.all_eq_true.2 fun c member => Nat.isDigit_of_mem_toDigits (by decide) (by decide) member
  have value : positional (Nat.toDigits 10 n) = n := by
    have value := @Nat.ofDigitChars_ten_toDigits n
    rwa [Nat.ofDigitChars_eq_foldl] at value
  simp [natural?, digits, value, Nat.toDigits_ne_nil]

theorem toList_toString_nat (n : Nat) : (toString n).toList = Nat.toDigits 10 n := by
  rw [Nat.toString_eq_ofList_toDigits, String.toList_ofList]

theorem toDigits_ne_sign {n : Nat} {sign : Char} {cs : List Char}
    (digits : Nat.toDigits 10 n = sign :: cs) : sign.isDigit = true :=
  Nat.isDigit_of_mem_toDigits (by decide) (by decide) (digits ▸ List.mem_cons_self)

theorem toList_toString_negSucc (n : Nat) :
    (toString (Int.negSucc n)).toList = '-' :: Nat.toDigits 10 (n + 1) := by
  change ("-" ++ toString (n + 1)).toList = _
  rw [String.toList_append, toList_toString_nat]
  rfl

theorem integer?_toString (n : Int) : integer? (toString n).toList = some n := by
  cases n with
  | ofNat n =>
    change integer? (toString n).toList = _
    rw [toList_toString_nat]
    unfold integer?
    split
    next digits => exact absurd (toDigits_ne_sign digits) (by decide)
    next digits => exact absurd (toDigits_ne_sign digits) (by decide)
    · rw [natural?_toDigits]
      rfl
  | negSucc n =>
    rw [toList_toString_negSucc]
    simp [integer?, natural?_toDigits, Int.negSucc_eq]

theorem isBlank_of_isDigit {c : Char} (digit : c.isDigit = true) : isBlank c = false := by
  obtain ⟨low, high⟩ := Char.isDigit_iff_toNat.1 digit
  change 48 ≤ c.toNat at low
  change c.toNat ≤ 57 at high
  simp only [isBlank, Bool.or_eq_false_iff, Bool.and_eq_false_iff, decide_eq_false_iff_not,
    beq_eq_false_iff_ne]
  omega

theorem sign_or_digit_of_mem {n : Int} {c : Char} (member : c ∈ (toString n).toList) :
    c = '-' ∨ c.isDigit = true := by
  cases n with
  | ofNat n =>
    change c ∈ (toString n).toList at member
    rw [toList_toString_nat] at member
    exact .inr (Nat.isDigit_of_mem_toDigits (by decide) (by decide) member)
  | negSucc n =>
    rw [toList_toString_negSucc] at member
    exact (List.mem_cons.1 member).imp id (Nat.isDigit_of_mem_toDigits (by decide) (by decide))

theorem trimmed_toString (n : Int) : Trimmed (toString n) := by
  have plain : ∀ c ∈ (toString n).toList, isBlank c = false := by
    intro c member
    rcases sign_or_digit_of_mem member with rfl | digit
    · decide
    · exact isBlank_of_isDigit digit
  refine ⟨fun blank => ?_, fun c first => plain c (List.mem_of_head? first),
    fun c last => plain c (List.mem_of_getLast? last)⟩
  have read := integer?_toString n
  rw [blank] at read
  cases read

theorem trimmed_toString_int64 (n : Int64) : Trimmed (toString n) := trimmed_toString n.toInt

theorem trimmed_toString_uint64 (n : UInt64) : Trimmed (toString n) := trimmed_toString n.toNat

theorem int64?_toString (n : Int64) : int64? (toString n) = some n := by
  change int64? (toString n.toInt) = _
  have inside : Int64.minValue.toInt ≤ n.toInt ∧ n.toInt ≤ Int64.maxValue.toInt :=
    ⟨n.minValue_le_toInt, Int64.le_iff_toInt_le.1 n.le_maxValue⟩
  rw [int64?, integer?_toString, Option.bind_some, if_pos inside, Int64.ofInt_toInt]

theorem uint64?_toString (n : UInt64) : uint64? (toString n) = some n := by
  change uint64? (toString n.toNat) = _
  unfold uint64?
  rw [toList_toString_nat]
  dsimp only
  split
  next digits => exact absurd (toDigits_ne_sign digits) (by decide)
  · rw [natural?_toDigits, Option.bind_some, if_pos n.toNat_lt_size, UInt64.ofNat_toNat]

/-- Characters that are white space, all of them. -/
def Blank (cs : List Char) : Prop := ∀ c ∈ cs, isBlank c = true

instance (cs : List Char) : Decidable (Blank cs) :=
  decidable_of_iff (cs.all isBlank = true) List.all_eq_true

/-- One digit or more, and the number they write. -/
structure Digits (cs : List Char) (n : Nat) : Prop where
  some : cs ≠ []
  all : ∀ c ∈ cs, c.isDigit = true
  value : n = Nat.ofDigitChars 10 cs 0

def withSign (sign : List Char) (n : Nat) : Int := if sign = ['-'] then -n else n

/-- A text that writes a number: digits behind one of some signs, white space around. -/
inductive Spells (signs : List (List Char)) : String → Int → Prop where
  | intro {text : String} {before sign digits after : List Char} {n : Nat}
      (split : text.toList = before ++ (sign ++ digits) ++ after) (leading : Blank before)
      (trailing : Blank after) (signed : sign ∈ signs) (digits : Digits digits n) :
      Spells signs text (withSign sign n)

def SpellsSigned (text : String) (word : Int64) : Prop :=
  Spells [[], ['+'], ['-']] text word.toInt

/-- An unsigned word, which has no minus sign, not even as zero. -/
def SpellsUnsigned (text : String) (word : UInt64) : Prop :=
  Spells [[], ['+']] text word.toNat

section Strip

variable {ok : Char → Bool} {before core after cs : List Char}

/-- What is left when the characters of a class are taken away at both ends. -/
def strip (ok : Char → Bool) (cs : List Char) : List Char :=
  ((cs.dropWhile ok).reverse.dropWhile ok).reverse

theorem dropWhile_append (leading : ∀ c ∈ before, ok c = true)
    (first : ∀ c ∈ core.head?, ok c = false) : (before ++ core).dropWhile ok = core := by
  rw [List.dropWhile_append_of_pos leading]
  cases core with
  | nil => rfl
  | cons c cs => simp [first c rfl]

/-- A text begins with characters of a class, and goes on with one that is not of it. -/
theorem exists_run (ok : Char → Bool) (cs : List Char) :
    ∃ read rest, cs = read ++ rest ∧ (∀ c ∈ read, ok c = true) ∧
      ∀ c ∈ rest.head?, ok c = false := by
  refine ⟨cs.takeWhile ok, cs.dropWhile ok, List.takeWhile_append_dropWhile.symm,
    List.all_eq_true.1 List.all_takeWhile, fun c head => ?_⟩
  have stops := List.head?_dropWhile_not ok cs
  rwa [Option.mem_def.1 head] at stops

/-- Stripping takes away what is of the class around. -/
theorem strip_append (leading : ∀ c ∈ before, ok c = true) (trailing : ∀ c ∈ after, ok c = true)
    (first : ∀ c ∈ core.head?, ok c = false) (last : ∀ c ∈ core.getLast?, ok c = false)
    (filled : core ≠ []) : strip ok (before ++ core ++ after) = core := by
  have start : ∀ c ∈ (core ++ after).head?, ok c = false := by
    cases core with
    | nil => exact absurd rfl filled
    | cons c cs => exact first
  have back : ∀ c ∈ after.reverse, ok c = true :=
    fun c member => trailing c (List.mem_reverse.1 member)
  rw [strip, List.append_assoc, dropWhile_append leading start, List.reverse_append,
    dropWhile_append back (by simpa using last), List.reverse_reverse]

theorem exists_dropWhile_eq (ok : Char → Bool) (cs : List Char) :
    ∃ after, cs.dropWhile ok = strip ok cs ++ after ∧ ∀ c ∈ after, ok c = true := by
  let rest := cs.dropWhile ok
  refine ⟨(rest.reverse.takeWhile ok).reverse, ?_, fun c member =>
    List.all_eq_true.1 (List.all_takeWhile (l := rest.reverse)) c (List.mem_reverse.1 member)⟩
  rw [strip, ← List.reverse_append, List.takeWhile_append_dropWhile, List.reverse_reverse]

theorem exists_strip (ok : Char → Bool) (cs : List Char) :
    ∃ before after, cs = before ++ strip ok cs ++ after ∧
      (∀ c ∈ before, ok c = true) ∧ ∀ c ∈ after, ok c = true := by
  obtain ⟨after, rest, trailing⟩ := exists_dropWhile_eq ok cs
  refine ⟨cs.takeWhile ok, after, ?_, List.all_eq_true.1 List.all_takeWhile, trailing⟩
  rw [List.append_assoc, ← rest, List.takeWhile_append_dropWhile]

theorem head?_strip (cs : List Char) : ∀ c ∈ (strip ok cs).head?, ok c = false := by
  intro c first
  obtain ⟨after, rest, -⟩ := exists_dropWhile_eq ok cs
  have stops := List.head?_dropWhile_not ok cs
  rw [rest, List.head?_append, Option.mem_def.1 first] at stops
  exact stops

theorem getLast?_strip (cs : List Char) : ∀ c ∈ (strip ok cs).getLast?, ok c = false := by
  intro c last
  rw [strip, List.getLast?_reverse] at last
  have stops := List.head?_dropWhile_not ok (cs.dropWhile ok).reverse
  rw [Option.mem_def.1 last] at stops
  exact stops

end Strip

section Trim

variable {before core after cs : List Char}

/-- Trimming takes away the white space around. -/
theorem trimChars_append (leading : Blank before) (trailing : Blank after)
    (first : ∀ c ∈ core.head?, isBlank c = false) (last : ∀ c ∈ core.getLast?, isBlank c = false)
    (filled : core ≠ []) : trimChars (before ++ core ++ after) = core :=
  strip_append leading trailing first last filled

theorem exists_trimChars (cs : List Char) :
    ∃ before after, cs = before ++ trimChars cs ++ after ∧ Blank before ∧ Blank after :=
  exists_strip isBlank cs

theorem isEmpty_trim_iff {text : String} : (trim text).isEmpty = true ↔ Blank text.toList := by
  rw [String.isEmpty_iff, ← String.toList_eq_nil_iff, trim, String.toList_ofList]
  constructor
  · intro nothing
    obtain ⟨before, after, split, leading, trailing⟩ := exists_trimChars text.toList
    rw [nothing, List.append_nil] at split
    rw [split]
    exact List.forall_mem_append.2 ⟨leading, trailing⟩
  · intro blank
    have none : text.toList.dropWhile isBlank = [] := by
      simpa using @dropWhile_append isBlank text.toList [] blank (by simp)
    simp [trimChars, none]

end Trim

section Numeral

variable {cs : List Char} {text : String}

theorem natural?_eq_some_iff {n : Nat} : natural? cs = some n ↔ Digits cs n := by
  have value : positional cs = Nat.ofDigitChars 10 cs 0 := (Nat.ofDigitChars_eq_foldl ..).symm
  unfold natural?
  rw [value]
  split
  next numeral =>
    simp only [Bool.and_eq_true, Bool.not_eq_true', List.all_eq_true] at numeral
    obtain ⟨filled, digits⟩ := numeral
    rw [Option.some.injEq, eq_comm]
    exact ⟨fun same => ⟨by simpa using filled, digits, same⟩, Digits.value⟩
  next other =>
    refine iff_of_false nofun fun digits => other ?_
    simp [digits.some, List.all_eq_true.2 digits.all]

theorem Digits.isDigit_head {first : Char} {n : Nat} (digits : Digits (first :: cs) n) :
    first.isDigit = true :=
  digits.all first List.mem_cons_self

/-- A signed numeral is digits behind an optional sign. -/
theorem integer?_eq_some_iff {n : Int} :
    integer? cs = some n ↔ ∃ sign digits, ∃ m : Nat, cs = sign ++ digits ∧
      sign ∈ [[], ['+'], ['-']] ∧ Digits digits m ∧ n = withSign sign m := by
  constructor
  · intro numeral
    unfold integer? at numeral
    split at numeral
    next cs =>
      cases read : natural? cs with
      | none => simp [read] at numeral
      | some m =>
        obtain rfl : -(m : Int) = n := by simpa [read] using numeral
        exact ⟨['-'], cs, m, rfl, by simp, natural?_eq_some_iff.1 read, rfl⟩
    next cs =>
      obtain ⟨m, digits, rfl⟩ := Option.map_eq_some_iff.1 numeral
      exact ⟨['+'], cs, m, rfl, by simp, natural?_eq_some_iff.1 digits, rfl⟩
    · obtain ⟨m, digits, rfl⟩ := Option.map_eq_some_iff.1 numeral
      exact ⟨[], cs, m, rfl, by simp, natural?_eq_some_iff.1 digits, rfl⟩
  · rintro ⟨sign, ds, m, rfl, signed, digits, rfl⟩
    have read := natural?_eq_some_iff.2 digits
    simp only [List.mem_cons, List.not_mem_nil, or_false] at signed
    rcases signed with rfl | rfl | rfl
    · unfold integer?
      split
      next rest whole =>
        obtain rfl : ds = '-' :: rest := whole
        exact absurd digits.isDigit_head (by decide)
      next rest whole =>
        obtain rfl : ds = '+' :: rest := whole
        exact absurd digits.isDigit_head (by decide)
      · simp [read, withSign]
    · simp [integer?, read, withSign]
    · simp [integer?, read, withSign]

theorem uint64?_eq_some_iff {word : UInt64} :
    uint64? text = some word ↔ ∃ sign digits, text.toList = sign ++ digits ∧
      sign ∈ [[], ['+']] ∧ Digits digits word.toNat := by
  have word_eq {n : Nat} : (if n < UInt64.size then some (UInt64.ofNat n) else none) = some word ↔
      n = word.toNat := by
    split
    next fits =>
      rw [Option.some.injEq, ← UInt64.toNat_inj, UInt64.toNat_ofNat_of_lt' fits]
    next large =>
      refine iff_of_false nofun fun same => large (same ▸ word.toNat_lt_size)
  unfold uint64?
  simp only [Option.bind_eq_some_iff, word_eq, exists_eq_right, natural?_eq_some_iff]
  constructor
  · intro digits
    split at digits
    next rest plus => exact ⟨['+'], rest, plus, by simp, digits⟩
    · exact ⟨[], _, rfl, by simp, digits⟩
  · rintro ⟨sign, digits, split, signed, written⟩
    simp only [List.mem_cons, List.not_mem_nil, or_false] at signed
    rw [split]
    rcases signed with rfl | rfl
    · rw [List.nil_append]
      split
      next rest => exact absurd written.isDigit_head (by decide)
      · exact written
    · exact written

/-- What a text spells is told by its numeral, which has no white space at either end. -/
theorem spells_iff {signs : List (List Char)} (known : signs ⊆ [[], ['+'], ['-']]) {n : Int} :
    Spells signs text n ↔ ∃ sign digits, ∃ m : Nat, (trim text).toList = sign ++ digits ∧
      sign ∈ signs ∧ Digits digits m ∧ n = withSign sign m := by
  rw [trim, String.toList_ofList]
  constructor
  · rintro @⟨before, sign, digits, after, m, split, leading, trailing, signed, written⟩
    have plain : ∀ c ∈ sign ++ digits, isBlank c = false := by
      refine List.forall_mem_append.2
        ⟨?_, fun c member => isBlank_of_isDigit (written.all c member)⟩
      have plus : isBlank '+' = false := by decide
      have minus : isBlank '-' = false := by decide
      have among := known signed
      simp only [List.mem_cons, List.not_mem_nil, or_false] at among
      rcases among with rfl | rfl | rfl <;> simp [plus, minus]
    refine ⟨sign, digits, m, ?_, signed, written, rfl⟩
    rw [split]
    exact trimChars_append leading trailing (fun c first => plain c (List.mem_of_head? first))
      (fun c last => plain c (List.mem_of_getLast? last)) (by simp [written.some])
  · rintro ⟨sign, digits, m, numeral, signed, written, rfl⟩
    obtain ⟨before, after, split, leading, trailing⟩ := exists_trimChars text.toList
    exact .intro (numeral ▸ split) leading trailing signed written

/-- A text gives a signed word once it is trimmed where it spells that word. -/
theorem int64?_trim_eq_some_iff {word : Int64} :
    int64? (trim text) = some word ↔ SpellsSigned text word := by
  have word_eq {n : Int} : (if Int64.minValue.toInt ≤ n ∧ n ≤ Int64.maxValue.toInt then
      some (Int64.ofInt n) else none) = some word ↔ n = word.toInt := by
    split
    next fits =>
      rw [Option.some.injEq, ← Int64.toInt_inj,
        Int64.toInt_ofInt_of_le fits.1 (Int.lt_add_one_of_le fits.2)]
    next large =>
      refine iff_of_false nofun fun same => large ?_
      rw [same]
      exact ⟨word.minValue_le_toInt, Int64.le_iff_toInt_le.1 word.le_maxValue⟩
  rw [SpellsSigned, spells_iff (List.Subset.refl _)]
  simp only [int64?, Option.bind_eq_some_iff, word_eq, exists_eq_right, integer?_eq_some_iff]

theorem withSign_of_unsigned {sign : List Char} (unsigned : sign ∈ [[], ['+']]) (m : Nat) :
    withSign sign m = m := by
  simp only [List.mem_cons, List.not_mem_nil, or_false] at unsigned
  rcases unsigned with rfl | rfl <;> rfl

theorem uint64?_trim_eq_some_iff {word : UInt64} :
    uint64? (trim text) = some word ↔ SpellsUnsigned text word := by
  rw [SpellsUnsigned, spells_iff (by simp), uint64?_eq_some_iff]
  refine exists_congr fun sign => exists_congr fun digits => ?_
  constructor
  · rintro ⟨split, unsigned, written⟩
    exact ⟨_, split, unsigned, written, (withSign_of_unsigned unsigned _).symm⟩
  · rintro ⟨m, split, unsigned, written, same⟩
    obtain rfl : word.toNat = m := Int.ofNat.inj (same.trans (withSign_of_unsigned unsigned m))
    exact ⟨split, unsigned, written⟩

theorem spellsUnsigned_iff {word : UInt64} : SpellsUnsigned text word ↔
    ∃ before sign digits after, text.toList = before ++ (sign ++ digits) ++ after ∧
      Blank before ∧ Blank after ∧ sign ∈ [[], ['+']] ∧ Digits digits word.toNat := by
  constructor
  · intro spelled
    unfold SpellsUnsigned at spelled
    generalize same : (word.toNat : Int) = number at spelled
    obtain @⟨before, sign, digits, after, m, split, leading, trailing, unsigned, written⟩ := spelled
    rw [withSign_of_unsigned unsigned] at same
    obtain rfl := Int.ofNat.inj same
    exact ⟨before, sign, digits, after, split, leading, trailing, unsigned, written⟩
  · rintro ⟨before, sign, digits, after, split, leading, trailing, unsigned, written⟩
    unfold SpellsUnsigned
    rw [← withSign_of_unsigned unsigned word.toNat]
    exact .intro split leading trailing unsigned written

theorem SpellsSigned.unique {word other : Int64} (spelled : SpellsSigned text word)
    (again : SpellsSigned text other) : word = other :=
  Option.some.inj
    ((int64?_trim_eq_some_iff.2 spelled).symm.trans (int64?_trim_eq_some_iff.2 again))

theorem SpellsSigned.not_blank {word : Int64} (spelled : SpellsSigned text word) :
    ¬Blank text.toList := by
  intro blank
  have read := int64?_trim_eq_some_iff.2 spelled
  rw [String.isEmpty_iff.1 (isEmpty_trim_iff.2 blank)] at read
  cases read

end Numeral

end KeyRotation.Text
