import Mathlib
import KeyRotation.Proofs.Partition

/-! The batches of a range in figures. Each begins one step behind the one before it and holds a
step of ids, the last of them all that are left. A step is the size asked for as long as that is
a positive signed word, so the size may be taken at its word unless both it and the range go
beyond these. -/
namespace KeyRotation

/-- The ids of a batch, of which there may be more than a word can count. -/
def Batch.ids (batch : Batch) : Nat := (batch.maxId.toInt - batch.minId.toInt + 1).toNat

def IdRange.ids (range : IdRange) : Nat := (range.maxId.toInt - range.minId.toInt + 1).toNat

namespace Batches

def drop : Nat → Batches → Batches
  | 0, batches => batches
  | n + 1, batches =>
    match batches.next? with
    | none => batches
    | some (_, rest) => drop n rest

theorem drop_of_done {batches : Batches} (done : batches.next? = none) (n : Nat) :
    batches.drop n = batches := by
  cases n with
  | zero => rfl
  | succ n => rw [drop, done]

theorem drop_of_next? {batches rest : Batches} {batch : Batch}
    (produced : batches.next? = some (batch, rest)) (n : Nat) :
    batches.drop (n + 1) = rest.drop n := by
  rw [drop, produced]

theorem toList_of_done {batches : Batches} (done : batches.next? = none) :
    batches.toList = [] := by
  rw [toList, done]

theorem toList_of_next? {batches rest : Batches} {batch : Batch}
    (produced : batches.next? = some (batch, rest)) : batches.toList = batch :: rest.toList := by
  rw [toList, produced]

theorem toList_drop (batches : Batches) (n : Nat) :
    (batches.drop n).toList = batches.toList.drop n := by
  induction n generalizing batches with
  | zero => rfl
  | succ n ih =>
    cases produced : batches.next? with
    | none => rw [drop_of_done produced, toList_of_done produced, List.drop_nil]
    | some pair =>
      rw [drop_of_next? produced, ih, toList_of_next? produced, List.drop_succ_cons]

theorem head?_toList (batches : Batches) :
    batches.toList.head? = batches.next?.map Prod.fst := by
  cases produced : batches.next? with
  | none => rw [toList_of_done produced]; rfl
  | some pair => rw [toList_of_next? produced]; rfl

theorem next?_drop (batches : Batches) (n : Nat) :
    (batches.drop n).next?.map Prod.fst = batches.toList[n]? := by
  rw [← head?_toList, toList_drop, List.head?_drop]

theorem next?_drop_eq_none_iff (batches : Batches) (n : Nat) :
    (batches.drop n).next? = none ↔ batches.toList.length ≤ n := by
  rw [← List.getElem?_eq_none_iff, ← next?_drop, Option.map_eq_none_iff]

/-- All ids up to the last one are still to come. -/
def Ordered (batches : Batches) : Prop := ∀ lo, batches.next = some lo → lo ≤ batches.last

theorem ordered_ofRange (range : IdRange) (size : UInt64) : (ofRange range size).Ordered := by
  intro lo start
  obtain rfl := Option.some.inj start
  exact range.min_le_max

/-- The batches behind a batch begin one step further on, if that is not behind the last id. -/
theorem next_step {batches rest : Batches} {batch : Batch} {lo : RecordId}
    (start : batches.next = some lo) (produced : batches.next? = some (batch, rest)) :
    batch = ⟨lo, batches.upTo lo⟩ ∧ rest.last = batches.last ∧ rest.step = batches.step ∧
      rest.next.map Int64.toInt =
        if lo.toInt + batches.step.toInt ≤ batches.last.toInt then
          some (lo.toInt + batches.step.toInt)
        else none := by
  rw [next?_of_next start] at produced
  obtain ⟨rfl, rfl⟩ := Prod.mk.inj (Option.some.inj produced)
  refine ⟨rfl, rfl, rfl, ?_⟩
  have upTo := batches.toInt_upTo lo
  have most := batches.last.toInt_lt
  have greatest := Int64.toInt_maxValue
  by_cases below : batches.upTo lo < batches.last
  · have shift := toInt_add_one below
    rw [Int64.lt_iff_toInt_lt] at below
    simp only [Int64.lt_iff_toInt_lt, below, if_true, Option.map_some, shift]
    rw [if_pos (by omega)]
    exact congrArg some (by omega)
  · simp only [below, if_false, Option.map_none]
    rw [Int64.lt_iff_toInt_lt] at below
    rw [if_neg (by omega)]

theorem drop_figures {batches : Batches} {lo : RecordId} (start : batches.next = some lo)
    (le : lo ≤ batches.last) (n : Nat) :
    (batches.drop n).last = batches.last ∧ (batches.drop n).step = batches.step ∧
      (batches.drop n).next.map Int64.toInt =
        if lo.toInt + n * batches.step.toInt ≤ batches.last.toInt then
          some (lo.toInt + n * batches.step.toInt)
        else none := by
  induction n generalizing batches lo with
  | zero =>
    have le := Int64.le_iff_toInt_le.1 le
    simp [drop, start, le]
  | succ n ih =>
    have pos := zero_lt_iff.1 batches.step_pos
    have steps : ((n + 1 : Nat) : Int) * batches.step.toInt =
        batches.step.toInt + n * batches.step.toInt := by
      push_cast
      ring
    obtain ⟨⟨batch, rest⟩, produced⟩ : ∃ pair, batches.next? = some pair :=
      ⟨_, next?_of_next start⟩
    obtain ⟨-, last, step, next⟩ := next_step start produced
    rw [drop_of_next? produced, steps]
    cases found : rest.next with
    | none =>
      have done : rest.next? = none := by simp [next?, found]
      have ended : ¬lo.toInt + batches.step.toInt ≤ batches.last.toInt := by
        intro inside
        simp [found, inside] at next
      have more : 0 ≤ (n : Int) * batches.step.toInt := by positivity
      rw [drop_of_done done, found, if_neg (by omega)]
      exact ⟨last, step, rfl⟩
    | some mid =>
      obtain ⟨inside, begins⟩ : lo.toInt + batches.step.toInt ≤ batches.last.toInt ∧
          lo.toInt + batches.step.toInt = mid.toInt := by
        simpa [found, eq_comm] using next
      have below : mid ≤ rest.last := by
        rw [Int64.le_iff_toInt_le, last, ← begins]
        exact inside
      have further := ih found below
      rwa [last, step, ← begins, Int.add_assoc] at further

variable {batches : Batches} {lo : RecordId} (start : batches.next = some lo)
  (le : lo ≤ batches.last)

include start le

/-- There are as many batches as there are steps before the ids are at an end. -/
theorem lt_length_toList_iff (n : Nat) :
    n < batches.toList.length ↔ lo.toInt + n * batches.step.toInt ≤ batches.last.toInt := by
  obtain ⟨-, -, next⟩ := drop_figures start le n
  rw [← Nat.not_le, ← next?_drop_eq_none_iff, next?_eq_none_iff]
  split at next
  · next inside => simpa [inside] using fun ended => by simp [ended] at next
  · next behind => simpa [behind] using next

/-- A batch begins as many steps on as there are batches before it, and takes a full step of ids
or all that are left. -/
theorem getElem_toList {n : Nat} (inside : n < batches.toList.length) :
    batches.toList[n].minId.toInt = lo.toInt + n * batches.step.toInt ∧
      batches.toList[n].maxId.toInt =
        min (lo.toInt + (n + 1) * batches.step.toInt - 1) batches.last.toInt := by
  obtain ⟨last, step, next⟩ := drop_figures start le n
  have item := batches.next?_drop n
  rw [List.getElem?_eq_getElem inside] at item
  rw [if_pos ((lt_length_toList_iff start le n).1 inside)] at next
  obtain ⟨mid, found, begins⟩ := Option.map_eq_some_iff.1 next
  rw [next?_of_next found] at item
  have same := Option.some.inj item
  have upTo := (batches.drop n).toInt_upTo mid
  have most := batches.last.toInt_lt
  have greatest := Int64.toInt_maxValue
  have steps : ((n : Int) + 1) * batches.step.toInt =
      n * batches.step.toInt + batches.step.toInt := by ring
  rw [last, step] at upTo
  rw [← same, steps]
  exact ⟨begins, by dsimp only; omega⟩

end Batches

/-- The ids in a full batch: as many as were asked for, but at least one and no more than a signed
word can count. -/
def Batches.stride (size : UInt64) : Nat := min (max size.toNat 1) Int64.maxValue.toInt.toNat

theorem Batches.toInt_stepOf_eq (size : UInt64) : (stepOf size).toInt = stride size := by
  have most := Int64.toInt_maxValue
  rw [toInt_stepOf, stride]
  omega

theorem Batches.stride_pos (size : UInt64) : 0 < stride size := by
  have most := Int64.toInt_maxValue
  rw [stride]
  omega

/-- The batches of a range in ascending order, `step` ids in each but the last. -/
structure Strides (range : IdRange) (step : Nat) (items : List Batch) : Prop where
  pos : 0 < step
  counts : ∀ n : Nat, n < items.length ↔ range.minId.toInt + n * step ≤ range.maxId.toInt
  begins : ∀ (n : Nat) (inside : n < items.length),
    items[n].minId.toInt = range.minId.toInt + n * step
  ends : ∀ (n : Nat) (inside : n < items.length),
    items[n].maxId.toInt = min (range.minId.toInt + (n + 1) * step - 1) range.maxId.toInt

theorem IdRange.strides_batches (range : IdRange) (size : UInt64) :
    Strides range (Batches.stride size) (range.batches size) := by
  have start : (Batches.ofRange range size).next = some range.minId := rfl
  exact {
    pos := Batches.stride_pos size
    counts := by
      rw [← Batches.toInt_stepOf_eq]
      exact Batches.lt_length_toList_iff start range.min_le_max
    begins := by
      rw [← Batches.toInt_stepOf_eq]
      exact fun n inside => (Batches.getElem_toList start range.min_le_max inside).1
    ends := by
      rw [← Batches.toInt_stepOf_eq]
      exact fun n inside => (Batches.getElem_toList start range.min_le_max inside).2 }

namespace Strides

variable {range : IdRange} {step : Nat} {items : List Batch} (strides : Strides range step items)

include strides

theorem adjacent {n : Nat} (inside : n + 1 < items.length) :
    items[n].maxId.toInt + 1 = items[n + 1].minId.toInt := by
  have more := (strides.counts (n + 1)).1 inside
  have ends := strides.ends n (by omega)
  have begins := strides.begins (n + 1) inside
  push_cast at more begins
  omega

theorem ids_eq {n : Nat} (inside : n + 1 < items.length) : items[n].ids = step := by
  have next := strides.adjacent inside
  have begins := strides.begins n (by omega)
  have further := strides.begins (n + 1) inside
  push_cast at further
  rw [add_mul] at further
  rw [Batch.ids]
  omega

theorem ids_bounds {n : Nat} (inside : n < items.length) :
    1 ≤ items[n].ids ∧ items[n].ids ≤ step := by
  have pos := strides.pos
  have within := (strides.counts n).1 inside
  have begins := strides.begins n inside
  have ends := strides.ends n inside
  rw [add_mul] at ends
  rw [Batch.ids]
  omega

theorem length_eq : items.length = range.ids ⌈/⌉ step := by
  refine eq_of_forall_ge_iff fun n => ?_
  have le := Int64.le_iff_toInt_le.1 range.min_le_max
  have counts := strides.counts n
  rw [ceilDiv_le_iff_le_mul strides.pos, ← Nat.not_lt, counts, IdRange.ids, Nat.mul_comm]
  zify
  omega

theorem ascending : items.Pairwise fun one other => one.maxId < other.minId := by
  rw [List.pairwise_iff_getElem]
  intro i j _ _ before
  have ends := strides.ends i (by omega)
  have begins := strides.begins j (by omega)
  have steps : ((i + 1 : Nat) : Int) * step ≤ j * step := by
    exact_mod_cast Nat.mul_le_mul_right step before
  push_cast at steps
  rw [Int64.lt_iff_toInt_lt]
  omega

/-- A step that takes in all ids at once may as well be longer. -/
theorem longer {more : Nat} (all : range.ids ≤ step) (longer : step ≤ more) :
    Strides range more items := by
  have pos := strides.pos
  have le := Int64.le_iff_toInt_le.1 range.min_le_max
  rw [IdRange.ids] at all
  have one (n : Nat) : n < items.length ↔ n = 0 := by
    rw [strides.counts]
    rcases Nat.eq_zero_or_pos n with rfl | later
    · simpa using le
    · have := Nat.le_mul_of_pos_left step later
      zify at this
      omega
  refine ⟨by omega, fun n => ?_, fun n inside => ?_, fun n inside => ?_⟩
  · rw [one]
    rcases Nat.eq_zero_or_pos n with rfl | later
    · simpa using le
    · have := Nat.le_mul_of_pos_left more later
      zify at this
      omega
  · obtain rfl := (one n).1 inside
    simpa using strides.begins 0 inside
  · obtain rfl := (one n).1 inside
    have ends := strides.ends 0 inside
    push_cast at ends ⊢
    omega

end Strides

/-- The batches of a range of ids, whatever size is asked for: asking for one after the other goes
through a list and stays at its end. The n-th of the list begins n steps behind the first id and
ends where the next one begins, or at the last id. So each id of the range is in one batch and no
other id in any, the batches ascend without a gap, and all but the last are full. None of the sums
in signed words overflows, and none is changed by saturation. A shuffled plan has the same batches
in another order. -/
theorem batches_cover_exactly (range : IdRange) (size : UInt64) :
    let state := fun n => (Batches.ofRange range size).drop n
    let items := range.batches size
    let s := min (max size.toNat 1) Int64.maxValue.toInt.toNat
    ((∀ n, (state n).next?.map Prod.fst = items[n]?) ∧
      ∀ n, (state n).next? = none ↔ items.length ≤ n) ∧
    ((∀ n : Nat, n < items.length ↔ range.minId.toInt + n * s ≤ range.maxId.toInt) ∧
      ∀ (n : Nat) (inside : n < items.length),
        items[n].minId.toInt = range.minId.toInt + n * s ∧
        items[n].maxId.toInt = min (range.minId.toInt + (n + 1) * s - 1) range.maxId.toInt) ∧
    ((∀ id, range.Contains id → items.countP (fun batch => decide (batch.Contains id)) = 1) ∧
      ∀ batch ∈ items, ∀ id, batch.Contains id → range.Contains id) ∧
    (items.Pairwise (fun one other => one.maxId < other.minId) ∧
      ∀ n (inside : n + 1 < items.length), items[n].maxId.toInt + 1 = items[n + 1].minId.toInt) ∧
    ((∀ n (inside : n + 1 < items.length), items[n].ids = s) ∧
      ∀ n (inside : n < items.length), 1 ≤ items[n].ids ∧ items[n].ids ≤ s) ∧
    (∀ n lo, (state n).next = some lo →
      ((state n).step - 1).toInt = (state n).step.toInt - 1 ∧
      ((state n).upTo lo).toInt =
        min (lo.toInt + ((state n).step.toInt - 1)) (state n).last.toInt ∧
      ((state n).upTo lo < (state n).last →
        ((state n).upTo lo + 1).toInt = ((state n).upTo lo).toInt + 1)) ∧
    ∀ order : List Batch → List Batch, (∀ batches, (order batches).Perm batches) →
      (Plan.ofRange range size (some order)).toList.Perm items := by
  intro state items s
  have strides := range.strides_batches size
  have partition := range.partition_batches size
  have start : (Batches.ofRange range size).next = some range.minId := rfl
  refine ⟨⟨(Batches.ofRange range size).next?_drop,
      (Batches.ofRange range size).next?_drop_eq_none_iff⟩,
    ⟨strides.counts, fun n inside => ⟨strides.begins n inside, strides.ends n inside⟩⟩,
    ⟨fun id => partition.countP_contains,
      fun batch member id holds => (partition.covers id).1 ⟨batch, member, holds⟩⟩,
    ⟨strides.ascending, fun n => strides.adjacent⟩,
    ⟨fun n => strides.ids_eq, fun n => strides.ids_bounds⟩,
    fun n lo found => ⟨(state n).toInt_step_sub_one, ?_, Batches.toInt_add_one⟩,
    fun order permutes => Plan.perm_toList range size fun other same =>
      Option.some.inj same ▸ permutes⟩
  have upTo := (state n).toInt_upTo lo
  have most := (state n).last.toInt_lt
  have greatest := Int64.toInt_maxValue
  omega

def IdRange.whole : IdRange := ⟨Int64.minValue, Int64.maxValue, by decide⟩

theorem whole_cover :
    let items := IdRange.whole.batches 18446744073709551615
    items = [⟨Int64.minValue, -2⟩, ⟨-1, Int64.maxValue - 2⟩,
        ⟨Int64.maxValue - 1, Int64.maxValue⟩] ∧
      (∀ (inside : 1 + 1 < items.length), items[1].ids = 9223372036854775807) ∧
      (∀ batches : List Batch, batches.reverse.Perm batches) ∧
      (Plan.ofRange IdRange.whole 18446744073709551615 (some List.reverse)).toList.Perm items := by
  obtain ⟨-, -, -, -, ⟨full, -⟩, -, shuffled⟩ :=
    batches_cover_exactly IdRange.whole 18446744073709551615
  exact ⟨by cbv, full 1, List.reverse_perm, shuffled List.reverse List.reverse_perm⟩

/-- A range is in as many batches as the size goes into its ids, a part counting in full, and all
of them but the last are of that size. -/
def SizeLaw (range : IdRange) (size : Nat) (items : List Batch) : Prop :=
  items.length = range.ids ⌈/⌉ size ∧ ∀ n (inside : n + 1 < items.length), items[n].ids = size

theorem Strides.law {range : IdRange} {step : Nat} {items : List Batch}
    (strides : Strides range step items) : SizeLaw range step items :=
  ⟨strides.length_eq, fun _ => strides.ids_eq⟩

/-- A size that settings accept is kept by every batch but the last, and the number of batches is
what it comes to, unless both the size and the ids are more than a signed word can count. The law
holds of the greatest signed word in place of such a size. -/
theorem size_law_iff_signed {size : UInt64} {limit : Option Elapsed} {shuffle : Bool}
    {settings : Settings} (accepted : Settings.of size limit shuffle = .ok settings)
    (range : IdRange) :
    let most := Int64.maxValue.toInt.toNat
    let items := range.batches settings.batchSize
    SizeLaw range (min size.toNat most) items ∧
      (SizeLaw range size.toNat items ↔ size.toNat ≤ most ∨ range.ids ≤ most) := by
  intro most items
  obtain ⟨pos, rfl⟩ : 0 < size.toNat ∧ settings.batchSize = size := by
    rw [Settings.of] at accepted
    split at accepted
    · next pos =>
      cases accepted
      exact ⟨UInt64.lt_iff_toNat_lt.1 pos, rfl⟩
    · cases accepted
  have strides := range.strides_batches settings.batchSize
  have stride : Batches.stride settings.batchSize = min settings.batchSize.toNat most := by
    rw [Batches.stride, Nat.max_eq_left pos]
  rw [stride] at strides
  refine ⟨strides.law, fun ⟨_, full⟩ => ?_, fun signed => ?_⟩
  · by_contra beyond
    have ids : most < range.ids := by omega
    have two : 0 + 1 < items.length := by
      rw [strides.counts, Nat.min_eq_right (by omega)]
      rw [IdRange.ids] at ids
      push_cast
      omega
    have first := (full 0 two).symm.trans (strides.ids_eq two)
    omega
  · rcases Nat.le_total settings.batchSize.toNat most with small | large
    · rw [Nat.min_eq_left small] at strides
      exact strides.law
    · rw [Nat.min_eq_right large] at strides
      rcases signed with small | few
      · obtain same : most = settings.batchSize.toNat := by omega
        exact same ▸ strides.law
      · exact (strides.longer few large).law

theorem short_law :
    let settings : Settings := { batchSize := 18446744073709551615, batchSize_pos := by decide }
    let range : IdRange := ⟨-3, 5, by decide⟩
    Settings.of 18446744073709551615 none false = .ok settings ∧
      range.ids ≤ Int64.maxValue.toInt.toNat ∧
      SizeLaw range 18446744073709551615 (range.batches settings.batchSize) := by
  intro settings range
  have accepted : Settings.of 18446744073709551615 none false = .ok settings := by decide
  have few : range.ids ≤ Int64.maxValue.toInt.toNat := by decide
  exact ⟨accepted, few, (size_law_iff_signed accepted range).2.2 (.inr few)⟩

/-- Half of all ids is one more than a signed word can count, so there are three batches where
there should be two, and the first is short. -/
theorem halves_break_law :
    let settings : Settings := { batchSize := 9223372036854775808, batchSize_pos := by decide }
    let items := IdRange.whole.batches settings.batchSize
    Settings.of 9223372036854775808 none false = .ok settings ∧
      items.length = 3 ∧ IdRange.whole.ids ⌈/⌉ 9223372036854775808 = 2 ∧
      ¬SizeLaw IdRange.whole 9223372036854775808 items := by
  intro settings items
  have three : (IdRange.whole.batches 9223372036854775808).length = 3 := by cbv
  have two : IdRange.whole.ids ⌈/⌉ 9223372036854775808 = 2 := by decide
  refine ⟨by decide, three, two, fun law => ?_⟩
  have same := law.1
  rw [two] at same
  exact absurd (three.symm.trans same) (by decide)

end KeyRotation
