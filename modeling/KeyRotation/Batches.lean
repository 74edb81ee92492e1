/-! Ranges of record ids, and the contiguous batches of a range. An id is a signed 64-bit word, a
number of ids an unsigned one, and both saturate. Ascending batches are produced one at a time, so
that a wide range with a small batch size costs nothing up front; any other order holds them all.
-/
namespace KeyRotation

abbrev RecordId := Int64

instance : Std.LawfulOrderLeftLeaningMax RecordId where
  max_eq_left a b below := by
    by_cases le : a ≤ b
    · exact (if_pos le).trans (Int64.le_antisymm below le)
    · exact if_neg le
  max_eq_right a b above := if_pos (Int64.le_of_lt (Int64.not_le.1 above))

/-- The ids from one end to the other, either way round; the whole range of words holds
one id more than a word can count. -/
def spannedIds (a b : RecordId) : UInt64 :=
  UInt64.ofNatClamp ((a.toInt - b.toInt).natAbs + 1)

structure IdRange where
  minId : RecordId
  maxId : RecordId
  min_le_max : minId ≤ maxId
  deriving DecidableEq, Repr

namespace IdRange

/-- An empty range has nothing to migrate, so it is no range. -/
def of? (minId maxId : RecordId) : Option IdRange :=
  if h : minId ≤ maxId then some ⟨minId, maxId, h⟩ else none

def size (range : IdRange) : UInt64 := spannedIds range.maxId range.minId

def Contains (range : IdRange) (id : RecordId) : Prop := range.minId ≤ id ∧ id ≤ range.maxId

instance (range : IdRange) (id : RecordId) : Decidable (range.Contains id) :=
  inferInstanceAs (Decidable (_ ∧ _))

theorem of?_eq_some_iff {minId maxId : RecordId} {range : IdRange} :
    of? minId maxId = some range ↔ range.minId = minId ∧ range.maxId = maxId := by
  obtain ⟨lo, hi, le⟩ := range
  simp only [of?]
  split
  · simp only [Option.some.injEq, IdRange.mk.injEq]
    exact ⟨fun ⟨a, b⟩ => ⟨a.symm, b.symm⟩, fun ⟨a, b⟩ => ⟨a.symm, b.symm⟩⟩
  · next h =>
    constructor
    · intro none_eq; simp at none_eq
    · rintro ⟨rfl, rfl⟩; exact absurd le h

end IdRange

structure Batch where
  minId : RecordId
  maxId : RecordId
  deriving DecidableEq, Repr

namespace Batch

def size (batch : Batch) : UInt64 := spannedIds batch.maxId batch.minId

def Contains (batch : Batch) (id : RecordId) : Prop := batch.minId ≤ id ∧ id ≤ batch.maxId

instance (batch : Batch) (id : RecordId) : Decidable (batch.Contains id) :=
  inferInstanceAs (Decidable (_ ∧ _))

end Batch

/-- `next` is the first id of the next batch, `step` the ids in a full batch. -/
structure Batches where
  next : Option RecordId
  last : RecordId
  step : Int64
  step_pos : 0 < step
  deriving DecidableEq, Repr

namespace Batches

theorem zero_lt_iff {step : Int64} : 0 < step ↔ 0 < step.toInt := by
  rw [Int64.lt_iff_toInt_lt]; rfl

theorem toInt_ofIntClamp (n : Int) :
    (Int64.ofIntClamp n).toInt = max Int64.minValue.toInt (min n Int64.maxValue.toInt) := by
  unfold Int64.ofIntClamp
  have lo := Int64.toInt_minValue
  have hi := Int64.toInt_maxValue
  split
  · split
    · simp only [Int64.toInt_ofIntLE]; omega
    · omega
  · omega

/-- A size of zero counts as one, and a size no signed word holds as the largest. -/
def stepOf (size : UInt64) : Int64 := Int64.ofIntClamp (max size.toNat 1 : Nat)

theorem toInt_stepOf (size : UInt64) :
    (stepOf size).toInt = min (max (size.toNat : Int) 1) Int64.maxValue.toInt := by
  have lo := Int64.toInt_minValue
  have hi := Int64.toInt_maxValue
  rw [stepOf, toInt_ofIntClamp]
  omega

theorem stepOf_pos (size : UInt64) : 0 < stepOf size := by
  have hi := Int64.toInt_maxValue
  rw [zero_lt_iff, toInt_stepOf]; omega

def ofRange (range : IdRange) (size : UInt64) : Batches :=
  ⟨some range.minId, range.maxId, stepOf size, stepOf_pos size⟩

/-- Batches not yet produced, as far as a word can count the ids left. -/
def length (batches : Batches) : UInt64 :=
  match batches.next with
  | none => 0
  | some lo =>
    let ids := (spannedIds batches.last lo).toNat
    let step := batches.step.toInt.toNat
    UInt64.ofNat ((ids + (step - 1)) / step)

def bounds (batches : Batches) : UInt64 × Option UInt64 := (batches.length, some batches.length)

/-- The last id of a batch that starts at `lo`. -/
def upTo (batches : Batches) (lo : RecordId) : RecordId :=
  min (Int64.ofIntClamp (lo.toInt + (batches.step - 1).toInt)) batches.last

def next? (batches : Batches) : Option (Batch × Batches) :=
  batches.next.map fun lo =>
    let hi := batches.upTo lo
    (⟨lo, hi⟩, { batches with next := if hi < batches.last then some (hi + 1) else none })

/-- Ids not yet covered. -/
def left (batches : Batches) : Nat :=
  match batches.next with
  | none => 0
  | some lo => (batches.last.toInt - lo.toInt).toNat + 1

theorem toInt_step_sub_one (batches : Batches) :
    (batches.step - 1).toInt = batches.step.toInt - 1 := by
  have pos := zero_lt_iff.1 batches.step_pos
  have lt := batches.step.toInt_lt
  rw [Int64.toInt_sub, Int.bmod_eq_of_le]
  · rfl
  · simp only [Int64.reduceToInt]; omega
  · simp only [Int64.reduceToInt]; omega

theorem toInt_min (a b : Int64) : (min a b).toInt = min a.toInt b.toInt := by
  show (if a ≤ b then a else b).toInt = _
  split
  · next le => rw [Int64.le_iff_toInt_le] at le; omega
  · next gt => rw [Int64.le_iff_toInt_le] at gt; omega

theorem toInt_upTo (batches : Batches) (lo : RecordId) :
    (batches.upTo lo).toInt
      = min (min (lo.toInt + batches.step.toInt - 1) Int64.maxValue.toInt) batches.last.toInt := by
  have pos := zero_lt_iff.1 batches.step_pos
  have low := lo.le_toInt
  have least := Int64.toInt_minValue
  have most := Int64.toInt_maxValue
  rw [upTo, toInt_min, toInt_ofIntClamp, toInt_step_sub_one]
  omega

theorem toInt_add_one {a b : Int64} (below : a < b) : (a + 1).toInt = a.toInt + 1 := by
  rw [Int64.lt_iff_toInt_lt] at below
  have lt := b.toInt_lt
  have le := a.le_toInt
  rw [Int64.toInt_add, Int.bmod_eq_of_le]
  · rfl
  · simp only [Int64.reduceToInt]; omega
  · simp only [Int64.reduceToInt]; omega

/-- Every batch covers at least one id. -/
theorem left_lt {batches rest : Batches} {batch : Batch}
    (produced : batches.next? = some (batch, rest)) : rest.left < batches.left := by
  obtain ⟨next, last, step, step_pos⟩ := batches
  simp only [next?, Option.map_eq_some_iff, Prod.mk.injEq] at produced
  obtain ⟨lo, rfl, rfl, rfl⟩ := produced
  simp only [left]
  split
  · omega
  · next start eq =>
    split at eq
    · next below =>
      obtain rfl := Option.some.inj eq
      have hi := toInt_upTo ⟨some lo, last, step, step_pos⟩ lo
      have pos := zero_lt_iff.1 step_pos
      have below' := Int64.lt_iff_toInt_lt.1 below
      rw [toInt_add_one below]
      simp only at hi
      have := lo.toInt_lt
      have := Int64.toInt_maxValue
      omega
    · simp at eq

def toList (batches : Batches) : List Batch :=
  match _produced : batches.next? with
  | none => []
  | some (batch, rest) => batch :: rest.toList
termination_by batches.left
decreasing_by exact left_lt _produced

def take : Nat → Batches → List Batch
  | 0, _ => []
  | n + 1, batches =>
    match batches.next? with
    | none => []
    | some (batch, rest) => batch :: take n rest

end Batches

/-- Every batch of a range, in ascending order. -/
def IdRange.batches (range : IdRange) (size : UInt64) : List Batch :=
  (Batches.ofRange range size).toList

inductive Plan where
  | ascending (batches : Batches)
  | listed (batches : List Batch)

namespace Plan

/-- The batches of a range in the order `shuffle` gives them, or ascending without one. -/
def ofRange (range : IdRange) (size : UInt64) (shuffle : Option (List Batch → List Batch)) : Plan :=
  match shuffle with
  | none => .ascending (Batches.ofRange range size)
  | some order => .listed (order (range.batches size))

def next? : Plan → Option (Batch × Plan)
  | .ascending batches => batches.next?.map fun (batch, rest) => (batch, .ascending rest)
  | .listed [] => none
  | .listed (batch :: rest) => some (batch, .listed rest)

def length : Plan → UInt64
  | .ascending batches => batches.length
  | .listed batches => UInt64.ofNat batches.length

def bounds : Plan → UInt64 × Option UInt64
  | .ascending batches => batches.bounds
  | .listed batches => (UInt64.ofNat batches.length, some (UInt64.ofNat batches.length))

def left : Plan → Nat
  | .ascending batches => batches.left
  | .listed batches => batches.length

theorem left_lt {plan rest : Plan} {batch : Batch} (produced : plan.next? = some (batch, rest)) :
    rest.left < plan.left := by
  cases plan with
  | ascending batches =>
    simp only [next?, Option.map_eq_some_iff, Prod.mk.injEq] at produced
    obtain ⟨⟨b, r⟩, step, rfl, rfl⟩ := produced
    exact Batches.left_lt step
  | listed batches =>
    cases batches with
    | nil => simp [next?] at produced
    | cons b r =>
      simp only [next?, Option.some.injEq, Prod.mk.injEq] at produced
      obtain ⟨rfl, rfl⟩ := produced
      simp [left]

def toList : Plan → List Batch
  | .ascending batches => batches.toList
  | .listed batches => batches

def take (n : Nat) : Plan → List Batch
  | .ascending batches => batches.take n
  | .listed batches => batches.take n

/-- What is left after `n` batches. -/
def drop : Nat → Plan → Plan
  | 0, plan => plan
  | n + 1, plan =>
    match plan.next? with
    | none => plan
    | some (_, rest) => rest.drop n

end Plan
end KeyRotation
