import KeyRotation.Migration

/-! What the batches of a range have to do with its ids. In ascending order they form a
chain without a gap, and whatever the order, every id of the range is in exactly one. Their
number is the one announced, unless the range is every id there is. -/
namespace KeyRotation

/-- Batches that follow each other without a gap, from one id to another. -/
inductive Chain : RecordId → RecordId → List Batch → Prop where
  | last {lo hi : RecordId} (le : lo ≤ hi) : Chain lo hi [⟨lo, hi⟩]
  | next {lo mid hi : RecordId} {rest : List Batch} (le : lo ≤ mid) (below : mid < hi)
      (later : Chain (mid + 1) hi rest) : Chain lo hi (⟨lo, mid⟩ :: rest)

/-- No id is in both. -/
def Batch.Apart (a b : Batch) : Prop := ∀ id, a.Contains id → ¬b.Contains id

theorem Batch.Apart.symm {a b : Batch} (apart : a.Apart b) : b.Apart a :=
  fun id inside other => apart id other inside

/-- Batches that hold each id of a range once, in any order. -/
structure Partition (range : IdRange) (batches : List Batch) : Prop where
  nonempty : batches ≠ []
  nodup : batches.Nodup
  apart : batches.Pairwise Batch.Apart
  covers : ∀ id, (∃ batch ∈ batches, batch.Contains id) ↔ range.Contains id

theorem Batches.next?_of_next {batches : Batches} {lo : RecordId} (start : batches.next = some lo) :
    batches.next? = some (⟨lo, batches.upTo lo⟩,
      { batches with
        next := if batches.upTo lo < batches.last then some (batches.upTo lo + 1) else none }) := by
  simp [next?, start]

theorem Batches.le_upTo {batches : Batches} {lo : RecordId} (le : lo ≤ batches.last) :
    lo ≤ batches.upTo lo := by
  have pos := zero_lt_iff.1 batches.step_pos
  have high := lo.toInt_lt
  have most := Int64.toInt_maxValue
  rw [Int64.le_iff_toInt_le] at *
  rw [toInt_upTo]
  omega

theorem Batches.upTo_le_last (batches : Batches) (lo : RecordId) :
    batches.upTo lo ≤ batches.last := by
  rw [Int64.le_iff_toInt_le, toInt_upTo]
  omega

theorem Batches.add_one_le {a b : Int64} (below : a < b) : a + 1 ≤ b := by
  rw [Int64.le_iff_toInt_le, toInt_add_one below]
  rw [Int64.lt_iff_toInt_lt] at below
  omega

/-- Ascending batches leave no gap: each starts where the one before it ends. -/
theorem Batches.chain_toList (batches : Batches) :
    ∀ lo, batches.next = some lo → lo ≤ batches.last → Chain lo batches.last batches.toList := by
  induction batches using Batches.toList.induct with
  | case1 batches done =>
    intro lo start
    simp [next?_of_next start] at done
  | case2 batches batch rest produced ih =>
    intro lo start le
    rw [next?_of_next start] at produced
    obtain ⟨rfl, rfl⟩ := Prod.mk.inj (Option.some.inj produced)
    rw [toList, next?_of_next start]
    by_cases below : batches.upTo lo < batches.last
    · simp only [below, if_true] at ih ⊢
      exact .next (le_upTo le) below (ih _ rfl (add_one_le below))
    · have stop : batches.upTo lo = batches.last :=
        Int64.le_antisymm (upTo_le_last batches lo) (Int64.not_lt.1 below)
      simp only [below, if_false]
      rw [toList, stop]
      exact .last le

namespace Chain

variable {lo hi : RecordId} {batches : List Batch}

theorem covers (chain : Chain lo hi batches) (id : RecordId) :
    (∃ batch ∈ batches, batch.Contains id) ↔ lo ≤ id ∧ id ≤ hi := by
  induction chain with
  | last le => simp [Batch.Contains]
  | next le below later ih =>
    simp only [List.mem_cons, exists_eq_or_imp, ih]
    simp only [Batch.Contains, Int64.le_iff_toInt_le, Batches.toInt_add_one below] at le ⊢
    rw [Int64.lt_iff_toInt_lt] at below
    omega

theorem minId_le_maxId (chain : Chain lo hi batches) {batch : Batch} (member : batch ∈ batches) :
    batch.minId ≤ batch.maxId := by
  induction chain with
  | last le =>
    obtain rfl := List.mem_singleton.1 member
    exact le
  | next le below later ih =>
    rcases List.mem_cons.1 member with rfl | member
    · exact le
    · exact ih member

theorem apart (chain : Chain lo hi batches) : batches.Pairwise Batch.Apart := by
  induction chain with
  | last le => exact List.pairwise_singleton _ _
  | next le below later ih =>
    refine List.pairwise_cons.2 ⟨?_, ih⟩
    intro batch member id inside other
    have above := ((later.covers id).1 ⟨batch, member, other⟩).1
    have under := inside.2
    simp only [Int64.le_iff_toInt_le, Batches.toInt_add_one below] at above under
    omega

theorem nodup (chain : Chain lo hi batches) : batches.Nodup := by
  refine chain.apart.imp_of_mem ?_
  rintro a b member - apart rfl
  have inside : a.Contains a.minId := ⟨Int64.le_refl _, chain.minId_le_maxId member⟩
  exact apart _ inside inside

theorem first (chain : Chain lo hi batches) :
    ∃ batch rest, batches = batch :: rest ∧ batch.Contains lo := by
  cases chain with
  | last le => exact ⟨_, _, rfl, Int64.le_refl _, le⟩
  | next le below later => exact ⟨_, _, rfl, Int64.le_refl _, le⟩

theorem within (chain : Chain lo hi batches) {batch : Batch} (member : batch ∈ batches) :
    lo ≤ batch.minId ∧ batch.maxId ≤ hi := by
  have le := chain.minId_le_maxId member
  have low := (chain.covers _).1 ⟨batch, member, Int64.le_refl _, le⟩
  have high := (chain.covers _).1 ⟨batch, member, le, Int64.le_refl _⟩
  exact ⟨low.1, high.2⟩

theorem exists_least (chain : Chain lo hi batches) :
    ∃ batch ∈ batches, batch.minId = lo ∧ batch.Contains lo ∧
      ∀ other ∈ batches, other ≠ batch → lo < other.minId := by
  cases chain with
  | last le => exact ⟨_, List.mem_singleton_self _, rfl, ⟨Int64.le_refl _, le⟩, by simp⟩
  | @next _ mid _ rest le below later =>
    refine ⟨_, List.mem_cons_self, rfl, ⟨Int64.le_refl _, le⟩, fun other member apart => ?_⟩
    have above := (later.within (List.mem_of_ne_of_mem apart member)).1
    rw [Int64.lt_iff_toInt_lt] at *
    rw [Int64.le_iff_toInt_le] at *
    rw [Batches.toInt_add_one (Int64.lt_iff_toInt_lt.2 below)] at above
    omega

theorem exists_greatest (chain : Chain lo hi batches) :
    ∃ batch ∈ batches, batch.maxId = hi ∧ batch.Contains hi ∧
      ∀ other ∈ batches, other ≠ batch → other.maxId < hi := by
  induction chain with
  | last le => exact ⟨_, List.mem_singleton_self _, rfl, ⟨le, Int64.le_refl _⟩, by simp⟩
  | next le below later ih =>
    obtain ⟨batch, member, ends, inside, greatest⟩ := ih
    refine ⟨batch, List.mem_cons_of_mem _ member, ends, inside, fun other among apart => ?_⟩
    rcases List.mem_cons.1 among with rfl | among
    · exact below
    · exact greatest other among apart

end Chain

theorem IdRange.chain_batches (range : IdRange) (size : UInt64) :
    Chain range.minId range.maxId (range.batches size) :=
  Batches.chain_toList (Batches.ofRange range size) _ rfl range.min_le_max

theorem IdRange.partition_batches (range : IdRange) (size : UInt64) :
    Partition range (range.batches size) where
  nonempty := by
    intro empty
    have chain := range.chain_batches size
    rw [empty] at chain
    cases chain
  nodup := (range.chain_batches size).nodup
  apart := (range.chain_batches size).apart
  covers := (range.chain_batches size).covers

/-- A batch takes a full step of the ids left, or all of them where they are fewer. -/
theorem Batches.left_next {batches rest : Batches} {batch : Batch}
    (produced : batches.next? = some (batch, rest)) :
    rest.step = batches.step ∧ 0 < batches.left ∧
      rest.left = batches.left - batches.step.toInt.toNat := by
  obtain ⟨next, last, step, step_pos⟩ := batches
  simp only [next?, Option.map_eq_some_iff, Prod.mk.injEq] at produced
  obtain ⟨lo, rfl, rfl, rfl⟩ := produced
  refine ⟨rfl, Nat.succ_pos _, ?_⟩
  have pos := zero_lt_iff.1 step_pos
  have upTo := toInt_upTo ⟨some lo, last, step, step_pos⟩ lo
  have most := Int64.toInt_maxValue
  have edge := last.toInt_lt
  have start := lo.toInt_lt
  simp only [left] at upTo ⊢
  by_cases below : Batches.upTo ⟨some lo, last, step, step_pos⟩ lo < last
  · have shift := toInt_add_one below
    simp only [below, if_true, shift]
    rw [Int64.lt_iff_toInt_lt] at below
    omega
  · simp only [below, if_false]
    rw [Int64.lt_iff_toInt_lt] at below
    omega

theorem Batches.next?_eq_none_iff {batches : Batches} :
    batches.next? = none ↔ batches.next = none := by
  rw [next?, Option.map_eq_none_iff]

theorem Batches.left_eq_zero_of_done {batches : Batches} (done : batches.next? = none) :
    batches.left = 0 := by
  rw [next?_eq_none_iff] at done
  rw [left, done]

/-- As many batches are still to come as there are steps in the ids left, the last of which may
be short. -/
theorem Batches.length_toList (batches : Batches) :
    batches.toList.length =
      (batches.left + (batches.step.toInt.toNat - 1)) / batches.step.toInt.toNat := by
  induction batches using Batches.toList.induct with
  | case1 batches done =>
    have pos := zero_lt_iff.1 batches.step_pos
    rw [toList, done, left_eq_zero_of_done done, Nat.div_eq_of_lt (by omega)]
    rfl
  | case2 batches batch rest produced ih =>
    have pos := zero_lt_iff.1 batches.step_pos
    obtain ⟨same, some_left, less⟩ := left_next produced
    rw [toList, produced]
    simp only [List.length_cons]
    rw [ih, same, less]
    generalize batches.left = ids at *
    obtain ⟨step, steps⟩ : ∃ step, batches.step.toInt.toNat = step + 1 :=
      Nat.exists_eq_add_one_of_ne_zero (by omega)
    rw [steps, Nat.add_sub_cancel]
    obtain ⟨more, rfl⟩ : ∃ more, ids = more + 1 :=
      Nat.exists_eq_add_one_of_ne_zero (by omega)
    rw [show more + 1 + step = more + (step + 1) by omega, Nat.add_div_right _ step.succ_pos]
    by_cases full : step ≤ more
    · rw [show more + 1 - (step + 1) + step = more by omega]
    · rw [Nat.div_eq_of_lt (by omega), Nat.div_eq_of_lt (by omega)]

theorem toNat_spannedIds {a b : RecordId} (le : b ≤ a) :
    (spannedIds a b).toNat = min (UInt64.size - 1) ((a.toInt - b.toInt).toNat + 1) := by
  have le := Int64.le_iff_toInt_le.1 le
  rw [spannedIds, toNat_ofNatClamp]
  omega

/-- The announced number is that of the steps in the ids that a word can count. -/
theorem Batches.toNat_length_eq {batches : Batches}
    (ordered : ∀ lo, batches.next = some lo → lo ≤ batches.last) :
    batches.length.toNat =
      (min (UInt64.size - 1) batches.left + (batches.step.toInt.toNat - 1)) /
        batches.step.toInt.toNat := by
  have pos := zero_lt_iff.1 batches.step_pos
  rw [length]
  cases start : batches.next with
  | none =>
    simp only [left, start, Nat.min_zero]
    rw [Nat.div_eq_of_lt (by omega)]
    rfl
  | some lo =>
    have small : ((spannedIds batches.last lo).toNat + (batches.step.toInt.toNat - 1)) /
        batches.step.toInt.toNat ≤ (spannedIds batches.last lo).toNat := by
      rw [Nat.div_le_iff_le_mul_add_pred (by omega)]
      exact Nat.add_le_add_right (Nat.le_mul_of_pos_left _ (by omega)) _
    simp only [left, start]
    rw [UInt64.toNat_ofNat_of_lt' (Nat.lt_of_le_of_lt small (UInt64.toNat_lt_size _)),
      toNat_spannedIds (ordered lo start)]

theorem Batches.toNat_length {batches : Batches}
    (ordered : ∀ lo, batches.next = some lo → lo ≤ batches.last)
    (counts : batches.left < UInt64.size) : batches.length.toNat = batches.toList.length := by
  rw [length_toList, toNat_length_eq ordered, Nat.min_eq_right (Nat.le_sub_one_of_lt counts)]

def IdRange.Whole (range : IdRange) : Prop :=
  range.minId = Int64.minValue ∧ range.maxId = Int64.maxValue

instance (range : IdRange) : Decidable range.Whole :=
  inferInstanceAs (Decidable (_ ∧ _))

/-- Only the ids of the whole range are more than a word can count. -/
theorem IdRange.left_ofRange_lt {range : IdRange} (part : ¬range.Whole) (size : UInt64) :
    (Batches.ofRange range size).left < UInt64.size := by
  have low := range.minId.le_toInt
  have high := range.maxId.toInt_lt
  simp only [Whole, ← Int64.toInt_inj, Int64.toInt_minValue, Int64.toInt_maxValue] at part
  simp only [Batches.left, Batches.ofRange, UInt64.size]
  omega

theorem IdRange.toNat_length_ofRange {range : IdRange} (part : ¬range.Whole) (size : UInt64) :
    (Batches.ofRange range size).length.toNat = (range.batches size).length := by
  refine Batches.toNat_length (fun lo start => ?_) (left_ofRange_lt part size)
  obtain rfl := Option.some.inj start
  exact range.min_le_max

namespace Partition

variable {range : IdRange} {batches other : List Batch}

theorem perm (partition : Partition range batches) (same : other.Perm batches) :
    Partition range other where
  nonempty := by
    rintro rfl
    exact partition.nonempty same.nil_eq.symm
  nodup := same.nodup_iff.2 partition.nodup
  apart := (same.pairwise_iff Batch.Apart.symm).2 partition.apart
  covers id := by simpa only [same.mem_iff] using partition.covers id

/-- One batch holds an id of the range, and no other does. -/
theorem countP_contains (partition : Partition range batches) {id : RecordId}
    (inside : range.Contains id) :
    batches.countP (fun batch => decide (batch.Contains id)) = 1 := by
  obtain ⟨batch, member, holds⟩ := (partition.covers id).2 inside
  obtain ⟨before, after, rfl⟩ := List.append_of_mem member
  obtain ⟨-, tail, across⟩ := List.pairwise_append.1 partition.apart
  have early : before.countP (fun batch => decide (batch.Contains id)) = 0 := by
    rw [List.countP_eq_zero]
    intro other among
    simpa using fun twice => across other among batch List.mem_cons_self id twice holds
  have late : after.countP (fun batch => decide (batch.Contains id)) = 0 := by
    rw [List.countP_eq_zero]
    intro other among
    simpa using (List.pairwise_cons.1 tail).1 other among id holds
  simp [early, late, holds]

end Partition

/-- The order in which a run works through a task. -/
def Task.plan (task : Task) (settings : Settings) (order : List Batch → List Batch) : Plan :=
  .ofRange task.range settings.batchSize (if settings.shuffle then some order else none)

def Task.batches (task : Task) (settings : Settings) (order : List Batch → List Batch) :
    List Batch :=
  (task.plan settings order).toList

/-- A shuffle only takes the batches in another order. -/
theorem Plan.perm_toList (range : IdRange) (size : UInt64)
    {shuffle : Option (List Batch → List Batch)}
    (permutes : ∀ order, shuffle = some order → ∀ batches, (order batches).Perm batches) :
    (ofRange range size shuffle).toList.Perm (range.batches size) := by
  cases shuffle with
  | none => exact .refl _
  | some order => exact permutes order rfl _

theorem Task.batches_perm (task : Task) (settings : Settings) (order : List Batch → List Batch)
    (permutes : ∀ batches, (order batches).Perm batches) :
    (task.batches settings order).Perm (task.range.batches settings.batchSize) := by
  refine Plan.perm_toList _ _ fun other chosen => ?_
  obtain ⟨-, same⟩ := Option.ite_none_right_eq_some.1 chosen
  exact Option.some.inj same ▸ permutes

theorem Task.partition_batches (task : Task) (settings : Settings)
    (order : List Batch → List Batch) (permutes : ∀ batches, (order batches).Perm batches) :
    Partition task.range (task.batches settings order) :=
  (task.range.partition_batches settings.batchSize).perm
    (task.batches_perm settings order permutes)

/-- A run announces as many batches as it plans. -/
theorem Task.toNat_length_plan {task : Task} (part : ¬task.range.Whole) (settings : Settings)
    (order : List Batch → List Batch) (permutes : ∀ batches, (order batches).Perm batches) :
    (task.plan settings order).length.toNat = (task.batches settings order).length := by
  have announced := task.range.toNat_length_ofRange part settings.batchSize
  have fits := (Batches.ofRange task.range settings.batchSize).length.toNat_lt_size
  have same := (task.batches_perm settings order permutes).length_eq
  unfold batches plan at same ⊢
  cases settings.shuffle with
  | false => exact announced
  | true =>
    refine UInt64.toNat_ofNat_of_lt' (?_ : (order _).length < _)
    rwa [(permutes _).length_eq, ← announced]

theorem Task.batches_of_ascending (task : Task) {settings : Settings}
    (ascending : settings.shuffle = false) (order : List Batch → List Batch) :
    task.batches settings order = task.range.batches settings.batchSize := by
  simp [batches, plan, ascending, Plan.ofRange, Plan.toList, IdRange.batches]

end KeyRotation
