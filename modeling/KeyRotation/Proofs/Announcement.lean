import Mathlib
import KeyRotation.Proofs.Course
import KeyRotation.Proofs.Stride

/-! The number of batches that is announced while a plan is worked through. It is counted from the
ids left, of which a word can count all but the whole range; a list is counted as it is. So the
ascending batches of the whole range are announced as one too few at the beginning if their size
divides all ids but one, and after the first of them, as everywhere else, the number is exact. -/
namespace KeyRotation

namespace Batches

theorem left_ofRange (range : IdRange) (size : UInt64) :
    (ofRange range size).left = range.ids := by
  have le := Int64.le_iff_toInt_le.1 range.min_le_max
  simp only [left, ofRange, IdRange.ids]
  omega

/-- Each batch takes a full step of the ids left, as long as there are that many. -/
theorem left_drop (batches : Batches) (n : Nat) :
    (batches.drop n).step = batches.step ∧
      (batches.drop n).left = batches.left - n * batches.step.toInt.toNat := by
  induction n generalizing batches with
  | zero => simp [drop]
  | succ n ih =>
    cases produced : batches.next? with
    | none =>
      rw [drop_of_done produced, left_eq_zero_of_done produced]
      exact ⟨rfl, (Nat.zero_sub _).symm⟩
    | some pair =>
      obtain ⟨step, -, less⟩ := left_next produced
      obtain ⟨same, left⟩ := ih pair.2
      rw [drop_of_next? produced, same, left, step, less, Nat.sub_sub, Nat.add_mul, Nat.one_mul,
        Nat.add_comm]
      exact ⟨rfl, rfl⟩

theorem Ordered.drop {batches : Batches} (ordered : batches.Ordered) (n : Nat) :
    (batches.drop n).Ordered := by
  cases start : batches.next with
  | none => rwa [drop_of_done (next?_eq_none_iff.2 start)]
  | some lo =>
    intro mid found
    obtain ⟨last, -, next⟩ := drop_figures start (ordered lo start) n
    rw [found, Option.map_some, eq_comm, Option.ite_none_right_eq_some] at next
    obtain ⟨inside, begins⟩ := next
    rw [Int64.le_iff_toInt_le, last, ← Option.some.inj begins]
    exact inside

theorem left_le (batches : Batches) : batches.left ≤ UInt64.size := by
  cases start : batches.next with
  | none => simp [left, start]
  | some lo =>
    have low := lo.le_toInt
    have high := batches.last.toInt_lt
    simp only [left, start, UInt64.size]
    omega

end Batches

theorem succ_div_step (ids : Nat) {step : Nat} (pos : 0 < step) :
    (ids + 1 + (step - 1)) / step = (ids + (step - 1)) / step + if step ∣ ids then 1 else 0 := by
  have full : ids + (step - 1) + 1 = ids + step := by omega
  rw [Nat.add_right_comm, Nat.succ_div, full]
  simp only [Nat.dvd_add_self_right]

/-- Only where the ids are one more than a word can count may a batch be missing. -/
theorem Batches.length_toList_eq_add {batches : Batches} (ordered : batches.Ordered) :
    batches.toList.length = batches.length.toNat +
      if batches.left = UInt64.size ∧ batches.step.toInt.toNat ∣ UInt64.size - 1 then 1 else 0 := by
  have pos := zero_lt_iff.1 batches.step_pos
  have le := batches.left_le
  rw [length_toList, toNat_length_eq ordered]
  by_cases all : batches.left = UInt64.size
  · rw [all, Nat.min_eq_left (Nat.sub_le _ _)]
    simpa using succ_div_step (UInt64.size - 1) (Int.pos_iff_toNat_pos.1 pos)
  · rw [Nat.min_eq_right (by omega), if_neg (fun both => all both.1), Nat.add_zero]

theorem IdRange.ids_eq_size_iff {range : IdRange} : range.ids = UInt64.size ↔ range.Whole := by
  have low := range.minId.le_toInt
  have high := range.maxId.toInt_lt
  simp only [Whole, ← Int64.toInt_inj, Int64.toInt_minValue, Int64.toInt_maxValue, ids,
    UInt64.size]
  omega

/-- Of all that can be left of a range, only the whole of all ids is more than a word can count. -/
theorem IdRange.length_toList_drop (range : IdRange) (size : UInt64) (n : Nat) :
    ((Batches.ofRange range size).drop n).toList.length =
      ((Batches.ofRange range size).drop n).length.toNat +
        if n = 0 ∧ range.Whole ∧ Batches.stride size ∣ UInt64.size - 1 then 1 else 0 := by
  have pos := Batches.stride_pos size
  have le := (Batches.ofRange range size).left_le
  have whole := @ids_eq_size_iff range
  obtain ⟨step, left⟩ := (Batches.ofRange range size).left_drop n
  have stride : (Batches.ofRange range size).step.toInt.toNat = Batches.stride size := by
    rw [Batches.ofRange, Batches.toInt_stepOf_eq, Int.toNat_natCast]
  rw [Batches.length_toList_eq_add ((Batches.ordered_ofRange range size).drop n), step, left,
    stride]
  rw [Batches.left_ofRange] at le ⊢
  have all : range.ids - n * Batches.stride size = UInt64.size ↔ n = 0 ∧ range.Whole := by
    rw [← whole]
    rcases Nat.eq_zero_or_pos n with rfl | later
    · simp
    · have := Nat.mul_pos later pos
      have : 0 < UInt64.size := by decide
      omega
  simp only [all, and_assoc]

namespace Plan

theorem drop_ascending (batches : Batches) (n : Nat) :
    (Plan.ascending batches).drop n = .ascending (batches.drop n) := by
  induction n generalizing batches with
  | zero => rfl
  | succ n ih =>
    cases produced : batches.next? with
    | none => simp [drop, next?, Batches.drop, produced]
    | some pair => simp [drop, next?, Batches.drop, produced, ih]

theorem drop_listed (batches : List Batch) (n : Nat) :
    (Plan.listed batches).drop n = .listed (batches.drop n) := by
  induction n generalizing batches with
  | zero => rfl
  | succ n ih =>
    cases batches with
    | nil => rfl
    | cons batch rest => exact ih rest

theorem drop_succ {plan rest : Plan} {n : Nat} {batch : Batch}
    (produced : (plan.drop n).next? = some (batch, rest)) : plan.drop (n + 1) = rest := by
  induction n generalizing plan with
  | zero =>
    replace produced : plan.next? = some (batch, rest) := produced
    simp only [drop, produced]
  | succ n ih =>
    cases first : plan.next? with
    | none =>
      rw [drop, first] at produced
      cases first.symm.trans produced
    | some pair =>
      rw [drop, first] at produced ⊢
      exact ih produced

theorem length_toList_drop (range : IdRange) (size : UInt64)
    (shuffle : Option (List Batch → List Batch)) (n : Nat)
    (fits : ((ofRange range size shuffle).drop n).toList.length < UInt64.size) :
    ((ofRange range size shuffle).drop n).toList.length =
      ((ofRange range size shuffle).drop n).length.toNat +
        if shuffle = none ∧ n = 0 ∧ range.Whole ∧ Batches.stride size ∣ UInt64.size - 1 then 1
        else 0 := by
  cases shuffle with
  | none =>
    simp only [ofRange, drop_ascending, toList, length, true_and]
    exact range.length_toList_drop size n
  | some order =>
    simp only [ofRange, drop_listed, toList, length] at fits ⊢
    rw [UInt64.toNat_ofNat_of_lt' fits]
    simp

theorem length_toList_drop_eq (range : IdRange) (size : UInt64)
    {shuffle : Option (List Batch → List Batch)}
    (permutes : ∀ order, shuffle = some order → ∀ batches, (order batches).Perm batches)
    (n : Nat) : ((ofRange range size shuffle).drop n).toList.length =
      ((Batches.ofRange range size).drop n).toList.length := by
  cases shuffle with
  | none => rw [ofRange, drop_ascending, toList]
  | some order =>
    rw [ofRange, drop_listed, toList, Batches.toList_drop, List.length_drop, List.length_drop,
      (permutes order rfl _).length_eq, IdRange.batches]

theorem bounds_eq (plan : Plan) : plan.bounds = (plan.length, some plan.length) := by
  cases plan <;> rfl

end Plan

/-- The announced number of batches, after any number of them. It is the number of those still to
come, one too few only where the ascending batches of all ids have not begun and their size divides
all ids but one. Everywhere else a further batch lowers it by one, and a shuffled plan announces
the same. -/
theorem announced_unless_whole_divides (range : IdRange) (size : UInt64)
    {shuffle : Option (List Batch → List Batch)}
    (permutes : ∀ order, shuffle = some order → ∀ batches, (order batches).Perm batches) (n : Nat) :
    let s := min (max size.toNat 1) Int64.maxValue.toInt.toNat
    let short := n = 0 ∧ range.Whole ∧ s ∣ UInt64.size - 1
    let state := (Batches.ofRange range size).drop n
    let plan := (Plan.ofRange range size shuffle).drop n
    ((state.length.toNat = state.toList.length ↔ ¬short) ∧
      (short → state.length.toNat + 1 = state.toList.length) ∧
      state.bounds = (state.length, some state.length)) ∧
    (plan.toList.length < UInt64.size →
      (plan.length.toNat = plan.toList.length ↔ ¬(shuffle = none ∧ short)) ∧
      plan.bounds = (plan.length, some plan.length) ∧
      (∀ batch rest, plan.next? = some (batch, rest) →
        (rest.length.toNat + 1 = plan.length.toNat ↔ ¬(shuffle = none ∧ short))) ∧
      (plan.length = state.length ↔ ¬(shuffle.isSome ∧ short))) := by
  intro s short state plan
  have exact_state : state.toList.length = state.length.toNat + if short then 1 else 0 :=
    range.length_toList_drop size n
  have announced : (state.length.toNat = state.toList.length ↔ ¬short) ∧
      (short → state.length.toNat + 1 = state.toList.length) := by
    by_cases missing : short <;> simp [exact_state, missing]
  refine ⟨⟨announced.1, announced.2, rfl⟩, fun fits => ?_⟩
  have exact_plan : plan.toList.length =
      plan.length.toNat + if shuffle = none ∧ short then 1 else 0 :=
    Plan.length_toList_drop range size shuffle n fits
  have same : plan.toList.length = state.toList.length :=
    Plan.length_toList_drop_eq range size permutes n
  refine ⟨?_, plan.bounds_eq, fun batch rest produced => ?_, ?_⟩
  · by_cases missing : shuffle = none ∧ short <;> simp [exact_plan, missing]
  · have further : (Plan.ofRange range size shuffle).drop (n + 1) = rest :=
      Plan.drop_succ produced
    have shorter : plan.toList.length = rest.toList.length + 1 := by
      rw [Plan.toList_eq_cons produced, List.length_cons]
    have exact_rest := Plan.length_toList_drop range size shuffle (n + 1)
      (by rw [further]; omega)
    rw [further, if_neg (by simp), Nat.add_zero] at exact_rest
    rw [← exact_rest, ← shorter]
    by_cases missing : shuffle = none ∧ short <;> simp [exact_plan, missing]
  · rw [← UInt64.toNat_inj]
    cases shuffle with
    | none =>
      have ascending : plan = .ascending state := Plan.drop_ascending _ n
      simp [ascending, Plan.length]
    | some order =>
      have whole : plan.toList.length = plan.length.toNat := by simpa using exact_plan
      rw [← whole, same, eq_comm, announced.1]
      simp

theorem reversed_announced :
    let range : IdRange := ⟨-3, 5, by decide⟩
    let plan := (Plan.ofRange range 4 (some List.reverse)).drop 1
    (∀ order, some List.reverse = some order → ∀ batches : List Batch,
        (order batches).Perm batches) ∧
      plan.toList = [⟨1, 4⟩, ⟨-3, 0⟩] ∧ plan.length.toNat = plan.toList.length ∧
      plan.length = ((Batches.ofRange range 4).drop 1).length := by
  intro range plan
  have permutes : ∀ order, some List.reverse = some order → ∀ batches : List Batch,
      (order batches).Perm batches := fun order same => Option.some.inj same ▸ List.reverse_perm
  have left : ((Plan.ofRange ⟨-3, 5, by decide⟩ 4 (some List.reverse)).drop 1).toList =
      [⟨1, 4⟩, ⟨-3, 0⟩] := by cbv
  obtain ⟨-, announced⟩ := announced_unless_whole_divides range 4 permutes 1
  obtain ⟨exact_plan, -, -, same⟩ := announced (left.symm ▸ (by decide : 2 < UInt64.size))
  exact ⟨permutes, left, exact_plan.2 (by simp), same.2 (by simp)⟩

/-- A third of all ids but one goes three times into these, and the last id makes a fourth batch.
Three are announced before the first batch, and three behind it; a shuffled plan announces four. -/
theorem thirds_announced_short :
    let size : UInt64 := 6148914691236517205
    let batches := Batches.ofRange IdRange.whole size
    batches.toList.length = 4 ∧ batches.length = 3 ∧ batches.bounds = (3, some 3) ∧
      (batches.drop 1).length = 3 ∧
      (Plan.ofRange IdRange.whole size none).length = 3 ∧
      (Plan.ofRange IdRange.whole size (some List.reverse)).length = 4 := by
  refine ⟨?_, ?_, ?_, ?_, ?_, ?_⟩ <;> cbv

end KeyRotation
