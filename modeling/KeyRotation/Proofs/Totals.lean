import Mathlib
import KeyRotation.Report

/-! What a tally comes to. Each total is the sum of all that was counted, cut off once at the
largest word: where on the way the limit was crossed, and in which order the batches came, makes no
difference. -/
namespace KeyRotation.Tally

/-- What is done to a tally before it becomes a report. -/
inductive Step where
  | target (version : KeyVersion)
  | planned (batches : UInt64)
  | record (outcome : BatchOutcome)
  deriving DecidableEq, Repr

namespace Step

def version? : Step → Option KeyVersion
  | .target version => some version
  | _ => none

def batches? : Step → Option UInt64
  | .planned batches => some batches
  | _ => none

def outcome? : Step → Option BatchOutcome
  | .record outcome => some outcome
  | _ => none

end Step

def next (tally : Tally) : Step → Tally
  | .target version => tally.withTarget version
  | .planned batches => tally.withPlanned batches
  | .record outcome => tally.add outcome

def after (kind : KeyKind) (steps : List Step) : Tally := steps.foldl next (start kind)

def recorded (steps : List Step) : List BatchOutcome := steps.filterMap Step.outcome?

/-- What the batches among the steps add up to, however much it is. -/
def sum (count : BatchOutcome → UInt64) (steps : List Step) : Nat :=
  ((recorded steps).map fun outcome => (count outcome).toNat).sum

/-- A figure of a tally that adds up one of the counts of each batch, and nothing else. -/
structure Totals (total : Tally → UInt64) (count : BatchOutcome → UInt64) : Prop where
  start : ∀ kind, total (start kind) = 0
  target : ∀ tally version, total (withTarget tally version) = total tally
  planned : ∀ tally batches, total (withPlanned tally batches) = total tally
  add : ∀ tally outcome, total (add tally outcome) = addCounts (total tally) (count outcome)

theorem totals_converted : Totals converted BatchOutcome.converted :=
  ⟨fun _ => rfl, fun _ _ => rfl, fun _ _ => rfl, fun _ _ => rfl⟩

theorem totals_failed : Totals failed BatchOutcome.failed :=
  ⟨fun _ => rfl, fun _ _ => rfl, fun _ _ => rfl, fun _ _ => rfl⟩

section Sum

variable {count : BatchOutcome → UInt64} {steps others : List Step}

@[simp] theorem recorded_target (version : KeyVersion) :
    recorded (.target version :: steps) = recorded steps := rfl

@[simp] theorem recorded_planned (batches : UInt64) :
    recorded (.planned batches :: steps) = recorded steps := rfl

@[simp] theorem recorded_record (outcome : BatchOutcome) :
    recorded (.record outcome :: steps) = outcome :: recorded steps := rfl

theorem sum_of_perm (same : (recorded others).Perm (recorded steps)) :
    sum count others = sum count steps :=
  (same.map _).sum_eq

theorem sum_append : sum count (steps ++ others) = sum count steps + sum count others := by
  simp [sum, recorded]

end Sum

namespace Totals

variable {total : Tally → UInt64} {count : BatchOutcome → UInt64}

/-- A sum that is cut off at every step is cut off once. -/
theorem toNat_foldl (totals : Totals total count) (steps : List Step) (tally : Tally) :
    (total (steps.foldl next tally)).toNat =
      min (UInt64.size - 1) ((total tally).toNat + sum count steps) := by
  induction steps generalizing tally with
  | nil =>
    have fits := (total tally).toNat_lt_size
    exact (Nat.min_eq_right (Nat.le_sub_one_of_lt fits)).symm
  | cons step steps ih =>
    rw [List.foldl_cons, ih]
    cases step with
    | target version => simp only [next, totals.target, sum, recorded_target]
    | planned batches => simp only [next, totals.planned, sum, recorded_planned]
    | record outcome =>
      simp only [next, totals.add, toNat_addCounts, sum, recorded_record, List.map_cons,
        List.sum_cons]
      omega

theorem toNat_after (totals : Totals total count) (kind : KeyKind) (steps : List Step) :
    (total (after kind steps)).toNat = min (UInt64.size - 1) (sum count steps) := by
  rw [after, totals.toNat_foldl, totals.start, UInt64.toNat_zero, Nat.zero_add]

theorem after_of_perm (totals : Totals total count) {kind : KeyKind} {steps others : List Step}
    (same : (recorded others).Perm (recorded steps)) :
    total (after kind others) = total (after kind steps) := by
  rw [← UInt64.toNat_inj, totals.toNat_after, totals.toNat_after, sum_of_perm same]

theorem after_take_le (totals : Totals total count) (kind : KeyKind) (steps : List Step) (n : Nat) :
    total (after kind (steps.take n)) ≤ total (after kind steps) := by
  have split : sum count steps = sum count (steps.take n) + sum count (steps.drop n) := by
    rw [← sum_append, List.take_append_drop]
  rw [UInt64.le_iff_toNat_le, totals.toNat_after, totals.toNat_after, split]
  exact min_le_min_left _ (Nat.le_add_right _ _)

end Totals

theorem done_foldl (steps : List Step) (tally : Tally) :
    (steps.foldl next tally).done = tally.done + UInt64.ofNat (recorded steps).length := by
  induction steps generalizing tally with
  | nil => simp [recorded]
  | cons step steps ih =>
    rw [List.foldl_cons, ih]
    cases step with
    | target | planned => rfl
    | record outcome =>
      have one : (tally.next (.record outcome)).done = tally.done + 1 := rfl
      rw [one, recorded_record, List.length_cons, Nat.add_comm, UInt64.ofNat_add,
        UInt64.add_assoc]
      rfl

theorem done_after (kind : KeyKind) (steps : List Step) :
    (after kind steps).done = UInt64.ofNat (recorded steps).length := by
  rw [after, done_foldl, start, UInt64.zero_add]

theorem toNat_done_after (kind : KeyKind) {steps : List Step}
    (fits : (recorded steps).length < UInt64.size) :
    (after kind steps).done.toNat = (recorded steps).length := by
  rw [done_after, UInt64.toNat_ofNat_of_lt' fits]

theorem set_foldl (steps : List Step) (tally : Tally) :
    (steps.foldl next tally).target = (steps.filterMap Step.version?).getLast?.or tally.target ∧
      (steps.foldl next tally).planned =
        (steps.filterMap Step.batches?).getLast?.getD tally.planned ∧
      (steps.foldl next tally).kind = tally.kind := by
  induction steps generalizing tally with
  | nil => simp
  | cons step steps ih =>
    rw [List.foldl_cons]
    obtain ⟨target, planned, kind⟩ := ih (tally.next step)
    rw [target, planned, kind]
    cases step with
    | target version =>
      simp [next, withTarget, Step.version?, Step.batches?, List.getLast?_cons]
    | planned batches =>
      simp [next, withPlanned, Step.version?, Step.batches?, List.getLast?_cons]
    | record outcome => simp [next, add, Step.version?, Step.batches?]

/-- What the report of any tally says, after every part of what was done to it. The totals are the
sums of what was counted, cut off at the largest word, and the batches are numbered as long as a
word can number them; target and plan are those set last. Other steps with the same batches, in
whatever order and with whatever set in between, leave the same totals, and none of them ever goes
down. -/
theorem totals_saturate_once (kind : KeyKind) (steps : List Step) (reason : Reason)
    (elapsed : Elapsed) :
    let report := fun steps => (after kind steps).report reason elapsed
    (∀ n, let part := steps.take n
      (report part).kind = kind ∧
      (report part).converted.toNat = min (UInt64.size - 1) (sum BatchOutcome.converted part) ∧
      (report part).failed.toNat = min (UInt64.size - 1) (sum BatchOutcome.failed part) ∧
      ((recorded part).length < UInt64.size →
        (report part).done.toNat = (recorded part).length) ∧
      (report part).target = (part.filterMap Step.version?).getLast? ∧
      (report part).planned = (part.filterMap Step.batches?).getLast?.getD 0) ∧
    (∀ others, (recorded others).Perm (recorded steps) →
      (report others).converted = (report steps).converted ∧
      (report others).failed = (report steps).failed ∧
      (report others).done = (report steps).done) ∧
    ∀ n, let part := steps.take n
      (report part).converted ≤ (report steps).converted ∧
      (report part).failed ≤ (report steps).failed ∧
      ((recorded steps).length < UInt64.size → (report part).done ≤ (report steps).done) := by
  intro report
  refine ⟨fun n => ?_, fun others same => ?_, fun n => ?_⟩
  · obtain ⟨target, planned, own⟩ := set_foldl (steps.take n) (start kind)
    exact ⟨own, totals_converted.toNat_after kind _, totals_failed.toNat_after kind _,
      toNat_done_after kind, target.trans (Option.or_none ..), planned⟩
  · have count : (after kind others).done = (after kind steps).done := by
      rw [done_after, done_after, same.length_eq]
    exact ⟨totals_converted.after_of_perm same, totals_failed.after_of_perm same, count⟩
  · refine ⟨totals_converted.after_take_le kind steps n, totals_failed.after_take_le kind steps n,
      fun fits => ?_⟩
    have fewer : (recorded (steps.take n)).length ≤ (recorded steps).length :=
      ((List.take_sublist n steps).filterMap Step.outcome?).length_le
    change (after kind (steps.take n)).done ≤ (after kind steps).done
    rw [UInt64.le_iff_toNat_le, toNat_done_after kind fits,
      toNat_done_after kind (Nat.lt_of_le_of_lt fewer fits)]
    exact fewer

/-- A tally whose first total is full after two of three batches, with its target set in between
and set again. -/
def overfull : List Step := [.record ⟨18446744073709551615, 1⟩, .target 3, .record ⟨5, 0⟩,
  .planned 3, .target 4, .record ⟨0, 2⟩]

theorem overfull_saturates :
    let report := fun steps => (after .kek steps).report .completed 0
    let reversed := (recorded overfull).reverse.map Step.record
    (recorded reversed).Perm (recorded overfull) ∧ (recorded overfull).length < UInt64.size ∧
      (report overfull).converted = 18446744073709551615 ∧ (report overfull).failed = 3 ∧
      (report overfull).done = 3 ∧ (report overfull).target = some 4 ∧
      (report reversed).converted = 18446744073709551615 ∧ (report reversed).target = none := by
  intro report reversed
  have same : (recorded reversed).Perm (recorded overfull) := by decide
  have fits : (recorded overfull).length < UInt64.size := by decide
  obtain ⟨parts, alike, -⟩ := totals_saturate_once .kek overfull .completed 0
  obtain ⟨-, converted, failed, done, target, -⟩ := parts 6
  have full : (report overfull).converted = 18446744073709551615 :=
    UInt64.toNat_inj.1 (converted.trans (by decide))
  exact ⟨same, fits, full, UInt64.toNat_inj.1 (failed.trans (by decide)),
    UInt64.toNat_inj.1 (done fits), target, (alike reversed same).1.trans full, rfl⟩

end KeyRotation.Tally
