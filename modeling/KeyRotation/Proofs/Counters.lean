import Mathlib
import KeyRotation.Proofs.Breakdown
import KeyRotation.Proofs.Stopping

/-! What a report counts. The batches it calls done are those that were accepted, and those it
calls planned are all of its plan, whatever their order. Their number is announced before the
first of them is sent, and is exact unless the plan covers every id there is. -/
namespace KeyRotation

theorem Tally.toNat_done_add {tally : Tally} (outcome : BatchOutcome)
    (fits : tally.done.toNat + 1 < UInt64.size) :
    (tally.add outcome).done.toNat = tally.done.toNat + 1 := by
  rw [add, UInt64.toNat_add]
  exact Nat.mod_eq_of_lt fits

namespace Rounds

variable {task : Task} {limit : Option Elapsed} {started : Instant} {batches : List Batch}
  {tally total : Tally} {reason : Reason} {events : List Event}

/-- The loop adds up the batches that were accepted, and leaves the rest of the tally alone. -/
theorem counts
    (rounds : Rounds task limit started batches tally events (.ok (total, reason)))
    (fits : tally.done.toNat + batches.length < UInt64.size) :
    total.done.toNat = tally.done.toNat + (accepted events).length ∧
      total.planned = tally.planned ∧ total.target = tally.target := by
  generalize ended : Except.ok (total, reason) = result at rounds
  induction rounds with
  | finished =>
    cases ended
    exact ⟨rfl, rfl, rfl⟩
  | refused | unread => cases ended
  | drifted | expired =>
    cases ended
    rw [List.length_cons] at fits
    exact ⟨Tally.toNat_done_add _ (by omega), rfl, rfl⟩
  | @onward batch rest tally outcome reading later result within rounds ih =>
    rw [List.length_cons] at fits
    have next : (tally.add outcome).done.toNat = tally.done.toNat + 1 :=
      Tally.toNat_done_add outcome (by omega)
    obtain ⟨done, planned, target⟩ := ih (by omega) ended
    refine ⟨?_, planned, target⟩
    simp only [accepted, accepted_append, accepted_eq_nil within.sent_eq, List.nil_append,
      List.length_cons]
    omega

end Rounds

/-- What the counters of a report stand for. A run that finds no work counts nothing. A run
whose range is not every id there is reports the size of its plan, the same in any order, and
the number of batches that were accepted, which is at least one; it is all of them when the run
completes, and when it is fewer the run was stopped. -/
theorem report_counts_planned_and_accepted {σ : Type} (world : World σ) (kind : KeyKind)
    (settings : Settings) (order : List Batch → List Batch)
    (permutes : ∀ batches, (order batches).Perm batches) {s : σ} {report : Report}
    (run : ((migrate kind settings order).drive world s).1 = .ok report) :
    let events := (migrate kind settings order).trace world s
    let found := ((resolve kind).drive world (world s .now).2).1
    ((∀ task, found ≠ .ok (.ready task)) →
      report.planned = 0 ∧ report.done = 0 ∧ report.converted = 0 ∧ report.failed = 0) ∧
    ∀ task, found = .ok (.ready task) → ¬task.range.Whole →
      1 ≤ report.done ∧ report.done ≤ report.planned ∧
      report.done.toNat = (accepted events).length ∧
      report.planned.toNat = (task.batches settings order).length ∧
      (∀ shuffle other, (∀ batches : List Batch, (other batches).Perm batches) →
        (task.batches { settings with shuffle } other).length = report.planned.toNat) ∧
      (report.reason = .completed → report.done = report.planned) ∧
      (report.done < report.planned →
        report.reason = .versionDrifted ∨ report.reason = .timeLimitReached) ∧
      report.target = some task.target := by
  intro events found
  refine ⟨fun idle => ?_, fun task ready part => ?_⟩
  · rcases resolves : (resolve kind).drive world (world s .now).2 with
      ⟨fault | task | ⟨target, reason⟩, t⟩
    · simp [(unresolved_trace settings order resolves).2] at run
    · exact absurd (congrArg Prod.fst resolves) (idle task)
    · obtain rfl := Except.ok.inj ((skipped_trace settings order resolves).2.symm.trans run)
      exact ⟨rfl, rfl, rfl, rfl⟩
  · obtain ⟨opening, later, ending, outcome, u, split, resolution, -, rounds, -, closing, -⟩ :=
      worked_trace settings order (Prod.ext ready rfl)
    rw [run] at closing
    cases closing with | @reported total reason ended =>
    have size := task.toNat_length_plan part settings order permutes
    have fits : (task.batches settings order).length < UInt64.size :=
      size ▸ UInt64.toNat_lt_size _
    have zero : (task.tally settings order).done.toNat = 0 := rfl
    obtain ⟨done, planned, target⟩ := rounds.counts (by rwa [zero, Nat.zero_add])
    rw [zero, Nat.zero_add] at done
    replace planned : total.planned.toNat = (task.batches settings order).length :=
      (congrArg UInt64.toNat planned).trans size
    have same : accepted events = accepted later := by
      simp [events, split, accepted_eq_nil resolution.sent_eq]
    have begun : 0 < (accepted later).length := by
      rw [← rounds.faultless.sent_eq]
      exact List.length_pos_of_ne_nil (rounds.sent_ne_nil
        (task.partition_batches settings order permutes).nonempty)
    have within := rounds.accepted_prefix.length_le
    refine ⟨?_, ?_, same ▸ done, planned, fun shuffle other permutes' => ?_, fun completed => ?_,
      fun fewer => ?_, target⟩
    · rw [UInt64.le_iff_toNat_le, UInt64.toNat_one]
      exact done ▸ begun
    · rw [UInt64.le_iff_toNat_le]
      exact done ▸ planned ▸ within
    · exact ((task.batches_perm { settings with shuffle } other permutes').trans
        (task.batches_perm settings order permutes).symm).length_eq.trans planned.symm
    · obtain rfl : reason = .completed := completed
      exact UInt64.toNat_inj.1 (done.trans ((congrArg List.length rounds.accepted_eq).trans
        planned.symm))
    · rcases rounds.accepted_eq_or_stopped with whole | stopped
      · refine absurd (UInt64.lt_iff_toNat_lt.1 fewer) ?_
        exact Nat.not_lt.2 (planned ▸ done ▸ whole ▸ Nat.le_refl _)
      · exact stopped

theorem movedLate_counts :
    let settings : Settings := ⟨4, some 6, true, by decide⟩
    let task : Task := ⟨.kek, 7, ⟨-3, 5, by decide⟩⟩
    let report : Report := ⟨.kek, some 7, 5, 0, 3, 2, .versionDrifted, 6⟩
    let events := (migrate .kek settings List.reverse).trace Script.world movedLate
    (∀ batches : List Batch, batches.reverse.Perm batches) ∧
      ((migrate .kek settings List.reverse).drive Script.world movedLate).1 = .ok report ∧
      ((resolve .kek).drive Script.world (Script.world movedLate .now).2).1 =
        .ok (.ready task) ∧
      ¬task.range.Whole ∧
      2 = (accepted events).length ∧ 3 = (task.batches settings List.reverse).length ∧
      (task.batches { settings with shuffle := false } id).length = 3 := by
  intro settings task report events
  have run : ((migrate .kek settings List.reverse).drive Script.world movedLate).1 =
      .ok report := by cbv
  have found : ((resolve .kek).drive Script.world (Script.world movedLate .now).2).1 =
      .ok (.ready task) := by cbv
  have part : ¬task.range.Whole := by decide
  obtain ⟨-, -, done, planned, same, -⟩ := (report_counts_planned_and_accepted Script.world .kek
    settings List.reverse List.reverse_perm run).2 task found part
  exact ⟨List.reverse_perm, run, found, part, done, planned, same false id List.Perm.refl⟩

end KeyRotation
