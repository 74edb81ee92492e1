import KeyRotation.Proofs.Stopping

/-! What the reason in a report tells of the plan. A run that leaves batches of its plan always
says that it ended early. So does a run that has sent all of them, if the check after the last
one, at which there is nothing left to stop, finds the target moved or the time used up. -/
namespace KeyRotation

theorem length_checks {σ : Type} (world : World σ) (kind : KeyKind) (limit : Option Elapsed)
    (started : Instant) (batches : List Batch) (s : σ) :
    (checks world kind limit started batches s).length = batches.length := by
  induction batches generalizing s with
  | nil => rfl
  | cons batch rest ih => simp [checks, ih]

theorem getElem_notMem_take {α : Type} {list : List α} (distinct : list.Nodup) {n : Nat}
    (inside : n < list.length) : list[n] ∉ list.take n := by
  intro taken
  have dropped : list[n] ∈ list.drop n := by
    rw [List.drop_eq_getElem_cons inside]
    exact List.mem_cons_self
  exact List.disjoint_take_drop distinct (Nat.le_refl n) taken dropped

namespace Rounds

variable {σ : Type} {world : World σ} {task : Task} {limit : Option Elapsed} {started : Instant}
  {batches : List Batch} {tally after : Tally} {reason : Reason} {events : List Event} {s t : σ}

/-- The loop ends early at the first check that stops it, and only there. -/
theorem isEarly_iff (rounds : Rounds task limit started batches tally events (.ok (after, reason)))
    (path : world.Path s events t) :
    reason.isEarly = true ↔
      ∃ check ∈ checks world task.kind limit started batches s,
        check.stops task.target limit = true := by
  rw [(rounds.sent_eq path).2, ← List.find?_isSome]
  cases (checks world task.kind limit started batches s).find? (Check.stops task.target limit) with
  | none => simp [Reason.isEarly]
  | some check =>
    by_cases still : check.target = some task.target <;> simp [still, Reason.isEarly]

theorem left_iff (rounds : Rounds task limit started batches tally events (.ok (after, reason)))
    (path : world.Path s events t) (distinct : batches.Nodup) :
    (∃ batch ∈ batches, batch ∉ sent events) ↔
      ∃ check ∈ (checks world task.kind limit started batches s).dropLast,
        check.stops task.target limit = true := by
  have sends := (rounds.sent_eq path).1
  have size := length_checks world task.kind limit started batches s
  generalize checks world task.kind limit started batches s = told at *
  cases first : told.findIdx? (Check.stops task.target limit) with
  | none =>
    have passes := List.findIdx?_eq_none_iff.1 first
    simp only [first] at sends
    have none_left : ¬∃ batch ∈ batches, batch ∉ sent events := by simp [sends]
    refine iff_of_false none_left ?_
    rintro ⟨check, member, halts⟩
    simp [passes check (List.mem_of_mem_dropLast member)] at halts
  | some k =>
    obtain ⟨inside, halts, least⟩ := List.findIdx?_eq_some_iff_getElem.1 first
    simp only [first] at sends
    rw [sends]
    constructor
    · rintro ⟨batch, member, unsent⟩
      have later : k + 1 < batches.length := by
        by_contra short
        rw [List.take_of_length_le (Nat.not_lt.1 short)] at unsent
        exact unsent member
      have early : k < told.dropLast.length := by rw [List.length_dropLast]; omega
      refine ⟨told.dropLast[k], List.getElem_mem early, ?_⟩
      rwa [List.getElem_dropLast]
    · rintro ⟨check, member, stops⟩
      obtain ⟨i, early, rfl⟩ := List.getElem_of_mem member
      rw [List.getElem_dropLast] at stops
      rw [List.length_dropLast] at early
      have order : k ≤ i := Nat.le_of_not_lt fun below => least i below stops
      have later : k + 1 < batches.length := by omega
      exact ⟨batches[k + 1], List.getElem_mem later, getElem_notMem_take distinct later⟩

end Rounds

/-- What an early end tells of the plan. A report names one if a batch of the plan was never
sent; it also does if all of them were, but the check after the last one says to stop. -/
theorem isEarly_iff_left_or_stopped_at_end {σ : Type} (world : World σ) (kind : KeyKind)
    (settings : Settings) (order : List Batch → List Batch)
    (permutes : ∀ batches, (order batches).Perm batches) {s t : σ} {task : Task} {report : Report}
    (resolves : (resolve kind).drive world (world s .now).2 = (.ok (.ready task), t))
    (run : ((migrate kind settings order).drive world s).1 = .ok report) :
    let events := (migrate kind settings order).trace world s
    let plan := task.batches settings order
    let told := checks world kind settings.timeLimit (world s .now).1 plan t
    sent events <+: plan ∧
      (report.reason.isEarly = true ↔
        (∃ batch ∈ plan, batch ∉ sent events) ∨
          ∃ check, told.getLast? = some check ∧
            check.stops task.target settings.timeLimit = true) := by
  intro events plan told
  obtain ⟨opening, later, ending, outcome, u, split, resolution, -, rounds, during, closing, -⟩ :=
    worked_trace settings order resolves
  obtain rfl : task.kind = kind := resolution.kind_eq
  have partition := task.partition_batches settings order permutes
  have same : sent events = sent later := by
    simp [events, split, resolution.sent_eq, closing.sent_eq]
  rw [run] at closing
  cases closing
  refine ⟨same ▸ rounds.sent_prefix, ?_⟩
  rw [same, rounds.left_iff during partition.nodup]
  refine (rounds.isEarly_iff during).trans ?_
  have filled : told ≠ [] := by
    have size := length_checks world task.kind settings.timeLimit (world s .now).1 plan t
    exact List.ne_nil_of_length_pos (size ▸ List.length_pos_of_ne_nil partition.nonempty)
  rw [List.getLast?_eq_some_getLast filled]
  change (∃ check ∈ told, _) ↔ (∃ check ∈ told.dropLast, _) ∨ _
  conv_lhs => rw [← List.dropLast_concat_getLast filled]
  simp [or_and_right, exists_or]

theorem movedLate_isEarly :
    let settings : Settings := ⟨4, some 6, true, by decide⟩
    let task : Task := ⟨.kek, 7, ⟨-3, 5, by decide⟩⟩
    let begun := { movedLate with targets := [.ok (some 7), .ok (some 8)] }
    (∀ batches : List Batch, batches.reverse.Perm batches) ∧
      (resolve .kek).drive Script.world (Script.world movedLate .now).2 =
        (.ok (.ready task), begun) ∧
      ((migrate .kek settings List.reverse).drive Script.world movedLate).1 =
        .ok ⟨.kek, some 7, 5, 0, 3, 2, .versionDrifted, 6⟩ ∧
      [⟨5, 5⟩, ⟨1, 4⟩] <+: task.batches settings List.reverse ∧
      (Reason.versionDrifted.isEarly = true ↔
        (∃ batch ∈ task.batches settings List.reverse, batch ∉ [⟨5, 5⟩, ⟨1, 4⟩]) ∨
          ∃ check, (some ⟨some 8, 11⟩ : Option Check) = some check ∧
            check.stops 7 (some 6) = true) := by
  intro settings task begun
  have resolves : (resolve .kek).drive Script.world (Script.world movedLate .now).2 =
      (.ok (.ready task), begun) := by cbv
  have reported : ((migrate .kek settings List.reverse).drive Script.world movedLate).1 =
      .ok ⟨.kek, some 7, 5, 0, 3, 2, .versionDrifted, 6⟩ := by cbv
  have sends : sent ((migrate .kek settings List.reverse).trace Script.world movedLate) =
      [⟨5, 5⟩, ⟨1, 4⟩] := by cbv
  have told : (checks Script.world .kek (some 6) 0 (task.batches settings List.reverse)
      begun).getLast? = some ⟨some 8, 11⟩ := by cbv
  have tells := isEarly_iff_left_or_stopped_at_end Script.world .kek settings List.reverse
    List.reverse_perm resolves reported
  exact ⟨List.reverse_perm, resolves, reported, told ▸ sends ▸ tells⟩

/-- A run whose time is used up by its last batch. -/
def spentAtEnd : Script where
  targets := [.ok (some 7)]
  statuses := [.ok (KeyInventory.empty.insert .kek 7 ⟨true, true, none⟩)]
  ranges := [.ok (IdRange.of? 1 2)]
  costs := [5]

theorem spentAtEnd_isEarly :
    let settings : Settings := ⟨1, some 10, false, by decide⟩
    let task : Task := ⟨.kek, 7, ⟨1, 2, by decide⟩⟩
    (resolve .kek).drive Script.world (Script.world spentAtEnd .now).2 =
        (.ok (.ready task), spentAtEnd) ∧
      ∃ report, ((migrate .kek settings id).drive Script.world spentAtEnd).1 = .ok report ∧
        report.reason = .timeLimitReached ∧
        ¬(report.reason.isEarly = true ↔
          ∃ batch ∈ task.batches settings id,
            batch ∉ sent ((migrate .kek settings id).trace Script.world spentAtEnd)) := by
  intro settings task
  have reported : ((migrate .kek settings id).drive Script.world spentAtEnd).1 =
      .ok ⟨.kek, some 7, 2, 0, 2, 2, .timeLimitReached, 10⟩ := by cbv
  have whole : sent ((migrate .kek settings id).trace Script.world spentAtEnd) =
      task.batches settings id := by cbv
  refine ⟨by cbv, _, reported, rfl, ?_⟩
  rw [whole]
  rintro ⟨left, -⟩
  obtain ⟨batch, member, unsent⟩ := left rfl
  exact unsent member

end KeyRotation
