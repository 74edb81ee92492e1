import Mathlib
import KeyRotation.Proofs.Partition
import KeyRotation.Proofs.Steady
import KeyRotation.Store

/-! The records that are pending, and the batches they are in. A plan of the pending range has
each of them in one batch, with nothing in front of the first and nothing behind the last. The
size of the batches and their order are a matter of speed: two runs without a time limit make the
same of a store and count the same. -/
namespace KeyRotation

/-- Every pending record is planned exactly once. There is no range exactly when each record is
on the version. Otherwise both ends of the range are ids of pending records, and all of them
lie in it; in a plan of the range, whatever its order, one batch holds each of them, the lowest
batch begins at the least of them and the highest batch ends at the greatest. -/
theorem pending_rows_planned_once {store : Store} {kind : KeyKind} {rows : List Row}
    (table : store.rows kind = some rows) (version : KeyVersion) (size : UInt64)
    {shuffle : Option (List Batch → List Batch)}
    (permutes : ∀ order, shuffle = some order → ∀ batches, (order batches).Perm batches) :
    (store.pending kind version = .ok none ↔ ∀ row ∈ rows, row.version = version) ∧
    ((∃ row ∈ rows, row.version ≠ version) →
      ∃ range, store.pending kind version = .ok (some range) ∧
        (∃ row ∈ rows, row.version ≠ version ∧ row.id = range.minId) ∧
        (∃ row ∈ rows, row.version ≠ version ∧ row.id = range.maxId) ∧
        (∀ row ∈ rows, row.version ≠ version → range.Contains row.id) ∧
        let plan := (Plan.ofRange range size shuffle).toList
        (∀ row ∈ rows, row.version ≠ version →
          plan.countP (fun batch => decide (batch.Contains row.id)) = 1) ∧
        (∃ batch ∈ plan, batch.minId = range.minId ∧ batch.Contains range.minId ∧
          ∀ other ∈ plan, other ≠ batch → batch.minId < other.minId) ∧
        (∃ batch ∈ plan, batch.maxId = range.maxId ∧ batch.Contains range.maxId ∧
          ∀ other ∈ plan, other ≠ batch → other.maxId < batch.maxId)) := by
  refine ⟨Store.pending_eq_none_iff table, fun ⟨row, member, away⟩ => ?_⟩
  obtain ⟨pending, found⟩ := Store.pending_of_table table version
  cases pending with
  | none => exact absurd ((Store.pending_eq_none_iff table).1 found row member) away
  | some range =>
    have chain := range.chain_batches size
    have same := Plan.perm_toList range size permutes
    have partition := (range.partition_batches size).perm same
    have inside := @Store.contains_of_pending _ _ _ _ _ table found
    obtain ⟨first, among, begins, holds, least⟩ := chain.exists_least
    obtain ⟨last, within, ends, keeps, greatest⟩ := chain.exists_greatest
    obtain ⟨low, high⟩ := Store.ends_of_pending table found
    refine ⟨range, found, low, high, fun row => inside, fun row member away => ?_,
      ⟨first, same.mem_iff.2 among, begins, holds, fun other member apart => ?_⟩,
      ⟨last, same.mem_iff.2 within, ends, keeps, fun other member apart => ?_⟩⟩
    · exact partition.countP_contains (inside member away)
    · exact begins ▸ least other (same.mem_iff.1 member) apart
    · exact ends ▸ greatest other (same.mem_iff.1 member) apart

def Store.sparse : Store where
  deks := some [⟨-9, 7, none⟩, ⟨-3, 1, none⟩, ⟨0, 7, none⟩, ⟨2, 3, none⟩, ⟨5, 2, none⟩,
    ⟨8, 7, none⟩]

theorem sparse_planned_once :
    let range : IdRange := ⟨-3, 5, by decide⟩
    let plan := (Plan.ofRange range 4 (some List.reverse)).toList
    (∀ order, some List.reverse = some order → ∀ batches : List Batch,
        (order batches).Perm batches) ∧
      Store.sparse.pending .kek 7 = .ok (some range) ∧ plan = [⟨5, 5⟩, ⟨1, 4⟩, ⟨-3, 0⟩] ∧
      (∀ row ∈ [⟨-3, 1, none⟩, ⟨2, 3, none⟩, (⟨5, 2, none⟩ : Row)],
        plan.countP (fun batch => decide (batch.Contains row.id)) = 1) ∧
      (∃ batch ∈ plan, batch.minId = -3 ∧ ∀ other ∈ plan, other ≠ batch →
        batch.minId < other.minId) ∧
      ∃ batch ∈ plan, batch.maxId = 5 ∧ ∀ other ∈ plan, other ≠ batch →
        other.maxId < batch.maxId := by
  intro range plan
  have permutes : ∀ order, some List.reverse = some order → ∀ batches : List Batch,
      (order batches).Perm batches := fun order same => Option.some.inj same ▸ List.reverse_perm
  have found : Store.sparse.pending .kek 7 = .ok (some range) := by cbv
  obtain ⟨range', same, -, -, -, once, ⟨first, among, begins, -, least⟩,
      ⟨last, within, ends, -, greatest⟩⟩ :=
    (@pending_rows_planned_once Store.sparse .kek _ rfl 7 4 _ permutes).2
      ⟨⟨-3, 1, none⟩, by decide, by decide⟩
  obtain rfl : range = range' := by simpa [found] using same
  have batches : (Plan.ofRange ⟨-3, 5, by decide⟩ 4 (some List.reverse)).toList =
      [⟨5, 5⟩, ⟨1, 4⟩, ⟨-3, 0⟩] := by cbv
  refine ⟨permutes, found, batches, fun row member => ?_, ⟨first, among, begins, least⟩,
    ⟨last, within, ends, greatest⟩⟩
  simp only [List.mem_cons, List.not_mem_nil, or_false] at member
  rcases member with rfl | rfl | rfl <;> exact once _ (by decide) (by decide)

namespace Partition

variable {range : IdRange} {batches other : List Batch}

theorem isIn_eq (partition : Partition range batches) (row : Row) :
    row.isIn batches = decide (range.Contains row.id) := by
  rw [Row.isIn, Bool.eq_iff_iff, List.any_eq_true]
  simpa using partition.covers row.id

theorem handled_eq (partition : Partition range batches) (same : Partition range other)
    (handle : Row → Handling) : Row.handled handle batches = Row.handled handle other := by
  funext row
  simp only [Row.handled, partition.isIn_eq, same.isIn_eq]

theorem counted_eq (partition : Partition range batches) (same : Partition range other)
    (handle : Row → Handling) (counts : Handling → Bool) (rows : List Row) :
    counted handle counts batches rows = counted handle counts other rows := by
  simp only [counted, partition.isIn_eq, same.isIn_eq]

end Partition

section Unlimited

variable {σ : Type} {world : World σ} {steady : Steady world} {kind : KeyKind}
  {target : KeyVersion} {rows : List Row} {s : σ} {range : IdRange} {batches : List Batch}

/-- A run without a time limit completes. What it leaves and what it counts can be told from
any division of the range, whichever one it used. -/
theorem Steady.Poised.runs_whole (poised : steady.Poised kind target rows s)
    (found : (steady.store s).pending kind target = .ok (some range))
    (partition : Partition range batches) (settings : Settings)
    (unlimited : settings.timeLimit = none) (order : List Batch → List Batch)
    (permutes : ∀ batches, (order batches).Perm batches) :
    steady.store ((migrate kind settings order).drive world s).2 = (steady.store s).setRows kind
        (rows.map (Row.handled (steady.handle s kind target) batches)) ∧
      ∃ report, ((migrate kind settings order).drive world s).1 = .ok report ∧
        report.kind = kind ∧ report.target = some target ∧ report.reason = .completed ∧
        report.converted.toNat = min (UInt64.size - 1)
          (counted (steady.handle s kind target) Handling.converted batches rows) ∧
        report.failed.toNat = min (UInt64.size - 1)
          (counted (steady.handle s kind target) Handling.failed batches rows) := by
  obtain ⟨total, reason, elapsed, ran, worked, -, -, why⟩ :=
    poised.runs_on found settings order permutes
  have divides := Task.partition_batches ⟨kind, target, range⟩ settings order permutes
  rcases why with ⟨rfl, whole⟩ | ⟨-, limited⟩
  · rw [whole] at worked
    obtain ⟨store, converted, failed, sameKind, sameTarget⟩ := worked
    rw [divides.handled_eq partition] at store
    rw [divides.counted_eq partition, Task.converted_tally, UInt64.toNat_zero,
      Nat.zero_add] at converted
    rw [divides.counted_eq partition, Task.failed_tally, UInt64.toNat_zero,
      Nat.zero_add] at failed
    exact ⟨store, _, ran, sameKind, sameTarget, rfl, converted, failed⟩
  · simp [unlimited] at limited

end Unlimited

/-- Two runs that differ in the size of their batches and in the order they take them in leave
the same store behind. Their reports give the same reason, the same target and the same totals.
-/
theorem batching_does_not_change_outcome {σ : Type} {world : World σ} (steady : Steady world)
    {kind : KeyKind} {target : KeyVersion} {rows : List Row} {s : σ}
    (poised : steady.Poised kind target rows s) (one two : Settings)
    (unlimited : one.timeLimit = none) (unlimited' : two.timeLimit = none)
    (first second : List Batch → List Batch) (permutes : ∀ batches, (first batches).Perm batches)
    (permutes' : ∀ batches, (second batches).Perm batches) :
    let left := (migrate kind one first).drive world s
    let right := (migrate kind two second).drive world s
    steady.store left.2 = steady.store right.2 ∧
      ∃ a b, left.1 = .ok a ∧ right.1 = .ok b ∧ a.kind = b.kind ∧ a.reason = b.reason ∧
        a.target = b.target ∧ a.converted = b.converted ∧ a.failed = b.failed := by
  intro left right
  obtain ⟨pending, found⟩ := Store.pending_of_table poised.table target
  cases pending with
  | none =>
    obtain ⟨-, kept, elapsed, ran⟩ := poised.runs_idle found one first
    obtain ⟨-, kept', elapsed', ran'⟩ := poised.runs_idle found two second
    exact ⟨kept.trans kept'.symm, _, _, ran, ran', rfl, rfl, rfl, rfl, rfl⟩
  | some range =>
    have divided := range.partition_batches 1
    obtain ⟨kept, a, ran, kind, named, ended, converted, failed⟩ :=
      poised.runs_whole found divided one unlimited first permutes
    obtain ⟨kept', b, ran', kind', named', ended', converted', failed'⟩ :=
      poised.runs_whole found divided two unlimited' second permutes'
    refine ⟨kept.trans kept'.symm, a, b, ran, ran', ?_, ?_, ?_, ?_, ?_⟩
    · rw [kind, kind']
    · rw [ended, ended']
    · rw [named, named']
    · exact UInt64.toNat_inj.1 (converted.trans converted'.symm)
    · exact UInt64.toNat_inj.1 (failed.trans failed'.symm)

def Vault.scattered : Vault where
  store := {
    config := some [("KEK_TARGET_VERSION", .integer 7)]
    deks := some [⟨-3, 1, none⟩, ⟨2, 7, none⟩, ⟨4, 2, none⟩, ⟨5, 2, none⟩] }
  keys := KeyInventory.empty.insert .kek 7 ⟨true, true, none⟩
  failing := [5]

theorem scattered_batching :
    let rows : List Row := [⟨-3, 1, none⟩, ⟨2, 7, none⟩, ⟨4, 2, none⟩, ⟨5, 2, none⟩]
    let left := (migrate .kek ⟨4, none, true, by decide⟩ List.reverse).drive Vault.world .scattered
    let right := (migrate .kek ⟨1, none, false, by decide⟩ id).drive Vault.world .scattered
    Vault.steady.Poised .kek 7 rows .scattered ∧
      (∀ batches : List Batch, batches.reverse.Perm batches) ∧
      (∀ batches : List Batch, (id batches).Perm batches) ∧
      left.1 = .ok ⟨.kek, some 7, 2, 1, 3, 3, .completed, 0⟩ ∧
      left.2.store = right.2.store ∧
      ∃ report, right.1 = .ok report ∧ report.done = 9 ∧ report.reason = .completed ∧
        report.target = some 7 ∧ report.converted = 2 ∧ report.failed = 1 := by
  intro rows left right
  have poised : Vault.steady.Poised .kek 7 rows .scattered := by
    constructor
    · rfl
    · decide
    · cbv
    · rfl
  have coarse : ((migrate .kek ⟨4, none, true, by decide⟩ List.reverse).drive Vault.world
      .scattered).1 = .ok ⟨.kek, some 7, 2, 1, 3, 3, .completed, 0⟩ := by cbv
  have fine : ((migrate .kek ⟨1, none, false, by decide⟩ id).drive Vault.world
      .scattered).1.map Report.done = .ok 9 := by cbv
  obtain ⟨same, report, other, ran, ran', -, reason, target, converted, failed⟩ :=
    batching_does_not_change_outcome Vault.steady poised ⟨4, none, true, by decide⟩
      ⟨1, none, false, by decide⟩ rfl rfl List.reverse id List.reverse_perm .refl
  obtain rfl := Except.ok.inj (coarse.symm.trans ran)
  rw [ran'] at fine
  exact ⟨poised, List.reverse_perm, .refl, coarse, same, other, ran', Except.ok.inj fine,
    reason.symm, target.symm, converted.symm, failed.symm⟩

end KeyRotation
