import Mathlib
import KeyRotation.Proofs.Course
import KeyRotation.Vault

/-! What a run does to the records. The target is read again between any two batches, so
every batch is moved to the target the run began with, whatever is published meanwhile. -/
namespace KeyRotation

/-- How a world keeps a store. Reading leaves it as it is. A batch that is refused changes
nothing. One that is accepted moves what is due, but for the failing ids, to the target
published at that moment; afterwards anything may be published instead. -/
structure Custody {σ : Type} (world : World σ) where
  store : σ → Store
  failing : σ → List RecordId
  failing_same : ∀ s request, failing (world s request).2 = failing s
  now : ∀ s, store (world s .now).2 = store s
  status : ∀ s, store (world s .status).2 = store s
  pending : ∀ s kind version, store (world s (.pending kind version)).2 = store s
  target : ∀ s kind, store (world s (.target kind)).2 = store s
  published : ∀ s kind current, (world s (.target kind)).1 = .ok current →
    (store s).target kind = .ok current
  refused : ∀ s kind batch fault, (world s (.migrate kind batch)).1 = .error fault →
    store (world s (.migrate kind batch)).2 = store s
  moved : ∀ s kind batch outcome, (world s (.migrate kind batch)).1 = .ok outcome →
    ∃ target rows, (store s).target kind = .ok (some target) ∧ (store s).rows kind = some rows ∧
      ∀ other, (store (world s (.migrate kind batch)).2).rows other =
        ((store s).setRows kind (Vault.convert (failing s) batch target rows)).rows other

def Row.Reached (failing : List RecordId) (done : List Batch) (row : Row) : Prop :=
  (∃ batch ∈ done, batch.Contains row.id) ∧ row.id ∉ failing

instance (failing : List RecordId) (done : List Batch) (row : Row) :
    Decidable (row.Reached failing done) :=
  inferInstanceAs (Decidable (_ ∧ _))

/-- A row once some batches are done. -/
def Row.settled (failing : List RecordId) (target : KeyVersion) (done : List Batch) (row : Row) :
    Row :=
  if row.Reached failing done then { row with version := target } else row

/-- A row before some batches were done, and after. -/
structure Row.Carried (failing : List RecordId) (target : KeyVersion) (done : List Batch)
    (before after : Row) : Prop where
  id : after.id = before.id
  finishedAt : after.finishedAt = before.finishedAt
  version : after.version = before.version ∨ after.version = target
  moved : after.version = target ↔
    before.version = target ∨ (∃ batch ∈ done, batch.Contains before.id) ∧ before.id ∉ failing

namespace Row

variable {failing : List RecordId} {target : KeyVersion} {first second done : List Batch}
  {row : Row}

theorem reached_append :
    row.Reached failing (first ++ second) ↔
      row.Reached failing first ∨ row.Reached failing second := by
  simp only [Reached, List.mem_append, or_and_right, exists_or]

theorem settled_of_reached (reached : row.Reached failing done) :
    row.settled failing target done = { row with version := target } :=
  if_pos reached

theorem settled_of_not_reached (still : ¬row.Reached failing done) :
    row.settled failing target done = row :=
  if_neg still

theorem settled_nil (row : Row) : row.settled failing target [] = row :=
  settled_of_not_reached (by simp [Reached])

theorem settled_append (row : Row) :
    (row.settled failing target first).settled failing target second =
      row.settled failing target (first ++ second) := by
  by_cases early : row.Reached failing first
  · rw [settled_of_reached early, settled_of_reached (reached_append.2 (.inl early))]
    unfold settled
    split <;> rfl
  · rw [settled_of_not_reached early]
    simp only [settled, reached_append, early, false_or]

theorem carried_settled (failing : List RecordId) (target : KeyVersion) (done : List Batch)
    (row : Row) : Carried failing target done row (row.settled failing target done) := by
  by_cases reached : row.Reached failing done
  · rw [settled_of_reached reached]
    exact ⟨rfl, rfl, .inr rfl, iff_of_true rfl (.inr reached)⟩
  · rw [settled_of_not_reached reached]
    exact ⟨rfl, rfl, .inl rfl, (or_iff_left reached).symm⟩

end Row

theorem Vault.convert_eq_map (failing : List RecordId) (batch : Batch) (target : KeyVersion)
    (rows : List Row) :
    convert failing batch target rows = rows.map (Row.settled failing target [batch]) := by
  refine List.map_congr_left fun row _ => ?_
  by_cases off : row.version = target
  · obtain ⟨id, version, finishedAt⟩ := row
    obtain rfl := off
    simp [Row.settled]
  · simp [isDue, Row.settled, Row.Reached, off]

/-- A store before some batches of a kind were done, and after. -/
structure Store.Settled (kind : KeyKind) (failing : List RecordId) (target : KeyVersion)
    (done : List Batch) (before after : Store) : Prop where
  others : ∀ other, other ≠ kind → after.rows other = before.rows other
  rows : after.rows kind = (before.rows kind).map (List.map (Row.settled failing target done))

namespace Store.Settled

variable {kind : KeyKind} {failing : List RecordId} {target : KeyVersion}
  {first second : List Batch} {before between after : Store}

theorem nil (same : after = before) : Settled kind failing target [] before after where
  others _ _ := by rw [same]
  rows := by simp [same, funext Row.settled_nil]

theorem append (left : Settled kind failing target first before between)
    (right : Settled kind failing target second between after) :
    Settled kind failing target (first ++ second) before after where
  others other apart := (right.others other apart).trans (left.others other apart)
  rows := by
    rw [right.rows, left.rows]
    cases before.rows kind with
    | none => rfl
    | some rows => simp [funext Row.settled_append, Function.comp_def]

end Store.Settled

namespace Custody

variable {σ : Type} {world : World σ} (custody : Custody world)

theorem failing_path {events : List Event} {s t : σ} (path : world.Path s events t) :
    custody.failing t = custody.failing s :=
  World.path_same custody.failing custody.failing_same path

/-- Only a batch changes the store. -/
theorem store_path {events : List Event} {s t : σ} (reads : sent events = [])
    (path : world.Path s events t) : custody.store t = custody.store s := by
  refine World.path_reads custody.store ?_ reads path
  intro u request still
  cases request with
  | now => exact custody.now u
  | target => exact custody.target u _
  | status => exact custody.status u
  | pending => exact custody.pending u _ _
  | migrate kind batch => exact absurd rfl (still kind batch)

theorem begun {kind : KeyKind} {events : List Event} {result : Except Fault Resolution} {s t : σ}
    (opening : Opening kind events result) (path : world.Path (world s .now).2 events t) :
    custody.store t = custody.store s ∧ custody.failing t = custody.failing s :=
  ⟨(custody.store_path opening.sent_eq path).trans (custody.now s),
    (custody.failing_path path).trans (custody.failing_same s .now)⟩

theorem published_of_opening {kind : KeyKind} {task : Task} {events : List Event} {s t : σ}
    (opening : Opening kind events (.ok (.ready task))) (path : world.Path s events t) :
    (custody.store s).target kind = .ok (some task.target) := by
  cases opening
  exact custody.published _ _ _ (World.path_target.1 path).1

theorem settled_of_accepted {kind : KeyKind} {batch : Batch} {outcome : BatchOutcome}
    {target : KeyVersion} {s : σ} (answer : (world s (.migrate kind batch)).1 = .ok outcome)
    (pinned : (custody.store s).target kind = .ok (some target)) :
    Store.Settled kind (custody.failing s) target [batch] (custody.store s)
      (custody.store (world s (.migrate kind batch)).2) := by
  obtain ⟨current, rows, published, table, moved⟩ := custody.moved s kind batch outcome answer
  obtain rfl : current = target := by simpa [published] using pinned
  refine ⟨fun other apart => ?_, ?_⟩
  · rw [moved, Store.rows_setRows_of_ne _ apart]
  · rw [moved, Store.rows_setRows, table, Vault.convert_eq_map]
    rfl

/-- Between two batches only the target may have been published anew, and what is read of it
is what the next batch will find. -/
theorem next_round {kind : KeyKind} {batch : Batch} {outcome : BatchOutcome}
    {target : KeyVersion} {reading later : List Event} {s t : σ} (reads : sent reading = [])
    (path : world.Path s
      (.migrate kind batch (.ok outcome) :: .target kind (.ok (some target)) ::
        (reading ++ later)) t) :
    (world s (.migrate kind batch)).1 = .ok outcome ∧
      ∃ u, custody.store u = custody.store (world s (.migrate kind batch)).2 ∧
        custody.failing u = custody.failing s ∧
        (custody.store u).target kind = .ok (some target) ∧ world.Path u later t := by
  obtain ⟨answer, path⟩ := World.path_migrate.1 path
  obtain ⟨read, path⟩ := World.path_target.1 path
  obtain ⟨u, clock, path⟩ := World.path_append.1 path
  have kept := (custody.store_path reads clock).trans (custody.target _ _)
  have fixed := (custody.failing_path clock).trans (custody.failing_same _ _)
  refine ⟨answer, u, kept, fixed.trans (custody.failing_same _ _), ?_, path⟩
  rw [kept]
  exact custody.published _ _ _ read

end Custody

/-- Batch after batch is moved to the target the loop began with: whatever is published
after a batch, the next one is sent only once that target was read again. -/
theorem Rounds.settled {σ : Type} {world : World σ} (custody : Custody world) {task : Task}
    {limit : Option Elapsed} {started : Instant} {batches : List Batch} {tally : Tally}
    {events : List Event} {result : Except Fault (Tally × Reason)} {s t : σ}
    (rounds : Rounds task limit started batches tally events result)
    (path : world.Path s events t)
    (pinned : (custody.store s).target task.kind = .ok (some task.target)) :
    Store.Settled task.kind (custody.failing s) task.target (accepted events) (custody.store s)
      (custody.store t) := by
  -- Each round begins with the run's own target published; a check that passes hands this on.
  induction rounds generalizing s with
  | finished => exact .nil (custody.store_path rfl path)
  | refused =>
    obtain ⟨answer, rfl⟩ := World.path_migrate.1 path
    exact .nil (custody.refused _ _ _ _ answer)
  | unread | drifted | expired =>
    obtain ⟨answer, path⟩ := World.path_migrate.1 path
    exact (custody.settled_of_accepted answer pinned).append (.nil (custody.store_path rfl path))
  | onward within rounds ih =>
    obtain ⟨answer, u, kept, fixed, published, path⟩ := custody.next_round within.sent_eq path
    have still := ih path published
    rw [kept, fixed] at still
    have whole := (custody.settled_of_accepted answer pinned).append still
    simpa [accepted_eq_nil within.sent_eq] using whole

def Vault.custody : Custody Vault.world where
  store := Vault.store
  failing := Vault.failing
  failing_same vault request := by
    cases request with
    | migrate kind batch =>
      rcases vault.moveBatch_cases kind batch with ⟨_, moved⟩ | ⟨_, _, _, _, moved⟩ <;>
        simp only [world, moved]
    | now | target | status | pending => rfl
  now _ := rfl
  status _ := rfl
  pending _ _ _ := rfl
  target _ _ := rfl
  published _ _ _ answer := answer
  refused vault kind batch fault answer := by
    rcases vault.moveBatch_cases kind batch with ⟨_, moved⟩ | ⟨_, _, _, _, moved⟩
    · simp only [world, moved]
    · simp [world, moved] at answer
  moved vault kind batch outcome answer := by
    rcases vault.moveBatch_cases kind batch with
      ⟨_, moved⟩ | ⟨target, rows, published, table, moved⟩
    · simp [world, moved] at answer
    · refine ⟨target, rows, published, table, fun other => ?_⟩
      simp only [world, moved, rows_drifted]

theorem Custody.settled_of_ready {σ : Type} {world : World σ} (custody : Custody world)
    {kind : KeyKind} {s t : σ} {task : Task} (settings : Settings)
    (order : List Batch → List Batch)
    (resolves : (resolve kind).drive world (world s .now).2 = (.ok (.ready task), t)) :
    (custody.store s).target kind = .ok (some task.target) ∧
      Store.Settled kind (custody.failing s) task.target
        (accepted ((migrate kind settings order).trace world s)) (custody.store s)
        (custody.store ((migrate kind settings order).drive world s).2) := by
  obtain ⟨opening, later, ending, outcome, u, split, resolution, before, rounds, during, closing,
    after⟩ := worked_trace settings order resolves
  obtain rfl := resolution.kind_eq
  have published := custody.published_of_opening resolution before
  rw [custody.now s] at published
  obtain ⟨same, fixed⟩ := custody.begun resolution before
  have settled := rounds.settled custody during (by rw [same, published])
  rw [same, fixed, ← custody.store_path closing.sent_eq after] at settled
  refine ⟨published, ?_⟩
  simpa [split, accepted_eq_nil resolution.sent_eq, accepted_eq_nil closing.sent_eq] using settled

/-- What a run leaves of the records, be it with a report or with a fault. The other kind is
untouched. A run that finds no work changes nothing at all; any other run carries each record
along, to the target that was published when it began, and only by a batch that was accepted. -/
theorem migrate_keeps_to_pinned_target {σ : Type} {world : World σ} (custody : Custody world)
    (kind : KeyKind) (settings : Settings) (order : List Batch → List Batch) (s : σ) :
    let before := custody.store s
    let after := custody.store ((migrate kind settings order).drive world s).2
    let done := accepted ((migrate kind settings order).trace world s)
    let found := ((resolve kind).drive world (world s .now).2).1
    (∀ other, other ≠ kind → after.rows other = before.rows other) ∧
      (∀ task, found = .ok (.ready task) →
        before.target kind = .ok (some task.target) ∧
        ∃ carry, (∀ row, Row.Carried (custody.failing s) task.target done row (carry row)) ∧
          after.rows kind = (before.rows kind).map (List.map carry)) ∧
      ((∀ task, found ≠ .ok (.ready task)) →
        ∀ each, after.rows each = before.rows each) := by
  intro before after done found
  have unchanged (idle : ∀ task, found ≠ .ok (.ready task)) (each : KeyKind) :
      after.rows each = before.rows each :=
    congrArg (Store.rows · each) (custody.store_path (sent_trace_of_idle settings order idle)
      (Session.path_trace world (migrate kind settings order) s))
  have settled (task : Task) (ready : found = .ok (.ready task)) :=
    custody.settled_of_ready settings order (Prod.ext ready rfl)
  refine ⟨fun other apart => ?_, fun task ready => ?_, unchanged⟩
  · by_cases ready : ∃ task, found = .ok (.ready task)
    · obtain ⟨task, ready⟩ := ready
      exact (settled task ready).2.others other apart
    · exact unchanged (not_exists.1 ready) other
  · obtain ⟨published, settled⟩ := settled task ready
    exact ⟨published, _, Row.carried_settled _ _ _, settled.rows⟩

/-- A vault with a failing record, whose target moves after the second of three batches. -/
def Vault.movedMeanwhile : Vault where
  store := {
    config := some [("KEK_TARGET_VERSION", .integer 7)]
    deks := some [⟨-3, 1, none⟩, ⟨2, 3, none⟩, ⟨5, 2, none⟩] }
  keys := KeyInventory.empty.insert .kek 7 ⟨true, true, none⟩
  failing := [-3]
  drift := some (2, .integer 8)

theorem movedMeanwhile_keeps :
    ((resolve .kek).drive Vault.world (Vault.world .movedMeanwhile .now).2).1 =
        .ok (.ready ⟨.kek, 7, ⟨-3, 5, by decide⟩⟩) ∧
      ∃ carry, (∀ row, Row.Carried [-3] 7 [⟨-3, 0⟩, ⟨1, 4⟩] row (carry row)) ∧
        some [⟨-3, 1, none⟩, ⟨2, 7, none⟩, ⟨5, 2, none⟩] =
          (some [⟨-3, 1, none⟩, ⟨2, 3, none⟩, ⟨5, 2, none⟩]).map (List.map carry) := by
  have found : ((resolve .kek).drive Vault.world (Vault.world .movedMeanwhile .now).2).1 =
      .ok (.ready ⟨.kek, 7, ⟨-3, 5, by decide⟩⟩) := by cbv
  have done : accepted ((migrate .kek ⟨4, none, false, by decide⟩ id).trace Vault.world
      .movedMeanwhile) = [⟨-3, 0⟩, ⟨1, 4⟩] := by cbv
  have left : ((migrate .kek ⟨4, none, false, by decide⟩ id).drive Vault.world
      .movedMeanwhile).2.store.rows .kek =
        some [⟨-3, 1, none⟩, ⟨2, 7, none⟩, ⟨5, 2, none⟩] := by cbv
  have kept := ((migrate_keeps_to_pinned_target Vault.custody .kek ⟨4, none, false, by decide⟩ id
    .movedMeanwhile).2.1 _ found).2
  exact ⟨found, left ▸ done ▸ kept⟩

end KeyRotation
