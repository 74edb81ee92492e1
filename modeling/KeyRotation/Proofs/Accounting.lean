import KeyRotation.Proofs.Custody

/-! What the totals of a report stand for. A run that completes leaves exactly the failing
records behind, and its totals are numbers of records: none is missed, and none is counted by
two batches. -/
namespace KeyRotation

/-- A record off the target, in one of some batches. Those that are stuck fail, the others
are converted. -/
def Row.isOwed (failing : List RecordId) (target : KeyVersion) (batches : List Batch)
    (stuck : Bool) (row : Row) : Bool :=
  row.version != target && failing.contains row.id == stuck &&
    batches.any fun batch => decide (batch.Contains row.id)

def owed (failing : List RecordId) (target : KeyVersion) (batches : List Batch) (stuck : Bool)
    (rows : List Row) : Nat :=
  rows.countP (Row.isOwed failing target batches stuck)

namespace Row

variable {failing : List RecordId} {target : KeyVersion} {batch : Batch} {batches : List Batch}
  {stuck : Bool} {row : Row}

theorem isOwed_cons :
    row.isOwed failing target (batch :: batches) stuck =
      (row.isOwed failing target [batch] stuck || row.isOwed failing target batches stuck) := by
  simp [isOwed, Bool.and_or_distrib_left]

theorem isOwed_apart (apart : ∀ other ∈ batches, batch.Apart other)
    (inside : batch.Contains row.id) : row.isOwed failing target batches stuck = false := by
  have outside : batches.any (fun other => decide (other.Contains row.id)) = false := by
    simpa using fun other member => apart other member row.id inside
  simp [isOwed, outside]

theorem isOwed_settled (apart : ∀ other ∈ batches, batch.Apart other) :
    (row.settled failing target [batch]).isOwed failing target batches stuck =
      row.isOwed failing target batches stuck := by
  by_cases reached : row.Reached failing [batch]
  · have inside : batch.Contains row.id := by simpa using reached.1
    rw [settled_of_reached reached, isOwed_apart apart inside]
    exact isOwed_apart apart inside
  · rw [settled_of_not_reached reached]

end Row

section Owed

variable {failing : List RecordId} {target : KeyVersion} {batch : Batch} {batches : List Batch}

theorem owed_nil (stuck : Bool) (rows : List Row) : owed failing target [] stuck rows = 0 := by
  simp [owed, Row.isOwed]

/-- Batches that are apart count no record twice. -/
theorem owed_cons (apart : ∀ other ∈ batches, batch.Apart other) (stuck : Bool)
    (rows : List Row) :
    owed failing target (batch :: batches) stuck rows =
      owed failing target [batch] stuck rows + owed failing target batches stuck rows := by
  unfold owed
  induction rows with
  | nil => rfl
  | cons row rest ih =>
    simp only [List.countP_cons, ih]
    rw [Row.isOwed_cons]
    by_cases inside : batch.Contains row.id
    · simp [Row.isOwed_apart apart inside]
      omega
    · have outside : row.isOwed failing target [batch] stuck = false := by
        simp [Row.isOwed, inside]
      simp [outside]
      omega

/-- A batch leaves the other batches as much to count as before. -/
theorem owed_convert (apart : ∀ other ∈ batches, batch.Apart other) (stuck : Bool)
    (rows : List Row) :
    owed failing target batches stuck (Vault.convert failing batch target rows) =
      owed failing target batches stuck rows := by
  rw [Vault.convert_eq_map, owed, List.countP_map]
  exact List.countP_congr fun row _ => by rw [Function.comp_apply, Row.isOwed_settled apart]

theorem outcome_eq_owed (rows : List Row) :
    Vault.outcome failing batch target rows =
      ⟨UInt64.ofNatClamp (owed failing target [batch] false rows),
        UInt64.ofNatClamp (owed failing target [batch] true rows)⟩ := by
  simp only [Vault.outcome, owed, List.countP_filter]
  congr 2 <;>
    exact List.countP_congr fun row _ => by
      simp [Row.isOwed, Vault.isDue, and_assoc, and_comm, and_left_comm]

end Owed

namespace Vault

theorem keys_path {vault after : Vault} {events : List Event}
    (path : world.Path vault events after) : after.keys = vault.keys :=
  World.path_same keys (fun vault request => (vault.world_same request).1) path

theorem outcome_of_accepted {vault : Vault} {kind : KeyKind} {batch : Batch}
    {outcome : BatchOutcome} {target : KeyVersion} {rows : List Row}
    (answer : (world vault (.migrate kind batch)).1 = .ok outcome)
    (pinned : vault.store.target kind = .ok (some target))
    (table : vault.store.rows kind = some rows) :
    outcome = Vault.outcome vault.failing batch target rows := by
  rcases vault.moveBatch_cases kind batch with ⟨_, moved⟩ | ⟨current, found, published, held, moved⟩
  · simp [world, moved] at answer
  · obtain rfl : current = target := by simpa [published] using pinned
    obtain rfl : found = rows := by simpa [held] using table
    simpa [world, moved] using answer.symm

end Vault

/-- The loop's totals are numbers of records, as far as a word can count: those that the
batches it sent had to count when it began. -/
theorem Rounds.totals {task : Task} {limit : Option Elapsed} {started : Instant}
    {batches : List Batch} {tally total : Tally} {reason : Reason} {events : List Event}
    {vault after : Vault} {rows : List Row}
    (rounds : Rounds task limit started batches tally events (.ok (total, reason)))
    (path : Vault.world.Path vault events after) (apart : batches.Pairwise Batch.Apart)
    (table : vault.store.rows task.kind = some rows)
    (pinned : vault.store.target task.kind = .ok (some task.target)) :
    total.converted.toNat = min (UInt64.size - 1)
        (tally.converted.toNat + owed vault.failing task.target (accepted events) false rows) ∧
      total.failed.toNat = min (UInt64.size - 1)
        (tally.failed.toNat + owed vault.failing task.target (accepted events) true rows) := by
  generalize ended : Except.ok (total, reason) = result at rounds
  induction rounds generalizing vault rows with
  | @finished tally =>
    cases ended
    have converted := total.converted.toNat_lt_size
    have failed := total.failed.toNat_lt_size
    simp only [accepted, owed_nil]
    omega
  | refused | unread => cases ended
  | drifted | expired =>
    cases ended
    obtain ⟨answer, _⟩ := World.path_migrate.1 path
    rw [Vault.outcome_of_accepted answer pinned table, outcome_eq_owed]
    simp only [Tally.add, toNat_addCounts, toNat_ofNatClamp, accepted]
    omega
  | @onward batch rest tally outcome reading later result within rounds ih =>
    obtain ⟨answer, u, kept, fixed, published, path⟩ :=
      Vault.custody.next_round within.sent_eq path
    obtain ⟨disjoint, apart⟩ := List.pairwise_cons.1 apart
    have moved := (Vault.custody.settled_of_accepted answer pinned).rows
    have left : u.store.rows task.kind =
        some (Vault.convert vault.failing batch task.target rows) := by
      rw [Vault.convert_eq_map]
      exact ((congrArg (Store.rows · task.kind) kept).trans moved).trans (congrArg _ table)
    have failing : u.failing = vault.failing := fixed
    obtain ⟨converted, failed⟩ := ih path apart left published ended
    -- The later batches are apart from this one: to them its records are as they were.
    have others : ∀ other ∈ accepted later, batch.Apart other :=
      fun other member => disjoint other (rounds.accepted_prefix.subset member)
    rw [failing, owed_convert others, Vault.outcome_of_accepted answer pinned table,
      outcome_eq_owed] at converted failed
    simp only [Tally.add, toNat_addCounts, toNat_ofNatClamp] at converted failed
    simp only [accepted, accepted_append, accepted_eq_nil within.sent_eq, List.nil_append,
      owed_cons others]
    omega

theorem Rounds.published_of_completed {σ : Type} {world : World σ} (custody : Custody world)
    {task : Task} {limit : Option Elapsed} {started : Instant} {batches : List Batch}
    {tally total : Tally} {events : List Event} {s t : σ}
    (rounds : Rounds task limit started batches tally events (.ok (total, .completed)))
    (path : world.Path s events t)
    (pinned : (custody.store s).target task.kind = .ok (some task.target)) :
    (custody.store t).target task.kind = .ok (some task.target) := by
  generalize ended : Except.ok (total, Reason.completed) = result at rounds
  induction rounds generalizing s with
  | finished =>
    obtain rfl := path
    exact pinned
  | refused | unread | drifted | expired => cases ended
  | onward within rounds ih =>
    obtain ⟨_, u, _, _, published, path⟩ := custody.next_round within.sent_eq path
    exact ih path published ended

/-- A record once a run is through with its kind: only a failing one can be off the target. -/
def Row.converged (failing : List RecordId) (target : KeyVersion) (row : Row) : Row :=
  if row.id ∈ failing then row else { row with version := target }

theorem Row.settled_eq_converged {failing : List RecordId} {target : KeyVersion}
    {batches : List Batch} {row : Row}
    (covered : row.version ≠ target → ∃ batch ∈ batches, batch.Contains row.id) :
    row.settled failing target batches = row.converged failing target := by
  unfold converged
  by_cases fails : row.id ∈ failing
  · rw [if_pos fails, settled_of_not_reached fun reached => reached.2 fails]
  rw [if_neg fails]
  by_cases on : row.version = target
  · unfold settled
    split
    · rfl
    · rw [← on]
  · exact settled_of_reached ⟨covered on, fails⟩

theorem owed_of_covered {failing : List RecordId} {target : KeyVersion} {batches : List Batch}
    {rows : List Row} (stuck : Bool)
    (covered : ∀ row ∈ rows, row.version ≠ target → ∃ batch ∈ batches, batch.Contains row.id) :
    owed failing target batches stuck rows =
      rows.countP fun row => row.version != target && failing.contains row.id == stuck := by
  refine List.countP_congr fun row member => ?_
  have inside := covered row member
  simp only [Row.isOwed, Bool.and_eq_true, bne_iff_ne, List.any_eq_true, decide_eq_true_eq]
  exact ⟨fun held => held.1, fun off => ⟨off, inside off.1⟩⟩

/-- What a run that completes makes of a vault, and what it reports. -/
structure Converges (kind : KeyKind) (target : KeyVersion) (vault after : Vault)
    (rows : List Row) (report : Report) : Prop where
  ready : vault.keys.isReady kind target = true
  keys : after.keys = vault.keys
  failing : after.failing = vault.failing
  published : after.store.target kind = .ok (some target)
  left : after.store.rows kind = some (rows.map (Row.converged vault.failing target))
  others : ∀ other, other ≠ kind → after.store.rows other = vault.store.rows other
  converted : report.converted.toNat = min (UInt64.size - 1)
    (rows.countP fun row => row.version != target && !vault.failing.contains row.id)
  failed : report.failed.toNat = min (UInt64.size - 1)
    (rows.countP fun row => row.version != target && vault.failing.contains row.id)

theorem Vault.pending_of_opening {kind : KeyKind} {task : Task} {events : List Event}
    {vault after : Vault} (opening : Opening kind events (.ok (.ready task)))
    (path : world.Path vault events after) :
    vault.keys.isReady kind task.target = true ∧
      vault.store.pending kind task.target = .ok (some task.range) := by
  cases opening with
  | work ready =>
    simp only [World.Path, Event.of, Event.call, world, Event.status.injEq, Event.pending.injEq,
      Except.ok.injEq] at path
    obtain ⟨_, rfl, ⟨_, _, found⟩, _⟩ := path
    exact ⟨ready, found⟩

theorem converges_of_completed {kind : KeyKind} {settings : Settings}
    {order : List Batch → List Batch} (permutes : ∀ batches, (order batches).Perm batches)
    {vault after : Vault} {rows : List Row} {target : KeyVersion} {report : Report}
    (table : vault.store.rows kind = some rows)
    (published : vault.store.target kind = .ok (some target))
    (run : (migrate kind settings order).drive Vault.world vault = (.ok report, after))
    (completed : report.reason = .completed) : Converges kind target vault after rows report := by
  obtain ⟨task, t, resolves⟩ := ready_of_completed (congrArg Prod.fst run) completed
  obtain ⟨opening, later, ending, outcome, u, -, resolution, before, rounds, during, closing,
    finish⟩ := worked_trace settings order resolves
  obtain rfl := resolution.kind_eq
  have named := Vault.custody.published_of_opening resolution before
  obtain rfl : task.target = target := Option.some.inj (Except.ok.inj (named.symm.trans published))
  obtain ⟨ready, pending⟩ := Vault.pending_of_opening resolution before
  obtain ⟨(same : t.store = vault.store), (fixed : t.failing = vault.failing)⟩ :=
    Vault.custody.begun resolution before
  have whole := Session.path_trace Vault.world (migrate task.kind settings order) vault
  rw [run] at closing finish whole
  cases closing with | @reported total reason ended =>
  obtain rfl : reason = .completed := completed
  have last : after.store = u.store := Vault.custody.store_path rfl finish
  have pinned : t.store.target task.kind = .ok (some task.target) := by rw [same, published]
  have all := rounds.accepted_eq
  have still := rounds.published_of_completed Vault.custody during pinned
  have settled : Store.Settled task.kind t.failing task.target (accepted later) t.store u.store :=
    rounds.settled Vault.custody during pinned
  rw [all, same, fixed, ← last] at settled
  have partition := task.partition_batches settings order permutes
  have covered : ∀ row ∈ rows, row.version ≠ task.target →
      ∃ batch ∈ task.batches settings order, batch.Contains row.id := fun row member off =>
    (partition.covers row.id).2 (Store.contains_of_pending table pending member off)
  obtain ⟨converted, failed⟩ := rounds.totals during partition.apart (by rw [same, table]) pinned
  rw [fixed, all, owed_of_covered _ covered] at converted failed
  have left : after.store.rows task.kind =
      some (rows.map (Row.converged vault.failing task.target)) := by
    rw [settled.rows, table, Option.map_some]
    exact congrArg some
      (List.map_congr_left fun row member => Row.settled_eq_converged (covered row member))
  exact ⟨ready, Vault.keys_path whole, Vault.custody.failing_path whole, by rw [last]; exact still,
    left, settled.others, by simpa [Tally.report] using converted,
    by simpa [Tally.report] using failed⟩

theorem Vault.nothing_to_do {kind : KeyKind} {target : KeyVersion} {vault : Vault}
    {rows : List Row} (settings : Settings) (order : List Batch → List Batch)
    (ready : vault.keys.isReady kind target = true)
    (published : vault.store.target kind = .ok (some target))
    (table : vault.store.rows kind = some rows) (settled : ∀ row ∈ rows, row.version = target) :
    sent ((migrate kind settings order).trace world vault) = [] ∧
      ∃ elapsed after, after.store = vault.store ∧
        (migrate kind settings order).drive world vault =
          (.ok (((Tally.start kind).withTarget target).report .nothingToDo elapsed), after) := by
  have pending := (Store.pending_eq_none_iff table).2 settled
  have resolves : (resolve kind).drive world (world vault .now).2 =
      (.ok (.skip (some target) .nothingToDo), (world vault .now).2) := by
    simp [resolve, Session.drive, world, published, ready, pending]
  obtain ⟨idle, elapsed, ran⟩ := migrate_of_skip settings order resolves
  have kept := custody.store_path idle (Session.path_trace world _ vault)
  exact ⟨idle, elapsed, _, kept, Prod.ext ran rfl⟩

/-- A vault as a later run finds it. The clock has gone on, and someone else may be about to
publish another target. -/
structure Vault.Later (vault later : Vault) : Prop where
  store : later.store = vault.store
  keys : later.keys = vault.keys
  failing : later.failing = vault.failing

section Converged

variable {failing : List RecordId} {target : KeyVersion}

@[simp] theorem Row.converged_id (row : Row) : (row.converged failing target).id = row.id := by
  unfold converged
  split <;> rfl

theorem Row.converged_converged (row : Row) :
    (row.converged failing target).converged failing target = row.converged failing target := by
  by_cases fails : row.id ∈ failing <;> simp [converged, fails]

theorem filter_converged (rows : List Row) :
    (rows.map (Row.converged failing target)).filter (·.version != target) =
      rows.filter fun row => row.version != target && failing.contains row.id := by
  induction rows with
  | nil => rfl
  | cons row rest ih =>
    rw [List.map_cons, List.filter_cons, List.filter_cons, ih]
    by_cases fails : row.id ∈ failing <;> simp [Row.converged, fails]

theorem countP_moved (rows : List Row) :
    ((rows.zip (rows.map (Row.converged failing target))).countP
        fun (before, after) => before.version != after.version) =
      rows.countP fun row => row.version != target && !failing.contains row.id := by
  rw [← List.map_prod_left_eq_zip, List.countP_map]
  refine List.countP_congr fun row _ => ?_
  by_cases fails : row.id ∈ failing <;> simp [Row.converged, fails]

theorem countP_movable_converged (rows : List Row) :
    ((rows.map (Row.converged failing target)).countP
      fun row => row.version != target && !failing.contains row.id) = 0 := by
  rw [List.countP_map, List.countP_eq_zero]
  intro row _
  by_cases fails : row.id ∈ failing <;> simp [Row.converged, fails]

theorem countP_stuck_converged (rows : List Row) :
    ((rows.map (Row.converged failing target)).countP
        fun row => row.version != target && failing.contains row.id) =
      rows.countP fun row => row.version != target && failing.contains row.id := by
  rw [List.countP_map]
  refine List.countP_congr fun row _ => ?_
  by_cases fails : row.id ∈ failing <;> simp [Row.converged, fails]

theorem countP_movable_add_stuck (failing : List RecordId) (target : KeyVersion)
    (rows : List Row) :
    (rows.countP fun row => row.version != target && !failing.contains row.id) +
        (rows.countP fun row => row.version != target && failing.contains row.id) =
      rows.countP (·.version != target) := by
  rw [List.countP_eq_countP_filter_add rows (·.version != target)
    fun row => !failing.contains row.id]
  simp only [List.countP_filter, Bool.not_not]

end Converged

/-- What a completed run leaves behind, what its totals count, and what another run makes of
that. Of the records off the target only the failing ones are left; the totals are the numbers
of those that were moved and of those that were not. A later run finds nothing to do if none is
left; if it completes too, it moves nothing and fails as often. -/
theorem completed_run_converges (kind : KeyKind) (settings : Settings)
    (order : List Batch → List Batch) (permutes : ∀ batches, (order batches).Perm batches)
    {vault after : Vault} {rows : List Row} {target : KeyVersion} {report : Report}
    (table : vault.store.rows kind = some rows) (countable : rows.length < UInt64.size)
    (published : vault.store.target kind = .ok (some target))
    (run : (migrate kind settings order).drive Vault.world vault = (.ok report, after))
    (completed : report.reason = .completed) :
    ∃ left, after.store.rows kind = some left ∧
      left.map Row.id = rows.map Row.id ∧
      left.filter (·.version != target) =
        rows.filter (fun row => row.version != target && vault.failing.contains row.id) ∧
      report.converted.toNat =
        (rows.zip left).countP (fun (before, after) => before.version != after.version) ∧
      report.failed.toNat = left.countP (·.version != target) ∧
      report.converted.toNat + report.failed.toNat = rows.countP (·.version != target) ∧
      ∀ later : Vault, after.Later later → ∀ again shuffle,
        ((∀ row ∈ left, row.version = target) →
          sent ((migrate kind again shuffle).trace Vault.world later) = [] ∧
          ∃ elapsed last, last.store = after.store ∧
            (migrate kind again shuffle).drive Vault.world later =
              (.ok ⟨kind, some target, 0, 0, 0, 0, .nothingToDo, elapsed⟩, last)) ∧
        ((∀ batches, (shuffle batches).Perm batches) → ∀ second last,
          (migrate kind again shuffle).drive Vault.world later = (.ok second, last) →
          second.reason = .completed →
          second.converted = 0 ∧ second.failed = report.failed ∧
          ∀ each, last.store.rows each = after.store.rows each) := by
  have made := converges_of_completed permutes table published run completed
  have small : rows.countP (·.version != target) < UInt64.size :=
    Nat.lt_of_le_of_lt List.countP_le_length countable
  have parts := countP_movable_add_stuck vault.failing target rows
  have converted := made.converted
  have failed := made.failed
  refine ⟨_, made.left, ?_, filter_converged rows, ?_, ?_, ?_, ?_⟩
  · rw [List.map_map]
    exact List.map_congr_left fun row _ => Row.converged_id row
  · rw [countP_moved]
    omega
  · rw [List.countP_eq_length_filter, filter_converged, ← List.countP_eq_length_filter]
    omega
  · omega
  · intro later same again shuffle
    have failing : later.failing = vault.failing := same.failing.trans made.failing
    have ready : later.keys.isReady kind target = true := by
      rw [same.keys, made.keys, made.ready]
    have held : later.store.rows kind = some (rows.map (Row.converged vault.failing target)) := by
      rw [same.store, made.left]
    have named : later.store.target kind = .ok (some target) := by
      rw [same.store, made.published]
    refine ⟨fun settled => ?_, fun permutes second last run completed => ?_⟩
    · obtain ⟨idle, elapsed, last, kept, ran⟩ :=
        Vault.nothing_to_do again shuffle ready named held settled
      exact ⟨idle, elapsed, last, kept.trans same.store, ran⟩
    · have remade := converges_of_completed permutes held named run completed
      have moved := remade.converted
      have stuck := remade.failed
      rw [failing, countP_movable_converged] at moved
      rw [failing, countP_stuck_converged, ← failed] at stuck
      refine ⟨UInt64.toNat_inj.1 moved, UInt64.toNat_inj.1 stuck, fun each => ?_⟩
      by_cases same_kind : each = kind
      · subst same_kind
        rw [remade.left, made.left, failing, List.map_map]
        exact congrArg some (List.map_congr_left fun row _ => Row.converged_converged row)
      · rw [remade.others each same_kind, same.store]

/-- A vault that has two records off its target, one of which fails. -/
def Vault.halfStuck : Vault where
  store := {
    config := some [("KEK_TARGET_VERSION", .integer 7)]
    deks := some [⟨-3, 1, none⟩, ⟨2, 7, none⟩, ⟨5, 2, none⟩] }
  keys := KeyInventory.empty.insert .kek 7 ⟨true, true, none⟩
  failing := [5]

theorem halfStuck_converges :
    ∃ after left,
      (migrate .kek ⟨4, none, true, by decide⟩ List.reverse).drive Vault.world .halfStuck =
        (.ok ⟨.kek, some 7, 1, 1, 3, 3, .completed, 0⟩, after) ∧
      after.store.rows .kek = some left ∧ left.map Row.id = [-3, 2, 5] ∧
      left.filter (·.version != 7) = [⟨5, 2, none⟩] ∧ 1 = left.countP (·.version != 7) ∧
      ∀ second last, (migrate .kek ⟨1, none, false, by decide⟩ id).drive Vault.world after =
          (.ok second, last) → second.reason = .completed →
        second.converted = 0 ∧ second.failed = 1 ∧
        ∀ each, last.store.rows each = after.store.rows each := by
  have reported : ((migrate .kek ⟨4, none, true, by decide⟩ List.reverse).drive Vault.world
      .halfStuck).1 = .ok ⟨.kek, some 7, 1, 1, 3, 3, .completed, 0⟩ := by cbv
  have published : Vault.halfStuck.store.target .kek = .ok (some 7) := by cbv
  generalize ran : (migrate .kek ⟨4, none, true, by decide⟩ List.reverse).drive Vault.world
    .halfStuck = final at reported
  obtain ⟨_, after⟩ := final
  obtain rfl := reported
  obtain ⟨left, table, ids, stuck, -, failed, -, later⟩ := completed_run_converges .kek
    ⟨4, none, true, by decide⟩ List.reverse List.reverse_perm rfl (by decide) published ran rfl
  refine ⟨after, left, rfl, table, ids, stuck, failed, ?_⟩
  exact (later after ⟨rfl, rfl, rfl⟩ ⟨1, none, false, by decide⟩ id).2 fun batches => .refl batches

end KeyRotation
