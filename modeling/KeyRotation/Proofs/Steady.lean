import Mathlib
import KeyRotation.Proofs.Breakdown
import KeyRotation.Proofs.Stopping
import KeyRotation.Vault

/-! Runs in a calm world: nobody else publishes a target, and the authority handles each record
of a batch on its own, whatever else is in the batch. Such a run leaves a report. What it makes
of the records, and what it counts, depends only on the records that its batches hold. -/
namespace KeyRotation

/-- What an authority makes of a record: the version it leaves it on, and whether it counts it
as converted or as failed. -/
structure Handling where
  version : KeyVersion
  converted : Bool
  failed : Bool
  deriving DecidableEq, Repr

/-- A record that is in one of some batches. -/
def Row.isIn (batches : List Batch) (row : Row) : Bool :=
  batches.any fun batch => decide (batch.Contains row.id)

def Row.handled (handle : Row → Handling) (batches : List Batch) (row : Row) : Row :=
  if row.isIn batches then { row with version := (handle row).version } else row

/-- The number of records in some batches that an authority counts in one way. -/
def counted (handle : Row → Handling) (counts : Handling → Bool) (batches : List Batch)
    (rows : List Row) : Nat :=
  rows.countP fun row => row.isIn batches && counts (handle row)

def outcomeOf (handle : Row → Handling) (batch : Batch) (rows : List Row) : BatchOutcome :=
  ⟨UInt64.ofNatClamp (counted handle Handling.converted [batch] rows),
    UInt64.ofNatClamp (counted handle Handling.failed [batch] rows)⟩

namespace Row

variable {handle : Row → Handling} {batch : Batch} {batches : List Batch} {row : Row}

theorem isIn_cons :
    row.isIn (batch :: batches) = (row.isIn [batch] || row.isIn batches) := by
  simp [isIn]

theorem isIn_eq_false (apart : ∀ other ∈ batches, batch.Apart other)
    (inside : row.isIn [batch] = true) : row.isIn batches = false := by
  have held : batch.Contains row.id := by simpa [isIn] using inside
  simpa [isIn] using fun other member => apart other member row.id held

@[simp] theorem id_handled : (row.handled handle batches).id = row.id := by
  unfold handled
  split <;> rfl

@[simp] theorem isIn_handled (others : List Batch) :
    (row.handled handle batches).isIn others = row.isIn others := by
  simp only [isIn, id_handled]

@[simp] theorem handled_nil (row : Row) : row.handled handle [] = row := rfl

theorem handled_of_isIn (inside : row.isIn batches = true) :
    row.handled handle batches = { row with version := (handle row).version } :=
  if_pos inside

theorem handled_of_not_isIn (outside : row.isIn batches = false) :
    row.handled handle batches = row :=
  if_neg (by simp [outside])

/-- Batches that are apart leave each other's records alone. -/
theorem handled_handled (apart : ∀ other ∈ batches, batch.Apart other) (row : Row) :
    (row.handled handle [batch]).handled handle batches =
      row.handled handle (batch :: batches) := by
  cases inside : row.isIn [batch] with
  | true =>
    have outside := isIn_eq_false apart inside
    rw [handled_of_not_isIn (by rw [isIn_handled, outside]), handled_of_isIn inside,
      handled_of_isIn (by rw [isIn_cons, inside, Bool.true_or])]
  | false =>
    rw [handled_of_not_isIn inside]
    unfold handled
    rw [isIn_cons, inside, Bool.false_or]

end Row

section Counted

variable {handle : Row → Handling} {counts : Handling → Bool} {batch : Batch}
  {batches : List Batch}

@[simp] theorem counted_nil (rows : List Row) : counted handle counts [] rows = 0 := by
  simp [counted, Row.isIn]

/-- Batches that are apart count each record once, also if the first one is done by then. -/
theorem counted_cons (apart : ∀ other ∈ batches, batch.Apart other) (rows : List Row) :
    counted handle counts (batch :: batches) rows =
      counted handle counts [batch] rows +
        counted handle counts batches (rows.map (Row.handled handle [batch])) := by
  unfold counted
  induction rows with
  | nil => rfl
  | cons row rest ih =>
    simp only [List.map_cons, List.countP_cons, ih, Row.isIn_handled]
    rw [Row.isIn_cons]
    cases inside : row.isIn [batch] with
    | true =>
      simp [Row.isIn_eq_false apart inside]
      omega
    | false =>
      simp [Row.handled_of_not_isIn inside]
      omega

end Counted

/-- A world whose authority handles each record on its own. While it is calm, nothing is
published, and only batches change the records. -/
structure Steady {σ : Type} (world : World σ) where
  calm : σ → Prop
  store : σ → Store
  keys : σ → KeyInventory
  handle : σ → KeyKind → KeyVersion → Row → Handling
  calm_next : ∀ s request, calm s → calm (world s request).2
  keys_same : ∀ s request, keys (world s request).2 = keys s
  handle_same : ∀ s request, handle (world s request).2 = handle s
  now : ∀ s, store (world s .now).2 = store s
  target : ∀ s kind, (world s (.target kind)).1 = (store s).target kind ∧
    store (world s (.target kind)).2 = store s
  status : ∀ s, (world s .status).1 = .ok (keys s) ∧ store (world s .status).2 = store s
  pending : ∀ s kind version,
    (world s (.pending kind version)).1 = (store s).pending kind version ∧
      store (world s (.pending kind version)).2 = store s
  handled : ∀ s kind batch target rows, calm s → (store s).target kind = .ok (some target) →
    (store s).rows kind = some rows →
    (world s (.migrate kind batch)).1 = .ok (outcomeOf (handle s kind target) batch rows) ∧
      store (world s (.migrate kind batch)).2 =
        (store s).setRows kind (rows.map (Row.handled (handle s kind target) [batch]))

/-- All is set for a run of a kind: its records are there, and its target is published and
ready. -/
structure Steady.Poised {σ : Type} {world : World σ} (steady : Steady world) (kind : KeyKind)
    (target : KeyVersion) (rows : List Row) (s : σ) : Prop where
  calm : steady.calm s
  ready : (steady.keys s).isReady kind target = true
  published : (steady.store s).target kind = .ok (some target)
  table : (steady.store s).rows kind = some rows

/-- What some batches made of a world, and of a tally. -/
structure Steady.Worked {σ : Type} {world : World σ} (steady : Steady world) (kind : KeyKind)
    (target : KeyVersion) (rows : List Row) (done : List Batch) (s t : σ) (tally total : Tally) :
    Prop where
  store : steady.store t =
    (steady.store s).setRows kind (rows.map (Row.handled (steady.handle s kind target) done))
  converted : total.converted.toNat = min (UInt64.size - 1)
    (tally.converted.toNat + counted (steady.handle s kind target) Handling.converted done rows)
  failed : total.failed.toNat = min (UInt64.size - 1)
    (tally.failed.toNat + counted (steady.handle s kind target) Handling.failed done rows)
  sameKind : total.kind = tally.kind
  sameTarget : total.target = tally.target

namespace Steady

variable {σ : Type} {world : World σ} {steady : Steady world} {kind : KeyKind}
  {target : KeyVersion} {rows : List Row} {s t : σ} {events : List Event}

theorem calm_path (path : world.Path s events t) (calm : steady.calm s) : steady.calm t :=
  World.path_invariant steady.calm steady.calm_next path calm

theorem keys_path (path : world.Path s events t) : steady.keys t = steady.keys s :=
  World.path_same steady.keys steady.keys_same path

theorem handle_path (path : world.Path s events t) : steady.handle t = steady.handle s :=
  World.path_same steady.handle steady.handle_same path

theorem store_path (reads : sent events = []) (path : world.Path s events t) :
    steady.store t = steady.store s := by
  refine World.path_reads steady.store ?_ reads path
  intro u request still
  cases request with
  | now => exact steady.now u
  | target => exact (steady.target u _).2
  | status => exact (steady.status u).2
  | pending => exact (steady.pending u _ _).2
  | migrate kind batch => exact absurd rfl (still kind batch)

theorem Poised.keep (poised : steady.Poised kind target rows s) (reads : sent events = [])
    (path : world.Path s events t) : steady.Poised kind target rows t where
  calm := calm_path path poised.calm
  ready := by rw [keys_path path, poised.ready]
  published := by rw [store_path reads path, poised.published]
  table := by rw [store_path reads path, poised.table]

theorem Poised.next (poised : steady.Poised kind target rows s) (batch : Batch) :
    (world s (.migrate kind batch)).1 = .ok (outcomeOf (steady.handle s kind target) batch rows) ∧
      steady.Poised kind target (rows.map (Row.handled (steady.handle s kind target) [batch]))
        (world s (.migrate kind batch)).2 := by
  obtain ⟨answer, moved⟩ :=
    steady.handled s kind batch target rows poised.calm poised.published poised.table
  refine ⟨answer, ?_⟩
  constructor
  · exact steady.calm_next s _ poised.calm
  · rw [steady.keys_same, poised.ready]
  · rw [moved, Store.target_setRows, poised.published]
  · rw [moved, Store.rows_setRows]

namespace Worked

variable {tally total : Tally} {batch : Batch} {done : List Batch}

theorem nil (poised : steady.Poised kind target rows s)
    (same : steady.store t = steady.store s) :
    steady.Worked kind target rows [] s t tally tally := by
  have converted := tally.converted.toNat_lt_size
  have failed := tally.failed.toNat_lt_size
  constructor
  · simp [same, funext Row.handled_nil, Store.setRows_self poised.table]
  · simp only [counted_nil]
    omega
  · simp only [counted_nil]
    omega
  · rfl
  · rfl

theorem after {u : σ} (reads : sent events = []) (path : world.Path s events u)
    (worked : steady.Worked kind target rows done u t tally total) :
    steady.Worked kind target rows done s t tally total := by
  have kept : steady.store u = steady.store s := store_path reads path
  have same : steady.handle u = steady.handle s := handle_path path
  obtain ⟨store, converted, failed, sameKind, sameTarget⟩ := worked
  rw [same] at store converted failed
  rw [kept] at store
  exact ⟨store, converted, failed, sameKind, sameTarget⟩

theorem before {u : σ} (worked : steady.Worked kind target rows done s u tally total)
    (reads : sent events = []) (path : world.Path u events t) :
    steady.Worked kind target rows done s t tally total :=
  ⟨(store_path reads path).trans worked.store, worked.converted, worked.failed, worked.sameKind,
    worked.sameTarget⟩

/-- One batch, and then others that are apart from it. -/
theorem cons (poised : steady.Poised kind target rows s)
    (apart : ∀ other ∈ done, batch.Apart other)
    (worked : steady.Worked kind target
      (rows.map (Row.handled (steady.handle s kind target) [batch])) done
      (world s (.migrate kind batch)).2 t
      (tally.add (outcomeOf (steady.handle s kind target) batch rows)) total) :
    steady.Worked kind target rows (batch :: done) s t tally total := by
  obtain ⟨store, converted, failed, sameKind, sameTarget⟩ := worked
  have moved :=
    (steady.handled s kind batch target rows poised.calm poised.published poised.table).2
  rw [steady.handle_same] at store converted failed
  simp only [Tally.add, toNat_addCounts, outcomeOf, toNat_ofNatClamp] at converted failed
  constructor
  · rw [store, moved, Store.setRows_setRows, List.map_map]
    congr 1
    exact List.map_congr_left fun row _ => Row.handled_handled apart row
  · rw [converted, counted_cons apart]
    omega
  · rw [failed, counted_cons apart]
    omega
  · exact sameKind
  · exact sameTarget

theorem poised (worked : steady.Worked kind target rows done s t tally total)
    (before : steady.Poised kind target rows s) (path : world.Path s events t) :
    steady.Poised kind target (rows.map (Row.handled (steady.handle s kind target) done)) t where
  calm := calm_path path before.calm
  ready := by rw [keys_path path, before.ready]
  published := by rw [worked.store, Store.target_setRows, before.published]
  table := by rw [worked.store, Store.rows_setRows]

end Worked

end Steady

/-- The loop in a calm world. It never meets a fault or another target; if it does not send
all its batches, its time is used up. -/
theorem Rounds.worked {σ : Type} {world : World σ} {steady : Steady world} {task : Task}
    {limit : Option Elapsed} {started : Instant} {batches : List Batch} {tally : Tally}
    {events : List Event} {result : Except Fault (Tally × Reason)} {rows : List Row} {s t : σ}
    (rounds : Rounds task limit started batches tally events result)
    (path : world.Path s events t) (poised : steady.Poised task.kind task.target rows s)
    (apart : batches.Pairwise Batch.Apart) :
    ∃ total reason, result = .ok (total, reason) ∧
      steady.Worked task.kind task.target rows (accepted events) s t tally total ∧
      (reason = .completed ∧ accepted events = batches ∨
        reason = .timeLimitReached ∧ limit.isSome = true) := by
  induction rounds generalizing s rows with
  | finished => exact ⟨_, _, rfl, .nil poised (Steady.store_path rfl path), .inl ⟨rfl, rfl⟩⟩
  | refused =>
    rw [World.path_migrate] at path
    simp [(poised.next _).1] at path
  | unread =>
    rw [World.path_migrate, World.path_target] at path
    simp [(steady.target _ _).1, (poised.next _).2.published] at path
  | drifted moved =>
    rw [World.path_migrate, World.path_target] at path
    obtain ⟨-, answer, -⟩ := path
    rw [(steady.target _ _).1, (poised.next _).2.published, Except.ok.injEq] at answer
    exact absurd answer.symm moved
  | expired limited spent =>
    rw [World.path_migrate] at path
    obtain ⟨answer, path⟩ := path
    obtain rfl := Except.ok.inj ((poised.next _).1.symm.trans answer)
    refine ⟨_, _, rfl, ?_, .inr ⟨rfl, by simp [limited]⟩⟩
    apply Steady.Worked.cons poised (List.forall_mem_nil _)
    exact .nil (poised.next _).2 (Steady.store_path rfl path)
  | @onward batch rest tally outcome reading later result within rounds ih =>
    rw [World.path_migrate, ← List.cons_append, World.path_append] at path
    obtain ⟨answer, u, check, path⟩ := path
    obtain rfl := Except.ok.inj ((poised.next _).1.symm.trans answer)
    obtain ⟨below, apart⟩ := List.pairwise_cons.1 apart
    have reads : sent (.target task.kind (.ok (some task.target)) :: reading) = [] := within.sent_eq
    obtain ⟨total, reason, ended, worked, why⟩ := ih path ((poised.next _).2.keep reads check) apart
    have joined := accepted_eq_nil within.sent_eq
    refine ⟨total, reason, ended, ?_, ?_⟩
    · simp only [accepted, accepted_append, joined, List.nil_append]
      refine .cons poised (fun other member => below other ?_) (worked.after reads check)
      exact rounds.accepted_prefix.subset member
    · simpa [joined] using why

namespace Steady.Poised

variable {σ : Type} {world : World σ} {steady : Steady world} {kind : KeyKind}
  {target : KeyVersion} {rows : List Row} {s : σ}

theorem now (poised : steady.Poised kind target rows s) :
    steady.Poised kind target rows (world s .now).2 := by
  have clock : world.Path s [.now (world s .now).1] (world s .now).2 := ⟨rfl, rfl⟩
  exact poised.keep rfl clock

theorem resolve_eq (poised : steady.Poised kind target rows s) {pending : Option IdRange}
    (found : (steady.store s).pending kind target = .ok pending) :
    ∃ t, (resolve kind).drive world s =
      (.ok (pending.elim (.skip (some target) .nothingToDo) fun range =>
        .ready ⟨kind, target, range⟩), t) := by
  have published := (steady.target s kind).1.trans poised.published
  have status := (steady.status (world s (.target kind)).2).1
  rw [steady.keys_same] at status
  have answer :=
    (steady.pending (world (world s (.target kind)).2 .status).2 kind target).1
  rw [(steady.status _).2, (steady.target s kind).2, found] at answer
  cases pending <;>
    simp [resolve, Session.drive, published, status, poised.ready, answer]

theorem runs_idle (poised : steady.Poised kind target rows s)
    (found : (steady.store s).pending kind target = .ok none) (settings : Settings)
    (order : List Batch → List Batch) :
    sent ((migrate kind settings order).trace world s) = [] ∧
      steady.store ((migrate kind settings order).drive world s).2 = steady.store s ∧
      ∃ elapsed, ((migrate kind settings order).drive world s).1 =
        .ok (((Tally.start kind).withTarget target).report .nothingToDo elapsed) := by
  rw [← steady.now s] at found
  obtain ⟨t, resolves⟩ := poised.now.resolve_eq found
  obtain ⟨idle, ran⟩ := migrate_of_skip settings order resolves
  exact ⟨idle, store_path idle (Session.path_trace world _ s), ran⟩

/-- A run that finds work to do leaves a report. It sends its first batch whatever the clock
says, and all of them if it has no time limit. -/
theorem runs_on (poised : steady.Poised kind target rows s) {range : IdRange}
    (found : (steady.store s).pending kind target = .ok (some range)) (settings : Settings)
    (order : List Batch → List Batch) (permutes : ∀ batches, (order batches).Perm batches) :
    let task : Task := ⟨kind, target, range⟩
    let done := accepted ((migrate kind settings order).trace world s)
    ∃ total reason elapsed,
      ((migrate kind settings order).drive world s).1 = .ok (total.report reason elapsed) ∧
      steady.Worked kind target rows done s ((migrate kind settings order).drive world s).2
        (task.tally settings order) total ∧
      done ≠ [] ∧ done <+: task.batches settings order ∧
      (reason = .completed ∧ done = task.batches settings order ∨
        reason = .timeLimitReached ∧ settings.timeLimit.isSome = true) := by
  intro task done
  rw [← steady.now s] at found
  obtain ⟨t, resolves⟩ := poised.now.resolve_eq found
  obtain ⟨opening, later, ending, outcome, u, split, resolution, before, rounds, during, closing,
    after⟩ := worked_trace settings order resolves
  have partition := task.partition_batches settings order permutes
  have joined : done = accepted later := by
    simp [done, split, accepted_eq_nil resolution.sent_eq, accepted_eq_nil closing.sent_eq]
  have begun := poised.now.keep resolution.sent_eq before
  obtain ⟨total, reason, rfl, worked, why⟩ := rounds.worked during begun partition.apart
  have begins : world.Path s (.now (world s .now).1 :: opening) t := ⟨rfl, before⟩
  have reads : sent (.now (world s .now).1 :: opening) = [] := resolution.sent_eq
  have whole := (worked.before closing.sent_eq after).after reads begins
  rw [joined]
  have some : accepted later ≠ [] :=
    rounds.faultless.sent_eq ▸ rounds.sent_ne_nil partition.nonempty
  generalize ((migrate kind settings order).drive world s).1 = result at closing ⊢
  cases closing
  exact ⟨total, reason, _, rfl, whole, some, rounds.accepted_prefix, why⟩

end Steady.Poised

namespace Vault

/-- A vault's authority moves what it can, and counts what was not on the target. -/
def handle (vault : Vault) (_kind : KeyKind) (target : KeyVersion) (row : Row) : Handling where
  version := if row.id ∈ vault.failing then row.version else target
  converted := row.version != target && !vault.failing.contains row.id
  failed := row.version != target && vault.failing.contains row.id

theorem convert_eq_handled (vault : Vault) (kind : KeyKind) (batch : Batch) (target : KeyVersion)
    (rows : List Row) :
    convert vault.failing batch target rows =
      rows.map (Row.handled (vault.handle kind target) [batch]) := by
  refine List.map_congr_left fun row _ => ?_
  obtain ⟨id, version, finishedAt⟩ := row
  by_cases inside : batch.Contains id <;> by_cases off : version = target <;>
    by_cases fails : id ∈ vault.failing <;>
    simp [isDue, Row.handled, Row.isIn, handle, inside, off, fails]

theorem outcome_eq_outcomeOf (vault : Vault) (kind : KeyKind) (batch : Batch)
    (target : KeyVersion) (rows : List Row) :
    outcome vault.failing batch target rows = outcomeOf (vault.handle kind target) batch rows := by
  simp only [outcome, outcomeOf, counted, List.countP_filter]
  congr 2 <;>
    exact List.countP_congr fun row _ => by
      simp [isDue, Row.isIn, handle, and_assoc, and_comm, and_left_comm]

/-- A vault is calm when nobody is about to publish a target. -/
def steady : Steady world where
  calm vault := vault.drift = none
  store := store
  keys := keys
  handle := handle
  calm_next vault request calm := (vault.world_same request).2.2.trans calm
  keys_same vault request := (vault.world_same request).1
  handle_same vault request := by
    unfold handle
    rw [(vault.world_same request).2.1]
  now := store_now
  target _ _ := ⟨rfl, rfl⟩
  status _ := ⟨rfl, rfl⟩
  pending _ _ _ := ⟨rfl, rfl⟩
  handled vault kind batch target rows calm published table := by
    simp only [world, moveBatch, published, table, outcome_eq_outcomeOf vault kind,
      convert_eq_handled vault kind, drifted, calm, and_self]

end Vault

end KeyRotation
