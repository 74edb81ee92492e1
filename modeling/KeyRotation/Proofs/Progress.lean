import KeyRotation.Proofs.Steady

/-! Runs that are cut short still get on. Where the authority moves all records, a run sends
its first batch before it looks at the clock, and that batch begins at the first record off
the target. So each run leaves fewer of them, and after enough runs none is left. -/
namespace KeyRotation

def off (target : KeyVersion) (rows : List Row) : Nat :=
  rows.countP (·.version != target)

theorem off_eq_zero_iff {target : KeyVersion} {rows : List Row} :
    off target rows = 0 ↔ ∀ row ∈ rows, row.version = target := by
  simp [off, List.countP_eq_zero]

theorem off_append (target : KeyVersion) (first last : List Row) :
    off target (first ++ last) = off target first + off target last :=
  List.countP_append

theorem off_cons (target : KeyVersion) (row : Row) (rows : List Row) :
    off target (row :: rows) = off target rows + if row.version = target then 0 else 1 := by
  by_cases there : row.version = target <;> simp [off, there]

section Carry

variable {target : KeyVersion} {carry : Row → Row}
  (stays : ∀ row, row.version = target → (carry row).version = target)
include stays

theorem off_map_le (rows : List Row) : off target (rows.map carry) ≤ off target rows := by
  unfold off
  rw [List.countP_map]
  refine List.countP_mono_left fun row _ away => ?_
  simp only [Function.comp_apply, bne_iff_ne] at away ⊢
  exact mt (stays row) away

theorem off_map_lt {rows : List Row} {row : Row} (member : row ∈ rows)
    (was : row.version ≠ target) (moved : (carry row).version = target) :
    off target (rows.map carry) < off target rows := by
  obtain ⟨first, last, rfl⟩ := List.append_of_mem member
  have before := off_map_le stays first
  have after := off_map_le stays last
  rw [List.map_append, List.map_cons, off_append, off_append, off_cons, off_cons, if_pos moved,
    if_neg was]
  omega

end Carry

section Moves

variable {handle : Row → Handling} {target : KeyVersion}
  (moves : ∀ row, (handle row).version = target)
include moves

theorem Row.handled_cases (batches : List Batch) (row : Row) :
    row.handled handle batches = row ∨
      row.handled handle batches = { row with version := target } := by
  unfold handled
  split
  · exact .inr (by rw [moves])
  · exact .inl rfl

theorem Row.version_handled_of_there {batches : List Batch} {row : Row}
    (there : row.version = target) : (row.handled handle batches).version = target := by
  rcases row.handled_cases moves batches with same | moved
  · rw [same, there]
  · rw [moved]

end Moves

namespace Steady.Poised

variable {σ : Type} {world : World σ} {steady : Steady world} {kind : KeyKind}
  {target : KeyVersion} {rows : List Row} {s : σ} {range : IdRange} {settings : Settings}

/-- An ascending run has its first batch done, and with it the first record of the range. -/
theorem gets_on (poised : steady.Poised kind target rows s)
    (found : (steady.store s).pending kind target = .ok (some range))
    (ascending : settings.shuffle = false) (order : List Batch → List Batch) :
    let done := accepted ((migrate kind settings order).trace world s)
    (∃ report, ((migrate kind settings order).drive world s).1 = .ok report) ∧ done ≠ [] ∧
      steady.Poised kind target (rows.map (Row.handled (steady.handle s kind target) done))
        ((migrate kind settings order).drive world s).2 ∧
      ∀ row : Row, row.id = range.minId → row.isIn done = true := by
  rw [migrate_of_ascending kind ascending order]
  intro done
  obtain ⟨total, reason, elapsed, ran, worked, some, prefixed, -⟩ :=
    poised.runs_on found settings id fun batches => .refl batches
  refine ⟨⟨_, ran⟩, some, worked.poised poised (Session.path_trace world _ s), ?_⟩
  intro row first
  rw [Task.batches_of_ascending _ ascending] at prefixed
  obtain ⟨batch, rest, plan, inside⟩ := (range.chain_batches settings.batchSize).first
  have started : batch ∈ done := by
    obtain ⟨next, later, split⟩ := List.exists_cons_of_ne_nil some
    rw [plan, split, List.cons_prefix_cons] at prefixed
    simp [done, split, prefixed.1]
  rw [Row.isIn, List.any_eq_true]
  exact ⟨batch, started, by simpa [first] using inside⟩

/-- A further run leaves fewer records off the target, as long as there are any. -/
theorem next_run (poised : steady.Poised kind target rows s)
    (moves : ∀ row, (steady.handle s kind target row).version = target)
    (ascending : settings.shuffle = false) (order : List Batch → List Batch) :
    ∃ left, steady.Poised kind target left ((migrate kind settings order).drive world s).2 ∧
      off target left ≤ off target rows - 1 := by
  obtain ⟨pending, found⟩ := Store.pending_of_table poised.table target
  cases pending with
  | none =>
    have done := off_eq_zero_iff.2 ((Store.pending_eq_none_iff poised.table).1 found)
    have idle := (poised.runs_idle found settings order).1
    exact ⟨rows, poised.keep idle (Session.path_trace world _ s), by omega⟩
  | some range =>
    obtain ⟨-, -, next, reached⟩ := poised.gets_on found ascending order
    obtain ⟨row, member, away, first⟩ := (Store.ends_of_pending poised.table found).1
    refine ⟨_, next, Nat.le_sub_one_of_lt (off_map_lt ?_ member away ?_)⟩
    · exact fun row there => Row.version_handled_of_there moves there
    · rw [Row.handled_of_isIn (reached row first)]
      exact moves row

end Steady.Poised

def afterRuns {σ : Type} (world : World σ) (kind : KeyKind) (order : List Batch → List Batch)
    (runs : Nat → Settings) (s : σ) : Nat → σ
  | 0 => s
  | n + 1 => ((migrate kind (runs n) order).drive world (afterRuns world kind order runs s n)).2

theorem Steady.Poised.chain {σ : Type} {world : World σ} {steady : Steady world} {kind : KeyKind}
    {target : KeyVersion} {rows : List Row} {s : σ} {runs : Nat → Settings}
    (poised : steady.Poised kind target rows s)
    (moves : ∀ row, (steady.handle s kind target row).version = target)
    (ascending : ∀ n, (runs n).shuffle = false) (order : List Batch → List Batch) (n : Nat) :
    ∃ left, steady.Poised kind target left (afterRuns world kind order runs s n) ∧
      steady.handle (afterRuns world kind order runs s n) = steady.handle s ∧
      off target left ≤ off target rows - n := by
  induction n with
  | zero => exact ⟨rows, poised, rfl, Nat.le_refl _⟩
  | succ n ih =>
    obtain ⟨left, between, same, fewer⟩ := ih
    obtain ⟨last, after, less⟩ := between.next_run (same ▸ moves) (ascending n) order
    refine ⟨last, after, (Steady.handle_path (Session.path_trace world _ _)).trans same, ?_⟩
    omega

/-- Runs with a time limit get done, however short it is. A run that finds records off the
target has a batch of them done, and the first of them with it; none leaves the target. After
at most as many runs as there were such records none is left, and no further run does
anything. -/
theorem limited_runs_get_done {σ : Type} {world : World σ} (steady : Steady world)
    {kind : KeyKind} {target : KeyVersion} {rows : List Row} {s : σ}
    (poised : steady.Poised kind target rows s)
    (moves : ∀ row, (steady.handle s kind target row).version = target) :
    (∀ settings order, settings.shuffle = false → (∃ row ∈ rows, row.version ≠ target) →
      let after := (migrate kind settings order).drive world s
      ∃ report carry, after.1 = .ok report ∧
        accepted ((migrate kind settings order).trace world s) ≠ [] ∧
        (steady.store after.2).rows kind = some (rows.map carry) ∧
        (∀ row, carry row = row ∨ carry row = { row with version := target }) ∧
        (∀ row ∈ rows, row.version ≠ target →
          (∀ other ∈ rows, other.version ≠ target → row.id ≤ other.id) →
          (carry row).version = target) ∧
        (rows.map carry).countP (·.version != target) < rows.countP (·.version != target)) ∧
      (∀ runs order, (∀ n, (runs n).shuffle = false) →
        ∃ n ≤ rows.countP (·.version != target), ∀ m, n ≤ m →
          let reached := afterRuns world kind order runs s m
          (∃ left, (steady.store reached).rows kind = some left ∧
            ∀ row ∈ left, row.version = target) ∧
          sent ((migrate kind (runs m) order).trace world reached) = [] ∧
          ∃ elapsed, ((migrate kind (runs m) order).drive world reached).1 =
            .ok ⟨kind, some target, 0, 0, 0, 0, .nothingToDo, elapsed⟩) := by
  constructor
  · intro settings order ascending due after
    obtain ⟨pending, found⟩ := Store.pending_of_table poised.table target
    cases pending with
    | none =>
      obtain ⟨row, member, away⟩ := due
      exact absurd ((Store.pending_eq_none_iff poised.table).1 found row member) away
    | some range =>
      obtain ⟨⟨report, ran⟩, some, next, reached⟩ := poised.gets_on found ascending order
      obtain ⟨first, member, away, begins⟩ := (Store.ends_of_pending poised.table found).1
      have there : ∀ row : Row, row.id = range.minId → (Row.handled (steady.handle s kind target)
          (accepted ((migrate kind settings order).trace world s)) row).version = target := by
        intro row id
        rw [Row.handled_of_isIn (reached row id)]
        exact moves row
      refine ⟨report, _, ran, some, next.table, Row.handled_cases moves _, ?_, ?_⟩
      · intro row inside due least
        apply there
        apply Int64.le_antisymm
        · exact begins ▸ least first member away
        · exact (Store.contains_of_pending poised.table found inside due).1
      · exact off_map_lt (fun row there => Row.version_handled_of_there moves there) member away
          (there first begins)
  · intro runs order ascending
    refine ⟨off target rows, Nat.le_refl _, fun m enough => ?_⟩
    intro reached
    obtain ⟨left, poised, -, fewer⟩ := poised.chain moves ascending order m
    have done : ∀ row ∈ left, row.version = target := off_eq_zero_iff.1 (by omega)
    have found := (Store.pending_eq_none_iff poised.table).2 done
    obtain ⟨idle, -, elapsed, ran⟩ := poised.runs_idle found (runs m) order
    exact ⟨⟨left, poised.table, done⟩, idle, elapsed, ran⟩

/-- A vault with two records off its target, and a clock that never stands still. -/
def Vault.hurried : Vault where
  store := {
    config := some [("KEK_TARGET_VERSION", .integer 7)]
    deks := some [⟨-3, 1, none⟩, ⟨2, 7, none⟩, ⟨5, 2, none⟩] }
  keys := KeyInventory.empty.insert .kek 7 ⟨true, true, none⟩
  clock reading := reading

theorem hurried_gets_done :
    let rows : List Row := [⟨-3, 1, none⟩, ⟨2, 7, none⟩, ⟨5, 2, none⟩]
    let hurry : Settings := ⟨4, some 0, false, by decide⟩
    let first := (migrate .kek hurry id).drive Vault.world .hurried
    let reached (runs : Nat) := afterRuns Vault.world .kek id (fun _ => hurry) .hurried runs
    Vault.steady.Poised .kek 7 rows .hurried ∧
      (∀ row, (Vault.hurried.handle .kek 7 row).version = 7) ∧
      (∃ row ∈ rows, row.version ≠ 7) ∧
      (∃ report carry, first.1 = .ok report ∧ report.reason = .timeLimitReached ∧
        first.2.store.rows .kek = some (rows.map carry) ∧ (carry ⟨-3, 1, none⟩).version = 7 ∧
        (rows.map carry).countP (·.version != 7) < 2) ∧
      ∃ n ≤ 2, ∀ m, n ≤ m →
        (∃ left, (reached m).store.rows .kek = some left ∧ ∀ row ∈ left, row.version = 7) ∧
        ∃ elapsed, ((migrate .kek hurry id).drive Vault.world (reached m)).1 =
          .ok ⟨.kek, some 7, 0, 0, 0, 0, .nothingToDo, elapsed⟩ := by
  intro rows hurry first reached
  have poised : Vault.steady.Poised .kek 7 rows .hurried := by
    constructor
    · rfl
    · decide
    · cbv
    · rfl
  have moves : ∀ row, (Vault.hurried.handle .kek 7 row).version = 7 := fun _ => rfl
  have due : ∃ row ∈ rows, row.version ≠ 7 := by decide
  have ended : ((migrate .kek ⟨4, some 0, false, by decide⟩ id).drive Vault.world .hurried).1.map
      Report.reason = .ok .timeLimitReached := by cbv
  obtain ⟨progress, finish⟩ := limited_runs_get_done Vault.steady poised moves
  obtain ⟨report, carry, ran, -, table, -, least, fewer⟩ := progress hurry id rfl due
  obtain ⟨n, soon, done⟩ := finish (fun _ => hurry) id fun _ => rfl
  refine ⟨poised, moves, due, ⟨report, carry, ran, ?_, table, ?_, fewer⟩, n, soon, ?_⟩
  · rw [ran] at ended
    exact Except.ok.inj ended
  · exact least _ (by decide) (by decide) (by decide)
  · intro m later
    obtain ⟨left, -, elapsed, skipped⟩ := done m later
    exact ⟨left, elapsed, skipped⟩

end KeyRotation
