import Mathlib
import KeyRotation.Proofs.Accounting
import KeyRotation.Proofs.Confinement
import KeyRotation.Proofs.Overlap
import KeyRotation.Proofs.Progress

/-! Runs of one kind that overlap. Each works from a range that was pending when it began, while
the others move records of this range too. As a batch counts just the records it moves, and none
leaves the target, nothing is counted twice and nothing is left out. -/
namespace KeyRotation

/-- A world whose records of a kind are moved to a target by batches and by nothing else. While
it holds, that target stays published, and a batch that is accepted moves the records in it that
are off the target, and counts them. Any call may be refused. -/
structure Commons {σ : Type} (world : World σ) (kind : KeyKind) (target : KeyVersion) where
  holds : σ → Prop
  rows : σ → List Row
  keeps : ∀ s request, holds s → holds (world s request).2
  reads : ∀ s request, holds s → (∀ batch, request ≠ .migrate kind batch) →
    rows (world s request).2 = rows s
  published : ∀ s current, holds s → (world s (.target kind)).1 = .ok current →
    current = some target
  pending : ∀ s range, holds s → (world s (.pending kind target)).1 = .ok range →
    range = Store.extent (((rows s).filter (·.version != target)).map (·.id))
  refused : ∀ s batch fault, holds s → (world s (.migrate kind batch)).1 = .error fault →
    rows (world s (.migrate kind batch)).2 = rows s
  moved : ∀ s batch outcome, holds s → (world s (.migrate kind batch)).1 = .ok outcome →
    rows (world s (.migrate kind batch)).2 = Vault.convert [] batch target (rows s) ∧
      outcome.converted.toNat = (rows s).countP (Vault.isDue batch target)

def changed (before after : List Row) : Nat :=
  (before.zip after).countP fun pair => pair.1.version != pair.2.version

section Records

variable {target : KeyVersion}

theorem countP_isDue_add_off (batch : Batch) (rows : List Row) :
    rows.countP (Vault.isDue batch target) + off target (Vault.convert [] batch target rows) =
      off target rows := by
  rw [Vault.convert_eq_map]
  induction rows with
  | nil => rfl
  | cons row rest ih =>
    rw [List.countP_cons, List.map_cons, off_cons, off_cons]
    by_cases inside : batch.Contains row.id
    · rw [Row.settled_of_reached ⟨by simpa using inside, by simp⟩]
      by_cases there : row.version = target <;> simp [Vault.isDue, inside, there] <;> omega
    · rw [Row.settled_of_not_reached (by simp [Row.Reached, inside])]
      simp only [Vault.isDue, inside, decide_false, Bool.false_and, Bool.false_eq_true, if_false]
      omega

/-- Records that change are off the target before and on it afterwards. -/
theorem changed_add_off {carry : Row → Row}
    (carries : ∀ row, carry row = row ∨ carry row = { row with version := target })
    (rows : List Row) :
    changed rows (rows.map carry) + off target (rows.map carry) = off target rows := by
  unfold changed
  induction rows with
  | nil => rfl
  | cons row rest ih =>
    rw [List.map_cons, List.zip_cons_cons, List.countP_cons, off_cons, off_cons]
    rcases carries row with same | moved
    · simp only [same, bne_self_eq_false, Bool.false_eq_true, if_false]
      omega
    · by_cases there : row.version = target <;> simp [moved, there] <;> omega

theorem Row.settled_cases (failing : List RecordId) (target : KeyVersion) (done : List Batch)
    (row : Row) :
    row.settled failing target done = row ∨
      row.settled failing target done = { row with version := target } := by
  unfold settled
  split
  · exact .inr rfl
  · exact .inl rfl

end Records

namespace Commons

variable {σ : Type} {world : World σ} {kind : KeyKind} {target : KeyVersion}
  (commons : Commons world kind target)

theorem step {s : σ} (holds : commons.holds s) {event : Event}
    (answer : Event.of event.call (world s event.call).1 = event)
    (concerns : event.call.Concerns kind) :
    commons.rows (world s event.call).2 =
        (commons.rows s).map (Row.settled [] target (accepted [event])) ∧
      event.converted + off target (commons.rows (world s event.call).2) =
        off target (commons.rows s) := by
  cases event with
  | now | target | status | pending =>
    rw [commons.reads s _ holds]
    · simp [Event.converted, funext Row.settled_nil]
    · simp [Event.call]
  | migrate other batch reply =>
    obtain rfl := concerns
    replace answer : (world s (.migrate other batch)).1 = reply := (Event.migrate.inj answer).2.2
    cases reply with
    | error fault =>
      have same := commons.refused s batch fault holds answer
      simp [Event.call, same, Event.converted, funext Row.settled_nil]
    | ok outcome =>
      obtain ⟨moved, counted⟩ := commons.moved s batch outcome holds answer
      refine ⟨moved.trans (Vault.convert_eq_map ..), ?_⟩
      rw [Event.converted, counted, Event.call, moved]
      exact countP_isDue_add_off batch _

theorem holds_path {events : List Event} {s t : σ} (path : world.Path s events t)
    (holds : commons.holds s) : commons.holds t :=
  World.path_invariant commons.holds commons.keeps path holds

theorem path {events : List Event} {s t : σ} (path : world.Path s events t)
    (holds : commons.holds s) (concerns : ∀ event ∈ events, event.call.Concerns kind) :
    commons.rows t = (commons.rows s).map (Row.settled [] target (accepted events)) ∧
      (events.map Event.converted).sum + off target (commons.rows t) =
        off target (commons.rows s) := by
  induction events generalizing s with
  | nil =>
    obtain rfl := path
    simp [funext Row.settled_nil]
  | cons event rest ih =>
    obtain ⟨answer, path⟩ := path
    obtain ⟨first, later⟩ := List.forall_mem_cons.1 concerns
    obtain ⟨moved, counted⟩ := commons.step holds answer first
    obtain ⟨rows, total⟩ := ih path (commons.keeps s _ holds) later
    constructor
    · have whole : accepted (event :: rest) = accepted [event] ++ accepted rest :=
        accepted_append [event] rest
      rw [rows, moved, List.map_map, whole]
      simp only [Row.settled_append, Function.comp_def]
    · rw [List.map_cons, List.sum_cons]
      omega

end Commons

namespace Shared

variable {ι σ α : Type} [DecidableEq ι] {world : World σ} {kind : KeyKind}
  {shared : Shared ι σ α}

theorem confined_advance (confined : ∀ who, (shared.runs who).Confined kind) (turn : Turn ι σ)
    (who : ι) : ((shared.advance world turn).runs who).Confined kind := by
  rcases shared.advance_cases world turn with
    ⟨-, same, -⟩ | ⟨other, request, resume, -, next, -, moved, -⟩
  · rw [same]
    exact confined who
  · rw [moved, Function.update_apply]
    split
    · have whole := confined other
      rw [next] at whole
      exact whole.2.2 _
    · exact confined who

theorem confined_after (confined : ∀ who, (shared.runs who).Confined kind)
    (turns : List (Turn ι σ)) : ∀ who, ((shared.after world turns).runs who).Confined kind := by
  induction turns generalizing shared with
  | nil => exact confined
  | cons turn rest ih => exact ih (confined_advance confined turn)

theorem concerns_moments (confined : ∀ who, (shared.runs who).Confined kind)
    (turns : List (Turn ι σ)) :
    ∀ event ∈ (shared.moments world turns).map Moment.event, event.call.Concerns kind := by
  refine List.forall_mem_map.2 fun moment member => ?_
  obtain ⟨more, result, ends⟩ := ((shared.after world turns).runs moment.who).exists_runs
  refine (confined moment.who).concerns_of_runs (runs_own ends) _ (List.mem_append_left _ ?_)
  exact List.mem_map_of_mem (List.mem_filter.2 ⟨member, by simp⟩)

end Shared

namespace Commons

variable {ι σ α : Type} [DecidableEq ι] {world : World σ} {kind : KeyKind} {target : KeyVersion}
  (commons : Commons world kind target)

/-- A batch that was accepted counts the records in it that it found off the target. -/
def Counts (moment : Moment ι σ) (id : RecordId) : Prop :=
  ∃ batch outcome, moment.event = .migrate kind batch (.ok outcome) ∧
    ∃ row ∈ commons.rows moment.found, row.id = id ∧ Vault.isDue batch target row

section Overlapping

variable {shared : Shared ι σ α} {schedule : List ι}

theorem holds_found (holds : commons.holds shared.state) {moment : Moment ι σ}
    (member : moment ∈ shared.moments world (schedule.map .run)) :
    commons.holds moment.found := by
  obtain ⟨before, later, split⟩ := List.append_of_mem member
  exact commons.holds_path (Shared.path_split split).1 holds

variable (holds : commons.holds shared.state)
  (confined : ∀ who, (shared.runs who).Confined kind)
include holds confined

/-- What the turns of a schedule do to the records, and what they count. -/
theorem after_schedule (schedule : List ι) :
    commons.holds (shared.after world (schedule.map .run)).state ∧
      (∃ carry : Row → Row, (∀ row, carry row = row ∨ carry row = { row with version := target }) ∧
        commons.rows (shared.after world (schedule.map .run)).state =
          (commons.rows shared.state).map carry) ∧
      ((shared.moments world (schedule.map .run)).map (·.event.converted)).sum +
          off target (commons.rows (shared.after world (schedule.map .run)).state) =
        off target (commons.rows shared.state) := by
  have path := @Shared.path_moments _ _ _ _ world schedule shared
  obtain ⟨rows, total⟩ := commons.path path holds (Shared.concerns_moments confined _)
  refine ⟨commons.holds_path path holds, ⟨_, Row.settled_cases _ _ _, rows⟩, ?_⟩
  simpa [Function.comp_def] using total

theorem rows_after {before later : List (Moment ι σ)} {moment : Moment ι σ}
    (split : shared.moments world (schedule.map .run) = before ++ moment :: later) :
    commons.rows (shared.after world (schedule.map .run)).state =
      (commons.rows moment.found).map
        (Row.settled [] target (accepted (moment.event :: later.map Moment.event))) := by
  obtain ⟨first, rest⟩ := Shared.path_split split
  have concerns : ∀ event ∈ (shared.moments world (schedule.map .run)).map Moment.event,
      event.call.Concerns kind := Shared.concerns_moments confined _
  rw [split, List.map_append, List.forall_mem_append] at concerns
  exact (commons.path rest (commons.holds_path first holds) concerns.2).1

/-- From one call to a later one only the batches in between have moved records. -/
theorem rows_between {before middle later : List (Moment ι σ)} {early late : Moment ι σ}
    (split : shared.moments world (schedule.map .run) =
      before ++ early :: (middle ++ late :: later)) :
    commons.rows late.found = (commons.rows early.found).map
      (Row.settled [] target (accepted (early.event :: middle.map Moment.event))) := by
  have first := (Shared.path_split split).1
  rw [← List.cons_append, ← List.append_assoc] at split
  have whole := (Shared.path_split split).1
  rw [List.map_append, World.path_append] at whole
  obtain ⟨s, same, between⟩ := whole
  obtain rfl := World.path_unique first same
  have concerns : ∀ event ∈ (shared.moments world (schedule.map .run)).map Moment.event,
      event.call.Concerns kind := Shared.concerns_moments confined _
  rw [split, List.append_assoc, List.map_append, List.map_append, List.forall_mem_append,
    List.forall_mem_append] at concerns
  exact (commons.path between (commons.holds_path first holds) concerns.2.1).1

/-- A record that one batch has counted is on the target when another finds it. -/
theorem counts_once :
    (shared.moments world (schedule.map .run)).Pairwise fun early late =>
      ∀ id, commons.Counts early id → ¬commons.Counts late id := by
  refine List.pairwise_iff_forall_sublist.2 fun {early late} inside => ?_
  obtain ⟨first, second, split, head, tail⟩ := List.cons_sublist_iff.1 inside
  obtain ⟨before, middle, rfl⟩ := List.append_of_mem head
  obtain ⟨more, later, rfl⟩ := List.append_of_mem (List.singleton_sublist.1 tail)
  have shape : shared.moments world (schedule.map .run) =
      before ++ early :: ((middle ++ more) ++ late :: later) := by rw [split]; simp
  have between := commons.rows_between holds confined shape
  rintro id ⟨batch, outcome, event, row, -, rfl, due⟩ ⟨other, _, _, found, there, same, off⟩
  rw [between] at there
  obtain ⟨origin, -, rfl⟩ := List.mem_map.1 there
  rw [(Row.carried_settled ..).id] at same
  have reached :
      origin.Reached [] (accepted (early.event :: (middle ++ more).map Moment.event)) := by
    refine ⟨⟨batch, by simp [event], ?_⟩, List.not_mem_nil⟩
    rw [same]
    simpa using (Bool.and_eq_true_iff.1 due).1
  rw [Row.settled_of_reached reached] at off
  simp [Vault.isDue] at off

end Overlapping

theorem moved_of_completed {schedule : List ι} {who : ι} {settings : Settings}
    {order : List Batch → List Batch}
    (permutes : ∀ batches, (order batches).Perm batches)
    {runs : Shared ι σ (Except Fault Report)} (holds : commons.holds runs.state)
    (confined : ∀ who, (runs.runs who).Confined kind)
    (begun : runs.runs who = migrate kind settings order) {report : Report}
    (ended : (runs.after world (schedule.map .run)).runs who = .done (.ok report))
    (completed : report.reason = .completed) :
    ∃ query ∈ runs.own world (schedule.map .run) who, ∃ range,
      query.event = .pending kind target (.ok range) ∧
      ∀ row ∈ commons.rows query.found, row.version ≠ target →
        { row with version := target } ∈
          commons.rows (runs.after world (schedule.map .run)).state := by
  have finish : ((runs.after world (schedule.map .run)).runs who).Runs [] (.ok report) := by
    rw [ended]
    exact ⟨rfl, rfl⟩
  have run := Shared.runs_own finish
  rw [begun, List.append_nil] at run
  obtain ⟨started, keys, batches, task, rfl, events, all⟩ :=
    (course_of_runs run).completed completed
  obtain ⟨clock, _, split, -, events⟩ := List.map_eq_cons_iff.1 events
  obtain ⟨look, _, rfl, looked, events⟩ := List.map_eq_cons_iff.1 events
  obtain ⟨check, _, rfl, -, events⟩ := List.map_eq_cons_iff.1 events
  obtain ⟨query, rest, rfl, asked, rfl⟩ := List.map_eq_cons_iff.1 events
  have split : runs.own world (schedule.map .run) who =
      [clock, look, check] ++ query :: rest := split
  obtain ⟨first, later, whole, among⟩ := Shared.own_split split
  have seen : look ∈ runs.moments world (schedule.map .run) := by
    have own : look ∈ runs.own world (schedule.map .run) who := by simp [split]
    exact List.mem_of_mem_filter own
  have pinned : task.target = target := by
    have answer := Shared.answered seen
    rw [looked] at answer
    exact Option.some.inj (commons.published _ _ (commons.holds_found holds seen)
      (Event.target.inj answer).2)
  subst pinned
  have known : query ∈ runs.moments world (schedule.map .run) := by simp [whole]
  have answer := Shared.answered known
  rw [asked] at answer
  have extent := commons.pending _ _ (commons.holds_found holds known)
    (Event.pending.inj answer).2.2
  refine ⟨query, by simp [split], _, asked, fun row member away => ?_⟩
  have inside : task.range.Contains row.id :=
    (Store.extent_eq_some extent.symm).2.2 _ (List.mem_map_of_mem (List.mem_filter.2
      ⟨member, by simpa using away⟩))
  obtain ⟨batch, planned, contains⟩ :=
    ((task.partition_batches settings order permutes).covers row.id).2 inside
  rw [← all, mem_accepted] at planned
  obtain ⟨other, outcome, sent⟩ := planned
  have done : batch ∈ accepted (query.event :: later.map Moment.event) :=
    mem_accepted.2 ⟨other, outcome, List.mem_cons_of_mem _ (List.map_subset _ among sent)⟩
  rw [commons.rows_after holds confined whole]
  exact List.mem_map.2 ⟨row, member,
    Row.settled_of_reached ⟨⟨batch, done, contains⟩, List.not_mem_nil⟩⟩

end Commons

/-- Runs of one kind that begin with the same records, with any settings and in any order of
their calls. No record is counted by two batches, so none is by two runs; all the batches together
count the records whose version changed; a record that is on the target stays on it. Once a run
has completed, every record is on the target that was off it when this run asked what is
pending. -/
theorem overlapping_runs_count_once {ι σ : Type} [DecidableEq ι] {world : World σ}
    {kind : KeyKind} {target : KeyVersion} (commons : Commons world kind target)
    (settings : ι → Settings) (order : ι → List Batch → List Batch)
    (permutes : ∀ who batches, (order who batches).Perm batches) {s : σ} (holds : commons.holds s)
    (schedule : List ι) :
    let begun : Shared ι σ (Except Fault Report) :=
      ⟨fun who => migrate kind (settings who) (order who), s⟩
    let moments := begun.moments world (schedule.map .run)
    let reached (part : List ι) := begun.after world (part.map .run)
    let rows (part : List ι) := commons.rows (reached part).state
    (moments.Pairwise fun early late =>
        ∀ id, commons.Counts early id → ¬commons.Counts late id) ∧
      (moments.map (·.event.converted)).sum = changed (rows []) (rows schedule) ∧
      (∀ first second, schedule = first ++ second → ∃ carry : Row → Row,
        (∀ row, carry row = row ∨ carry row = { row with version := target }) ∧
        rows schedule = (rows first).map carry) ∧
      ∀ who report, (reached schedule).runs who = .done (.ok report) →
        report.reason = .completed →
        ∃ query ∈ begun.own world (schedule.map .run) who, ∃ range,
          query.event = .pending kind target (.ok range) ∧
          ∀ row ∈ commons.rows query.found, row.version ≠ target →
            { row with version := target } ∈ rows schedule := by
  intro begun moments reached rows
  have confined (who : ι) : (begun.runs who).Confined kind := confined_migrate ..
  refine ⟨commons.counts_once holds confined, ?_, ?_, ?_⟩
  · obtain ⟨-, ⟨carry, carries, carried⟩, total⟩ := commons.after_schedule holds confined schedule
    have parts := changed_add_off carries (commons.rows s)
    rw [← carried] at parts
    exact Nat.add_right_cancel (total.trans parts.symm)
  · rintro first second rfl
    obtain ⟨held, -⟩ := commons.after_schedule holds confined first
    obtain ⟨-, carried, -⟩ := commons.after_schedule held
      (Shared.confined_after confined _) second
    simpa only [rows, reached, List.map_append, Shared.after_append] using carried
  · intro who report ended completed
    exact commons.moved_of_completed (permutes who) holds confined rfl ended completed

namespace Vault

/-- A vault whose target of a kind stays where it is, and in which no record fails. -/
structure Fixed (kind : KeyKind) (target : KeyVersion) (vault : Vault) : Prop where
  failing : vault.failing = []
  drift : vault.drift = none
  published : vault.store.target kind = .ok (some target)
  countable : ∃ rows, vault.store.rows kind = some rows ∧ rows.length < UInt64.size

theorem drifted_of_still {vault : Vault} (still : vault.drift = none) (kind : KeyKind)
    (store : Store) : vault.drifted kind store = store := by
  unfold drifted
  rw [still]

theorem rows_world_of_read {vault : Vault} {kind : KeyKind} {request : Call}
    (read : ∀ batch, request ≠ .migrate kind batch) :
    (world vault request).2.store.rows kind = vault.store.rows kind := by
  cases request with
  | now | target | status | pending => rfl
  | migrate other batch =>
    have apart : kind ≠ other := fun same => read batch (by rw [same])
    rcases vault.moveBatch_cases other batch with ⟨_, moved⟩ | ⟨_, _, -, -, moved⟩
    · simp only [world, moved]
    · simp only [world, moved, rows_drifted, Store.rows_setRows_of_ne _ apart]

namespace Fixed

variable {kind : KeyKind} {target : KeyVersion} {vault : Vault}

theorem moveBatch (fixed : vault.Fixed kind target) (other : KeyKind) (batch : Batch) :
    (vault.moveBatch other batch).2.Fixed kind target := by
  rcases vault.moveBatch_cases other batch with ⟨_, moved⟩ | ⟨current, rows, -, table, moved⟩
  · rw [moved]
    exact fixed
  rw [moved, drifted_of_still fixed.drift]
  refine ⟨fixed.failing, fixed.drift, by simp [fixed.published], ?_⟩
  obtain ⟨left, held, small⟩ := fixed.countable
  by_cases apart : kind = other
  · subst apart
    obtain rfl : rows = left := by simpa [held] using table.symm
    exact ⟨_, Store.rows_setRows .., by simpa [convert] using small⟩
  · exact ⟨left, by rw [Store.rows_setRows_of_ne _ apart, held], small⟩

theorem next (fixed : vault.Fixed kind target) (request : Call) :
    (world vault request).2.Fixed kind target := by
  cases request with
  | migrate other batch => exact fixed.moveBatch other batch
  | now => exact ⟨fixed.failing, fixed.drift, fixed.published, fixed.countable⟩
  | target | status | pending => exact fixed

theorem current_eq (fixed : vault.Fixed kind target) {current : Option KeyVersion}
    (read : vault.store.target kind = .ok current) : current = some target :=
  Except.ok.inj (read.symm.trans fixed.published)

theorem converts (fixed : vault.Fixed kind target) {rows : List Row}
    (table : vault.store.rows kind = some rows) {batch : Batch} {told : BatchOutcome}
    (answer : (world vault (.migrate kind batch)).1 = .ok told) :
    (world vault (.migrate kind batch)).2.store.rows kind = some (convert [] batch target rows) ∧
      told.converted.toNat = rows.countP (isDue batch target) := by
  constructor
  · have settled := (custody.settled_of_accepted answer fixed.published).rows
    rw [convert_eq_map]
    exact settled.trans (by simp [custody, table, fixed.failing])
  · obtain ⟨left, held, small⟩ := fixed.countable
    obtain rfl : rows = left := by simpa [held] using table.symm
    have few : rows.countP (isDue batch target) ≤ rows.length := List.countP_le_length
    rw [outcome_of_accepted answer fixed.published table, fixed.failing]
    simp only [outcome, List.contains_nil, Bool.not_false, List.countP_true, toNat_ofNatClamp,
      ← List.countP_eq_length_filter]
    omega

end Fixed

def commons (kind : KeyKind) (target : KeyVersion) : Commons world kind target where
  holds := Fixed kind target
  rows vault := (vault.store.rows kind).getD []
  keeps _ request fixed := fixed.next request
  reads _ _ _ read := congrArg (·.getD []) (rows_world_of_read read)
  published _ _ fixed read := fixed.current_eq read
  pending vault range fixed answer := by
    obtain ⟨rows, table, -⟩ := fixed.countable
    have found : vault.store.pending kind target = .ok range := answer
    simp only [Store.pending, table, Except.ok.injEq] at found
    rw [table, ← found, Option.getD_some]
  refused vault batch fault _ answer :=
    congrArg (fun store => (Store.rows store kind).getD []) (custody.refused _ _ _ _ answer)
  moved vault batch told fixed answer := by
    obtain ⟨rows, table, -⟩ := fixed.countable
    obtain ⟨moved, counted⟩ := fixed.converts table answer
    rw [moved, table]
    exact ⟨rfl, counted⟩

end Vault

def togetherSettings (shuffled : Bool) : Settings :=
  if shuffled then ⟨6, none, true, by decide⟩ else ⟨5, none, false, by decide⟩

/-- Two runs that have not begun yet, in a vault with three records off its target. -/
def together : Shared Bool Vault (Except Fault Report) where
  runs shuffled := migrate .kek (togetherSettings shuffled) List.reverse
  state := {
    store := {
      config := some [("KEK_TARGET_VERSION", .integer 7)]
      deks := some [⟨-3, 1, none⟩, ⟨2, 1, none⟩, ⟨4, 7, none⟩, ⟨5, 2, none⟩] }
    keys := KeyInventory.empty.insert .kek 7 ⟨true, true, none⟩ }

/-- The turns until the shuffled run is over. The other one has had its first batch by then. -/
def togetherSchedule : List Bool :=
  [false, true, false, true, false, true, false, true, false, true, true, false, true, true, true]

theorem together_count_once :
    let commons := Vault.commons .kek 7
    let moments := together.moments Vault.world (togetherSchedule.map .run)
    let reached := together.after Vault.world (togetherSchedule.map .run)
    commons.holds together.state ∧
      accepted (moments.map Moment.event) = [⟨-3, 1⟩, ⟨3, 5⟩, ⟨-3, 2⟩] ∧
      (moments.Pairwise fun early late =>
        ∀ id, commons.Counts early id → ¬commons.Counts late id) ∧
      changed (commons.rows together.state) (commons.rows reached.state) = 3 ∧
      reached.runs true = .done (.ok ⟨.kek, some 7, 2, 0, 2, 2, .completed, 0⟩) ∧
      ∃ query ∈ together.own Vault.world (togetherSchedule.map .run) true, ∃ range,
        query.event = .pending .kek 7 (.ok range) ∧
        ∀ row ∈ commons.rows query.found, row.version ≠ 7 →
          { row with version := 7 } ∈ commons.rows reached.state := by
  intro commons moments reached
  have holds : commons.holds together.state := ⟨rfl, rfl, by cbv, _, rfl, by decide⟩
  have batches : accepted ((together.moments Vault.world (togetherSchedule.map .run)).map
      Moment.event) = [⟨-3, 1⟩, ⟨3, 5⟩, ⟨-3, 2⟩] := by cbv
  have sum : ((together.moments Vault.world (togetherSchedule.map .run)).map
      (·.event.converted)).sum = 3 := by cbv
  have ended : (together.after Vault.world (togetherSchedule.map .run)).runs true =
      .done (.ok ⟨.kek, some 7, 2, 0, 2, 2, .completed, 0⟩) := by cbv
  obtain ⟨once, total, -, completes⟩ := overlapping_runs_count_once commons togetherSettings
    (fun _ => List.reverse) (fun _ => List.reverse_perm) holds togetherSchedule
  exact ⟨holds, batches, once, total.symm.trans sum, ended, completes true _ ended rfl⟩

end KeyRotation
