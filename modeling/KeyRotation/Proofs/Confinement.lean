import Mathlib
import KeyRotation.Proofs.Course
import KeyRotation.Vault

/-! The two kinds of keys do not interfere. A run of a kind only makes calls that concern this
kind, and of the state of the keys it sees no more than the entries of this kind. So whatever
else there is in a vault makes no difference to it, and is left as it was. -/
namespace KeyRotation

/-- A call that has to do with one kind of keys, or with none. -/
def Call.Concerns (kind : KeyKind) : Call → Prop
  | .now | .status => True
  | .target other | .pending other _ | .migrate other _ => other = kind

def KeyInventory.Alike (kind : KeyKind) (first second : KeyInventory) : Prop :=
  ∀ version, first.get? kind version = second.get? kind version

/-- Two replies that differ in keys of the other kind at most. -/
def Call.Alike (kind : KeyKind) : (request : Call) → request.Reply → request.Reply → Prop
  | .status => fun
    | .ok first, .ok second => first.Alike kind second
    | .error first, .error second => first = second
    | _, _ => False
  | .now | .target _ | .pending _ _ | .migrate _ _ => Eq

theorem KeyInventory.Alike.isReady {kind : KeyKind} {first second : KeyInventory}
    (alike : first.Alike kind second) (version : KeyVersion) :
    first.isReady kind version = second.isReady kind version := by
  simp only [KeyInventory.isReady, alike version]

namespace Session

variable {α β : Type} {kind : KeyKind}

/-- A session that keeps to one kind: its calls concern no other, and it goes on in the same
way after replies that differ in the other kind only. -/
def Confined (kind : KeyKind) : Session α → Prop
  | .done _ => True
  | .call request resume =>
    request.Concerns kind ∧
      (∀ first second, request.Alike kind first second → resume first = resume second) ∧
      ∀ reply, Confined kind (resume reply)

theorem Confined.call {request : Call} {resume : request.Reply → Session α}
    (concerns : request.Concerns kind) (known : request ≠ .status)
    (confined : ∀ reply, (resume reply).Confined kind) :
    (Session.call request resume).Confined kind := by
  refine ⟨concerns, fun first second alike => ?_, confined⟩
  cases request with
  | status => exact absurd rfl known
  | now | target | pending | migrate => exact congrArg resume alike

theorem Confined.andThen {session : Session (Except Fault α)}
    {next : α → Session (Except Fault β)} (confined : session.Confined kind)
    (later : ∀ events value, session.Runs events (.ok value) → (next value).Confined kind) :
    (session.andThen next).Confined kind := by
  induction session with
  | done value =>
    cases value with
    | error fault => trivial
    | ok value => exact later [] value ⟨rfl, rfl⟩
  | call request resume ih =>
    obtain ⟨concerns, blind, confined⟩ := confined
    refine ⟨concerns, fun first second alike => ?_, fun reply => ih reply (confined reply) ?_⟩
    · exact congrArg (Session.andThen · next) (blind first second alike)
    · exact fun events value run => later _ value ⟨reply, events, rfl, run⟩

/-- Where related states give replies that a confined session cannot tell apart, it comes to one
value in both, sends the same batches and leaves related states. -/
theorem Confined.run_alike {σ τ : Type} {left : World σ} {right : World τ}
    {related : σ → τ → Prop}
    (step : ∀ s t request, related s t → request.Concerns kind →
      request.Alike kind (left s request).1 (right t request).1 ∧
        related (left s request).2 (right t request).2)
    {session : Session α} (confined : session.Confined kind) {s : σ} {t : τ}
    (begin : related s t) :
    (session.drive left s).1 = (session.drive right t).1 ∧
      sent (session.trace left s) = sent (session.trace right t) ∧
      related (session.drive left s).2 (session.drive right t).2 := by
  induction session generalizing s t with
  | done value => exact ⟨rfl, rfl, begin⟩
  | call request resume ih =>
    obtain ⟨concerns, blind, confined⟩ := confined
    obtain ⟨alike, next⟩ := step s t request begin concerns
    have same := blind _ _ alike
    obtain ⟨value, batches, finish⟩ := ih _ (confined (left s request).1) next
    simp only [drive, trace, ← same]
    refine ⟨value, ?_, finish⟩
    cases request <;> simp [Event.of, batches]

theorem Confined.keeps {σ : Type} {world : World σ} (value : σ → β)
    (same : ∀ s request, request.Concerns kind → value (world s request).2 = value s)
    {session : Session α} (confined : session.Confined kind) (s : σ) :
    value (session.drive world s).2 = value s := by
  induction session generalizing s with
  | done => rfl
  | call request resume ih =>
    obtain ⟨concerns, -, confined⟩ := confined
    exact (ih _ (confined _) _).trans (same s request concerns)

theorem Confined.concerns_of_runs {session : Session α} (confined : session.Confined kind)
    {events : List Event} {result : α} (run : session.Runs events result) :
    ∀ event ∈ events, event.call.Concerns kind := by
  induction session generalizing events with
  | done value =>
    obtain ⟨rfl, -⟩ := run
    simp
  | call request resume ih =>
    obtain ⟨reply, rest, rfl, run⟩ := run
    obtain ⟨concerns, -, confined⟩ := confined
    refine List.forall_mem_cons.2 ⟨?_, ih reply (confined reply) run⟩
    cases request <;> exact concerns

end Session

theorem confined_resolve (kind : KeyKind) : (resolve kind).Confined kind := by
  refine .call rfl nofun ?_
  rintro (fault | _ | target)
  · trivial
  · trivial
  refine ⟨trivial, ?_, ?_⟩
  · rintro (_ | first) (_ | second) alike
    · cases alike
      rfl
    · cases alike
    · cases alike
    · simp only [alike.isReady target]
  rintro (fault | keys)
  · trivial
  by_cases ready : keys.isReady kind target
  · simp only [ready, if_true]
    refine .call rfl nofun ?_
    rintro (fault | _ | range) <;> trivial
  · simp only [ready]
    trivial

theorem confined_execute (task : Task) (limit : Option Elapsed) (started : Instant) (plan : Plan)
    (tally : Tally) : (execute task limit started plan tally).Confined task.kind := by
  induction plan, tally using execute.induct with
  | case1 plan tally finished =>
    rw [execute]
    split
    · trivial
    · simp_all
  | case2 plan tally batch rest produced ih =>
    rw [execute]
    split
    · trivial
    next sent later step =>
    obtain ⟨rfl, rfl⟩ := Prod.mk.inj (Option.some.inj (produced.symm.trans step))
    refine .call rfl (by simp) ?_
    rintro (fault | outcome)
    · trivial
    refine .call rfl (by simp) ?_
    rintro (fault | current)
    · trivial
    simp only
    split
    · trivial
    cases limit with
    | none => exact ih outcome
    | some most =>
      refine .call trivial (by simp) fun now => ?_
      split
      · trivial
      · exact ih outcome

theorem confined_conclude (kind : KeyKind) (started : Instant) (tally : Tally) (reason : Reason) :
    (conclude started tally reason).Confined kind :=
  .call trivial nofun fun _ => trivial

theorem confined_migrate (kind : KeyKind) (settings : Settings)
    (order : List Batch → List Batch) : (migrate kind settings order).Confined kind := by
  refine .call trivial nofun fun started => (confined_resolve kind).andThen ?_
  rintro opening (task | ⟨_ | target, reason⟩) run
  · obtain rfl := (opening_of_runs run).kind_eq
    exact (confined_execute _ _ _ _ _).andThen fun _ _ _ => confined_conclude _ _ _ _
  · exact confined_conclude _ _ _ _
  · exact confined_conclude _ _ _ _

namespace Store

/-- What a store publishes for a kind. -/
def setting (store : Store) (kind : KeyKind) : Option (Option Cell) :=
  store.config.map (·.lookup kind.targetKey)

/-- Two stores with the same records of a kind and the same target for it. -/
structure Alike (kind : KeyKind) (first second : Store) : Prop where
  rows : first.rows kind = second.rows kind
  setting : first.setting kind = second.setting kind

variable {kind other : KeyKind} {first second : Store}

theorem target_eq_setting (store : Store) (kind : KeyKind) :
    store.target kind = match store.setting kind with
      | none => .error .sql
      | some none => .ok none
      | some (some cell) => decodeTarget kind.targetKey cell := by
  unfold target setting
  cases store.config with
  | none => rfl
  | some config => cases found : config.lookup kind.targetKey <;> simp [found]

theorem Alike.target (alike : first.Alike kind second) :
    first.target kind = second.target kind := by
  rw [target_eq_setting, target_eq_setting, alike.setting]

theorem Alike.pending (alike : first.Alike kind second) (version : KeyVersion) :
    first.pending kind version = second.pending kind version := by
  unfold Store.pending
  rw [alike.rows]

@[simp] theorem setting_setRows (store : Store) (kind other : KeyKind) (rows : List Row) :
    (store.setRows kind rows).setting other = store.setting other := by
  cases kind <;> rfl

theorem setting_setConfig {store published : Store} {cell : Cell}
    (written : store.setConfig kind.targetKey cell = .ok published) (other : KeyKind) :
    published.setting other =
      if other = kind then (store.setting other).map fun _ => some cell
      else store.setting other := by
  unfold setConfig at written
  split at written
  · cases written
  next config held =>
    cases written
    simp only [setting, held, Option.map_some, Entries.lookup_replaced]
    split
    next same => rw [if_pos (KeyKind.targetKey_injective same)]
    next apart => rw [if_neg (mt (congrArg _) apart)]

end Store

namespace Vault

variable {kind other : KeyKind} {first second : Vault}

theorem setting_drifted (vault : Vault) (kind other : KeyKind) (store : Store) :
    (vault.drifted kind store).setting other =
      match vault.drift with
      | none => store.setting other
      | some (after, cell) =>
        if vault.batchesDone + 1 = after ∧ other = kind then
          (store.setting other).map fun _ => some cell
        else store.setting other := by
  unfold drifted
  rcases vault.drift with _ | ⟨after, cell⟩
  · rfl
  by_cases due : vault.batchesDone + 1 = after
  · simp only [due, if_true, true_and]
    cases written : store.setConfig kind.targetKey cell with
    | ok published => exact Store.setting_setConfig written other
    | error fault =>
      have missing : store.config = none := by
        unfold Store.setConfig at written
        split at written
        · assumption
        · cases written
      simp [Store.setting, missing]
  · simp [due]

/-- Two vaults that differ in the other kind at most: in its records, its target and its keys. -/
structure Alike (kind : KeyKind) (first second : Vault) : Prop where
  store : first.store.Alike kind second.store
  keys : first.keys.Alike kind second.keys
  failing : first.failing = second.failing
  drift : first.drift = second.drift
  batchesDone : first.batchesDone = second.batchesDone
  clock : ∀ n, first.clock (first.readings + n) = second.clock (second.readings + n)

theorem Alike.drifted (alike : first.Alike kind second) {left right : Store}
    (stores : left.Alike kind right) :
    (first.drifted kind left).Alike kind (second.drifted kind right) where
  rows := by rw [rows_drifted, rows_drifted, stores.rows]
  setting := by
    rw [setting_drifted, setting_drifted, alike.drift, alike.batchesDone, stores.setting]

theorem Alike.moveBatch (alike : first.Alike kind second) (batch : Batch) :
    (first.moveBatch kind batch).1 = (second.moveBatch kind batch).1 ∧
      (first.moveBatch kind batch).2.Alike kind (second.moveBatch kind batch).2 := by
  unfold Vault.moveBatch
  rw [alike.store.target, alike.store.rows, alike.failing]
  split
  · exact ⟨rfl, alike⟩
  · exact ⟨rfl, alike⟩
  split
  · exact ⟨rfl, alike⟩
  refine ⟨rfl, ?_, alike.keys, rfl, alike.drift, ?_, alike.clock⟩
  · exact alike.drifted ⟨by simp, by simp [alike.store.setting]⟩
  · simp [alike.batchesDone]

theorem Alike.world (alike : first.Alike kind second) {request : Call}
    (concerns : request.Concerns kind) :
    request.Alike kind (Vault.world first request).1 (Vault.world second request).1 ∧
      (Vault.world first request).2.Alike kind (Vault.world second request).2 := by
  cases request with
  | now =>
    refine ⟨alike.clock 0, { alike with clock := fun n => ?_ }⟩
    simpa [Vault.world, Nat.add_assoc] using alike.clock (1 + n)
  | target other =>
    obtain rfl := concerns
    exact ⟨alike.store.target, alike⟩
  | status => exact ⟨alike.keys, alike⟩
  | pending other version =>
    obtain rfl := concerns
    exact ⟨alike.store.pending version, alike⟩
  | migrate other batch =>
    obtain rfl := concerns
    exact alike.moveBatch batch

/-- A call that concerns a kind leaves the records and the target of the other as they are. -/
theorem world_apart (apart : other ≠ kind) (vault : Vault) {request : Call}
    (concerns : request.Concerns kind) :
    (world vault request).2.store.rows other = vault.store.rows other ∧
      (world vault request).2.store.setting other = vault.store.setting other := by
  cases request with
  | now | target | status | pending => exact ⟨rfl, rfl⟩
  | migrate kind batch =>
    obtain rfl := concerns
    rcases vault.moveBatch_cases kind batch with ⟨_, moved⟩ | ⟨target, rows, -, -, moved⟩
    · simp only [world, moved, and_self]
    · simp only [world, moved, rows_drifted, Store.rows_setRows_of_ne _ apart, true_and]
      rw [setting_drifted]
      split <;> simp [apart]

end Vault

/-- A run takes no notice of the other kind. In two vaults that differ in that kind only, it
comes to the same report or the same fault, sends the same batches and leaves the same records.
In any vault it leaves the records and the target of the other kind as they were. -/
theorem kinds_do_not_interfere (kind : KeyKind) (settings : Settings)
    (order : List Batch → List Batch) :
    let run (vault : Vault) := (migrate kind settings order).drive Vault.world vault
    let batches (vault : Vault) := sent ((migrate kind settings order).trace Vault.world vault)
    (∀ first second : Vault, first.Alike kind second →
        (run first).1 = (run second).1 ∧ batches first = batches second ∧
        (run first).2.store.rows kind = (run second).2.store.rows kind) ∧
      ∀ (vault : Vault) (other : KeyKind), other ≠ kind →
        (run vault).2.store.rows other = vault.store.rows other ∧
        (run vault).2.store.setting other = vault.store.setting other := by
  intro run batches
  have confined := confined_migrate kind settings order
  refine ⟨fun first second alike => ?_, fun vault other apart => ?_⟩
  · obtain ⟨value, same, finish⟩ := confined.run_alike
      (fun first second request alike concerns => alike.world concerns) alike
    exact ⟨value, same, finish.store.rows⟩
  · have kept := confined.keeps
      (fun vault : Vault => (vault.store.rows other, vault.store.setting other))
      (fun vault request concerns => Prod.ext_iff.2 (vault.world_apart apart concerns)) vault
    exact Prod.ext_iff.1 kept

def Vault.lone : Vault where
  store := {
    config := some [("KEK_TARGET_VERSION", .integer 7)]
    deks := some [⟨-3, 1, none⟩, ⟨2, 3, none⟩, ⟨5, 2, none⟩] }
  keys := KeyInventory.empty.insert .kek 7 ⟨true, true, none⟩
  failing := [-3]
  drift := some (2, .integer 8)
  clock reading := reading

/-- The lone vault with tokens on old keys, and with a target for them that is not ready. -/
def Vault.crowded : Vault :=
  { Vault.lone with
    store := { Vault.lone.store with
      config := some [("HMAC_VERSION", .text "9"), ("KEK_TARGET_VERSION", .integer 7)]
      tokens := some [⟨2, 1, none⟩, ⟨4, 8, some "2020-01-01"⟩] }
    keys := (Vault.lone.keys.insert .hmac 7 ⟨true, true, some 3⟩).insert .hmac 9 {}
    clock := fun reading => reading - 2
    readings := 2 }

theorem lone_crowded :
    let settings : Settings := ⟨4, none, true, by decide⟩
    let ran := (migrate .kek settings List.reverse).drive Vault.world .crowded
    Vault.lone.Alike .kek .crowded ∧
      ran.1 = .ok ⟨.kek, some 7, 2, 0, 3, 2, .versionDrifted, 1⟩ ∧
      sent ((migrate .kek settings List.reverse).trace Vault.world .crowded) =
        [⟨5, 5⟩, ⟨1, 4⟩] ∧
      ran.2.store.rows .kek = some [⟨-3, 1, none⟩, ⟨2, 7, none⟩, ⟨5, 7, none⟩] ∧
      ran.2.store.rows .hmac = some [⟨2, 1, none⟩, ⟨4, 8, some "2020-01-01"⟩] ∧
      ran.2.store.setting .hmac = some (some (.text "9")) := by
  intro settings ran
  have alike : Vault.lone.Alike .kek .crowded :=
    ⟨⟨rfl, rfl⟩, fun _ => rfl, rfl, rfl, rfl, fun n => by simp [Vault.lone, Vault.crowded]⟩
  have result : ((migrate .kek ⟨4, none, true, by decide⟩ List.reverse).drive Vault.world
      .lone).1 = .ok ⟨.kek, some 7, 2, 0, 3, 2, .versionDrifted, 1⟩ := by cbv
  have batches : sent ((migrate .kek ⟨4, none, true, by decide⟩ List.reverse).trace Vault.world
      .lone) = [⟨5, 5⟩, ⟨1, 4⟩] := by cbv
  have left : ((migrate .kek ⟨4, none, true, by decide⟩ List.reverse).drive Vault.world
      .lone).2.store.rows .kek = some [⟨-3, 1, none⟩, ⟨2, 7, none⟩, ⟨5, 7, none⟩] := by cbv
  obtain ⟨same, others⟩ := kinds_do_not_interfere .kek settings List.reverse
  obtain ⟨report, plan, rows⟩ := same .lone .crowded alike
  obtain ⟨tokens, published⟩ := others .crowded .hmac (by decide)
  exact ⟨alike, report.symm.trans result, plan.symm.trans batches, rows.symm.trans left, tokens,
    published⟩

end KeyRotation
