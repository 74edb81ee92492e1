import Mathlib
import KeyRotation.Proofs.Calendar
import KeyRotation.Proofs.Publication
import KeyRotation.Store

/-! What purges delete. The texts of a table are compared as texts, yet what goes is what finished
within the given number of days before now, in seconds. Over time the windows of purges join, as
long as no two are further apart than a window is long, and no expired token slips between them. A
purge that looks back further than dates go stops the process. -/
namespace KeyRotation

open Calendar (DateTime)
open Calendar.DateTime (earliest secondsPerDay)

/-- What happens to a store over time: a purge, or records that come in. -/
inductive Upkeep where
  | purge (now : DateTime)
  | insert (kind : KeyKind) (minId maxId : RecordId) (version : KeyVersion)
      (finishedAt : Option String)

namespace Upkeep

def run (days : Nat) (store : Store) : Upkeep → Except Fault Store
  | .purge now => (store.purge now days).map (·.1)
  | .insert kind minId maxId version finishedAt =>
    store.insert kind minId maxId version finishedAt

def Spares (id : RecordId) : Upkeep → Prop
  | .purge _ => True
  | .insert kind minId maxId _ _ => kind = .hmac → ¬(minId ≤ id ∧ id ≤ maxId)

instance (id : RecordId) (step : Upkeep) : Decidable (step.Spares id) := by
  unfold Spares
  split <;> infer_instance

def purgedAt? : Upkeep → Option DateTime
  | .purge now => some now
  | .insert .. => none

end Upkeep

/-- The times of the purges of a history. -/
def purges (history : List Upkeep) : List DateTime := history.filterMap Upkeep.purgedAt?

/-- A purge at this time deletes the row. -/
def Row.ExpiredAt (days : Nat) (now : DateTime) (row : Row) : Prop :=
  ∃ first, now.daysEarlier? days = some first ∧
    Store.finishedWithin first.text now.text row = true

namespace Store

def undergo (days : Nat) (history : List Upkeep) (store : Store) : Except Fault Store :=
  history.foldlM (Upkeep.run days) store

structure Keeps (store : Store) (rows : List Row) : Prop where
  tokens : store.tokens = some rows
  deks : store.deks.isSome

section Steps

variable {store : Store} {rows : List Row} {row : Row} {days : Nat}

theorem purge_of_table {now first : DateTime} (table : store.tokens = some rows)
    (begins : now.daysEarlier? days = some first) :
    let gone := finishedWithin first.text now.text
    store.purge now days =
      .ok ({ store with tokens := some (rows.filter (!gone ·)) }, rows.countP gone) := by
  simp only [purge, begins, table]

theorem Keeps.purge {now first : DateTime} (keeps : store.Keeps rows)
    (begins : now.daysEarlier? days = some first) :
    ∃ after left, (Upkeep.purge now).run days store = .ok after ∧ after.Keeps left ∧
      ∀ row, row ∈ left ↔ row ∈ rows ∧ ¬row.ExpiredAt days now := by
  refine ⟨{ store with tokens := some (rows.filter (!finishedWithin first.text now.text ·)) }, _,
    ?_, ⟨rfl, keeps.deks⟩, ?_⟩
  · rw [Upkeep.run, purge_of_table keeps.tokens begins]
    rfl
  · simp [Row.ExpiredAt, begins]

theorem inRange_of_mem_added {minId maxId : RecordId} {version : KeyVersion}
    {finishedAt : Option String}
    (member : row ∈ (List.range (maxId.toInt - minId.toInt + 1).toNat).map fun (k : Nat) =>
      (⟨Int64.ofInt (minId.toInt + k), version, finishedAt⟩ : Row)) :
    minId ≤ row.id ∧ row.id ≤ maxId := by
  obtain ⟨k, inside, rfl⟩ := List.mem_map.1 member
  have few := List.mem_range.1 inside
  have low := minId.le_toInt
  have high := maxId.toInt_lt
  have same : (Int64.ofInt (minId.toInt + k)).toInt = minId.toInt + k :=
    Int64.toInt_ofInt_of_le (by omega) (by omega)
  rw [Int64.le_iff_toInt_le, Int64.le_iff_toInt_le, same]
  omega

theorem Keeps.insert {kind : KeyKind} {minId maxId : RecordId} {version : KeyVersion}
    {finishedAt : Option String} (keeps : store.Keeps rows) :
    ∃ after left, store.insert kind minId maxId version finishedAt = .ok after ∧
      after.Keeps left ∧ ∀ row : Row,
        (Upkeep.insert kind minId maxId version finishedAt).Spares row.id →
          (row ∈ left ↔ row ∈ rows) := by
  obtain ⟨deks, table⟩ := Option.isSome_iff_exists.1 keeps.deks
  by_cases inverted : maxId < minId
  · refine ⟨store, rows, ?_, keeps, fun _ _ => Iff.rfl⟩
    cases kind <;> simp [Store.insert, Store.rows, table, keeps.tokens, inverted]
  cases kind with
  | kek =>
    simp only [Store.insert, Store.rows, table, inverted, if_false]
    exact ⟨_, rows, rfl, ⟨keeps.tokens, rfl⟩, fun _ _ => Iff.rfl⟩
  | hmac =>
    simp only [Store.insert, Store.rows, keeps.tokens, inverted, if_false]
    refine ⟨_, _, rfl, ⟨rfl, keeps.deks⟩, fun row spared => ?_⟩
    have apart := spared rfl
    have old : row.id < minId ∨ maxId < row.id := by
      rw [← Int64.not_le, ← Int64.not_le]
      tauto
    simp only [List.mem_append, List.mem_filter, decide_eq_true_eq]
    have new := mt (@inRange_of_mem_added row minId maxId version finishedAt) apart
    tauto

theorem Keeps.step (keeps : store.Keeps rows) {step : Upkeep}
    (begins : ∀ now, step.purgedAt? = some now → (now.daysEarlier? days).isSome) :
    ∃ after left, step.run days store = .ok after ∧ after.Keeps left ∧
      ∀ row : Row, step.Spares row.id → (row ∈ left ↔
        row ∈ rows ∧ ∀ now, step.purgedAt? = some now → ¬row.ExpiredAt days now) := by
  cases step with
  | purge now =>
    obtain ⟨first, begins⟩ := Option.isSome_iff_exists.1 (begins now rfl)
    simpa [Upkeep.purgedAt?, Upkeep.Spares] using keeps.purge begins
  | insert kind minId maxId version finishedAt =>
    simpa [Upkeep.purgedAt?, Upkeep.run] using keeps.insert

/-- A row is gone after a history when one of its purges found it expired. -/
theorem Keeps.undergo {history : List Upkeep} (keeps : store.Keeps rows)
    (begins : ∀ now ∈ purges history, (now.daysEarlier? days).isSome) :
    ∃ after left, store.undergo days history = .ok after ∧ after.Keeps left ∧
      ∀ row : Row, (∀ step ∈ history, step.Spares row.id) → (row ∈ left ↔
        row ∈ rows ∧ ∀ now ∈ purges history, ¬row.ExpiredAt days now) := by
  induction history generalizing store rows with
  | nil => exact ⟨store, rows, rfl, keeps, by simp [purges]⟩
  | cons step history ih =>
    have times : ∀ now, now ∈ purges (step :: history) ↔
        step.purgedAt? = some now ∨ now ∈ purges history := by
      simp [purges]
    simp only [times, or_imp, forall_and] at begins ⊢
    obtain ⟨next, between, ran, held, kept⟩ := keeps.step begins.1
    obtain ⟨after, left, rest, holds, stays⟩ := ih held begins.2
    refine ⟨after, left, ?_, holds, fun row spared => ?_⟩
    · rw [Store.undergo, List.foldlM_cons, ran]
      exact rest
    · obtain ⟨now, later⟩ := List.forall_mem_cons.1 spared
      rw [stays row later, kept row now, and_assoc]

end Steps
end Store

section Windows

variable {days : Nat}

theorem not_expiredAt_of_unfinished {row : Row} (unfinished : row.finishedAt = none)
    (now : DateTime) : ¬row.ExpiredAt days now := by
  rintro ⟨first, -, within⟩
  simp [Store.finishedWithin, unfinished] at within

/-- The window of a purge in seconds. -/
theorem expiredAt_iff {row : Row} {now t : DateTime} (datedNow : now.Dated) (dated : t.Dated)
    (begins : (now.daysEarlier? days).isSome) (finished : row.finishedAt = some t.text) :
    row.ExpiredAt days now ↔
      now.seconds - days * secondsPerDay ≤ t.seconds ∧ t.seconds < now.seconds := by
  obtain ⟨first, found⟩ := Option.isSome_iff_exists.1 begins
  simp only [Row.ExpiredAt, found, Option.some.injEq, exists_eq_left', Store.finishedWithin,
    finished, Bool.and_eq_true, Bool.not_eq_true', decide_eq_false_iff_not, decide_eq_true_eq,
    DateTime.not_text_lt_of_daysEarlier? datedNow found dated,
    DateTime.text_lt_text_iff dated datedNow]

/-- A time follows another after no more seconds than these. -/
def Soon (span : Int) (now later : DateTime) : Prop :=
  now.seconds ≤ later.seconds ∧ later.seconds ≤ now.seconds + span

instance (span : Int) (now later : DateTime) : Decidable (Soon span now later) :=
  inferInstanceAs (Decidable (_ ∧ _))

/-- Windows of times that follow each other soon make one. -/
theorem windows_join {span : Int} {nows : List DateTime} {first last : DateTime}
    (soon : nows.IsChain (Soon span)) (head : nows.head? = some first)
    (final : nows.getLast? = some last) (t : Int) :
    first.seconds ≤ last.seconds ∧
      ((∃ now ∈ nows, now.seconds - span ≤ t ∧ t < now.seconds) ↔
        first.seconds - span ≤ t ∧ t < last.seconds) := by
  induction soon generalizing first with
  | nil => cases head
  | singleton now =>
    obtain rfl := Option.some.inj head
    obtain rfl := Option.some.inj final
    simp
  | @cons_cons now later rest gap soon ih =>
    obtain rfl := Option.some.inj head
    obtain ⟨order, joined⟩ := ih rfl (by simpa using final)
    obtain ⟨forward, near⟩ := gap
    refine ⟨Int.le_trans forward order, ?_⟩
    rw [List.exists_mem_cons_iff, joined]
    omega

end Windows

/-- No expired token slips between purges. Over a history of purges, none further from the one
before it than they look back, and of other records that come in, a token is deleted when it
finished before the last purge, and not before the window of the first began; a token that did
not finish stays. -/
theorem purges_leave_no_gap {store : Store} {rows : List Row} {days : Nat}
    {history : List Upkeep} (keeps : store.Keeps rows)
    (dated : ∀ now ∈ purges history, now.Dated)
    (begins : ∀ now ∈ purges history, (now.daysEarlier? days).isSome)
    (soon : (purges history).IsChain (Soon (days * secondsPerDay))) :
    ∃ after left, store.undergo days history = .ok after ∧ after.tokens = some left ∧
      ∀ row ∈ rows, (∀ step ∈ history, step.Spares row.id) →
        (row.finishedAt = none → row ∈ left) ∧
        ∀ t : DateTime, t.Dated → row.finishedAt = some t.text →
          ∀ first last, (purges history).head? = some first →
            (purges history).getLast? = some last →
            (row ∉ left ↔
              first.seconds - days * secondsPerDay ≤ t.seconds ∧ t.seconds < last.seconds) := by
  obtain ⟨after, left, ran, holds, stays⟩ := keeps.undergo begins
  refine ⟨after, left, ran, holds.tokens, fun row member spared => ⟨fun unfinished => ?_, ?_⟩⟩
  · exact (stays row spared).2 ⟨member, fun now _ => not_expiredAt_of_unfinished unfinished now⟩
  · intro t recent finished first last head final
    have expired : (∃ now ∈ purges history, row.ExpiredAt days now) ↔
        ∃ now ∈ purges history, now.seconds - days * secondsPerDay ≤ t.seconds ∧
          t.seconds < now.seconds :=
      exists_congr fun now => and_congr_right fun among =>
        expiredAt_iff (dated now among) recent (begins now among) finished
    rw [← (windows_join soon head final t.seconds).2, ← expired, stays row spared]
    simp [member]

def Store.aging : Store where
  tokens := some [⟨1, 1, some "2024-02-29 23:59:59"⟩, ⟨2, 1, some "2024-02-27 11:59:59"⟩,
    ⟨3, 1, none⟩]

def cleanings : List Upkeep :=
  [.purge ⟨⟨2024, 2, 29⟩, 12, 0, 0, 500⟩, .insert .hmac 7 9 1 (some "2024-02-29 23:00:00"),
    .purge ⟨⟨2024, 3, 2⟩, 12, 0, 0, 0⟩]

theorem cleanings_leave_no_gap :
    (∀ now ∈ purges cleanings, now.Dated ∧ (now.daysEarlier? 2).isSome) ∧
      (purges cleanings).IsChain (Soon (2 * secondsPerDay)) ∧
      ∃ left after, Store.aging.undergo 2 cleanings = .ok after ∧ after.tokens = some left ∧
        ⟨1, 1, some "2024-02-29 23:59:59"⟩ ∉ left ∧ ⟨2, 1, some "2024-02-27 11:59:59"⟩ ∈ left ∧
        ⟨3, 1, none⟩ ∈ left := by
  have times : ∀ now ∈ purges cleanings, now.Dated ∧ (now.daysEarlier? 2).isSome := by
    decide +kernel
  have soon : (purges cleanings).IsChain (Soon (2 * secondsPerDay)) := by decide +kernel
  obtain ⟨after, left, ran, tokens, fate⟩ := @purges_leave_no_gap Store.aging _ 2 cleanings
    ⟨rfl, rfl⟩ (fun now among => (times now among).1) (fun now among => (times now among).2) soon
  obtain ⟨-, between⟩ := fate ⟨1, 1, some "2024-02-29 23:59:59"⟩ (by decide) (by decide)
  obtain ⟨-, early⟩ := fate ⟨2, 1, some "2024-02-27 11:59:59"⟩ (by decide) (by decide)
  obtain ⟨never, -⟩ := fate ⟨3, 1, none⟩ (by decide) (by decide)
  refine ⟨times, soon, left, after, ran, tokens, ?_, ?_, never rfl⟩
  · exact (between ⟨⟨2024, 2, 29⟩, 23, 59, 59, 0⟩ (by decide +kernel) (by decide +kernel) _ _
      rfl rfl).2 (by decide +kernel)
  · refine not_not.1 (mt (early ⟨⟨2024, 2, 27⟩, 11, 59, 59, 0⟩ (by decide +kernel)
      (by decide +kernel) _ _ rfl rfl).1 (by decide +kernel))

def Row.FinishedBetween (first last : Int) (row : Row) : Prop :=
  ∃ t : DateTime, t.Dated ∧ row.finishedAt = some t.text ∧ first ≤ t.seconds ∧ t.seconds < last

def Row.Timed (row : Row) : Prop :=
  ∀ text, row.finishedAt = some text → ∃ t : DateTime, t.Dated ∧ t.text = text

theorem Store.purge_again {store after : Store} {now : DateTime} {days count : Nat}
    (purged : store.purge now days = .ok (after, count)) :
    after.purge now days = .ok (after, 0) := by
  unfold Store.purge at purged
  split at purged
  · cases purged
  next first begins =>
    split at purged
    · cases purged
    next rows table =>
      cases purged
      rw [Store.purge_of_table rfl begins]
      simp [List.countP_filter]

section Window

variable {row : Row} {now first : DateTime} {days : Nat}

/-- A text tells its second, so it does not matter which moment it is taken for. -/
theorem finishedBetween_iff {t : DateTime} (dated : t.Dated)
    (finished : row.finishedAt = some t.text) (first last : Int) :
    row.FinishedBetween first last ↔ first ≤ t.seconds ∧ t.seconds < last := by
  refine ⟨?_, fun inside => ⟨t, dated, finished, inside⟩⟩
  rintro ⟨other, recent, same, inside⟩
  replace same : t.text = other.text := Option.some.inj (finished.symm.trans same)
  have upper := (DateTime.text_lt_text_iff dated recent).not.1 (same ▸ lt_irrefl _)
  have lower := (DateTime.text_lt_text_iff recent dated).not.1 (same ▸ lt_irrefl _)
  omega

theorem finishedWithin_iff_between (timed : row.Timed) (dated : now.Dated)
    (begins : now.daysEarlier? days = some first) :
    Store.finishedWithin first.text now.text row = true ↔
      row.FinishedBetween (now.seconds - days * secondsPerDay) now.seconds := by
  have within : Store.finishedWithin first.text now.text row = true ↔ row.ExpiredAt days now := by
    simp [Row.ExpiredAt, begins]
  have found : (now.daysEarlier? days).isSome := by simp [begins]
  rw [within]
  cases finished : row.finishedAt with
  | none =>
    refine iff_of_false (not_expiredAt_of_unfinished finished now) ?_
    rintro ⟨_, -, same, -⟩
    cases finished.symm.trans same
  | some text =>
    obtain ⟨t, recent, rfl⟩ := timed text finished
    rw [expiredAt_iff dated recent found finished, finishedBetween_iff recent finished]

end Window

/-- A purge is chronological. Where the times of a table are the texts of moments and the window
begins no earlier than dates do, it deletes the tokens that finished before the second of now, by
the given number of days at most, and says how many these are. Every other token stays as it is,
one that did not finish among them, and so do the other tables. The same purge again deletes
nothing. -/
theorem purge_deletes_window {store : Store} {rows : List Row} {now : DateTime} {days : Nat}
    (table : store.tokens = some rows) (timed : ∀ row ∈ rows, row.Timed) (dated : now.Dated)
    (representable : earliest.seconds ≤ now.seconds - days * secondsPerDay) :
    ∃ gone : Row → Bool,
      (∀ row ∈ rows, gone row = true ↔
        row.FinishedBetween (now.seconds - days * secondsPerDay) now.seconds) ∧
      (∀ row ∈ rows, row.finishedAt = none → gone row = false) ∧
      let after := { store with tokens := some (rows.filter (!gone ·)) }
      store.purge now days = .ok (after, rows.countP gone) ∧
        after.purge now days = .ok (after, 0) := by
  have kept : DateTime.minYear ≤ now.date.year := Int.le_trans (by decide) dated.era
  have begins : now.daysEarlier? days ≠ none := by
    rw [Ne, DateTime.daysEarlier?_eq_none_iff dated.regular.date kept,
      dated.regular.departure_eq]
    exact Int.not_lt.2 representable
  obtain ⟨first, begins⟩ := Option.ne_none_iff_exists'.1 begins
  have purged := Store.purge_of_table table begins
  refine ⟨_, fun row member => finishedWithin_iff_between (timed row member) dated begins, ?_,
    purged, Store.purge_again purged⟩
  intro row _ unfinished
  simp [Store.finishedWithin, unfinished]

def Store.ancient : Store where
  tokens := some [⟨1, 1, some "0000-02-29 23:59:59"⟩, ⟨2, 1, some "0000-03-01 12:00:00"⟩,
    ⟨3, 1, none⟩]

/-- The window ends within a second, which is not over, and begins in front of year 0. -/
theorem ancient_deletes_window :
    let now : DateTime := ⟨⟨0, 3, 1⟩, 12, 0, 0, 999999999⟩
    let left : List Row := [⟨2, 1, some "0000-03-01 12:00:00"⟩, ⟨3, 1, none⟩]
    let after := { Store.ancient with tokens := some left }
    (∀ row ∈ (⟨1, 1, some "0000-02-29 23:59:59"⟩ :: left : List Row), row.Timed) ∧ now.Dated ∧
      earliest.seconds ≤ now.seconds - (1000 : Nat) * secondsPerDay ∧
      Store.ancient.purge now 1000 = .ok (after, 1) ∧ after.purge now 1000 = .ok (after, 0) := by
  intro now left after
  have dated : now.Dated := by decide +kernel
  have representable : earliest.seconds ≤ now.seconds - (1000 : Nat) * secondsPerDay := by
    decide +kernel
  let midnight : DateTime := ⟨⟨0, 2, 29⟩, 23, 59, 59, 0⟩
  let noon : DateTime := ⟨⟨0, 3, 1⟩, 12, 0, 0, 0⟩
  obtain ⟨late, lateText⟩ : midnight.Dated ∧ midnight.text = "0000-02-29 23:59:59" := by
    decide +kernel
  obtain ⟨middle, middleText⟩ : noon.Dated ∧ noon.text = "0000-03-01 12:00:00" := by
    decide +kernel
  have timed : ∀ row ∈ (⟨1, 1, some "0000-02-29 23:59:59"⟩ :: left : List Row), row.Timed := by
    simp only [left, List.forall_mem_cons, List.not_mem_nil, IsEmpty.forall_iff, implies_true,
      and_true]
    refine ⟨?_, ?_, nofun⟩
    · rintro _ ⟨⟩
      exact ⟨midnight, late, lateText⟩
    · rintro _ ⟨⟩
      exact ⟨noon, middle, middleText⟩
  obtain ⟨gone, decides, unfinished, purged, again⟩ :=
    @purge_deletes_window Store.ancient _ now 1000 rfl timed dated representable
  have first : gone ⟨1, 1, some "0000-02-29 23:59:59"⟩ = true := by
    rw [decides _ (by simp), finishedBetween_iff late (congrArg some lateText.symm)]
    decide +kernel
  have second : gone ⟨2, 1, some "0000-03-01 12:00:00"⟩ = false := by
    rw [← Bool.not_eq_true, decides _ (by simp),
      finishedBetween_iff middle (congrArg some middleText.symm)]
    decide +kernel
  have third : gone ⟨3, 1, none⟩ = false := unfinished _ (by simp) rfl
  simp only [List.filter_cons, List.countP_cons, List.filter_nil, List.countP_nil, first, second,
    third] at purged again
  exact ⟨timed, dated, representable, purged, again⟩

namespace Store

variable {store : Store}

theorem target_crashes_iff (store : Store) (kind : KeyKind) :
    store.target kind = .error .crashed ↔ ∃ config bytes,
      store.config = some config ∧ config.lookup kind.targetKey = some (.rawText bytes) := by
  cases table : store.config with
  | none => simp [target, table]
  | some config => simpa using (Reading.of_target table kind).eq_crashed_iff

theorem pending_ne_crashed (store : Store) (kind : KeyKind) (version : KeyVersion) :
    store.pending kind version ≠ .error .crashed := by
  unfold pending
  split <;> nofun

theorem purge_crashes_iff (store : Store) {now : DateTime} (valid : now.Valid) (days : Nat) :
    store.purge now days = .error .crashed ↔
      now.departure - days * secondsPerDay < earliest.seconds := by
  rw [← DateTime.daysEarlier?_eq_none_iff valid.1 valid.2.1]
  unfold purge
  cases now.daysEarlier? days with
  | none => simp
  | some first => cases store.tokens <;> simp

end Store

/-- When a store crashes. It does where the target is a text that is no UTF-8, and where a purge
looks back to a second before the first date; a pending range is always found or refused. Any
other target that means nothing is a fault of what is configured. -/
theorem store_crashes_iff (store : Store) (kind : KeyKind) (version : KeyVersion) {now : DateTime}
    (valid : now.Valid) (days : Nat) :
    (store.target kind = .error .crashed ↔ ∃ config bytes,
      store.config = some config ∧ config.lookup kind.targetKey = some (.rawText bytes)) ∧
    (∀ config, store.config = some config →
      ((∃ cause, store.target kind = .error (.config cause)) ↔
        Unusable (config.lookup kind.targetKey))) ∧
    store.pending kind version ≠ .error .crashed ∧
    (store.purge now days = .error .crashed ↔
      now.departure - days * secondsPerDay < earliest.seconds) :=
  ⟨store.target_crashes_iff kind, fun _ table => (Reading.of_target table kind).eq_config_iff,
    store.pending_ne_crashed kind version, store.purge_crashes_iff valid days⟩

/-- From the first day of year 0 a purge can look back to the first of all dates, and no day
further. -/
theorem empty_crashes_iff :
    let now : DateTime := ⟨⟨0, 1, 1⟩, 0, 0, 0, 0⟩
    now.Valid ∧ Store.empty.target .kek ≠ .error .crashed ∧
      Store.empty.purge now 95745764 ≠ .error .crashed ∧
      Store.empty.purge now 95745765 = .error .crashed := by
  intro now
  have valid : now.Valid := by decide
  obtain ⟨target, -, -, fits⟩ := store_crashes_iff .empty .kek 7 valid 95745764
  obtain ⟨-, -, -, exceeds⟩ := store_crashes_iff .empty .kek 7 valid 95745765
  refine ⟨valid, mt target.1 ?_, mt fits.1 (by decide), exceeds.2 (by decide)⟩
  rintro ⟨_, _, ⟨⟩, ⟨⟩⟩

/-- A byte that begins no character crashes the reading of a target, and the longest retention
there is crashes any purge of our time. -/
theorem garbled_store_crashes :
    let store : Store := { config := some [("KEK_TARGET_VERSION", .ofBytes [255])] }
    let now : DateTime := ⟨⟨2025, 7, 1⟩, 12, 0, 0, 0⟩
    now.Valid ∧ store.target .kek = .error .crashed ∧
      store.purge now (UInt32.toNat 4294967295) = .error .crashed := by
  decide +kernel

end KeyRotation
