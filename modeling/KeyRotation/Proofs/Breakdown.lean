import Mathlib
import KeyRotation.Proofs.Course
import KeyRotation.Migration

/-! What a fault does to a run. The call that failed is the last one of all, and its fault is
what the run comes to. Until then the batches of the plan were accepted in order, from the
first one on, and nothing else was sent. -/
namespace KeyRotation

/-- No call ended in a fault. -/
def Faultless (events : List Event) : Prop := ∀ event ∈ events, event.fault? = none

@[simp] theorem faultless_nil : Faultless [] := List.forall_mem_nil _

@[simp] theorem faultless_cons {event : Event} {events : List Event} :
    Faultless (event :: events) ↔ event.fault? = none ∧ Faultless events :=
  List.forall_mem_cons

@[simp] theorem faultless_append {first second : List Event} :
    Faultless (first ++ second) ↔ Faultless first ∧ Faultless second :=
  List.forall_mem_append

theorem Faultless.sent_eq {events : List Event} (clean : Faultless events) :
    sent events = accepted events := by
  induction events with
  | nil => rfl
  | cons event rest ih =>
    obtain ⟨answered, clean⟩ := faultless_cons.1 clean
    rcases event with _ | _ | _ | _ | ⟨_, _, _ | _⟩ <;> simp_all [Event.fault?]

/-- The last call fails, and no other one. -/
structure Failing (events before : List Event) (last : Event) (fault : Fault) : Prop where
  split : events = before ++ [last]
  clean : Faultless before
  failed : last.fault? = some fault

namespace Failing

variable {events before : List Event} {last : Event} {fault : Fault}

theorem prepend (failing : Failing events before last fault) {first : List Event}
    (clean : Faultless first) : Failing (first ++ events) (first ++ before) last fault where
  split := by rw [failing.split, List.append_assoc]
  clean := faultless_append.2 ⟨clean, failing.clean⟩
  failed := failing.failed

theorem unique (failing : Failing events before last fault) {earlier later : List Event}
    {event : Event} {other : Fault} (split : events = earlier ++ event :: later)
    (failed : event.fault? = some other) :
    earlier = before ∧ event = last ∧ later = [] ∧ other = fault := by
  have same := failing.split.symm.trans split
  rcases List.append_eq_append_iff.1 same with ⟨more, rfl, tail⟩ | ⟨more, rfl, tail⟩
  · obtain ⟨rfl, rfl, rfl⟩ : more = [] ∧ event = last ∧ later = [] := by
      cases more <;> simp_all
    exact ⟨List.append_nil _, rfl, rfl, Option.some.inj (failed.symm.trans failing.failed)⟩
  · cases more with
    | nil =>
      obtain ⟨rfl, rfl⟩ : event = last ∧ later = [] := by simpa using tail
      exact ⟨(List.append_nil _).symm, rfl, rfl, Option.some.inj (failed.symm.trans failing.failed)⟩
    | cons first more =>
      obtain ⟨rfl, -⟩ := List.cons.inj tail
      have none := failing.clean event (by simp)
      simp [none] at failed

end Failing

/-- How far a plan got until a fault cut it off: the batches before the one that was refused
are done, or those up to the one whose check failed. -/
inductive CutOff (kind : KeyKind) (plan : List Batch) : (done : List Batch) → Event → Prop where
  | batch {done rest : List Batch} {batch : Batch} {fault : Fault}
      (split : plan = done ++ batch :: rest) :
      CutOff kind plan done (.migrate kind batch (.error fault))
  | check {done rest : List Batch} {batch : Batch} {fault : Fault}
      (split : plan = done ++ batch :: rest) :
      CutOff kind plan (done ++ [batch]) (.target kind (.error fault))

namespace CutOff

variable {kind : KeyKind} {plan done : List Batch} {last : Event}

theorem cons (first : Batch) (cut : CutOff kind plan done last) :
    CutOff kind (first :: plan) (first :: done) last := by
  cases cut with
  | batch split => exact .batch (congrArg (first :: ·) split)
  | @check done _ batch _ split =>
    rw [← List.cons_append]
    exact .check (congrArg (first :: ·) split)

theorem done_prefix (cut : CutOff kind plan done last) : done <+: plan := by
  cases cut with
  | batch split => exact split ▸ List.prefix_append _ _
  | check split => simp [split]

end CutOff

/-- Where a run was when a call failed: it was still finding out what there is to do, which
takes a target, the state of the keys and a range, or it was at work on its plan. -/
inductive Interrupted (kind : KeyKind) (plan : Task → List Batch)
    (found : Except Fault Resolution) : (before : List Event) → Event → Prop where
  | resolving {started : Instant} {calls : List Event} {last : Event} {fault : Fault}
      (failed : found = .error fault) (opening : Opening kind (calls ++ [last]) (.error fault)) :
      Interrupted kind plan found (.now started :: calls) last
  | working {before : List Event} {last : Event} {task : Task}
      (ready : found = .ok (.ready task)) (cut : CutOff kind (plan task) (accepted before) last) :
      Interrupted kind plan found before last

theorem Opening.faultless {kind : KeyKind} {events : List Event} {resolution : Resolution}
    (opening : Opening kind events (.ok resolution)) : Faultless events := by
  cases opening <;> simp [Event.fault?]

theorem Opening.failing {kind : KeyKind} {events : List Event} {fault : Fault}
    (opening : Opening kind events (.error fault)) :
    ∃ before last, Failing events before last fault := by
  cases opening with
  | targetUnread => exact ⟨[], _, rfl, faultless_nil, rfl⟩
  | statusUnread => exact ⟨[_], _, rfl, by simp [Event.fault?], rfl⟩
  | pendingUnread ready => exact ⟨[_, _], _, rfl, by simp [Event.fault?], rfl⟩

theorem Within.faultless {limit : Option Elapsed} {started : Instant} {reading : List Event}
    (within : Within limit started reading) : Faultless reading := by
  cases within <;> simp [Event.fault?]

namespace Rounds

variable {task : Task} {limit : Option Elapsed} {started : Instant} {batches : List Batch}
  {tally : Tally} {events : List Event}

theorem faultless {total : Tally × Reason}
    (rounds : Rounds task limit started batches tally events (.ok total)) : Faultless events := by
  generalize ended : Except.ok total = result at rounds
  induction rounds with
  | finished => exact faultless_nil
  | refused | unread => cases ended
  | drifted | expired => simp [Event.fault?]
  | onward within rounds ih => simp [Event.fault?, within.faultless, ih ended]

/-- Each round that passes adds a batch to those that are done. -/
theorem failing {fault : Fault}
    (rounds : Rounds task limit started batches tally events (.error fault)) :
    ∃ before last, Failing events before last fault ∧
      CutOff task.kind batches (accepted before) last := by
  generalize failed : Except.error fault = result at rounds
  induction rounds with
  | finished | drifted | expired => cases failed
  | refused =>
    cases failed
    exact ⟨[], _, ⟨rfl, faultless_nil, rfl⟩, .batch rfl⟩
  | @unread batch rest tally outcome fault =>
    cases failed
    have cut : CutOff task.kind (batch :: rest) ([] ++ [batch])
        (.target task.kind (.error fault)) := .check rfl
    exact ⟨[.migrate task.kind batch (.ok outcome)], _, ⟨rfl, by simp [Event.fault?], rfl⟩, cut⟩
  | @onward batch rest tally outcome reading later result within rounds ih =>
    obtain ⟨before, last, failing, cut⟩ := ih failed
    have passed : Faultless (.migrate task.kind batch (.ok outcome) ::
        .target task.kind (.ok (some task.target)) :: reading) := by
      simp [Event.fault?, within.faultless]
    refine ⟨_, last, failing.prepend passed, ?_⟩
    simpa [accepted_eq_nil within.sent_eq] using cut.cons batch

end Rounds

section Run

variable {σ : Type} {world : World σ} {kind : KeyKind} {settings : Settings}
  {order : List Batch → List Batch} {s : σ}

theorem faultless_of_report {report : Report}
    (run : ((migrate kind settings order).drive world s).1 = .ok report) :
    Faultless ((migrate kind settings order).trace world s) := by
  have course := course_trace world kind settings order s
  rw [run] at course
  generalize (migrate kind settings order).trace world s = events at course ⊢
  cases course with
  | skipped opening => simp [Event.fault?, opening.faultless]
  | worked opening rounds closing =>
    cases closing
    simp [Event.fault?, opening.faultless, rounds.faultless]

theorem interrupted_of_fault {fault : Fault}
    (run : ((migrate kind settings order).drive world s).1 = .error fault) :
    ∃ before last,
      Failing ((migrate kind settings order).trace world s) before last fault ∧
      Interrupted kind (Task.batches · settings order)
        ((resolve kind).drive world (world s .now).2).1 before last := by
  have begun : Faultless [.now (world s .now).1] := by simp [Event.fault?]
  rcases resolves : (resolve kind).drive world (world s .now).2 with
    ⟨fault | task | ⟨target, reason⟩, t⟩
  · obtain ⟨events, result⟩ := unresolved_trace settings order resolves
    obtain rfl := Except.error.inj (result.symm.trans run)
    have opening := opening_trace world kind (world s .now).2
    rw [resolves] at opening
    obtain ⟨before, last, failing⟩ := opening.failing
    rw [events]
    exact ⟨_, last, failing.prepend begun, .resolving rfl (failing.split ▸ opening)⟩
  · obtain ⟨first, later, ending, outcome, u, events, opening, -, rounds, -, closing, -⟩ :=
      worked_trace settings order resolves
    rw [run] at closing
    cases closing
    obtain ⟨before, last, failing, cut⟩ := rounds.failing
    rw [opening.kind_eq] at cut
    rw [events, List.append_nil]
    refine ⟨_, last, (failing.prepend opening.faultless).prepend begun, .working rfl ?_⟩
    simpa [accepted_eq_nil opening.sent_eq] using cut
  · simp [(skipped_trace settings order resolves).2] at run

end Run

/-- Wherever a call fails, it is the only one that does, and the last of the whole run; the run
comes to that very fault. By then the first batches of the plan were sent, in order and each
once, and all of them were accepted. Without a fault from outside a run comes to none. -/
theorem migrate_ends_at_first_fault {σ : Type} (world : World σ) (kind : KeyKind)
    (settings : Settings) (order : List Batch → List Batch)
    (permutes : ∀ batches, (order batches).Perm batches) (s : σ) :
    let events := (migrate kind settings order).trace world s
    let result := ((migrate kind settings order).drive world s).1
    let found := ((resolve kind).drive world (world s .now).2).1
    (∀ before event after fault, events = before ++ event :: after →
      event.fault? = some fault →
      after = [] ∧ Faultless before ∧ result = .error fault ∧
        sent before = accepted before ∧ (accepted before).Nodup ∧
        Interrupted kind (Task.batches · settings order) found before event) ∧
      (∀ fault, result = .error fault → ∃ event ∈ events, event.fault? = some fault) := by
  intro events result found
  refine ⟨fun before event after fault split failed => ?_, fun fault run => ?_⟩
  · rcases run : result with first | report
    · obtain ⟨clean, last, failing, interrupted⟩ := interrupted_of_fault run
      obtain ⟨rfl, rfl, rfl, rfl⟩ := failing.unique split failed
      refine ⟨rfl, failing.clean, rfl, failing.clean.sent_eq, ?_, interrupted⟩
      cases interrupted with
      | resolving broken opening =>
        have idle := opening.sent_eq
        rw [sent_append, List.append_eq_nil_iff] at idle
        simp [accepted_eq_nil idle.1]
      | @working _ _ task ready cut =>
        exact (task.partition_batches settings order permutes).nodup.sublist cut.done_prefix.sublist
    · have clean := faultless_of_report run event (by simp [events, split])
      simp [clean] at failed
  · obtain ⟨before, last, failing, -⟩ := interrupted_of_fault run
    exact ⟨last, by simp [events, failing.split], failing.failed⟩

/-- A shuffled run that cannot read its target after the second of three batches. -/
def unreadSecond : Script where
  targets := [.ok (some 7), .ok (some 7), .error .sql]
  statuses := [.ok (KeyInventory.empty.insert .kek 7 ⟨true, true, none⟩)]
  ranges := [.ok (IdRange.of? (-3) 5)]

theorem unreadSecond_ends :
    let settings : Settings := ⟨4, none, true, by decide⟩
    let before : List Event := [.now 0, .target .kek (.ok (some 7)),
      .status (.ok (KeyInventory.empty.insert .kek 7 ⟨true, true, none⟩)),
      .pending .kek 7 (.ok (IdRange.of? (-3) 5)),
      .migrate .kek ⟨5, 5⟩ (.ok ⟨1, 0⟩), .target .kek (.ok (some 7)),
      .migrate .kek ⟨1, 4⟩ (.ok ⟨4, 0⟩)]
    (∀ batches : List Batch, batches.reverse.Perm batches) ∧
      (migrate .kek settings List.reverse).trace Script.world unreadSecond =
        before ++ [.target .kek (.error .sql)] ∧
      ((migrate .kek settings List.reverse).drive Script.world unreadSecond).1 = .error .sql ∧
      accepted before = [⟨5, 5⟩, ⟨1, 4⟩] ∧
      Interrupted .kek (Task.batches · settings List.reverse)
        (.ok (.ready ⟨.kek, 7, ⟨-3, 5, by decide⟩⟩)) before (.target .kek (.error .sql)) := by
  intro settings before
  have split : (migrate .kek settings List.reverse).trace Script.world unreadSecond =
      before ++ [.target .kek (.error .sql)] := by cbv
  have found : ((resolve .kek).drive Script.world (Script.world unreadSecond .now).2).1 =
      .ok (.ready ⟨.kek, 7, ⟨-3, 5, by decide⟩⟩) := by cbv
  obtain ⟨-, -, run, -, -, interrupted⟩ := (migrate_ends_at_first_fault Script.world .kek settings
    List.reverse List.reverse_perm unreadSecond).1 before _ [] .sql split rfl
  exact ⟨List.reverse_perm, split, run, rfl, found ▸ interrupted⟩

end KeyRotation
