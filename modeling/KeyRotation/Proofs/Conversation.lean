import Mathlib
import KeyRotation.Proofs.Course
import KeyRotation.Migration

/-! What a run says to the store and to the authority, and in which order: a target, the
state of the keys, a range, and then its batches, each followed by a look at the target.
Every step is there because the reply before it asked for it. -/
namespace KeyRotation

/-- The requests for batches. Each is followed by one reading of the target, and another
one is sent only while that is the target the run began with. -/
inductive Pairs (kind : KeyKind) (target : KeyVersion) : List Batch → List Event → Prop where
  | refused {batch : Batch} {fault : Fault} :
      Pairs kind target [batch] [.migrate kind batch (.error fault)]
  | unread {batch : Batch} {outcome : BatchOutcome} {fault : Fault} :
      Pairs kind target [batch]
        [.migrate kind batch (.ok outcome), .target kind (.error fault)]
  | last {batch : Batch} {outcome : BatchOutcome} {current : Option KeyVersion} :
      Pairs kind target [batch]
        [.migrate kind batch (.ok outcome), .target kind (.ok current)]
  | more {batch : Batch} {outcome : BatchOutcome} {batches : List Batch} {calls : List Event}
      (later : Pairs kind target batches calls) :
      Pairs kind target (batch :: batches)
        (.migrate kind batch (.ok outcome) :: .target kind (.ok (some target)) :: calls)

/-- The calls of a run, without those to the clock, and what it comes to. Only a fault
cuts them short, and then nothing follows it. -/
inductive Conversation (kind : KeyKind) (settings : Settings) (order : List Batch → List Batch) :
    List Event → Except Fault Report → Prop where
  | unresolved {calls : List Event} {fault : Fault} (opening : Opening kind calls (.error fault)) :
      Conversation kind settings order calls (.error fault)
  | gated {calls : List Event} {target : Option KeyVersion} {reason : Reason} {elapsed : Elapsed}
      (opening : Opening kind calls (.ok (.skip target reason))) :
      Conversation kind settings order calls (.ok {
        kind, target, reason, elapsed, converted := 0, failed := 0, planned := 0, done := 0 })
  | worked {first calls : List Event} {task : Task} {batches : List Batch}
      {result : Except Fault Report} (opening : Opening kind first (.ok (.ready task)))
      (pairs : Pairs kind task.target batches calls) (distinct : batches.Nodup)
      (planned : batches ⊆ task.batches settings order) :
      Conversation kind settings order (first ++ calls) result

theorem Opening.filter_isRemote {kind : KeyKind} {calls : List Event}
    {result : Except Fault Resolution} (opening : Opening kind calls result) :
    calls.filter Event.isRemote = calls := by
  cases opening <;> rfl

theorem Within.filter_isRemote {limit : Option Elapsed} {started : Instant} {reading : List Event}
    (within : Within limit started reading) : reading.filter Event.isRemote = [] := by
  cases within <;> rfl

namespace Rounds

variable {task : Task} {limit : Option Elapsed} {started : Instant} {batches : List Batch}
  {tally : Tally} {events : List Event} {result : Except Fault (Tally × Reason)}

theorem sent_prefix (rounds : Rounds task limit started batches tally events result) :
    sent events <+: batches := by
  induction rounds with
  | finished => exact List.nil_prefix
  | refused | unread | drifted | expired => simp
  | onward within rounds ih => simpa [within.sent_eq] using ih

theorem pairs (rounds : Rounds task limit started batches tally events result)
    (work : batches ≠ []) :
    Pairs task.kind task.target (sent events) (events.filter Event.isRemote) := by
  induction rounds with
  | finished => exact absurd rfl work
  | refused => exact .refused
  | unread => exact .unread
  | drifted moved => exact .last
  | expired limited spent => exact .last
  | @onward batch rest tally outcome reading later result within rounds ih =>
    simp only [sent, sent_append, within.sent_eq, List.nil_append, List.filter_cons,
      List.filter_append, within.filter_isRemote, Event.isRemote, if_true]
    cases rest with
    | nil =>
      cases rounds
      exact .last
    | cons next rest => exact .more (ih (List.cons_ne_nil _ _))

end Rounds

theorem Closing.filter_isRemote {started : Instant} {outcome : Except Fault (Tally × Reason)}
    {ending : List Event} {result : Except Fault Report}
    (closing : Closing started outcome ending result) : ending.filter Event.isRemote = [] := by
  cases closing <;> rfl

theorem Course.conversation {kind : KeyKind} {settings : Settings}
    {order : List Batch → List Batch} (permutes : ∀ batches, (order batches).Perm batches)
    {events : List Event} {result : Except Fault Report}
    (course : Course kind settings order events result) :
    Conversation kind settings order (events.filter Event.isRemote) result := by
  cases course with
  | unresolved opening =>
    simp only [List.filter_cons, Event.isRemote, opening.filter_isRemote]
    exact .unresolved opening
  | skipped opening =>
    simp only [List.filter_cons, List.filter_append, Event.isRemote, opening.filter_isRemote,
      Bool.false_eq_true, if_false, List.filter_nil, List.append_nil]
    exact .gated opening
  | @worked _ _ _ _ task _ _ opening rounds closing =>
    simp only [List.filter_cons, List.filter_append, Event.isRemote, opening.filter_isRemote,
      closing.filter_isRemote, Bool.false_eq_true, if_false, List.append_nil]
    have partition := task.partition_batches settings order permutes
    have prefixed := rounds.sent_prefix
    refine .worked opening ?_ (partition.nodup.sublist prefixed.sublist) prefixed.subset
    rw [← opening.kind_eq]
    exact rounds.pairs partition.nonempty

/-- The conversation of a run in any world. What is sent are batches of the plan for the
range that was answered, each at most once. -/
theorem conversation_migrate {σ : Type} (world : World σ) (kind : KeyKind) (settings : Settings)
    (order : List Batch → List Batch) (permutes : ∀ batches, (order batches).Perm batches) (s : σ) :
    Conversation kind settings order
      (((migrate kind settings order).trace world s).filter Event.isRemote)
      ((migrate kind settings order).drive world s).1 :=
  (course_trace world kind settings order s).conversation permutes

/-- A shuffled run that is refused the second of its three batches. -/
def refusedSecond : Script where
  targets := [.ok (some 7)]
  statuses := [.ok (KeyInventory.empty.insert .kek 7 ⟨true, true, none⟩)]
  ranges := [.ok (IdRange.of? (-3) 5)]
  outcomes := [.ok ⟨1, 0⟩, .error .http]

theorem conversation_refusedSecond :
    (∀ batches : List Batch, batches.reverse.Perm batches) ∧
      Conversation .kek ⟨4, none, true, by decide⟩ List.reverse
        [.target .kek (.ok (some 7)),
          .status (.ok (KeyInventory.empty.insert .kek 7 ⟨true, true, none⟩)),
          .pending .kek 7 (.ok (IdRange.of? (-3) 5)),
          .migrate .kek ⟨5, 5⟩ (.ok ⟨1, 0⟩), .target .kek (.ok (some 7)),
          .migrate .kek ⟨1, 4⟩ (.error .http)] (.error .http) := by
  refine ⟨List.reverse_perm, Eq.mp ?_ (conversation_migrate Script.world .kek
    ⟨4, none, true, by decide⟩ List.reverse List.reverse_perm refusedSecond)⟩
  cbv

end KeyRotation
