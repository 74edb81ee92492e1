import KeyRotation.Proofs.Conversation

/-! Where a run stops, and why. The world alone decides it: each check of a plan has an
answer whether a run gets there or not, and a run sends the batches up to the first check
that stops it. -/
namespace KeyRotation

/-- What the check after a batch is told: the target, and the time since the run began. -/
structure Check where
  target : Option KeyVersion
  elapsed : Elapsed
  deriving DecidableEq, Repr

def Check.stops (pinned : KeyVersion) (limit : Option Elapsed) (check : Check) : Bool :=
  check.target != some pinned || limit.any fun most => decide (most ≤ check.elapsed)

/-- The checks of a plan in a world that is sent all of it. Without a limit nobody looks at
the clock, so it does not go on; a fault tells of no target. -/
def checks {σ : Type} (world : World σ) (kind : KeyKind) (limit : Option Elapsed)
    (started : Instant) : List Batch → σ → List Check
  | [], _ => []
  | batch :: rest, s =>
    let read := world (world s (.migrate kind batch)).2 (.target kind)
    let timed := world read.2 .now
    ⟨read.1.toOption.join, Elapsed.since started timed.1⟩ ::
      checks world kind limit started rest (if limit.isSome then timed.2 else read.2)

theorem checks_of_within {σ : Type} {world : World σ} {kind : KeyKind} {limit : Option Elapsed}
    {started : Instant} {pinned : KeyVersion} {batch : Batch} {reading : List Event} {s u : σ}
    (rest : List Batch)
    (read : (world (world s (.migrate kind batch)).2 (.target kind)).1 = .ok (some pinned))
    (within : Within limit started reading)
    (clock : world.Path (world (world s (.migrate kind batch)).2 (.target kind)).2 reading u) :
    ∃ check, check.stops pinned limit = false ∧
      checks world kind limit started (batch :: rest) s =
        check :: checks world kind limit started rest u := by
  cases within with
  | unlimited =>
    obtain rfl := clock
    exact ⟨⟨some pinned, _⟩, by simp [Check.stops], by rw [checks, read]; rfl⟩
  | early early =>
    rw [World.path_now] at clock
    obtain ⟨rfl, rfl⟩ := clock
    refine ⟨⟨some pinned, _⟩, ?_, by rw [checks, read]; rfl⟩
    simpa [Check.stops] using early

theorem Elapsed.since_mono {started now later : Instant} (order : now ≤ later) :
    Elapsed.since started now ≤ Elapsed.since started later :=
  Int.toNat_le_toNat (Int.sub_le_sub_right order started)

namespace Rounds

variable {task : Task} {limit : Option Elapsed} {started : Instant} {batches : List Batch}
  {tally : Tally} {events : List Event}

theorem faulty {fault : Fault}
    (rounds : Rounds task limit started batches tally events (.error fault)) :
    ∃ event ∈ events, event.fault? = some fault := by
  generalize failed : Except.error fault = result at rounds
  induction rounds with
  | refused | unread =>
    cases failed
    simp [Event.fault?]
  | finished | drifted | expired => cases failed
  | onward within rounds ih =>
    obtain ⟨event, member, found⟩ := ih failed
    exact ⟨event, by simp [member], found⟩

theorem sent_ne_nil {result : Except Fault (Tally × Reason)} (work : batches ≠ [])
    (rounds : Rounds task limit started batches tally events result) : sent events ≠ [] := by
  cases rounds with
  | finished => exact absurd rfl work
  | refused | unread | drifted | expired | onward => simp

theorem spent {after : Tally}
    (rounds : Rounds task limit started batches tally events (.ok (after, .timeLimitReached))) :
    ∃ most now, limit = some most ∧ now ∈ readings events ∧ most ≤ Elapsed.since started now := by
  generalize ended : Except.ok (after, Reason.timeLimitReached) = result at rounds
  induction rounds with
  | finished | refused | unread | drifted => cases ended
  | @expired _ _ _ _ most now limited spent => exact ⟨most, now, limited, by simp, spent⟩
  | onward within rounds ih =>
    obtain ⟨most, now, limited, member, spent⟩ := ih ended
    exact ⟨most, now, limited, by simp [member], spent⟩

/-- The loop sends the batches up to the first check that stops it, or all of them. -/
theorem sent_eq {σ : Type} {world : World σ} {s t : σ} {after : Tally} {reason : Reason}
    (rounds : Rounds task limit started batches tally events (.ok (after, reason)))
    (path : world.Path s events t) :
    sent events =
      (match (checks world task.kind limit started batches s).findIdx?
          (Check.stops task.target limit) with
        | some k => batches.take (k + 1)
        | none => batches) ∧
    reason =
      (match (checks world task.kind limit started batches s).find?
          (Check.stops task.target limit) with
        | some check =>
          if check.target = some task.target then .timeLimitReached else .versionDrifted
        | none => .completed) := by
  generalize ended : Except.ok (after, reason) = result at rounds
  induction rounds generalizing s with
  | finished =>
    cases ended
    exact ⟨rfl, rfl⟩
  | refused | unread => cases ended
  | @drifted _ _ _ _ current moved =>
    cases ended
    rw [World.path_migrate, World.path_target] at path
    obtain ⟨sent, read, rfl⟩ := path
    have halts (elapsed : Elapsed) : Check.stops task.target limit ⟨current, elapsed⟩ = true := by
      simp [Check.stops, moved]
    simp [checks, read, Except.toOption, List.findIdx?_cons, halts, moved]
  | @expired _ _ _ _ most now limited spent =>
    cases ended
    rw [World.path_migrate, World.path_target, World.path_now] at path
    obtain ⟨sent, read, timed, rfl⟩ := path
    have halts : Check.stops task.target limit
        ⟨some task.target, Elapsed.since started now⟩ = true := by
      simp [Check.stops, limited, spent]
    simp [checks, read, timed, Except.toOption, List.findIdx?_cons, halts]
  | @onward batch rest tally outcome reading later result within rounds ih =>
    rw [World.path_migrate, World.path_target, World.path_append] at path
    obtain ⟨_, read, u, clock, path⟩ := path
    obtain ⟨prefixed, why⟩ := ih path ended
    obtain ⟨check, passes, split⟩ := checks_of_within rest read within clock
    rw [split, why]
    -- This check passes, so the first one that stops the loop is one later than in the rest.
    simp only [sent, sent_append, within.sent_eq, List.nil_append, prefixed, List.findIdx?_cons,
      List.find?_cons, passes]
    cases (checks world task.kind limit started rest u).findIdx?
      (Check.stops task.target limit) <;> simp

theorem length_sent_le {σ : Type} {world : World σ} {s t : σ} {after : Tally} {reason : Reason}
    (rounds : Rounds task limit started batches tally events (.ok (after, reason)))
    (path : world.Path s events t) {i : Nat} {check : Check}
    (found : (checks world task.kind limit started batches s)[i]? = some check)
    (halts : check.stops task.target limit = true) : (sent events).length ≤ i + 1 := by
  rw [(rounds.sent_eq path).1]
  cases first : (checks world task.kind limit started batches s).findIdx?
      (Check.stops task.target limit) with
  | none =>
    have passes := List.findIdx?_eq_none_iff.1 first check (List.mem_of_getElem? found)
    simp [halts] at passes
  | some k =>
    obtain ⟨_, _, least⟩ := List.findIdx?_eq_some_iff_getElem.1 first
    obtain ⟨inside, rfl⟩ := List.getElem?_eq_some_iff.1 found
    have early : k ≤ i := Nat.le_of_not_lt fun later => least i later halts
    exact Nat.le_trans (List.length_take_le _ _) (Nat.succ_le_succ early)

end Rounds

/-- Where a run stops that hears of no fault. It sends the batches of its plan up to the
first check that stops it, or all of them, and so at least one. A target that moved comes
before a limit that is used up; with a clock that never goes back, a run that stops for its
limit reports at least that time. -/
theorem migrate_stops_at_first_check {σ : Type} (world : World σ) (kind : KeyKind)
    (settings : Settings) (order : List Batch → List Batch)
    (permutes : ∀ batches, (order batches).Perm batches) {s t : σ} {task : Task}
    (resolves : (resolve kind).drive world (world s .now).2 = (.ok (.ready task), t))
    (faultless : ∀ event ∈ (migrate kind settings order).trace world s, event.fault? = none) :
    let limit := settings.timeLimit
    let events := (migrate kind settings order).trace world s
    let plan := task.batches settings order
    let told := checks world kind limit (world s .now).1 plan t
    ∃ report, ((migrate kind settings order).drive world s).1 = .ok report ∧
      (∀ k check, told.findIdx? (Check.stops task.target limit) = some k →
        told[k]? = some check →
        sent events = plan.take (k + 1) ∧
        (check.target ≠ some task.target → report.reason = .versionDrifted) ∧
        (check.target = some task.target → report.reason = .timeLimitReached)) ∧
      (told.findIdx? (Check.stops task.target limit) = none →
        sent events = plan ∧ report.reason = .completed) ∧
      sent events ≠ [] ∧
      (∀ i check, told[i]? = some check → check.stops task.target limit = true →
        (sent events).length ≤ i + 1) ∧
      ((readings events).Pairwise (· ≤ ·) → report.reason = .timeLimitReached →
        ∃ most, limit = some most ∧ most ≤ report.elapsed) := by
  intro limit events plan told
  obtain ⟨opening, later, ending, outcome, u, split, resolution, -, rounds, during, closing, -⟩ :=
    worked_trace settings order resolves
  obtain rfl : task.kind = kind := resolution.kind_eq
  rcases outcome with fault | ⟨tally, reason⟩
  · obtain ⟨event, member, found⟩ := rounds.faulty
    have clean := faultless event (by simp [split, member])
    simp [found] at clean
  generalize ((migrate task.kind settings order).drive world s).1 = result at closing
  cases closing with | @reported _ _ ended =>
  have same : sent events = sent later := by simp [events, split, resolution.sent_eq]
  obtain ⟨sends, why⟩ := rounds.sent_eq during
  change sent later = (match told.findIdx? (Check.stops task.target limit) with
    | some k => plan.take (k + 1)
    | none => plan) at sends
  change reason = (match told.find? (Check.stops task.target limit) with
    | some check => if check.target = some task.target then .timeLimitReached else .versionDrifted
    | none => .completed) at why
  rw [List.find?_eq_bind_findIdx?_getElem?] at why
  rw [same]
  refine ⟨_, rfl, ?_, ?_, ?_, ?_, ?_⟩
  · intro k check first found
    simp only [first, found, Option.bind_some] at sends why
    refine ⟨sends, fun moved => ?_, fun still => ?_⟩
    · exact why.trans (if_neg moved)
    · exact why.trans (if_pos still)
  · intro passes
    simp only [passes, Option.bind_none] at sends why
    exact ⟨sends, why⟩
  · exact rounds.sent_ne_nil (task.partition_batches settings order permutes).nonempty
  · intro i check found halts
    exact rounds.length_sent_le during found halts
  · intro ascending stopped
    obtain rfl : reason = .timeLimitReached := stopped
    obtain ⟨most, now, limited, member, spent⟩ := rounds.spent
    refine ⟨most, limited, Nat.le_trans spent (Elapsed.since_mono ?_)⟩
    simp only [events, split, readings, readings_append, List.pairwise_cons,
      List.pairwise_append] at ascending
    exact ascending.2.2.1.2.2 now member ended (by simp)

/-- A shuffled run whose target moves at the check at which its time is also used up. -/
def movedLate : Script where
  targets := [.ok (some 7), .ok (some 7), .ok (some 8)]
  statuses := [.ok (KeyInventory.empty.insert .kek 7 ⟨true, true, none⟩)]
  ranges := [.ok (IdRange.of? (-3) 5)]
  costs := [1, 5]

theorem movedLate_stops :
    let settings : Settings := ⟨4, some 6, true, by decide⟩
    let task : Task := ⟨.kek, 7, ⟨-3, 5, by decide⟩⟩
    let begun := { movedLate with targets := [.ok (some 7), .ok (some 8)] }
    let events := (migrate .kek settings List.reverse).trace Script.world movedLate
    (∀ batches : List Batch, batches.reverse.Perm batches) ∧
      (resolve .kek).drive Script.world (Script.world movedLate .now).2 =
        (.ok (.ready task), begun) ∧
      (∀ event ∈ events, event.fault? = none) ∧
      checks Script.world .kek (some 6) 0 (task.batches settings List.reverse) begun =
        [⟨some 7, 1⟩, ⟨some 8, 6⟩, ⟨some 8, 11⟩] ∧
      sent events = [⟨5, 5⟩, ⟨1, 4⟩] ∧
      ∃ report, ((migrate .kek settings List.reverse).drive Script.world movedLate).1 =
        .ok report ∧ report.reason = .versionDrifted := by
  intro settings task begun events
  have resolves : (resolve .kek).drive Script.world (Script.world movedLate .now).2 =
      (.ok (.ready task), begun) := by cbv
  have faultless : ∀ event ∈ events, event.fault? = none := by
    have clean : events.all (·.fault?.isNone) = true := by cbv
    intro event member
    exact Option.isNone_iff_eq_none.1 (List.all_eq_true.1 clean event member)
  have told : checks Script.world .kek (some 6) 0 (task.batches settings List.reverse) begun =
      [⟨some 7, 1⟩, ⟨some 8, 6⟩, ⟨some 8, 11⟩] := by cbv
  obtain ⟨report, run, stopped, -⟩ := migrate_stops_at_first_check Script.world .kek settings
    List.reverse List.reverse_perm resolves faultless
  obtain ⟨prefixed, moved, -⟩ := stopped 1 ⟨some 8, 6⟩
    (Eq.trans (congrArg _ told) (by decide)) (Eq.trans (congrArg (·[1]?) told) rfl)
  exact ⟨List.reverse_perm, resolves, faultless, told, prefixed.trans (by cbv), report, run,
    moved (by decide)⟩

end KeyRotation
