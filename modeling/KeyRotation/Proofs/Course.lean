import KeyRotation.Proofs.Partition
import KeyRotation.Proofs.Trace

/-! Every way in which a run can go, as the calls it makes and the replies it gets. What a
run does is read off here, without its definition. -/
namespace KeyRotation

/-- How a run finds out what it has to do. -/
inductive Opening (kind : KeyKind) : List Event → Except Fault Resolution → Prop where
  | targetUnread {fault : Fault} :
      Opening kind [.target kind (.error fault)] (.error fault)
  | noTarget :
      Opening kind [.target kind (.ok none)] (.ok (.skip none .nothingToDo))
  | statusUnread {target : KeyVersion} {fault : Fault} :
      Opening kind [.target kind (.ok (some target)), .status (.error fault)] (.error fault)
  | notReady {target : KeyVersion} {keys : KeyInventory}
      (unready : keys.isReady kind target = false) :
      Opening kind [.target kind (.ok (some target)), .status (.ok keys)]
        (.ok (.skip (some target) .targetNotReady))
  | pendingUnread {target : KeyVersion} {keys : KeyInventory} {fault : Fault}
      (ready : keys.isReady kind target = true) :
      Opening kind [.target kind (.ok (some target)), .status (.ok keys),
        .pending kind target (.error fault)] (.error fault)
  | nonePending {target : KeyVersion} {keys : KeyInventory}
      (ready : keys.isReady kind target = true) :
      Opening kind [.target kind (.ok (some target)), .status (.ok keys),
        .pending kind target (.ok none)] (.ok (.skip (some target) .nothingToDo))
  | work {target : KeyVersion} {keys : KeyInventory} {range : IdRange}
      (ready : keys.isReady kind target = true) :
      Opening kind [.target kind (.ok (some target)), .status (.ok keys),
        .pending kind target (.ok (some range))] (.ok (.ready ⟨kind, target, range⟩))

/-- The reading of the clock after a batch that leaves time for another one. Without a
limit the clock is not read. -/
inductive Within : Option Elapsed → Instant → List Event → Prop where
  | unlimited {started : Instant} : Within none started []
  | early {most : Elapsed} {started now : Instant} (early : Elapsed.since started now < most) :
      Within (some most) started [.now now]

/-- How the batches still to come can go, each with the check that follows it. -/
inductive Rounds (task : Task) (limit : Option Elapsed) (started : Instant) :
    List Batch → Tally → List Event → Except Fault (Tally × Reason) → Prop where
  | finished {tally : Tally} :
      Rounds task limit started [] tally [] (.ok (tally, .completed))
  | refused {batch : Batch} {rest : List Batch} {tally : Tally} {fault : Fault} :
      Rounds task limit started (batch :: rest) tally
        [.migrate task.kind batch (.error fault)] (.error fault)
  | unread {batch : Batch} {rest : List Batch} {tally : Tally} {outcome : BatchOutcome}
      {fault : Fault} :
      Rounds task limit started (batch :: rest) tally
        [.migrate task.kind batch (.ok outcome), .target task.kind (.error fault)] (.error fault)
  | drifted {batch : Batch} {rest : List Batch} {tally : Tally} {outcome : BatchOutcome}
      {current : Option KeyVersion} (moved : current ≠ some task.target) :
      Rounds task limit started (batch :: rest) tally
        [.migrate task.kind batch (.ok outcome), .target task.kind (.ok current)]
        (.ok (tally.add outcome, .versionDrifted))
  | expired {batch : Batch} {rest : List Batch} {tally : Tally} {outcome : BatchOutcome}
      {most : Elapsed} {now : Instant} (limited : limit = some most)
      (spent : most ≤ Elapsed.since started now) :
      Rounds task limit started (batch :: rest) tally
        [.migrate task.kind batch (.ok outcome), .target task.kind (.ok (some task.target)),
          .now now]
        (.ok (tally.add outcome, .timeLimitReached))
  | onward {batch : Batch} {rest : List Batch} {tally : Tally} {outcome : BatchOutcome}
      {reading later : List Event} {result : Except Fault (Tally × Reason)}
      (within : Within limit started reading)
      (rounds : Rounds task limit started rest (tally.add outcome) later result) :
      Rounds task limit started (batch :: rest) tally
        (.migrate task.kind batch (.ok outcome) :: .target task.kind (.ok (some task.target)) ::
          (reading ++ later)) result

/-- How a run ends once its batches are behind it: a fault ends it at once, and a report
takes one more reading of the clock. -/
inductive Closing (started : Instant) :
    Except Fault (Tally × Reason) → List Event → Except Fault Report → Prop where
  | failed {fault : Fault} : Closing started (.error fault) [] (.error fault)
  | reported {tally : Tally} {reason : Reason} {ended : Instant} :
      Closing started (.ok (tally, reason)) [.now ended]
        (.ok (tally.report reason (Elapsed.since started ended)))

def Task.tally (task : Task) (settings : Settings) (order : List Batch → List Batch) : Tally :=
  ((Tally.start task.kind).withTarget task.target).withPlanned (task.plan settings order).length

@[simp] theorem Task.converted_tally (task : Task) (settings : Settings)
    (order : List Batch → List Batch) : (task.tally settings order).converted = 0 := rfl

@[simp] theorem Task.failed_tally (task : Task) (settings : Settings)
    (order : List Batch → List Batch) : (task.tally settings order).failed = 0 := rfl

/-- How a run can go from its first reading of the clock to its last. -/
inductive Course (kind : KeyKind) (settings : Settings) (order : List Batch → List Batch) :
    List Event → Except Fault Report → Prop where
  | unresolved {started : Instant} {opening : List Event} {fault : Fault}
      (resolves : Opening kind opening (.error fault)) :
      Course kind settings order (.now started :: opening) (.error fault)
  | skipped {started ended : Instant} {opening : List Event} {target : Option KeyVersion}
      {reason : Reason} (resolves : Opening kind opening (.ok (.skip target reason))) :
      Course kind settings order (.now started :: (opening ++ [.now ended]))
        (.ok ({ Tally.start kind with target }.report reason (Elapsed.since started ended)))
  | worked {started : Instant} {opening later ending : List Event} {task : Task}
      {outcome : Except Fault (Tally × Reason)} {result : Except Fault Report}
      (resolves : Opening kind opening (.ok (.ready task)))
      (rounds : Rounds task settings.timeLimit started (task.batches settings order)
        (task.tally settings order) later outcome)
      (closes : Closing started outcome ending result) :
      Course kind settings order (.now started :: (opening ++ (later ++ ending))) result

theorem Opening.sent_eq {kind : KeyKind} {events : List Event}
    {result : Except Fault Resolution} (opening : Opening kind events result) :
    sent events = [] := by
  cases opening <;> rfl

theorem Opening.reason_ne_completed {kind : KeyKind} {events : List Event}
    {target : Option KeyVersion} {reason : Reason}
    (opening : Opening kind events (.ok (.skip target reason))) : reason ≠ .completed := by
  cases opening <;> nofun

theorem Within.sent_eq {limit : Option Elapsed} {started : Instant} {reading : List Event}
    (within : Within limit started reading) : sent reading = [] := by
  cases within <;> rfl

theorem Closing.sent_eq {started : Instant} {outcome : Except Fault (Tally × Reason)}
    {ending : List Event} {result : Except Fault Report}
    (closing : Closing started outcome ending result) : sent ending = [] := by
  cases closing <;> rfl

theorem Rounds.accepted_prefix {task : Task} {limit : Option Elapsed} {started : Instant}
    {batches : List Batch} {tally : Tally} {events : List Event}
    {result : Except Fault (Tally × Reason)}
    (rounds : Rounds task limit started batches tally events result) :
    accepted events <+: batches := by
  induction rounds with
  | finished | refused => exact List.nil_prefix
  | unread | drifted | expired => simp
  | onward within rounds ih => simpa [accepted_eq_nil within.sent_eq] using ih

theorem Rounds.accepted_eq_or_stopped {task : Task} {limit : Option Elapsed} {started : Instant}
    {batches : List Batch} {tally total : Tally} {reason : Reason} {events : List Event}
    (rounds : Rounds task limit started batches tally events (.ok (total, reason))) :
    accepted events = batches ∨ reason = .versionDrifted ∨ reason = .timeLimitReached := by
  generalize ended : Except.ok (total, reason) = result at rounds
  induction rounds with
  | finished => exact .inl rfl
  | refused | unread => cases ended
  | drifted =>
    cases ended
    exact .inr (.inl rfl)
  | expired =>
    cases ended
    exact .inr (.inr rfl)
  | onward within rounds ih =>
    simpa [accepted_eq_nil within.sent_eq] using ih ended

theorem Rounds.accepted_eq {task : Task} {limit : Option Elapsed} {started : Instant}
    {batches : List Batch} {tally total : Tally} {events : List Event}
    (rounds : Rounds task limit started batches tally events (.ok (total, .completed))) :
    accepted events = batches :=
  rounds.accepted_eq_or_stopped.resolve_right (by simp)

/-- How a run that completes has gone: it found work, and all its batches were accepted. -/
theorem Course.completed {kind : KeyKind} {settings : Settings}
    {order : List Batch → List Batch} {events : List Event} {report : Report}
    (course : Course kind settings order events (.ok report))
    (completed : report.reason = .completed) :
    ∃ started keys later, ∃ task : Task, task.kind = kind ∧
      events = .now started :: .target kind (.ok (some task.target)) :: .status (.ok keys) ::
        .pending kind task.target (.ok (some task.range)) :: later ∧
      accepted later = task.batches settings order := by
  cases course with
  | skipped opening => exact absurd completed opening.reason_ne_completed
  | @worked started _ later ending task _ _ opening rounds closing =>
    cases opening with | @work target keys range _ =>
    cases closing with | @reported total reason ended =>
    obtain rfl : reason = .completed := completed
    refine ⟨started, keys, later ++ [.now ended], ⟨kind, target, range⟩, rfl, rfl, ?_⟩
    simpa using rounds.accepted_eq

theorem opening_of_runs {kind : KeyKind} {events : List Event}
    {result : Except Fault Resolution} (run : (resolve kind).Runs events result) :
    Opening kind events result := by
  obtain ⟨published, rest, rfl, run⟩ := run
  rcases published with fault | _ | target
  · obtain ⟨rfl, rfl⟩ := run
    exact .targetUnread
  · obtain ⟨rfl, rfl⟩ := run
    exact .noTarget
  obtain ⟨status, rest, rfl, run⟩ := run
  rcases status with fault | keys
  · obtain ⟨rfl, rfl⟩ := run
    exact .statusUnread
  by_cases ready : keys.isReady kind target
  · simp only [ready, if_true] at run
    obtain ⟨pending, rest, rfl, run⟩ := run
    rcases pending with fault | _ | range
    · obtain ⟨rfl, rfl⟩ := run
      exact .pendingUnread ready
    · obtain ⟨rfl, rfl⟩ := run
      exact .nonePending ready
    · obtain ⟨rfl, rfl⟩ := run
      exact .work ready
  · simp only [ready] at run
    obtain ⟨rfl, rfl⟩ := run
    exact .notReady (Bool.eq_false_iff.2 ready)

theorem Plan.toList_eq_nil {plan : Plan} (done : plan.next? = none) : plan.toList = [] := by
  cases plan with
  | ascending batches =>
    rw [next?, Option.map_eq_none_iff] at done
    rw [toList, Batches.toList, done]
  | listed batches =>
    cases batches with
    | nil => rfl
    | cons batch rest => simp [next?] at done

theorem Plan.toList_eq_cons {plan rest : Plan} {batch : Batch}
    (produced : plan.next? = some (batch, rest)) : plan.toList = batch :: rest.toList := by
  cases plan with
  | ascending batches =>
    simp only [next?, Option.map_eq_some_iff, Prod.mk.injEq] at produced
    obtain ⟨⟨_, later⟩, step, rfl, rfl⟩ := produced
    rw [toList, Batches.toList, step, toList]
  | listed batches =>
    cases batches with
    | nil => simp [next?] at produced
    | cons first later =>
      simp only [next?, Option.some.injEq, Prod.mk.injEq] at produced
      obtain ⟨rfl, rfl⟩ := produced
      rfl

theorem rounds_of_runs {task : Task} {limit : Option Elapsed} {started : Instant} {plan : Plan}
    {tally : Tally} {events : List Event} {result : Except Fault (Tally × Reason)}
    (run : (execute task limit started plan tally).Runs events result) :
    Rounds task limit started plan.toList tally events result := by
  -- The induction is the loop's own; what is left to see is which reply took which branch.
  induction plan, tally using execute.induct generalizing events with
  | case1 plan tally done =>
    rw [Plan.toList_eq_nil done]
    rw [execute] at run
    split at run
    · obtain ⟨rfl, rfl⟩ := run
      exact .finished
    · simp_all
  | case2 plan tally batch rest produced ih =>
    rw [Plan.toList_eq_cons produced]
    rw [execute] at run
    split at run
    · simp_all
    next sent later step =>
    obtain ⟨rfl, rfl⟩ := Prod.mk.inj (Option.some.inj (produced.symm.trans step))
    obtain ⟨outcome, _, rfl, run⟩ := run
    rcases outcome with fault | outcome
    · obtain ⟨rfl, rfl⟩ := run
      exact .refused
    obtain ⟨current, _, rfl, run⟩ := run
    rcases current with fault | current
    · obtain ⟨rfl, rfl⟩ := run
      exact .unread
    by_cases same : current = some task.target
    case neg =>
      simp only [ne_eq, same, not_false_eq_true, if_true] at run
      obtain ⟨rfl, rfl⟩ := run
      exact .drifted same
    subst same
    simp only [ne_eq, not_true_eq_false, if_false] at run
    cases limit with
    | none => exact .onward .unlimited (ih outcome run)
    | some most =>
      obtain ⟨now, _, rfl, run⟩ := run
      by_cases spent : most ≤ Elapsed.since started now
      · simp only [spent, if_true] at run
        obtain ⟨rfl, rfl⟩ := run
        exact .expired rfl spent
      · simp only [spent, if_false] at run
        exact .onward (.early (Nat.not_le.1 spent)) (ih outcome run)

theorem Opening.kind_eq {kind : KeyKind} {events : List Event} {task : Task}
    (opening : Opening kind events (.ok (.ready task))) : task.kind = kind := by
  cases opening
  rfl

/-- Each run, whatever it is told, takes one of the courses. -/
theorem course_of_runs {kind : KeyKind} {settings : Settings} {order : List Batch → List Batch}
    {events : List Event} {result : Except Fault Report}
    (run : (migrate kind settings order).Runs events result) :
    Course kind settings order events result := by
  obtain ⟨started, _, rfl, run⟩ := run
  rcases Session.runs_andThen run with
    ⟨fault, opening, rfl⟩ | ⟨resolution, first, later, rfl, opening, run⟩
  · exact .unresolved (opening_of_runs opening)
  replace opening := opening_of_runs opening
  cases resolution with
  | skip target reason =>
    cases target with
    | none =>
      obtain ⟨ended, _, rfl, rfl, rfl⟩ := run
      exact .skipped opening
    | some target =>
      obtain ⟨ended, _, rfl, rfl, rfl⟩ := run
      exact .skipped opening
  | ready task =>
    obtain rfl := opening.kind_eq
    rcases Session.runs_andThen run with
      ⟨fault, rounds, rfl⟩ | ⟨⟨tally, reason⟩, second, _, rfl, rounds, run⟩
    · rw [← List.append_nil later]
      exact .worked opening (rounds_of_runs rounds) .failed
    · obtain ⟨ended, _, rfl, rfl, rfl⟩ := run
      exact .worked opening (rounds_of_runs rounds) .reported

theorem course_trace {σ : Type} (world : World σ) (kind : KeyKind) (settings : Settings)
    (order : List Batch → List Batch) (s : σ) :
    Course kind settings order ((migrate kind settings order).trace world s)
      ((migrate kind settings order).drive world s).1 :=
  course_of_runs (Session.runs_trace world _ s)

theorem migrate_of_ascending (kind : KeyKind) {settings : Settings}
    (ascending : settings.shuffle = false) (order : List Batch → List Batch) :
    migrate kind settings order = migrate kind settings id := by
  simp [migrate, ascending]

section Run

variable {σ : Type} {world : World σ} {kind : KeyKind} {s t : σ}

theorem opening_trace (world : World σ) (kind : KeyKind) (s : σ) :
    Opening kind ((resolve kind).trace world s) ((resolve kind).drive world s).1 :=
  opening_of_runs (Session.runs_trace world _ s)

theorem unresolved_trace {fault : Fault} (settings : Settings) (order : List Batch → List Batch)
    (resolves : (resolve kind).drive world (world s .now).2 = (.error fault, t)) :
    (migrate kind settings order).trace world s =
        .now (world s .now).1 :: (resolve kind).trace world (world s .now).2 ∧
      ((migrate kind settings order).drive world s).1 = .error fault := by
  rw [migrate, Session.trace, Session.trace_andThen, Session.drive, Session.drive_andThen,
    resolves]
  exact ⟨congrArg _ (List.append_nil _), rfl⟩

theorem skipped_trace {target : Option KeyVersion} {reason : Reason} (settings : Settings)
    (order : List Batch → List Batch)
    (resolves : (resolve kind).drive world (world s .now).2 = (.ok (.skip target reason), t)) :
    (migrate kind settings order).trace world s =
        .now (world s .now).1 ::
          ((resolve kind).trace world (world s .now).2 ++ [.now (world t .now).1]) ∧
      ((migrate kind settings order).drive world s).1 =
        .ok ({ Tally.start kind with target }.report reason
          (Elapsed.since (world s .now).1 (world t .now).1)) := by
  rw [migrate, Session.trace, Session.trace_andThen, Session.drive, Session.drive_andThen,
    resolves]
  cases target <;> exact ⟨rfl, rfl⟩

/-- A run that finds work to do, as its world answers it. -/
theorem worked_trace {task : Task} (settings : Settings) (order : List Batch → List Batch)
    (resolves : (resolve kind).drive world (world s .now).2 = (.ok (.ready task), t)) :
    ∃ opening later ending outcome u,
      (migrate kind settings order).trace world s =
        .now (world s .now).1 :: (opening ++ (later ++ ending)) ∧
      Opening kind opening (.ok (.ready task)) ∧
      world.Path (world s .now).2 opening t ∧
      Rounds task settings.timeLimit (world s .now).1 (task.batches settings order)
        (task.tally settings order) later outcome ∧
      world.Path t later u ∧
      Closing (world s .now).1 outcome ending ((migrate kind settings order).drive world s).1 ∧
      world.Path u ending ((migrate kind settings order).drive world s).2 := by
  have opening := opening_trace world kind (world s .now).2
  have before := Session.path_trace world (resolve kind) (world s .now).2
  rw [resolves] at opening before
  obtain rfl := opening.kind_eq
  let work := execute task settings.timeLimit (world s .now).1 (task.plan settings order)
    (task.tally settings order)
  let rest := work.andThen fun ended => conclude (world s .now).1 ended.1 ended.2
  have events : (migrate task.kind settings order).trace world s =
      .now (world s .now).1 :: ((resolve task.kind).trace world (world s .now).2 ++
        rest.trace world t) := by
    rw [migrate, Session.trace, Session.trace_andThen, resolves]
    rfl
  have result : (migrate task.kind settings order).drive world s = rest.drive world t := by
    rw [migrate, Session.drive, Session.drive_andThen, resolves]
    rfl
  have rounds := rounds_of_runs (Session.runs_trace world work t)
  have during := Session.path_trace world work t
  rw [events, result, Session.trace_andThen, Session.drive_andThen]
  rcases ran : work.drive world t with ⟨fault | ⟨tally, reason⟩, u⟩
  · rw [ran] at rounds during
    exact ⟨_, _, _, _, u, rfl, opening, before, rounds, during, .failed, rfl⟩
  · rw [ran] at rounds during
    exact ⟨_, _, _, _, u, rfl, opening, before, rounds, during, .reported, rfl, rfl⟩

theorem sent_trace_of_idle (settings : Settings) (order : List Batch → List Batch)
    (idle : ∀ task, ((resolve kind).drive world (world s .now).2).1 ≠ .ok (.ready task)) :
    sent ((migrate kind settings order).trace world s) = [] := by
  have opening := opening_trace world kind (world s .now).2
  rcases resolves : (resolve kind).drive world (world s .now).2 with
    ⟨fault | task | ⟨target, reason⟩, t⟩
  · simp [(unresolved_trace settings order resolves).1, opening.sent_eq]
  · exact absurd (congrArg Prod.fst resolves) (idle task)
  · simp [(skipped_trace settings order resolves).1, opening.sent_eq]

theorem migrate_of_skip {target : KeyVersion} {reason : Reason} (settings : Settings)
    (order : List Batch → List Batch)
    (resolves : (resolve kind).drive world (world s .now).2 =
      (.ok (.skip (some target) reason), t)) :
    sent ((migrate kind settings order).trace world s) = [] ∧
      ∃ elapsed, ((migrate kind settings order).drive world s).1 =
        .ok (((Tally.start kind).withTarget target).report reason elapsed) := by
  constructor
  · apply sent_trace_of_idle
    simp [resolves]
  · exact ⟨_, (skipped_trace settings order resolves).2⟩

theorem ready_of_completed {settings : Settings} {order : List Batch → List Batch}
    {report : Report} (run : ((migrate kind settings order).drive world s).1 = .ok report)
    (completed : report.reason = .completed) :
    ∃ task t, (resolve kind).drive world (world s .now).2 = (.ok (.ready task), t) := by
  have opening := opening_trace world kind (world s .now).2
  rcases resolves : (resolve kind).drive world (world s .now).2 with
    ⟨fault | task | ⟨target, reason⟩, t⟩
  · simp [(unresolved_trace settings order resolves).2] at run
  · exact ⟨task, t, rfl⟩
  · rw [resolves] at opening
    obtain rfl := Except.ok.inj ((skipped_trace settings order resolves).2.symm.trans run)
    exact absurd completed opening.reason_ne_completed

end Run
end KeyRotation
