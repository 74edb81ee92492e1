import KeyRotation.Migration

/-! The calls of a session together with their replies. `Runs` follows a session through
any replies at all, so what holds of it holds in every world; `Path` follows a world
through the calls, so what holds of it holds for every session. Driving a session through
a world leaves a trace that is both. -/
namespace KeyRotation

/-- A call with the reply it got. -/
inductive Event where
  | now (reading : Instant)
  | target (kind : KeyKind) (reply : Except Fault (Option KeyVersion))
  | status (reply : Except Fault KeyInventory)
  | pending (kind : KeyKind) (version : KeyVersion) (reply : Except Fault (Option IdRange))
  | migrate (kind : KeyKind) (batch : Batch) (reply : Except Fault BatchOutcome)
  deriving Repr

namespace Event

def of : (request : Call) → request.Reply → Event
  | .now, reading => .now reading
  | .target kind, reply => .target kind reply
  | .status, reply => .status reply
  | .pending kind version, reply => .pending kind version reply
  | .migrate kind batch, reply => .migrate kind batch reply

def call : Event → Call
  | .now _ => .now
  | .target kind _ => .target kind
  | .status _ => .status
  | .pending kind version _ => .pending kind version
  | .migrate kind batch _ => .migrate kind batch

def fault? : Event → Option Fault
  | .target _ (.error fault) | .status (.error fault) | .pending _ _ (.error fault)
  | .migrate _ _ (.error fault) => some fault
  | _ => none

def converted : Event → Nat
  | .migrate _ _ (.ok outcome) => outcome.converted.toNat
  | _ => 0

def failed : Event → Nat
  | .migrate _ _ (.ok outcome) => outcome.failed.toNat
  | _ => 0

def isRemote : Event → Bool
  | .now _ => false
  | _ => true

def isToAuthority : Event → Bool
  | .status _ | .migrate _ _ _ => true
  | _ => false

end Event

@[simp] def sent : List Event → List Batch
  | [] => []
  | .migrate _ batch _ :: rest => batch :: sent rest
  | _ :: rest => sent rest

/-- The batches that were sent and accepted, in order. -/
@[simp] def accepted : List Event → List Batch
  | [] => []
  | .migrate _ batch (.ok _) :: rest => batch :: accepted rest
  | _ :: rest => accepted rest

@[simp] def readings : List Event → List Instant
  | [] => []
  | .now reading :: rest => reading :: readings rest
  | _ :: rest => readings rest

@[simp] theorem sent_append (first second : List Event) :
    sent (first ++ second) = sent first ++ sent second := by
  induction first with
  | nil => rfl
  | cons event rest ih => cases event <;> simp [ih]

@[simp] theorem accepted_append (first second : List Event) :
    accepted (first ++ second) = accepted first ++ accepted second := by
  induction first with
  | nil => rfl
  | cons event rest ih => rcases event with _ | _ | _ | _ | ⟨_, _, _ | _⟩ <;> simp [ih]

@[simp] theorem readings_append (first second : List Event) :
    readings (first ++ second) = readings first ++ readings second := by
  induction first with
  | nil => rfl
  | cons event rest ih => cases event <;> simp [ih]

theorem mem_accepted {events : List Event} {batch : Batch} :
    batch ∈ accepted events ↔ ∃ kind outcome, .migrate kind batch (.ok outcome) ∈ events := by
  induction events with
  | nil => simp
  | cons event rest ih =>
    rcases event with _ | _ | _ | _ | ⟨kind, sent, _ | outcome⟩ <;> simp [ih, exists_or]

theorem accepted_eq_nil {events : List Event} (reads : sent events = []) :
    accepted events = [] := by
  induction events with
  | nil => rfl
  | cons event rest ih =>
    cases event with
    | migrate => cases reads
    | now | target | status | pending => exact ih reads

namespace World

/-- The world answers a trace in this order, from one state to another. -/
def Path {σ : Type} (world : World σ) : σ → List Event → σ → Prop
  | s, [], t => t = s
  | s, event :: trace, t =>
    Event.of event.call (world s event.call).1 = event ∧
      world.Path (world s event.call).2 trace t

theorem path_now {σ : Type} {world : World σ} {s t : σ} {reading : Instant} {rest : List Event} :
    world.Path s (.now reading :: rest) t ↔
      (world s .now).1 = reading ∧ world.Path (world s .now).2 rest t := by
  simp [Path, Event.of, Event.call]

theorem path_target {σ : Type} {world : World σ} {s t : σ} {kind : KeyKind}
    {reply : Except Fault (Option KeyVersion)} {rest : List Event} :
    world.Path s (.target kind reply :: rest) t ↔
      (world s (.target kind)).1 = reply ∧ world.Path (world s (.target kind)).2 rest t := by
  simp [Path, Event.of, Event.call]

theorem path_migrate {σ : Type} {world : World σ} {s t : σ} {kind : KeyKind} {batch : Batch}
    {reply : Except Fault BatchOutcome} {rest : List Event} :
    world.Path s (.migrate kind batch reply :: rest) t ↔
      (world s (.migrate kind batch)).1 = reply ∧
        world.Path (world s (.migrate kind batch)).2 rest t := by
  simp [Path, Event.of, Event.call]

theorem path_append {σ : Type} {world : World σ} {s t : σ} {first second : List Event} :
    world.Path s (first ++ second) t ↔ ∃ u, world.Path s first u ∧ world.Path u second t := by
  induction first generalizing s with
  | nil => simp [Path]
  | cons event rest ih =>
    simp only [List.cons_append, Path, ih]
    constructor
    · rintro ⟨answered, u, left, right⟩
      exact ⟨u, ⟨answered, left⟩, right⟩
    · rintro ⟨u, ⟨answered, left⟩, right⟩
      exact ⟨answered, u, left, right⟩

theorem path_unique {σ : Type} {world : World σ} {events : List Event} {s t u : σ}
    (first : world.Path s events t) (second : world.Path s events u) : t = u := by
  induction events generalizing s with
  | nil => exact first.trans second.symm
  | cons event rest ih => exact ih first.2 second.2

/-- What every call keeps, a whole trace keeps. -/
theorem path_invariant {σ : Type} {world : World σ} (property : σ → Prop)
    (next : ∀ s request, property s → property (world s request).2) {events : List Event} {s t : σ}
    (path : world.Path s events t) (initial : property s) : property t := by
  induction events generalizing s with
  | nil =>
    obtain rfl := path
    exact initial
  | cons event rest ih => exact ih path.2 (next s _ initial)

theorem path_same {σ α : Type} {world : World σ} (value : σ → α)
    (same : ∀ s request, value (world s request).2 = value s) {events : List Event} {s t : σ}
    (path : world.Path s events t) : value t = value s :=
  path_invariant (value · = value s) (fun u request kept => (same u request).trans kept) path rfl

/-- What only a batch changes, a trace without one leaves as it was. -/
theorem path_reads {σ α : Type} {world : World σ} (value : σ → α)
    (same : ∀ s request, (∀ kind batch, request ≠ .migrate kind batch) →
      value (world s request).2 = value s) {events : List Event} {s t : σ}
    (reads : sent events = []) (path : world.Path s events t) : value t = value s := by
  induction events generalizing s with
  | nil =>
    obtain rfl := path
    rfl
  | cons event rest ih =>
    cases event with
    | migrate => cases reads
    | now | target | status | pending => exact (ih reads path.2).trans (same s _ nofun)

end World

namespace Session

variable {σ α β : Type}

def trace (world : World σ) : Session α → σ → List Event
  | .done _, _ => []
  | .call request resume, s =>
    Event.of request (world s request).1 ::
      trace world (resume (world s request).1) (world s request).2

/-- A session can go through a trace and come to a value. -/
def Runs : Session α → List Event → α → Prop
  | .done value, events, result => events = [] ∧ result = value
  | .call request resume, events, result =>
    ∃ reply rest, events = Event.of request reply :: rest ∧ (resume reply).Runs rest result

theorem runs_trace (world : World σ) (session : Session α) (s : σ) :
    session.Runs (session.trace world s) (session.drive world s).1 := by
  induction session generalizing s with
  | done value => exact ⟨rfl, rfl⟩
  | call request resume ih => exact ⟨_, _, rfl, ih _ _⟩

/-- Whatever it is told, a session comes to an end. -/
theorem exists_runs (session : Session α) : ∃ events result, session.Runs events result := by
  induction session with
  | done value => exact ⟨[], value, rfl, rfl⟩
  | call request resume ih =>
    have reply : request.Reply := match request with
      | .now => 0
      | .target _ | .status | .pending _ _ | .migrate _ _ => .error .io
    obtain ⟨events, result, run⟩ := ih reply
    exact ⟨_, result, reply, events, rfl, run⟩

theorem path_trace (world : World σ) (session : Session α) (s : σ) :
    world.Path s (session.trace world s) (session.drive world s).2 := by
  induction session generalizing s with
  | done value => rfl
  | call request resume ih => cases request <;> exact ⟨rfl, ih _ _⟩

theorem trace_andThen (world : World σ) (next : α → Session (Except Fault β)) :
    ∀ (session : Session (Except Fault α)) (s : σ),
      (session.andThen next).trace world s = session.trace world s ++
        match session.drive world s with
        | (.ok value, t) => (next value).trace world t
        | (.error _, _) => []
  | .done (.ok _), _ => rfl
  | .done (.error _), _ => rfl
  | .call request resume, s =>
    congrArg _ (trace_andThen world next (resume (world s request).1) (world s request).2)

/-- Where related states answer every call in the same way, a session comes to one value by one
trace, and leaves related states. -/
theorem run_related {τ : Type} {left : World σ} {right : World τ} {related : σ → τ → Prop}
    (step : ∀ s t request, related s t → (left s request).1 = (right t request).1 ∧
      related (left s request).2 (right t request).2)
    (session : Session α) {s : σ} {t : τ} (begun : related s t) :
    (session.drive left s).1 = (session.drive right t).1 ∧
      session.trace left s = session.trace right t ∧
      related (session.drive left s).2 (session.drive right t).2 := by
  induction session generalizing s t with
  | done value => exact ⟨rfl, rfl, begun⟩
  | call request resume ih =>
    obtain ⟨answer, next⟩ := step s t request begun
    obtain ⟨value, events, finish⟩ := ih _ next
    simp only [drive, trace, ← answer]
    exact ⟨value, congrArg _ events, finish⟩

/-- A session that goes on with the value of another either ends in the fault of the
first, or goes through one trace after the other. -/
theorem runs_andThen {session : Session (Except Fault α)} {next : α → Session (Except Fault β)}
    {events : List Event} {result : Except Fault β}
    (run : (session.andThen next).Runs events result) :
    (∃ fault, session.Runs events (.error fault) ∧ result = .error fault) ∨
    ∃ value first second, events = first ++ second ∧ session.Runs first (.ok value) ∧
      (next value).Runs second result := by
  induction session generalizing events with
  | done value =>
    cases value with
    | error fault =>
      obtain ⟨rfl, rfl⟩ := run
      exact .inl ⟨fault, ⟨rfl, rfl⟩, rfl⟩
    | ok value => exact .inr ⟨value, [], events, rfl, ⟨rfl, rfl⟩, run⟩
  | call request resume ih =>
    obtain ⟨reply, rest, rfl, run⟩ := run
    rcases ih reply run with ⟨fault, failed, rfl⟩ | ⟨value, first, second, rfl, opening, later⟩
    · exact .inl ⟨fault, ⟨reply, rest, rfl, failed⟩, rfl⟩
    · exact .inr ⟨value, _, second, rfl, ⟨reply, first, rfl, opening⟩, later⟩

end Session
end KeyRotation
