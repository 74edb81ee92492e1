import KeyRotation.Batches
import KeyRotation.Fault
import KeyRotation.KeyStatus
import KeyRotation.Report

/-! One migration of a kind of records to the version its target names. What a run asks of its
surroundings is a session, a tree with one branch for every reply, which a world answers call by
call. A run pins the target once, plans the pending range in batches and sends them strictly one
at a time. After each batch it reads the target again, then the clock: a target that moved ends
the run, and so does a time limit that is used up, in this order. A fault ends the run at once and
leaves no report. -/
namespace KeyRotation

inductive Call where
  | now
  | target (kind : KeyKind)
  | status
  | pending (kind : KeyKind) (version : KeyVersion)
  | migrate (kind : KeyKind) (batch : Batch)
  deriving DecidableEq, Repr

/-- Everything but the clock may fail. -/
abbrev Call.Reply : Call → Type
  | .now => Instant
  | .target _ => Except Fault (Option KeyVersion)
  | .status => Except Fault KeyInventory
  | .pending _ _ => Except Fault (Option IdRange)
  | .migrate _ _ => Except Fault BatchOutcome

inductive Session (α : Type) where
  | done (value : α)
  | call (request : Call) (resume : request.Reply → Session α)

/-- How each call is answered in a state of the world, and the state it leaves. -/
abbrev World (σ : Type) := σ → (request : Call) → request.Reply × σ

def World.logged {σ : Type} (world : World σ) : World (σ × List Call) :=
  fun (state, log) request =>
    let (reply, state) := world state request
    (reply, state, request :: log)

namespace Session

/-- Go on with the value of a session, unless it ended in a fault. -/
def andThen {α β : Type} :
    Session (Except Fault α) → (α → Session (Except Fault β)) → Session (Except Fault β)
  | .done (.ok value), next => next value
  | .done (.error fault), _ => .done (.error fault)
  | .call request resume, next => .call request fun reply => andThen (resume reply) next

def drive {σ α : Type} (world : World σ) : Session α → σ → α × σ
  | .done value, state => (value, state)
  | .call request resume, state =>
    drive world (resume (world state request).1) (world state request).2

theorem drive_andThen {σ α β : Type} (world : World σ) (next : α → Session (Except Fault β)) :
    ∀ (session : Session (Except Fault α)) (state : σ),
      drive world (session.andThen next) state =
        match drive world session state with
        | (.ok value, state) => drive world (next value) state
        | (.error fault, state) => (.error fault, state)
  | .done (.ok _), _ => rfl
  | .done (.error _), _ => rfl
  | .call request resume, state =>
    drive_andThen world next (resume (world state request).1) (world state request).2

end Session

/-- The lists of targets, ranges, status replies and costs repeat their last entry; past
the end of the outcomes a batch converts all its ids. -/
structure Script where
  targets : List (Except Fault (Option KeyVersion)) := []
  ranges : List (Except Fault (Option IdRange)) := []
  statuses : List (Except Fault KeyInventory) := []
  statusCost : Int := 0
  outcomes : List (Except Fault BatchOutcome) := []
  costs : List Int := []
  clock : Instant := 0

namespace Script

def rest {α : Type} : List α → List α
  | [] => []
  | [last] => [last]
  | _ :: entries => entries

def world : World Script
  | script, .now => (script.clock, script)
  | script, .target _ =>
    (script.targets.headD (.ok none), { script with targets := rest script.targets })
  | script, .status =>
    (script.statuses.headD (.ok .empty),
      { script with
        statuses := rest script.statuses
        clock := script.clock + script.statusCost })
  | script, .pending _ _ =>
    (script.ranges.headD (.ok none), { script with ranges := rest script.ranges })
  | script, .migrate _ batch =>
    (script.outcomes.headD (.ok ⟨batch.size, 0⟩),
      { script with
        outcomes := script.outcomes.tail
        costs := rest script.costs
        clock := script.clock + script.costs.headD 0 })

end Script

/-- A batch holds at least one id. Without a time limit a run goes on until its plan is
done. -/
structure Settings where
  batchSize : UInt64
  timeLimit : Option Elapsed := none
  shuffle : Bool := false
  batchSize_pos : 0 < batchSize
  deriving DecidableEq, Repr

namespace Settings

def of (batchSize : UInt64) (timeLimit : Option Elapsed) (shuffle : Bool) :
    Except Fault Settings :=
  if h : 0 < batchSize then .ok ⟨batchSize, timeLimit, shuffle, h⟩
  else .error (.config .batchSizeZero)

def new (batchSize : UInt64) : Except Fault Settings := of batchSize none false

def withTimeLimit (settings : Settings) (limit : Elapsed) : Settings :=
  { settings with timeLimit := some limit }

def withShuffle (settings : Settings) (shuffle : Bool) : Settings :=
  { settings with shuffle }

end Settings

structure Task where
  kind : KeyKind
  target : KeyVersion
  range : IdRange
  deriving DecidableEq, Repr

def IdRange.toJson (range : IdRange) : Json :=
  .obj [("min_id", .int range.minId.toInt), ("max_id", .int range.maxId.toInt)]

def Batch.toJson (batch : Batch) : Json :=
  .obj [("min_id", .int batch.minId.toInt), ("max_id", .int batch.maxId.toInt)]

def Task.toJson (task : Task) : Json := .obj [
  ("kind", .str task.kind.tag),
  ("target_version", .int task.target.toInt),
  ("range", task.range.toJson)]

inductive Resolution where
  | ready (task : Task)
  | skip (target : Option KeyVersion) (reason : Reason)
  deriving DecidableEq, Repr

/-- Work out what a run has to do, without touching a record. Nothing is asked that an
earlier answer has made pointless. -/
def resolve (kind : KeyKind) : Session (Except Fault Resolution) :=
  .call (.target kind) fun
    | .error fault => .done (.error fault)
    | .ok none => .done (.ok (.skip none .nothingToDo))
    | .ok (some target) => .call .status fun
      | .error fault => .done (.error fault)
      | .ok keys =>
        if keys.isReady kind target then
          .call (.pending kind target) fun
            | .error fault => .done (.error fault)
            | .ok none => .done (.ok (.skip (some target) .nothingToDo))
            | .ok (some range) => .done (.ok (.ready ⟨kind, target, range⟩))
        else .done (.ok (.skip (some target) .targetNotReady))

/-- Send the batches of a plan one at a time, until it is done or the check after one of
them says to stop. -/
def execute (task : Task) (limit : Option Elapsed) (started : Instant) (plan : Plan)
    (tally : Tally) : Session (Except Fault (Tally × Reason)) :=
  match _produced : plan.next? with
  | none => .done (.ok (tally, .completed))
  | some (batch, rest) =>
    .call (.migrate task.kind batch) fun
      | .error fault => .done (.error fault)
      | .ok outcome => .call (.target task.kind) fun
        | .error fault => .done (.error fault)
        | .ok current =>
          let tally := tally.add outcome
          if current ≠ some task.target then .done (.ok (tally, .versionDrifted))
          else
            match limit with
            | none => execute task limit started rest tally
            | some most => .call .now fun now =>
              if most ≤ Elapsed.since started now then .done (.ok (tally, .timeLimitReached))
              else execute task limit started rest tally
termination_by plan.left
decreasing_by all_goals exact Plan.left_lt _produced

def conclude (started : Instant) (tally : Tally) (reason : Reason) :
    Session (Except Fault Report) :=
  .call .now fun now => .done (.ok (tally.report reason (Elapsed.since started now)))

/-- Migrate the records of a kind to its current target. `order` is the order a shuffled
run takes its batches in. -/
def migrate (kind : KeyKind) (settings : Settings) (order : List Batch → List Batch) :
    Session (Except Fault Report) :=
  .call .now fun started =>
    (resolve kind).andThen fun
      | .skip none reason => conclude started (.start kind) reason
      | .skip (some target) reason => conclude started ((Tally.start kind).withTarget target) reason
      | .ready task =>
        let shuffle := if settings.shuffle then some order else none
        let plan := Plan.ofRange task.range settings.batchSize shuffle
        let tally := ((Tally.start kind).withTarget task.target).withPlanned plan.length
        (execute task settings.timeLimit started plan tally).andThen fun (tally, reason) =>
          conclude started tally reason

end KeyRotation
