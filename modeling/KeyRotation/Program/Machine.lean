import KeyRotation.Client
import KeyRotation.Database
import KeyRotation.Program.Log
import KeyRotation.Migration

/-! The computer that a program runs on: its files and variables, its clock, its log, and the
network behind it. -/
namespace KeyRotation

/-- What others do with a request, given the requests before it, the latest first. They
may change files, such as the values a database publishes. -/
abbrev Network := List Request → Files → Request → Reception × Files

def Network.unreachable : Network := fun _ files _ => (.unreachable, files)

structure Machine where
  files : Files
  environment : Config.Environment
  network : Network
  clock : Nat → Instant
  today : Calendar.DateTime
  log : Option Log := none
  received : List Request := []
  readings : Nat := 0

namespace Machine

def note (machine : Machine) (event : Log.Event) : Machine :=
  match machine.log with
  | none => machine
  | some log => { machine with files := log.write machine.files event }

def notes (machine : Machine) (events : List Log.Event) : Machine := events.foldl note machine

/-- The whole seconds that clocks can tell. -/
def clockLimit : Nat := 1 <<< 63

def isEndless (machine : Machine) (seconds : UInt64) : Bool :=
  clockLimit ≤ (machine.clock machine.readings).toNat / Elapsed.nanosPerSecond + seconds.toNat

def exchange (machine : Machine) (timeoutSecs : UInt64) : Option Request → Reception × Machine
  | none => (.unreachable, machine)
  | some request =>
    let machine := machine.notes Log.waiting
    if machine.isEndless timeoutSecs then (.endless, machine)
    else
      let machine := machine.notes Log.connecting
      let (reception, files) := machine.network machine.received machine.files request
      let received :=
        if reception = .unreachable then machine.received else request :: machine.received
      (reception, { machine with files, received })

def call {α : Type} (machine : Machine) (client : Client) (request : Option Request)
    (read : Reception → Except Fault α) : Except Fault α × Machine :=
  let machine := machine.notes [⟨Log.authorityPart, .info, ["message"]⟩,
    ⟨Log.authorityPart, .debug, ["message"]⟩]
  let (reception, machine) := machine.exchange client.timeoutSecs request
  (read reception, machine)

def store (machine : Machine) (database : String) : Store :=
  match machine.files.openDatabase database with
  | .ok database => database.store
  | .error _ => .blank

/-- A value was read, whether or not it means a version. -/
def wasRead {α : Type} : Except Fault α → Bool
  | .error .sql | .error .crashed => false
  | _ => true

def world (client : Client) (database : String) : World Machine
  | machine, .now =>
    (machine.clock machine.readings, { machine with readings := machine.readings + 1 })
  | machine, .target kind =>
    let target := (machine.store database).target kind
    let machine := if wasRead target then
      machine.note { source := Log.storePart, level := .debug } else machine
    let machine := if target.toBool then
      machine.note { source := Log.migrationPart, level := .info } else machine
    (target, machine)
  | machine, .status => machine.call client client.statusRequest? Client.readStatus
  | machine, .pending kind version =>
    ((machine.store database).pending kind version,
      machine.note { source := Log.storePart, level := .debug })
  | machine, .migrate kind batch =>
    let machine := machine.note { source := Log.migrationPart, level := .info }
    let (outcome, machine) :=
      machine.call client (client.batchRequest? kind batch) Client.readOutcome
    let level := if outcome.toBool then Log.Level.debug else .warn
    (outcome, machine.note { source := Log.migrationPart, level })

end Machine

inductive Failure where
  | loadConfig (path : String) (cause : Fault)
  | logging (cause : Fault)
  | client (cause : Fault)
  | settings (cause : Fault)
  | openStore (path : String) (cause : Fault)
  | migration (kind : KeyKind) (cause : Fault)
  | status (cause : Fault)
  | cleanup (cause : Fault)
  deriving DecidableEq, Repr

namespace Failure

def message : Failure → String
  | .loadConfig path _ => "Failed to load config " ++ path
  | .logging _ => "Failed to initialise logging"
  | .client _ => "Failed to build KeyAPI client"
  | .settings cause => cause.message
  | .openStore path _ => "Failed to open record store " ++ path
  | .migration kind _ => kind.title ++ " migration failed"
  | .status _ => "KeyAPI status call failed"
  | .cleanup _ => "Cleanup failed, rolled back"

def isCrash : Failure → Bool
  | .loadConfig _ cause | .logging cause | .client cause | .settings cause | .openStore _ cause
  | .migration _ cause | .status cause | .cleanup cause => cause == .crashed

end Failure

/-- What a process leaves: its exit code, what it printed, and why it failed. -/
structure Ending where
  code : Nat
  output : String := ""
  failure : Option Failure := none
  deriving DecidableEq, Repr

namespace Ending

def refused : Ending := { code := 2 }

def of : Except Failure String → Ending
  | .ok output => { code := 0, output }
  | .error failure =>
    { code := if failure.isCrash then 101 else 1, failure := some failure }

/-- The first line of the message, unless the process crashed. A carriage return at its end
belongs to the line end. -/
def errorLine? (ending : Ending) : Option String :=
  match ending.failure with
  | none => none
  | some failure =>
    if failure.isCrash then none
    else
      let line := failure.message.toList.takeWhile (· != '\n')
      let line := if line.getLast? = some '\r' then line.dropLast else line
      some ("Error: " ++ String.ofList line)

end Ending

/-- Load the configuration and open the log, as every program does first. -/
def Machine.prepare (machine : Machine) (source : String) (config : Option String) :
    Except Failure (Config × Machine) :=
  let path := Config.locate config machine.environment
  match Config.load machine.files machine.environment path with
  | .error cause => .error (.loadConfig path cause)
  | .ok config =>
    match Log.opened machine.files machine.environment config.log with
    | .error cause => .error (.logging cause)
    | .ok (log, files) =>
      .ok (config, { machine with files, log }.note { source, level := .info })

end KeyRotation
