import KeyRotation.KeyStatus
import KeyRotation.Migration
import KeyRotation.Program.Machine
import KeyRotation.Program.Usage

/-! The two programs. One runs a migration or shows the state of the keys, the other deletes
expired tokens. They fail in the order of their stages: configuration, log, client, settings,
database, run. A report is a success whatever its reason. -/
namespace KeyRotation

namespace Jobs

open Usage (Switch Parsed)

inductive Command where
  | job (kind : KeyKind) (shuffle json : Bool)
  | status (json : Bool)
  deriving DecidableEq, Repr

structure Arguments where
  config : Option String
  command : Command
  deriving DecidableEq, Repr

def about : String := "Migrate vault records to the current KEK / HMAC key version"

def version : String := "vault-rekey 0.0.0\n"

def configSwitch : Switch where
  short := some 'c'
  long := "config"
  value := some "CONFIG"
  help := "Config file (default: $VAULT_REKEY_CONFIG or ./vault-rekey.toml)"

def switches : List Switch := [
  configSwitch,
  { long := "random-delay"
    help := "Sleep a random 0-30 s before starting, to spread out cron starts" },
  Usage.helpSwitch, Usage.versionSwitch]

def jobSwitches : List Switch := [
  { long := "shuffle-batches"
    help := "Process batches in random order (overrides the config file)" },
  { long := "json", help := "Print the run report as JSON" },
  Usage.helpSwitch]

def statusSwitches : List Switch := [
  { long := "json", help := "Output in JSON format" },
  Usage.helpSwitch]

def jobAbout : KeyKind → String
  | .kek => "Re-encrypt DEKs under the target KEK version"
  | .hmac => "Rehash tokens with the active HMAC version"

def statusAbout : String := "Show the KeyAPI key status table"

def helpAbout : String := "Print this message or the help of the given subcommand(s)"

def page : String := Usage.page about "vault_rekey [OPTIONS] <COMMAND>"
  [("kek", jobAbout .kek), ("hmac", jobAbout .hmac), ("status", statusAbout),
    ("help", helpAbout)] switches

def jobPage (kind : KeyKind) : String :=
  Usage.page (jobAbout kind) ("vault_rekey " ++ kind.tag ++ " [OPTIONS]") [] jobSwitches

def statusPage : String :=
  Usage.page statusAbout "vault_rekey status [OPTIONS]" [] statusSwitches

def helpPage : String :=
  helpAbout ++ "\n\nUsage: vault_rekey help [COMMAND]...\n\n"
    ++ Usage.columns "Arguments" [("[COMMAND]...", "Print help for the subcommand(s)")]

def pageOf : List String → Parsed Arguments
  | [] => .shown page
  | ["kek"] => .shown (jobPage .kek)
  | ["hmac"] => .shown (jobPage .hmac)
  | ["status"] => .shown statusPage
  | ["help"] => .shown helpPage
  | _ => .refused

def jobArguments (config : Option String) (kind : KeyKind) (arguments : List String) :
    Parsed Arguments :=
  Usage.collect
    (fun (shuffle, json) long _ =>
      if long = "help" then .shown (jobPage kind)
      else if long = "json" then
        if json then .refused else .run (shuffle, true)
      else if shuffle then .refused else .run (true, json))
    (fun _ _ _ => .refused)
    (fun (shuffle, json) => .run ⟨config, .job kind shuffle json⟩)
    (false, false) (Usage.events jobSwitches arguments)

def statusArguments (config : Option String) (arguments : List String) : Parsed Arguments :=
  Usage.collect
    (fun json long _ =>
      if long = "help" then .shown statusPage else if json then .refused else .run true)
    (fun _ _ _ => .refused)
    (fun json => .run ⟨config, .status json⟩)
    false (Usage.events statusSwitches arguments)

/-- The arguments of the program. A random delay changes nothing but the time. -/
def parse (arguments : List String) : Parsed Arguments :=
  Usage.collect
    (fun (config, delay) long value =>
      if long = "help" then .shown page
      else if long = "version" then .shown version
      else if long = "config" then
        match config, value with
        | none, some path => if path = "" then .refused else .run (some path, delay)
        | _, _ => .refused
      else if delay then .refused else .run (config, true))
    (fun (config, _) word rest =>
      if word = "kek" then jobArguments config .kek rest
      else if word = "hmac" then jobArguments config .hmac rest
      else if word = "status" then statusArguments config rest
      else if word = "help" then pageOf rest
      else .refused)
    (fun _ => .refused)
    ((none, false) : Option String × Bool) (Usage.events switches arguments)

/-- The settings of a job: those of its section, which an argument may tell to shuffle. -/
def settings (kind : KeyKind) (shuffle : Bool) (config : Config) : Except Fault Settings :=
  match Settings.ofConfig kind config with
  | .error fault => .error fault
  | .ok settings => .ok (if shuffle then { settings with shuffle := true } else settings)

def printed (json : Bool) (report : Report) : String :=
  (if json then report.toJson.pretty else report.line) ++ "\n"

/-- A report of a run that stopped early, or found no target ready, is a warning. -/
def weight (report : Report) : Log.Level :=
  if report.reason.isEarly || report.reason == .targetNotReady then .warn else .info

def job (kind : KeyKind) (shuffle json : Bool) (order : List Batch → List Batch)
    (config : Config) (client : Client) (machine : Machine) : Except Failure String × Machine :=
  match settings kind shuffle config with
  | .error fault => (.error (.settings fault), machine)
  | .ok settings =>
    match machine.files.openDatabase config.database.path with
    | .error fault => (.error (.openStore config.database.path fault), machine)
    | .ok _ =>
      let machine := machine.note { source := Log.storePart, level := .info }
      let world := Machine.world client config.database.path
      match (migrate kind settings order).drive world machine with
      | (.error fault, machine) => (.error (.migration kind fault), machine)
      | (.ok report, machine) =>
        (.ok (printed json report), machine.note ⟨Log.migrationPart, weight report, ["message"]⟩)

def status (json : Bool) (client : Client) (machine : Machine) : Except Failure String × Machine :=
  match machine.call client client.statusRequest? Client.readStatus with
  | (.error fault, machine) => (.error (.status fault), machine)
  | (.ok keys, machine) =>
    (.ok (if json then keys.toJson.pretty ++ "\n" else StatusTable.render keys), machine)

def perform (arguments : Arguments) (order : List Batch → List Batch) (machine : Machine) :
    Except Failure String × Machine :=
  match machine.prepare "vault_rekey" arguments.config with
  | .error failure => (.error failure, machine)
  | .ok (config, machine) =>
    match Client.ofUrl config.authority.url with
    | .error fault => (.error (.client fault), machine)
    | .ok client =>
      let client := { client with timeoutSecs := config.authority.timeoutSecs }
      let machine := machine.notes Log.clientMade
      match arguments.command with
      | .job kind shuffle json => job kind shuffle json order config client machine
      | .status json => status json client machine

/-- The whole program. `order` is the order a shuffled run takes its batches in. -/
def run (arguments : List String) (order : List Batch → List Batch) (machine : Machine) :
    Ending × Machine :=
  match parse arguments with
  | .refused => (.refused, machine)
  | .shown text => ({ code := 0, output := text }, machine)
  | .run arguments =>
    let (result, machine) := perform arguments order machine
    (.of result, machine)

end Jobs

namespace Expiry

open Usage (Switch Parsed)

structure Arguments where
  config : Option String
  retentionDays : Option UInt32
  deriving DecidableEq, Repr

def about : String := "Delete expired tokens from the vault database"

def version : String := "vault-rekey 0.0.0\n"

def switches : List Switch := [
  { short := some 'c'
    long := "config"
    value := some "CONFIG"
    help := "Config file (default: $VAULT_REKEY_CONFIG or ./vault-rekey.toml)" },
  { long := "retention-days"
    value := some "RETENTION_DAYS"
    help := "Override \x60[cleaner] retention_days\x60" },
  Usage.helpSwitch, Usage.versionSwitch]

def page : String := Usage.page about "vault_cleaner [OPTIONS]" [] switches

def days? (text : String) : Option UInt32 :=
  (Text.int64? text).bind fun n =>
    if 0 ≤ n ∧ n.toInt < UInt32.size then some (UInt32.ofNat n.toInt.toNat) else none

def parse (arguments : List String) : Parsed Arguments :=
  Usage.collect
    (fun (taken : Arguments) long value =>
      if long = "help" then .shown page
      else if long = "version" then .shown version
      else if long = "config" then
        match taken.config, value with
        | none, some path => if path = "" then .refused else .run { taken with config := path }
        | _, _ => .refused
      else
        match taken.retentionDays, value.bind days? with
        | none, some days => .run { taken with retentionDays := days }
        | _, _ => .refused)
    (fun _ _ _ => .refused)
    .run (⟨none, none⟩ : Arguments) (Usage.events switches arguments)

/-- Delete the expired tokens of a database that may be changed. -/
def purge (database : Database) (now : Calendar.DateTime) (days : Nat) :
    Except Fault (Store × Nat) :=
  match database.store.purge now days with
  | .error fault => .error fault
  | .ok purged => if database.writable then .ok purged else .error .sql

def perform (arguments : Arguments) (machine : Machine) : Except Failure String × Machine :=
  match machine.prepare "vault_cleaner" arguments.config with
  | .error failure => (.error failure, machine)
  | .ok (config, machine) =>
    let days := arguments.retentionDays.getD config.cleaner.retentionDays
    match machine.files.openDatabase config.database.path with
    | .error fault => (.error (.openStore config.database.path fault), machine)
    | .ok database =>
      let machine := machine.note { source := Log.storePart, level := .info }
      match purge database machine.today days.toNat with
      | .error .crashed => (.error (.cleanup .crashed), machine)
      | .error fault => (.error (.cleanup fault), machine.note Log.purging)
      | .ok (store, deleted) =>
        let files := machine.files.saveDatabase database store
        (.ok ("Deleted " ++ toString deleted ++ " expired token(s)\n"),
          { machine with files }.notes [Log.purging, Log.purged])

def run (arguments : List String) (machine : Machine) : Ending × Machine :=
  match parse arguments with
  | .refused => (.refused, machine)
  | .shown text => ({ code := 0, output := text }, machine)
  | .run arguments =>
    let (result, machine) := perform arguments machine
    (.of result, machine)

end Expiry
end KeyRotation
