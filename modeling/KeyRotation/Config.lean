import KeyRotation.Files
import KeyRotation.Migration
import KeyRotation.Toml.Document
import KeyRotation.Toml.Lexeme

/-! The configuration that every program of the vault reads. A section has its fields by name, or
their values in the order in which they are declared. An unknown name is refused, and no value is
taken for one of another type. Without the file there is no configuration: nothing runs on
defaults alone, though variables may overrule it. -/
namespace KeyRotation

inductive Section where
  | named (entries : Toml.Entries)
  | ordered (values : List Toml.Value)

namespace Section

def of? : Toml.Value → Option Section
  | .table entries => some (.named entries)
  | .array values => some (.ordered values)
  | _ => none

/-- Every name is the name of a field. Values that follow the last field are left alone. -/
def fits (fields : List String) : Section → Bool
  | .named entries => entries.all (fields.contains ·.1)
  | .ordered _ => true

def value? (fields : List String) (name : String) : Section → Option Toml.Value
  | .named entries => entries.lookup name
  | .ordered values => values[fields.idxOf name]?

def required {α : Type} (read? : Toml.Value → Option α) (fields : List String) (name : String)
    (part : Section) : Option α :=
  (part.value? fields name).bind read?

/-- A field that has a value of its own when it is not there. -/
def defaulted {α : Type} (default : α) (read? : Toml.Value → Option α) (fields : List String)
    (name : String) (part : Section) : Option α :=
  match part.value? fields name with
  | none => some default
  | some value => read? value

/-- A field that may be left out where fields have names. -/
def optional {α : Type} (read? : Toml.Value → Option α) (fields : List String) (name : String)
    (part : Section) : Option (Option α) :=
  match part.value? fields name, part with
  | some value, _ => (read? value).map some
  | none, .named _ => some none
  | none, .ordered _ => none

end Section

structure Config.Log where
  target : String := "stderr"
  level : String := "info"
  deriving DecidableEq, Repr

structure Config.Authority where
  url : String
  timeoutSecs : UInt64
  connectTimeoutSecs : UInt64
  deriving DecidableEq, Repr

structure Config.Database where
  path : String
  deriving DecidableEq, Repr

/-- The settings of a job. A batch size is required, but only of a job that is run. -/
structure Config.Job where
  batchSize : Option UInt64
  timeLimitSecs : Option UInt64
  shuffleBatches : Bool
  deriving DecidableEq, Repr

structure Config.Cleaner where
  retentionDays : UInt32 := 10
  deriving DecidableEq, Repr

/-- The names of the fields of each section, in the order in which they are declared. -/
def Config.Log.fields : List String := ["target", "level"]

def Config.Authority.fields : List String := ["url", "timeout_secs", "connect_timeout_secs"]

def Config.Database.fields : List String := ["path"]

def Config.Job.fields : List String := ["batch_size", "time_limit_secs", "shuffle_batches"]

def Config.Cleaner.fields : List String := ["retention_days"]

structure Config where
  log : Config.Log
  authority : Config.Authority
  database : Config.Database
  reencrypt : Option Config.Job
  rehash : Option Config.Job
  cleaner : Config.Cleaner
  deriving DecidableEq, Repr

namespace Config

def fields : List String := ["log", "key_api", "db", "reencrypt", "rehash", "cleaner"]

def text? : Toml.Value → Option String
  | .text value => some value
  | _ => none

def boolean? : Toml.Value → Option Bool
  | .boolean value => some value
  | _ => none

def word? : Toml.Value → Option UInt64
  | .integer value => if 0 ≤ value then some value.toUInt64 else none
  | _ => none

def days? : Toml.Value → Option UInt32
  | .integer value =>
    if 0 ≤ value ∧ value.toInt < UInt32.size then some (UInt32.ofNat value.toInt.toNat) else none
  | _ => none

/-- A section by its fields. -/
def part? {α : Type} (fields : List String) (read? : Section → Option α) (value : Toml.Value) :
    Option α := do
  let part ← Section.of? value
  if part.fits fields then read? part else none

def log? : Toml.Value → Option Log :=
  part? Log.fields fun part => do
    let target ← part.defaulted "stderr" text? Log.fields "target"
    let level ← part.defaulted "info" text? Log.fields "level"
    pure { target, level }

def authority? : Toml.Value → Option Authority :=
  part? Authority.fields fun part => do
    let url ← part.required text? Authority.fields "url"
    let timeoutSecs ← part.defaulted 30 word? Authority.fields "timeout_secs"
    let connectTimeoutSecs ← part.defaulted 10 word? Authority.fields "connect_timeout_secs"
    pure { url, timeoutSecs, connectTimeoutSecs }

def database? : Toml.Value → Option Database :=
  part? Database.fields fun part => do
    let path ← part.required text? Database.fields "path"
    pure { path }

def job? : Toml.Value → Option Job :=
  part? Job.fields fun part => do
    let batchSize ← part.optional word? Job.fields "batch_size"
    let timeLimitSecs ← part.optional word? Job.fields "time_limit_secs"
    let shuffleBatches ← part.defaulted false boolean? Job.fields "shuffle_batches"
    pure { batchSize, timeLimitSecs, shuffleBatches }

def cleaner? : Toml.Value → Option Cleaner :=
  part? Cleaner.fields fun part => do
    let retentionDays ← part.defaulted 10 days? Cleaner.fields "retention_days"
    pure { retentionDays }

def ofEntries? (entries : Toml.Entries) : Option Config :=
  (.table entries : Toml.Value) |> part? fields fun part => do
    let log ← part.defaulted {} log? fields "log"
    let authority ← part.required authority? fields "key_api"
    let database ← part.required database? fields "db"
    let reencrypt ← part.optional job? fields "reencrypt"
    let rehash ← part.optional job? fields "rehash"
    let cleaner ← part.defaulted {} cleaner? fields "cleaner"
    pure { log, authority, database, reencrypt, rehash, cleaner }

def read (document : String) : Except Fault Config :=
  match (Toml.read? document).bind ofEntries? with
  | some config => .ok config
  | none => .error .toml

def job (config : Config) : KeyKind → Option Job
  | .kek => config.reencrypt
  | .hmac => config.rehash

end Config

/-- The settings of a job of a kind, from its own section. -/
def Settings.ofConfig (kind : KeyKind) (config : Config) : Except Fault Settings :=
  match config.job kind with
  | none => .error (.config (.missingSection kind))
  | some job =>
    match job.batchSize with
    | none => .error (.config (.batchSizeRequired kind))
    | some batchSize =>
      Settings.of batchSize (job.timeLimitSecs.map fun secs => Elapsed.ofSeconds secs.toNat)
        job.shuffleBatches

namespace Config

abbrev Environment := List (String × String)

/-- The path given on the command line, else the one a variable names, else the usual
one. -/
def locate (explicit : Option String) (environment : Environment) : String :=
  match explicit with
  | some path => path
  | none => (environment.lookup "VAULT_REKEY_CONFIG").getD "vault-rekey.toml"

/-- Variables overrule where the database and the key authority are. -/
def overrule (environment : Environment) (config : Config) : Config :=
  let config := match environment.lookup "VAULT_REKEY_DB" with
    | none => config
    | some path => { config with database := { config.database with path } }
  match environment.lookup "VAULT_REKEY_KEY_API_URL" with
  | none => config
  | some url => { config with authority := { config.authority with url } }

def load (files : Files) (environment : Environment) (path : String) : Except Fault Config :=
  match files.readText path with
  | .error cause => .error (.config (.unreadable path cause))
  | .ok text =>
    match read text with
    | .error fault => .error fault
    | .ok config => .ok (overrule environment config)

end Config
end KeyRotation
