import KeyRotation.Program.Jobs
import Std.Time.Zoned

/-! The two programs on a real command line. There is no database engine and no network
behind them here: a database opens as one without tables, and no server is reached. -/
namespace KeyRotation.Main

def variableNames : List String :=
  ["VAULT_REKEY_CONFIG", "VAULT_REKEY_DB", "VAULT_REKEY_KEY_API_URL", "RUST_LOG"]

def readEnvironment : IO Config.Environment := do
  let found ← variableNames.mapM fun name => do
    return (← IO.getEnv name).map fun value => (name, value)
  return found.filterMap id

def readInto (files : Files) (path : String) : IO Files := do
  try
    let bytes ← IO.FS.readBinFile path
    return files.put (.ofText path) (.bytes bytes.toList)
  catch _ => return files

def readToday : IO Calendar.DateTime := do
  let now ← Std.Time.PlainDateTime.now
  let date : Calendar.Date := ⟨now.date.year, now.date.month.val.toNat, now.date.day.val.toNat⟩
  return ⟨date, now.time.hour.val.toNat, now.time.minute.val.toNat,
    now.time.second.val.toNat, now.time.nanosecond.val.toNat⟩

/-- Take in the files that a configuration names, and the configuration before them. -/
def readMachine (config : Option String) : IO Machine := do
  let environment ← readEnvironment
  let path := Config.locate config environment
  let files ← readInto {} path
  let files ← match Config.load files environment path with
    | .error _ => pure files
    | .ok config => readInto (← readInto files config.database.path) config.log.target
  let now ← IO.monoNanosNow
  let today ← readToday
  return {
    files, environment, today
    network := .unreachable
    clock := fun _ => now }

def finish (ending : Ending) : IO UInt32 := do
  IO.print ending.output
  if let some line := ending.errorLine? then IO.eprintln line
  return UInt32.ofNat ending.code

def configOf (parsed : Usage.Parsed α) (config : α → Option String) : Option String :=
  match parsed with
  | .run arguments => config arguments
  | _ => none

end KeyRotation.Main

open KeyRotation in
/-- The first argument names the program, the others are its own. -/
def main (arguments : List String) : IO UInt32 := do
  match arguments with
  | "vault_rekey" :: arguments =>
    let machine ← Main.readMachine (Main.configOf (Jobs.parse arguments) (·.config))
    Main.finish (Jobs.run arguments id machine).1
  | "vault_cleaner" :: arguments =>
    let machine ← Main.readMachine (Main.configOf (Expiry.parse arguments) (·.config))
    Main.finish (Expiry.run arguments machine).1
  | _ => Main.finish .refused
