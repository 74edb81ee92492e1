import Mathlib
import KeyRotation.Program.Jobs

/-! How the process of a job ends. Its stages are tried in order, and the first that fails ends the
process with an error and without output, before anything was asked of the key authority. Where all
go well a run begins; its report is printed whatever its reason, and a fault in it is an error like
those before it. -/
namespace KeyRotation

namespace Machine

theorem received_note (machine : Machine) (event : Log.Event) :
    (machine.note event).received = machine.received := by
  rw [note]
  split <;> rfl

theorem received_notes (machine : Machine) (events : List Log.Event) :
    (machine.notes events).received = machine.received := by
  induction events generalizing machine with
  | nil => rfl
  | cons event rest ih => exact (ih _).trans (machine.received_note event)

theorem note_network (machine : Machine) (network : Network) (event : Log.Event) :
    { machine with network }.note event = { machine.note event with network } := by
  obtain ⟨files, environment, own, clock, today, log, received, readings⟩ := machine
  cases log <;> rfl

theorem notes_network (machine : Machine) (network : Network) (events : List Log.Event) :
    { machine with network }.notes events = { machine.notes events with network } := by
  induction events generalizing machine with
  | nil => rfl
  | cons event rest ih =>
    rw [notes, List.foldl_cons, note_network]
    exact ih _

end Machine

namespace Jobs

variable {machine : Machine} {path : Option String} {kind : KeyKind} {shuffle json : Bool}
  {order : List Batch → List Batch}

/-- The configuration is loaded and the log is open. -/
structure Prepared (machine : Machine) (path : Option String) (config : Config)
    (log : Option Log) (files : Files) : Prop where
  loaded : Config.load machine.files machine.environment
    (Config.locate path machine.environment) = .ok config
  opened : Log.opened machine.files machine.environment config.log = .ok (log, files)

def connected (machine : Machine) (log : Option Log) (files : Files) : Machine :=
  ({ machine with files, log }.note { source := "vault_rekey", level := .info }).notes
    Log.clientMade

/-- The first stage that fails, after those before it went well. -/
inductive Stopped (machine : Machine) (path : Option String) (kind : KeyKind) : Failure → Prop where
  | config {fault : Fault}
      (failed : Config.load machine.files machine.environment
        (Config.locate path machine.environment) = .error fault) :
      Stopped machine path kind (.loadConfig (Config.locate path machine.environment) fault)
  | log {config : Config} {fault : Fault}
      (loaded : Config.load machine.files machine.environment
        (Config.locate path machine.environment) = .ok config)
      (failed : Log.opened machine.files machine.environment config.log = .error fault) :
      Stopped machine path kind (.logging fault)
  | client {config : Config} {log : Option Log} {files : Files} {fault : Fault}
      (prepared : Prepared machine path config log files)
      (failed : Client.ofUrl config.authority.url = .error fault) :
      Stopped machine path kind (.client fault)
  | settings {config : Config} {log : Option Log} {files : Files} {client : Client} {fault : Fault}
      (prepared : Prepared machine path config log files)
      (made : Client.ofUrl config.authority.url = .ok client)
      (failed : Settings.ofConfig kind config = .error fault) :
      Stopped machine path kind (.settings fault)
  | database {config : Config} {log : Option Log} {files : Files} {client : Client}
      {own : Settings} {fault : Fault}
      (prepared : Prepared machine path config log files)
      (made : Client.ofUrl config.authority.url = .ok client)
      (chosen : Settings.ofConfig kind config = .ok own)
      (failed : (connected machine log files).files.openDatabase config.database.path =
        .error fault) :
      Stopped machine path kind (.openStore config.database.path fault)

/-- What the stages before a run come to. -/
structure Setup where
  config : Config
  log : Option Log
  files : Files
  client : Client
  settings : Settings
  database : Database

namespace Setup

/-- Every stage goes well. The settings are those of the section of the job, in which an argument
may have set the one flag. -/
structure Reached (setup : Setup) (machine : Machine) (path : Option String) (kind : KeyKind)
    (shuffle : Bool) : Prop where
  prepared : Prepared machine path setup.config setup.log setup.files
  made : ∃ client, Client.ofUrl setup.config.authority.url = .ok client ∧
    setup.client = { client with timeoutSecs := setup.config.authority.timeoutSecs }
  chosen : ∃ own, Settings.ofConfig kind setup.config = .ok own ∧
    setup.settings = if shuffle then { own with shuffle := true } else own
  opened : (connected machine setup.log setup.files).files.openDatabase setup.config.database.path =
    .ok setup.database

/-- What the run comes to, and the machine it leaves. -/
def outcome (setup : Setup) (machine : Machine) (kind : KeyKind)
    (order : List Batch → List Batch) : Except Fault Report × Machine :=
  (migrate kind setup.settings order).drive
    (Machine.world setup.client setup.config.database.path)
    ((connected machine setup.log setup.files).note { source := Log.storePart, level := .info })

end Setup

theorem received_connected (machine : Machine) (log : Option Log) (files : Files) :
    (connected machine log files).received = machine.received := by
  rw [connected, Machine.received_notes, Machine.received_note]

theorem perform_of_prepared {config : Config} {log : Option Log} {files : Files} {client : Client}
    (prepared : Prepared machine path config log files)
    (made : Client.ofUrl config.authority.url = .ok client) :
    perform ⟨path, .job kind shuffle json⟩ order machine =
      job kind shuffle json order config
        { client with timeoutSecs := config.authority.timeoutSecs }
        (connected machine log files) := by
  simp only [perform, Machine.prepare, prepared.loaded, prepared.opened, made, connected]

theorem stopped_or_reached (machine : Machine) (path : Option String) (kind : KeyKind)
    (shuffle : Bool) :
    (∃ failure, Stopped machine path kind failure) ∨
      ∃ setup : Setup, setup.Reached machine path kind shuffle := by
  cases loaded : Config.load machine.files machine.environment
      (Config.locate path machine.environment) with
  | error fault => exact .inl ⟨_, .config loaded⟩
  | ok config =>
  cases opened : Log.opened machine.files machine.environment config.log with
  | error fault => exact .inl ⟨_, .log loaded opened⟩
  | ok result =>
  obtain ⟨log, files⟩ := result
  have prepared : Prepared machine path config log files := ⟨loaded, opened⟩
  cases made : Client.ofUrl config.authority.url with
  | error fault => exact .inl ⟨_, .client prepared made⟩
  | ok client =>
  cases chosen : Settings.ofConfig kind config with
  | error fault => exact .inl ⟨_, .settings prepared made chosen⟩
  | ok own =>
  cases found : (connected machine log files).files.openDatabase config.database.path with
  | error fault => exact .inl ⟨_, .database prepared made chosen found⟩
  | ok database =>
    let setup : Setup := {
      config, log, files, database
      client := { client with timeoutSecs := config.authority.timeoutSecs }
      settings := if shuffle then { own with shuffle := true } else own }
    exact .inr ⟨setup, prepared, ⟨client, made, rfl⟩, ⟨own, chosen, rfl⟩, found⟩

theorem perform_of_stopped {failure : Failure} (stopped : Stopped machine path kind failure) :
    ∃ after, perform ⟨path, .job kind shuffle json⟩ order machine = (.error failure, after) ∧
      after.received = machine.received := by
  cases stopped with
  | config failed => exact ⟨machine, by simp only [perform, Machine.prepare, failed], rfl⟩
  | log loaded failed =>
    exact ⟨machine, by simp only [perform, Machine.prepare, loaded, failed], rfl⟩
  | @client config log files fault prepared failed =>
    refine ⟨_, ?_, Machine.received_note { machine with files, log }
      { source := "vault_rekey", level := .info }⟩
    simp only [perform, Machine.prepare, prepared.loaded, prepared.opened, failed]
  | @settings config log files client fault prepared made failed =>
    refine ⟨_, ?_, received_connected machine log files⟩
    rw [perform_of_prepared prepared made, job, settings, failed]
  | @database config log files client own fault prepared made chosen failed =>
    refine ⟨_, ?_, received_connected machine log files⟩
    rw [perform_of_prepared prepared made, job, settings, chosen]
    simp only [failed]

/-- Where all goes well, a run begins; its report is printed, its fault is a failure. -/
theorem perform_of_reached {setup : Setup} (reached : setup.Reached machine path kind shuffle) :
    (perform ⟨path, .job kind shuffle json⟩ order machine).1 =
      match (setup.outcome machine kind order).1 with
      | .error fault => .error (.migration kind fault)
      | .ok report => .ok (printed json report) := by
  obtain ⟨client, made, client_eq⟩ := reached.made
  obtain ⟨own, chosen, settings_eq⟩ := reached.chosen
  rw [perform_of_prepared reached.prepared made, job, settings, chosen, Setup.outcome, client_eq,
    settings_eq]
  simp only [reached.opened]
  cases ran : (migrate kind (if shuffle then { own with shuffle := true } else own) order).drive
      (Machine.world { client with timeoutSecs := setup.config.authority.timeoutSecs }
        setup.config.database.path)
      ((connected machine setup.log setup.files).note
        { source := Log.storePart, level := .info }) with
  | mk result after => cases result <;> rfl

/-- What stops a job before its run does not come from the network. -/
theorem Stopped.network {failure : Failure} (stopped : Stopped machine path kind failure)
    (network : Network) : Stopped { machine with network } path kind failure := by
  have moved {config : Config} {log : Option Log} {files : Files}
      (prepared : Prepared machine path config log files) :
      Prepared { machine with network } path config log files :=
    ⟨prepared.loaded, prepared.opened⟩
  cases stopped with
  | config failed => exact .config failed
  | log loaded failed => exact .log loaded failed
  | client prepared failed => exact .client (moved prepared) failed
  | settings prepared made failed => exact .settings (moved prepared) made failed
  | database prepared made chosen failed =>
    refine .database (moved prepared) made chosen ?_
    rwa [connected, Machine.note_network { machine with files := _, log := _ } network,
      Machine.notes_network]

/-- A failure is never taken for a success. -/
theorem code_of_failure (failure : Failure) : (Ending.of (.error failure)).code ≠ 0 := by
  cases crashes : failure.isCrash <;> simp [Ending.of, crashes]

section

variable {arguments : List String} (parsed : parse arguments = .run ⟨path, .job kind shuffle json⟩)

include parsed

theorem run_eq (machine : Machine) : run arguments order machine =
    (.of (perform ⟨path, .job kind shuffle json⟩ order machine).1,
      (perform ⟨path, .job kind shuffle json⟩ order machine).2) := by
  simp only [run, parsed]

theorem run_of_stopped {failure : Failure} (stopped : Stopped machine path kind failure) :
    (run arguments order machine).1 = .of (.error failure) ∧
      (run arguments order machine).2.received = machine.received := by
  obtain ⟨after, performed, quiet⟩ := perform_of_stopped stopped
  rw [run_eq parsed, performed]
  exact ⟨rfl, quiet⟩

theorem run_of_report {setup : Setup} {report : Report}
    (reached : setup.Reached machine path kind shuffle)
    (reported : (setup.outcome machine kind order).1 = .ok report) :
    (run arguments order machine).1 = { code := 0, output := printed json report } := by
  rw [run_eq parsed, perform_of_reached reached, reported]
  rfl

/-- The three ways in which a job ends. -/
theorem ending_cases (order : List Batch → List Batch) (machine : Machine) :
    let ending := (run arguments order machine).1
    (∃ failure, Stopped machine path kind failure ∧ ending = .of (.error failure)) ∨
      ∃ setup : Setup, setup.Reached machine path kind shuffle ∧
        ((∃ fault, (setup.outcome machine kind order).1 = .error fault ∧
            ending = .of (.error (.migration kind fault))) ∨
          ∃ report, (setup.outcome machine kind order).1 = .ok report ∧
            ending = { code := 0, output := printed json report }) := by
  intro ending
  rcases stopped_or_reached machine path kind shuffle with ⟨failure, stopped⟩ | ⟨setup, reached⟩
  · exact .inl ⟨failure, stopped, (run_of_stopped parsed stopped).1⟩
  refine .inr ⟨setup, reached, ?_⟩
  cases outcome : (setup.outcome machine kind order).1 with
  | error fault =>
    refine .inl ⟨fault, rfl, ?_⟩
    simp only [ending, run_eq parsed, perform_of_reached reached, outcome]
  | ok report => exact .inr ⟨report, rfl, run_of_report parsed reached outcome⟩

end

/-- A job exits with 0 if and only if its configuration is loaded, its log and its client are set
up, its settings are valid, its database opens and its run leaves a report. Then it prints that
report, whatever its reason. Otherwise it prints nothing, and fails for what went wrong first: in
the run, or in a stage before it, in which case no request was received and none would have been
whatever network there was. -/
theorem exits_zero_iff_reported {arguments : List String} (order : List Batch → List Batch)
    (machine : Machine) (parsed : parse arguments = .run ⟨path, .job kind shuffle json⟩) :
    let ending := (run arguments order machine).1
    (ending.code = 0 ↔ ∃ (setup : Setup) (report : Report),
      setup.Reached machine path kind shuffle ∧
        (setup.outcome machine kind order).1 = .ok report) ∧
    (∀ (setup : Setup) (report : Report), setup.Reached machine path kind shuffle →
      (setup.outcome machine kind order).1 = .ok report →
      ending = { code := 0
                 output := (if json then report.toJson.pretty else report.line) ++ "\n" }) ∧
    (ending.code ≠ 0 → ending.output = "" ∧ ∃ failure, ending.failure = some failure ∧
      (Stopped machine path kind failure ∨ ∃ (setup : Setup) (fault : Fault),
        setup.Reached machine path kind shuffle ∧
          (setup.outcome machine kind order).1 = .error fault ∧
          failure = .migration kind fault)) ∧
    ((¬∃ setup : Setup, setup.Reached machine path kind shuffle) →
      ending.code ≠ 0 ∧ ∀ network,
        (run arguments order { machine with network }).1 = ending ∧
        (run arguments order { machine with network }).2.received = machine.received) := by
  intro ending
  have ways := ending_cases parsed order machine
  refine ⟨⟨fun zero => ?_, ?_⟩, fun setup report => run_of_report parsed, fun failing => ?_,
    fun unready => ?_⟩
  · rcases ways with ⟨failure, -, ended⟩ | ⟨setup, reached, ⟨fault, -, ended⟩ | ⟨report, came, -⟩⟩
    · exact absurd (ended ▸ zero) (code_of_failure failure)
    · exact absurd (ended ▸ zero) (code_of_failure (.migration kind fault))
    · exact ⟨setup, report, reached, came⟩
  · rintro ⟨setup, report, reached, came⟩
    exact congrArg Ending.code (run_of_report parsed reached came)
  · rcases ways with ⟨failure, stopped, ended⟩ |
      ⟨setup, reached, ⟨fault, failed, ended⟩ | ⟨report, -, ended⟩⟩
    · rw [show ending = _ from ended]
      exact ⟨rfl, failure, rfl, .inl stopped⟩
    · rw [show ending = _ from ended]
      exact ⟨rfl, _, rfl, .inr ⟨setup, fault, reached, failed, rfl⟩⟩
    · exact absurd (congrArg Ending.code ended) failing
  · rcases ways with ⟨failure, stopped, ended⟩ | ⟨setup, reached, -⟩
    · refine ⟨fun zero => code_of_failure failure (ended ▸ zero), fun network => ?_⟩
      have moved := stopped.network network
      exact ⟨(run_of_stopped parsed moved).1.trans ended.symm, (run_of_stopped parsed moved).2⟩
    · exact absurd ⟨setup, reached⟩ unready

def rehashing : String :=
  "[key_api]\nurl = \"http://k\"\n[db]\npath = \"v\"\n[rehash]\nbatch_size = 2\n"

def keyless : Response := ⟨200, "<result><status>success</status></result>".toUTF8.toList⟩

def inquiry : Request := ⟨⟨false, "k", none, ["status"], none⟩, ""⟩

/-- The database names a target, and there is no key for it. -/
def premature : Machine where
  files := { files := [(["c"], .bytes rehashing.toUTF8.toList),
    (["v"], .database { config := some [("HMAC_VERSION", .integer 7)] })] }
  environment := []
  network := fun _ files _ => (.answered keyless, files)
  clock := fun _ => 0
  today := ⟨⟨2025, 7, 1⟩, 12, 0, 0, 0⟩

def prematureSetup : Setup where
  config := {
    log := {}
    authority := ⟨"http://k", 30, 10⟩
    database := ⟨"v"⟩
    reencrypt := none
    rehash := some ⟨some 2, none, false⟩
    cleaner := {} }
  log := none
  files := premature.files
  client := ⟨"http://k/", 30⟩
  settings := ⟨2, none, true, by decide⟩
  database := { store := { config := some [("HMAC_VERSION", .integer 7)] }, file := some ["v"] }

theorem load_premature :
    Config.load premature.files premature.environment "c" = .ok prematureSetup.config := by
  have found (content other : Content) :
      Files.find { files := [(["c"], content), (["v"], other)] } "c" =
        .ok (.file ["c"] content) := by cbv
  have decoded : String.fromUTF8? ⟨rehashing.toUTF8.toList.toArray⟩ = some rehashing := by
    decide +kernel
  have read : Config.read rehashing = .ok prematureSetup.config := by decide +kernel
  have text : premature.files.readText "c" = .ok rehashing := by
    simp only [Files.readText, premature, found, decoded]
  simp only [Config.load, text, read]
  rfl

theorem opened_default (files : Files) : Log.opened files [] {} = .ok (none, files) := by
  have parts : Log.Filter.parts "info" = ["info"] := by cbv
  have read : Log.Directive.ofText "info" = .ok { level := .info } := by decide +kernel
  have sound : Log.Filter.lenient "info" = .ok [{ level := .info }] := by
    simp only [Log.Filter.lenient, parts, List.map, read, Log.Filter.sound, Except.map]
    rfl
  have filter : Log.filterOf [] "info" = .ok [{ level := .info }] := by
    simp only [Log.filterOf, List.lookup_nil, Option.map_none, sound, Except.mapError]
  simp only [Log.opened, filter, show Log.isErrorOutput "stderr" = true by decide, if_true]

theorem openDatabase_premature :
    premature.files.openDatabase "v" = .ok prematureSetup.database := by
  have opened (content : Content) (store : Store) :
      Files.openDatabase { files := [(["c"], content), (["v"], .database store)] } "v" =
        .ok { store, file := some ["v"] } := by cbv
  exact opened _ _

theorem reached_premature : prematureSetup.Reached premature (some "c") .hmac true where
  prepared := ⟨load_premature, opened_default _⟩
  made := ⟨⟨"http://k/", 30⟩, by decide +kernel, rfl⟩
  chosen := ⟨⟨2, none, false, by decide⟩, rfl, rfl⟩
  opened := openDatabase_premature

theorem outcome_premature (order : List Batch → List Batch) :
    (prematureSetup.outcome premature .hmac order).1 =
      .ok ⟨.hmac, some 7, 0, 0, 0, 0, .targetNotReady, 0⟩ := by
  let world := Machine.world prematureSetup.client "v"
  let begun : Machine := { premature with readings := 1 }
  have address : prematureSetup.client.statusRequest? = some inquiry := by decide +kernel
  have empty : Client.readStatus (.answered keyless) = .ok .empty := by decide +kernel
  have target : world begun (.target .hmac) = (.ok (some 7), begun) := by
    have read : (begun.store "v").target .hmac = .ok (some 7) := by
      rw [Machine.store, show begun.files = premature.files from rfl, openDatabase_premature]
      rfl
    simp only [world, Machine.world, read]
    rfl
  have status : world begun .status = (.ok .empty, { begun with received := [inquiry] }) := by
    have patient : (begun.notes Log.waiting).isEndless 30 = false := by decide
    have sent : begun.exchange 30 (some inquiry) =
        (.answered keyless, { begun with received := [inquiry] }) := by
      simp only [Machine.exchange, patient]
      rfl
    rw [← empty]
    simp only [world, Machine.world, Machine.call, address]
    exact congrArg (fun got => (Client.readStatus got.1, got.2)) sent
  have unready : KeyInventory.empty.isReady .hmac 7 = false := by decide
  calc (prematureSetup.outcome premature .hmac order).1
    _ = ((migrate .hmac prematureSetup.settings order).drive world premature).1 := rfl
    _ = (((resolve .hmac).andThen _).drive world begun).1 := by
      rw [migrate, Session.drive]
      rfl
    _ = .ok ⟨.hmac, some 7, 0, 0, 0, 0, .targetNotReady, 0⟩ := by
      rw [Session.drive_andThen]
      simp only [resolve, Session.drive, target, status, unready]
      rfl

/-- A target that is not ready is no failure, and a configuration that is not there is one. -/
theorem premature_exits_zero :
    let arguments := ["--config", "c", "hmac", "--shuffle-batches"]
    parse arguments = .run ⟨some "c", .job .hmac true false⟩ ∧
      (run arguments List.reverse premature).1 =
        { code := 0
          output := "HMAC Target not ready! Converted: 0, failed: 0, 0.000 sec elapsed\n" } ∧
      ∀ network,
        let (ending, after) := run arguments List.reverse { premature with files := {}, network }
        ending.code ≠ 0 ∧ ending.output = "" ∧ after.received = [] := by
  intro arguments
  have parsed : parse arguments = .run ⟨some "c", .job .hmac true false⟩ := by cbv
  refine ⟨parsed, ?_, fun network => ?_⟩
  · have line : (⟨.hmac, some 7, 0, 0, 0, 0, .targetNotReady, 0⟩ : Report).line =
        "HMAC Target not ready! Converted: 0, failed: 0, 0.000 sec elapsed" := by
      decide +kernel
    obtain ⟨-, reported, -⟩ := exits_zero_iff_reported List.reverse premature parsed
    have ended := reported _ _ reached_premature (outcome_premature List.reverse)
    rw [ended, if_neg (by decide), line]
    rfl
  · have nowhere : Config.load {} [] "c" = .error (.config (.unreadable "c" .notFound)) := by cbv
    obtain ⟨-, -, failing, unready⟩ :=
      exits_zero_iff_reported List.reverse { premature with files := {}, network } parsed
    have missing : ¬∃ setup : Setup,
        setup.Reached { premature with files := {}, network } (some "c") .hmac true := by
      rintro ⟨setup, reached⟩
      cases nowhere.symm.trans reached.prepared.loaded
    obtain ⟨nonzero, quiet⟩ := unready missing
    exact ⟨nonzero, (failing nonzero).1, (quiet network).2⟩

end Jobs
end KeyRotation
