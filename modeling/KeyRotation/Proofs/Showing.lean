import KeyRotation.Proofs.Ending
import KeyRotation.Proofs.Insertion

/-! What the program shows of the keys. Their table has a row for every version with a state, those
of one kind before those of the other and each kind in ascending order, and there is no other such
table. A program that asks for the keys prints it whole, or fails and prints nothing; each row is a
line whose words are what the row tells, however wide they are. -/
namespace KeyRotation

namespace StatusTable

def Row.key (row : Row) : Key := ⟨row.kind, row.version⟩

/-- A row shows this state of its version. Whether it is confirmed is shown for key-encryption keys
only. -/
structure Row.Shows (row : Row) (status : KeyStatus) : Prop where
  valid : row.valid = status.valid
  count : row.count = status.count
  kek : row.kind = .kek → row.checked = some status.checked
  hmac : row.kind = .hmac → row.checked = none

/-- A row for every key that has a state and for no other, in the order of the keys. -/
structure Tabulates (state? : Key → Option KeyStatus) (rows : List Row) : Prop where
  ascending : rows.Pairwise fun first second => first.key.Before second.key
  mem_iff (row : Row) : row ∈ rows ↔ ∃ status, state? row.key = some status ∧ row.Shows status

section Rows

variable {state? : Key → Option KeyStatus} {rows others : List Row} {row : Row}
  {status : KeyStatus}

theorem Row.shows_iff : row.Shows status ↔ row = .of row.kind row.version status := by
  obtain ⟨kind, version, valid, checked, count⟩ := row
  simp only [Row.of, Row.mk.injEq, true_and]
  constructor
  · rintro ⟨valid, count, kek, hmac⟩
    cases kind with
    | kek => exact ⟨valid, kek rfl, count⟩
    | hmac => exact ⟨valid, hmac rfl, count⟩
  · rintro ⟨valid, checked, count⟩
    cases kind with
    | kek => exact ⟨valid, count, fun _ => checked, nofun⟩
    | hmac => exact ⟨valid, count, nofun, fun _ => checked⟩

/-- There is one way to tabulate a state of the keys. -/
theorem Tabulates.unique (one : Tabulates state? rows) (other : Tabulates state? others) :
    rows = others :=
  Key.eq_of_before Row.key one.ascending other.ascending fun row =>
    (one.mem_iff row).trans (other.mem_iff row).symm

theorem rows_eq (keys : KeyInventory) :
    keys.rows = keys.all.map fun (key, status) => .of key.kind key.version status := by
  simp only [KeyInventory.rows, KeyInventory.all, KeyInventory.ofKind, List.map_flatMap,
    List.map_map]
  rfl

theorem tabulates_rows (keys : KeyInventory) :
    Tabulates (fun key => keys.get? key.kind key.version) keys.rows := by
  rw [rows_eq]
  constructor
  · rw [List.pairwise_map]
    exact keys.all_ascending
  · intro row
    simp only [List.mem_map, Prod.exists, KeyInventory.mem_all_iff, Row.shows_iff]
    constructor
    · rintro ⟨key, status, found, rfl⟩
      exact ⟨status, found, rfl⟩
    · rintro ⟨status, found, same⟩
      exact ⟨row.key, status, found, same.symm⟩

end Rows

/-- The words of a line, which blanks stand between. -/
def words (line : List Char) : List String :=
  ((line.splitOnP (· == ' ')).filter (!·.isEmpty)).map String.ofList

section Words

theorem words_append (front back : List Char) :
    words (front ++ ' ' :: back) = words front ++ words back := by
  have parted : (front ++ ' ' :: back).splitOnP (· == ' ') =
      front.splitOnP (· == ' ') ++ back.splitOnP (· == ' ') :=
    List.splitOnP_append_cons front back rfl
  rw [words, parted, List.filter_append, List.map_append]
  rfl

theorem words_blanks_append (n : Nat) (line : List Char) :
    words (List.replicate n ' ' ++ line) = words line := by
  induction n with
  | zero => rfl
  | succ n ih => exact (words_append [] _).trans ih

theorem words_append_blanks (n : Nat) (line : List Char) :
    words (line ++ List.replicate n ' ') = words line := by
  cases n with
  | zero => rw [List.replicate_zero, List.append_nil]
  | succ n =>
    have blank : words (List.replicate n ' ') = [] := by
      rw [← List.append_nil (List.replicate n ' '), words_blanks_append]
      rfl
    rw [List.replicate_succ, words_append, blank, List.append_nil]

/-- A text that is one word. -/
structure Solid (text : String) : Prop where
  filled : text ≠ ""
  blank : ' ' ∉ text.toList

theorem Solid.words_eq {text : String} (solid : Solid text) : words text.toList = [text] := by
  have whole : text.toList.splitOnP (· == ' ') = [text.toList] := by
    apply List.splitOnP_eq_singleton
    intro c member
    exact beq_false_of_ne fun same => solid.blank (same ▸ member)
  simp [words, whole, solid.filled]

theorem Solid.words_left {text : String} (solid : Solid text) (width : Nat) :
    words (left width text).toList = [text] := by
  rw [left, spaces, String.toList_append, String.toList_ofList, words_append_blanks,
    solid.words_eq]

theorem Solid.words_right {text : String} (solid : Solid text) (width : Nat) :
    words (right width text).toList = [text] := by
  rw [right, spaces, String.toList_append, String.toList_ofList, words_blanks_append,
    solid.words_eq]

theorem words_line {kind version valid checked count : String} (first : Solid kind)
    (second : Solid version) (third : Solid valid) (fourth : Solid checked) (fifth : Solid count) :
    words (line kind version valid checked count).toList =
      [kind, version, valid, checked, count] := by
  have gap (front back : List Char) :
      words (front ++ " ".toList ++ back) = words front ++ words back := by
    rw [List.append_assoc]
    exact words_append front back
  simp only [line, String.toList_append, gap, first.words_left, second.words_right,
    third.words_right, fourth.words_right, fifth.words_right, List.cons_append, List.nil_append]

theorem solid_toString (n : Int) : Solid (toString n) where
  filled := (Text.trimmed_toString n).filled
  blank member := by
    rcases Text.sign_or_digit_of_mem member with sign | digit
    · exact absurd sign (by decide)
    · exact absurd digit (by decide)

theorem solid_orDash {α : Type} {text : α → String} (solid : ∀ a, Solid (text a))
    (value : Option α) : Solid (orDash text value) := by
  cases value with
  | none =>
    have dash : Solid "-" := ⟨by decide, by decide⟩
    exact dash
  | some a => exact solid a

theorem words_rowLine (row : Row) : words (rowLine row).toList =
    [row.kind.title, toString row.version.toInt, toString row.valid,
      row.checked.elim "-" toString, row.count.elim "-" fun n => toString n.toNat] := by
  have title : Solid row.kind.title := by
    cases row.kind <;> exact ⟨by decide, by decide⟩
  have flag (b : Bool) : Solid (toString b) := by
    cases b <;> exact ⟨by decide, by decide⟩
  exact words_line title (solid_toString _) (flag _) (solid_orDash flag _)
    (solid_orDash (fun n : UInt64 => solid_toString n.toNat) _)

end Words

theorem toJson_row (row : Row) : row.toJson = .obj [
    ("kind", .str row.kind.tag), ("version", .int row.version.toInt), ("valid", .bool row.valid),
    ("checked", row.checked.elim .null .bool),
    ("count", row.count.elim .null fun n => .int n.toNat)] := by
  obtain ⟨kind, version, valid, checked, count⟩ := row
  cases checked <;> cases count <;> rfl

def heading (keys : KeyInventory) : List String := (lines keys).take 6

/-- Rows as they are printed, in JSON or between a heading and a rule. -/
def print (json : Bool) (heading : List String) (rows : List Row) : String :=
  if json then (Json.arr (rows.map Row.toJson)).pretty ++ "\n"
  else String.join ((heading ++ rows.map rowLine ++ [rule]).map (· ++ "\n"))

end StatusTable

namespace Jobs

variable {machine : Machine} {path : Option String} {json : Bool} {order : List Batch → List Batch}
  {keys : KeyInventory}

/-- What becomes of the question for the state of the keys. -/
def asked (machine : Machine) (config : Config) (log : Option Log) (files : Files)
    (client : Client) : Except Fault KeyInventory × Machine :=
  let client := { client with timeoutSecs := config.authority.timeoutSecs }
  (connected machine log files).call client client.statusRequest? Client.readStatus

/-- The program has its configuration, its log and its client, and is told the state of the keys
when it asks. -/
inductive Told (machine : Machine) (path : Option String) (keys : KeyInventory) : Prop where
  | intro {config : Config} {log : Option Log} {files : Files} {client : Client}
      (prepared : Prepared machine path config log files)
      (made : Client.ofUrl config.authority.url = .ok client)
      (answered : (asked machine config log files client).1 = .ok keys) : Told machine path keys

theorem perform_status {config : Config} {log : Option Log} {files : Files} {client : Client}
    (prepared : Prepared machine path config log files)
    (made : Client.ofUrl config.authority.url = .ok client) :
    (perform ⟨path, .status json⟩ order machine).1 =
      match (asked machine config log files client).1 with
      | .error fault => .error (.status fault)
      | .ok keys => .ok (StatusTable.print json (StatusTable.heading keys) keys.rows) := by
  simp only [perform, Machine.prepare, prepared.loaded, prepared.opened, made, status, asked,
    connected]
  generalize Machine.call _ _ _ _ = answer
  obtain ⟨answer, after⟩ := answer
  cases answer <;> rfl

theorem perform_of_told (told : Told machine path keys) :
    (perform ⟨path, .status json⟩ order machine).1 =
      .ok (StatusTable.print json (StatusTable.heading keys) keys.rows) := by
  obtain ⟨prepared, made, answered⟩ := told
  rw [perform_status prepared made, answered]

theorem told_or_failed (machine : Machine) (path : Option String) (json : Bool)
    (order : List Batch → List Batch) :
    (∃ keys, Told machine path keys) ∨
      ∃ failure, (perform ⟨path, .status json⟩ order machine).1 = .error failure := by
  cases loaded : Config.load machine.files machine.environment
      (Config.locate path machine.environment) with
  | error fault => exact .inr ⟨_, by simp only [perform, Machine.prepare, loaded]; rfl⟩
  | ok config =>
  cases opened : Log.opened machine.files machine.environment config.log with
  | error fault => exact .inr ⟨_, by simp only [perform, Machine.prepare, loaded, opened]; rfl⟩
  | ok result =>
  obtain ⟨log, files⟩ := result
  have prepared : Prepared machine path config log files := ⟨loaded, opened⟩
  cases made : Client.ofUrl config.authority.url with
  | error fault =>
    exact .inr ⟨_, by simp only [perform, Machine.prepare, loaded, opened, made]; rfl⟩
  | ok client =>
  cases answered : (asked machine config log files client).1 with
  | error fault => exact .inr ⟨_, by rw [perform_status prepared made, answered]⟩
  | ok keys => exact .inl ⟨keys, prepared, made, answered⟩

section

variable {arguments : List String} (parsed : parse arguments = .run ⟨path, .status json⟩)

include parsed

theorem run_status (order : List Batch → List Batch) (machine : Machine) :
    (run arguments order machine).1 = .of (perform ⟨path, .status json⟩ order machine).1 := by
  simp only [run, parsed]

/-- Who is told the state of the keys prints their table. -/
theorem run_of_told (told : Told machine path keys) : (run arguments order machine).1 =
    { code := 0, output := StatusTable.print json (StatusTable.heading keys) keys.rows } := by
  rw [run_status parsed, perform_of_told told]
  rfl

theorem told_or_failing (order : List Batch → List Batch) (machine : Machine) :
    (∃ keys, Told machine path keys) ∨
      ∃ failure, (run arguments order machine).1 = .of (.error failure) := by
  rcases told_or_failed machine path json order with told | ⟨failure, failed⟩
  · exact .inl told
  · exact .inr ⟨failure, by rw [run_status parsed, failed]⟩

theorem code_eq_zero_iff :
    (run arguments order machine).1.code = 0 ↔ ∃ keys, Told machine path keys := by
  constructor
  · intro zero
    rcases told_or_failing parsed order machine with told | ⟨failure, failing⟩
    · exact told
    · exact absurd (failing ▸ zero) (code_of_failure failure)
  · rintro ⟨keys, told⟩
    rw [run_of_told parsed told]

theorem output_of_failing (nonzero : (run arguments order machine).1.code ≠ 0) :
    (run arguments order machine).1.output = "" := by
  rcases told_or_failing parsed order machine with told | ⟨failure, failing⟩
  · exact absurd ((code_eq_zero_iff parsed).2 told) nonzero
  · rw [failing]
    rfl

end

end Jobs

open KeyInventory (last? ordered)
open StatusTable (Row Tabulates words rowLine)

/-- What an inventory keeps of all that is put into it, and what the program shows of one. Under a
key it has the state put in last, or none if there is none; what is put in under other keys does
not change it, and it decides whether the version is ready. The versions of a kind are listed in
ascending order, each once and with its last state, as the one ordered map of all keys has them.
The last states have one table, which is that of the inventory; a row of it is a line with a word
for each column, or the same in JSON. The program prints the whole table of the keys that it is
told, and exits with 0 just when it is told of them; otherwise it prints nothing. -/
theorem last_states_kept_and_shown (inserts : List (Key × KeyStatus)) :
    let keys := KeyInventory.empty.insertAll inserts
    (∀ kind version,
      keys.get? kind version = last? inserts ⟨kind, version⟩ ∧
      (keys.isReady kind version = true ↔ ∃ status, keys.get? kind version = some status ∧
        status.valid = true ∧ (kind = .kek → status.checked = true)) ∧
      ∀ others, ⟨kind, version⟩ ∉ others.map Prod.fst →
        (keys.insertAll others).get? kind version = keys.get? kind version) ∧
    (∀ kind, (keys.entries kind).Pairwise (·.1 < ·.1) ∧
      (∀ version, ((keys.entries kind).map Prod.fst).count version =
        if ⟨kind, version⟩ ∈ inserts.map Prod.fst then 1 else 0) ∧
      (∀ version status, (version, status) ∈ keys.entries kind ↔
        last? inserts ⟨kind, version⟩ = some status) ∧
      keys.entries kind = ((ordered inserts).toList.filter (·.1.kind = kind)).map
        fun (key, status) => (key.version, status)) ∧
    (∀ rows, Tabulates (last? inserts) rows ↔ rows = keys.rows) ∧
    (∀ row, words (rowLine row).toList = [row.kind.title, toString row.version.toInt,
        toString row.valid, row.checked.elim "-" toString,
        row.count.elim "-" fun n => toString n.toNat] ∧
      row.toJson = .obj [("kind", .str row.kind.tag), ("version", .int row.version.toInt),
        ("valid", .bool row.valid), ("checked", row.checked.elim .null .bool),
        ("count", row.count.elim .null fun n => .int n.toNat)]) ∧
    ∀ arguments path json order machine,
      Jobs.parse arguments = .run ⟨path, .status json⟩ →
      let ending := (Jobs.run arguments order machine).1
      (ending.code = 0 ↔ ∃ told, Jobs.Told machine path told) ∧
      (ending.code ≠ 0 → ending.output = "") ∧
      ∀ told, Jobs.Told machine path told →
        Tabulates (fun key => told.get? key.kind key.version) told.rows ∧
        ending = { code := 0
                   output := StatusTable.print json (StatusTable.heading told) told.rows } := by
  intro keys
  have found (kind : KeyKind) (version : KeyVersion) :
      keys.get? kind version = last? inserts ⟨kind, version⟩ :=
    KeyInventory.get?_empty_insertAll inserts
  refine ⟨fun kind version => ⟨found kind version, KeyInventory.isReady_iff, ?_⟩, fun kind => ?_,
    fun rows => ?_, fun row => ⟨StatusTable.words_rowLine row, StatusTable.toJson_row row⟩, ?_⟩
  · intro others absent
    rw [KeyInventory.get?_insertAll, KeyInventory.last?_eq_none_iff.2 absent, Option.none_or]
  · refine ⟨(keys.table kind).ascending, fun version => ?_, fun version status => ?_, ?_⟩
    · rw [keys.count_versions, found, if_congr KeyInventory.last?_eq_none_iff rfl rfl, ite_not]
    · rw [KeyInventory.mem_entries_iff, found]
    · rw [KeyInventory.toList_ordered]
      exact keys.entries_eq_filter kind
  · have tabulated : Tabulates (last? inserts) keys.rows := by
      simpa only [found] using StatusTable.tabulates_rows keys
    exact ⟨fun other => other.unique tabulated, fun same => same ▸ tabulated⟩
  · intro arguments path json order machine parsed
    refine ⟨Jobs.code_eq_zero_iff parsed, Jobs.output_of_failing parsed, fun told tells => ?_⟩
    exact ⟨StatusTable.tabulates_rows told, Jobs.run_of_told parsed tells⟩

/-- A version of each kind with the same number, one of them told of twice, and one below zero. -/
def restated : List (Key × KeyStatus) :=
  [(⟨.kek, 7⟩, ⟨false, true, none⟩), (⟨.hmac, 7⟩, ⟨true, false, none⟩),
    (⟨.kek, -5⟩, ⟨false, false, some 12⟩), (⟨.kek, 7⟩, ⟨true, false, none⟩)]

def restatement : Response where
  code := 200
  body := ("<result><status>success</status><master_keys><kek version='7' checked='true'/>" ++
    "<kek version='-5' count='12'/><kek version='7' valid='true'/></master_keys>" ++
    "<hmac_keys><hmac version='7'/></hmac_keys></result>").toUTF8.toList

/-- The machine of a run whose authority tells these states. -/
def restating : Machine :=
  { Jobs.premature with network := fun _ files _ => (.answered restatement, files) }

theorem told_restated : Jobs.Told restating (some "c") (.insertAll .empty restated) := by
  let client := Jobs.prematureSetup.client
  have address : client.statusRequest? = some Jobs.inquiry := by decide +kernel
  have read : Client.readStatus (.answered restatement) = .ok (.insertAll .empty restated) := by
    decide +kernel
  have sent : restating.exchange 30 (some Jobs.inquiry) =
      (.answered restatement, { restating with received := [Jobs.inquiry] }) := by
    have patient : (restating.notes Log.waiting).isEndless 30 = false := by decide
    simp only [Machine.exchange, patient]
    rfl
  have answered : (restating.call client client.statusRequest? Client.readStatus).1 =
      .ok (.insertAll .empty restated) := by
    rw [Machine.call, address, ← read]
    exact congrArg (fun got => Client.readStatus got.1) sent
  have asked : Jobs.asked restating Jobs.prematureSetup.config none restating.files client =
      restating.call client client.statusRequest? Client.readStatus := rfl
  exact .intro ⟨Jobs.load_premature, Jobs.opened_default _⟩ (by decide +kernel) (asked ▸ answered)

theorem restated_shown :
    let keys := KeyInventory.empty.insertAll restated
    let arguments := ["--config", "c", "status"]
    Jobs.parse arguments = .run ⟨some "c", .status false⟩ ∧ Jobs.Told restating (some "c") keys ∧
      keys.get? .kek 7 = some ⟨true, false, none⟩ ∧ keys.isReady .kek 7 = false ∧
      (keys.insertAll [(⟨.kek, 7⟩, {})]).get? .hmac 7 = some ⟨true, false, none⟩ ∧
      (Jobs.run arguments id restating).1 = {
        code := 0
        output := "KeyAPI state:       -\n" ++ "Active KEK version: -\n" ++
          "Target KEK version: -\n" ++ "Active HMAC version: -\n" ++
          "================================================\n" ++
          "KIND    VERSION  VALID  CHECKED        COUNT\n" ++
          "KEK          -5  false    false           12\n" ++
          "KEK           7   true    false            -\n" ++
          "HMAC          7   true        -            -\n" ++
          "================================================\n" } := by
  intro keys arguments
  have parsed : Jobs.parse arguments = .run ⟨some "c", .status false⟩ := by cbv
  obtain ⟨states, -, -, -, command⟩ := last_states_kept_and_shown restated
  obtain ⟨kek, ready, -⟩ := states .kek 7
  obtain ⟨hmac, -, still⟩ := states .hmac 7
  obtain ⟨-, -, shown⟩ := command arguments (some "c") false id restating parsed
  obtain ⟨-, ended⟩ := shown keys told_restated
  refine ⟨parsed, told_restated, kek.trans (by decide), ?_, ?_, ended.trans ?_⟩
  · rw [← Bool.not_eq_true, ready]
    rintro ⟨status, found, -, checked⟩
    cases (kek.symm.trans found : last? restated ⟨.kek, 7⟩ = some status)
    exact absurd (checked rfl) (by decide)
  · exact (still [(⟨.kek, 7⟩, {})] (by decide)).trans (hmac.trans (by decide))
  · decide +kernel

end KeyRotation
