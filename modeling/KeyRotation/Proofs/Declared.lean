import Mathlib
import KeyRotation.Proofs.Fields

/-! What of a document is in the configuration that it makes. A key that is not declared is refused
at every level, and the value of a declared field is kept as it was written. What follows the last
field in an array is passed over, and a document says the same without it. -/
namespace KeyRotation

namespace Toml

def Value.Scalar : Value → Prop
  | .array _ | .table _ => False
  | _ => True

end Toml

namespace Config

open Section (Gives Stands Slot)

section Written

/-- What is held of each section, as a document has it. -/
def Log.written (log : Log) : List (String × Toml.Value) :=
  [("target", .text log.target), ("level", .text log.level)]

def Authority.written (authority : Authority) : List (String × Toml.Value) :=
  [("url", .text authority.url), ("timeout_secs", number authority.timeoutSecs.toNat),
    ("connect_timeout_secs", number authority.connectTimeoutSecs.toNat)]

def Database.written (database : Database) : List (String × Toml.Value) :=
  [("path", .text database.path)]

def Job.written (job : Job) : List (String × Toml.Value) :=
  (job.batchSize.toList.map fun size => ("batch_size", number size.toNat)) ++
    (job.timeLimitSecs.toList.map fun secs => ("time_limit_secs", number secs.toNat)) ++
    [("shuffle_batches", .boolean job.shuffleBatches)]

def Cleaner.written (cleaner : Cleaner) : List (String × Toml.Value) :=
  [("retention_days", number cleaner.retentionDays.toNat)]

def written (config : Config) : List (String × List (String × Toml.Value)) :=
  [("log", config.log.written), ("key_api", config.authority.written),
    ("db", config.database.written), ("cleaner", config.cleaner.written)] ++
    (config.reencrypt.toList.map fun job => ("reencrypt", job.written)) ++
    config.rehash.toList.map fun job => ("rehash", job.written)

def fieldsOf (name : String) : List String :=
  ([("log", Log.fields), ("key_api", Authority.fields), ("db", Database.fields),
    ("reencrypt", Job.fields), ("rehash", Job.fields),
    ("cleaner", Cleaner.fields)].lookup name).getD []

end Written

section Kept

variable {α : Type} {fields : List String} {field : String} {part : Toml.Value}
  {shown : List (String × Toml.Value)} {contents : Section}

/-- The keys of a section are fields, and what it gives to its fields is held. -/
structure Kept (fields : List String) (part : Toml.Value) (shown : List (String × Toml.Value)) :
    Prop where
  keys : ∀ name value, Stands part (.key name) value → name ∈ fields
  values : ∀ field value, Gives fields part field value → (field, value) ∈ shown ∧ value.Scalar

def FieldKept (fields : List String) (contents : Section) (shown : List (String × Toml.Value))
    (field : String) : Prop :=
  ∀ value, contents.value? fields field = some value → (field, value) ∈ shown ∧ value.Scalar

theorem fieldKept_of_required {read? : Toml.Value → Option α} {a : α}
    (read : contents.required read? fields field = some a)
    (held : ∀ value, read? value = some a → (field, value) ∈ shown ∧ value.Scalar) :
    FieldKept fields contents shown field := by
  intro value present
  exact held value ((Section.required_of_some present).symm.trans read)

theorem fieldKept_of_defaulted {read? : Toml.Value → Option α} {default a : α}
    (read : contents.defaulted default read? fields field = some a)
    (held : ∀ value, read? value = some a → (field, value) ∈ shown ∧ value.Scalar) :
    FieldKept fields contents shown field := by
  intro value present
  exact held value ((Section.defaulted_of_some present).symm.trans read)

theorem fieldKept_of_optional {read? : Toml.Value → Option α} {a : Option α}
    (read : contents.optional read? fields field = some a)
    (held : ∀ b value, a = some b → read? value = some b → (field, value) ∈ shown ∧ value.Scalar) :
    FieldKept fields contents shown field := by
  intro value present
  rw [Section.optional_of_some present] at read
  obtain ⟨b, read_value, eq⟩ := Option.map_eq_some_iff.1 read
  exact held b value eq.symm read_value

/-- A section is kept if its fields are. -/
theorem kept_of_part? {read? : Section → Option α} {a : α} (distinct : fields.Nodup)
    (keyed : part.Keyed) (read : part? fields read? part = some a)
    (held : ∀ contents, read? contents = some a →
      ∀ field ∈ fields, FieldKept fields contents shown field) : Kept fields part shown := by
  obtain ⟨contents, of_part, -, read'⟩ := part?_eq_some read
  refine ⟨fun name value stands => mem_of_part? read stands, fun field value given => ?_⟩
  have declared := given.mem
  rw [Section.gives_iff_value? keyed distinct declared of_part] at given
  exact held contents read' field declared value given

theorem held_text {text : String} (member : (field, Toml.Value.text text) ∈ shown)
    (value : Toml.Value) (read : text? value = some text) :
    (field, value) ∈ shown ∧ value.Scalar := by
  rw [text?_eq_some read]
  exact ⟨member, trivial⟩

theorem held_word {word : UInt64} (member : (field, number word.toNat) ∈ shown)
    (value : Toml.Value) (read : word? value = some word) :
    (field, value) ∈ shown ∧ value.Scalar := by
  rw [word?_eq_some read]
  exact ⟨member, trivial⟩

theorem kept_of_log? {log : Log} (keyed : part.Keyed) (read : log? part = some log) :
    Kept Log.fields part log.written := by
  refine kept_of_part? (by decide) keyed read fun contents read => ?_
  obtain ⟨target, target_eq, read⟩ := Option.bind_eq_some_iff.1 read
  obtain ⟨level, level_eq, read⟩ := Option.bind_eq_some_iff.1 read
  cases read
  refine List.forall_mem_cons.2 ⟨?_, List.forall_mem_cons.2 ⟨?_, List.forall_mem_nil _⟩⟩
  · exact fieldKept_of_defaulted target_eq (held_text (by simp [Log.written]))
  · exact fieldKept_of_defaulted level_eq (held_text (by simp [Log.written]))

theorem kept_of_authority? {authority : Authority} (keyed : part.Keyed)
    (read : authority? part = some authority) :
    Kept Authority.fields part authority.written := by
  refine kept_of_part? (by decide) keyed read fun contents read => ?_
  obtain ⟨url, url_eq, read⟩ := Option.bind_eq_some_iff.1 read
  obtain ⟨timeout, timeout_eq, read⟩ := Option.bind_eq_some_iff.1 read
  obtain ⟨connect, connect_eq, read⟩ := Option.bind_eq_some_iff.1 read
  cases read
  refine List.forall_mem_cons.2 ⟨?_, List.forall_mem_cons.2 ⟨?_,
    List.forall_mem_cons.2 ⟨?_, List.forall_mem_nil _⟩⟩⟩
  · exact fieldKept_of_required url_eq (held_text (by simp [Authority.written]))
  · exact fieldKept_of_defaulted timeout_eq (held_word (by simp [Authority.written]))
  · exact fieldKept_of_defaulted connect_eq (held_word (by simp [Authority.written]))

theorem kept_of_database? {database : Database} (keyed : part.Keyed)
    (read : database? part = some database) : Kept Database.fields part database.written := by
  refine kept_of_part? (by decide) keyed read fun contents read => ?_
  obtain ⟨path, path_eq, read⟩ := Option.bind_eq_some_iff.1 read
  cases read
  refine List.forall_mem_cons.2 ⟨?_, List.forall_mem_nil _⟩
  exact fieldKept_of_required path_eq (held_text (by simp [Database.written]))

theorem kept_of_job? {job : Job} (keyed : part.Keyed) (read : job? part = some job) :
    Kept Job.fields part job.written := by
  refine kept_of_part? (by decide) keyed read fun contents read => ?_
  obtain ⟨size, size_eq, read⟩ := Option.bind_eq_some_iff.1 read
  obtain ⟨limit, limit_eq, read⟩ := Option.bind_eq_some_iff.1 read
  obtain ⟨shuffle, shuffle_eq, read⟩ := Option.bind_eq_some_iff.1 read
  cases read
  refine List.forall_mem_cons.2 ⟨?_, List.forall_mem_cons.2 ⟨?_,
    List.forall_mem_cons.2 ⟨?_, List.forall_mem_nil _⟩⟩⟩
  · refine fieldKept_of_optional size_eq fun word value given => held_word ?_ value
    simp [Job.written, given]
  · refine fieldKept_of_optional limit_eq fun word value given => held_word ?_ value
    simp [Job.written, given]
  · refine fieldKept_of_defaulted shuffle_eq fun value read => ?_
    rw [boolean?_eq_some read]
    exact ⟨by simp [Job.written], trivial⟩

theorem kept_of_cleaner? {cleaner : Cleaner} (keyed : part.Keyed)
    (read : cleaner? part = some cleaner) : Kept Cleaner.fields part cleaner.written := by
  refine kept_of_part? (by decide) keyed read fun contents read => ?_
  obtain ⟨days, days_eq, read⟩ := Option.bind_eq_some_iff.1 read
  cases read
  refine List.forall_mem_cons.2 ⟨?_, List.forall_mem_nil _⟩
  refine fieldKept_of_defaulted days_eq fun value read => ?_
  rw [days?_eq_some read]
  exact ⟨by simp [Cleaner.written], trivial⟩

/-- Every section of a document is one that is declared, and is kept. -/
theorem kept_of_ofEntries? {entries : Toml.Entries} {config : Config}
    (keyed : (Toml.Value.table entries).Keyed) (accepted : ofEntries? entries = some config)
    {name : String} (member : (name, part) ∈ entries) :
    name ∈ Config.fields ∧
      ∃ shown, (name, shown) ∈ config.written ∧ Kept (fieldsOf name) part shown := by
  have declared : name ∈ Config.fields := mem_of_part? accepted (.key member)
  have sections := sections_of_ofEntries? accepted
  obtain ⟨found, part_keyed⟩ : entries.lookup name = some part ∧ part.Keyed := by
    cases keyed with
    | table once all => exact ⟨(Entries.mem_iff_lookup once).1 member, all _ member⟩
  have present : (Section.named entries).value? Config.fields name = some part := found
  have job (kind : KeyKind) (same : name = kind.jobSection) :
      ∃ job, config.job kind = some job ∧ Kept Job.fields part job.written := by
    have own := sections.job kind
    rw [← same, Section.optional_of_some present] at own
    obtain ⟨job, read, eq⟩ := Option.map_eq_some_iff.1 own
    exact ⟨job, eq.symm, kept_of_job? part_keyed read⟩
  refine ⟨declared, ?_⟩
  simp only [Config.fields, List.mem_cons, List.not_mem_nil, or_false] at declared
  rcases declared with rfl | rfl | rfl | rfl | rfl | rfl
  · refine ⟨config.log.written, by simp [written], kept_of_log? part_keyed ?_⟩
    exact (Section.defaulted_of_some present).symm.trans sections.log
  · refine ⟨config.authority.written, by simp [written], kept_of_authority? part_keyed ?_⟩
    exact (Section.required_of_some present).symm.trans sections.authority
  · refine ⟨config.database.written, by simp [written], kept_of_database? part_keyed ?_⟩
    exact (Section.required_of_some present).symm.trans sections.database
  · obtain ⟨job, held, kept⟩ := job .kek rfl
    rw [Config.job] at held
    exact ⟨job.written, by simp [written, held], kept⟩
  · obtain ⟨job, held, kept⟩ := job .hmac rfl
    rw [Config.job] at held
    exact ⟨job.written, by simp [written, held], kept⟩
  · refine ⟨config.cleaner.written, by simp [written], kept_of_cleaner? part_keyed ?_⟩
    exact (Section.defaulted_of_some present).symm.trans sections.cleaner

end Kept

section Cut

/-- A section without what follows the last field in an array. -/
def cut (fields : List String) : Toml.Value → Toml.Value
  | .array items => .array (items.take fields.length)
  | part => part

def cutEntries (entries : Toml.Entries) : Toml.Entries :=
  entries.map fun entry => (entry.1, cut (fieldsOf entry.1) entry.2)

variable {α : Type} {fields : List String} {field : String} {read? : Toml.Value → Option α}
  {items : List Toml.Value} {entries : Toml.Entries}

theorem value?_take (declared : field ∈ fields) :
    (Section.ordered (items.take fields.length)).value? fields field =
      (Section.ordered items).value? fields field :=
  List.getElem?_take_of_lt (List.idxOf_lt_length_iff.2 declared)

theorem required_take (declared : field ∈ fields) :
    (Section.ordered (items.take fields.length)).required read? fields field =
      (Section.ordered items).required read? fields field := by
  rw [Section.required, Section.required, value?_take declared]

theorem defaulted_take {default : α} (declared : field ∈ fields) :
    (Section.ordered (items.take fields.length)).defaulted default read? fields field =
      (Section.ordered items).defaulted default read? fields field := by
  rw [Section.defaulted, Section.defaulted, value?_take declared]

theorem optional_take (declared : field ∈ fields) :
    (Section.ordered (items.take fields.length)).optional read? fields field =
      (Section.ordered items).optional read? fields field := by
  unfold Section.optional
  rw [value?_take declared]
  cases (Section.ordered items).value? fields field <;> rfl

theorem part?_cut {read? : Section → Option α}
    (same : ∀ items, read? (.ordered (items.take fields.length)) = read? (.ordered items))
    (part : Toml.Value) : part? fields read? (cut fields part) = part? fields read? part := by
  cases part with
  | array items => exact same items
  | text | integer | boolean | float | moment | table => rfl

theorem log?_cut (part : Toml.Value) : log? (cut Log.fields part) = log? part := by
  refine part?_cut (fun items => ?_) part
  rw [defaulted_take (by decide), defaulted_take (by decide)]

theorem authority?_cut (part : Toml.Value) :
    authority? (cut Authority.fields part) = authority? part := by
  refine part?_cut (fun items => ?_) part
  rw [required_take (by decide), defaulted_take (by decide), defaulted_take (by decide)]

theorem database?_cut (part : Toml.Value) :
    database? (cut Database.fields part) = database? part := by
  refine part?_cut (fun items => ?_) part
  rw [required_take (by decide)]

theorem job?_cut (part : Toml.Value) : job? (cut Job.fields part) = job? part := by
  refine part?_cut (fun items => ?_) part
  rw [optional_take (by decide), optional_take (by decide), defaulted_take (by decide)]

theorem cleaner?_cut (part : Toml.Value) : cleaner? (cut Cleaner.fields part) = cleaner? part := by
  refine part?_cut (fun items => ?_) part
  rw [defaulted_take (by decide)]

theorem value?_cutEntries (name : String) :
    (Section.named (cutEntries entries)).value? fields name =
      ((Section.named entries).value? fields name).map (cut (fieldsOf name)) :=
  Entries.lookup_map (fun name => cut (fieldsOf name)) name

theorem required_cutEntries {name : String}
    (same : ∀ part, read? (cut (fieldsOf name) part) = read? part) :
    (Section.named (cutEntries entries)).required read? fields name =
      (Section.named entries).required read? fields name := by
  rw [Section.required, Section.required, value?_cutEntries, Option.bind_map]
  exact congrArg _ (funext same)

theorem defaulted_cutEntries {name : String} {default : α}
    (same : ∀ part, read? (cut (fieldsOf name) part) = read? part) :
    (Section.named (cutEntries entries)).defaulted default read? fields name =
      (Section.named entries).defaulted default read? fields name := by
  rw [Section.defaulted, Section.defaulted, value?_cutEntries]
  cases (Section.named entries).value? fields name with
  | none => rfl
  | some part => exact same part

theorem optional_cutEntries {name : String}
    (same : ∀ part, read? (cut (fieldsOf name) part) = read? part) :
    (Section.named (cutEntries entries)).optional read? fields name =
      (Section.named entries).optional read? fields name := by
  unfold Section.optional
  rw [value?_cutEntries]
  cases (Section.named entries).value? fields name with
  | none => rfl
  | some part => exact congrArg (Option.map some) (same part)

/-- What follows the last field of a section says nothing. -/
theorem ofEntries?_cutEntries (entries : Toml.Entries) :
    ofEntries? (cutEntries entries) = ofEntries? entries := by
  have fits : (Section.named (cutEntries entries)).fits Config.fields =
      (Section.named entries).fits Config.fields := List.all_map
  have root (entries : Toml.Entries) : Section.of? (.table entries) = some (.named entries) := rfl
  rw [ofEntries?, ofEntries?, part?, part?, root, root, Option.bind_eq_bind, Option.bind_some,
    Option.bind_eq_bind, Option.bind_some, fits, defaulted_cutEntries log?_cut,
    required_cutEntries authority?_cut, required_cutEntries database?_cut,
    optional_cutEntries job?_cut, optional_cutEntries job?_cut, defaulted_cutEntries cleaner?_cut]

end Cut

/-- Every key and every element of an array is the value of a field of the section it stands in. -/
def Used (entries : Toml.Entries) : Prop :=
  ∀ name part, (name, part) ∈ entries → name ∈ Config.fields ∧
    ∀ slot value, Stands part slot value → (slot.field? (fieldsOf name)).isSome

theorem field?_eq_none_iff {fields : List String} {part value : Toml.Value}
    {shown : List (String × Toml.Value)} (kept : Kept fields part shown) {slot : Slot}
    (stands : Stands part slot value) :
    slot.field? fields = none ↔ ∃ i, slot = .index i ∧ fields.length ≤ i := by
  cases stands with
  | key entry => simp [Slot.field?, kept.keys _ _ (.key entry)]
  | index item => simp [Slot.field?]

/-- All of an accepted document is used just when no array goes on behind the last field. -/
theorem used_iff {entries : Toml.Entries} {config : Config}
    (keyed : (Toml.Value.table entries).Keyed) (accepted : ofEntries? entries = some config) :
    Used entries ↔ ∀ name items, (name, Toml.Value.array items) ∈ entries →
      items.length ≤ (fieldsOf name).length := by
  constructor
  · intro used name items member
    by_contra longer
    rw [not_le] at longer
    have named := (used name _ member).2 (.index (fieldsOf name).length) _
      (.index (List.getElem?_eq_getElem longer))
    simp [Slot.field?] at named
  · intro bounded name part member
    obtain ⟨declared, shown, -, kept⟩ := kept_of_ofEntries? keyed accepted member
    refine ⟨declared, fun slot value stands => ?_⟩
    rw [Option.isSome_iff_ne_none, Ne, field?_eq_none_iff kept stands]
    rintro ⟨i, rfl, beyond⟩
    cases stands with
    | index item =>
      obtain ⟨within, -⟩ := List.getElem?_eq_some_iff.1 item
      have bound := bounded name _ member
      omega

/-- Some array goes on behind the last field of its section. -/
def goesOn (entries : Toml.Entries) : Bool :=
  entries.any fun entry =>
    match entry.2 with
    | .array items => (fieldsOf entry.1).length < items.length
    | _ => false

theorem not_used_of_goesOn {entries : Toml.Entries} {config : Config}
    (keyed : (Toml.Value.table entries).Keyed) (accepted : ofEntries? entries = some config)
    (longer : goesOn entries = true) : ¬Used entries := by
  intro used
  obtain ⟨⟨name, part⟩, member, longer⟩ := List.any_eq_true.1 longer
  cases part with
  | array items =>
    have bound := (used_iff keyed accepted).1 used name items member
    have behind : (fieldsOf name).length < items.length := of_decide_eq_true longer
    omega
  | text | integer | boolean | float | moment | table => cases longer

theorem read_of_undeclared {document : String} {entries : Toml.Entries}
    (read_entries : Toml.read? document = some entries) {name : String} {part : Toml.Value}
    (member : (name, part) ∈ entries)
    (undeclared : name ∉ Config.fields ∨
      ∃ key value, Stands part (.key key) value ∧ key ∉ fieldsOf name) :
    read document = .error .toml := by
  have refused : ofEntries? entries = none := by
    rw [Option.eq_none_iff_forall_ne_some]
    intro config accepted
    obtain ⟨declared, shown, -, kept⟩ :=
      kept_of_ofEntries? (Toml.keyed_read read_entries) accepted member
    rcases undeclared with foreign | ⟨key, value, stands, foreign⟩
    · exact foreign declared
    · exact foreign (kept.keys key value stands)
  rw [read, read_entries, Option.bind_some, refused]

/-- The value of every declared field of an accepted document is held as it was written, and nothing
stands in such a value. An undeclared key is refused. What is left are elements of arrays behind the
last field: they say nothing, and all of a document is used just when it has none of them. -/
theorem unused_only_behind_fields (document : String) :
    (∀ config, read document = .ok config →
      ∃ entries, Toml.read? document = some entries ∧
        (∀ name part, (name, part) ∈ entries → ∃ shown, (name, shown) ∈ config.written ∧
          ∀ slot value, Stands part slot value →
            (∀ field, slot.field? (fieldsOf name) = some field →
              (field, value) ∈ shown ∧ value.Scalar) ∧
            (slot.field? (fieldsOf name) = none ↔
              ∃ i, slot = .index i ∧ (fieldsOf name).length ≤ i)) ∧
        (Used entries ↔ ∀ name items, (name, Toml.Value.array items) ∈ entries →
          items.length ≤ (fieldsOf name).length)) ∧
    (∀ entries name part, Toml.read? document = some entries → (name, part) ∈ entries →
      (name ∉ Config.fields ∨ ∃ key value, Stands part (.key key) value ∧ key ∉ fieldsOf name) →
      read document = .error .toml) ∧
    ∀ other, (Toml.read? document).map cutEntries = (Toml.read? other).map cutEntries →
      read document = read other := by
  refine ⟨fun config accepted => ?_,
    fun _ _ _ read_entries member undeclared => read_of_undeclared read_entries member undeclared,
    fun other same => ?_⟩
  · obtain ⟨entries, read_entries, accepted⟩ := read_eq_ok_iff.1 accepted
    have keyed := Toml.keyed_read read_entries
    refine ⟨entries, read_entries, fun name part member => ?_, used_iff keyed accepted⟩
    obtain ⟨-, shown, held, kept⟩ := kept_of_ofEntries? keyed accepted member
    exact ⟨shown, held, fun slot value stands =>
      ⟨fun field named => kept.values field value ⟨slot, stands, named⟩,
        field?_eq_none_iff kept stands⟩⟩
  · have whole (text : String) : (Toml.read? text).bind ofEntries? =
        ((Toml.read? text).map cutEntries).bind ofEntries? := by
      rw [Option.bind_map]
      exact congrArg _ (funext fun entries => (ofEntries?_cutEntries entries).symm)
    rw [read, read, whole document, whole other, same]

/-- The fourth element of a section with three fields is passed over. -/
theorem fourth_element_unused :
    ∃ config entries,
      read "reencrypt = [7, 8, true, 1]\nkey_api = ['http://h']\ndb = ['v']" = .ok config ∧
      Toml.read? "reencrypt = [7, 8, true, 1]\nkey_api = ['http://h']\ndb = ['v']" = some entries ∧
      ¬Used entries ∧
      read "reencrypt = [7, 8, true]\nkey_api = ['http://h']\ndb = ['v']" = .ok config := by
  have accepted : read "reencrypt = [7, 8, true, 1]\nkey_api = ['http://h']\ndb = ['v']" =
      .ok ⟨{}, ⟨"http://h", 30, 10⟩, ⟨"v"⟩, some ⟨some 7, some 8, true⟩, none, {}⟩ := by
    decide +kernel
  have longer : (Toml.read? "reencrypt = [7, 8, true, 1]\nkey_api = ['http://h']\ndb = ['v']").all
      goesOn = true := by
    decide +kernel
  obtain ⟨entries, read_entries, made⟩ := read_eq_ok_iff.1 accepted
  rw [read_entries] at longer
  exact ⟨_, entries, accepted, read_entries,
    not_used_of_goesOn (Toml.keyed_read read_entries) made longer, by decide +kernel⟩

end Config
end KeyRotation
