import Mathlib
import KeyRotation.Batches
import KeyRotation.Proofs.Fields

/-! What a job runs on is written: its settings are those of its own section, and without a section
or a batch size there are none. Only a time limit and an order of the batches may be left out. A
size that is taken is never the one that a plan would put in place of zero. -/
namespace KeyRotation

namespace Config

open Section (Gives)

def HasSection (document : String) (kind : KeyKind) : Prop :=
  ∃ entries part, Toml.read? document = some entries ∧ (kind.jobSection, part) ∈ entries

/-- The section of a kind gives a value to a field. -/
def Sets (document : String) (kind : KeyKind) (field : String) (value : Toml.Value) : Prop :=
  ∃ entries part, Toml.read? document = some entries ∧ (kind.jobSection, part) ∈ entries ∧
    Gives Job.fields part field value

def settingsOf (kind : KeyKind) (document : String) : Except Fault Settings :=
  (read document).bind (Settings.ofConfig kind)

/-- Settings that are those of the section of a kind. -/
structure Chosen (document : String) (kind : KeyKind) (settings : Settings) : Prop where
  size : ∃ n : Int64, Sets document kind "batch_size" (.integer n) ∧
    n.toInt = settings.batchSize.toNat
  limit : ∀ value, Sets document kind "time_limit_secs" value → ∃ n : Int64, value = .integer n ∧
    0 ≤ n.toInt ∧ settings.timeLimit = some (Elapsed.ofSeconds n.toInt.toNat)
  no_limit : (∀ value, ¬Sets document kind "time_limit_secs" value) → settings.timeLimit = none
  shuffle : ∀ value, Sets document kind "shuffle_batches" value → value = .boolean settings.shuffle
  no_shuffle : (∀ value, ¬Sets document kind "shuffle_batches" value) → settings.shuffle = false

/-- What becomes of a job when a document is accepted. -/
inductive Decided (document : String) (kind : KeyKind) : Except Fault Settings → Prop where
  | sectionless (none : ¬HasSection document kind) :
      Decided document kind (.error (.config (.missingSection kind)))
  | sizeless (has : HasSection document kind)
      (none : ∀ value, ¬Sets document kind "batch_size" value) :
      Decided document kind (.error (.config (.batchSizeRequired kind)))
  | zero (sets : Sets document kind "batch_size" (.integer 0)) :
      Decided document kind (.error (.config .batchSizeZero))
  | chosen {settings : Settings} (chosen : Chosen document kind settings) :
      Decided document kind (.ok settings)

variable {document : String} {kind : KeyKind}

theorem Sets.hasSection {field : String} {value : Toml.Value}
    (sets : Sets document kind field value) : HasSection document kind := by
  obtain ⟨entries, part, read, member, -⟩ := sets
  exact ⟨entries, part, read, member⟩

theorem Sets.mem {field : String} {value : Toml.Value} (sets : Sets document kind field value) :
    field ∈ Job.fields := by
  obtain ⟨entries, part, -, -, given⟩ := sets
  exact given.mem

theorem sets_iff_gives {entries : Toml.Entries} {part : Toml.Value}
    (read : Toml.read? document = some entries) (found : entries.lookup kind.jobSection = some part)
    {field : String} {value : Toml.Value} :
    Sets document kind field value ↔ Gives Job.fields part field value := by
  rw [← Toml.mem_entries_iff read] at found
  constructor
  · rintro ⟨entries', part', read', member, given⟩
    obtain rfl := Option.some.inj (read.symm.trans read')
    rw [Toml.mem_entries_iff read] at found member
    obtain rfl := Option.some.inj (found.symm.trans member)
    exact given
  · exact fun given => ⟨entries, part, read, found, given⟩

theorem hasSection_iff {entries : Toml.Entries} (read : Toml.read? document = some entries) :
    HasSection document kind ↔ (entries.lookup kind.jobSection).isSome := by
  rw [Option.isSome_iff_exists]
  constructor
  · rintro ⟨entries', part, read', member⟩
    obtain rfl := Option.some.inj (read.symm.trans read')
    exact ⟨part, (Toml.mem_entries_iff read).1 member⟩
  · rintro ⟨part, found⟩
    exact ⟨entries, part, read, (Toml.mem_entries_iff read).2 found⟩

theorem Sets.unique {field : String} {value value' : Toml.Value}
    (sets : Sets document kind field value) (sets' : Sets document kind field value') :
    value = value' := by
  obtain ⟨entries, part, read, member, given⟩ := sets
  rw [sets_iff_gives read ((Toml.mem_entries_iff read).1 member)] at sets'
  exact given.unique (Toml.keyed_of_mem read member) (by decide) sets'

/-- A word is held just when one is given. -/
structure Holds (given : Toml.Value → Prop) (held : Option UInt64) : Prop where
  some : ∀ value, given value → ∃ word, word? value = Option.some word ∧ held = Option.some word
  none : (∀ value, ¬given value) → held = Option.none

structure JobOf (document : String) (kind : KeyKind) (job : Job) : Prop where
  size : Holds (Sets document kind "batch_size") job.batchSize
  limit : Holds (Sets document kind "time_limit_secs") job.timeLimitSecs
  shuffle : ∀ value, Sets document kind "shuffle_batches" value →
    value = .boolean job.shuffleBatches
  no_shuffle : (∀ value, ¬Sets document kind "shuffle_batches" value) → job.shuffleBatches = false

theorem jobOf_of_job? {entries : Toml.Entries} {part : Toml.Value} {job : Job}
    (read : Toml.read? document = some entries) (found : entries.lookup kind.jobSection = some part)
    (job_eq : job? part = some job) : JobOf document kind job := by
  obtain ⟨contents, of_part, -, read_job⟩ := part?_eq_some job_eq
  obtain ⟨size, size_eq, read_job⟩ := Option.bind_eq_some_iff.1 read_job
  obtain ⟨limit, limit_eq, read_job⟩ := Option.bind_eq_some_iff.1 read_job
  obtain ⟨shuffle, shuffle_eq, read_job⟩ := Option.bind_eq_some_iff.1 read_job
  cases read_job
  have keyed : part.Keyed := Toml.keyed_of_mem read ((Toml.mem_entries_iff read).2 found)
  have sets_iff {field : String} (declared : field ∈ Job.fields) (value : Toml.Value) :
      Sets document kind field value ↔ contents.value? Job.fields field = some value :=
    (sets_iff_gives read found).trans
      (Section.gives_iff_value? keyed (by decide) declared of_part)
  have unset {field : String} (declared : field ∈ Job.fields)
      (none : ∀ value, ¬Sets document kind field value) :
      contents.value? Job.fields field = Option.none :=
    Option.eq_none_iff_forall_ne_some.2 fun value found =>
      none value ((sets_iff declared value).2 found)
  have holds {field : String} {held : Option UInt64} (declared : field ∈ Job.fields)
      (read : contents.optional word? Job.fields field = some held) :
      Holds (Sets document kind field) held := by
    refine ⟨fun value sets => ?_, fun none => ?_⟩
    · rw [Section.optional_of_some ((sets_iff declared value).1 sets)] at read
      obtain ⟨word, read_word, rfl⟩ := Option.map_eq_some_iff.1 read
      exact ⟨word, read_word, rfl⟩
    · exact Section.eq_none_of_optional (unset declared none) read
  refine ⟨holds (by decide) size_eq, holds (by decide) limit_eq, fun value sets => ?_,
    fun none => ?_⟩
  · rw [Section.defaulted_of_some ((sets_iff sets.mem value).1 sets)] at shuffle_eq
    exact boolean?_eq_some shuffle_eq
  · rw [Section.defaulted_of_none (unset (by decide) none)] at shuffle_eq
    exact (Option.some.inj shuffle_eq).symm

theorem decided_of_job {job : Job} {config : Config} (has : HasSection document kind)
    (jobOf : JobOf document kind job) (own : config.job kind = some job) :
    Decided document kind (Settings.ofConfig kind config) := by
  cases held : job.batchSize with
  | none =>
    have required : Settings.ofConfig kind config = .error (.config (.batchSizeRequired kind)) := by
      simp only [Settings.ofConfig, own, held]
    rw [required]
    refine .sizeless has fun value sets => ?_
    obtain ⟨word, -, taken⟩ := jobOf.size.some value sets
    rw [held] at taken
    cases taken
  | some size =>
    obtain ⟨value, sets⟩ : ∃ value, Sets document kind "batch_size" value := by
      by_contra none
      have nothing := jobOf.size.none (not_exists.1 none)
      rw [held] at nothing
      cases nothing
    obtain ⟨word, read_word, taken⟩ := jobOf.size.some value sets
    obtain rfl := Option.some.inj (held.symm.trans taken)
    obtain ⟨n, rfl, same⟩ := word?_eq_some_iff.1 read_word
    have eq : Settings.ofConfig kind config = Settings.of size
        (job.timeLimitSecs.map fun secs => Elapsed.ofSeconds secs.toNat) job.shuffleBatches := by
      simp only [Settings.ofConfig, own, held]
    rw [eq, Settings.of]
    split
    · refine .chosen ⟨⟨n, sets, same⟩, fun value sets => ?_, fun none => ?_, jobOf.shuffle,
        jobOf.no_shuffle⟩
      · obtain ⟨secs, read_secs, taken⟩ := jobOf.limit.some value sets
        obtain ⟨m, rfl, same⟩ := word?_eq_some_iff.1 read_secs
        exact ⟨m, rfl, by omega, by simp [taken, same]⟩
      · rw [jobOf.limit.none none, Option.map_none]
    · next zero =>
      have nothing : n = 0 := by
        rw [UInt64.lt_iff_toNat_lt, UInt64.toNat_zero] at zero
        rw [← Int64.toInt_inj, same, Int64.toInt_zero]
        omega
      exact .zero (nothing ▸ sets)

theorem decided_of_read {config : Config} (accepted : read document = .ok config) :
    Decided document kind (settingsOf kind document) := by
  obtain ⟨entries, read_entries, accepted'⟩ := read_eq_ok_iff.1 accepted
  have own := (sections_of_ofEntries? accepted').job kind
  have settings_eq : settingsOf kind document = Settings.ofConfig kind config := by
    rw [settingsOf, accepted]
    rfl
  rw [settings_eq]
  have value?_eq : (Section.named entries).value? fields kind.jobSection =
      entries.lookup kind.jobSection := rfl
  cases found : entries.lookup kind.jobSection with
  | none =>
    have missing : config.job kind = none :=
      Section.eq_none_of_optional (value?_eq.trans found) own
    have refused : Settings.ofConfig kind config = .error (.config (.missingSection kind)) := by
      simp only [Settings.ofConfig, missing]
    rw [refused]
    exact .sectionless (by simp [hasSection_iff read_entries, found])
  | some part =>
    rw [Section.optional_of_some (value?_eq.trans found)] at own
    obtain ⟨job, job_eq, own⟩ := Option.map_eq_some_iff.1 own
    exact decided_of_job (by simp [hasSection_iff read_entries, found])
      (jobOf_of_job? read_entries found job_eq) own.symm

theorem exists_read_of_settingsOf {settings : Settings}
    (made : settingsOf kind document = .ok settings) : ∃ config, read document = .ok config := by
  cases accepted : read document with
  | ok config => exact ⟨config, rfl⟩
  | error fault =>
    rw [settingsOf, accepted] at made
    cases made

theorem chosen_of_settingsOf {settings : Settings}
    (made : settingsOf kind document = .ok settings) : Chosen document kind settings := by
  obtain ⟨config, accepted⟩ := exists_read_of_settingsOf made
  have decided : Decided document kind (settingsOf kind document) := decided_of_read accepted
  rw [made] at decided
  cases decided with
  | chosen chosen => exact chosen

/-- What an accepted document makes of a job depends on its own section alone. -/
theorem Decided.of_same {other : String} {outcome : Except Fault Settings}
    (has_iff : HasSection document kind ↔ HasSection other kind)
    (sets_iff : ∀ field value, Sets document kind field value ↔ Sets other kind field value)
    (decided : Decided document kind outcome) : Decided other kind outcome := by
  have unset {field : String} : (∀ value, ¬Sets document kind field value) ↔
      ∀ value, ¬Sets other kind field value :=
    forall_congr' fun value => not_congr (sets_iff field value)
  cases decided with
  | sectionless none => exact .sectionless (mt has_iff.2 none)
  | sizeless has none => exact .sizeless (has_iff.1 has) (unset.1 none)
  | zero sets => exact .zero ((sets_iff _ _).1 sets)
  | chosen chosen =>
    obtain ⟨n, sets, same⟩ := chosen.size
    exact .chosen ⟨⟨n, (sets_iff _ _).1 sets, same⟩,
      fun value sets => chosen.limit value ((sets_iff _ _).2 sets),
      fun none => chosen.no_limit (unset.2 none),
      fun value sets => chosen.shuffle value ((sets_iff _ _).2 sets),
      fun none => chosen.no_shuffle (unset.2 none)⟩

theorem Chosen.unique {settings settings' : Settings} (chosen : Chosen document kind settings)
    (chosen' : Chosen document kind settings') : settings = settings' := by
  have size : settings.batchSize = settings'.batchSize := by
    obtain ⟨n, sets, same⟩ := chosen.size
    obtain ⟨m, sets', same'⟩ := chosen'.size
    cases sets.unique sets'
    rw [← UInt64.toNat_inj]
    omega
  have limit : settings.timeLimit = settings'.timeLimit := by
    by_cases given : ∃ value, Sets document kind "time_limit_secs" value
    · obtain ⟨value, sets⟩ := given
      obtain ⟨n, rfl, -, limit⟩ := chosen.limit value sets
      obtain ⟨m, eq, -, limit'⟩ := chosen'.limit _ sets
      cases eq
      rw [limit, limit']
    · rw [chosen.no_limit (not_exists.1 given), chosen'.no_limit (not_exists.1 given)]
  have shuffle : settings.shuffle = settings'.shuffle := by
    by_cases given : ∃ value, Sets document kind "shuffle_batches" value
    · obtain ⟨value, sets⟩ := given
      have eq := (chosen.shuffle value sets).symm.trans (chosen'.shuffle value sets)
      injection eq
    · rw [chosen.no_shuffle (not_exists.1 given), chosen'.no_shuffle (not_exists.1 given)]
  cases settings
  cases settings'
  simp_all

theorem Chosen.one_le {settings : Settings} (chosen : Chosen document kind settings) {n : Int64}
    (sets : Sets document kind "batch_size" (.integer n)) : 1 ≤ n.toInt := by
  obtain ⟨m, sets', same⟩ := chosen.size
  cases sets.unique sets'
  have positive := UInt64.lt_iff_toNat_lt.1 settings.batchSize_pos
  rw [UInt64.toNat_zero] at positive
  omega

theorem Decided.unique {outcome outcome' : Except Fault Settings}
    (decided : Decided document kind outcome) (decided' : Decided document kind outcome') :
    outcome = outcome' := by
  have apart {settings : Settings} (chosen : Chosen document kind settings) :
      ¬Sets document kind "batch_size" (.integer 0) :=
    fun sets => absurd (chosen.one_le sets) (by decide)
  cases decided with
  | sectionless none =>
    cases decided' with
    | sectionless => rfl
    | sizeless has => exact absurd has none
    | zero sets => exact absurd sets.hasSection none
    | chosen chosen =>
      obtain ⟨n, sets, -⟩ := chosen.size
      exact absurd sets.hasSection none
  | sizeless has none =>
    cases decided' with
    | sectionless no_section => exact absurd has no_section
    | sizeless => rfl
    | zero sets => exact absurd sets (none _)
    | chosen chosen =>
      obtain ⟨n, sets, -⟩ := chosen.size
      exact absurd sets (none _)
  | zero sets =>
    cases decided' with
    | sectionless none => exact absurd sets.hasSection none
    | sizeless _ none => exact absurd sets (none _)
    | zero => rfl
    | chosen chosen => exact absurd sets (apart chosen)
  | chosen chosen =>
    obtain ⟨n, sets, -⟩ := chosen.size
    cases decided' with
    | sectionless none => exact absurd sets.hasSection none
    | sizeless _ none => exact absurd sets (none _)
    | zero sets => exact absurd sets (apart chosen)
    | chosen chosen' => exact congrArg Except.ok (chosen.unique chosen')

theorem exists_settings_iff : (∃ settings, settingsOf kind document = .ok settings) ↔
    (∃ config, read document = .ok config) ∧
      ∃ n : Int64, 1 ≤ n.toInt ∧ Sets document kind "batch_size" (.integer n) := by
  constructor
  · rintro ⟨settings, made⟩
    have chosen := chosen_of_settingsOf made
    obtain ⟨n, sets, -⟩ := chosen.size
    exact ⟨exists_read_of_settingsOf made, n, chosen.one_le sets, sets⟩
  · rintro ⟨⟨config, accepted⟩, n, least, sets⟩
    have decided : Decided document kind (settingsOf kind document) := decided_of_read accepted
    generalize settingsOf kind document = outcome at decided ⊢
    cases decided with
    | sectionless none => exact absurd sets.hasSection none
    | sizeless _ none => exact absurd sets (none _)
    | zero zero =>
      cases sets.unique zero
      exact absurd least (by decide)
    | @chosen settings => exact ⟨settings, rfl⟩

end Config

section Plans

def Settings.step (settings : Settings) : Int64 := Int64.ofIntClamp settings.batchSize.toNat

theorem Settings.one_le_batchSize (settings : Settings) : 1 ≤ settings.batchSize.toNat := by
  have positive := UInt64.lt_iff_toNat_lt.1 settings.batchSize_pos
  rwa [UInt64.toNat_zero] at positive

theorem Settings.stepOf_batchSize (settings : Settings) :
    Batches.stepOf settings.batchSize = settings.step := by
  rw [Batches.stepOf, max_eq_left settings.one_le_batchSize, step]

/-- The batches of a range by a step that is not bounded from below. -/
def Batches.unbounded (range : IdRange) (settings : Settings) : Batches :=
  ⟨some range.minId, range.maxId, settings.step, settings.stepOf_batchSize ▸ stepOf_pos _⟩

def Plan.unbounded (range : IdRange) (settings : Settings)
    (shuffle : Option (List Batch → List Batch)) : Plan :=
  match shuffle with
  | none => .ascending (Batches.unbounded range settings)
  | some order => .listed (order (Batches.unbounded range settings).toList)

theorem Plan.ofRange_eq_unbounded (range : IdRange) (settings : Settings)
    (shuffle : Option (List Batch → List Batch)) :
    Plan.ofRange range settings.batchSize shuffle = Plan.unbounded range settings shuffle := by
  have batches : Batches.ofRange range settings.batchSize = Batches.unbounded range settings := by
    simp only [Batches.ofRange, Batches.unbounded, settings.stepOf_batchSize]
  cases shuffle with
  | none => exact congrArg Plan.ascending batches
  | some order => exact congrArg (fun batches => Plan.listed (order batches.toList)) batches

theorem Settings.exists_new_iff {size : UInt64} :
    (∃ settings, Settings.new size = .ok settings) ↔ 1 ≤ size.toNat := by
  have positive : 0 < size ↔ 1 ≤ size.toNat := by
    rw [UInt64.lt_iff_toNat_lt, UInt64.toNat_zero, Nat.succ_le_iff]
  rw [Settings.new, Settings.of, ← positive]
  split
  · next pos => exact iff_of_true ⟨_, rfl⟩ pos
  · next zero => exact iff_of_false (fun ⟨_, made⟩ => by cases made) zero

end Plans

/-- Settings as a run can have them. -/
inductive Settings.Obtained : Settings → Prop where
  | new {size : UInt64} {settings : Settings} (made : Settings.new size = .ok settings) :
      Obtained settings
  | withTimeLimit {settings : Settings} (limit : Elapsed) (obtained : Obtained settings) :
      Obtained (settings.withTimeLimit limit)
  | withShuffle {settings : Settings} (shuffle : Bool) (obtained : Obtained settings) :
      Obtained (settings.withShuffle shuffle)
  | ofConfig {kind : KeyKind} {config : Config} {settings : Settings}
      (chosen : Settings.ofConfig kind config = .ok settings) : Obtained settings

open Config in
/-- A job has settings just when its document is accepted and its own section has a batch size of
one or more. They are those of that section, whatever the other sections say. A section or a size
that is not there, and a size of zero, are faults of the configuration. A run never falls back on a
size that was not chosen. -/
theorem jobs_run_on_written_settings (kind : KeyKind) (document : String) :
    ((∃ settings, settingsOf kind document = .ok settings) ↔
      (∃ config, read document = .ok config) ∧
        ∃ n : Int64, 1 ≤ n.toInt ∧ Sets document kind "batch_size" (.integer n)) ∧
    (∀ settings, settingsOf kind document = .ok settings → Chosen document kind settings) ∧
    (∀ other, (∃ config, read document = .ok config) → (∃ config, read other = .ok config) →
      (HasSection document kind ↔ HasSection other kind) →
      (∀ field value, Sets document kind field value ↔ Sets other kind field value) →
      settingsOf kind document = settingsOf kind other) ∧
    (∀ config, read document = .ok config →
      (¬HasSection document kind →
        settingsOf kind document = .error (.config (.missingSection kind))) ∧
      (HasSection document kind → (∀ value, ¬Sets document kind "batch_size" value) →
        settingsOf kind document = .error (.config (.batchSizeRequired kind))) ∧
      (Sets document kind "batch_size" (.integer 0) →
        settingsOf kind document = .error (.config .batchSizeZero))) ∧
    (∀ size, (∃ settings, Settings.new size = .ok settings) ↔ 1 ≤ size.toNat) ∧
    ∀ settings : Settings, settings.Obtained → 1 ≤ settings.batchSize.toNat ∧
      ∀ range shuffle,
        Plan.ofRange range settings.batchSize shuffle = Plan.unbounded range settings shuffle := by
  refine ⟨exists_settings_iff, fun _ => chosen_of_settingsOf, ?_, ?_,
    fun _ => Settings.exists_new_iff, fun settings _ => ⟨settings.one_le_batchSize,
      fun range shuffle => Plan.ofRange_eq_unbounded range settings shuffle⟩⟩
  · rintro other ⟨config, accepted⟩ ⟨config', accepted'⟩ has_iff sets_iff
    exact ((decided_of_read accepted).of_same has_iff sets_iff).unique (decided_of_read accepted')
  · intro config accepted
    have decided : Decided document kind (settingsOf kind document) := decided_of_read accepted
    exact ⟨fun none => decided.unique (.sectionless none),
      fun has none => decided.unique (.sizeless has none),
      fun zero => decided.unique (.zero zero)⟩

open Config in
/-- The elements of an array are the fields in their order. The other kind has no settings. -/
theorem array_section_chosen :
    let document := "key_api = ['http://h']\ndb = ['v']\nreencrypt = [7, 60]"
    let settings : Settings := ⟨7, some 60000000000, false, by decide⟩
    settingsOf .kek document = .ok settings ∧ Chosen document .kek settings ∧
      (∀ range shuffle, Plan.ofRange range 7 shuffle = Plan.unbounded range settings shuffle) ∧
      ¬∃ n : Int64, 1 ≤ n.toInt ∧ Sets document .hmac "batch_size" (.integer n) := by
  intro document settings
  have made : settingsOf .kek document = .ok settings := by decide +kernel
  have missing : settingsOf .hmac document = .error (.config (.missingSection .hmac)) := by
    decide +kernel
  obtain ⟨written, chosen, -, -, -, kept⟩ := jobs_run_on_written_settings .kek document
  obtain ⟨other, -⟩ := jobs_run_on_written_settings .hmac document
  have new : Settings.new 7 = .ok ⟨7, none, false, by decide⟩ := rfl
  have obtained : settings.Obtained := .withTimeLimit 60000000000 (.new new)
  refine ⟨made, chosen settings made, (kept settings obtained).2, fun size => ?_⟩
  obtain ⟨settings, absurd_made⟩ := other.2 ⟨(written.1 ⟨settings, made⟩).1, size⟩
  rw [missing] at absurd_made
  cases absurd_made

end KeyRotation
