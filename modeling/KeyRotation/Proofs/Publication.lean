import Mathlib
import KeyRotation.Proofs.Course
import KeyRotation.Proofs.Spelling
import KeyRotation.Vault

/-! What a database publishes as the target of a kind, and what a run makes of it. One version
can be written in many ways; a run that checks its target goes by the version that is meant and
not by the way it is written, and what means nothing it takes neither for its own target nor for
another one. -/
namespace KeyRotation

open Text (Blank SpellsSigned)

/-- What is found in the place of a target means that there is none. -/
inductive Absent : Option Cell → Prop where
  | missing : Absent none
  | null : Absent (some .null)
  | blank {text : String} (blank : Blank text.toList) : Absent (some (.text text))

/-- What is found means this version. -/
inductive Encodes (version : KeyVersion) : Option Cell → Prop where
  | integer : Encodes version (some (.integer version))
  | text {text : String} (spelled : SpellsSigned text version) : Encodes version (some (.text text))

/-- What is found can be read and means nothing. -/
inductive Unusable : Option Cell → Prop where
  | text {text : String} (filled : ¬Blank text.toList)
      (unspelled : ∀ version, ¬SpellsSigned text version) : Unusable (some (.text text))
  | real {value : Decimal.Binary64} : Unusable (some (.real value))
  | blob {bytes : List UInt8} : Unusable (some (.blob bytes))

/-- What a reading of the target comes to. -/
inductive Reading : Option Cell → Except Fault (Option KeyVersion) → Prop where
  | absent {found : Option Cell} (absent : Absent found) : Reading found (.ok none)
  | version {found : Option Cell} {version : KeyVersion} (encodes : Encodes version found) :
      Reading found (.ok (some version))
  | refused {found : Option Cell} {cause : ConfigFault} (unusable : Unusable found) :
      Reading found (.error (.config cause))
  | crashed {bytes : List UInt8} : Reading (some (.rawText bytes)) (.error .crashed)

section Meanings

variable {found : Option Cell} {version other : KeyVersion}

theorem Encodes.unique (encodes : Encodes version found) (again : Encodes other found) :
    version = other := by
  cases encodes with
  | integer =>
    cases again
    rfl
  | text spelled =>
    cases again with
    | text twice => exact spelled.unique twice

theorem Encodes.not_absent (encodes : Encodes version found) : ¬Absent found := by
  rintro (_ | _ | blank)
  · cases encodes
  · cases encodes
  · cases encodes with
    | text spelled => exact spelled.not_blank blank

theorem Unusable.not_absent (unusable : Unusable found) : ¬Absent found := by
  rintro (_ | _ | blank)
  · cases unusable
  · cases unusable
  · cases unusable with
    | text filled => exact filled blank

theorem Unusable.not_encodes (unusable : Unusable found) : ¬Encodes version found := by
  rintro (_ | spelled)
  · cases unusable
  · cases unusable with
    | text _ unspelled => exact unspelled _ spelled

end Meanings

namespace Reading

variable {found : Option Cell} {reply : Except Fault (Option KeyVersion)}

theorem of_text (key text : String) :
    Reading (some (.text text)) (Store.decodeTarget key (.text text)) := by
  unfold Store.decodeTarget
  dsimp only
  split
  next blank => exact .absent (.blank (Text.isEmpty_trim_iff.1 blank))
  next filled =>
    split
    next version read => exact .version (.text (Text.int64?_trim_eq_some_iff.1 read))
    next unread =>
      refine .refused (.text (mt Text.isEmpty_trim_iff.2 filled) fun version spelled => ?_)
      simp [Text.int64?_trim_eq_some_iff.2 spelled] at unread

theorem of_target {store : Store} {config : List (String × Cell)}
    (table : store.config = some config) (kind : KeyKind) :
    Reading (config.lookup kind.targetKey) (store.target kind) := by
  simp only [Store.target, table]
  cases config.lookup kind.targetKey with
  | none => exact .absent .missing
  | some cell =>
    cases cell with
    | null => exact .absent .null
    | integer => exact .version .integer
    | text => exact .of_text _ _
    | real => exact .refused .real
    | blob => exact .refused .blob
    | rawText => exact .crashed

theorem eq_ok_none_iff (reading : Reading found reply) : reply = .ok none ↔ Absent found := by
  cases reading with
  | absent absent => exact iff_of_true rfl absent
  | version encodes => exact iff_of_false nofun encodes.not_absent
  | refused unusable => exact iff_of_false nofun unusable.not_absent
  | crashed => exact iff_of_false nofun nofun

theorem eq_ok_some_iff (reading : Reading found reply) (version : KeyVersion) :
    reply = .ok (some version) ↔ Encodes version found := by
  cases reading with
  | absent absent => exact iff_of_false nofun fun encodes => encodes.not_absent absent
  | version encodes =>
    refine ⟨fun same => ?_, fun again => by rw [encodes.unique again]⟩
    obtain rfl := Option.some.inj (Except.ok.inj same)
    exact encodes
  | refused unusable => exact iff_of_false nofun unusable.not_encodes
  | crashed => exact iff_of_false nofun nofun

theorem eq_config_iff (reading : Reading found reply) :
    (∃ cause, reply = .error (.config cause)) ↔ Unusable found := by
  cases reading with
  | absent absent => exact iff_of_false nofun fun unusable => unusable.not_absent absent
  | version encodes => exact iff_of_false nofun fun unusable => unusable.not_encodes encodes
  | refused unusable => exact iff_of_true ⟨_, rfl⟩ unusable
  | crashed => exact iff_of_false nofun nofun

theorem eq_crashed_iff (reading : Reading found reply) :
    reply = .error .crashed ↔ ∃ bytes, found = some (.rawText bytes) := by
  cases reading with
  | crashed => exact iff_of_true rfl ⟨_, rfl⟩
  | absent absent =>
    refine iff_of_false nofun ?_
    rintro ⟨bytes, rfl⟩
    cases absent
  | version encodes =>
    refine iff_of_false nofun ?_
    rintro ⟨bytes, rfl⟩
    cases encodes
  | refused unusable =>
    refine iff_of_false nofun ?_
    rintro ⟨bytes, rfl⟩
    cases unusable

end Reading

/-- The run is not over with a check: another batch is sent, or there is none left to send, or no
time to send it. -/
def GoesOn {α : Type} (reason : α → Reason) (after : List Event) (result : Except Fault α) : Prop :=
  sent after ≠ [] ∨ ∃ value, result = .ok value ∧ reason value ∈ [.completed, .timeLimitReached]

/-- The run sends nothing more and reports that its target has changed. -/
def StopsForDrift {α : Type} (reason : α → Reason) (after : List Event)
    (result : Except Fault α) : Prop :=
  sent after = [] ∧ ∃ value, result = .ok value ∧ reason value = .versionDrifted

/-- The run makes no call any more and comes to a fault of what is configured. -/
def BreaksOff {α : Type} (after : List Event) (result : Except Fault α) : Prop :=
  after = [] ∧ ∃ cause, result = .error (.config cause)

/-- What may follow a check. -/
inductive Sequel {α : Type} (reason : α → Reason) (pinned : KeyVersion) (after : List Event)
    (result : Except Fault α) : Except Fault (Option KeyVersion) → Prop where
  | onward (goesOn : GoesOn reason after result) :
      Sequel reason pinned after result (.ok (some pinned))
  | drifted {current : Option KeyVersion} (moved : current ≠ some pinned)
      (stops : StopsForDrift reason after result) : Sequel reason pinned after result (.ok current)
  | failed {fault : Fault} (last : after = []) (fails : result = .error fault) :
      Sequel reason pinned after result (.error fault)

/-- A batch is accepted and the next call reads the target, with this reply; the others follow. -/
inductive Checked (reply : Except Fault (Option KeyVersion)) (after : List Event) :
    List Event → Prop where
  | here {kind : KeyKind} {batch : Batch} {outcome : BatchOutcome} :
      Checked reply after (.migrate kind batch (.ok outcome) :: .target kind reply :: after)
  | later {event : Event} {rest : List Event} (checked : Checked reply after rest) :
      Checked reply after (event :: rest)

namespace Checked

variable {reply : Except Fault (Option KeyVersion)} {after first second : List Event}

theorem sent_ne_nil (checked : Checked reply after first) : sent first ≠ [] := by
  induction checked with
  | here => exact List.cons_ne_nil _ _
  | @later event rest checked ih => cases event <;> simp [ih]

theorem of_idle (idle : sent first = []) (checked : Checked reply after (first ++ second)) :
    Checked reply after second := by
  induction first with
  | nil => exact checked
  | cons event rest ih =>
    cases event with
    | migrate => cases idle
    | now | target | status | pending =>
      cases checked with
      | later checked => exact ih idle checked

theorem round {kind other : KeyKind} {batch : Batch} {answer : Except Fault BatchOutcome}
    {read : Except Fault (Option KeyVersion)} {rest : List Event}
    (checked : Checked reply after (.migrate kind batch answer :: .target other read :: rest)) :
    reply = read ∧ after = rest ∨ Checked reply after rest := by
  cases checked with
  | here => exact .inl ⟨rfl, rfl⟩
  | later checked =>
    cases checked with
    | later checked => exact .inr checked

theorem of_append_now {ended : Instant} (checked : Checked reply after (first ++ [.now ended])) :
    ∃ rest, after = rest ++ [.now ended] ∧ Checked reply rest first := by
  induction first with
  | nil => exact absurd rfl checked.sent_ne_nil
  | cons event first ih =>
    -- The list has to be a variable for the cases to be told apart.
    generalize whole : event :: first ++ [.now ended] = events at checked
    cases checked with
    | @here kind batch outcome =>
      obtain ⟨rfl, tail⟩ := List.cons.inj whole
      cases first with
      | nil => cases tail
      | cons second first =>
        obtain ⟨rfl, rfl⟩ := List.cons.inj tail
        exact ⟨first, rfl, .here⟩
    | later checked =>
      obtain ⟨rfl, rfl⟩ := List.cons.inj whole
      obtain ⟨rest, split, inner⟩ := ih checked
      exact ⟨rest, split, .later inner⟩

end Checked

/-- What follows a check in the loop is told by what is read. -/
theorem Rounds.sequel {task : Task} {limit : Option Elapsed} {started : Instant}
    {batches : List Batch} {tally : Tally} {events after : List Event}
    {result : Except Fault (Tally × Reason)} {reply : Except Fault (Option KeyVersion)}
    (rounds : Rounds task limit started batches tally events result)
    (checked : Checked reply after events) : Sequel Prod.snd task.target after result reply := by
  induction rounds with
  | finished | refused => nomatch checked
  | unread =>
    rcases checked.round with ⟨rfl, rfl⟩ | late
    · exact .failed rfl rfl
    · exact absurd rfl late.sent_ne_nil
  | drifted moved =>
    rcases checked.round with ⟨rfl, rfl⟩ | late
    · exact .drifted moved ⟨rfl, _, rfl, rfl⟩
    · exact absurd rfl late.sent_ne_nil
  | expired limited spent =>
    rcases checked.round with ⟨rfl, rfl⟩ | late
    · exact .onward (.inr ⟨_, rfl, by simp⟩)
    · exact absurd rfl late.sent_ne_nil
  | @onward batch rest tally outcome reading later result within rounds ih =>
    rcases checked.round with ⟨rfl, rfl⟩ | late
    · refine .onward ?_
      cases rounds with
      | finished => exact .inr ⟨_, rfl, by simp⟩
      | refused | unread | drifted | expired | onward => exact .inl (by simp)
    · exact ih (late.of_idle within.sent_eq)

section Closing

variable {started : Instant} {outcome : Except Fault (Tally × Reason)}
  {result : Except Fault Report} {later ending after rest : List Event}
  {reply : Except Fault (Option KeyVersion)}

theorem Closing.checked (closing : Closing started outcome ending result)
    (checked : Checked reply after (later ++ ending)) :
    ∃ rest, after = rest ++ ending ∧ Checked reply rest later := by
  cases closing with
  | failed => exact ⟨after, (List.append_nil _).symm, by simpa using checked⟩
  | reported => exact checked.of_append_now

theorem Closing.sequel {pinned : KeyVersion} (closing : Closing started outcome ending result)
    (sequel : Sequel Prod.snd pinned rest outcome reply) :
    Sequel Report.reason pinned (rest ++ ending) result reply := by
  have same : sent (rest ++ ending) = sent rest := by simp [closing.sent_eq]
  cases closing with
  | failed =>
    cases sequel with
    | onward goesOn =>
      rcases goesOn with more | ⟨_, ended, _⟩
      · exact .onward (.inl (same ▸ more))
      · cases ended
    | drifted moved stops =>
      obtain ⟨-, _, ended, -⟩ := stops
      cases ended
    | failed last fails =>
      cases fails
      exact .failed (by rw [last, List.append_nil]) rfl
  | reported =>
    cases sequel with
    | onward goesOn =>
      rcases goesOn with more | ⟨_, ended, among⟩
      · exact .onward (.inl (same ▸ more))
      · cases ended
        exact .onward (.inr ⟨_, rfl, among⟩)
    | drifted moved stops =>
      obtain ⟨idle, _, ended, drifts⟩ := stops
      cases ended
      exact .drifted moved ⟨same.trans idle, _, rfl, drifts⟩
    | failed last fails => cases fails

end Closing

theorem Course.sequel {kind : KeyKind} {settings : Settings} {order : List Batch → List Batch}
    {events rest after : List Event} {result : Except Fault Report} {started : Instant}
    {pinned : KeyVersion} {reply : Except Fault (Option KeyVersion)}
    (course : Course kind settings order events result)
    (begins : events = .now started :: .target kind (.ok (some pinned)) :: rest)
    (checked : Checked reply after rest) : Sequel Report.reason pinned after result reply := by
  have busy : sent events ≠ [] := by simpa [begins] using checked.sent_ne_nil
  cases course with
  | unresolved opening => simp [opening.sent_eq] at busy
  | skipped opening => simp [opening.sent_eq] at busy
  | @worked _ _ later ending task outcome _ opening rounds closing =>
    cases opening with
    | work ready =>
    obtain ⟨-, begins⟩ := List.cons.inj begins
    obtain ⟨same, rfl⟩ := List.cons.inj begins
    cases same
    have late := @Checked.of_idle _ _ [.status _, .pending _ _ _] (later ++ ending) rfl checked
    obtain ⟨rest, rfl, inner⟩ := closing.checked late
    exact closing.sequel (rounds.sequel inner)

section Outcome

variable {α : Type} {reason : α → Reason} {pinned : KeyVersion} {after : List Event}
  {result : Except Fault α} {reply : Except Fault (Option KeyVersion)} {found : Option Cell}

theorem StopsForDrift.not_goesOn (stops : StopsForDrift reason after result) :
    ¬GoesOn reason after result := by
  obtain ⟨idle, value, rfl, drifts⟩ := stops
  rintro (more | ⟨_, ended, among⟩)
  · exact more idle
  · cases ended
    simp [drifts] at among

theorem Sequel.goesOn_iff (sequel : Sequel reason pinned after result reply) :
    GoesOn reason after result ↔ reply = .ok (some pinned) := by
  cases sequel with
  | onward goesOn => exact iff_of_true goesOn rfl
  | drifted moved stops =>
    exact iff_of_false stops.not_goesOn fun same => moved (Except.ok.inj same)
  | failed last fails =>
    refine iff_of_false ?_ nofun
    rintro (more | ⟨_, ended, _⟩)
    · exact more (by rw [last]; rfl)
    · cases fails.symm.trans ended

theorem Sequel.stops_iff (sequel : Sequel reason pinned after result reply) :
    StopsForDrift reason after result ↔ ∃ current, current ≠ some pinned ∧ reply = .ok current := by
  cases sequel with
  | onward goesOn =>
    refine iff_of_false (fun stops => stops.not_goesOn goesOn) ?_
    rintro ⟨_, moved, same⟩
    exact moved (Except.ok.inj same).symm
  | drifted moved stops => exact iff_of_true stops ⟨_, moved, rfl⟩
  | failed last fails =>
    refine iff_of_false ?_ nofun
    rintro ⟨_, _, ended, _⟩
    cases fails.symm.trans ended

theorem Sequel.breaksOff_iff (sequel : Sequel reason pinned after result reply) :
    BreaksOff after result ↔ ∃ cause, reply = .error (.config cause) := by
  cases sequel with
  | onward goesOn =>
    refine iff_of_false ?_ nofun
    rintro ⟨rfl, _, fails⟩
    rcases goesOn with more | ⟨_, ended, _⟩
    · exact more rfl
    · cases fails.symm.trans ended
  | drifted moved stops =>
    refine iff_of_false ?_ nofun
    rintro ⟨-, _, fails⟩
    obtain ⟨-, _, ended, -⟩ := stops
    cases fails.symm.trans ended
  | failed last fails => simp [BreaksOff, last, fails]

end Outcome

/-- What is published as a target, and what a run makes of it when it looks again. It is no target
where nothing is found, null or a blank text, and a version where this is found as an integer or
spelled by a text; every other text, real or blob is a fault of what is configured. So a run
goes on after a check that finds its own version however it is written, stops for drift where
there is none or another version, and breaks off elsewhere. -/
theorem target_decoded_and_checked_by_version {store : Store} {config : List (String × Cell)}
    (table : store.config = some config) (kind : KeyKind) :
    let found := config.lookup kind.targetKey
    (store.target kind = .ok none ↔ Absent found) ∧
      (∀ version, store.target kind = .ok (some version) ↔ Encodes version found) ∧
      ((∃ cause, store.target kind = .error (.config cause)) ↔ Unusable found) ∧
      ∀ settings order events result started pinned rest after,
        (migrate kind settings order).Runs events result →
        events = .now started :: .target kind (.ok (some pinned)) :: rest →
        Checked (store.target kind) after rest →
        (GoesOn Report.reason after result ↔ Encodes pinned found) ∧
        (StopsForDrift Report.reason after result ↔
          Absent found ∨ ∃ other, other ≠ pinned ∧ Encodes other found) ∧
        (BreaksOff after result ↔ Unusable found) := by
  intro found
  have reading : Reading found (store.target kind) := .of_target table kind
  refine ⟨reading.eq_ok_none_iff, reading.eq_ok_some_iff, reading.eq_config_iff, ?_⟩
  intro settings order events result started pinned rest after run begins checked
  have sequel := (course_of_runs run).sequel begins checked
  rw [sequel.goesOn_iff, sequel.stops_iff, sequel.breaksOff_iff]
  refine ⟨reading.eq_ok_some_iff pinned, ?_, reading.eq_config_iff⟩
  constructor
  · rintro ⟨current, moved, read⟩
    cases current with
    | none => exact .inl (reading.eq_ok_none_iff.1 read)
    | some other =>
      exact .inr ⟨other, fun same => moved (same ▸ rfl), (reading.eq_ok_some_iff other).1 read⟩
  · rintro (absent | ⟨other, apart, encodes⟩)
    · exact ⟨none, nofun, reading.eq_ok_none_iff.2 absent⟩
    · exact ⟨some other, fun same => apart (Option.some.inj same),
        (reading.eq_ok_some_iff other).2 encodes⟩

/-- A vault whose target is overwritten with bytes once the first of two batches is done. -/
def Vault.overwritten : Vault where
  store := {
    config := some [("KEK_TARGET_VERSION", .integer 7)]
    deks := some [⟨1, 1, none⟩, ⟨2, 3, none⟩] }
  keys := KeyInventory.empty.insert .kek 7 ⟨true, true, none⟩
  drift := some (1, .blob [0x37])

theorem overwritten_breaksOff :
    let spelled : List (String × Cell) := [("KEK_TARGET_VERSION", .text "\u3000+007\n")]
    let garbled : List (String × Cell) := [("KEK_TARGET_VERSION", .blob [0x37])]
    let run := migrate .kek ⟨1, none, false, by decide⟩ id
    Encodes 7 (spelled.lookup "KEK_TARGET_VERSION") ∧
      ({ config := some spelled } : Store).target .kek = .ok (some 7) ∧
      run.trace Vault.world .overwritten = [.now 0, .target .kek (.ok (some 7)),
        .status (.ok Vault.overwritten.keys), .pending .kek 7 (.ok (IdRange.of? 1 2)),
        .migrate .kek ⟨1, 1⟩ (.ok ⟨1, 0⟩),
        .target .kek (({ config := some garbled } : Store).target .kek)] ∧
      BreaksOff [] (run.drive Vault.world .overwritten).1 := by
  intro spelled garbled run
  have encodes : Encodes 7 (spelled.lookup "KEK_TARGET_VERSION") := by
    have value : Int64.toInt 7 = Text.withSign ['+'] 7 := by decide
    have split : "\u3000+007\n".toList = ['\u3000'] ++ (['+'] ++ ['0', '0', '7']) ++ ['\n'] := by
      decide
    refine .text ?_
    rw [SpellsSigned, value]
    exact .intro split (by decide) (by decide) (by decide) ⟨by decide, by simp, by decide⟩
  have told : run.trace Vault.world .overwritten = [.now 0, .target .kek (.ok (some 7)),
      .status (.ok Vault.overwritten.keys), .pending .kek 7 (.ok (IdRange.of? 1 2)),
      .migrate .kek ⟨1, 1⟩ (.ok ⟨1, 0⟩),
      .target .kek (({ config := some garbled } : Store).target .kek)] := by cbv
  obtain ⟨-, versions, -⟩ :=
    @target_decoded_and_checked_by_version { config := some spelled } spelled rfl .kek
  obtain ⟨-, -, -, checks⟩ :=
    @target_decoded_and_checked_by_version { config := some garbled } garbled rfl .kek
  exact ⟨encodes, (versions 7).2 encodes, told,
    (checks _ _ _ _ _ _ _ _ (Session.runs_trace Vault.world run .overwritten) told
      (.later (.later .here))).2.2.2 .blob⟩

end KeyRotation
