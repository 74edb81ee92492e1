import KeyRotation.Proofs.Decoding
import KeyRotation.Proofs.Spelling

/-! The keys that a status reply lists. A reply is decoded where it has the form of one, and then
each version has the state that the last entry with it tells; an entry of one kind says nothing
of the other. -/
namespace KeyRotation.Reply

open Text (Blank SpellsSigned SpellsUnsigned)
open Xml (Element)

/-- An entry for a version. -/
def HasVersion (version : KeyVersion) (e : Element) : Prop :=
  ∃ raw, e.attribute? "version" = some raw ∧ SpellsSigned raw version

def Says (e : Element) (name : String) : Prop :=
  ∃ raw, e.attribute? name = some raw ∧ Text.trim raw = "true"

/-- An entry tells this state of its version. -/
structure Tells (kind : KeyKind) (e : Element) (status : KeyStatus) : Prop where
  valid : status.valid = true ↔
    Says e "valid" ∨ kind = .hmac ∧ e.attribute? "valid" = none
  checked : status.checked = true ↔ kind = .kek ∧ Says e "checked"
  count (n : UInt64) : status.count = some n ↔
    ∃ raw, e.attribute? "count" = some raw ∧ SpellsUnsigned raw n

/-- An entry has a version, and a count that is a number if it has one. -/
structure EntryForm (e : Element) : Prop where
  version : ∃ version, HasVersion version e
  count : ∀ raw, e.attribute? "count" = some raw → ∃ n, SpellsUnsigned raw n

/-- The document of a status reply. -/
structure StatusForm (root : Element) : Prop where
  succeeds : Succeeds root
  numbers : ∀ name ∈ ["kek_version", "hmac_version", "target_kek_version"], ∀ child text,
    root.child? name = some child → child.leadingText? = some text →
      Blank text.toList ∨ ∃ version, SpellsSigned text version
  keks : ∀ list, root.child? "master_keys" = some list →
    ∀ e ∈ list.childrenNamed "kek", EntryForm e
  hmacs : ∀ list, root.child? "hmac_keys" = some list →
    ∀ e ∈ list.childrenNamed "hmac", EntryForm e

section Entries

variable {kind : KeyKind} {version other : KeyVersion} {e : Element}

theorem HasVersion.unique (has : HasVersion version e) (again : HasVersion other e) :
    version = other := by
  obtain ⟨raw, found, spelled⟩ := has
  obtain ⟨_, same, twice⟩ := again
  obtain rfl := Option.some.inj (found.symm.trans same)
  exact spelled.unique twice

theorem version_eq_ok_iff : Reply.version e = .ok version ↔ HasVersion version e := by
  unfold Reply.version HasVersion
  split
  next missing => simp [missing]
  next raw found =>
    simp only [found, Option.some.injEq, exists_eq_left', ← Text.int64?_trim_eq_some_iff]
    split
    next read => simp [read]
    next unread => simp [unread]

instance : Decidable (HasVersion version e) :=
  decidable_of_iff ((e.attribute? "version").bind (Text.int64? ∘ Text.trim) = some version) (by
    simp only [Option.bind_eq_some_iff, Function.comp_apply, Text.int64?_trim_eq_some_iff,
      HasVersion])

theorem count_eq_some_iff {count : Option UInt64} (decoded : Reply.count e = .ok count)
    (n : UInt64) : count = some n ↔
      ∃ raw, e.attribute? "count" = some raw ∧ SpellsUnsigned raw n := by
  unfold Reply.count at decoded
  split at decoded
  next missing =>
    cases decoded
    simp [missing]
  next raw found =>
    simp only [found, Option.some.injEq, exists_eq_left', ← Text.uint64?_trim_eq_some_iff]
    split at decoded
    next read =>
      cases decoded
      simp [read]
    · cases decoded

theorem flag_eq_true_iff {name : String} {absent : Bool} :
    flag e name absent = true ↔ Says e name ∨ absent = true ∧ e.attribute? name = none := by
  unfold flag Says
  cases e.attribute? name <;> simp

theorem tells_of_key {status : KeyStatus} (decoded : key kind e = .ok (version, status)) :
    HasVersion version e ∧ Tells kind e status := by
  obtain ⟨found, versioned, decoded⟩ := exists_of_bind_eq_ok decoded
  obtain ⟨count, counted, decoded⟩ := exists_of_bind_eq_ok decoded
  have counts := count_eq_some_iff counted
  cases kind with
  | kek =>
    cases decoded
    exact ⟨version_eq_ok_iff.1 versioned, by simp [flag_eq_true_iff], by simp [flag_eq_true_iff],
      counts⟩
  | hmac =>
    cases decoded
    exact ⟨version_eq_ok_iff.1 versioned, by simp [flag_eq_true_iff], by simp, counts⟩

theorem Tells.unique {status again : KeyStatus} (tells : Tells kind e status)
    (twice : Tells kind e again) : status = again := by
  obtain ⟨valid, checked, count⟩ := status
  obtain ⟨valid', checked', count'⟩ := again
  have same : valid = valid' := Bool.eq_iff_iff.2 (tells.valid.trans twice.valid.symm)
  have alike : checked = checked' := Bool.eq_iff_iff.2 (tells.checked.trans twice.checked.symm)
  have equal : count = count' := Option.ext fun n => (tells.count n).trans (twice.count n).symm
  rw [same, alike, equal]

end Entries

section Form

variable {root e : Element}

theorem listable_iff : Listable e ↔ EntryForm e := by
  constructor
  · rintro ⟨⟨raw, version, found, read⟩, count⟩
    refine ⟨⟨version, raw, found, Text.int64?_trim_eq_some_iff.1 read⟩, fun raw found => ?_⟩
    obtain ⟨n, read⟩ := count raw found
    exact ⟨n, Text.uint64?_trim_eq_some_iff.1 read⟩
  · rintro ⟨⟨version, raw, found, spelled⟩, count⟩
    refine ⟨⟨raw, version, found, Text.int64?_trim_eq_some_iff.2 spelled⟩, fun raw found => ?_⟩
    obtain ⟨n, spelled⟩ := count raw found
    exact ⟨n, Text.uint64?_trim_eq_some_iff.2 spelled⟩

theorem numeric_iff {name : String} : Numeric Text.int64? root name ↔ ∀ child text,
    root.child? name = some child → child.leadingText? = some text →
      Blank text.toList ∨ ∃ version, SpellsSigned text version := by
  constructor
  · intro numeric child text found leading
    by_cases blank : Blank text.toList
    · exact .inl blank
    · have filled : (Text.trim text).isEmpty = false := by
        simpa using mt Text.isEmpty_trim_iff.1 blank
      obtain ⟨version, read⟩ :=
        numeric _ (fieldText?_eq_some_iff.2 ⟨filled, child, text, found, leading, rfl⟩)
      exact .inr ⟨version, Text.int64?_trim_eq_some_iff.1 read⟩
  · intro spelled text holds
    obtain ⟨filled, child, raw, found, leading, rfl⟩ := fieldText?_eq_some_iff.1 holds
    rcases spelled child raw found leading with blank | ⟨version, spelled⟩
    · simp [Text.isEmpty_trim_iff.2 blank] at filled
    · exact ⟨version, Text.int64?_trim_eq_some_iff.2 spelled⟩

theorem forall_mem_listed_iff {kind : KeyKind} {P : Element → Prop} :
    (∀ e ∈ listed root kind, P e) ↔ ∀ list, root.child? (listName kind) = some list →
      ∀ e ∈ list.childrenNamed kind.tag, P e := by
  unfold listed
  cases root.child? (listName kind) <;> simp

/-- The documents that are readable are those with the form of a status reply. -/
theorem statusReadable_iff : StatusReadable root ↔ StatusForm root := by
  have keys (kind : KeyKind) : (∀ e ∈ listed root kind, Listable e) ↔
      ∀ list, root.child? (listName kind) = some list →
        ∀ e ∈ list.childrenNamed kind.tag, EntryForm e := by
    simp only [listable_iff, forall_mem_listed_iff]
  constructor
  · intro readable
    exact ⟨readable.succeeds, fun name among => numeric_iff.1 (readable.numbers name among),
      (keys .kek).1 (readable.keys .kek), (keys .hmac).1 (readable.keys .hmac)⟩
  · intro form
    refine ⟨form.succeeds, fun name among => numeric_iff.2 (form.numbers name among),
      fun kind => ?_⟩
    cases kind with
    | kek => exact (keys .kek).2 form.keks
    | hmac => exact (keys .hmac).2 form.hmacs

end Form

/-- Of the entries of a kind for a version, the last. -/
def lastListed? (root : Element) (kind : KeyKind) (version : KeyVersion) : Option Element :=
  ((listed root kind).filter (HasVersion version ·)).getLast?

section Collection

variable {kind : KeyKind} {keys after : KeyInventory} {entries : List Element}

/-- Keys that are taken in one after the other: the state of a version is told by the last entry
for it, and by the one before all of them, if any, where there is none. -/
theorem tells_of_collect (collected : collect kind keys entries = .ok after)
    {version : KeyVersion} {before : Option Element}
    (tells : Option.Rel (Tells kind) before (keys.get? kind version)) :
    Option.Rel (Tells kind) ((entries.filter (HasVersion version ·)).getLast?.or before)
      (after.get? kind version) := by
  induction entries generalizing keys before with
  | nil =>
    cases collected
    exact tells
  | cons e rest ih =>
    obtain ⟨⟨found, status⟩, decoded, collected⟩ := exists_of_bind_eq_ok collected
    obtain ⟨has, told⟩ := tells_of_key decoded
    by_cases same : HasVersion version e
    · obtain rfl := same.unique has
      have now : Option.Rel (Tells kind) (some e)
          ((keys.insert kind version status).get? kind version) := by
        rw [KeyInventory.get?_insert, if_pos rfl]
        exact .some told
      simpa [List.filter_cons, same, List.getLast?_cons] using ih collected now
    · have apart : version ≠ found := fun equal => same (equal ▸ has)
      have still : Option.Rel (Tells kind) before
          ((keys.insert kind found status).get? kind version) := by
        rw [KeyInventory.get?_insert, if_neg apart]
        exact tells
      simpa [List.filter_cons, same] using ih collected still

theorem table_of_collect (collected : collect kind keys entries = .ok after) {other : KeyKind}
    (apart : other ≠ kind) : after.table other = keys.table other := by
  induction entries generalizing keys with
  | nil =>
    cases collected
    rfl
  | cons e rest ih =>
    obtain ⟨⟨found, status⟩, -, collected⟩ := exists_of_bind_eq_ok collected
    rw [ih collected, KeyInventory.table_insert_of_ne keys apart]

/-- The keys of one kind are taken in after those of the other, and there is none before. -/
theorem collect_of_status {root : Element} (decoded : status root = .ok keys) :
    ∃ first between, (∀ kind version, first.get? kind version = none) ∧
      collect .kek first (listed root .kek) = .ok between ∧
      collect .hmac between (listed root .hmac) = .ok keys := by
  obtain ⟨e, passed, fields⟩ := exists_of_bind_eq_ok decoded
  obtain rfl := checked_eq passed
  obtain ⟨activeKek, -, fields⟩ := exists_of_bind_eq_ok fields
  obtain ⟨activeHmac, -, fields⟩ := exists_of_bind_eq_ok fields
  obtain ⟨targetKek, -, fields⟩ := exists_of_bind_eq_ok fields
  obtain ⟨between, keks, hmacs⟩ := exists_of_bind_eq_ok fields
  refine ⟨_, between, fun kind version => ?_, keks, hmacs⟩
  cases kind <;> rfl

theorem tells_of_status {root : Element} (decoded : status root = .ok keys) (kind : KeyKind)
    (version : KeyVersion) :
    Option.Rel (Tells kind) (lastListed? root kind version) (keys.get? kind version) := by
  obtain ⟨first, between, fresh, keks, hmacs⟩ := collect_of_status decoded
  have nothing : Option.Rel (Tells kind) none (first.get? kind version) := by
    rw [fresh]
    exact .none
  suffices told : Option.Rel (Tells kind) ((lastListed? root kind version).or none)
      (keys.get? kind version) by rwa [Option.or_none] at told
  cases kind with
  | kek =>
    have same : keys.get? .kek version = between.get? .kek version :=
      congrArg (·.get? version) (table_of_collect hmacs (show KeyKind.kek ≠ .hmac by decide))
    rw [same]
    exact tells_of_collect keks nothing
  | hmac =>
    have same : between.get? .hmac version = first.get? .hmac version :=
      congrArg (·.get? version) (table_of_collect keks (show KeyKind.hmac ≠ .kek by decide))
    exact tells_of_collect hmacs (same ▸ nothing)

theorem unlisted_or_told {root : Element} (decoded : status root = .ok keys) (kind : KeyKind)
    (version : KeyVersion) :
    lastListed? root kind version = none ∧ keys.get? kind version = none ∨
      ∃ e status, lastListed? root kind version = some e ∧
        keys.get? kind version = some status ∧ Tells kind e status := by
  have told := tells_of_status decoded kind version
  generalize lastListed? root kind version = last at told
  generalize keys.get? kind version = found at told
  cases told with
  | none => exact .inl ⟨rfl, rfl⟩
  | some tells => exact .inr ⟨_, _, rfl, rfl, tells⟩

theorem get?_eq_some_iff {root : Element} (decoded : status root = .ok keys)
    (version : KeyVersion) (state : KeyStatus) : keys.get? kind version = some state ↔
      ∃ e, lastListed? root kind version = some e ∧ Tells kind e state := by
  rcases unlisted_or_told decoded kind version with
    ⟨unlisted, absent⟩ | ⟨e, status, last, found, tells⟩
  · simp [unlisted, absent]
  · simp only [last, found, Option.some.injEq, exists_eq_left']
    exact ⟨fun same => same ▸ tells, tells.unique⟩

theorem get?_eq_none_iff {root : Element} (decoded : status root = .ok keys)
    (version : KeyVersion) : keys.get? kind version = none ↔
      ∀ e ∈ listed root kind, ¬HasVersion version e := by
  have none_iff : lastListed? root kind version = none ↔
      ∀ e ∈ listed root kind, ¬HasVersion version e := by simp [lastListed?]
  rw [← none_iff]
  rcases unlisted_or_told decoded kind version with
    ⟨unlisted, absent⟩ | ⟨e, status, last, found, -⟩
  · exact iff_of_true absent unlisted
  · simp [last, found]

theorem isReady_kek_iff {root : Element} (decoded : status root = .ok keys)
    (version : KeyVersion) : keys.isReady .kek version = true ↔
      ∃ e, lastListed? root .kek version = some e ∧ Says e "valid" ∧ Says e "checked" := by
  rcases unlisted_or_told decoded .kek version with
    ⟨unlisted, absent⟩ | ⟨e, status, last, found, tells⟩
  · simp [KeyInventory.isReady, unlisted, absent]
  · simp [KeyInventory.isReady, last, found, KeyStatus.isReady, KeyKind.needsCheck, tells.valid,
      tells.checked]

end Collection

/-- What a status reply says of the keys. It is decoded exactly where it has the form of one.
Then a version has no state where no entry lists it, and otherwise the one that the last entry
for it tells; a key-encryption key is ready where this entry has it valid and checked, and what
is listed of one kind alone decides the states of that kind. -/
theorem status_decoded_from_last_entries (root : Element) :
    (∀ body, Xml.read? body = some root → readStatus body = status root) ∧
      ((∃ keys, status root = .ok keys) ↔ StatusForm root) ∧
      ∀ keys, status root = .ok keys →
        (∀ kind version, keys.get? kind version = none ↔
          ∀ e ∈ listed root kind, ¬HasVersion version e) ∧
        (∀ kind version state, keys.get? kind version = some state ↔
          ∃ e, lastListed? root kind version = some e ∧ Tells kind e state) ∧
        (∀ version, keys.isReady .kek version = true ↔
          ∃ e, lastListed? root .kek version = some e ∧ Says e "valid" ∧ Says e "checked") ∧
        ∀ other others kind, status other = .ok others → listed other kind = listed root kind →
          ∀ version, others.get? kind version = keys.get? kind version := by
  refine ⟨fun body read => ?_, ?_, fun keys decoded => ?_⟩
  · simp only [readStatus, document, read]
    rfl
  · rw [← statusReadable_iff, (decides_status root).exists_ok_iff]
  refine ⟨fun kind version => get?_eq_none_iff decoded version, ?_, isReady_kek_iff decoded, ?_⟩
  · exact fun kind version state => get?_eq_some_iff decoded version state
  · intro other others kind decodes same version
    refine Option.ext fun state => ?_
    rw [get?_eq_some_iff decodes, get?_eq_some_iff decoded, lastListed?, lastListed?, same]

/-- A reply that lists a version of either kind, the first kind twice; only the earlier of these
entries says that the key is checked. -/
def relisted : Element where
  name := ⟨none, "result"⟩
  children := [
    .element ⟨none, "status"⟩ [] [.text " success\n"],
    .element ⟨none, "master_keys"⟩ [] [
      .element ⟨none, "kek"⟩ [⟨⟨none, "version"⟩, "7"⟩, ⟨⟨none, "valid"⟩, "true"⟩,
        ⟨⟨none, "checked"⟩, "true"⟩] [],
      .element ⟨none, "kek"⟩ [⟨⟨none, "version"⟩, " +07"⟩, ⟨⟨none, "valid"⟩, "true"⟩] []],
    .element ⟨none, "hmac_keys"⟩ [] [
      .element ⟨none, "hmac"⟩ [⟨⟨none, "version"⟩, "7"⟩, ⟨⟨none, "count"⟩, "12"⟩] []]]

theorem relisted_decoded :
    StatusForm relisted ∧ ∃ keys, status relisted = .ok keys ∧ keys.isReady .kek 7 = false ∧
      keys.get? .hmac 7 = some ⟨true, false, some 12⟩ ∧ keys.get? .kek 8 = none := by
  obtain ⟨-, accepts, tells⟩ := status_decoded_from_last_entries relisted
  obtain ⟨keys, decoded⟩ : ∃ keys, status relisted = .ok keys := ⟨_, rfl⟩
  obtain ⟨unlisted, states, ready, -⟩ := tells keys decoded
  refine ⟨accepts.1 ⟨keys, decoded⟩, keys, decoded, ?_, ?_, ?_⟩
  · rw [← Bool.not_eq_true, ready 7]
    rintro ⟨e, last, -, raw, found, -⟩
    cases last
    cases found
  · exact (states .hmac 7 _).2 ⟨_, rfl, (@tells_of_key _ 7 _ _ rfl).2⟩
  · exact (unlisted .kek 8).2 (by decide +kernel)

end KeyRotation.Reply
