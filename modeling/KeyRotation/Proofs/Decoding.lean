import KeyRotation.Client

/-! What a reply has to be like to be understood. For each decoder there is a condition on the
document: where it holds the decoder comes to a value, and elsewhere to a protocol fault. -/
namespace KeyRotation.Reply

open Xml (Element)

/-- Comes to a value where a condition holds, and to a protocol fault where it does not. -/
structure Decides {α : Type} (valid : Prop) (result : Except Fault α) : Prop where
  value : valid → ∃ value, result = .ok value
  fault : ¬valid → ∃ cause, result = .error (.protocol cause)

namespace Decides

variable {α β : Type} {valid later : Prop} {result : Except Fault α} {value : α}

theorem of_ok (holds : valid) : Decides valid (.ok value) :=
  ⟨fun _ => ⟨value, rfl⟩, fun fails => absurd holds fails⟩

theorem of_fault {cause : ProtocolFault} (fails : ¬valid) :
    Decides valid (.error (.protocol cause) : Except Fault α) :=
  ⟨fun holds => absurd holds fails, fun _ => ⟨cause, rfl⟩⟩

/-- What the value is needed for later is decided once there is one. -/
theorem bind (decides : Decides valid result) {next : α → Except Fault β}
    (onward : ∀ value, result = .ok value → Decides later (next value)) :
    Decides (valid ∧ later) (result >>= next) := by
  by_cases holds : valid
  · obtain ⟨value, rfl⟩ := decides.value holds
    have decided := onward value rfl
    exact ⟨fun both => decided.value both.2, fun fails => decided.fault fun more =>
      fails ⟨holds, more⟩⟩
  · obtain ⟨cause, rfl⟩ := decides.fault holds
    exact of_fault fun both => holds both.1

theorem exists_ok_iff (decides : Decides valid result) :
    (∃ value, result = .ok value) ↔ valid := by
  refine ⟨fun ⟨value, ran⟩ => Classical.byContradiction fun fails => ?_, decides.value⟩
  obtain ⟨cause, refused⟩ := decides.fault fails
  cases ran.symm.trans refused

theorem congr (decides : Decides valid result) (same : later ↔ valid) : Decides later result :=
  ⟨fun holds => decides.value (same.1 holds), fun fails => decides.fault (mt same.2 fails)⟩

end Decides

theorem exists_of_bind_eq_ok {α β : Type} {result : Except Fault α} {next : α → Except Fault β}
    {value : β} (ran : result >>= next = .ok value) :
    ∃ first, result = .ok first ∧ next first = .ok value := by
  cases result with
  | error => cases ran
  | ok first => exact ⟨first, rfl, ran⟩

theorem readStatus_of_read {body : String} {root : Element} (read : Xml.read? body = some root) :
    readStatus body = status root := by
  simp only [readStatus, document, read]
  rfl

theorem readOutcome_of_read {body : String} {root : Element} (read : Xml.read? body = some root) :
    readOutcome body = outcome root := by
  simp only [readOutcome, document, read]
  rfl

/-- A field that is missing or blank, or else a numeral. -/
def Numeric {α : Type} (numeral? : String → Option α) (e : Element) (name : String) : Prop :=
  ∀ text, fieldText? e name = some text → ∃ n, numeral? text = some n

/-- A key with a version; if it has a count, this is a numeral too. -/
structure Listable (key : Element) : Prop where
  version : ∃ raw version, key.attribute? "version" = some raw ∧
    Text.int64? (Text.trim raw) = some version
  count : ∀ raw, key.attribute? "count" = some raw →
    ∃ count, Text.uint64? (Text.trim raw) = some count

/-- The root of a reply that reports success. -/
structure Succeeds (root : Element) : Prop where
  name : root.name.base = "result"
  status : ∃ child text, root.child? "status" = some child ∧ child.leadingText? = some text ∧
    Text.trim text = "success"

/-- All that is decoded of the state of the keys. -/
structure StatusReadable (root : Element) : Prop where
  succeeds : Succeeds root
  numbers : ∀ name ∈ ["kek_version", "hmac_version", "target_kek_version"],
    Numeric Text.int64? root name
  keys : ∀ kind, ∀ key ∈ listed root kind, Listable key

structure OutcomeReadable (root : Element) : Prop where
  succeeds : Succeeds root
  numbers : ∀ name ∈ ["converted", "failed"], Numeric Text.uint64? root name

theorem fieldText?_eq_some_iff {e : Element} {name text : String} :
    fieldText? e name = some text ↔ text.isEmpty = false ∧ ∃ child raw, e.child? name = some child ∧
      child.leadingText? = some raw ∧ Text.trim raw = text := by
  simp only [fieldText?, Option.bind_eq_some_iff]
  constructor
  · rintro ⟨raw, ⟨child, found, leading⟩, kept⟩
    split at kept
    · cases kept
    next filled =>
      cases kept
      exact ⟨by simpa using filled, child, raw, found, leading, rfl⟩
  · rintro ⟨filled, child, raw, found, leading, rfl⟩
    exact ⟨raw, ⟨child, found, leading⟩, by simp [filled]⟩

theorem succeeds_iff {root : Element} :
    Succeeds root ↔ root.name.base = "result" ∧ fieldText? root "status" = some "success" := by
  rw [fieldText?_eq_some_iff]
  exact ⟨fun succeeds => ⟨succeeds.name, rfl, succeeds.status⟩, fun both => ⟨both.1, both.2.2⟩⟩

theorem checked_eq {root e : Element} (passed : checked root = .ok e) : e = root := by
  unfold checked at passed
  split at passed
  · cases passed
  split at passed
  · cases passed
  split at passed <;> cases passed
  rfl

theorem decides_checked (root : Element) : Decides (Succeeds root) (checked root) := by
  unfold checked
  split
  next other => exact .of_fault fun succeeds => other succeeds.name
  next named =>
    split
    next missing => exact .of_fault fun succeeds => by simp [succeeds_iff, missing] at succeeds
    next status found =>
      split
      next same => exact .of_ok (succeeds_iff.2 ⟨Decidable.not_not.1 named, same ▸ found⟩)
      next other => exact .of_fault fun succeeds => by simp [succeeds_iff, found, other] at succeeds

theorem decides_number {α : Type} (numeral? : String → Option α) (e : Element) (name : String) :
    Decides (Numeric numeral? e name) (number numeral? e name) := by
  unfold number Numeric
  split
  next missing => exact .of_ok (by simp [missing])
  next text found =>
    split
    next n numeral => exact .of_ok (by simp [found, numeral])
    next numeral => exact .of_fault (by simp [found, numeral])

theorem number_eq {α : Type} {numeral? : String → Option α} {e : Element} {name : String}
    {value : Option α} (decoded : number numeral? e name = .ok value) :
    value = (fieldText? e name).bind numeral? := by
  unfold number at decoded
  split at decoded
  next missing =>
    cases decoded
    simp [missing]
  next text found =>
    split at decoded
    next n numeral =>
      cases decoded
      simp [found, numeral]
    · cases decoded

theorem decides_key (kind : KeyKind) (e : Element) : Decides (Listable e) (key kind e) := by
  have version : Decides (∃ raw version, e.attribute? "version" = some raw ∧
      Text.int64? (Text.trim raw) = some version) (version e) := by
    unfold Reply.version
    split
    next missing => exact .of_fault (by simp [missing])
    next raw found =>
      split
      next n numeral => exact .of_ok ⟨raw, n, found, numeral⟩
      next numeral => exact .of_fault (by simp [found, numeral])
  have count : Decides (∀ raw, e.attribute? "count" = some raw →
      ∃ count, Text.uint64? (Text.trim raw) = some count) (count e) := by
    unfold Reply.count
    split
    next missing => exact .of_ok (by simp [missing])
    next raw found =>
      split
      next n numeral => exact .of_ok (by simp [found, numeral])
      next numeral => exact .of_fault (by simp [found, numeral])
  suffices both : Decides (_ ∧ _ ∧ True) (key kind e) from
    both.congr ⟨fun listable => ⟨listable.version, listable.count, trivial⟩,
      fun ⟨version, count, _⟩ => ⟨version, count⟩⟩
  refine version.bind fun version _ => count.bind fun count _ => ?_
  cases kind <;> exact .of_ok trivial

theorem decides_collect (kind : KeyKind) (keys : KeyInventory) (entries : List Element) :
    Decides (∀ key ∈ entries, Listable key) (collect kind keys entries) := by
  induction entries generalizing keys with
  | nil => exact .of_ok (List.forall_mem_nil _)
  | cons e rest ih =>
    exact ((decides_key kind e).bind fun entry _ => ih _).congr List.forall_mem_cons

/-- The state of the keys is decoded from the documents that are readable, and from no other. -/
theorem decides_status (root : Element) : Decides (StatusReadable root) (status root) := by
  suffices all : Decides (Succeeds root ∧ Numeric Text.int64? root "kek_version" ∧
      Numeric Text.int64? root "hmac_version" ∧ Numeric Text.int64? root "target_kek_version" ∧
      (∀ key ∈ listed root .kek, Listable key) ∧ ∀ key ∈ listed root .hmac, Listable key)
      (status root) by
    refine all.congr ⟨fun ⟨succeeds, numbers, keys⟩ => ?_, fun parts => ?_⟩
    · exact ⟨succeeds, numbers _ (by simp), numbers _ (by simp), numbers _ (by simp), keys .kek,
        keys .hmac⟩
    · obtain ⟨succeeds, active, hmac, target, keks, hmacs⟩ := parts
      refine ⟨succeeds, by simp [active, hmac, target], fun kind => ?_⟩
      cases kind with
      | kek => exact keks
      | hmac => exact hmacs
  refine (decides_checked root).bind fun e passed => ?_
  obtain rfl := checked_eq passed
  refine (decides_number _ e "kek_version").bind fun _ _ => ?_
  refine (decides_number _ e "hmac_version").bind fun _ _ => ?_
  refine (decides_number _ e "target_kek_version").bind fun _ _ => ?_
  exact (decides_collect .kek _ _).bind fun keys _ => decides_collect .hmac keys _

theorem decides_outcome (root : Element) : Decides (OutcomeReadable root) (outcome root) := by
  suffices all : Decides (Succeeds root ∧ Numeric Text.uint64? root "converted" ∧
      Numeric Text.uint64? root "failed" ∧ True) (outcome root) from
    all.congr ⟨fun readable => ⟨readable.succeeds, by simpa using readable.numbers⟩,
      fun parts => ⟨parts.1, by simpa using parts.2⟩⟩
  refine (decides_checked root).bind fun e passed => ?_
  obtain rfl := checked_eq passed
  refine (decides_number _ e "converted").bind fun _ _ => ?_
  exact (decides_number _ e "failed").bind fun _ _ => .of_ok trivial

/-- The number that a field of a reply counts: none is zero. -/
def countOf (root : Element) (name : String) : UInt64 :=
  ((fieldText? root name).bind Text.uint64?).getD 0

theorem outcome_eq {root : Element} {told : BatchOutcome} (decoded : outcome root = .ok told) :
    told = ⟨countOf root "converted", countOf root "failed"⟩ := by
  obtain ⟨e, passed, fields⟩ := exists_of_bind_eq_ok decoded
  obtain rfl := checked_eq passed
  obtain ⟨converted, first, field⟩ := exists_of_bind_eq_ok fields
  obtain ⟨failed, second, made⟩ := exists_of_bind_eq_ok field
  rw [← Except.ok.inj made, number_eq first, number_eq second]
  rfl

end KeyRotation.Reply
