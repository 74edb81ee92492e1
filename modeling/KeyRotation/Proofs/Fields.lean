import Mathlib
import KeyRotation.Config
import KeyRotation.Proofs.Keyed

/-! What stands in a section, and the field that it is the value of: a table has values under keys,
and an array has them in the order of the fields. A field is read from where its value stands. -/
namespace KeyRotation

namespace Section

/-- Where a value stands in a section. -/
inductive Slot where
  | key (name : String)
  | index (i : Nat)
  deriving DecidableEq, Repr

def Slot.field? (fields : List String) : Slot → Option String
  | .key name => if name ∈ fields then some name else none
  | .index i => fields[i]?

inductive Stands : Toml.Value → Slot → Toml.Value → Prop where
  | key {entries : Toml.Entries} {name : String} {value : Toml.Value}
      (entry : (name, value) ∈ entries) : Stands (.table entries) (.key name) value
  | index {items : List Toml.Value} {i : Nat} {value : Toml.Value}
      (item : items[i]? = some value) : Stands (.array items) (.index i) value

/-- A section gives a value to a field. -/
def Gives (fields : List String) (part : Toml.Value) (field : String) (value : Toml.Value) : Prop :=
  ∃ slot, Stands part slot value ∧ slot.field? fields = some field

variable {fields : List String} {part : Toml.Value} {contents : Section} {field : String}
  {value : Toml.Value}

theorem Slot.mem_of_field? {slot : Slot} (named : slot.field? fields = some field) :
    field ∈ fields := by
  cases slot with
  | key name =>
    obtain ⟨declared, eq⟩ := Option.ite_none_right_eq_some.1 named
    exact Option.some.inj eq ▸ declared
  | index i => exact List.mem_of_getElem? named

theorem Gives.mem (given : Gives fields part field value) : field ∈ fields := by
  obtain ⟨slot, -, named⟩ := given
  exact slot.mem_of_field? named

/-- A field is read from where its value stands. -/
theorem gives_iff_value? (keyed : part.Keyed) (distinct : fields.Nodup) (declared : field ∈ fields)
    (read : Section.of? part = some contents) :
    Gives fields part field value ↔ contents.value? fields field = some value := by
  cases part with
  | table entries =>
    cases read
    cases keyed with
    | table once =>
      rw [value?, ← Entries.mem_iff_lookup once]
      constructor
      · rintro ⟨_, ⟨entry⟩, named⟩
        obtain ⟨-, eq⟩ := Option.ite_none_right_eq_some.1 named
        exact Option.some.inj eq ▸ entry
      · exact fun entry => ⟨.key field, .key entry, if_pos declared⟩
  | array items =>
    cases read
    rw [value?]
    constructor
    · rintro ⟨_, ⟨item⟩, named⟩
      obtain ⟨within, same⟩ := List.getElem?_eq_some_iff.1 named
      rwa [← same, distinct.idxOf_getElem]
    · intro item
      refine ⟨.index (fields.idxOf field), .index item, ?_⟩
      exact List.getElem?_idxOf declared
  | text | integer | boolean | float | moment => cases read

/-- A field of a section has one value. -/
theorem Gives.unique {value' : Toml.Value} (keyed : part.Keyed) (distinct : fields.Nodup)
    (given : Gives fields part field value) (given' : Gives fields part field value') :
    value = value' := by
  obtain ⟨contents, read⟩ : ∃ contents, Section.of? part = some contents := by
    obtain ⟨_, ⟨_⟩ | ⟨_⟩, -⟩ := given
    · exact ⟨_, rfl⟩
    · exact ⟨_, rfl⟩
  rw [gives_iff_value? keyed distinct given.mem read] at given
  rw [gives_iff_value? keyed distinct given'.mem read] at given'
  exact Option.some.inj (given.symm.trans given')

section Reading

variable {α : Type} {read? : Toml.Value → Option α}

theorem required_of_some (present : contents.value? fields field = some value) :
    contents.required read? fields field = read? value := by
  rw [required, present, Option.bind_some]

theorem defaulted_of_some {default : α} (present : contents.value? fields field = some value) :
    contents.defaulted default read? fields field = read? value := by
  rw [defaulted, present]

theorem defaulted_of_none {default : α} (absent : contents.value? fields field = none) :
    contents.defaulted default read? fields field = some default := by
  rw [defaulted, absent]

theorem optional_of_some (present : contents.value? fields field = some value) :
    contents.optional read? fields field = (read? value).map some := by
  unfold optional
  rw [present]

theorem eq_none_of_optional {a : Option α} (absent : contents.value? fields field = none)
    (read : contents.optional read? fields field = some a) : a = none := by
  unfold optional at read
  rw [absent] at read
  cases contents with
  | named => exact (Option.some.inj read).symm
  | ordered => cases read

end Reading
end Section

namespace Config

open Section (Gives Stands)

def number (n : Nat) : Toml.Value := .integer (Int64.ofNat n)

section Values

variable {value : Toml.Value}

theorem text?_eq_some {text : String} (read : text? value = some text) : value = .text text := by
  cases value <;> cases read
  rfl

theorem boolean?_eq_some {flag : Bool} (read : boolean? value = some flag) :
    value = .boolean flag := by
  cases value <;> cases read
  rfl

theorem ofNat_toNat_toInt {n : Int64} (least : 0 ≤ n.toInt) : Int64.ofNat n.toInt.toNat = n := by
  have bound := n.toInt_lt
  rw [← Int64.toInt_inj, Int64.toInt_ofNat_of_lt (by omega), Int.toNat_of_nonneg least]

theorem toNat_toUInt64 {n : Int64} (least : 0 ≤ n.toInt) : n.toUInt64.toNat = n.toInt.toNat := by
  have small : n.toInt.toNat < UInt64.size := by
    have bound := n.toInt_lt
    rw [UInt64.size]
    omega
  conv_lhs => rw [← ofNat_toNat_toInt least]
  rw [Int64.toUInt64_ofNat', UInt64.toNat_ofNat_of_lt' small]

theorem zero_le_iff {n : Int64} : 0 ≤ n ↔ 0 ≤ n.toInt := by
  rw [Int64.le_iff_toInt_le]
  rfl

/-- The whole numbers that are read are those that are not negative, and each is read as it is. -/
theorem word?_eq_some_iff {word : UInt64} :
    word? value = some word ↔ ∃ n : Int64, value = .integer n ∧ n.toInt = word.toNat := by
  constructor
  · intro read
    cases value with
    | integer n =>
      obtain ⟨least, eq⟩ := Option.ite_none_right_eq_some.1 read
      cases eq
      rw [zero_le_iff] at least
      exact ⟨n, rfl, by rw [toNat_toUInt64 least, Int.toNat_of_nonneg least]⟩
    | text | boolean | float | moment | array | table => cases read
  · rintro ⟨n, rfl, same⟩
    have least : 0 ≤ n.toInt := same ▸ Int.natCast_nonneg _
    rw [word?, if_pos (zero_le_iff.2 least), Option.some.injEq, ← UInt64.toNat_inj,
      toNat_toUInt64 least, same, Int.toNat_natCast]

theorem word?_eq_some {word : UInt64} (read : word? value = some word) :
    value = number word.toNat := by
  obtain ⟨n, rfl, same⟩ := word?_eq_some_iff.1 read
  rw [number, ← Int.toNat_natCast word.toNat, ← same, ofNat_toNat_toInt (by omega)]

theorem days?_eq_some {days : UInt32} (read : days? value = some days) :
    value = number days.toNat := by
  cases value with
  | integer n =>
    obtain ⟨⟨least, most⟩, eq⟩ := Option.ite_none_right_eq_some.1 read
    cases eq
    rw [zero_le_iff] at least
    have small : n.toInt.toNat < UInt32.size := by omega
    rw [number, UInt32.toNat_ofNat_of_lt' small, ofNat_toNat_toInt least]
  | text | boolean | float | moment | array | table => cases read

end Values

section Parts

variable {α : Type} {fields : List String} {read? : Section → Option α} {part : Toml.Value}

/-- A section is a table whose keys are fields, or an array. -/
theorem part?_eq_some {a : α} (read : part? fields read? part = some a) :
    ∃ contents, Section.of? part = some contents ∧ contents.fits fields = true ∧
      read? contents = some a := by
  obtain ⟨contents, of_part, read⟩ := Option.bind_eq_some_iff.1 read
  obtain ⟨fits, read⟩ := Option.ite_none_right_eq_some.1 read
  exact ⟨contents, of_part, fits, read⟩

theorem mem_of_part? {a : α} (read : part? fields read? part = some a) {name : String}
    {value : Toml.Value} (stands : Stands part (.key name) value) : name ∈ fields := by
  obtain ⟨contents, of_part, fits, -⟩ := part?_eq_some read
  cases stands with
  | key entry =>
    cases of_part
    exact List.contains_iff_mem.1 (List.all_eq_true.1 fits _ entry)

end Parts

/-- A configuration by the sections that it is read from. -/
structure Sections (entries : Toml.Entries) (config : Config) : Prop where
  log : Section.defaulted {} log? fields "log" (.named entries) = some config.log
  authority : Section.required authority? fields "key_api" (.named entries) = some config.authority
  database : Section.required database? fields "db" (.named entries) = some config.database
  job : ∀ kind : KeyKind,
    Section.optional job? fields kind.jobSection (.named entries) = some (config.job kind)
  cleaner : Section.defaulted {} cleaner? fields "cleaner" (.named entries) = some config.cleaner

theorem sections_of_ofEntries? {entries : Toml.Entries} {config : Config}
    (accepted : ofEntries? entries = some config) : Sections entries config := by
  obtain ⟨_, of_entries, -, read⟩ := part?_eq_some accepted
  cases of_entries
  obtain ⟨log, log_eq, read⟩ := Option.bind_eq_some_iff.1 read
  obtain ⟨authority, authority_eq, read⟩ := Option.bind_eq_some_iff.1 read
  obtain ⟨database, database_eq, read⟩ := Option.bind_eq_some_iff.1 read
  obtain ⟨reencrypt, reencrypt_eq, read⟩ := Option.bind_eq_some_iff.1 read
  obtain ⟨rehash, rehash_eq, read⟩ := Option.bind_eq_some_iff.1 read
  obtain ⟨cleaner, cleaner_eq, read⟩ := Option.bind_eq_some_iff.1 read
  cases read
  refine ⟨log_eq, authority_eq, database_eq, fun kind => ?_, cleaner_eq⟩
  cases kind with
  | kek => exact reencrypt_eq
  | hmac => exact rehash_eq

theorem read_eq_ok_iff {document : String} {config : Config} :
    read document = .ok config ↔
      ∃ entries, Toml.read? document = some entries ∧ ofEntries? entries = some config := by
  rw [read, ← Option.bind_eq_some_iff]
  split
  · next other same => rw [same, Except.ok.injEq, Option.some.injEq]
  · next none => simp [none]

end Config
end KeyRotation
