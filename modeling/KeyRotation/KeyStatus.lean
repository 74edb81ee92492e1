import KeyRotation.Entries
import KeyRotation.Json

/-! The two families of keys that records are moved between, and what the key authority says of
them: a state per version, the versions of each kind in ascending order, and the versions it names
as active or as target. A table shows the state of all keys to a person or a program. -/
namespace KeyRotation

/-- Key-encryption keys protect data keys; HMAC keys hash tokens. -/
inductive KeyKind where
  | kek
  | hmac
  deriving DecidableEq, Repr

abbrev KeyVersion := Int64

namespace KeyKind

def all : List KeyKind := [.kek, .hmac]

def rank : KeyKind → Nat
  | .kek => 0
  | .hmac => 1

def title : KeyKind → String
  | .kek => "KEK"
  | .hmac => "HMAC"

def tag : KeyKind → String
  | .kek => "kek"
  | .hmac => "hmac"

/-- The configuration row that publishes the version records should converge to. -/
def targetKey : KeyKind → String
  | .kek => "KEK_TARGET_VERSION"
  | .hmac => "HMAC_VERSION"

def table : KeyKind → String
  | .kek => "t_dek"
  | .hmac => "t_data_token"

def versionColumn : KeyKind → String
  | .kek => "kek_version"
  | .hmac => "hmac_version"

/-- The remote method that moves one batch of records. -/
def method : KeyKind → String
  | .kek => "reencrypt_deks"
  | .hmac => "rehash_tokens"

def jobSection : KeyKind → String
  | .kek => "reencrypt"
  | .hmac => "rehash"

/-- Only key-encryption keys wait for the confirmation of their components. -/
def needsCheck : KeyKind → Bool
  | .kek => true
  | .hmac => false

def ofTag? (tag : String) : Option KeyKind := all.find? (·.tag == tag)

def ofJson? (text : String) : Option KeyKind := (Json.Tag.read? text).bind ofTag?

theorem mem_all (kind : KeyKind) : kind ∈ all := by
  cases kind <;> decide

theorem targetKey_injective {a b : KeyKind} (same : a.targetKey = b.targetKey) : a = b := by
  cases a <;> cases b <;> first | rfl | exact absurd same (by decide)

end KeyKind

/-- The state of one key version. `checked` means something for key-encryption keys
only; `count` is the number of records on the version, where it is reported. -/
structure KeyStatus where
  valid : Bool := false
  checked : Bool := false
  count : Option UInt64 := none
  deriving DecidableEq, Repr

def KeyStatus.isReady (status : KeyStatus) (kind : KeyKind) : Bool :=
  status.valid && (!kind.needsCheck || status.checked)

/-- Versions with their states, each version once and in ascending order. -/
structure VersionTable where
  entries : List (KeyVersion × KeyStatus)
  ascending : entries.Pairwise (·.1 < ·.1)
  deriving DecidableEq, Repr

namespace VersionTable

def empty : VersionTable := ⟨[], .nil⟩

/-- Put a version in its place, or give it a new state. -/
def place (version : KeyVersion) (status : KeyStatus) :
    List (KeyVersion × KeyStatus) → List (KeyVersion × KeyStatus)
  | [] => [(version, status)]
  | (v, s) :: rest =>
    if version < v then (version, status) :: (v, s) :: rest
    else if v < version then (v, s) :: place version status rest
    else (version, status) :: rest

theorem mem_place {version : KeyVersion} {status : KeyStatus} {entry : KeyVersion × KeyStatus} :
    ∀ {entries : List (KeyVersion × KeyStatus)}, entry ∈ place version status entries →
      entry = (version, status) ∨ entry ∈ entries
  | [], h => by simpa [place] using h
  | (v, s) :: rest, h => by
    simp only [place] at h
    split at h
    · simpa using h
    · split at h
      · rcases List.mem_cons.1 h with rfl | h
        · simp
        · rcases mem_place h with rfl | h <;> simp [*]
      · rcases List.mem_cons.1 h with rfl | h <;> simp [*]

theorem place_ascending (version : KeyVersion) (status : KeyStatus) :
    ∀ {entries : List (KeyVersion × KeyStatus)}, entries.Pairwise (·.1 < ·.1) →
      (place version status entries).Pairwise (·.1 < ·.1)
  | [], _ => by simp [place]
  | (v, s) :: rest, h => by
    have ⟨above, tail⟩ := List.pairwise_cons.1 h
    simp only [place]
    split
    · next before =>
      refine List.pairwise_cons.2 ⟨?_, h⟩
      intro entry member
      rcases List.mem_cons.1 member with rfl | member
      · exact before
      · exact Int64.lt_trans before (above entry member)
    · split
      · next after =>
        refine List.pairwise_cons.2 ⟨?_, place_ascending version status tail⟩
        intro entry member
        rcases mem_place member with rfl | member
        · exact after
        · exact above entry member
      · next notBefore notAfter =>
        have same : v = version :=
          Int64.le_antisymm (Int64.not_lt.1 notBefore) (Int64.not_lt.1 notAfter)
        subst same
        exact List.pairwise_cons.2 ⟨above, tail⟩

def insert (table : VersionTable) (version : KeyVersion) (status : KeyStatus) : VersionTable :=
  ⟨place version status table.entries, place_ascending version status table.ascending⟩

def get? (table : VersionTable) (version : KeyVersion) : Option KeyStatus :=
  table.entries.lookup version

theorem versions_nodup (table : VersionTable) : (table.entries.map Prod.fst).Nodup := by
  rw [List.Nodup, List.pairwise_map]
  exact table.ascending.imp Int64.ne_of_lt

theorem mem_iff_get? (table : VersionTable) {version : KeyVersion} {status : KeyStatus} :
    (version, status) ∈ table.entries ↔ table.get? version = some status :=
  Entries.mem_iff_lookup table.versions_nodup

theorem lookup_place (version other : KeyVersion) (status : KeyStatus)
    (entries : List (KeyVersion × KeyStatus)) :
    (place version status entries).lookup other =
      if other = version then some status else entries.lookup other := by
  induction entries with
  | nil => exact Entries.lookup_cons other version status []
  | cons entry rest ih =>
    obtain ⟨v, s⟩ := entry
    unfold place
    split
    · exact Entries.lookup_cons other version status _
    split
    next after =>
      rw [Entries.lookup_cons, ih, Entries.lookup_cons]
      split
      next same =>
        have apart : other ≠ version := same ▸ Int64.ne_of_lt after
        rw [if_neg apart]
      · rfl
    next notBefore notAfter =>
      have same : v = version :=
        Int64.le_antisymm (Int64.not_lt.1 notBefore) (Int64.not_lt.1 notAfter)
      rw [Entries.lookup_cons, Entries.lookup_cons, same]
      split <;> rfl

/-- What is inserted is found, and nothing else changes. -/
theorem get?_insert (table : VersionTable) (version other : KeyVersion) (status : KeyStatus) :
    (table.insert version status).get? other =
      if other = version then some status else table.get? other :=
  lookup_place version other status table.entries

end VersionTable

/-- A snapshot of everything the authority reports. -/
structure KeyInventory where
  keks : VersionTable := .empty
  hmacs : VersionTable := .empty
  state : Option String := none
  activeKek : Option KeyVersion := none
  activeHmac : Option KeyVersion := none
  targetKek : Option KeyVersion := none
  deriving DecidableEq, Repr

namespace KeyInventory

def empty : KeyInventory := {}

def table (keys : KeyInventory) : KeyKind → VersionTable
  | .kek => keys.keks
  | .hmac => keys.hmacs

def insert (keys : KeyInventory) (kind : KeyKind) (version : KeyVersion) (status : KeyStatus) :
    KeyInventory :=
  match kind with
  | .kek => { keys with keks := keys.keks.insert version status }
  | .hmac => { keys with hmacs := keys.hmacs.insert version status }

def get? (keys : KeyInventory) (kind : KeyKind) (version : KeyVersion) : Option KeyStatus :=
  (keys.table kind).get? version

theorem get?_insert (keys : KeyInventory) (kind : KeyKind) (version other : KeyVersion)
    (status : KeyStatus) : (keys.insert kind version status).get? kind other =
      if other = version then some status else keys.get? kind other := by
  cases kind <;> exact VersionTable.get?_insert _ version other status

theorem table_insert_of_ne (keys : KeyInventory) {kind other : KeyKind} (apart : other ≠ kind)
    (version : KeyVersion) (status : KeyStatus) :
    (keys.insert kind version status).table other = keys.table other := by
  cases kind <;> cases other <;> first | rfl | exact absurd rfl apart

/-- A version that is not listed is never ready. -/
def isReady (keys : KeyInventory) (kind : KeyKind) (version : KeyVersion) : Bool :=
  match keys.get? kind version with
  | none => false
  | some status => status.isReady kind

def entries (keys : KeyInventory) (kind : KeyKind) : List (KeyVersion × KeyStatus) :=
  (keys.table kind).entries

end KeyInventory

/-- One key version. Whether it is confirmed is said of key-encryption keys only. -/
structure StatusTable.Row where
  kind : KeyKind
  version : KeyVersion
  valid : Bool
  checked : Option Bool
  count : Option UInt64
  deriving DecidableEq, Repr

namespace StatusTable.Row

def of (kind : KeyKind) (version : KeyVersion) (status : KeyStatus) : StatusTable.Row where
  kind := kind
  version := version
  valid := status.valid
  checked := if kind.needsCheck then some status.checked else none
  count := status.count

def toJson (row : StatusTable.Row) : Json := .obj [
  ("kind", .str row.kind.tag),
  ("version", .int row.version.toInt),
  ("valid", .bool row.valid),
  ("checked", .ofOption .bool row.checked),
  ("count", .ofOption (fun n => .int n.toNat) row.count)]

end StatusTable.Row

namespace KeyInventory

/-- All versions of key-encryption keys, then all of HMAC keys. -/
def rows (keys : KeyInventory) : List StatusTable.Row :=
  KeyKind.all.flatMap fun kind =>
    (keys.entries kind).map fun (version, status) => .of kind version status

def toJson (keys : KeyInventory) : Json := .arr (keys.rows.map StatusTable.Row.toJson)

end KeyInventory

namespace StatusTable

def spaces (n : Nat) : String := String.ofList (List.replicate n ' ')

def left (width : Nat) (text : String) : String := text ++ spaces (width - text.length)

def right (width : Nat) (text : String) : String := spaces (width - text.length) ++ text

def line (kind version valid checked count : String) : String :=
  left 6 kind ++ " " ++ right 8 version ++ " " ++ right 6 valid ++ " " ++ right 8 checked
    ++ " " ++ right 12 count

def orDash {α : Type} (text : α → String) (value : Option α) : String := value.elim "-" text

def rowLine (row : StatusTable.Row) : String :=
  line row.kind.title (toString row.version.toInt) (toString row.valid)
    (orDash (toString ·) row.checked) (orDash (fun n => toString n.toNat) row.count)

def rule : String := String.ofList (List.replicate 48 '=')

def lines (keys : KeyInventory) : List String :=
  let version (v : KeyVersion) : String := toString v.toInt
  [ "KeyAPI state:       " ++ keys.state.getD "-"
  , "Active KEK version: " ++ orDash version keys.activeKek
  , "Target KEK version: " ++ orDash version keys.targetKek
  , "Active HMAC version: " ++ orDash version keys.activeHmac
  , rule
  , line "KIND" "VERSION" "VALID" "CHECKED" "COUNT" ]
  ++ keys.rows.map rowLine ++ [rule]

def render (keys : KeyInventory) : String := String.join ((lines keys).map (· ++ "\n"))

end StatusTable
end KeyRotation
