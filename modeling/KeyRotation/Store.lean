import KeyRotation.Calendar
import KeyRotation.Fault
import KeyRotation.Batches
import KeyRotation.Text.Basic

/-! The vault's database: published settings, and the records of each kind with the key
version they are on. A run only reads from it; the cleaner deletes expired tokens. -/
namespace KeyRotation

/-- A record. Only tokens finish. -/
structure Row where
  id : RecordId
  version : KeyVersion
  finishedAt : Option String := none
  deriving DecidableEq, Repr

/-- A table that is missing fails every query that names it. Rows have distinct ids and
are kept in the order of their ids. -/
structure Store where
  config : Option (List (String × Cell)) := some []
  deks : Option (List Row) := some []
  tokens : Option (List Row) := some []
  deriving DecidableEq, Repr

namespace Store

def empty : Store := {}

/-- A database without any table, or a file that is none. -/
def blank : Store := ⟨none, none, none⟩

def rows (store : Store) : KeyKind → Option (List Row)
  | .kek => store.deks
  | .hmac => store.tokens

def setRows (store : Store) (kind : KeyKind) (rows : List Row) : Store :=
  match kind with
  | .kek => { store with deks := some rows }
  | .hmac => { store with tokens := some rows }

@[simp] theorem rows_setRows (store : Store) (kind : KeyKind) (rows : List Row) :
    (store.setRows kind rows).rows kind = some rows := by
  cases kind <;> rfl

theorem rows_setRows_of_ne (store : Store) {kind other : KeyKind} (apart : other ≠ kind)
    (rows : List Row) : (store.setRows kind rows).rows other = store.rows other := by
  cases kind <;> cases other <;> first | rfl | exact absurd rfl apart

@[simp] theorem setRows_setRows (store : Store) (kind : KeyKind) (first second : List Row) :
    (store.setRows kind first).setRows kind second = store.setRows kind second := by
  cases kind <;> rfl

theorem setRows_self {store : Store} {kind : KeyKind} {rows : List Row}
    (table : store.rows kind = some rows) : store.setRows kind rows = store := by
  obtain ⟨config, deks, tokens⟩ := store
  cases kind
  · obtain rfl : deks = some rows := table
    rfl
  · obtain rfl : tokens = some rows := table
    rfl

def drop (store : Store) (name : String) : Store :=
  if name = "t_config" then { store with config := none }
  else if name = KeyKind.kek.table then { store with deks := none }
  else if name = KeyKind.hmac.table then { store with tokens := none }
  else store

def setConfig (store : Store) (key : String) (cell : Cell) : Except Fault Store :=
  match store.config with
  | none => .error .sql
  | some config =>
    .ok { store with config := some ((key, cell) :: config.filter (·.1 != key)) }

theorem rows_setConfig {store published : Store} {key : String} {cell : Cell}
    (written : store.setConfig key cell = .ok published) (kind : KeyKind) :
    published.rows kind = store.rows kind := by
  unfold setConfig at written
  split at written
  · cases written
  · cases written
    cases kind <;> rfl

def unsetConfig (store : Store) (key : String) : Except Fault Store :=
  match store.config with
  | none => .error .sql
  | some config => .ok { store with config := some (config.filter (·.1 != key)) }

/-- Rows for all the ids of a range, in place of those that have one. -/
def insert (store : Store) (kind : KeyKind) (minId maxId : RecordId) (version : KeyVersion)
    (finishedAt : Option String) : Except Fault Store :=
  match store.rows kind with
  | none => .error .sql
  | some rows =>
    let count := (maxId.toInt - minId.toInt + 1).toNat
    let added := (List.range count).map fun (k : Nat) =>
      (⟨Int64.ofInt (minId.toInt + k), version, finishedAt⟩ : Row)
    if maxId < minId then .ok store
    else
      .ok (store.setRows kind
        (rows.filter (·.id < minId) ++ added ++ rows.filter (maxId < ·.id)))

/-- The version that a published value means. Blank text means none. -/
def decodeTarget (key : String) : Cell → Except Fault (Option KeyVersion)
  | .null => .ok none
  | .integer version => .ok (some version)
  | .text text =>
    let trimmed := Text.trim text
    if trimmed.isEmpty then .ok none
    else
      match Text.int64? trimmed with
      | some version => .ok (some version)
      | none => .error (.config (.notAVersion key text))
  | .rawText _ => .error .crashed
  | .real value => .error (.config (.unexpectedReal key value))
  | .blob bytes => .error (.config (.unexpectedBlob key bytes))

def target (store : Store) (kind : KeyKind) : Except Fault (Option KeyVersion) :=
  match store.config with
  | none => .error .sql
  | some config =>
    match config.lookup kind.targetKey with
    | none => .ok none
    | some cell => decodeTarget kind.targetKey cell

@[simp] theorem target_setRows (store : Store) (kind other : KeyKind) (rows : List Row) :
    (store.setRows kind rows).target other = store.target other := by
  cases kind <;> rfl

def extent : List RecordId → Option IdRange
  | [] => none
  | id :: ids => IdRange.of? (ids.foldl min id) (ids.foldl max id)

theorem extent_eq_none_iff {ids : List RecordId} : extent ids = none ↔ ids = [] := by
  cases ids with
  | nil => simp [extent]
  | cons id ids =>
    have first : id ∈ id :: ids := List.mem_cons_self
    have low : ids.foldl min id ≤ id := (List.min?_eq_some_iff.1 List.min?_cons').2 id first
    have high : id ≤ ids.foldl max id := (List.max?_eq_some_iff.1 List.max?_cons').2 id first
    simp [extent, IdRange.of?, Int64.le_trans low high]

theorem extent_eq_some {ids : List RecordId} {range : IdRange} (found : extent ids = some range) :
    range.minId ∈ ids ∧ range.maxId ∈ ids ∧ ∀ id ∈ ids, range.Contains id := by
  cases ids with
  | nil => cases found
  | cons id ids =>
    obtain ⟨first, last⟩ := IdRange.of?_eq_some_iff.1 found
    obtain ⟨low, least⟩ := List.min?_eq_some_iff.1 (@List.min?_cons' _ id _ ids)
    obtain ⟨high, greatest⟩ := List.max?_eq_some_iff.1 (@List.max?_cons' _ id _ ids)
    rw [first, last]
    exact ⟨low, high, fun other member =>
      ⟨first ▸ least other member, last ▸ greatest other member⟩⟩

/-- The records of a kind that are not on a version, from the first id to the last. -/
def pending (store : Store) (kind : KeyKind) (version : KeyVersion) :
    Except Fault (Option IdRange) :=
  match store.rows kind with
  | none => .error .sql
  | some rows => .ok (extent ((rows.filter (·.version != version)).map (·.id)))

theorem pending_of_table {store : Store} {kind : KeyKind} {rows : List Row}
    (table : store.rows kind = some rows) (version : KeyVersion) :
    ∃ pending, store.pending kind version = .ok pending := by
  simp [pending, table]

theorem pending_eq_none_iff {store : Store} {kind : KeyKind} {version : KeyVersion}
    {rows : List Row} (table : store.rows kind = some rows) :
    store.pending kind version = .ok none ↔ ∀ row ∈ rows, row.version = version := by
  simp [pending, table, extent_eq_none_iff, List.filter_eq_nil_iff]

theorem contains_of_pending {store : Store} {kind : KeyKind} {version : KeyVersion}
    {rows : List Row} {range : IdRange} (table : store.rows kind = some rows)
    (found : store.pending kind version = .ok (some range)) {row : Row} (member : row ∈ rows)
    (off : row.version ≠ version) : range.Contains row.id := by
  simp only [pending, table, Except.ok.injEq] at found
  refine (extent_eq_some found).2.2 _ (List.mem_map_of_mem (List.mem_filter.2 ⟨member, ?_⟩))
  simpa using off

theorem ends_of_pending {store : Store} {kind : KeyKind} {version : KeyVersion}
    {rows : List Row} {range : IdRange} (table : store.rows kind = some rows)
    (found : store.pending kind version = .ok (some range)) :
    (∃ row ∈ rows, row.version ≠ version ∧ row.id = range.minId) ∧
      ∃ row ∈ rows, row.version ≠ version ∧ row.id = range.maxId := by
  simp only [pending, table, Except.ok.injEq] at found
  have away {id : RecordId}
      (member : id ∈ (rows.filter (·.version != version)).map (·.id)) :
      ∃ row ∈ rows, row.version ≠ version ∧ row.id = id := by
    obtain ⟨row, kept, same⟩ := List.mem_map.1 member
    obtain ⟨inside, off⟩ := List.mem_filter.1 kept
    exact ⟨row, inside, by simpa using off, same⟩
  obtain ⟨first, last, -⟩ := extent_eq_some found
  exact ⟨away first, away last⟩

/-- The time of a token lies in a window of texts; a token without one is in none. -/
def finishedWithin (first last : String) (row : Row) : Bool :=
  match row.finishedAt with
  | none => false
  | some text => !(text < first) && decide (text < last)

/-- Delete the tokens that finished within a number of days before now, and say how
many. A window that begins before the first year stops the process. -/
def purge (store : Store) (now : Calendar.DateTime) (days : Nat) : Except Fault (Store × Nat) :=
  match now.daysEarlier? days with
  | none => .error .crashed
  | some first =>
    match store.tokens with
    | none => .error .sql
    | some rows =>
      let expired := finishedWithin first.text now.text
      .ok ({ store with tokens := some (rows.filter (!expired ·)) }, rows.countP expired)

end Store
end KeyRotation
