import KeyRotation.Migration
import KeyRotation.Store

/-! A vault at work: its store, with a key authority that moves the records of a batch
to the version the store publishes at that moment. -/
namespace KeyRotation

/-- `failing` are the ids of records that cannot be converted; `drift` is a value that is
published in place of the target once so many batches are done; `clock` gives the
readings of the clock in turn. -/
structure Vault where
  store : Store
  keys : KeyInventory := .empty
  failing : List RecordId := []
  drift : Option (Nat × Cell) := none
  clock : Nat → Instant := fun _ => 0
  readings : Nat := 0
  batchesDone : Nat := 0

namespace Vault

def isDue (batch : Batch) (target : KeyVersion) (row : Row) : Bool :=
  decide (batch.Contains row.id) && row.version != target

/-- Records after a batch: those due are on the target, except the failing ones. -/
def convert (failing : List RecordId) (batch : Batch) (target : KeyVersion) (rows : List Row) :
    List Row :=
  rows.map fun row =>
    if isDue batch target row && !failing.contains row.id then { row with version := target }
    else row

def outcome (failing : List RecordId) (batch : Batch) (target : KeyVersion) (rows : List Row) :
    BatchOutcome :=
  let due := rows.filter (isDue batch target)
  ⟨UInt64.ofNatClamp (due.countP fun row => !failing.contains row.id),
    UInt64.ofNatClamp (due.countP fun row => failing.contains row.id)⟩

def drifted (vault : Vault) (kind : KeyKind) (store : Store) : Store :=
  match vault.drift with
  | none => store
  | some (after, cell) =>
    if vault.batchesDone + 1 = after then
      match store.setConfig kind.targetKey cell with
      | .ok store => store
      | .error _ => store
    else store

@[simp] theorem rows_drifted (vault : Vault) (kind other : KeyKind) (store : Store) :
    (vault.drifted kind store).rows other = store.rows other := by
  unfold drifted
  split
  · rfl
  split
  · split
    next written => exact Store.rows_setConfig written other
    · rfl
  · rfl

def moveBatch (vault : Vault) (kind : KeyKind) (batch : Batch) :
    Except Fault BatchOutcome × Vault :=
  match vault.store.target kind with
  | .error fault => (.error fault, vault)
  | .ok none => (.error (.protocol .noTarget), vault)
  | .ok (some target) =>
    match vault.store.rows kind with
    | none => (.error .sql, vault)
    | some rows =>
      let store := vault.store.setRows kind (convert vault.failing batch target rows)
      (.ok (outcome vault.failing batch target rows),
        { vault with store := vault.drifted kind store, batchesDone := vault.batchesDone + 1 })

/-- A batch either is refused, and then nothing changes, or moves the records that are due. -/
theorem moveBatch_cases (vault : Vault) (kind : KeyKind) (batch : Batch) :
    (∃ fault, vault.moveBatch kind batch = (.error fault, vault)) ∨
    ∃ target rows, vault.store.target kind = .ok (some target) ∧
      vault.store.rows kind = some rows ∧
      vault.moveBatch kind batch = (.ok (outcome vault.failing batch target rows),
        { vault with
          store := vault.drifted kind
            (vault.store.setRows kind (convert vault.failing batch target rows))
          batchesDone := vault.batchesDone + 1 }) := by
  unfold moveBatch
  split
  next fault _ => exact .inl ⟨fault, rfl⟩
  · exact .inl ⟨_, rfl⟩
  next target published =>
    split
    · exact .inl ⟨_, rfl⟩
    next rows table => exact .inr ⟨target, rows, published, table, rfl⟩

def world : World Vault
  | vault, .now => (vault.clock vault.readings, { vault with readings := vault.readings + 1 })
  | vault, .target kind => (vault.store.target kind, vault)
  | vault, .status => (.ok vault.keys, vault)
  | vault, .pending kind version => (vault.store.pending kind version, vault)
  | vault, .migrate kind batch => vault.moveBatch kind batch

theorem store_now (vault : Vault) : (world vault .now).2.store = vault.store := rfl

theorem world_same (vault : Vault) (request : Call) :
    (world vault request).2.keys = vault.keys ∧
      (world vault request).2.failing = vault.failing ∧
      (world vault request).2.drift = vault.drift := by
  cases request with
  | migrate kind batch =>
    rcases vault.moveBatch_cases kind batch with ⟨_, moved⟩ | ⟨_, _, _, _, moved⟩ <;>
      simp only [world, moved, and_self]
  | now | target | status | pending => exact ⟨rfl, rfl, rfl⟩

end Vault
end KeyRotation
