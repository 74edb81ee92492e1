import Mathlib
import KeyRotation.Proofs.Layout

/-! The keys of an inventory as one map. A state is kept under the kind and the version of its key
together: the one put in last stands, whatever was put in under other keys. The versions of a kind
are listed once each, in ascending order, and so are all keys, those of one kind before those of
the other. -/
namespace KeyRotation

theorem KeyKind.rank_inj {a b : KeyKind} : a.rank = b.rank ↔ a = b := by
  cases a <;> cases b <;> decide

@[ext]
structure Key where
  kind : KeyKind
  version : KeyVersion
  deriving DecidableEq, Repr

namespace Key

variable {first second : Key}

/-- Kinds in the order of every listing, versions of one kind by their numbers. -/
def Before (first second : Key) : Prop :=
  first.kind.rank < second.kind.rank ∨ first.kind = second.kind ∧ first.version < second.version

def order : Key → Key → Ordering := compareLex (compareOn (·.kind.rank)) (compareOn (·.version))

theorem order_eq_lt_iff : order first second = .lt ↔ first.Before second := by
  simp only [order, compareLex, compareOn, Ordering.then_eq_lt, Std.compare_eq_iff_eq,
    Std.compare_eq_lt, KeyKind.rank_inj, Before]

theorem order_eq_eq_iff : order first second = .eq ↔ first = second := by
  simp only [order, compareLex, compareOn, Ordering.then_eq_eq, Std.compare_eq_iff_eq,
    KeyKind.rank_inj, Key.ext_iff]

instance : Std.TransCmp order :=
  inferInstanceAs (Std.TransCmp (compareLex (compareOn fun key : Key => key.kind.rank)
    (compareOn fun key => key.version)))

instance : Std.LawfulEqCmp order where
  eq_of_compare := order_eq_eq_iff.1

theorem Before.asymm (before : first.Before second) : ¬second.Before first := by
  rw [← order_eq_lt_iff] at before ⊢
  exact Std.OrientedCmp.not_lt_of_lt before

/-- Lists whose keys go up are the same if they have the same members. -/
theorem eq_of_before {α : Type} (key : α → Key) {one other : List α}
    (up : one.Pairwise fun a b => (key a).Before (key b))
    (also : other.Pairwise fun a b => (key a).Before (key b))
    (same : ∀ a, a ∈ one ↔ a ∈ other) : one = other := by
  have asymm : Std.Asymm fun a b => (key a).Before (key b) := ⟨fun _ _ => Before.asymm⟩
  exact up.eq_of_mem_iff also same

end Key

namespace KeyInventory

/-- More states, put in one after the other. -/
def insertAll (keys : KeyInventory) (inserts : List (Key × KeyStatus)) : KeyInventory :=
  inserts.foldl (fun keys (key, status) => keys.insert key.kind key.version status) keys

/-- Of the states that are put in under a key, the last. -/
def last? (inserts : List (Key × KeyStatus)) (key : Key) : Option KeyStatus :=
  (inserts.filter (·.1 = key)).getLast?.map Prod.snd

def ofKind (keys : KeyInventory) (kind : KeyKind) : List (Key × KeyStatus) :=
  (keys.entries kind).map fun (version, status) => (⟨kind, version⟩, status)

def all (keys : KeyInventory) : List (Key × KeyStatus) := KeyKind.all.flatMap keys.ofKind

section Inserts

variable {keys : KeyInventory} {inserts : List (Key × KeyStatus)} {kind : KeyKind}
  {version : KeyVersion} {status : KeyStatus} {key : Key}

theorem last?_cons (entry : Key × KeyStatus) (rest : List (Key × KeyStatus)) (key : Key) :
    last? (entry :: rest) key =
      (last? rest key).or (if entry.1 = key then some entry.2 else none) := by
  unfold last?
  by_cases same : entry.1 = key
  · rw [List.filter_cons_of_pos (by simpa using same), List.getLast?_cons, if_pos same]
    cases (rest.filter (·.1 = key)).getLast? <;> rfl
  · rw [List.filter_cons_of_neg (by simpa using same), if_neg same, Option.or_none]

theorem last?_eq_none_iff : last? inserts key = none ↔ key ∉ inserts.map Prod.fst := by
  simp only [last?, Option.map_eq_none_iff, List.getLast?_eq_none_iff, List.filter_eq_nil_iff,
    decide_eq_true_eq, List.mem_map, not_exists, not_and]

/-- A state that is put in is found under its key, and nothing changes under another. -/
theorem get?_insert_key (keys : KeyInventory) (key : Key) (status : KeyStatus) :
    (keys.insert key.kind key.version status).get? kind version =
      if key = ⟨kind, version⟩ then some status else keys.get? kind version := by
  by_cases same : kind = key.kind
  · subst same
    simp only [get?_insert, Key.ext_iff, true_and, eq_comm]
  · have apart : key ≠ ⟨kind, version⟩ := fun equal => same (congrArg Key.kind equal).symm
    rw [get?, table_insert_of_ne keys same, if_neg apart]
    rfl

/-- The last state put in under a key stands, or the one before all of them if there is none. -/
theorem get?_insertAll (keys : KeyInventory) (inserts : List (Key × KeyStatus)) :
    (keys.insertAll inserts).get? kind version =
      (last? inserts ⟨kind, version⟩).or (keys.get? kind version) := by
  induction inserts generalizing keys with
  | nil => rfl
  | cons entry rest ih =>
    have step : keys.insertAll (entry :: rest) =
        (keys.insert entry.1.kind entry.1.version entry.2).insertAll rest := rfl
    rw [step, ih, get?_insert_key, last?_cons, Option.or_assoc]
    split <;> rfl

theorem get?_empty_insertAll (inserts : List (Key × KeyStatus)) :
    (empty.insertAll inserts).get? kind version = last? inserts ⟨kind, version⟩ := by
  have nothing : empty.get? kind version = none := by cases kind <;> rfl
  rw [get?_insertAll, nothing, Option.or_none]

theorem mem_entries_iff :
    (version, status) ∈ keys.entries kind ↔ keys.get? kind version = some status :=
  (keys.table kind).mem_iff_get?

/-- A version is listed once if it has a state, and not at all if it has none. -/
theorem count_versions (keys : KeyInventory) (kind : KeyKind) (version : KeyVersion) :
    ((keys.entries kind).map Prod.fst).count version =
      if keys.get? kind version = none then 0 else 1 := by
  have once : ((keys.entries kind).map Prod.fst).Nodup := (keys.table kind).versions_nodup
  have listed : version ∈ (keys.entries kind).map Prod.fst ↔ keys.get? kind version ≠ none := by
    simp [mem_entries_iff, Option.eq_none_iff_forall_ne_some]
  rw [once.count, if_congr listed rfl rfl, ite_not]

theorem isReady_iff : keys.isReady kind version = true ↔
    ∃ status, keys.get? kind version = some status ∧ status.valid = true ∧
      (kind = .kek → status.checked = true) := by
  unfold isReady
  cases keys.get? kind version with
  | none => simp
  | some status => cases kind <;> simp [KeyStatus.isReady, KeyKind.needsCheck]

theorem mem_ofKind_iff : (key, status) ∈ keys.ofKind kind ↔
    key.kind = kind ∧ keys.get? kind key.version = some status := by
  rw [← mem_entries_iff, ofKind, List.mem_map]
  constructor
  · rintro ⟨⟨version, status⟩, listed, ⟨⟩⟩
    exact ⟨rfl, listed⟩
  · rintro ⟨rfl, listed⟩
    exact ⟨_, listed, rfl⟩

theorem mem_all_iff : (key, status) ∈ keys.all ↔ keys.get? key.kind key.version = some status := by
  simp only [all, List.mem_flatMap, mem_ofKind_iff]
  constructor
  · rintro ⟨_, -, rfl, found⟩
    exact found
  · intro found
    exact ⟨key.kind, KeyKind.mem_all key.kind, rfl, found⟩

theorem ofKind_ascending (keys : KeyInventory) (kind : KeyKind) :
    (keys.ofKind kind).Pairwise fun first second => first.1.Before second.1 := by
  rw [ofKind, List.pairwise_map]
  exact (keys.table kind).ascending.imp fun before => .inr ⟨rfl, before⟩

theorem all_ascending (keys : KeyInventory) :
    keys.all.Pairwise fun first second => first.1.Before second.1 := by
  have between : ∀ first ∈ keys.ofKind .kek, ∀ second ∈ keys.ofKind .hmac,
      first.1.Before second.1 := by
    intro first kek second hmac
    have ranks : first.1.kind.rank < second.1.kind.rank := by
      rw [(mem_ofKind_iff.1 kek).1, (mem_ofKind_iff.1 hmac).1]
      decide
    exact .inl ranks
  simp only [all, KeyKind.all, List.flatMap_cons, List.flatMap_nil, List.append_nil]
  exact List.pairwise_append.2 ⟨keys.ofKind_ascending .kek, keys.ofKind_ascending .hmac, between⟩

theorem filter_all (keys : KeyInventory) (kind : KeyKind) :
    keys.all.filter (·.1.kind = kind) = keys.ofKind kind := by
  apply Key.eq_of_before Prod.fst
  · exact keys.all_ascending.filter _
  · exact keys.ofKind_ascending kind
  · rintro ⟨key, status⟩
    rw [List.mem_filter, mem_all_iff, mem_ofKind_iff, decide_eq_true_eq, and_comm]
    exact and_congr_right fun same => by rw [same]

theorem entries_eq_filter (keys : KeyInventory) (kind : KeyKind) : keys.entries kind =
    (keys.all.filter (·.1.kind = kind)).map fun (key, status) => (key.version, status) := by
  rw [filter_all, ofKind, List.map_map]
  exact (List.map_id _).symm

/-- States in one ordered map, whose keys are a kind and a version together. -/
def ordered (inserts : List (Key × KeyStatus)) : Std.TreeMap Key KeyStatus Key.order :=
  inserts.foldl (fun map (key, status) => map.insert key status) ∅

theorem getElem?_foldl_insert (map : Std.TreeMap Key KeyStatus Key.order) (key : Key) :
    (inserts.foldl (fun map (key, status) => map.insert key status) map)[key]? =
      (last? inserts key).or map[key]? := by
  induction inserts generalizing map with
  | nil => rfl
  | cons entry rest ih =>
    rw [List.foldl_cons, ih, Std.TreeMap.getElem?_insert, last?_cons, Option.or_assoc]
    simp only [Key.order_eq_eq_iff]
    split <;> rfl

theorem getElem?_ordered (inserts : List (Key × KeyStatus)) (key : Key) :
    (ordered inserts)[key]? = last? inserts key := by
  rw [ordered, getElem?_foldl_insert, Std.TreeMap.getElem?_emptyc, Option.or_none]

/-- The two tables of an inventory, one behind the other, are what the one map holds. -/
theorem toList_ordered (inserts : List (Key × KeyStatus)) :
    (ordered inserts).toList = (empty.insertAll inserts).all := by
  apply Key.eq_of_before Prod.fst
  · simpa only [Key.order_eq_lt_iff] using (ordered inserts).ordered_keys_toList
  · exact all_ascending _
  · rintro ⟨key, status⟩
    rw [Std.TreeMap.mem_toList_iff_getElem?_eq_some, getElem?_ordered, mem_all_iff,
      get?_empty_insertAll]

end Inserts
end KeyInventory
end KeyRotation
