/-! Lists of entries, each a value with its key in front. The first entry with a key is what is
found under it, which is the only one where keys are distinct. -/
namespace KeyRotation.Entries

variable {κ α β : Type} [BEq κ] [LawfulBEq κ] {entries : List (κ × α)} {key : κ} {value : α}

theorem lookup_cons [DecidableEq κ] (key first : κ) (value : α) (rest : List (κ × α)) :
    ((first, value) :: rest).lookup key = if key = first then some value else rest.lookup key := by
  by_cases same : key = first
  · simp [same]
  · simp [List.lookup_cons, same, beq_false_of_ne same]

/-- A key that stands once has the value that is found under it. -/
theorem mem_iff_lookup (once : (entries.map Prod.fst).Nodup) :
    (key, value) ∈ entries ↔ entries.lookup key = some value := by
  induction entries with
  | nil => simp
  | cons entry rest ih =>
    obtain ⟨other, first⟩ := entry
    rw [List.map_cons, List.nodup_cons] at once
    rw [List.mem_cons, ih once.2, List.lookup_cons, Prod.mk.injEq]
    by_cases same : key = other
    · subst same
      have absent : rest.lookup key ≠ some value := by
        rw [Ne, ← ih once.2]
        exact fun member => once.1 (List.mem_map.2 ⟨_, member, rfl⟩)
      simp [absent, eq_comm]
    · simp [same, beq_eq_false_iff_ne.2 same]

theorem lookup_map (change : κ → α → β) (key : κ) :
    (entries.map fun entry => (entry.1, change entry.1 entry.2)).lookup key =
      (entries.lookup key).map (change key) := by
  induction entries with
  | nil => rfl
  | cons entry rest ih =>
    rw [List.map_cons, List.lookup_cons, List.lookup_cons, ih]
    by_cases same : key = entry.1
    · simp [same]
    · simp [beq_eq_false_iff_ne.2 same]

theorem lookup_replaced [DecidableEq κ] (key wanted : κ) (value : α) (entries : List (κ × α)) :
    ((key, value) :: entries.filter (·.1 != key)).lookup wanted =
      if wanted = key then some value else entries.lookup wanted := by
  rw [lookup_cons]
  by_cases same : wanted = key
  · rw [if_pos same, if_pos same]
  rw [if_neg same, if_neg same]
  induction entries with
  | nil => rfl
  | cons entry rest ih =>
    obtain ⟨other, first⟩ := entry
    by_cases taken : other = key
    · simp [taken, lookup_cons, same, ih]
    · have kept : (other != key) = true := bne_iff_ne.2 taken
      rw [List.filter_cons, if_pos kept, lookup_cons, lookup_cons, ih]

theorem nodup_replaced (once : (entries.map Prod.fst).Nodup) (key : κ) (value : α) :
    (((key, value) :: entries.filter (·.1 != key)).map Prod.fst).Nodup :=
  List.nodup_cons.2 ⟨by simp, once.sublist (List.filter_sublist.map Prod.fst)⟩

end KeyRotation.Entries
