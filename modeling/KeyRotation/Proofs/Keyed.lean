import Mathlib
import KeyRotation.Entries
import KeyRotation.Toml.Document

/-! Each key of a table stands in it once, in every table that a document writes and at every
depth: a line that would give a key a second value is refused, and so is such an entry of an inline
table. What a table holds under a key is then what was written for the key. -/
namespace KeyRotation.Toml

/-- No table within a value has a key twice. -/
inductive Value.Keyed : Value → Prop where
  | text (value : String) : Keyed (.text value)
  | integer (value : Int64) : Keyed (.integer value)
  | boolean (value : Bool) : Keyed (.boolean value)
  | float : Keyed .float
  | moment : Keyed .moment
  | array {items : List Value} (all : ∀ item ∈ items, Keyed item) : Keyed (.array items)
  | table {entries : Entries} (once : (entries.map Prod.fst).Nodup)
      (all : ∀ entry ∈ entries, Keyed entry.2) : Keyed (.table entries)

/-- The same of what a document has built up so far. -/
inductive Item.Keyed : Item → Prop where
  | value {value : Value} (keyed : value.Keyed) : Keyed (.value value)
  | table {origin : Origin} {entries : List (String × Item)} (once : (entries.map Prod.fst).Nodup)
      (all : ∀ entry ∈ entries, Keyed entry.2) : Keyed (.table origin entries)
  | tables {elements : List (List (String × Item))}
      (all : ∀ entries ∈ elements, Keyed (.table .header entries)) : Keyed (.tables elements)

def Tree.Keyed (tree : Tree) : Prop := (Item.table tree.origin tree.entries).Keyed

section Trees

variable {tree tree' : Tree} {origin : Origin} {entries : List (String × Item)} {key : String}

theorem Item.Keyed.change (keyed : (Item.table origin entries).Keyed) (other : Origin) :
    (Item.table other entries).Keyed := by
  cases keyed with
  | table once all => exact .table once all

theorem keyed_empty (origin : Origin) : (Item.table origin []).Keyed :=
  .table List.nodup_nil (by simp)

theorem keyed_put {item : Item} (keyed : (Item.table origin entries).Keyed) (new : item.Keyed) :
    (Item.table origin (Tree.put key item entries)).Keyed := by
  cases keyed with
  | table once all =>
    refine .table (Entries.nodup_replaced once key item) (List.forall_mem_cons.2 ⟨new, ?_⟩)
    exact fun entry member => all entry (List.mem_of_mem_filter member)

theorem keyed_of_lookup {item : Item} (keyed : (Item.table origin entries).Keyed)
    (found : entries.lookup key = some item) : item.Keyed := by
  cases keyed with
  | table once all => exact all _ ((Entries.mem_iff_lookup once).2 found)

/-- A change below a path keeps keys apart if it does so in the table that the path leads to. -/
theorem keyed_within {byKey : Bool} {change : Tree → Option Tree}
    (keeps : ∀ tree tree', tree.Keyed → change tree = some tree' → tree'.Keyed) {path : List String}
    (keyed : tree.Keyed) (changed : Tree.within byKey change path tree = some tree') :
    tree'.Keyed := by
  induction path generalizing tree tree' with
  | nil => exact keeps tree tree' keyed changed
  | cons key path ih =>
    have inside (start : Tree) (item : Tree → Item) (start_keyed : start.Keyed)
        (wraps : ∀ below : Tree, below.Keyed → (item below).Keyed)
        (changed : ((Tree.within byKey change path start).map fun below =>
          { tree with entries := Tree.put key (item below) tree.entries }) = some tree') :
        tree'.Keyed := by
      obtain ⟨below, changed_below, rfl⟩ := Option.map_eq_some_iff.1 changed
      exact keyed_put keyed (wraps below (ih start_keyed changed_below))
    rw [Tree.within] at changed
    split at changed
    · exact inside ⟨_, []⟩ _ (keyed_empty _) (fun _ keyed => keyed) changed
    · cases changed
    · cases changed
    · next origin entries found =>
      split at changed
      · cases changed
      · exact inside _ _ (keyed_of_lookup keyed found) (fun _ keyed => keyed) changed
    · next latest earlier found =>
      obtain ⟨first, others⟩ : (Item.table .header latest).Keyed ∧
          ∀ entries ∈ earlier, (Item.table .header entries).Keyed := by
        cases keyed_of_lookup keyed found with
        | tables all => exact List.forall_mem_cons.1 all
      exact inside ⟨.header, latest⟩ _ first
        (fun _ keyed => .tables (List.forall_mem_cons.2 ⟨keyed.change _, others⟩)) changed

theorem keyed_add {dotted : Bool} {value : Value} (keyed : tree.Keyed) (plain : value.Keyed)
    (added : tree.add? dotted key value = some tree') : tree'.Keyed := by
  rw [Tree.add?] at added
  split at added
  · cases added
  · split at added
    · cases added
    · cases added
      exact keyed_put keyed (.value plain)

theorem keyed_assign {header path : List String} {value : Value} (keyed : tree.Keyed)
    (plain : value.Keyed) (assigned : tree.assign? header path value = some tree') :
    tree'.Keyed := by
  rw [Tree.assign?] at assigned
  split at assigned
  · cases assigned
  · refine keyed_within (fun parent parent' keyed changed => ?_) keyed assigned
    exact keyed_within (fun _ _ keyed added => keyed_add keyed plain added) keyed changed

theorem keyed_open {path : List String} (keyed : tree.Keyed)
    (opened : tree.open? path = some tree') : tree'.Keyed := by
  rw [Tree.open?] at opened
  split at opened
  · cases opened
  · refine keyed_within (fun parent parent' keyed changed => ?_) keyed opened
    split at changed
    · cases changed
      exact keyed_put keyed (keyed_empty _)
    · next entries found =>
      cases changed
      exact keyed_put keyed ((keyed_of_lookup keyed found).change _)
    · cases changed

theorem keyed_extend {path : List String} (keyed : tree.Keyed)
    (extended : tree.extend? path = some tree') : tree'.Keyed := by
  rw [Tree.extend?] at extended
  split at extended
  · cases extended
  · refine keyed_within (fun parent parent' keyed changed => ?_) keyed extended
    split at changed
    · cases changed
      exact keyed_put keyed (.tables (by simp [keyed_empty]))
    · next elements found =>
      cases changed
      cases keyed_of_lookup keyed found with
      | tables all =>
        exact keyed_put keyed (.tables (List.forall_mem_cons.2 ⟨keyed_empty _, all⟩))
    · cases changed

theorem valuesOf_keys (entries : List (String × Item)) :
    (Tree.valuesOf entries).map Prod.fst = entries.map Prod.fst := by
  induction entries with
  | nil => rfl
  | cons entry entries ih => rw [Tree.valuesOf, List.map_cons, List.map_cons, ih]

mutual

theorem keyed_valueOf : ∀ item : Item, item.Keyed → (Tree.valueOf item).Keyed
  | .value _, .value plain => plain
  | .table _ entries, .table once all =>
    .table (valuesOf_keys entries ▸ once) (keyed_valuesOf entries all)
  | .tables elements, .tables all => .array (keyed_arrayOf elements [] all (by simp))

theorem keyed_valuesOf : ∀ entries : List (String × Item), (∀ entry ∈ entries, entry.2.Keyed) →
    ∀ entry ∈ Tree.valuesOf entries, entry.2.Keyed
  | [], _ => by simp [Tree.valuesOf]
  | (key, item) :: entries, all => by
    obtain ⟨first, others⟩ := List.forall_mem_cons.1 all
    exact List.forall_mem_cons.2 ⟨keyed_valueOf item first, keyed_valuesOf entries others⟩

theorem keyed_arrayOf : ∀ (elements : List (List (String × Item))) (later : List Value),
    (∀ entries ∈ elements, (Item.table .header entries).Keyed) → (∀ value ∈ later, value.Keyed) →
    ∀ value ∈ Tree.arrayOf elements later, value.Keyed
  | [], later, _, plain => plain
  | entries :: elements, later, all, plain => by
    obtain ⟨first, others⟩ := List.forall_mem_cons.1 all
    refine keyed_arrayOf elements _ others (List.forall_mem_cons.2 ⟨?_, plain⟩)
    cases first with
    | table once all => exact .table (valuesOf_keys entries ▸ once) (keyed_valuesOf entries all)

end

theorem keyed_values (keyed : tree.Keyed) : (Value.table tree.values).Keyed :=
  keyed_valueOf _ keyed

end Trees

section Scans

open Text (Scan many separated)

/-- What a scan reads is always of a kind. -/
def Yields {α : Type} (kind : α → Prop) (scan : Scan α) : Prop :=
  ∀ cs a rest, scan cs = some (a, rest) → kind a

variable {α : Type} {kind : α → Prop} {scan : Scan α}

theorem Yields.many (yields : Yields kind scan) (cs : List Char) :
    ∀ a ∈ (many scan cs).1, kind a := by
  fun_induction Text.many scan cs with
  | case1 => simp
  | case2 cs a rest read _ items left eq ih =>
    rw [eq] at ih
    exact List.forall_mem_cons.2 ⟨yields cs a rest read, ih⟩
  | case3 => simp

theorem Yields.separated (yields : Yields kind scan) (separator : List Char) :
    Yields (∀ a ∈ ·, kind a) (separated separator scan) := by
  intro cs items rest read
  obtain ⟨⟨first, left⟩, read_first, read⟩ := Option.bind_eq_some_iff.1 read
  cases read
  refine List.forall_mem_cons.2 ⟨yields cs first left read_first, Yields.many ?_ left⟩
  intro cs a rest read
  obtain ⟨left, -, read⟩ := Option.bind_eq_some_iff.1 read
  exact yields left a rest read

theorem yields_moment : Yields Value.Keyed moment := by
  intro cs value rest read
  rw [moment] at read
  split at read
  · cases read
    exact .moment
  · obtain ⟨_, -, eq⟩ := Option.map_eq_some_iff.1 read
    cases eq
    exact .moment

theorem yields_float : Yields Value.Keyed float := by
  intro cs value rest read
  obtain ⟨⟨minus, left⟩, -, read⟩ := Option.bind_eq_some_iff.1 read
  dsimp only at read
  split at read
  · cases read
    exact .float
  · cases read
    exact .float
  · obtain ⟨⟨whole, left⟩, -, read⟩ := Option.bind_eq_some_iff.1 read
    split at read <;>
    · obtain ⟨⟨fraction, exponent, left⟩, -, read⟩ := Option.bind_eq_some_iff.1 read
      dsimp only at read
      split at read
      · cases read
      · cases read
        exact .float

theorem keyed_of_ofInt {n : Int} {value : Value} (fits : ofInt? n = some value) : value.Keyed := by
  rw [ofInt?] at fits
  split at fits
  · cases fits
    exact .integer _
  · cases fits

theorem yields_basedInteger (base : Nat) : Yields Value.Keyed (basedInteger base) := by
  intro cs value rest read
  obtain ⟨⟨digits, left⟩, -, read⟩ := Option.bind_eq_some_iff.1 read
  obtain ⟨value, fits, read⟩ := Option.bind_eq_some_iff.1 read
  cases read
  exact keyed_of_ofInt fits

theorem yields_integer : Yields Value.Keyed integer := by
  intro cs value rest read
  unfold integer at read
  split at read
  · exact yields_basedInteger _ _ _ _ read
  · exact yields_basedInteger _ _ _ _ read
  · exact yields_basedInteger _ _ _ _ read
  · obtain ⟨⟨minus, left⟩, -, read⟩ := Option.bind_eq_some_iff.1 read
    obtain ⟨⟨digits, left⟩, -, read⟩ := Option.bind_eq_some_iff.1 read
    obtain ⟨value, fits, read⟩ := Option.bind_eq_some_iff.1 read
    cases read
    exact keyed_of_ofInt fits

theorem yields_number : Yields Value.Keyed number := by
  intro cs value rest read
  rw [number, Option.or_eq_some_iff] at read
  rcases read with read | ⟨-, read⟩
  · rw [Option.or_eq_some_iff] at read
    rcases read with read | ⟨-, read⟩
    · exact yields_moment _ _ _ read
    · exact yields_float _ _ _ read
  · exact yields_integer _ _ _ read

variable {value : Scan Value}

theorem yields_pair (yields : Yields Value.Keyed value) :
    Yields (fun pair : Pair => pair.value.Keyed) (pair value) := by
  intro cs entry rest read
  obtain ⟨⟨path, left⟩, -, read⟩ := Option.bind_eq_some_iff.1 read
  obtain ⟨left, -, read⟩ := Option.bind_eq_some_iff.1 read
  obtain ⟨⟨written, left⟩, read_value, read⟩ := Option.bind_eq_some_iff.1 read
  cases read
  exact yields _ _ _ read_value

theorem yields_array (yields : Yields Value.Keyed value) : Yields Value.Keyed (array value) := by
  intro cs written rest read
  rw [array] at read
  obtain ⟨left, -, read⟩ := Option.bind_eq_some_iff.1 read
  cases read
  refine .array ?_
  split
  · next items left read_items =>
    refine Yields.separated (fun cs written rest read => ?_) _ _ _ _ read_items
    obtain ⟨⟨written, left⟩, read_value, read⟩ := Option.bind_eq_some_iff.1 read
    cases read
    exact yields _ _ _ read_value
  · simp

/-- What every step keeps, a fold keeps. -/
theorem foldlM_keeps {σ : Type} (holds : σ → Prop) {step : σ → α → Option σ} {items : List α}
    {s s' : σ} (keeps : ∀ a ∈ items, ∀ s s', holds s → step s a = some s' → holds s')
    (start : holds s) (folded : items.foldlM step s = some s') : holds s' := by
  induction items generalizing s with
  | nil =>
    cases folded
    exact start
  | cons a items ih =>
    obtain ⟨first, others⟩ := List.forall_mem_cons.1 keeps
    rw [List.foldlM_cons] at folded
    obtain ⟨next, stepped, folded⟩ := Option.bind_eq_some_iff.1 folded
    exact ih others (first s next start stepped) folded

theorem yields_inlineTable (yields : Yields Value.Keyed value) :
    Yields Value.Keyed (inlineTable value) := by
  intro cs written rest read
  rw [inlineTable] at read
  obtain ⟨left, -, read⟩ := Option.bind_eq_some_iff.1 read
  obtain ⟨table, built, read⟩ := Option.bind_eq_some_iff.1 read
  cases read
  have empty : Tree.empty.Keyed := keyed_empty .header
  refine keyed_values (foldlM_keeps Tree.Keyed
    (fun pair member _ _ keyed assigned => ?_) empty built)
  refine keyed_assign keyed ?_ assigned
  split at member
  · next pairs read_pairs =>
    have all : ∀ pair ∈ pairs.1, pair.value.Keyed := by
      refine Yields.separated (fun cs written rest read => ?_) _ _ _ _ read_pairs
      obtain ⟨⟨written, left⟩, read_pair, read⟩ := Option.bind_eq_some_iff.1 read
      cases read
      exact yields_pair yields _ _ _ read_pair
    exact all pair member
  · simp at member

theorem yields_text : Yields Value.Keyed fun cs =>
    ((longText cs).or (lineText cs)).map fun (text, rest) => (.text text, rest) := by
  intro cs written rest read
  obtain ⟨⟨text, left⟩, -, eq⟩ := Option.map_eq_some_iff.1 read
  cases eq
  exact .text text

/-- Tables within values are inline tables, at any depth. -/
theorem yields_value (depth : Nat) : Yields Value.Keyed (Toml.value depth) := by
  induction depth using Nat.strong_induction_on with
  | _ depth ih =>
    intro cs written rest read
    unfold Toml.value at read
    split at read
    · cases read
    · cases read
    · next depth _ => exact yields_array (ih depth depth.lt_succ_self) _ _ _ read
    · next depth _ => exact yields_inlineTable (ih depth depth.lt_succ_self) _ _ _ read
    · exact yields_text _ _ _ read
    · exact yields_text _ _ _ read
    · split at read
      · cases read
        exact .boolean _
      · cases read
        exact .boolean _
      · exact yields_number _ _ _ read

def Line.Keyed : Line → Prop
  | .pair entry => entry.value.Keyed
  | .table _ | .element _ => True

theorem yields_line : Yields (fun read => ∀ line ∈ read, Line.Keyed line) Toml.line := by
  intro cs written rest read
  unfold Toml.line at read
  split at read
  · cases read
  · obtain ⟨_, -, eq⟩ := Option.map_eq_some_iff.1 read
    cases eq
    simp
  · cases read
    simp
  · obtain ⟨_, -, eq⟩ := Option.map_eq_some_iff.1 read
    cases eq
    simp
  · obtain ⟨⟨line, left⟩, read_header, read⟩ := Option.bind_eq_some_iff.1 read
    obtain ⟨left, -, read⟩ := Option.bind_eq_some_iff.1 read
    cases read
    rintro _ ⟨⟩
    unfold header at read_header
    split at read_header
    · obtain ⟨⟨path, left⟩, -, read⟩ := Option.bind_eq_some_iff.1 read_header
      obtain ⟨left, -, read⟩ := Option.bind_eq_some_iff.1 read
      cases read
      exact trivial
    · obtain ⟨⟨path, left⟩, -, read⟩ := Option.bind_eq_some_iff.1 read_header
      obtain ⟨left, -, read⟩ := Option.bind_eq_some_iff.1 read
      cases read
      exact trivial
    · cases read_header
  · obtain ⟨⟨pair, left⟩, read_pair, read⟩ := Option.bind_eq_some_iff.1 read
    obtain ⟨left, -, read⟩ := Option.bind_eq_some_iff.1 read
    cases read
    rintro _ ⟨⟩
    exact yields_pair (yields_value _) _ _ _ read_pair

theorem keyed_next {draft draft' : Draft} {line : Line} (keyed : draft.tree.Keyed)
    (plain : line.Keyed) (next : draft.next? line = some draft') : draft'.tree.Keyed := by
  cases line with
  | pair pair =>
    obtain ⟨tree, assigned, rfl⟩ := Option.map_eq_some_iff.1 next
    exact keyed_assign keyed plain assigned
  | table path =>
    obtain ⟨tree, opened, rfl⟩ := Option.map_eq_some_iff.1 next
    exact keyed_open keyed opened
  | element path =>
    obtain ⟨tree, extended, rfl⟩ := Option.map_eq_some_iff.1 next
    exact keyed_extend keyed extended

theorem keyed_lines {text : String} {lines : List Line} (read : lines? text = some lines) :
    ∀ line ∈ lines, line.Keyed := by
  have lines_keyed (cs : List Char) : ∀ line ∈ (many Toml.line cs).1.filterMap id, line.Keyed := by
    intro line member
    obtain ⟨_, inside, rfl⟩ := List.mem_filterMap.1 member
    exact yields_line.many cs _ inside line rfl
  simp only [lines?, Option.ite_none_right_eq_some] at read
  obtain ⟨-, read⟩ := read
  cases read
  exact lines_keyed _

/-- No table of a document has a key twice. -/
theorem keyed_read {text : String} {entries : Entries} (read : read? text = some entries) :
    (Value.table entries).Keyed := by
  obtain ⟨lines, read_lines, read⟩ := Option.bind_eq_some_iff.1 read
  obtain ⟨draft, built, read⟩ := Option.bind_eq_some_iff.1 read
  cases read
  have empty : Tree.empty.Keyed := keyed_empty .header
  refine keyed_values (foldlM_keeps (fun draft : Draft => draft.tree.Keyed)
    (fun line member _ _ keyed next => ?_) empty built)
  exact keyed_next keyed (keyed_lines read_lines line member) next

theorem mem_entries_iff {text key : String} {entries : Entries} {value : Value}
    (read : read? text = some entries) :
    (key, value) ∈ entries ↔ entries.lookup key = some value := by
  cases keyed_read read with
  | table once => exact Entries.mem_iff_lookup once

theorem keyed_of_mem {text key : String} {entries : Entries} {value : Value}
    (read : read? text = some entries) (member : (key, value) ∈ entries) : value.Keyed := by
  cases keyed_read read with
  | table _ all => exact all _ member

end Scans

end KeyRotation.Toml
