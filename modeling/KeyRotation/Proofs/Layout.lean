import Mathlib
import KeyRotation.Proofs.Inventory
import KeyRotation.Proofs.Listing

/-! What does not matter in a reply. A decoder looks for its fields by their names, so whatever
else stands between them is passed over, and fields that are there once may stand in any order,
as may keys of different versions. -/
namespace KeyRotation

namespace VersionTable

/-- A table is what it tells of each version. -/
theorem eq_of_get? {a b : VersionTable} (same : ∀ version, a.get? version = b.get? version) :
    a = b := by
  have asymm : Std.Asymm fun first second : KeyVersion × KeyStatus => first.1 < second.1 :=
    ⟨fun _ _ => Int64.lt_asymm⟩
  have members : ∀ entry, entry ∈ a.entries ↔ entry ∈ b.entries := by
    rintro ⟨version, status⟩
    rw [mem_iff_get?, mem_iff_get?, same]
  exact eq_of_entries (a.ascending.eq_of_mem_iff b.ascending members)

theorem insert_comm (table : VersionTable) {version other : KeyVersion} (apart : version ≠ other)
    (status state : KeyStatus) : (table.insert version status).insert other state =
      (table.insert other state).insert version status := by
  apply eq_of_get?
  intro wanted
  simp only [get?_insert]
  by_cases first : wanted = version
  · have second : wanted ≠ other := first ▸ apart
    rw [if_neg second, if_pos first, if_pos first]
  · rw [if_neg first, if_neg first]

end VersionTable

theorem KeyInventory.insert_comm (keys : KeyInventory) (kind : KeyKind)
    {version other : KeyVersion} (apart : version ≠ other) (status state : KeyStatus) :
    (keys.insert kind version status).insert kind other state =
      (keys.insert kind other state).insert kind version status := by
  cases kind <;> simp only [KeyInventory.insert, VersionTable.insert_comm _ apart]

namespace Reply

open Xml (Element Node)

/-- The names that a decoder looks for, among the children of the root and among those of an
element there that lists keys. -/
structure Search where
  fields : List String
  entries : KeyKind → List String
  complete : ∀ kind, listName kind ∈ fields → kind.tag ∈ entries kind

def statusSearch : Search where
  fields := ["status", "keyapi_state", "kek_version", "hmac_version", "target_kek_version",
    "master_keys", "hmac_keys"]
  entries kind := [kind.tag]
  complete _ _ := List.mem_cons_self

def outcomeSearch : Search where
  fields := ["status", "converted", "failed"]
  entries _ := []
  complete kind := by cases kind <;> decide

/-- A node that none of the names finds. It is an element with another name, or none at all. -/
def Foreign (names : List String) (node : Node) : Prop := ∀ e ∈ node.element?, e.name.base ∉ names

/-- The same nodes with a foreign one somewhere between. -/
inductive Inserted (names : List String) : List Node → List Node → Prop where
  | intro {before after : List Node} {node : Node} (foreign : Foreign names node) :
      Inserted names (before ++ after) (before ++ node :: after)

/-- A change to the children of the root, or to those of an element there that lists keys. -/
inductive Edited (search : Search) (change : List String → List Node → List Node → Prop) :
    Element → Element → Prop where
  | fields {e : Element} {children : List Node}
      (changed : change search.fields e.children children) :
      Edited search change e { e with children }
  | keys {e list : Element} {kind : KeyKind} {before after children : List Node}
      (inside : e.children = before ++ list.toNode :: after)
      (named : list.name.base = listName kind)
      (changed : change (search.entries kind) list.children children) :
      Edited search change e
        { e with children := before ++ { list with children }.toNode :: after }

/-- Any number of foreign nodes, at both levels. -/
def Padded (search : Search) : Element → Element → Prop :=
  Relation.ReflTransGen (Edited search Inserted)

/-- A foreign node more, or another order. -/
def Loosely (names : List String) (first second : List Node) : Prop :=
  Inserted names first second ∨ first.Perm second

/-- Any number of foreign nodes, and any order of the nodes at both levels. -/
def Rearranged (search : Search) : Element → Element → Prop :=
  Relation.ReflTransGen (Edited search Loosely)

/-- None of the fields is there twice. -/
def Once (search : Search) (root : Element) : Prop :=
  ∀ name ∈ search.fields, (root.childrenNamed name).length ≤ 1

instance (search : Search) (root : Element) : Decidable (Once search root) :=
  inferInstanceAs (Decidable (∀ name ∈ search.fields, _))

/-- Two entries are for no version both. -/
def Apart (first second : Element) : Prop := ∀ version, HasVersion version first →
  ¬HasVersion version second

def DistinctVersions (root : Element) : Prop := ∀ kind, (listed root kind).Pairwise Apart

theorem HasVersion.apart {version other : KeyVersion} {first second : Element}
    (has : HasVersion version first) (again : HasVersion other second) (differ : version ≠ other) :
    Apart first second := by
  intro wanted same alike
  exact differ ((has.unique same).trans (alike.unique again))

theorem Apart.symm {first second : Element} (apart : Apart first second) : Apart second first :=
  fun version has again => apart version again has

section Matching

variable {names : List String} {name : String}

def matching (nodes : List Node) (name : String) : List Element :=
  (nodes.filterMap Node.element?).filter (·.name.base == name)

theorem childrenNamed_eq (e : Element) : e.childrenNamed name = matching e.children name := rfl

theorem matching_append (first second : List Node) :
    matching (first ++ second) name = matching first name ++ matching second name := by
  simp [matching]

theorem matching_around (e : Element) (before after : List Node) :
    matching (before ++ e.toNode :: after) name = matching before name ++
      ((if e.name.base = name then [e] else []) ++ matching after name) := by
  by_cases same : e.name.base = name <;>
    simp [matching, Element.toNode, Node.element?, same]

theorem matching_of_foreign {node : Node} (foreign : Foreign names node) (known : name ∈ names)
    (nodes : List Node) : matching (node :: nodes) name = matching nodes name := by
  cases node with
  | element base attributes children =>
    have other : base.base ≠ name := by
      rintro rfl
      exact foreign _ rfl known
    simp [matching, Node.element?, other]
  | text | comment | instruction => rfl

theorem matching_of_inserted {nodes more : List Node} (inserted : Inserted names nodes more)
    (known : name ∈ names) : matching more name = matching nodes name := by
  obtain ⟨foreign⟩ := inserted
  rw [matching_append, matching_of_foreign foreign known, matching_append]

theorem matching_perm {nodes others : List Node} (perm : nodes.Perm others) :
    (matching nodes name).Perm (matching others name) :=
  (perm.filterMap _).filter _

theorem matching_of_perm {nodes others : List Node} (perm : nodes.Perm others)
    (once : (matching nodes name).length ≤ 1) : matching others name = matching nodes name := by
  have same := @matching_perm name _ _ perm
  generalize matching nodes name = before at same once
  match before, once with
  | [], _ => exact same.nil_eq.symm
  | [e], _ => exact (List.singleton_perm.1 same).symm

end Matching

/-- What a decoder sees is the same in two documents, as far as it does not depend on the entries
for keys; these are compared. -/
structure Seen (search : Search) (compare : List Element → List Element → Prop)
    (first second : Element) : Prop where
  name : second.name = first.name
  count : ∀ name ∈ search.fields,
    (second.childrenNamed name).length = (first.childrenNamed name).length
  field : ∀ name ∈ search.fields, name ∉ [listName .kek, listName .hmac] →
    second.child? name = first.child? name
  keys : ∀ kind, listName kind ∈ search.fields → compare (listed first kind) (listed second kind)

namespace Seen

variable {search : Search} {compare : List Element → List Element → Prop}
  {first second third : Element}

theorem refl (e : Equivalence compare) (root : Element) : Seen search compare root root :=
  ⟨rfl, fun _ _ => rfl, fun _ _ _ => rfl, fun _ _ => e.refl _⟩

theorem trans (e : Equivalence compare) (one : Seen search compare first second)
    (two : Seen search compare second third) : Seen search compare first third where
  name := two.name.trans one.name
  count name known := (two.count name known).trans (one.count name known)
  field name known plain := (two.field name known plain).trans (one.field name known plain)
  keys kind known := e.trans (one.keys kind known) (two.keys kind known)

theorem once (seen : Seen search compare first second) (once : Once search first) :
    Once search second := by
  intro name known
  rw [seen.count name known]
  exact once name known

end Seen

section Step

variable {search : Search} {compare : List Element → List Element → Prop}
  {change : List String → List Node → List Node → Prop} {first second : Element}

theorem listName_injective {kind other : KeyKind} (same : listName kind = listName other) :
    kind = other := by
  cases kind <;> cases other <;> first | rfl | exact absurd same (by decide)

/-- One change. Among the children of the root it must not touch what is found; among those of a
list, what is found there is compared. -/
theorem seen_of_edited (e : Equivalence compare) (edited : Edited search change first second)
    (fields : ∀ {children}, change search.fields first.children children →
      ∀ name ∈ search.fields, matching children name = matching first.children name)
    (keys : ∀ {kind nodes others}, kind.tag ∈ search.entries kind →
      change (search.entries kind) nodes others →
      compare (matching nodes kind.tag) (matching others kind.tag)) :
    Seen search compare first second := by
  cases edited with
  | @fields children changed =>
    have same := fields changed
    refine ⟨rfl, fun name known => congrArg List.length (same name known), ?_, ?_⟩
    · intro name known _
      exact congrArg List.head? (same name known)
    · intro kind known
      have child : Element.child? { first with children } (listName kind) =
          first.child? (listName kind) := congrArg List.head? (same _ known)
      rw [listed, listed, child]
      exact e.refl _
  | @keys list kind before after children inside named changed =>
    let other : Element := { list with children }
    have old (name : String) : first.childrenNamed name = matching before name ++
        ((if list.name.base = name then [list] else []) ++ matching after name) := by
      rw [childrenNamed_eq, inside, matching_around]
    have new (name : String) : Element.childrenNamed
        { first with children := before ++ other.toNode :: after } name = matching before name ++
        ((if list.name.base = name then [other] else []) ++ matching after name) := by
      rw [childrenNamed_eq, matching_around]
    refine ⟨rfl, ?_, ?_, ?_⟩
    · intro name known
      rw [old, new]
      by_cases same : list.name.base = name <;> simp [same]
    · intro name known plain
      have apart : list.name.base ≠ name := by
        rintro rfl
        rw [named] at plain
        cases kind <;> simp at plain
      rw [Element.child?, Element.child?, old, new, if_neg apart, if_neg apart]
    · intro wanted known
      rw [listed, listed, Element.child?, Element.child?, old, new]
      by_cases same : list.name.base = listName wanted
      · obtain rfl := listName_injective (named.symm.trans same)
        rw [if_pos same, if_pos same]
        cases matching before (listName kind) with
        | nil => exact keys (search.complete kind known) changed
        | cons => exact e.refl _
      · rw [if_neg same, if_neg same]
        exact e.refl _

theorem seen_of_inserted (edited : Edited search Inserted first second) :
    Seen search Eq first second := by
  apply seen_of_edited eq_equivalence edited
  · intro children inserted name known
    exact matching_of_inserted inserted known
  · intro kind nodes others known inserted
    exact (matching_of_inserted inserted known).symm

theorem seen_of_loosely (once : Once search first) (edited : Edited search Loosely first second) :
    Seen search List.Perm first second := by
  apply seen_of_edited (List.Perm.eqv _) edited
  · rintro children (inserted | perm) name known
    · exact matching_of_inserted inserted known
    · exact matching_of_perm perm (once name known)
  · rintro kind nodes others known (inserted | perm)
    · rw [matching_of_inserted inserted known]
    · exact matching_perm perm

end Step

section Run

variable {search : Search} {first second : Element}

theorem Padded.seen (padded : Padded search first second) : Seen search Eq first second := by
  induction padded with
  | refl => exact .refl eq_equivalence first
  | tail _ edited ih => exact ih.trans eq_equivalence (seen_of_inserted edited)

theorem Rearranged.seen (once : Once search first) (rearranged : Rearranged search first second) :
    Seen search List.Perm first second := by
  induction rearranged with
  | refl => exact .refl (List.Perm.eqv _) first
  | tail _ edited ih => exact ih.trans (List.Perm.eqv _) (seen_of_loosely (ih.once once) edited)

end Run

section Decode

variable {search : Search} {compare : List Element → List Element → Prop}
  {first second : Element}

theorem Seen.fieldText?_eq (seen : Seen search compare first second) {name : String}
    (known : name ∈ search.fields) (plain : name ∉ [listName .kek, listName .hmac]) :
    fieldText? second name = fieldText? first name := by
  rw [fieldText?, fieldText?, seen.field name known plain]

theorem Seen.number_eq (seen : Seen search compare first second) {α : Type}
    (numeral? : String → Option α) {name : String} (known : name ∈ search.fields)
    (plain : name ∉ [listName .kek, listName .hmac]) :
    number numeral? second name = number numeral? first name := by
  rw [number, number, seen.fieldText?_eq known plain]

theorem Seen.checked_eq (seen : Seen search compare first second)
    (known : "status" ∈ search.fields) : checked second = (checked first).map fun _ => second := by
  rw [checked, checked, seen.name, seen.fieldText?_eq known (by decide)]
  split
  · rfl
  split
  · rfl
  split <;> rfl

/-- All that a status reply says but for its keys. -/
def header (root : Element) : Except Fault KeyInventory := do
  let root ← checked root
  let activeKek ← number Text.int64? root "kek_version"
  let activeHmac ← number Text.int64? root "hmac_version"
  let targetKek ← number Text.int64? root "target_kek_version"
  pure { state := fieldText? root "keyapi_state", activeKek, activeHmac, targetKek }

theorem status_eq (root : Element) : status root = header root >>= fun keys =>
    collect .kek keys (listed root .kek) >>= fun keys =>
      collect .hmac keys (listed root .hmac) := by
  unfold status header
  cases passed : checked root with
  | error => rfl
  | ok e =>
    obtain rfl := Reply.checked_eq passed
    simp only [ok_bind, bind_assoc, pure_bind]

theorem Seen.header_eq (seen : Seen statusSearch compare first second) :
    header second = header first := by
  unfold header
  rw [seen.checked_eq (by decide)]
  cases passed : checked first with
  | error => rfl
  | ok e =>
    obtain rfl := Reply.checked_eq passed
    have active : number Text.int64? second "kek_version" = number Text.int64? e "kek_version" :=
      seen.number_eq _ (by decide) (by decide)
    have hmac : number Text.int64? second "hmac_version" = number Text.int64? e "hmac_version" :=
      seen.number_eq _ (by decide) (by decide)
    have target : number Text.int64? second "target_kek_version" =
        number Text.int64? e "target_kek_version" := seen.number_eq _ (by decide) (by decide)
    have state : fieldText? second "keyapi_state" = fieldText? e "keyapi_state" :=
      seen.fieldText?_eq (by decide) (by decide)
    simp only [Except.map, ok_bind, active, hmac, target, state]

/-- Entries for different versions may be taken in in any order. -/
theorem collect_perm {kind : KeyKind} {entries others : List Element}
    (perm : entries.Perm others) (apart : entries.Pairwise Apart) {keys after : KeyInventory}
    (collected : collect kind keys entries = .ok after) :
    collect kind keys others = .ok after := by
  induction perm generalizing keys with
  | nil => exact collected
  | cons e _ ih =>
    obtain ⟨entry, decoded, collected⟩ := exists_of_bind_eq_ok collected
    rw [collect, decoded]
    exact ih (List.pairwise_cons.1 apart).2 collected
  | swap e before rest =>
    obtain ⟨⟨version, status⟩, decoded, collected⟩ := exists_of_bind_eq_ok collected
    obtain ⟨⟨other, state⟩, told, collected⟩ := exists_of_bind_eq_ok collected
    have differ : version ≠ other := by
      rintro rfl
      exact (List.pairwise_cons.1 apart).1 e List.mem_cons_self version (tells_of_key decoded).1
        (tells_of_key told).1
    simp only [collect, told, decoded, ok_bind]
    rw [← KeyInventory.insert_comm keys kind differ]
    exact collected
  | trans one _ ih again =>
    exact again (one.pairwise apart Apart.symm) (ih apart collected)

theorem Seen.outcome_eq (seen : Seen outcomeSearch compare first second) :
    outcome second = outcome first := by
  unfold outcome
  rw [seen.checked_eq (by decide)]
  cases passed : checked first with
  | error => rfl
  | ok e =>
    obtain rfl := Reply.checked_eq passed
    have converted : number Text.uint64? second "converted" = number Text.uint64? e "converted" :=
      seen.number_eq _ (by decide) (by decide)
    have failed : number Text.uint64? second "failed" = number Text.uint64? e "failed" :=
      seen.number_eq _ (by decide) (by decide)
    simp only [Except.map, ok_bind, converted, failed]

theorem Seen.status_eq (seen : Seen statusSearch Eq first second) :
    status second = status first := by
  have keks : listed first .kek = listed second .kek := seen.keys .kek (by decide)
  have hmacs : listed first .hmac = listed second .hmac := seen.keys .hmac (by decide)
  rw [Reply.status_eq, Reply.status_eq, seen.header_eq, keks, hmacs]

theorem Seen.status_eq_ok (seen : Seen statusSearch List.Perm first second)
    (distinct : DistinctVersions first) {keys : KeyInventory} (decoded : status first = .ok keys) :
    status second = .ok keys := by
  rw [Reply.status_eq] at decoded ⊢
  obtain ⟨bare, headed, decoded⟩ := exists_of_bind_eq_ok decoded
  obtain ⟨between, keks, hmacs⟩ := exists_of_bind_eq_ok decoded
  rw [seen.header_eq, headed, ok_bind,
    collect_perm (seen.keys .kek (by decide)) (distinct .kek) keks, ok_bind]
  exact collect_perm (seen.keys .hmac (by decide)) (distinct .hmac) hmacs

end Decode

/-- What a decoder gets from a document does not depend on what it does not look for, wherever
this is put in, nor on the order of what it does. Foreign content never makes a difference, not
even to the fault of a document that is refused. If each field is there once, and each version in
a list, a document that is decoded gives the same in any order. -/
theorem layout_does_not_matter (root other : Element) :
    (∀ body, Xml.read? body = some root →
      readStatus body = status root ∧ readOutcome body = outcome root) ∧
      (Padded statusSearch root other → status other = status root) ∧
      (Padded outcomeSearch root other → outcome other = outcome root) ∧
      (Once statusSearch root → DistinctVersions root → Rearranged statusSearch root other →
        ∀ keys, status root = .ok keys → status other = .ok keys) ∧
      (Once outcomeSearch root → Rearranged outcomeSearch root other →
        outcome other = outcome root) := by
  refine ⟨?_, ?_, ?_, ?_, ?_⟩
  · intro body read
    exact ⟨readStatus_of_read read, readOutcome_of_read read⟩
  · intro padded
    exact padded.seen.status_eq
  · intro padded
    exact padded.seen.outcome_eq
  · intro once distinct rearranged keys decoded
    exact (rearranged.seen once).status_eq_ok distinct decoded
  · intro once rearranged
    exact (rearranged.seen once).outcome_eq

def checkedKey (version : String) : Element where
  name := ⟨none, "kek"⟩
  attributes := [datum "version" version, datum "valid" "true", datum "checked" "true"]

def listing (keys : List Node) : Element where
  name := ⟨none, "result"⟩
  children := [(field "status" "success").toNode, .element ⟨none, "master_keys"⟩ [] keys,
    (field "kek_version" "4").toNode]

def tidy : Element := listing [(checkedKey "4").toNode, (checkedKey "-5").toNode]

/-- The keys and fields of the tidy reply the other way round, with more between them. -/
def untidy : Element where
  name := ⟨none, "result"⟩
  children := [(field "kek_version" "4").toNode, .comment " two keys ",
    .element ⟨none, "master_keys"⟩ [] [(checkedKey "-5").toNode,
      .element ⟨none, "lost"⟩ [datum "version" "4"] [], (checkedKey "4").toNode],
    (field "status" "success").toNode]

theorem edited_listing {keys others : List Node} (changed : Loosely ["kek"] keys others) :
    Edited statusSearch Loosely (listing keys) (listing others) :=
  @Edited.keys _ _ (listing keys) ⟨⟨none, "master_keys"⟩, [], keys⟩ .kek
    [(field "status" "success").toNode] [(field "kek_version" "4").toNode] others rfl rfl changed

/-- The keys change places, the other element comes between them, and so with the fields. -/
theorem rearranged_untidy : Rearranged statusSearch tidy untidy := by
  let old := (checkedKey "4").toNode
  let new := (checkedKey "-5").toNode
  let lost : Node := .element ⟨none, "lost"⟩ [datum "version" "4"] []
  have swapped : Loosely ["kek"] [old, new] [new, old] := .inr (.swap new old [])
  have parted : Loosely ["kek"] [new, old] [new, lost, old] := by
    refine .inl (@Inserted.intro _ [new] [old] lost ?_)
    rintro _ ⟨⟩
    simp
  have turned := (List.reverse_perm (listing [new, lost, old]).children).symm
  have noted : Inserted statusSearch.fields (listing [new, lost, old]).children.reverse
      untidy.children := @Inserted.intro _ [(field "kek_version" "4").toNode] _ _ nofun
  exact .tail (.tail (.tail (.single (edited_listing swapped)) (edited_listing parted))
    (.fields (.inr turned))) (.fields (.inl noted))

theorem untidy_decoded :
    let keys : KeyInventory :=
      { keks := ⟨[(-5, ⟨true, true, none⟩), (4, ⟨true, true, none⟩)], by decide⟩
        activeKek := some 4 }
    Once statusSearch tidy ∧ DistinctVersions tidy ∧ Rearranged statusSearch tidy untidy ∧
      status tidy = .ok keys ∧ status untidy = .ok keys := by
  intro keys
  have once : Once statusSearch tidy := by decide +kernel
  have distinct : DistinctVersions tidy := by
    intro kind
    cases kind with
    | kek =>
      have four : HasVersion 4 (checkedKey "4") := version_eq_ok_iff.1 (by decide +kernel)
      have five : HasVersion (-5) (checkedKey "-5") := version_eq_ok_iff.1 (by decide +kernel)
      exact List.pairwise_pair.2 (four.apart five (by decide))
    | hmac => exact .nil
  have decoded : status tidy = .ok keys := by decide +kernel
  obtain ⟨-, -, -, rearranged, -⟩ := layout_does_not_matter tidy untidy
  exact ⟨once, distinct, rearranged_untidy, decoded,
    rearranged once distinct rearranged_untidy keys decoded⟩

end Reply
end KeyRotation
