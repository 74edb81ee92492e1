import Mathlib
import KeyRotation.Proofs.Markup
import KeyRotation.Proofs.Spelling
import KeyRotation.Client

/-! The document of a status reply, and what is decoded of it. Whatever the order in which an
authority lists its keys, the state of them that it writes is the one that is read. -/
namespace KeyRotation

namespace VersionTable

theorem eq_of_entries {a b : VersionTable} (same : a.entries = b.entries) : a = b := by
  cases a
  cases b
  cases same
  rfl

theorem place_perm {version : KeyVersion} {status : KeyStatus}
    {entries : List (KeyVersion × KeyStatus)} (fresh : ∀ entry ∈ entries, entry.1 ≠ version) :
    (place version status entries).Perm ((version, status) :: entries) := by
  induction entries with
  | nil => exact .refl _
  | cons entry rest ih =>
    obtain ⟨v, s⟩ := entry
    obtain ⟨other, others⟩ := List.forall_mem_cons.1 fresh
    unfold place
    split
    · exact .refl _
    split
    · exact ((ih others).cons _).trans (.swap _ _ _)
    next notBefore notAfter =>
      exact absurd (Int64.le_antisymm (Int64.not_lt.1 notBefore) (Int64.not_lt.1 notAfter)) other

def insertAll (table : VersionTable) (entries : List (KeyVersion × KeyStatus)) : VersionTable :=
  entries.foldl (fun table entry => table.insert entry.1 entry.2) table

theorem insertAll_perm {table : VersionTable} {entries : List (KeyVersion × KeyStatus)}
    (distinct : (entries.map Prod.fst).Nodup)
    (fresh : ∀ entry ∈ entries, ∀ old ∈ table.entries, old.1 ≠ entry.1) :
    (table.insertAll entries).entries.Perm (entries ++ table.entries) := by
  induction entries generalizing table with
  | nil => exact .refl _
  | cons entry rest ih =>
    obtain ⟨new, others⟩ := List.nodup_cons.1 distinct
    obtain ⟨first, later⟩ := List.forall_mem_cons.1 fresh
    have placed := @place_perm entry.1 entry.2 _ first
    have still : ∀ next ∈ rest, ∀ old ∈ (table.insert entry.1 entry.2).entries,
        old.1 ≠ next.1 := by
      intro next among old member same
      rcases List.mem_cons.1 (placed.mem_iff.1 member) with rfl | member
      · exact new (same ▸ List.mem_map_of_mem among)
      · exact later next among old member same
    exact (ih others still).trans ((placed.append_left rest).trans List.perm_middle)

/-- A table is what its entries make, whatever their order. -/
theorem insertAll_empty {table : VersionTable} {entries : List (KeyVersion × KeyStatus)}
    (same : entries.Perm table.entries) : empty.insertAll entries = table := by
  have distinct : (entries.map Prod.fst).Nodup := by
    rw [(same.map Prod.fst).nodup_iff, List.Nodup, List.pairwise_map]
    exact table.ascending.imp Int64.ne_of_lt
  have made : (empty.insertAll entries).entries.Perm table.entries := by
    have perm := @insertAll_perm empty entries distinct fun _ _ _ old => nomatch old
    exact (perm.trans (by simp [empty])).trans same
  exact eq_of_entries (made.eq_of_pairwise
    (fun a b _ _ before after => absurd before (Int64.lt_asymm after))
    (empty.insertAll entries).ascending table.ascending)

end VersionTable

def KeyInventory.setTable (keys : KeyInventory) (kind : KeyKind) (table : VersionTable) :
    KeyInventory :=
  match kind with
  | .kek => { keys with keks := table }
  | .hmac => { keys with hmacs := table }

namespace Reply

open Text (Trimmed)
open Xml (Attribute Element Legible Node Unprefixed isChar isSpace)

def parent (name : String) (elements : List Element) : Element :=
  ⟨⟨none, name⟩, [], elements.map Element.toNode⟩

def field (name text : String) : Element := ⟨⟨none, name⟩, [], [.text text]⟩

def optional (name : String) (text : Option String) : List Element :=
  (text.map (field name)).toList

def datum (name value : String) : Attribute := ⟨⟨none, name⟩, value⟩

/-- The element of a key. Only keys of a kind that waits for a confirmation tell of one. -/
def keyElement (kind : KeyKind) (entry : KeyVersion × KeyStatus) : Element where
  name := ⟨none, kind.tag⟩
  attributes :=
    datum "version" (toString entry.1) :: datum "valid" (toString entry.2.valid) ::
      ((if kind.needsCheck then [datum "checked" (toString entry.2.checked)] else []) ++
        (entry.2.count.map fun count => datum "count" (toString count)).toList)

def listElement (kind : KeyKind) (entries : List (KeyVersion × KeyStatus)) : Element :=
  parent (listName kind) (entries.map (keyElement kind))

/-- The document of a status reply, with the keys of each kind in an order. -/
def statusDocument (keys : KeyInventory) (order : KeyKind → List (KeyVersion × KeyStatus)) :
    Element :=
  parent "result" (optional "status" (some "success") ++ optional "keyapi_state" keys.state ++
    optional "kek_version" (keys.activeKek.map toString) ++
    optional "hmac_version" (keys.activeHmac.map toString) ++
    optional "target_kek_version" (keys.targetKek.map toString) ++
    [listElement .kek (order .kek), listElement .hmac (order .hmac)])

theorem ok_bind {α β : Type} (value : α) (next : α → Except Fault β) :
    (Except.ok value >>= next) = next value := rfl

section Fields

variable {e : Element} {name : String}

theorem childrenNamed_parent (root : String) (elements : List Element) (name : String) :
    (parent root elements).childrenNamed name = elements.filter (·.name.base == name) := by
  have inside : (elements.map Element.toNode).filterMap Node.element? = elements := by
    rw [List.filterMap_map]
    exact List.filterMap_some
  rw [Element.childrenNamed, parent, inside]

@[simp] theorem child?_parent (root : String) (elements : List Element) (name : String) :
    (parent root elements).child? name = elements.find? (·.name.base == name) := by
  rw [Element.child?, childrenNamed_parent, List.head?_filter]

@[simp] theorem base_listElement (kind : KeyKind) (entries : List (KeyVersion × KeyStatus)) :
    (listElement kind entries).name.base = listName kind := rfl

@[simp] theorem find?_optional (other : String) (text : Option String) (name : String) :
    (optional other text).find? (·.name.base == name) =
      if other = name then text.map (field other) else none := by
  cases text <;> by_cases same : other = name <;> simp [optional, field, same]

theorem fieldText?_eq {text : Option String} (found : e.child? name = text.map (field name))
    (trimmed : ∀ content ∈ text, Trimmed content) : fieldText? e name = text := by
  cases text with
  | none => simp [fieldText?, found]
  | some text =>
    have whole := (trimmed text rfl).trim_eq
    have filled := (trimmed text rfl).filled
    simp [fieldText?, found, field, Element.leadingText?, whole, filled]

theorem number_eq_ok {version : Option KeyVersion}
    (found : fieldText? e name = version.map toString) :
    number Text.int64? e name = .ok version := by
  cases version with
  | none => simp [number, found]
  | some version => simp [number, found, Text.int64?_toString]

end Fields

section Keys

theorem attribute?_cons (root : Xml.Name) (name other value : String) (rest : List Attribute)
    (children : List Node) :
    Element.attribute? ⟨root, datum other value :: rest, children⟩ name =
      if other = name then some value else Element.attribute? ⟨root, rest, children⟩ name := by
  by_cases same : other = name <;> simp [Element.attribute?, datum, same]

theorem attribute?_nil (root : Xml.Name) (name : String) (children : List Node) :
    Element.attribute? ⟨root, [], children⟩ name = none := rfl

theorem flag_eq {e : Element} {name : String} {b : Bool}
    (found : e.attribute? name = some (toString b)) (absent : Bool) : flag e name absent = b := by
  cases b <;> simp only [flag, found] <;> decide

/-- A key is read as it is written; that an HMAC key was confirmed is not written. -/
theorem key_keyElement {kind : KeyKind} {entry : KeyVersion × KeyStatus}
    (unchecked : kind = .hmac → entry.2.checked = false) :
    key kind (keyElement kind entry) = .ok entry := by
  obtain ⟨version, valid, checked, count⟩ := entry
  let e := keyElement kind ⟨version, valid, checked, count⟩
  have told : Reply.version e = .ok version := by
    have whole := (Text.trimmed_toString_int64 version).trim_eq
    simp [e, Reply.version, keyElement, attribute?_cons, whole, Text.int64?_toString]
  have number : Reply.count e = .ok count := by
    cases count <;> cases kind <;>
      simp [e, Reply.count, keyElement, attribute?_cons, attribute?_nil, KeyKind.needsCheck,
        (Text.trimmed_toString_uint64 _).trim_eq, Text.uint64?_toString]
  have usable (absent : Bool) : flag e "valid" absent = valid := by
    refine flag_eq ?_ absent
    simp [e, keyElement, attribute?_cons]
  change key kind e = _
  cases kind with
  | kek =>
    have confirmed : flag e "checked" false = checked := by
      refine flag_eq ?_ false
      simp [e, keyElement, attribute?_cons, KeyKind.needsCheck]
    rw [key, told, number, usable false, confirmed]
    rfl
  | hmac =>
    have still : checked = false := unchecked rfl
    rw [key, told, number, usable true, still]
    rfl

theorem collect_eq {kind : KeyKind} {entries : List (KeyVersion × KeyStatus)}
    (unchecked : kind = .hmac → ∀ entry ∈ entries, entry.2.checked = false)
    (keys : KeyInventory) :
    collect kind keys (entries.map (keyElement kind)) =
      .ok (keys.setTable kind ((keys.table kind).insertAll entries)) := by
  induction entries generalizing keys with
  | nil => cases kind <;> rfl
  | cons entry rest ih =>
    have decoded := key_keyElement fun hmac => unchecked hmac entry List.mem_cons_self
    have others := ih (fun hmac later member =>
      unchecked hmac later (List.mem_cons_of_mem _ member)) (keys.insert kind entry.1 entry.2)
    rw [List.map_cons, collect, decoded]
    refine others.trans ?_
    cases kind <;> rfl

/-- A table that is written in any order is the one that is read. -/
theorem collect_table {kind : KeyKind} {entries : List (KeyVersion × KeyStatus)}
    {table : VersionTable} (lists : entries.Perm table.entries)
    (unchecked : kind = .hmac → ∀ entry ∈ table.entries, entry.2.checked = false)
    {keys : KeyInventory} (bare : keys.table kind = .empty) :
    collect kind keys (entries.map (keyElement kind)) = .ok (keys.setTable kind table) := by
  rw [collect_eq fun hmac entry member => unchecked hmac entry (lists.mem_iff.1 member), bare,
    VersionTable.insertAll_empty lists]

theorem listed_statusDocument (keys : KeyInventory)
    (order : KeyKind → List (KeyVersion × KeyStatus)) (kind : KeyKind) :
    listed (statusDocument keys order) kind = (order kind).map (keyElement kind) := by
  have found : (statusDocument keys order).child? (listName kind) =
      some (listElement kind (order kind)) := by
    cases kind <;> simp [statusDocument, listName]
  have all : (listElement kind (order kind)).childrenNamed kind.tag =
      (order kind).map (keyElement kind) := by
    rw [listElement, childrenNamed_parent, List.filter_eq_self]
    intro e member
    obtain ⟨entry, -, rfl⟩ := List.mem_map.1 member
    simp [keyElement]
  rw [listed, found]
  exact all

end Keys

/-- The state of the keys is decoded as it was put into a document. -/
theorem status_statusDocument {keys : KeyInventory}
    {order : KeyKind → List (KeyVersion × KeyStatus)}
    (lists : ∀ kind, (order kind).Perm (keys.entries kind))
    (unchecked : ∀ entry ∈ keys.entries .hmac, entry.2.checked = false)
    (trimmed : ∀ state ∈ keys.state, Trimmed state) :
    status (statusDocument keys order) = .ok keys := by
  let root := statusDocument keys order
  have success : fieldText? root "status" = some "success" := by
    refine fieldText?_eq ?_ ?_
    · simp [root, statusDocument]
    · rintro _ ⟨⟩
      exact ⟨by decide, by simp [Text.isBlank], by simp [Text.isBlank]⟩
  have state : fieldText? root "keyapi_state" = keys.state := by
    refine fieldText?_eq ?_ trimmed
    simp [root, statusDocument, listName]
  have version : ∀ {name : String} {version : Option KeyVersion}, (name, version) ∈
      [("kek_version", keys.activeKek), ("hmac_version", keys.activeHmac),
        ("target_kek_version", keys.targetKek)] →
      number Text.int64? root name = .ok version := by
    intro name version among
    refine number_eq_ok (fieldText?_eq ?_ ?_)
    · simp only [List.mem_cons, Prod.mk.injEq, List.not_mem_nil, or_false] at among
      rcases among with ⟨rfl, rfl⟩ | ⟨rfl, rfl⟩ | ⟨rfl, rfl⟩ <;>
        simp [root, statusDocument, listName]
    · simpa using fun version _ => Text.trimmed_toString_int64 version
  have sound : checked root = .ok root := by
    have named : root.name.base = "result" := rfl
    simp [checked, named, success]
  let bare : KeyInventory := { keys with keks := .empty, hmacs := .empty }
  have keks : collect .kek bare (listed root .kek) = .ok { bare with keks := keys.keks } := by
    have other : KeyKind.kek = .hmac → ∀ entry ∈ keys.keks.entries, entry.2.checked = false := by
      intro same
      cases same
    rw [listed_statusDocument]
    exact collect_table (lists .kek) other rfl
  have hmacs : collect .hmac { bare with keks := keys.keks } (listed root .hmac) = .ok keys := by
    rw [listed_statusDocument]
    exact collect_table (lists .hmac) (fun _ => unchecked) rfl
  have activeKek := version (show ("kek_version", keys.activeKek) ∈ _ by simp)
  have activeHmac := version (show ("hmac_version", keys.activeHmac) ∈ _ by simp)
  have targetKek := version (show ("target_kek_version", keys.targetKek) ∈ _ by simp)
  change status root = _
  simp only [status, sound, ok_bind, activeKek, activeHmac, targetKek, state]
  rw [keks]
  exact hmacs

section Written

/-- The names in the documents of status replies. -/
def names : List String :=
  ["result", "status", "keyapi_state", "kek_version", "hmac_version", "target_kek_version",
    "master_keys", "hmac_keys", "kek", "hmac", "version", "valid", "checked", "count"]

theorem unprefixed_of_mem_names {name : String} (member : name ∈ names) : Unprefixed name := by
  have words : ∀ name ∈ names, name ≠ "" ∧ name ≠ "xmlns" ∧
      name.toList.all (fun c => c.isLower || c == '_') = true := by
    decide
  obtain ⟨filled, free, lower⟩ := words name member
  exact Xml.unprefixed_of_lower filled free lower

/-- Characters that stand in an attribute as they do in text. -/
def Bare (text : String) : Prop :=
  ∀ c ∈ text.toList, isChar c = true ∧ c ≠ '"' ∧ isSpace c = false

theorem bare_toString (n : Int) : Bare (toString n) := by
  intro c member
  rcases Text.sign_or_digit_of_mem member with rfl | digit
  · decide
  · obtain ⟨low, high⟩ := Char.isDigit_iff_toNat.1 digit
    change 48 ≤ c.toNat at low
    change c.toNat ≤ 57 at high
    have other {x : Char} (less : x.toNat < 48) : c ≠ x := by
      rintro rfl
      omega
    refine ⟨?_, other (by decide), ?_⟩
    · rw [isChar, if_neg (by omega)]
      simp
      omega
    · simp [isSpace, other (show ' '.toNat < 48 by decide), other (show '\t'.toNat < 48 by decide),
        other (show '\n'.toNat < 48 by decide), other (show '\r'.toNat < 48 by decide)]

theorem bare_toString_bool (b : Bool) : Bare (toString b) := by
  have words : Bare "false" ∧ Bare "true" := by simp [Bare, isChar, isSpace]
  cases b
  · exact words.1
  · exact words.2

theorem plain_datum {name value : String} (named : name ∈ names) (bare : Bare value) :
    (datum name value).Plain where
  space := rfl
  named := unprefixed_of_mem_names named
  chars c member := by
    obtain ⟨char, quote, space⟩ := bare c member
    exact ⟨char, quote, fun white => by simp [space] at white⟩

theorem plain_field {name text : String} (named : name ∈ names) (legible : Legible text) :
    (field name text).toNode.Plain := by
  have inside : (Node.text text).Plain := .text legible
  refine .element (unprefixed_of_mem_names named) nofun .nil ?_ (.singleton _)
  exact List.forall_mem_singleton.2 inside

theorem plain_parent {name : String} {elements : List Element} (named : name ∈ names)
    (inside : ∀ e ∈ elements, e.toNode.Plain) : (parent name elements).toNode.Plain :=
  Xml.plain_of_elements (unprefixed_of_mem_names named) nofun .nil inside

theorem plain_keyElement (kind : KeyKind) (entry : KeyVersion × KeyStatus) :
    (keyElement kind entry).toNode.Plain := by
  obtain ⟨version, valid, checked, count⟩ := entry
  have plain : ∀ a ∈ (keyElement kind ⟨version, valid, checked, count⟩).attributes, a.Plain := by
    refine List.forall_mem_cons.2 ⟨plain_datum (by decide) (bare_toString version.toInt), ?_⟩
    refine List.forall_mem_cons.2 ⟨plain_datum (by decide) (bare_toString_bool valid), ?_⟩
    refine List.forall_mem_append.2 ⟨?_, ?_⟩
    · split
      · exact List.forall_mem_singleton.2 (plain_datum (by decide) (bare_toString_bool checked))
      · nofun
    · cases count with
      | none => nofun
      | some count =>
        exact List.forall_mem_singleton.2 (plain_datum (by decide) (bare_toString count.toNat))
  have distinct : (keyElement kind ⟨version, valid, checked, count⟩).attributes.Pairwise
      fun a b => a.name ≠ b.name := by
    cases kind <;> cases count <;> simp [keyElement, datum, KeyKind.needsCheck]
  have named : kind.tag ∈ names := by cases kind <;> simp [names, KeyKind.tag]
  exact .element (unprefixed_of_mem_names named) plain distinct nofun .nil

theorem plain_listElement (kind : KeyKind) (entries : List (KeyVersion × KeyStatus)) :
    (listElement kind entries).toNode.Plain := by
  have named : listName kind ∈ names := by cases kind <;> simp [names, listName]
  exact plain_parent named (List.forall_mem_map.2 fun entry _ => plain_keyElement kind entry)

/-- Of an optional field only its text can keep it from being plain. -/
theorem plain_optional {name : String} {text : Option String} (named : name ∈ names)
    (legible : ∀ content ∈ text, Legible content) :
    ∀ e ∈ optional name text, e.toNode.Plain := by
  cases text with
  | none => nofun
  | some text => exact List.forall_mem_singleton.2 (plain_field named (legible text rfl))

theorem plain_optional_version {name : String} (version : Option KeyVersion)
    (named : name ∈ names) : ∀ e ∈ optional name (version.map toString), e.toNode.Plain := by
  refine plain_optional named fun content told => ?_
  obtain ⟨version, -, rfl⟩ := Option.map_eq_some_iff.1 told
  refine ⟨(Text.trimmed_toString_int64 version).filled, fun c member => ?_⟩
  obtain ⟨char, -, space⟩ := bare_toString version.toInt c member
  refine ⟨char, ?_⟩
  rintro rfl
  cases space

theorem plain_statusDocument {keys : KeyInventory}
    (order : KeyKind → List (KeyVersion × KeyStatus))
    (state : ∀ text ∈ keys.state, Legible text) : (statusDocument keys order).toNode.Plain := by
  have success : ∀ text ∈ some "success", Legible text := by
    rintro _ ⟨⟩
    exact ⟨by decide, by simp [isChar]⟩
  refine plain_parent (by decide) ?_
  simp only [List.forall_mem_append]
  refine ⟨⟨⟨⟨⟨plain_optional (by decide) success, plain_optional (by decide) state⟩,
    plain_optional_version _ (by decide)⟩, plain_optional_version _ (by decide)⟩,
    plain_optional_version _ (by decide)⟩, ?_⟩
  exact List.forall_mem_cons.2 ⟨plain_listElement .kek _,
    List.forall_mem_singleton.2 (plain_listElement .hmac _)⟩

end Written

/-- Decoding a status reply undoes writing it. From the text of its document, whatever the order
of each list, comes all that was known of the keys: no HMAC key may have been confirmed, and the
authority's own state, if there is one, is text that a document can hold as it is, with no white
space around it. -/
theorem readStatus_write_statusDocument {keys : KeyInventory}
    {order : KeyKind → List (KeyVersion × KeyStatus)}
    (lists : ∀ kind, (order kind).Perm (keys.entries kind))
    (unchecked : ∀ entry ∈ keys.entries .hmac, entry.2.checked = false)
    (trimmed : ∀ state ∈ keys.state, Trimmed state)
    (chars : ∀ state ∈ keys.state, ∀ c ∈ state.toList, isChar c = true ∧ c ≠ '\r') :
    readStatus (statusDocument keys order).write = .ok keys := by
  have plain := plain_statusDocument order fun text found =>
    ⟨(trimmed text found).filled, chars text found⟩
  rw [readStatus, document, Xml.read?_write plain]
  exact status_statusDocument lists unchecked trimmed

/-- Keys of both kinds, with all that can be told of them and with nothing that need not be. -/
def stocked : KeyInventory where
  keks := ⟨[(-4, ⟨true, false, some 1200⟩), (5, ⟨true, true, none⟩)], by decide⟩
  hmacs := ⟨[(2, ⟨false, false, some 18446744073709551615⟩)], by decide⟩
  state := some "a < b & c"
  activeKek := some 5

theorem readStatus_stocked :
    let order := fun kind => (stocked.entries kind).reverse
    (statusDocument stocked order).write = "<result><status>success</status>" ++
        "<keyapi_state>a &lt; b &amp; c</keyapi_state><kek_version>5</kek_version>" ++
        "<master_keys><kek version=\"5\" valid=\"true\" checked=\"true\"/>" ++
        "<kek version=\"-4\" valid=\"true\" checked=\"false\" count=\"1200\"/></master_keys>" ++
        "<hmac_keys><hmac version=\"2\" valid=\"false\" count=\"18446744073709551615\"/>" ++
        "</hmac_keys></result>" ∧
      readStatus (statusDocument stocked order).write = .ok stocked := by
  intro order
  refine ⟨String.toList_inj.1 ?_,
    readStatus_write_statusDocument (fun kind => List.reverse_perm _) ?_ ?_ ?_⟩
  · simp only [Element.write, String.toList_ofList, String.toList_append]
    decide +kernel
  · decide
  · rintro _ ⟨⟩
    exact ⟨by decide, by simp [Text.isBlank], by simp [Text.isBlank]⟩
  · rintro _ ⟨⟩
    simp [isChar]

end Reply
end KeyRotation
