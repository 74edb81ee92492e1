import KeyRotation.Proofs.Listing

/-! When records may be moved to a key for tokens. The last entry for its version decides, as it
does for the other kind, but it has to say nothing: such a key can be used as soon as it is listed.
Here is which words of an entry withhold it. -/
namespace KeyRotation.Reply

open Xml (Element)

def Denies (e : Element) (name : String) : Prop :=
  ∃ raw, e.attribute? name = some raw ∧ Text.trim raw = "false"

def Plain (e : Element) (name : String) : Prop :=
  ∀ raw, e.attribute? name = some raw → Text.trim raw = "true" ∨ Text.trim raw = "false"

/-- A key for tokens is ready where it is listed, unless the last entry for it says `false`. -/
def ReadyUnlessDenied (root : Element) (keys : KeyInventory) (version : KeyVersion) : Prop :=
  keys.isReady .hmac version = true ↔
    ∃ e, lastListed? root .hmac version = some e ∧ ¬Denies e "valid"

/-- A flag that is set is not denied, and the other way round where it is one of the two words. -/
theorem set_iff_not_denied {e : Element} {name : String} :
    (Says e name ∨ e.attribute? name = none ↔ ¬Denies e name) ↔ Plain e name := by
  unfold Says Denies Plain
  cases found : e.attribute? name with
  | none => simp
  | some raw =>
    simp only [Option.some.injEq, exists_eq_left', forall_eq', reduceCtorEq, or_false]
    by_cases denied : Text.trim raw = "false"
    · simp [denied]
    · simp [denied]

section Inventory

variable {root : Element} {keys : KeyInventory} {version : KeyVersion}

theorem isReady_hmac_iff (decoded : status root = .ok keys) :
    keys.isReady .hmac version = true ↔ ∃ e, lastListed? root .hmac version = some e ∧
      (Says e "valid" ∨ e.attribute? "valid" = none) := by
  rcases unlisted_or_told decoded .hmac version with
    ⟨unlisted, absent⟩ | ⟨e, state, last, found, tells⟩
  · simp [KeyInventory.isReady, unlisted, absent]
  · simp [KeyInventory.isReady, last, found, KeyStatus.isReady, KeyKind.needsCheck, tells.valid]

theorem readyUnlessDenied_iff (decoded : status root = .ok keys) :
    ReadyUnlessDenied root keys version ↔
      ∀ e, lastListed? root .hmac version = some e → Plain e "valid" := by
  unfold ReadyUnlessDenied
  rw [isReady_hmac_iff decoded]
  cases lastListed? root .hmac version with
  | none => simp
  | some e =>
    simp only [Option.some.injEq, exists_eq_left', forall_eq']
    exact set_iff_not_denied

end Inventory

/-- When a key for tokens is ready, as any status reply has it: when the last entry for its version
has it valid or does not say. This is to be ready unless denied just where that entry, if there is
one, says no other word than `true` or `false`. -/
theorem hmac_ready_iff_listed_valid (root : Element) :
    (∀ body, Xml.read? body = some root → readStatus body = status root) ∧
      ∀ keys, status root = .ok keys → ∀ version,
        (keys.isReady .hmac version = true ↔ ∃ e, lastListed? root .hmac version = some e ∧
          (Says e "valid" ∨ e.attribute? "valid" = none)) ∧
        (ReadyUnlessDenied root keys version ↔
          ∀ e, lastListed? root .hmac version = some e → Plain e "valid") := by
  constructor
  · intro body read
    exact readStatus_of_read read
  · intro keys decoded version
    exact ⟨isReady_hmac_iff decoded, readyUnlessDenied_iff decoded⟩

def tokenKeys (entries : List Xml.Node) : Element where
  name := ⟨none, "result"⟩
  children := [.element ⟨none, "status"⟩ [] [.text "success"],
    .element ⟨none, "hmac_keys"⟩ [] entries]

def tokenKey (version : String) (valid : Option String) : Element where
  name := ⟨none, "hmac"⟩
  attributes := ⟨⟨none, "version"⟩, version⟩ ::
    (valid.toList.map fun word => ⟨⟨none, "valid"⟩, word⟩)

/-- A reply whose keys say that they are valid, that they are not and then nothing, and something
else. -/
def worded : Element := tokenKeys [
  (tokenKey "2" (some " true\n")).toNode, (tokenKey "3" (some "false")).toNode,
  (tokenKey "+03" none).toNode, (tokenKey "4" (some "no")).toNode]

theorem worded_ready : ∃ keys, status worded = .ok keys ∧ keys.isReady .hmac 2 = true ∧
    keys.isReady .hmac 3 = true ∧ keys.isReady .hmac 4 = false ∧
    ReadyUnlessDenied worded keys 3 ∧ ¬ReadyUnlessDenied worded keys 4 := by
  let keys : KeyInventory :=
    { hmacs := ⟨[(2, ⟨true, false, none⟩), (3, ⟨true, false, none⟩), (4, {})], by decide⟩ }
  have decoded : status worded = .ok keys := rfl
  obtain ⟨-, told⟩ := hmac_ready_iff_listed_valid worded
  obtain ⟨two, -⟩ := told keys decoded 2
  obtain ⟨three, denied⟩ := told keys decoded 3
  obtain ⟨four, other⟩ := told keys decoded 4
  refine ⟨keys, decoded, two.2 ⟨_, rfl, .inl ⟨_, rfl, by decide⟩⟩,
    three.2 ⟨_, rfl, .inr rfl⟩, ?_, denied.2 ?_, mt other.1 ?_⟩
  · rw [← Bool.not_eq_true, four]
    rintro ⟨e, last, ⟨raw, found, word⟩ | silent⟩
    · cases last
      cases found
      exact absurd word (by decide)
    · cases last
      cases silent
  · rintro e last raw found
    cases last
    cases found
  · intro plain
    rcases plain _ rfl _ rfl with word | word <;> exact absurd word (by decide)

def numbered : Element := tokenKeys [(tokenKey "3" (some "1")).toNode]

theorem numbered_withheld :
    let body := "<result><status>success</status><hmac_keys>" ++
      "<hmac version=\"3\" valid=\"1\"/></hmac_keys></result>"
    Xml.read? body = some numbered ∧ ∃ keys, readStatus body = .ok keys ∧
      keys.isReady .hmac 3 = false ∧ ¬ReadyUnlessDenied numbered keys 3 := by
  intro body
  let tag (name : String) : Xml.Tag := ⟨"", name⟩
  have tokens : Xml.Token.all? body.toList = some [
      .start (tag "result") [] false,
      .start (tag "status") [] false, .text "success" false, .finish (tag "status"),
      .start (tag "hmac_keys") [] false,
      .start (tag "hmac") [(tag "version", "3"), (tag "valid", "1")] true,
      .finish (tag "hmac_keys"), .finish (tag "result")] := by decide +kernel
  have read : Xml.read? body = some numbered :=
    Xml.read?_of_tokens (by decide +kernel) (by decide +kernel) tokens
  have decoded : status numbered = .ok { hmacs := ⟨[(3, {})], by decide⟩ } := rfl
  refine ⟨read, _, (readStatus_of_read read).trans decoded, by decide, ?_⟩
  rw [readyUnlessDenied_iff decoded]
  intro plain
  rcases plain _ rfl _ rfl with word | word <;> exact absurd word (by decide)

end KeyRotation.Reply
