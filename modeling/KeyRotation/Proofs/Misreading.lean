import Mathlib
import KeyRotation.Proofs.Listing

/-! The counts of a batch, as they are told and as they are read. A decoder reads the text that an
element begins with, but comments, instructions and elements may stand in front of its text or
part it. Here is where this makes a difference to a count. -/
namespace KeyRotation

namespace Text

variable {text more : String} {n : UInt64}

theorem exists_cons_of_unsigned {sign digits : List Char} {m : Nat}
    (unsigned : sign ∈ [[], ['+']]) (written : Digits digits m) :
    ∃ first rest, sign ++ digits = first :: rest ∧ isBlank first = false ∧
      ∀ c ∈ rest, c.isDigit = true := by
  simp only [List.mem_cons, List.not_mem_nil, or_false] at unsigned
  rcases unsigned with rfl | rfl
  · obtain ⟨first, rest, rfl⟩ := List.exists_cons_of_ne_nil written.some
    obtain ⟨digit, later⟩ := List.forall_mem_cons.1 written.all
    exact ⟨first, rest, rfl, isBlank_of_isDigit digit, later⟩
  · exact ⟨'+', digits, rfl, by decide, written.all⟩

theorem filter_isDigit_of_blank {cs : List Char} (blank : Blank cs) :
    cs.filter Char.isDigit = [] := by
  apply List.filter_eq_nil_iff.2
  intro c member digit
  have space := blank c member
  rw [isBlank_of_isDigit digit] at space
  cases space

theorem SpellsUnsigned.value (spelled : SpellsUnsigned text n) :
    n.toNat = Nat.ofDigitChars 10 (text.toList.filter Char.isDigit) 0 := by
  obtain ⟨before, sign, digits, after, split, leading, trailing, unsigned, written⟩ :=
    spellsUnsigned_iff.1 spelled
  have none : sign.filter Char.isDigit = [] := by
    simp only [List.mem_cons, List.not_mem_nil, or_false] at unsigned
    rcases unsigned with rfl | rfl <;> decide
  have all : digits.filter Char.isDigit = digits := List.filter_eq_self.2 written.all
  rw [split, List.filter_append, List.filter_append, List.filter_append,
    filter_isDigit_of_blank leading, filter_isDigit_of_blank trailing, none, all]
  simpa using written.value

theorem SpellsUnsigned.not_blank (spelled : SpellsUnsigned text n) : ¬Blank text.toList := by
  obtain ⟨before, sign, digits, after, split, -, -, unsigned, written⟩ :=
    spellsUnsigned_iff.1 spelled
  obtain ⟨first, rest, numeral, visible, -⟩ := exists_cons_of_unsigned unsigned written
  intro blank
  have space := blank first (by simp [split, numeral])
  rw [visible] at space
  cases space

theorem SpellsUnsigned.append_blank (spelled : SpellsUnsigned text n)
    (blank : Blank more.toList) : SpellsUnsigned (text ++ more) n := by
  obtain ⟨before, sign, digits, after, split, leading, trailing, unsigned, written⟩ :=
    spellsUnsigned_iff.1 spelled
  apply spellsUnsigned_iff.2
  refine ⟨before, sign, digits, after ++ more.toList, ?_, leading,
    List.forall_mem_append.2 ⟨trailing, blank⟩, unsigned, written⟩
  rw [String.toList_append, split, List.append_assoc]

theorem SpellsUnsigned.digit_or_blank {m : UInt64} (spelled : SpellsUnsigned text n)
    (goes : SpellsUnsigned (text ++ more) m) :
    ∀ c ∈ more.toList, c.isDigit = true ∨ isBlank c = true := by
  obtain ⟨before, sign, digits, after, split, leading, -, unsigned, written⟩ :=
    spellsUnsigned_iff.1 spelled
  obtain ⟨before', sign', digits', after', split', leading', trailing', unsigned', written'⟩ :=
    spellsUnsigned_iff.1 goes
  obtain ⟨first, rest, numeral, visible, -⟩ := exists_cons_of_unsigned unsigned written
  obtain ⟨first', rest', numeral', visible', later⟩ := exists_cons_of_unsigned unsigned' written'
  have one : (text ++ more).toList.dropWhile isBlank = first :: (rest ++ after ++ more.toList) := by
    rw [String.toList_append, split, numeral, List.append_assoc, List.append_assoc]
    simpa using dropWhile_append leading (by simpa using visible)
  have two : (text ++ more).toList.dropWhile isBlank = first' :: (rest' ++ after') := by
    rw [split', numeral', List.append_assoc]
    exact dropWhile_append leading' (by simpa using visible')
  have tails : rest ++ after ++ more.toList = rest' ++ after' :=
    (List.cons.inj (one.symm.trans two)).2
  intro c member
  have among : c ∈ rest' ++ after' := by
    rw [← tails]
    exact List.mem_append_right _ member
  rcases List.mem_append.1 among with digit | space
  · exact .inl (later c digit)
  · exact .inr (trailing' c space)

/-- A numeral that goes on is that of another number, unless only white space follows or the
number is zero: one digit more makes it at least ten times as large. -/
theorem spellsUnsigned_append_iff (spelled : SpellsUnsigned text n) :
    SpellsUnsigned (text ++ more) n ↔ Blank more.toList ∨ SpellsUnsigned (text ++ more) 0 := by
  have grows {m : UInt64} (goes : SpellsUnsigned (text ++ more) m) :
      m.toNat = 10 ^ (more.toList.filter Char.isDigit).length * n.toNat +
        Nat.ofDigitChars 10 (more.toList.filter Char.isDigit) 0 := by
    rw [goes.value, String.toList_append, List.filter_append, Nat.ofDigitChars_append,
      ← spelled.value, Nat.ofDigitChars_eq_ofDigitChars_zero]
  constructor
  · intro goes
    by_cases still : more.toList.filter Char.isDigit = []
    · left
      intro c member
      rcases spelled.digit_or_blank goes c member with digit | space
      · exact absurd digit (List.filter_eq_nil_iff.1 still c member)
      · exact space
    · right
      have longer : 10 ^ 1 ≤ 10 ^ (more.toList.filter Char.isDigit).length :=
        Nat.pow_le_pow_right (by decide) (List.length_pos_of_ne_nil still)
      have bound := Nat.mul_le_mul_right n.toNat longer
      have zero : n = 0 := by
        apply UInt64.toNat_inj.1
        have same := grows goes
        simp only [UInt64.toNat_zero]
        omega
      exact zero ▸ goes
  · rintro (blank | goes)
    · exact spelled.append_blank blank
    · have zero : n = 0 := by
        apply UInt64.toNat_inj.1
        have same := grows goes
        simp only [UInt64.toNat_zero] at same ⊢
        have positive : 0 < 10 ^ (more.toList.filter Char.isDigit).length := by positivity
        have bound := Nat.mul_le_mul_right n.toNat positive
        omega
      exact zero ▸ goes

/-- The number that a text counts. White space counts nothing. -/
def Counts (text : String) (n : UInt64) : Prop := Blank text.toList ∧ n = 0 ∨ SpellsUnsigned text n

/-- A count is still right with more text behind it if this is white space, or if both are zero. -/
theorem counts_append_iff (counts : Counts text n) :
    Counts (text ++ more) n ↔ Blank more.toList ∨ SpellsUnsigned (text ++ more) 0 := by
  rcases counts with ⟨blank, rfl⟩ | spelled
  · have both : Blank (text ++ more).toList ↔ Blank more.toList := by
      rw [String.toList_append]
      exact List.forall_mem_append.trans (and_iff_right blank)
    simp only [Counts, both, and_true]
  · have visible : ¬Blank (text ++ more).toList := by
      rw [String.toList_append]
      intro blank
      exact spelled.not_blank (List.forall_mem_append.1 blank).1
    simp only [Counts, visible, false_and, false_or]
    exact spellsUnsigned_append_iff spelled

end Text

namespace Xml

def Node.data? : Node → Option String
  | .text content => some content
  | _ => none

def dataOf (nodes : List Node) : String :=
  String.ofList ((nodes.filterMap Node.data?).flatMap String.toList)

namespace Element

/-- All the character data in an element, put together. -/
def content (e : Element) : String := dataOf e.children

/-- The character data in front of anything else. -/
def leading (e : Element) : String := e.leadingText?.getD ""

/-- The character data behind the first child. -/
def behind (e : Element) : String := dataOf e.children.tail

/-- There are no elements in it. -/
def Flat (e : Element) : Prop := ∀ node ∈ e.children, node.element? = none

theorem content_eq (e : Element) : e.content = e.leading ++ e.behind := by
  apply String.toList_inj.1
  obtain ⟨name, attributes, children⟩ := e
  cases children with
  | nil => rfl
  | cons node rest =>
    cases node <;>
      simp [content, leading, behind, dataOf, leadingText?, List.filterMap_cons, Node.data?]

end Element
end Xml

namespace Reply

open Text (Blank Counts SpellsUnsigned)
open Xml (Element)

/-- What a reply says of a field in some text of its element. A field that is not there counts
nothing. -/
def Told (text : Element → String) (root : Element) (name : String) (n : UInt64) : Prop :=
  match root.child? name with
  | none => n = 0
  | some e => Counts (text e) n

/-- No count of a batch is misread. It is the one that the whole content of its element tells, and
a reply is refused if there is an element in there, or a content that is no count. -/
structure NeverMisread (root : Element) : Prop where
  told : ∀ told, outcome root = .ok told →
    Told Element.content root "converted" told.converted ∧
      Told Element.content root "failed" told.failed
  refused : ∀ name ∈ ["converted", "failed"], ∀ e, root.child? name = some e →
    ¬e.Flat ∨ (¬∃ n, Counts e.content n) → ∃ cause, outcome root = .error (.protocol cause)

section Fields

variable {root e : Element} {name : String}

theorem fieldText?_of_child (found : root.child? name = some e) : fieldText? root name =
    if Blank e.leading.toList then none else some (Text.trim e.leading) := by
  have same : fieldText? root name =
      if (Text.trim e.leading).isEmpty then none else some (Text.trim e.leading) := by
    cases leading : e.leadingText? with
    | none => simp [fieldText?, found, leading, Element.leading]; decide
    | some text => simp [fieldText?, found, leading, Element.leading]
  rw [same]
  exact if_congr Text.isEmpty_trim_iff rfl rfl

theorem fieldText?_of_absent (absent : root.child? name = none) : fieldText? root name = none := by
  simp [fieldText?, absent]

theorem numeric_iff_counts : Numeric Text.uint64? root name ↔
    ∀ e, root.child? name = some e → ∃ n, Counts e.leading n := by
  unfold Numeric
  cases found : root.child? name with
  | none => simp [fieldText?_of_absent found]
  | some e =>
    rw [fieldText?_of_child found]
    by_cases blank : Blank e.leading.toList
    · simp [blank, Counts]
    · simp [blank, Counts, Text.uint64?_trim_eq_some_iff]

theorem told_leading (numeric : Numeric Text.uint64? root name) :
    Told Element.leading root name (countOf root name) := by
  unfold Told countOf
  cases found : root.child? name with
  | none => simp [fieldText?_of_absent found]
  | some e =>
    obtain ⟨n, counts⟩ := numeric_iff_counts.1 numeric e found
    rw [fieldText?_of_child found]
    rcases counts with ⟨blank, rfl⟩ | spelled
    · exact .inl ⟨blank, by simp [blank]⟩
    · right
      have read := Text.uint64?_trim_eq_some_iff.2 spelled
      simpa [spelled.not_blank, read] using spelled

end Fields

section Outcome

variable {root : Element} {told : BatchOutcome}

theorem outcomeReadable_iff : OutcomeReadable root ↔
    Succeeds root ∧ ∀ name ∈ ["converted", "failed"], ∀ e, root.child? name = some e →
      ∃ n, Counts e.leading n := by
  constructor
  · intro readable
    exact ⟨readable.succeeds, fun name known => numeric_iff_counts.1 (readable.numbers name known)⟩
  · rintro ⟨succeeds, counts⟩
    exact ⟨succeeds, fun name known => numeric_iff_counts.2 (counts name known)⟩

theorem told_of_outcome (decoded : outcome root = .ok told) :
    ∀ name ∈ ["converted", "failed"], Told Element.leading root name (countOf root name) := by
  have readable := (decides_outcome root).exists_ok_iff.1 ⟨told, decoded⟩
  intro name known
  exact told_leading (readable.numbers name known)

/-- What is read of a field in front is what all of it tells, if nothing that counts comes
later. -/
theorem told_content_iff {name : String} {n : UInt64} (front : Told Element.leading root name n) :
    Told Element.content root name n ↔ ∀ e, root.child? name = some e →
      Blank e.behind.toList ∨ SpellsUnsigned e.content 0 := by
  unfold Told at front ⊢
  cases found : root.child? name with
  | none => simpa [found] using front
  | some e =>
    simp only [found] at front
    simp only [Option.some.injEq, forall_eq', Element.content_eq]
    exact Text.counts_append_iff front

theorem Told.exists_counts {text : Element → String} {name : String} {n : UInt64} {e : Element}
    (told : Told text root name n) (found : root.child? name = some e) : Counts (text e) n := by
  simpa [Told, found] using told

theorem told_iff (decoded : outcome root = .ok told) (text : Element → String) :
    Told text root "converted" told.converted ∧ Told text root "failed" told.failed ↔
      ∀ name ∈ ["converted", "failed"], Told text root name (countOf root name) := by
  rw [outcome_eq decoded]
  simp

theorem NeverMisread.flat_and_whole (never : NeverMisread root) (decoded : outcome root = .ok told)
    {name : String} (known : name ∈ ["converted", "failed"]) {e : Element}
    (found : root.child? name = some e) :
    e.Flat ∧ (Blank e.behind.toList ∨ SpellsUnsigned e.content 0) := by
  constructor
  · by_contra nested
    obtain ⟨cause, refused⟩ := never.refused name known e found (.inl nested)
    cases decoded.symm.trans refused
  · have whole := (told_iff decoded Element.content).1 (never.told told decoded) name known
    exact (told_content_iff (told_of_outcome decoded name known)).1 whole e found

theorem neverMisread_of_whole (right : ∀ told, outcome root = .ok told →
      ∀ name ∈ ["converted", "failed"], ∀ e, root.child? name = some e →
        e.Flat ∧ (Blank e.behind.toList ∨ SpellsUnsigned e.content 0)) :
    NeverMisread root := by
  have whole {told : BatchOutcome} (decoded : outcome root = .ok told) :
      ∀ name ∈ ["converted", "failed"], Told Element.content root name (countOf root name) := by
    intro name known
    apply (told_content_iff (told_of_outcome decoded name known)).2
    intro e found
    exact (right told decoded name known e found).2
  constructor
  · intro told decoded
    exact (told_iff decoded Element.content).2 (whole decoded)
  · intro name known e found bad
    by_contra accepted
    obtain ⟨told, decoded⟩ : ∃ told, outcome root = .ok told := by
      by_contra failed
      have unreadable := mt (decides_outcome root).exists_ok_iff.2 failed
      exact accepted ((decides_outcome root).fault unreadable)
    rcases bad with nested | none
    · exact nested (right told decoded name known e found).1
    · exact none ⟨_, (whole decoded name known).exists_counts found⟩

end Outcome

/-- When the counts of a batch are right. A reply is decoded if the texts that its counts begin
with are counts themselves, and these are what is read; any other reply is a protocol fault. So a
reply that is decoded misreads a count just where there is an element in it, or where more than
white space follows the first child of its element, unless all of it together is a zero. -/
theorem never_misread_iff (root : Element) :
    (∀ body, Xml.read? body = some root → readOutcome body = outcome root) ∧
      Decides (Succeeds root ∧ ∀ name ∈ ["converted", "failed"], ∀ e,
        root.child? name = some e → ∃ n, Counts e.leading n) (outcome root) ∧
      (∀ told, outcome root = .ok told → Told Element.leading root "converted" told.converted ∧
        Told Element.leading root "failed" told.failed) ∧
      (NeverMisread root ↔ ∀ told, outcome root = .ok told → ∀ name ∈ ["converted", "failed"],
        ∀ e, root.child? name = some e →
          e.Flat ∧ (Blank e.behind.toList ∨ SpellsUnsigned e.content 0)) := by
  refine ⟨?_, (decides_outcome root).congr outcomeReadable_iff.symm, ?_, ?_, ?_⟩
  · intro body read
    exact readOutcome_of_read read
  · intro told decoded
    exact (told_iff decoded Element.leading).2 (told_of_outcome decoded)
  · intro never told decoded name known e found
    exact never.flat_and_whole decoded known found
  · exact neverMisread_of_whole

/-- A reply in which ten records moved, and some did not. -/
def stuck (failed : List Xml.Node) : Element where
  name := ⟨none, "result"⟩
  children := [
    .element ⟨none, "status"⟩ [] [.text "success"],
    .element ⟨none, "converted"⟩ [] [.text "10"],
    .element ⟨none, "failed"⟩ [] failed]

theorem annotated_told :
    let annotated := stuck [.text " 5 ", .comment " of 15 ", .text "\n"]
    outcome annotated = .ok ⟨10, 5⟩ ∧ NeverMisread annotated := by
  intro annotated
  obtain ⟨-, -, -, right⟩ := never_misread_iff annotated
  refine ⟨by decide +kernel, right.2 ?_⟩
  intro told decoded name known e found
  simp only [List.mem_cons, List.not_mem_nil, or_false] at known
  rcases known with rfl | rfl
  · cases found
    exact ⟨by simp [Element.Flat, Xml.Node.element?], .inl (by decide)⟩
  · cases found
    exact ⟨by simp [Element.Flat, Xml.Node.element?], .inl (by decide)⟩

def remarked : Element := stuck [.comment " of 15 ", .text "5"]

theorem remarked_misread :
    let body := "<result><status>success</status><converted>10</converted>" ++
      "<failed><!-- of 15 -->5</failed></result>"
    Xml.read? body = some remarked ∧ Succeeds remarked ∧
      (∀ name ∈ ["converted", "failed"], (remarked.childrenNamed name).length ≤ 1) ∧
      readOutcome body = .ok ⟨10, 0⟩ ∧ ¬NeverMisread remarked := by
  intro body
  let tag (name : String) : Xml.Tag := ⟨"", name⟩
  have tokens : Xml.Token.all? body.toList = some [
      .start (tag "result") [] false,
      .start (tag "status") [] false, .text "success" false, .finish (tag "status"),
      .start (tag "converted") [] false, .text "10" false, .finish (tag "converted"),
      .start (tag "failed") [] false, .comment " of 15 ", .text "5" false, .finish (tag "failed"),
      .finish (tag "result")] := by decide +kernel
  have read : Xml.read? body = some remarked :=
    Xml.read?_of_tokens (by decide +kernel) (by decide +kernel) tokens
  have decoded : outcome remarked = .ok ⟨10, 0⟩ := by decide +kernel
  have readable := (decides_outcome remarked).exists_ok_iff.1 ⟨_, decoded⟩
  refine ⟨read, readable.succeeds, by decide +kernel, ?_, ?_⟩
  · rw [readOutcome_of_read read]
    exact decoded
  · intro never
    have none : Counts "5" 0 := (never.told _ decoded).2
    rcases none with ⟨blank, -⟩ | zero
    · exact absurd (blank '5' (by decide)) (by decide)
    · exact absurd (Text.uint64?_trim_eq_some_iff.2 zero) (by decide +kernel)

end Reply
end KeyRotation
