import Mathlib
import KeyRotation.Xml.Reader

/-! Documents written out. A plain tree has elements and text and nothing else, and no name in
it has a namespace; written with its markup characters referred to, it is read back as it is. -/
namespace KeyRotation.Xml

def IsMarkup (c : Char) : Prop := c = '&' ∨ c = '<' ∨ c = '>'

instance (c : Char) : Decidable (IsMarkup c) := inferInstanceAs (Decidable (_ ∨ _))

/-- A character as it is written. What could be taken for markup is referred to. -/
def escaped : Char → List Char
  | '&' => ['&', 'a', 'm', 'p', ';']
  | '<' => ['&', 'l', 't', ';']
  | '>' => ['&', 'g', 't', ';']
  | c => [c]

/-- What is read of a character that is written. -/
def piece (c : Char) : Piece :=
  if IsMarkup c then .referred c else .written c

def Attribute.write (a : Attribute) : List Char :=
  ' ' :: (a.name.base.toList ++
    '=' :: '"' :: (a.value.toList.flatMap escaped ++ ['"']))

mutual

def Node.write : Node → List Char
  | .element name attributes children =>
    '<' :: (name.base.toList ++ (attributes.flatMap Attribute.write ++
      if children.isEmpty then ['/', '>']
      else '>' :: (Node.writeAll children ++ '<' :: '/' :: (name.base.toList ++ ['>']))))
  | .text content => content.toList.flatMap escaped
  | .comment _ => []
  | .instruction _ _ => []

def Node.writeAll : List Node → List Char
  | [] => []
  | node :: nodes => node.write ++ Node.writeAll nodes

end

def Element.write (e : Element) : String := String.ofList e.toNode.write

/-- A name without a prefix, none that declares a namespace. -/
def Unprefixed (name : String) : Prop :=
  Token.beginsName name.toList = true ∧
    (∀ c ∈ name.toList, isNameChar c = true ∧ c ≠ ':') ∧ name ≠ "xmlns"

instance (name : String) : Decidable (Unprefixed name) :=
  inferInstanceAs (Decidable (_ ∧ _))

/-- An attribute whose value has neither a quote nor white space other than spaces. -/
structure Attribute.Plain (a : Attribute) : Prop where
  space : a.name.space = none
  named : Unprefixed a.name.base
  chars : ∀ c ∈ a.value.toList, isChar c = true ∧ c ≠ '"' ∧ (isSpace c = true → c = ' ')

/-- Text that is read as it is written. A carriage return would become a line feed, and no text
is no node at all. -/
structure Legible (text : String) : Prop where
  filled : text ≠ ""
  chars : ∀ c ∈ text.toList, isChar c = true ∧ c ≠ '\r'

/-- Text is told from text in front of it only if something else is between them. -/
def Node.Apart : Node → Node → Prop
  | .text _, .text _ => False
  | _, _ => True

/-- A tree of elements and texts that its written form tells apart. -/
inductive Node.Plain : Node → Prop
  | element {base : String} {attributes : List Attribute} {children : List Node}
      (named : Unprefixed base) (plain : ∀ a ∈ attributes, a.Plain)
      (distinct : attributes.Pairwise fun a b => a.name ≠ b.name)
      (inside : ∀ child ∈ children, Plain child) (apart : children.IsChain Node.Apart) :
      Plain (.element ⟨none, base⟩ attributes children)
  | text {content : String} (legible : Legible content) : Plain (.text content)

theorem plain_of_elements {base : String} {attributes : List Attribute} {elements : List Element}
    (named : Unprefixed base) (plain : ∀ a ∈ attributes, a.Plain)
    (distinct : attributes.Pairwise fun a b => a.name ≠ b.name)
    (inside : ∀ e ∈ elements, e.toNode.Plain) :
    (Node.element ⟨none, base⟩ attributes (elements.map Element.toNode)).Plain := by
  refine .element named plain distinct (List.forall_mem_map.2 inside) ?_
  rw [List.isChain_map]
  exact (List.pairwise_of_forall fun _ _ => trivial).isChain

theorem unprefixed_of_lower {name : String} (filled : name ≠ "") (free : name ≠ "xmlns")
    (lower : name.toList.all (fun c => c.isLower || c == '_') = true) : Unprefixed name := by
  have start : ∀ c ∈ name.toList, isNameStart c = true ∧ c ≠ ':' := by
    intro c member
    have small := List.all_eq_true.1 lower c member
    rcases Bool.or_eq_true_iff.1 small with letter | underscore
    · simp only [Char.isLower, Bool.and_eq_true, decide_eq_true_eq, ge_iff_le,
        UInt32.le_iff_toNat_le] at letter
      refine ⟨?_, ?_⟩
      · simp only [isNameStart, Text.among, letters, List.any_eq_true]
        refine ⟨(0x61, 0x7a), by simp, ?_⟩
        simpa using letter
      · rintro rfl
        revert letter
        decide
    · obtain rfl := beq_iff_eq.1 underscore
      decide
  have begins : Token.beginsName name.toList = true := by
    cases chars : name.toList with
    | nil => exact absurd (by simpa using chars) filled
    | cons c cs => exact (start c (by simp [chars])).1
  refine ⟨begins, fun c member => ?_, free⟩
  exact (start c member).imp_left isNameChar_of_isNameStart

section Pieces

variable {c : Char} {cs : List Char}

theorem escaped_eq_self (plain : ¬IsMarkup c) : escaped c = [c] := by
  unfold escaped
  split <;> simp_all [IsMarkup]

theorem forall_mem_flatMap_escaped {p : Char → Prop}
    (letters : ∀ c ∈ ['&', 'a', 'm', 'p', 'l', 't', 'g', ';'], p c)
    (plain : ∀ c ∈ cs, ¬IsMarkup c → p c) : ∀ c ∈ cs.flatMap escaped, p c := by
  intro x member
  obtain ⟨c, among, member⟩ := List.mem_flatMap.1 member
  by_cases markup : IsMarkup c
  · refine letters x ?_
    rcases markup with rfl | rfl | rfl <;> simp only [escaped, List.mem_cons] at member ⊢ <;> tauto
  · rw [escaped_eq_self markup] at member
    obtain rfl := List.mem_singleton.1 member
    exact plain x among markup

theorem ofChars?_escaped (c : Char) (rest : List Char) :
    Piece.ofChars? (escaped c ++ rest) = (Piece.ofChars? rest).map (piece c :: ·) := by
  by_cases markup : IsMarkup c
  · rcases markup with rfl | rfl | rfl <;>
      simp only [escaped, List.cons_append, List.nil_append] <;>
      rw [Piece.ofChars?, if_pos rfl] <;> rfl
  · rw [escaped_eq_self markup, List.singleton_append, Piece.ofChars?,
      if_neg fun same => markup (.inl same), piece, if_neg markup]

theorem ofChars?_flatMap_escaped (cs : List Char) :
    Piece.ofChars? (cs.flatMap escaped) = some (cs.map piece) := by
  induction cs with
  | nil => rw [List.flatMap_nil, Piece.ofChars?]; rfl
  | cons c cs ih => rw [List.flatMap_cons, ofChars?_escaped, ih]; rfl

theorem lines_map_piece (plain : ∀ c ∈ cs, c ≠ '\r') (afterReference : Bool) :
    Piece.lines afterReference (cs.map piece) = cs := by
  induction cs generalizing afterReference with
  | nil => rfl
  | cons c cs ih =>
    obtain ⟨other, later⟩ := List.forall_mem_cons.1 plain
    rw [List.map_cons, piece]
    split
    · rw [Piece.lines, ih later]
    · rw [Piece.lines, ih later] <;> simp [other]

theorem spaced_map_piece (plain : ∀ c ∈ cs, isSpace c = true → c = ' ') :
    Piece.spaced (cs.map piece) = cs := by
  induction cs with
  | nil => rfl
  | cons c cs ih =>
    obtain ⟨space, later⟩ := List.forall_mem_cons.1 plain
    rw [List.map_cons, piece]
    split
    · rw [Piece.spaced, ih later]
    · rw [Piece.spaced, ih later]
      · split
        next white => rw [space white]
        · rfl
      · rintro _ - rfl
        exact absurd (space rfl) (by decide)

end Pieces

section Tokens

variable {name : String} {rest : List Char}

theorem tag?_append (named : Unprefixed name) (stop : ∀ c ∈ rest.head?, isNameChar c = false) :
    Token.tag? (name.toList ++ rest) = some (⟨"", name⟩, rest) := by
  obtain ⟨begins, chars, -⟩ := named
  have whole : Text.run (· != ':') name.toList = (name.toList, []) := by
    have single : ∀ c ∈ name.toList, (c != ':') = true := by
      simpa using fun c member => (chars c member).2
    simpa using @Text.run_append_of_stop (· != ':') _ [] single (by simp)
  rw [Token.tag?, Text.run_append_of_stop (fun c member => (chars c member).1) stop]
  simp [Token.tagOf?, whole, begins]

theorem exists_cons_of_unprefixed (named : Unprefixed name) :
    ∃ c tail, name.toList = c :: tail ∧ isNameStart c = true := by
  have begins := named.1
  cases chars : name.toList with
  | nil => simp [chars, Token.beginsName] at begins
  | cons c tail => exact ⟨c, tail, rfl, by simpa [chars, Token.beginsName] using begins⟩

/-- A name begins with none of the characters that begin something else. -/
theorem ne_of_isNameStart {c : Char} (start : isNameStart c = true) :
    c ∉ [' ', '\t', '\n', '\r', '/', '>', '!', '?', '<'] := by
  have others : ∀ x ∈ [' ', '\t', '\n', '\r', '/', '>', '!', '?', '<'], isNameStart x = false := by
    simp [isNameStart, Text.among, letters]
  exact fun member => by simp [others c member] at start

def Attribute.setting (a : Attribute) : Tag × String := (⟨"", a.name.base⟩, a.value)

theorem setting?_write {a : Attribute} (plain : a.Plain) :
    Token.setting? (a.name.base.toList ++
      '=' :: '"' :: (a.value.toList.flatMap escaped ++ '"' :: rest)) =
      some ((⟨"", a.name.base⟩, a.value.toList.flatMap escaped), rest) := by
  have inside : ∀ c ∈ a.value.toList.flatMap escaped,
      (isChar c && c != '<') = true ∧ c ≠ '"' := by
    refine forall_mem_flatMap_escaped (by simp [isChar]) fun c member markup => ?_
    obtain ⟨char, quote, -⟩ := plain.chars c member
    have other : c ≠ '<' := fun same => markup (.inr (.inl same))
    simp [char, quote, other]
  have quotes := @Text.upTo?_append_of_stop '"' (fun c => isChar c && c != '<') _ rest inside
  rw [Token.setting?, tag?_append plain.named (by simp; decide)]
  simp [Token.equals?, Token.skip, isSpace, Token.quoted?, quotes]

theorem attributeValue?_write {a : Attribute} (plain : a.Plain) :
    attributeValue? (a.value.toList.flatMap escaped) = some a.value := by
  rw [attributeValue?, ofChars?_flatMap_escaped, Option.map_some,
    spaced_map_piece fun c member => (plain.chars c member).2.2, String.ofList_toList]

theorem attributes?_write_append {a : Attribute} (plain : a.Plain) (rest : List Char) :
    Token.attributes? (a.write ++ rest) = (Token.attributes? rest).map
      fun ((attributes, empty), rest) => ((a.setting :: attributes, empty), rest) := by
  obtain ⟨c, tail, chars, start⟩ := exists_cons_of_unprefixed plain.named
  have other := ne_of_isNameStart start
  have read := @setting?_write rest a plain
  have spaces : Token.skip (a.write ++ rest) =
      a.name.base.toList ++ '=' :: '"' :: (a.value.toList.flatMap escaped ++ '"' :: rest) := by
    simp_all [Attribute.write, Token.skip, isSpace]
  have shorter : (Token.skip (a.write ++ rest)).length ≠ (a.write ++ rest).length := by
    rw [spaces]
    simp [Attribute.write]
  have opened : Token.tagEnd? (Token.skip (a.write ++ rest)) = none := by
    rw [spaces, chars]
    unfold Token.tagEnd?
    split <;> simp_all
  rw [Token.attributes?]
  split
  next closed => simp [opened] at closed
  split
  next unread => simp [spaces, read] at unread
  next tag value after found =>
    rw [spaces, read] at found
    cases found
    rw [if_neg shorter, attributeValue?_write plain]
    rfl

theorem attributes?_write {attributes : List Attribute} {cs : List Char} {empty : Bool}
    (plain : ∀ a ∈ attributes, a.Plain)
    (ends : Token.tagEnd? (Token.skip cs) = some (empty, rest)) :
    Token.attributes? (attributes.flatMap Attribute.write ++ cs) =
      some ((attributes.map Attribute.setting, empty), rest) := by
  induction attributes with
  | nil =>
    rw [List.flatMap_nil, List.nil_append, Token.attributes?, ends]
    rfl
  | cons a attributes ih =>
    obtain ⟨first, others⟩ := List.forall_mem_cons.1 plain
    rw [List.flatMap_cons, List.append_assoc, attributes?_write_append first, ih others]
    rfl

theorem scan?_markup {c : Char} (start : isNameStart c = true) (cs : List Char) :
    Token.scan? ('<' :: c :: cs) = Token.start? (c :: cs) := by
  have other := ne_of_isNameStart start
  simp only [List.mem_cons, List.not_mem_nil, or_false, not_or] at other
  rw [Token.scan?] <;> simp [other]

theorem scan?_data {c : Char} (other : c ≠ '<') (cs : List Char) :
    Token.scan? (c :: cs) = (text? (Text.run (· != '<') (c :: cs)).1).map fun text =>
      (.text text ((Text.run (· != '<') (c :: cs)).1.all isSpace),
        (Text.run (· != '<') (c :: cs)).2) := by
  rw [Token.scan?] <;> simp [other, Text.run]

theorem scan?_start {attributes : List Attribute} {cs : List Char} {empty : Bool}
    (named : Unprefixed name) (plain : ∀ a ∈ attributes, a.Plain)
    (stop : ∀ c ∈ cs.head?, isNameChar c = false)
    (ends : Token.tagEnd? (Token.skip cs) = some (empty, rest)) :
    Token.scan? ('<' :: (name.toList ++ (attributes.flatMap Attribute.write ++ cs))) =
      some (.start ⟨"", name⟩ (attributes.map Attribute.setting) empty, rest) := by
  obtain ⟨c, tail, chars, start⟩ := exists_cons_of_unprefixed named
  have further : ∀ c ∈ (attributes.flatMap Attribute.write ++ cs).head?, isNameChar c = false := by
    cases attributes with
    | nil => simpa using stop
    | cons a attributes =>
      simp only [List.flatMap_cons, Attribute.write, List.cons_append, List.head?_cons,
        Option.mem_some_iff, forall_eq']
      decide
  rw [chars, List.cons_append, scan?_markup start, ← List.cons_append, ← chars, Token.start?,
    tag?_append named further, Option.bind_some]
  simp only [attributes?_write plain ends, Option.map_some]

theorem scan?_finish (named : Unprefixed name) :
    Token.scan? ('<' :: '/' :: (name.toList ++ '>' :: rest)) =
      some (.finish ⟨"", name⟩, rest) := by
  change Token.finish? _ = _
  rw [Token.finish?, tag?_append named (by simp; decide)]
  rfl

theorem text?_escaped {content : String}
    (chars : ∀ c ∈ content.toList, isChar c = true ∧ c ≠ '\r') :
    text? (content.toList.flatMap escaped) = some content := by
  have all : (content.toList.flatMap escaped).all isChar = true := by
    rw [List.all_eq_true]
    exact forall_mem_flatMap_escaped (by simp [isChar]) fun c member _ => (chars c member).1
  have absent : ∀ c ∈ content.toList.flatMap escaped, c ≠ '>' :=
    forall_mem_flatMap_escaped (by simp) fun c _ markup same => markup (.inr (.inr same))
  rw [text?, all, Text.upTo?_eq_none (by simp) fun member => absent _ member rfl,
    ofChars?_flatMap_escaped]
  simp [lines_map_piece fun c member => (chars c member).2]

theorem scan?_text {content : String} (legible : Legible content)
    (opens : rest.head? = some '<') :
    ∃ spacing, Token.scan? (content.toList.flatMap escaped ++ rest) =
      some (.text content spacing, rest) := by
  have inside : ∀ c ∈ content.toList.flatMap escaped, (c != '<') = true :=
    forall_mem_flatMap_escaped (by simp) fun c _ markup =>
      bne_iff_ne.2 fun same => markup (.inr (.inl same))
  have run := @Text.run_append_of_stop (· != '<') _ rest inside (by simp [opens])
  have data := text?_escaped legible.chars
  cases written : content.toList.flatMap escaped with
  | nil =>
    rw [written] at data
    obtain rfl := Option.some.inj (data.symm.trans (@text?_escaped "" (by simp)))
    exact absurd rfl legible.filled
  | cons c cs =>
    rw [written] at inside run data
    rw [List.cons_append] at run ⊢
    rw [scan?_data (bne_iff_ne.1 (inside c List.mem_cons_self)), run, data]
    exact ⟨_, rfl⟩

end Tokens

/-- The root element that the characters left complete, within the elements of a stack. -/
def Element.parse? (stack : List Frame) (root : Option Element) (cs : List Char) :
    Option Element :=
  (Token.all? cs).bind (Element.assemble? stack root)

section Trees

variable {stack : List Frame} {root : Option Element} {rest : List Char}

theorem parse?_eq_of_scan? {cs : List Char} {token : Token}
    (scan : Token.scan? cs = some (token, rest)) :
    Element.parse? stack root cs =
      (Token.all? rest).bind fun tokens => Element.assemble? stack root (token :: tokens) := by
  have shorter := Token.length_lt_of_scan? scan
  have filled : ¬cs.isEmpty = true := by
    cases cs with
    | nil => cases shorter
    | cons => simp
  rw [Element.parse?, Token.all?, if_neg filled]
  split
  next unread => simp [scan] at unread
  next first after found =>
    rw [scan] at found
    cases found
    cases Token.all? rest <;> rfl

theorem own?_plain {attributes : List Attribute} (plain : ∀ a ∈ attributes, a.Plain) :
    Scope.own? (attributes.map Attribute.setting) = some [] := by
  induction attributes with
  | nil => rfl
  | cons a attributes ih =>
    obtain ⟨first, others⟩ := List.forall_mem_cons.1 plain
    have other := first.named.2.2
    rw [Scope.own?] at ih ⊢
    simpa [Attribute.setting, Scope.isDeclaration, other] using ih others

/-- Reading that takes in each attribute with a new name takes in all that have distinct ones. -/
theorem foldlM_setting {step : List Attribute → Tag × String → Option (List Attribute)}
    {attributes : List Attribute}
    (takes : ∀ read, ∀ a ∈ attributes, (∀ b ∈ read, b.name ≠ a.name) →
      step read a.setting = some (read ++ [a])) {read : List Attribute}
    (distinct : (read ++ attributes).Pairwise fun a b => a.name ≠ b.name) :
    (attributes.map Attribute.setting).foldlM step read = some (read ++ attributes) := by
  induction attributes generalizing read with
  | nil => simp
  | cons a attributes ih =>
    have fresh : ∀ b ∈ read, b.name ≠ a.name := fun b member =>
      (List.pairwise_append.1 distinct).2.2 b member a List.mem_cons_self
    have next := @ih (fun read b among => takes read b (List.mem_cons_of_mem _ among)) (read ++ [a])
      (by simpa using distinct)
    rw [List.map_cons, List.foldlM_cons, takes read a List.mem_cons_self fresh]
    simpa using next

theorem scope_attributes?_plain {attributes : List Attribute}
    (plain : ∀ a ∈ attributes, a.Plain)
    (distinct : attributes.Pairwise fun a b => a.name ≠ b.name) :
    Scope.attributes? [] (attributes.map Attribute.setting) = some attributes := by
  refine @foldlM_setting _ _ (fun read a member fresh => ?_) [] distinct
  obtain ⟨space, ⟨-, -, other⟩, -⟩ := plain a member
  have name : (⟨none, a.name.base⟩ : Name) = a.name := by rw [← space]
  have new : ¬∃ b ∈ read, b.name = a.name := fun ⟨b, member, same⟩ => fresh b member same
  simp [Attribute.setting, Scope.isDeclaration, other, Scope.attributeName?, name, new]

theorem opened?_plain {base : String} {attributes : List Attribute}
    (plain : ∀ a ∈ attributes, a.Plain)
    (distinct : attributes.Pairwise fun a b => a.name ≠ b.name) :
    Frame.opened? [] ⟨"", base⟩ (attributes.map Attribute.setting) =
      some ⟨⟨"", base⟩, [], ⟨none, base⟩, attributes, []⟩ := by
  simp [Frame.opened?, own?_plain plain, scope_attributes?_plain plain distinct,
    Scope.elementName?]

/-- What reading a node comes to within an element: one more child. -/
def Node.ReadsBack (node : Node) : Prop :=
  ∀ {frame : Frame} {stack : List Frame} {root : Option Element} {rest : List Char},
    frame.scope = [] → (∀ before ∈ frame.children.head?, before.Apart node) →
      (∀ content, node = .text content → rest.head? = some '<') →
        Element.parse? (frame :: stack) root (node.write ++ rest) =
          Element.parse? (frame.add node :: stack) root rest

theorem head?_writeAll {nodes : List Node} {content : String}
    (plain : ∀ node ∈ nodes, node.Plain) (apart : (.text content :: nodes).IsChain Node.Apart)
    (opens : rest.head? = some '<') : (Node.writeAll nodes ++ rest).head? = some '<' := by
  cases nodes with
  | nil => exact opens
  | cons node nodes =>
    cases plain node List.mem_cons_self with
    | element => simp [Node.writeAll, Node.write]
    | text => exact ((List.isChain_cons_cons.1 apart).1).elim

theorem parse?_writeAll {nodes : List Node} (plain : ∀ node ∈ nodes, node.Plain)
    (back : ∀ node ∈ nodes, node.ReadsBack) (apart : nodes.IsChain Node.Apart)
    (opens : rest.head? = some '<') {frame : Frame} (scope : frame.scope = [])
    (begins : ∀ before ∈ frame.children.head?, ∀ node ∈ nodes.head?, before.Apart node) :
    Element.parse? (frame :: stack) root (Node.writeAll nodes ++ rest) =
      Element.parse? ({ frame with children := nodes.reverse ++ frame.children } :: stack)
        root rest := by
  induction nodes generalizing frame with
  | nil => rfl
  | cons node nodes ih =>
    obtain ⟨-, plainRest⟩ := List.forall_mem_cons.1 plain
    obtain ⟨first, others⟩ := List.forall_mem_cons.1 back
    have follows : ∀ content, node = .text content →
        (Node.writeAll nodes ++ rest).head? = some '<' := by
      rintro content rfl
      exact head?_writeAll plainRest apart opens
    have next : ∀ before ∈ (frame.add node).children.head?, ∀ node ∈ nodes.head?,
        before.Apart node := by
      rintro before same after among
      obtain rfl := Option.some.inj same
      exact (List.isChain_cons.1 apart).1 after among
    rw [Node.writeAll, List.append_assoc,
      first scope (fun before among => begins before among node rfl) follows,
      @ih plainRest others apart.tail (frame.add node) scope next]
    simp [Frame.add]

section Elements

variable {base : String} {attributes : List Attribute} {children : List Node}

theorem scan?_write_empty (named : Unprefixed base) (plain : ∀ a ∈ attributes, a.Plain) :
    Token.scan? ((Node.element ⟨none, base⟩ attributes []).write ++ rest) =
      some (.start ⟨"", base⟩ (attributes.map Attribute.setting) true, rest) := by
  have written : (Node.element ⟨none, base⟩ attributes []).write ++ rest =
      '<' :: (base.toList ++ (attributes.flatMap Attribute.write ++ '/' :: '>' :: rest)) := by
    simp [Node.write]
  rw [written]
  exact scan?_start named plain (by simp; decide) rfl

/-- What is left of an element that is not empty once its start is read. -/
def content (base : String) (children : List Node) (rest : List Char) : List Char :=
  Node.writeAll children ++ '<' :: '/' :: (base.toList ++ '>' :: rest)

theorem scan?_write_open (named : Unprefixed base) (plain : ∀ a ∈ attributes, a.Plain)
    (filled : children ≠ []) :
    Token.scan? ((Node.element ⟨none, base⟩ attributes children).write ++ rest) =
      some (.start ⟨"", base⟩ (attributes.map Attribute.setting) false,
        content base children rest) := by
  have written : (Node.element ⟨none, base⟩ attributes children).write ++ rest =
      '<' :: (base.toList ++ (attributes.flatMap Attribute.write ++
        '>' :: content base children rest)) := by
    simp [Node.write, content, filled]
  rw [written]
  exact scan?_start named plain (by simp; decide) rfl

theorem parse?_content (named : Unprefixed base) (plain : ∀ node ∈ children, node.Plain)
    (back : ∀ node ∈ children, node.ReadsBack) (apart : children.IsChain Node.Apart) :
    Element.parse? (⟨⟨"", base⟩, [], ⟨none, base⟩, attributes, []⟩ :: stack) root
        (content base children rest) =
      (Token.all? rest).bind fun tokens => Element.assemble?
        (⟨⟨"", base⟩, [], ⟨none, base⟩, attributes, children.reverse⟩ :: stack) root
        (.finish ⟨"", base⟩ :: tokens) := by
  rw [content, parse?_writeAll plain back apart rfl rfl (by simp), List.append_nil]
  exact parse?_eq_of_scan? (scan?_finish named)

end Elements

/-- Each node of a plain tree is read back as a child of the element around it. -/
theorem readsBack_of_plain {node : Node} (plain : node.Plain) : node.ReadsBack := by
  intro frame stack root rest scope begins follows
  -- The children are read within the element's own frame, which its end turns into a child.
  induction plain generalizing frame stack root rest with
  | @element base attributes children named plain distinct inside apart ih =>
    have opened := @opened?_plain base attributes plain distinct
    by_cases filled : children = []
    · subst filled
      rw [parse?_eq_of_scan? (scan?_write_empty named plain)]
      simp only [Element.assemble?, scope, opened, if_true]
      rfl
    · rw [parse?_eq_of_scan? (scan?_write_open named plain filled)]
      simp only [Element.assemble?, scope, opened, Bool.false_eq_true, if_false]
      have whole := @parse?_content (frame :: stack) root rest base attributes children named
        inside (fun node member => ih node member) apart
      simp only [Element.assemble?, if_true] at whole
      refine whole.trans ?_
      simp [Element.parse?, Frame.element, Element.toNode]
  | @text content legible =>
    obtain ⟨spacing, scan⟩ := scan?_text legible (follows content rfl)
    rw [Node.write, parse?_eq_of_scan? scan]
    have joins : frame.addText content = frame.add (.text content) := by
      unfold Frame.addText
      split
      next before children same => exact False.elim (begins (.text before) (by simp [same]))
      · rfl
    simp only [Element.assemble?, joins]
    rfl

/-- A document that is written out plainly is read back. -/
theorem read?_write {e : Element} (plain : e.toNode.Plain) : read? e.write = some e := by
  obtain ⟨name, attributes, children⟩ := e
  cases plain with
  | @element base _ _ named plain distinct inside apart =>
    have opened := @opened?_plain base attributes plain distinct
    have parsed : Element.parse? [] none ((Node.element ⟨none, base⟩ attributes children).write) =
        some ⟨⟨none, base⟩, attributes, children⟩ := by
      rw [← List.append_nil (Node.write _)]
      by_cases filled : children = []
      · subst filled
        rw [parse?_eq_of_scan? (scan?_write_empty named plain), Token.all?]
        simp [Element.assemble?, opened, Frame.element]
      · rw [parse?_eq_of_scan? (scan?_write_open named plain filled)]
        simp only [Element.assemble?, Option.isSome_none, opened, Bool.false_eq_true, if_false]
        have whole := @parse?_content [] none [] base attributes children named inside
          (fun node member => readsBack_of_plain (inside node member)) apart
        refine whole.trans ?_
        rw [Token.all?]
        simp [Element.assemble?, Frame.element]
    obtain ⟨c, tail, chars, start⟩ := exists_cons_of_unprefixed named
    have other : c ≠ '?' := by
      rintro rfl
      exact ne_of_isNameStart start (by simp)
    obtain ⟨more, written⟩ : ∃ more,
        (Node.element ⟨none, base⟩ attributes children).write = '<' :: c :: more := by
      simp [Node.write, chars]
    have undeclared : declared? ('<' :: c :: more) = some ('<' :: c :: more) := by
      simp [declared?, Text.after?, Ne.symm other]
    rw [written] at parsed
    simpa [read?, Element.write, Element.toNode, written, undeclared, Element.parse?] using parsed

end Trees
end KeyRotation.Xml
