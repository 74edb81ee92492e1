import KeyRotation.Xml.Token

/-! Documents as trees, and how they are read from text. Tokens are read first; then elements are
nested, prefixes give way to the namespaces they stand for, and neighbouring text becomes one
node. No document may declare a type. -/
namespace KeyRotation.Xml

structure Name where
  space : Option String := none
  base : String
  deriving DecidableEq, Repr

structure Attribute where
  name : Name
  value : String
  deriving DecidableEq, Repr

inductive Node where
  | element (name : Name) (attributes : List Attribute) (children : List Node)
  | text (content : String)
  | comment (content : String)
  | instruction (target content : String)

structure Element where
  name : Name
  attributes : List Attribute := []
  children : List Node := []

namespace Element

def toNode (e : Element) : Node := .element e.name e.attributes e.children

end Element

namespace Node

def element? : Node → Option Element
  | .element name attributes children => some ⟨name, attributes, children⟩
  | _ => none

end Node

namespace Element

def childrenNamed (e : Element) (base : String) : List Element :=
  (e.children.filterMap Node.element?).filter (·.name.base == base)

/-- The first child element with a name, in any namespace. -/
def child? (e : Element) (base : String) : Option Element := (e.childrenNamed base).head?

/-- The text that an element begins with: its first child, if that is text. -/
def leadingText? (e : Element) : Option String :=
  match e.children with
  | .text content :: _ => some content
  | _ => none

/-- The value of an attribute that is in no namespace. -/
def attribute? (e : Element) (base : String) : Option String :=
  (e.attributes.find? (·.name == ⟨none, base⟩)).map (·.value)

end Element

/-- The namespaces in force, the innermost declaration of a prefix first; `none` is the
namespace of names without a prefix. -/
abbrev Scope := List (Option String × String)

def xmlSpace : String := "http://www.w3.org/XML/1998/namespace"

def xmlnsSpace : String := "http://www.w3.org/2000/xmlns/"

namespace Scope

/-- A declaration among the attributes of an element, after those read before it. The
prefix `xml` has one namespace, which no other prefix may have, and a prefix is declared
once. -/
def declare? (own : Scope) (tag : Tag) (value : String) : Option Scope :=
  if tag.pre == "xmlns" then
    if value == xmlnsSpace then none
    else if (tag.base == "xml") != (value == xmlSpace) then none
    else if own.any (·.1 == some tag.base) then none
    else some (if value == xmlSpace then own else own ++ [(some tag.base, value)])
  else if value == xmlSpace || value == xmlnsSpace then none
  else some (own ++ [(none, value)])

def isDeclaration (tag : Tag) : Bool := tag.pre == "xmlns" || tag.base == "xmlns"

def own? (attributes : List (Tag × String)) : Option Scope :=
  attributes.foldlM
    (fun own (tag, value) => if isDeclaration tag then declare? own tag value else some own) []

def elementName? (scope : Scope) (tag : Tag) : Option Name :=
  if tag.pre == "xmlns" then none
  else if tag.pre.isEmpty then some ⟨scope.lookup none, tag.base⟩
  else (scope.lookup (some tag.pre)).map fun space => ⟨some space, tag.base⟩

/-- The name of an attribute. Without a prefix it has no namespace. -/
def attributeName? (scope : Scope) (tag : Tag) : Option Name :=
  if tag.pre.isEmpty then some ⟨none, tag.base⟩
  else if tag.pre == "xml" then some ⟨some xmlSpace, tag.base⟩
  else (scope.lookup (some tag.pre)).map fun space => ⟨some space, tag.base⟩

def attributes? (scope : Scope) (attributes : List (Tag × String)) : Option (List Attribute) :=
  attributes.foldlM
    (fun read (tag, value) =>
      if isDeclaration tag then some read
      else
        (attributeName? scope tag).bind fun name =>
          if read.any (·.name == name) then none else some (read ++ [⟨name, value⟩]))
    []

end Scope

/-- An element whose end is still to come; its children so far are kept last first. -/
structure Frame where
  tag : Tag
  scope : Scope
  name : Name
  attributes : List Attribute
  children : List Node

namespace Frame

def opened? (scope : Scope) (tag : Tag) (attributes : List (Tag × String)) : Option Frame := do
  let own ← Scope.own? attributes
  let scope := own ++ scope
  let attributes ← Scope.attributes? scope attributes
  let name ← Scope.elementName? scope tag
  pure ⟨tag, scope, name, attributes, []⟩

def add (frame : Frame) (node : Node) : Frame := { frame with children := node :: frame.children }

def addText (frame : Frame) (content : String) : Frame :=
  match frame.children with
  | .text before :: children => { frame with children := .text (before ++ content) :: children }
  | _ => frame.add (.text content)

def element (frame : Frame) : Element := ⟨frame.name, frame.attributes, frame.children.reverse⟩

end Frame

namespace Element

/-- The root element of a sequence of tokens, within the elements of `stack`, innermost
first. Outside of the root there are only comments, instructions and white space. -/
def assemble? : List Frame → Option Element → List Token → Option Element
  | [], root, [] => root
  | _ :: _, _, [] => none
  | [], root, .text _ spacing :: rest => if spacing then assemble? [] root rest else none
  | frame :: stack, root, .text content _ :: rest =>
    assemble? (frame.addText content :: stack) root rest
  | [], root, .comment _ :: rest => assemble? [] root rest
  | frame :: stack, root, .comment content :: rest =>
    assemble? (frame.add (.comment content) :: stack) root rest
  | [], root, .instruction _ _ :: rest => assemble? [] root rest
  | frame :: stack, root, .instruction target content :: rest =>
    assemble? (frame.add (.instruction target content) :: stack) root rest
  | [], root, .start tag attributes empty :: rest =>
    if root.isSome then none
    else
      match Frame.opened? [] tag attributes with
      | none => none
      | some frame =>
        if empty then assemble? [] (some frame.element) rest else assemble? [frame] none rest
  | parent :: stack, root, .start tag attributes empty :: rest =>
    match Frame.opened? parent.scope tag attributes with
    | none => none
    | some frame =>
      if empty then assemble? (parent.add frame.element.toNode :: stack) root rest
      else assemble? (frame :: parent :: stack) root rest
  | [], _, .finish _ :: _ => none
  | [frame], _, .finish tag :: rest =>
    if tag = frame.tag then assemble? [] (some frame.element) rest else none
  | frame :: parent :: stack, root, .finish tag :: rest =>
    if tag = frame.tag then assemble? (parent.add frame.element.toNode :: stack) root rest
    else none

end Element

/-- The rest of a text after its declaration, where it has one. A declaration gives a
version, and may give an encoding and whether the document stands alone; what it gives
is not looked at. -/
def declared? (cs : List Char) : Option (List Char) :=
  match Text.after? ['<', '?', 'x', 'm', 'l', ' '] cs with
  | none => some cs
  | some rest => do
    let rest ← version? (Token.skip rest)
    let rest ← optional? "encoding" rest
    let rest ←
      if Text.startsWith "standalone".toList rest then (Token.setting? rest).map (·.2)
      else some rest
    Text.after? ['?', '>'] (Token.skip rest)
where
  /-- Settings end the declaration or have white space after them. -/
  spaced? (cs : List Char) : Option (List Char) :=
    match cs with
    | [] => some []
    | c :: _ =>
      if isSpace c || Text.startsWith ['?', '>'] cs then some (Token.skip cs) else none
  version? (cs : List Char) : Option (List Char) :=
    if Text.startsWith "version".toList cs then (Token.setting? cs).bind fun r => spaced? r.2
    else none
  optional? (name : String) (cs : List Char) : Option (List Char) :=
    if Text.startsWith name.toList cs then (Token.setting? cs).bind fun r => spaced? r.2
    else some cs

/-- The root element of a document, if the text is one. A byte order mark in front of it
is passed over. -/
def read? (text : String) : Option Element := do
  let cs := match text.toList with
    | '\ufeff' :: cs => cs
    | cs => cs
  let cs ← declared? cs
  let tokens ← Token.all? cs
  Element.assemble? [] none tokens

theorem read?_of_tokens {text : String} {tokens : List Token}
    (begins : text.toList.head? = some '<') (bare : declared? text.toList = some text.toList)
    (lexed : Token.all? text.toList = some tokens) :
    read? text = Element.assemble? [] none tokens := by
  unfold read?
  split
  next cs mark =>
    rw [mark] at begins
    cases begins
  next =>
    change (declared? text.toList).bind (fun cs => (Token.all? cs).bind _) = _
    rw [bare]
    change (Token.all? text.toList).bind _ = _
    rw [lexed]
    rfl

end KeyRotation.Xml
