import KeyRotation.Text.Basic
import KeyRotation.Text.Unicode

/-! The pieces of markup that a document is a sequence of. In character data references are
replaced, then line ends in text become line feeds and white space in attribute values becomes
spaces. A character that a reference stands for is never taken for a line end. -/
namespace KeyRotation.Xml

def isSpace (c : Char) : Bool := c == ' ' || c == '\t' || c == '\n' || c == '\r'

def isChar (c : Char) : Bool :=
  if c.toNat < 0x20 then isSpace c else c.toNat != 0xfffe && c.toNat != 0xffff

def letters : List (Nat × Nat) := [
  (0x3a, 0x3a), (0x41, 0x5a), (0x5f, 0x5f), (0x61, 0x7a),
  (0xc0, 0xd6), (0xd8, 0xf6), (0xf8, 0x2ff), (0x370, 0x37d), (0x37f, 0x1fff),
  (0x200c, 0x200d), (0x2070, 0x218f), (0x2c00, 0x2fef), (0x3001, 0xd7ff),
  (0xf900, 0xfdcf), (0xfdf0, 0xfffd), (0x10000, 0xeffff)]

def joiners : List (Nat × Nat) := [
  (0x2d, 0x2e), (0x30, 0x39), (0xb7, 0xb7), (0x300, 0x36f), (0x203f, 0x2040)]

def isNameStart (c : Char) : Bool := Text.among letters c

def isNameChar (c : Char) : Bool := Text.among letters c || Text.among joiners c

theorem isNameChar_of_isNameStart {c : Char} (h : isNameStart c = true) :
    isNameChar c = true := by
  simp only [isNameStart] at h
  simp [isNameChar, h]

/-- One character of content, and whether it was written as itself. -/
inductive Piece where
  | written (c : Char)
  | referred (c : Char)
  deriving DecidableEq, Repr

namespace Piece

/-- The character with a number. A number that belongs to no character gives the
replacement character, one beyond 32 bits nothing, nor does one that a document may not
hold. -/
def numbered? (n : Nat) : Option Char :=
  if n ≥ UInt32.size then none
  else
    let c := if n.isValidChar then Char.ofNat n else '\ufffd'
    if isChar c then some c else none

def isHexDigit (c : Char) : Bool := (Text.hexDigit? c).isSome

def named? (name : List Char) : Option Char :=
  match name with
  | ['a', 'm', 'p'] => some '&'
  | ['l', 't'] => some '<'
  | ['g', 't'] => some '>'
  | ['a', 'p', 'o', 's'] => some '\''
  | ['q', 'u', 'o', 't'] => some '"'
  | _ => none

/-- The character that a reference stands for, read after its ampersand. -/
def reference? : Text.Scan Char
  | '#' :: 'x' :: cs =>
    let (digits, rest) := Text.run isHexDigit cs
    match rest with
    | ';' :: rest =>
      if digits.isEmpty then none else (numbered? (Text.hexadecimal digits)).map (·, rest)
    | _ => none
  | '#' :: cs =>
    let (digits, rest) := Text.run Char.isDigit cs
    match rest with
    | ';' :: rest =>
      if digits.isEmpty then none else (numbered? (Text.positional digits)).map (·, rest)
    | _ => none
  | cs =>
    let (name, rest) := Text.run isNameChar cs
    match rest with
    | ';' :: rest => (named? name).map (·, rest)
    | _ => none

theorem length_lt_of_reference? {cs rest : List Char} {c : Char}
    (h : reference? cs = some (c, rest)) : rest.length < cs.length := by
  unfold reference? at h
  split at h
  · next cs =>
    have shorter := Text.length_run_le isHexDigit cs
    dsimp only at h
    split at h
    · next tail eq =>
      split at h
      · simp at h
      obtain ⟨_, _, pair⟩ := Option.map_eq_some_iff.1 h
      cases pair
      rw [eq] at shorter
      simp only [List.length_cons] at *
      omega
    · simp at h
  · next cs _ =>
    have shorter := Text.length_run_le Char.isDigit cs
    dsimp only at h
    split at h
    · next tail eq =>
      split at h
      · simp at h
      obtain ⟨_, _, pair⟩ := Option.map_eq_some_iff.1 h
      cases pair
      rw [eq] at shorter
      simp only [List.length_cons] at *
      omega
    · simp at h
  · have shorter := Text.length_run_le isNameChar cs
    dsimp only at h
    split at h
    · next tail eq =>
      obtain ⟨_, _, pair⟩ := Option.map_eq_some_iff.1 h
      cases pair
      rw [eq] at shorter
      simp only [List.length_cons] at *
      omega
    · simp at h

def ofChars? (cs : List Char) : Option (List Piece) :=
  match cs with
  | [] => some []
  | c :: cs =>
    if c = '&' then
      match _read : reference? cs with
      | none => none
      | some (c, rest) => (ofChars? rest).map (.referred c :: ·)
    else (ofChars? cs).map (.written c :: ·)
termination_by cs.length
decreasing_by
  · have := length_lt_of_reference? _read; simp only [List.length_cons]; omega
  · simp

/-- Text with its line ends, a carriage return with or without a line feed after it,
made line feeds. A carriage return stays one in front of a reference, and where it ends
the text right after one. -/
def lines (afterReference : Bool) : List Piece → List Char
  | [] => []
  | .referred c :: rest => c :: lines true rest
  | .written '\r' :: [] => [if afterReference then '\r' else '\n']
  | .written '\r' :: .written '\n' :: rest => '\n' :: lines false rest
  | .written '\r' :: .written c :: rest => '\n' :: lines false (.written c :: rest)
  | .written '\r' :: .referred c :: rest => '\r' :: lines false (.referred c :: rest)
  | .written c :: rest => c :: lines false rest

def spaced : List Piece → List Char
  | [] => []
  | .referred c :: rest => c :: spaced rest
  | .written '\r' :: .written '\n' :: rest => ' ' :: spaced rest
  | .written c :: rest => (if isSpace c then ' ' else c) :: spaced rest

end Piece

/-- The text that character data stands for. Data may not hold the end of a section. -/
def text? (cs : List Char) : Option String :=
  if cs.all isChar && (Text.upTo? [']', ']', '>'] (fun _ => true) cs).isNone then
    (Piece.ofChars? cs).map fun pieces => String.ofList (Piece.lines false pieces)
  else none

def sectionText (cs : List Char) : String :=
  String.ofList (Piece.lines false (cs.map .written))

def attributeValue? (cs : List Char) : Option String :=
  (Piece.ofChars? cs).map fun pieces => String.ofList (Piece.spaced pieces)

structure Tag where
  pre : String
  base : String
  deriving DecidableEq, Repr

/-- `spacing` marks text written with nothing but white space. -/
inductive Token where
  | start (tag : Tag) (attributes : List (Tag × String)) (empty : Bool)
  | finish (tag : Tag)
  | text (content : String) (spacing : Bool)
  | comment (content : String)
  | instruction (target content : String)
  deriving DecidableEq, Repr

namespace Token

def skip (cs : List Char) : List Char := cs.dropWhile isSpace

theorem length_skip_le (cs : List Char) : (skip cs).length ≤ cs.length :=
  (List.dropWhile_sublist isSpace).length_le

def beginsName (cs : List Char) : Bool :=
  match cs with
  | [] => false
  | c :: _ => isNameStart c

/-- A name of one part, or of two with a colon between them. -/
def tagOf? (cs : List Char) : Option Tag :=
  let (pre, rest) := Text.run (· != ':') cs
  match rest with
  | [] => if beginsName pre then some ⟨"", String.ofList pre⟩ else none
  | _ :: base =>
    if (pre.isEmpty || beginsName pre) && beginsName base && !base.contains ':'
    then some ⟨String.ofList pre, String.ofList base⟩ else none

def tag? (cs : List Char) : Option (Tag × List Char) :=
  let (name, rest) := Text.run isNameChar cs
  (tagOf? name).map (·, rest)

theorem length_le_of_tag? {cs rest : List Char} {tag : Tag} (h : tag? cs = some (tag, rest)) :
    rest.length ≤ cs.length := by
  have shorter := Text.length_run_le isNameChar cs
  obtain ⟨_, _, pair⟩ := Option.map_eq_some_iff.1 h
  cases pair
  exact shorter

def equals? (cs : List Char) : Option (List Char) :=
  match skip cs with
  | '=' :: rest => some (skip rest)
  | _ => none

theorem length_lt_of_equals? {cs rest : List Char} (h : equals? cs = some rest) :
    rest.length < cs.length := by
  have shorter := length_skip_le cs
  unfold equals? at h
  split at h
  · next tail eq =>
    cases h
    have := length_skip_le tail
    rw [eq] at shorter
    simp only [List.length_cons] at shorter
    omega
  · simp at h

def quoted? : Text.Scan (List Char)
  | '"' :: cs => Text.upTo? ['"'] (fun c => isChar c && c != '<') cs
  | '\'' :: cs => Text.upTo? ['\''] (fun c => isChar c && c != '<') cs
  | _ => none

theorem length_le_of_quoted? {cs read rest : List Char} (h : quoted? cs = some (read, rest)) :
    rest.length ≤ cs.length := by
  unfold quoted? at h
  split at h
  · have := Text.length_le_of_upTo? h; simp only [List.length_cons]; omega
  · have := Text.length_le_of_upTo? h; simp only [List.length_cons]; omega
  · simp at h

def setting? (cs : List Char) : Option ((Tag × List Char) × List Char) :=
  (tag? cs).bind fun (tag, cs) =>
    (equals? cs).bind fun cs =>
      (quoted? cs).map fun (value, rest) => ((tag, value), rest)

theorem length_lt_of_setting? {cs rest : List Char} {read : Tag × List Char}
    (h : setting? cs = some (read, rest)) : rest.length < cs.length := by
  obtain ⟨⟨tag, named⟩, name, h⟩ := Option.bind_eq_some_iff.1 h
  obtain ⟨equal, sign, h⟩ := Option.bind_eq_some_iff.1 h
  obtain ⟨⟨value, tail⟩, quotes, pair⟩ := Option.map_eq_some_iff.1 h
  cases pair
  have := length_le_of_tag? name
  have := length_lt_of_equals? sign
  have := length_le_of_quoted? quotes
  omega

/-- The end of a start tag, and whether the element is empty. -/
def tagEnd? : List Char → Option (Bool × List Char)
  | '/' :: '>' :: rest => some (true, rest)
  | '>' :: rest => some (false, rest)
  | _ => none

theorem length_lt_of_tagEnd? {cs rest : List Char} {empty : Bool}
    (h : tagEnd? cs = some (empty, rest)) : rest.length < cs.length := by
  unfold tagEnd? at h
  split at h
  · cases h; simp only [List.length_cons]; omega
  · cases h; simp
  · simp at h

/-- The rest of a start tag: its attributes, each after white space, and whether the
element is empty. -/
def attributes? (cs : List Char) : Option ((List (Tag × String) × Bool) × List Char) :=
  match tagEnd? (skip cs) with
  | some (empty, rest) => some (([], empty), rest)
  | none =>
    match _read : setting? (skip cs) with
    | none => none
    | some ((tag, value), rest) =>
      if (skip cs).length = cs.length then none
      else
        (attributeValue? value).bind fun value =>
          (attributes? rest).map fun ((attributes, empty), rest) =>
            (((tag, value) :: attributes, empty), rest)
termination_by cs.length
decreasing_by
  have := length_lt_of_setting? _read
  have := length_skip_le cs
  omega

theorem length_lt_of_attributes? (cs : List Char) {rest : List Char}
    {read : List (Tag × String) × Bool} (h : attributes? cs = some (read, rest)) :
    rest.length < cs.length := by
  have shorter := length_skip_le cs
  unfold attributes? at h
  split at h
  · next closed =>
    cases h
    have := length_lt_of_tagEnd? closed
    omega
  · split at h
    · simp at h
    · next tag value tail setting =>
      split at h
      · simp at h
      obtain ⟨_, _, h⟩ := Option.bind_eq_some_iff.1 h
      obtain ⟨⟨_, last⟩, found, pair⟩ := Option.map_eq_some_iff.1 h
      cases pair
      have := length_lt_of_setting? setting
      have := length_lt_of_attributes? tail found
      omega
termination_by cs.length
decreasing_by omega

def holds (word cs : List Char) : Bool := (Text.upTo? word (fun _ => true) cs).isSome

/-- A comment, read after its opening: no two hyphens may meet in it, nor may it end in
one. -/
def comment? (cs : List Char) : Option (Token × List Char) :=
  (Text.upTo? ['-', '-', '>'] isChar cs).bind fun (content, rest) =>
    if holds ['-', '-'] content || content.getLast? == some '-' then none
    else some (.comment (String.ofList content), rest)

def section? (cs : List Char) : Option (Token × List Char) :=
  (Text.upTo? [']', ']', '>'] isChar cs).map fun (content, rest) =>
    (.text (sectionText content) false, rest)

/-- A processing instruction, read after its opening. A declaration is none. -/
def instruction? (cs : List Char) : Option (Token × List Char) :=
  let (target, content) := Text.run isNameChar cs
  if Text.startsWith ['x', 'm', 'l', ' '] cs || !beginsName target then none
  else
    (Text.upTo? ['?', '>'] isChar (skip content)).map fun (content, rest) =>
      (.instruction (String.ofList target) (String.ofList content), rest)

def finish? (cs : List Char) : Option (Token × List Char) :=
  (tag? cs).bind fun (tag, rest) =>
    match skip rest with
    | '>' :: rest => some (.finish tag, rest)
    | _ => none

def start? (cs : List Char) : Option (Token × List Char) :=
  (tag? cs).bind fun (tag, rest) =>
    (attributes? rest).map fun ((attributes, empty), rest) =>
      (.start tag attributes empty, rest)

def scan? : List Char → Option (Token × List Char)
  | [] => none
  | '<' :: '!' :: '-' :: '-' :: cs => comment? cs
  | '<' :: '!' :: '[' :: 'C' :: 'D' :: 'A' :: 'T' :: 'A' :: '[' :: cs => section? cs
  | '<' :: '!' :: _ => none
  | '<' :: '?' :: cs => instruction? cs
  | '<' :: '/' :: cs => finish? cs
  | '<' :: cs => start? cs
  | c :: cs =>
    let (content, rest) := Text.run (· != '<') cs
    (text? (c :: content)).map fun text => (.text text ((c :: content).all isSpace), rest)

theorem length_lt_of_scan? {cs rest : List Char} {token : Token}
    (h : scan? cs = some (token, rest)) : rest.length < cs.length := by
  unfold scan? at h
  split at h
  · simp at h
  · obtain ⟨⟨content, tail⟩, found, h⟩ := Option.bind_eq_some_iff.1 h
    have := Text.length_le_of_upTo? found
    dsimp only at h
    split at h
    · simp at h
    · cases h; simp only [List.length_cons]; omega
  · obtain ⟨⟨content, tail⟩, found, pair⟩ := Option.map_eq_some_iff.1 h
    have := Text.length_le_of_upTo? found
    cases pair; simp only [List.length_cons]; omega
  · simp at h
  · next cs =>
    unfold instruction? at h
    have shorter := Text.length_run_le isNameChar cs
    dsimp only at h
    split at h
    · simp at h
    · obtain ⟨⟨content, tail⟩, found, pair⟩ := Option.map_eq_some_iff.1 h
      have := Text.length_le_of_upTo? found
      have := length_skip_le (Text.run isNameChar cs).2
      cases pair; simp only [List.length_cons]; omega
  · obtain ⟨⟨tag, tail⟩, found, h⟩ := Option.bind_eq_some_iff.1 h
    have := length_le_of_tag? found
    have shorter := length_skip_le tail
    dsimp only at h
    split at h
    · next eq =>
      cases h
      rw [eq] at shorter
      simp only [List.length_cons] at *
      omega
    · simp at h
  · obtain ⟨⟨tag, tail⟩, found, h⟩ := Option.bind_eq_some_iff.1 h
    obtain ⟨⟨_, last⟩, rest_found, pair⟩ := Option.map_eq_some_iff.1 h
    have := length_le_of_tag? found
    have := length_lt_of_attributes? _ rest_found
    cases pair; simp only [List.length_cons]; omega
  · next c cs _ _ _ _ _ _ =>
    have shorter := Text.length_run_le (· != '<') cs
    obtain ⟨_, _, pair⟩ := Option.map_eq_some_iff.1 h
    cases pair
    exact Nat.lt_succ_of_le shorter

def all? (cs : List Char) : Option (List Token) :=
  if cs.isEmpty then some []
  else
    match _read : scan? cs with
    | none => none
    | some (token, rest) => (all? rest).map (token :: ·)
termination_by cs.length
decreasing_by exact length_lt_of_scan? _read

end Token
end KeyRotation.Xml
