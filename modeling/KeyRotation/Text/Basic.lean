/-! Texts as lists of characters. A scan reads from the left and gives what it read and the text
that is left, or nothing when the text does not have the wanted form. Numerals are those of 64-bit
words, and bytes that are no UTF-8 become replacement characters. -/
namespace KeyRotation.Text

abbrev Scan (α : Type) := List Char → Option (α × List Char)

def after? : List Char → List Char → Option (List Char)
  | [], cs => some cs
  | _ :: _, [] => none
  | w :: word, c :: cs => if w = c then after? word cs else none

def startsWith (word cs : List Char) : Bool := (after? word cs).isSome

def run (ok : Char → Bool) (cs : List Char) : List Char × List Char :=
  (cs.takeWhile ok, cs.dropWhile ok)

/-- The characters in front of the first `stop`, all of a class; `stop` itself is read
as well. -/
def upTo? (stop : List Char) (ok : Char → Bool) : Scan (List Char)
  | [] => if stop.isEmpty then some ([], []) else none
  | c :: cs =>
    match after? stop (c :: cs) with
    | some rest => some ([], rest)
    | none =>
      if ok c then (upTo? stop ok cs).map fun (read, rest) => (c :: read, rest) else none

/-- Items one after the other for as long as there are any. An item that reads nothing is
none, so that the reading ends. -/
def many {α : Type} (item : Scan α) (cs : List Char) : List α × List Char :=
  match item cs with
  | none => ([], cs)
  | some (a, rest) =>
    if rest.length < cs.length then
      let (items, rest) := many item rest
      (a :: items, rest)
    else ([], cs)
termination_by cs.length

/-- Steps from a state until nothing is left. A step that reads nothing ends the reading
without a result. -/
def steps {σ : Type} (step : σ → List Char → Option (σ × List Char)) (state : σ)
    (cs : List Char) : Option σ :=
  if cs.isEmpty then some state
  else
    match step state cs with
    | none => none
    | some (state, rest) => if rest.length < cs.length then steps step state rest else none
termination_by cs.length

/-- One item or more, with a separator between any two. -/
def separated {α : Type} (separator : List Char) (item : Scan α) : Scan (List α) := fun cs => do
  let (first, cs) ← item cs
  let (others, cs) := many (fun cs => (after? separator cs).bind item) cs
  pure (first :: others, cs)

def either {α : Type} (first second : Scan α) : Scan α := fun cs => (first cs).or (second cs)

theorem after?_eq_some_iff {word cs rest : List Char} :
    after? word cs = some rest ↔ cs = word ++ rest := by
  induction word generalizing cs with
  | nil => simp [after?, eq_comm]
  | cons w word ih =>
    cases cs with
    | nil => simp [after?]
    | cons c cs =>
      simp only [after?, List.cons_append, List.cons.injEq]
      split
      · next same => simp [ih, same]
      · next other => simp [Ne.symm other]

theorem length_run_le (ok : Char → Bool) (cs : List Char) :
    (run ok cs).2.length ≤ cs.length :=
  (List.dropWhile_sublist ok).length_le

theorem run_append (ok : Char → Bool) (cs : List Char) :
    (run ok cs).1 ++ (run ok cs).2 = cs :=
  List.takeWhile_append_dropWhile

/-- A run ends at the first character that is not of its class. -/
theorem run_append_of_stop {ok : Char → Bool} {cs rest : List Char} (all : ∀ c ∈ cs, ok c = true)
    (stop : ∀ c ∈ rest.head?, ok c = false) : run ok (cs ++ rest) = (cs, rest) := by
  rw [run, List.takeWhile_append_of_pos all, List.dropWhile_append_of_pos all]
  cases rest with
  | nil => simp
  | cons c rest => simp [stop c rfl]

theorem append_of_upTo? {stop : List Char} {ok : Char → Bool} {cs read rest : List Char}
    (h : upTo? stop ok cs = some (read, rest)) : cs = read ++ stop ++ rest := by
  induction cs generalizing read rest with
  | nil =>
    simp only [upTo?] at h
    split at h
    · next empty =>
      obtain ⟨rfl, rfl⟩ := Prod.mk.inj (Option.some.inj h)
      simpa using empty
    · simp at h
  | cons c cs ih =>
    simp only [upTo?] at h
    split at h
    · next rest' found =>
      obtain ⟨rfl, rfl⟩ := Prod.mk.inj (Option.some.inj h)
      exact after?_eq_some_iff.1 found
    · split at h
      · obtain ⟨⟨read', rest'⟩, found, eq⟩ := Option.map_eq_some_iff.1 h
        obtain ⟨rfl, rfl⟩ := Prod.mk.inj eq
        simp [ih found]
      · simp at h

theorem length_le_of_upTo? {stop : List Char} {ok : Char → Bool} {cs read rest : List Char}
    (h : upTo? stop ok cs = some (read, rest)) : rest.length ≤ cs.length := by
  have := congrArg List.length (append_of_upTo? h)
  simp only [List.length_append] at this
  omega

theorem upTo?_append_of_stop {stop : Char} {ok : Char → Bool} {cs rest : List Char}
    (all : ∀ c ∈ cs, ok c = true ∧ c ≠ stop) :
    upTo? [stop] ok (cs ++ stop :: rest) = some (cs, rest) := by
  induction cs with
  | nil => simp [upTo?, after?]
  | cons c cs ih =>
    obtain ⟨⟨holds, other⟩, later⟩ := List.forall_mem_cons.1 all
    simp [upTo?, after?, Ne.symm other, holds, ih later]

theorem upTo?_eq_none {stop : List Char} {ok : Char → Bool} {c : Char} {cs : List Char}
    (part : c ∈ stop) (absent : c ∉ cs) : upTo? stop ok cs = none := by
  refine Option.eq_none_iff_forall_ne_some.2 fun (read, rest) found => absent ?_
  simp [append_of_upTo? found, part]

/-- The property White_Space, unchanged since Unicode 6.3. -/
def isBlank (c : Char) : Bool :=
  let n := c.toNat
  (9 ≤ n && n ≤ 13) || n == 0x20 || n == 0x85 || n == 0xa0 || n == 0x1680
    || (0x2000 ≤ n && n ≤ 0x200a) || n == 0x2028 || n == 0x2029 || n == 0x202f
    || n == 0x205f || n == 0x3000

def trimChars (cs : List Char) : List Char :=
  ((cs.dropWhile isBlank).reverse.dropWhile isBlank).reverse

def trim (text : String) : String := String.ofList (trimChars text.toList)

def digitValue (c : Char) : Nat := c.toNat - '0'.toNat

def positional (cs : List Char) : Nat := cs.foldl (fun n c => 10 * n + digitValue c) 0

def natural? (cs : List Char) : Option Nat :=
  if !cs.isEmpty && cs.all Char.isDigit then some (positional cs) else none

def hexDigit? (c : Char) : Option Nat :=
  if c.isDigit then some (digitValue c)
  else if 'a' ≤ c ∧ c ≤ 'f' then some (c.toNat - 'a'.toNat + 10)
  else if 'A' ≤ c ∧ c ≤ 'F' then some (c.toNat - 'A'.toNat + 10)
  else none

def hexadecimal (cs : List Char) : Nat :=
  cs.foldl (fun n c => 16 * n + (hexDigit? c).getD 0) 0

/-- A signed numeral, whatever its size. -/
def integer? : List Char → Option Int
  | '-' :: cs => (natural? cs).map fun n => -(n : Int)
  | '+' :: cs => (natural? cs).map Int.ofNat
  | cs => (natural? cs).map Int.ofNat

def int64? (text : String) : Option Int64 :=
  (integer? text.toList).bind fun n =>
    if Int64.minValue.toInt ≤ n ∧ n ≤ Int64.maxValue.toInt then some (Int64.ofInt n) else none

/-- A numeral of an unsigned word; not even zero may have a minus sign. -/
def uint64? (text : String) : Option UInt64 :=
  let cs := match text.toList with
    | '+' :: cs => cs
    | cs => cs
  (natural? cs).bind fun n => if n < UInt64.size then some (UInt64.ofNat n) else none

def byteSize : List Char → Nat
  | [] => 0
  | c :: cs => c.utf8Size + byteSize cs

/-- What stands before a place and what behind it. -/
def cutAt? : Nat → List Char → Option (List Char × List Char)
  | 0, cs => some ([], cs)
  | _ + 1, [] => none
  | n + 1, c :: cs =>
    if c.utf8Size ≤ n + 1 then
      (cutAt? (n + 1 - c.utf8Size) cs).map fun (front, back) => (c :: front, back)
    else none

def between? (start stop : Nat) (cs : List Char) : Option (List Char) := do
  let (front, _) ← cutAt? stop cs
  let (_, back) ← cutAt? start front
  pure back

namespace Utf8

def replacement : Char := '\ufffd'

/-- For the first byte of a sequence: how many bytes follow, the least and the greatest
second byte, and the bits it contributes. -/
def lead? (b : UInt8) : Option (Nat × UInt8 × UInt8 × Nat) :=
  let n := b.toNat
  if n < 0x80 then some (0, 0x80, 0xbf, n)
  else if n < 0xc2 then none
  else if n < 0xe0 then some (1, 0x80, 0xbf, n - 0xc0)
  else if n < 0xf0 then
    some (2, if n = 0xe0 then 0xa0 else 0x80, if n = 0xed then 0x9f else 0xbf, n - 0xe0)
  else if n < 0xf5 then
    some (3, if n = 0xf0 then 0x90 else 0x80, if n = 0xf4 then 0x8f else 0xbf, n - 0xf0)
  else none

/-- The number that a sequence writes, if all its bytes are there, and the bytes left. -/
def follow : Nat → UInt8 → UInt8 → Nat → List UInt8 → Option Nat × List UInt8
  | 0, _, _, n, bytes => (some n, bytes)
  | _ + 1, _, _, _, [] => (none, [])
  | count + 1, least, greatest, n, b :: bytes =>
    if least ≤ b ∧ b ≤ greatest then follow count 0x80 0xbf (64 * n + b.toNat % 64) bytes
    else (none, b :: bytes)

theorem length_follow_le (count : Nat) (least greatest : UInt8) (n : Nat) (bytes : List UInt8) :
    (follow count least greatest n bytes).2.length ≤ bytes.length := by
  induction count generalizing least greatest n bytes with
  | zero => simp [follow]
  | succ count ih =>
    cases bytes with
    | nil => simp [follow]
    | cons b bytes =>
      simp only [follow]
      split
      · exact Nat.le_trans (ih 0x80 0xbf _ bytes) (by simp)
      · simp

def decode : List UInt8 → List Char
  | [] => []
  | b :: bytes =>
    match lead? b with
    | none => replacement :: decode bytes
    | some (count, least, greatest, n) =>
      have := length_follow_le count least greatest n bytes
      let result := follow count least greatest n bytes
      (result.1.elim replacement Char.ofNat) :: decode result.2
termination_by bytes => bytes.length
decreasing_by
  · simp
  · simp only [List.length_cons]; omega

end Utf8
end KeyRotation.Text
