import Mathlib
import KeyRotation.Url

/-! Paths of addresses. Slashes take a path apart, steps back and steps on the spot are resolved,
and what is sent is the folders that are left with a last segment behind them. A name that is put
behind a slash becomes that segment, and changes nothing in front of it. -/
namespace KeyRotation.Url

/-- A word of small letters and low lines, which stands for itself wherever it is in an address. -/
structure Token (cs : List Char) : Prop where
  filled : cs ≠ []
  plain : ∀ c ∈ cs, c.isLower = true ∨ c = '_'

theorem Token.ne {cs : List Char} (token : Token cs) {c d : Char} (member : c ∈ cs)
    (other : ¬(d.isLower = true ∨ d = '_')) : c ≠ d :=
  fun same => other (same ▸ token.plain c member)

theorem Token.not_mem {cs : List Char} (token : Token cs) {c : Char}
    (other : ¬(c.isLower = true ∨ c = '_')) : c ∉ cs :=
  fun member => token.ne member other rfl

theorem Token.not_slash {cs : List Char} (token : Token cs) : ∀ c ∈ cs, isSlash c = false := by
  intro c member
  have forward : c ≠ '/' := token.ne member (by decide)
  have back : c ≠ '\\' := token.ne member (by decide)
  simp [isSlash, forward, back]

theorem Token.bounds {cs : List Char} (token : Token cs) :
    ∀ c ∈ cs, 0x20 < c.toNat ∧ c.toNat ≤ 0x7e := by
  intro c member
  rcases token.plain c member with lower | rfl
  · simp only [Char.isLower, Bool.and_eq_true, decide_eq_true_eq, ge_iff_le,
      UInt32.le_iff_toNat_le] at lower
    have low : 97 ≤ c.toNat := lower.1
    have high : c.toNat ≤ 122 := lower.2
    omega
  · decide

section Encoding

theorem encode_append (set cs ds : List Char) :
    encode set (cs ++ ds) = encode set cs ++ encode set ds :=
  List.flatMap_append

theorem encode_eq_nil_iff {set cs : List Char} : encode set cs = [] ↔ cs = [] := by
  have filled (b : UInt8) : percent b ≠ [] := List.cons_ne_nil _ _
  constructor
  · intro nothing
    cases cs with
    | nil => rfl
    | cons c cs =>
      rw [encode, List.flatMap_cons, List.append_eq_nil_iff] at nothing
      obtain ⟨first, -⟩ := nothing
      split at first
      · have bytes : String.utf8EncodeChar c ≠ [] := by
          rw [← List.length_pos_iff, String.length_utf8EncodeChar]
          exact c.utf8Size_pos
        obtain ⟨b, member⟩ := List.exists_mem_of_ne_nil _ bytes
        exact absurd (List.flatMap_eq_nil_iff.1 first b member) (filled b)
      · cases first
  · rintro rfl
    rfl

theorem hexDigit_ne_slash : ∀ n < 16, hexDigit n ≠ '/' := by decide

theorem slash_notMem_percent (b : UInt8) : '/' ∉ percent b := by
  have high := b.toNat_lt
  have first := hexDigit_ne_slash (b.toNat / 16) (by omega)
  have second := hexDigit_ne_slash (b.toNat % 16) (by omega)
  simp [percent, first.symm, second.symm]

theorem slash_notMem_encode {set cs : List Char} (none : '/' ∉ cs) : '/' ∉ encode set cs := by
  intro member
  obtain ⟨c, inside, from_c⟩ := List.mem_flatMap.1 member
  split at from_c
  · obtain ⟨b, -, from_b⟩ := List.mem_flatMap.1 from_c
    exact slash_notMem_percent b from_b
  · obtain rfl := List.mem_singleton.1 from_c
    exact none inside

theorem Token.encode_eq {set cs : List Char} (token : Token cs)
    (free : ∀ c ∈ set, ¬(c.isLower = true ∨ c = '_')) : encode set cs = cs := by
  have each : ∀ c ∈ cs, (if c.toNat < 0x20 ∨ 0x7e < c.toNat ∨ set.contains c then
      (String.utf8EncodeChar c).flatMap percent else [c]) = [c] := by
    intro c member
    have outside : c ∉ set := fun inside => free c inside (token.plain c member)
    refine if_neg ?_
    have printed := token.bounds c member
    simp only [List.contains_iff_mem, outside, or_false]
    omega
  rw [encode, List.flatMap_congr each, List.flatMap_singleton']

end Encoding

section Parts

theorem splitSlash_ne_nil (cs : List Char) : splitSlash cs ≠ [] := by
  cases cs with
  | nil => simp [splitSlash]
  | cons c cs =>
    rw [splitSlash]
    split
    · simp
    · split <;> simp

/-- A slash divides a text for good. -/
theorem splitSlash_append {slash : Char} (divides : isSlash slash = true) (cs ds : List Char) :
    splitSlash (cs ++ slash :: ds) = splitSlash cs ++ splitSlash ds := by
  induction cs with
  | nil => simp [splitSlash, divides]
  | cons c cs ih =>
    rw [List.cons_append, splitSlash, splitSlash, ih]
    split
    · rfl
    · cases parts : splitSlash cs with
      | nil => exact absurd parts (splitSlash_ne_nil cs)
      | cons part parts => rfl

theorem splitSlash_eq_singleton {cs : List Char} (whole : ∀ c ∈ cs, isSlash c = false) :
    splitSlash cs = [cs] := by
  induction cs with
  | nil => rfl
  | cons c cs ih =>
    obtain ⟨other, rest⟩ := List.forall_mem_cons.1 whole
    simp [splitSlash, other, ih rest]

/-- The parts of a text that begins with a slash, or none. -/
def folders : List Char → List (List Char)
  | [] => []
  | _ :: cs => splitSlash cs

theorem folders_append {slash : Char} (divides : isSlash slash = true) {cs ds : List Char}
    (whole : ∀ c ∈ ds, isSlash c = false) :
    folders (cs ++ slash :: ds) = folders cs ++ [ds] := by
  cases cs with
  | nil => exact splitSlash_eq_singleton whole
  | cons c cs =>
    rw [List.cons_append, folders, folders, splitSlash_append divides,
      splitSlash_eq_singleton whole]

theorem exists_last_slash {cs : List Char} (begins : ∃ c ∈ cs, isSlash c = true) :
    ∃ front slash last, cs = front ++ slash :: last ∧ isSlash slash = true ∧
      ∀ c ∈ last, isSlash c = false := by
  induction cs with
  | nil => simp at begins
  | cons c cs ih =>
    by_cases later : ∃ c ∈ cs, isSlash c = true
    · obtain ⟨front, slash, last, rfl, divides, whole⟩ := ih later
      exact ⟨c :: front, slash, last, rfl, divides, whole⟩
    · have whole : ∀ c ∈ cs, isSlash c = false := by simpa using later
      refine ⟨[], c, cs, rfl, ?_, whole⟩
      obtain ⟨d, member, divides⟩ := begins
      rcases List.mem_cons.1 member with rfl | inside
      · exact divides
      · exact absurd ⟨d, inside, divides⟩ later

end Parts

section Dots

/-- A part that leads nowhere new. -/
def IsDots (part : List Char) : Prop :=
  unescapeDots part = ['.', '.'] ∨ unescapeDots part = ['.']

/-- What else a part consists of stays when its points are read. -/
theorem mem_unescapeDots {c : Char} (other : c ∉ ['%', '2', 'e', 'E']) {cs : List Char}
    (member : c ∈ cs) : c ∈ unescapeDots cs := by
  fun_induction unescapeDots cs with
  | case1 cs ih => simp_all
  | case2 cs ih => simp_all
  | case3 d cs _ _ ih =>
    rcases List.mem_cons.1 member with rfl | inside
    · exact List.mem_cons_self
    · exact List.mem_cons_of_mem d (ih inside)
  | case4 => exact member

theorem not_isDots {c : Char} (other : c ∉ ['%', '2', 'e', 'E', '.']) {part : List Char}
    (member : c ∈ part) : ¬IsDots part := by
  have stays : c ∈ unescapeDots part :=
    mem_unescapeDots (fun inside => other (List.mem_append_left ['.'] inside)) member
  have point : c ≠ '.' := fun same => other (by simp [same])
  rintro (dots | dots) <;> simp [dots, point] at stays

theorem not_isDots_nil : ¬IsDots [] := by simp [IsDots, unescapeDots]

theorem Token.not_isDots {cs : List Char} (token : Token cs) : ¬IsDots cs := by
  have same : ∀ ds : List Char, '%' ∉ ds → unescapeDots ds = ds := by
    intro ds
    fun_induction unescapeDots ds with
    | case1 | case2 => simp
    | case3 c ds _ _ ih => exact fun none => congrArg _ (ih fun inside => none (.tail c inside))
    | case4 => exact fun _ => rfl
  have point : '.' ∉ cs := token.not_mem (by decide)
  rw [IsDots, same cs (token.not_mem (by decide))]
  rintro (rfl | rfl) <;> simp at point

end Dots

section Folders

/-- The folders that a part leads to from others. -/
def step (front : List String) (part : List Char) : List String :=
  if unescapeDots part = ['.', '.'] then (back front.reverse).reverse
  else if unescapeDots part = ['.'] then front
  else front ++ [String.ofList (encode pathSet part)]

/-- What becomes of the last part: a step leaves a segment without a name. -/
def leaf (front : List String) (part : List Char) : List String :=
  if unescapeDots part = ['.', '.'] then (back front.reverse).reverse ++ [""]
  else if unescapeDots part = ['.'] then front ++ [""]
  else front ++ [String.ofList (encode pathSet part)]

/-- The folders that parts lead to. -/
def front (parts : List (List Char)) : List String := parts.foldl step []

theorem resolve_append (before : List String) (parts : List (List Char)) (last : List Char) :
    resolve before (parts ++ [last]) = leaf (parts.foldl step before.reverse) last := by
  induction parts generalizing before with
  | nil =>
    rw [List.nil_append, resolve, List.foldl_nil, leaf]
    split
    · simp [resolve]
    · split <;> simp [resolve]
  | cons part parts ih =>
    have more : (parts ++ [last]).isEmpty = false := by simp
    rw [List.cons_append, resolve, List.foldl_cons, step]
    simp only [more, Bool.false_eq_true, if_false]
    split
    · rw [ih, List.reverse_reverse]
    · split
      · rw [ih]
      · rw [ih, List.reverse_cons]

/-- The path of a text is made of its folders and of what follows its last slash. -/
theorem pathOf_append {slash : Char} (divides : isSlash slash = true) (cs : List Char)
    {last : List Char} (whole : ∀ c ∈ last, isSlash c = false) :
    pathOf (cs ++ slash :: last) = leaf (front (folders cs)) last := by
  have parts : folders (cs ++ slash :: last) = folders cs ++ [last] := folders_append divides whole
  have path : pathOf (cs ++ slash :: last) = resolve [] (folders (cs ++ slash :: last)) := by
    cases cs <;> rfl
  rw [path, parts, resolve_append, List.reverse_nil, front]

theorem front_append (parts : List (List Char)) (part : List Char) :
    front (parts ++ [part]) = step (front parts) part :=
  List.foldl_concat ..

theorem step_of_not_isDots {part : List Char} (plain : ¬IsDots part) (front : List String) :
    step front part = front ++ [String.ofList (encode pathSet part)] := by
  rw [IsDots, not_or] at plain
  rw [step, if_neg plain.1, if_neg plain.2]

theorem leaf_of_not_isDots {part : List Char} (plain : ¬IsDots part) (front : List String) :
    leaf front part = front ++ [String.ofList (encode pathSet part)] := by
  rw [IsDots, not_or] at plain
  rw [leaf, if_neg plain.1, if_neg plain.2]

theorem leaf_of_isDots {part : List Char} (dots : IsDots part) (front : List String) :
    leaf front part = step front part ++ [""] := by
  rw [leaf, step]
  split
  · rfl
  · split
    · rfl
    · next back here => exact absurd dots (not_or.2 ⟨back, here⟩)

end Folders

section Texts

/-- Segments as they are sent, a slash in front of each. -/
def pathText (segments : List String) : String := "/" ++ "/".intercalate segments

/-- Folders as they are sent, a slash behind each as well. -/
def folderText (segments : List String) : List Char :=
  '/' :: segments.flatMap fun segment => segment.toList ++ ['/']

theorem toList_pathText (front : List String) (last : String) :
    (pathText (front ++ [last])).toList = folderText front ++ last.toList := by
  rw [pathText, String.toList_append, folderText]
  induction front with
  | nil => simp
  | cons segment front ih =>
    obtain ⟨next, rest, more⟩ : ∃ next rest, front ++ [last] = next :: rest :=
      List.exists_cons_of_ne_nil (by simp)
    rw [List.cons_append, more, String.intercalate_cons_cons, ← more]
    simp only [String.toList_append, List.flatMap_cons] at ih ⊢
    simp_all

theorem folderText_append (front : List String) (segment : String) :
    folderText (front ++ [segment]) = folderText front ++ (segment.toList ++ ['/']) := by
  simp [folderText]

theorem getLast?_folderText (front : List String) : (folderText front).getLast? = some '/' := by
  cases front using List.reverseRecOn with
  | nil => rfl
  | append_singleton front segment => simp [folderText_append]

def slashed (text : String) : String :=
  if text.toList.getLast? = some '/' then text else text ++ "/"

theorem slashed_of_slash {text : String} (ends : text.toList.getLast? = some '/') :
    slashed text = text :=
  if_pos ends

theorem toList_slashed_of_other {text : String} (ends : text.toList.getLast? ≠ some '/') :
    (slashed text).toList = text.toList ++ ['/'] := by
  rw [slashed, if_neg ends, String.toList_append]
  rfl

/-- A path with a slash at its end leads into the folder that its last part names. A path that ends
with a slash has no last part, and stays. -/
theorem toList_slashed_leaf (front : List String) {last : List Char}
    (whole : ∀ c ∈ last, isSlash c = false) :
    (slashed (pathText (leaf front last))).toList =
      folderText (if last = [] then front else step front last) := by
  by_cases dots : IsDots last
  · have filled : last ≠ [] := fun empty => not_isDots_nil (empty ▸ dots)
    have text : (pathText (leaf front last)).toList = folderText (step front last) := by
      rw [leaf_of_isDots dots, toList_pathText, String.toList_empty, List.append_nil]
    rw [slashed_of_slash (text ▸ getLast?_folderText _), text, if_neg filled]
  · have text : (pathText (leaf front last)).toList = folderText front ++ encode pathSet last := by
      rw [leaf_of_not_isDots dots, toList_pathText, String.toList_ofList]
    by_cases empty : last = []
    · subst empty
      rw [show encode pathSet [] = [] from rfl, List.append_nil] at text
      rw [slashed_of_slash (text ▸ getLast?_folderText _), text, if_pos rfl]
    · have slash : '/' ∉ last := fun member => absurd (whole _ member) (by decide)
      have ends : (pathText (leaf front last)).toList.getLast? ≠ some '/' := by
        rw [text, List.getLast?_append_of_ne_nil _ (mt encode_eq_nil_iff.1 empty)]
        exact fun same => slash_notMem_encode slash (List.mem_of_getLast? same)
      rw [toList_slashed_of_other ends, text, if_neg empty, step_of_not_isDots dots,
        folderText_append, String.toList_ofList, List.append_assoc]

/-- A name behind a slash is the last segment. -/
theorem toList_pathText_token {slash : Char} (divides : isSlash slash = true) (cs : List Char)
    {name : List Char} (token : Token name) :
    (pathText (pathOf (cs ++ slash :: name))).toList = folderText (front (folders cs)) ++ name := by
  have free : ∀ c ∈ pathSet, ¬(c.isLower = true ∨ c = '_') := by simp [pathSet]
  rw [pathOf_append divides cs token.not_slash, leaf_of_not_isDots token.not_isDots,
    toList_pathText, String.toList_ofList, token.encode_eq free]

theorem length_folderText_back_le (front : List String) :
    (folderText (back front.reverse).reverse).length ≤ (folderText front).length := by
  cases front using List.reverseRecOn with
  | nil => exact Nat.le_refl _
  | append_singleton front segment =>
    rw [List.reverse_concat, back]
    split
    · rw [List.reverse_cons, List.reverse_reverse]
    · rw [List.reverse_reverse, folderText_append, List.length_append]
      exact Nat.le_add_right _ _

theorem length_folderText_step_le (front : List String) (part : List Char) :
    (folderText (step front part)).length ≤
      (folderText front).length + ((encode pathSet part).length + 1) := by
  by_cases dots : IsDots part
  · rw [step]
    split
    · exact Nat.le_add_right_of_le (length_folderText_back_le front)
    · rw [if_pos (dots.resolve_left ‹_›)]
      exact Nat.le_add_right _ _
  · rw [step_of_not_isDots dots, folderText_append, String.toList_ofList]
    simp

/-- When a name behind a path, with other characters in between, follows the path as it is sent:
when there are no others, and the path does not end with a slash already. -/
theorem names_iff {slash : Char} (divides : isSlash slash = true) (cs : List Char)
    {last others name : List Char} (whole : ∀ c ∈ last, isSlash c = false)
    (edges : ∀ c ∈ others, isEdge c = true) (token : Token name) :
    (pathText (pathOf ((cs ++ slash :: last) ++ (others ++ '/' :: name)))).toList =
        (slashed (pathText (pathOf (cs ++ slash :: last)))).toList ++ name ↔
      others = [] ∧ last ≠ [] := by
  have apart : ∀ c ∈ last ++ others, isSlash c = false := by
    refine List.forall_mem_append.2 ⟨whole, fun c member => ?_⟩
    have edge : c.toNat ≤ 0x20 := by simpa [isEdge] using edges c member
    rw [Bool.eq_false_iff]
    intro slash
    simp only [isSlash, Bool.or_eq_true, beq_iff_eq] at slash
    rcases slash with rfl | rfl <;> exact absurd edge (by decide)
  have shape : (cs ++ slash :: last) ++ (others ++ '/' :: name) =
      (cs ++ slash :: (last ++ others)) ++ '/' :: name := by simp
  rw [shape, toList_pathText_token (by decide) _ token, folders_append divides apart, front_append,
    pathOf_append divides cs whole, toList_slashed_leaf _ whole, List.append_cancel_right_eq]
  generalize front (folders cs) = front
  constructor
  · intro same
    have size := congrArg List.length same
    by_cases bare : others = []
    · subst bare
      refine ⟨rfl, fun empty => ?_⟩
      subst empty
      rw [if_pos rfl, List.append_nil, step_of_not_isDots not_isDots_nil, folderText_append] at size
      simp at size
    · obtain ⟨c, member⟩ := List.exists_mem_of_ne_nil _ bare
      have edge : c.toNat ≤ 0x20 := by simpa [isEdge] using edges c member
      have plain : c ∉ ['%', '2', 'e', 'E', '.'] := by
        intro inside
        simp only [List.mem_cons, List.not_mem_nil, or_false] at inside
        rcases inside with rfl | rfl | rfl | rfl | rfl <;> exact absurd edge (by decide)
      have filled : 0 < (encode pathSet others).length :=
        List.length_pos_of_ne_nil (mt encode_eq_nil_iff.1 bare)
      rw [step_of_not_isDots (not_isDots plain (List.mem_append_right last member)),
        folderText_append, String.toList_ofList, encode_append] at size
      simp only [List.length_append, List.length_singleton] at size
      have bound := length_folderText_step_le front last
      split at size
      · omega
      · omega
  · rintro ⟨rfl, filled⟩
    rw [List.append_nil, if_neg filled]

end Texts

end KeyRotation.Url
