import KeyRotation.Client
import KeyRotation.Proofs.Segments
import KeyRotation.Proofs.Spelling

/-! The address that a request goes to, and what it shows of the address that was configured. The
name of a method is put behind the whole text, so it is the last segment of the path only where the
text ends within its path. -/
namespace KeyRotation

namespace Url

/-- No host has a space or a control in it. -/
def Strict (readHost? : List Char → Option String) : Prop :=
  ∀ host, (readHost? host).isSome → ∀ c ∈ host, isEdge c = false

/-- A text that names an address, in its parts. -/
structure Split (cs scheme slashes authority path rest : List Char) : Prop where
  eq : cs = scheme ++ ':' :: (slashes ++ (authority ++ (path ++ rest)))
  first : ':' ∉ scheme
  leading : ∀ c ∈ slashes, isSlash c = true
  filled : authority ≠ []
  named : ∀ c ∈ authority, inAuthority c = true
  begins : ∀ c ∈ path.head?, isSlash c = true
  within : ∀ c ∈ path, inPath c = true
  ends : ∀ c ∈ rest.head?, inPath c = false

section Site

variable {readHost? : List Char → Option String}

theorem site?_nil (secure : Bool) : site? readHost? secure [] = none := rfl

theorem hostAndPort_append (cs : List Char) : (hostAndPort cs).1 ++ (hostAndPort cs).2 = cs := by
  unfold hostAndPort
  split
  · exact List.take_append_drop _ _
  · exact Text.run_append _ _

theorem isEdge_eq_false_of_isDigit {c : Char} (digit : c.isDigit = true) : isEdge c = false := by
  have low : 48 ≤ c.toNat := (Char.isDigit_iff_toNat.1 digit).1
  simp only [isEdge, decide_eq_false_iff_not]
  omega

theorem isEdge_eq_false_of_hexDigit {c : Char} (hex : (Text.hexDigit? c).isSome) :
    isEdge c = false := by
  unfold Text.hexDigit? at hex
  split at hex
  · next digit => exact isEdge_eq_false_of_isDigit digit
  · split at hex
    · next small =>
      have low : 97 ≤ c.toNat := small.1
      simp only [isEdge, decide_eq_false_iff_not]
      omega
    · split at hex
      · next large =>
        have low : 65 ≤ c.toNat := large.1
        simp only [isEdge, decide_eq_false_iff_not]
        omega
      · cases hex

theorem portNumber?_edge {c : Char} (edge : isEdge c = true) (secure : Bool) (cs : List Char) :
    portNumber? secure (cs ++ [c]) = none := by
  have digit : c.isDigit = false := by
    by_contra digit
    rw [Bool.not_eq_false] at digit
    rw [isEdge_eq_false_of_isDigit digit] at edge
    cases edge
  have colon : c ≠ ':' := by
    rintro rfl
    cases edge
  unfold portNumber?
  split
  · next nothing => simp at nothing
  · next alone => simp [List.append_eq_singleton_iff, colon] at alone
  · next digits _ more =>
    have other : Text.natural? digits = none := by
      have inside : c ∈ digits := by
        have last : c ∈ ':' :: digits := more ▸ List.mem_append_right cs List.mem_cons_self
        exact (List.mem_cons.1 last).resolve_left colon
      have some_other : digits.all Char.isDigit = false := by
        simpa using ⟨c, inside, digit⟩
      simp [Text.natural?, some_other]
    simp [other]
  · rfl

theorem site?_edge (strict : Strict readHost?) {c : Char} (edge : isEdge c = true) (secure : Bool)
    (cs : List Char) : site? readHost? secure (cs ++ [c]) = none := by
  have user : (c != '@') = true := by
    rw [bne_iff_ne]
    rintro rfl
    cases edge
  rw [site?, List.reverse_append, List.reverse_singleton, List.singleton_append,
    List.takeWhile_cons_of_pos (p := (· != '@')) user, List.reverse_cons]
  generalize (cs.reverse.takeWhile (· != '@')).reverse = behind
  have parts := hostAndPort_append (behind ++ [c])
  generalize hostAndPort (behind ++ [c]) = both at parts ⊢
  obtain ⟨host, digits⟩ := both
  replace parts : host ++ digits = behind ++ [c] := parts
  rcases List.eq_nil_or_concat digits with rfl | ⟨digits, d, rfl⟩
  · rw [List.append_nil] at parts
    have refused : readHost? host = none := by
      rw [← Option.not_isSome_iff_eq_none]
      intro named
      have free := strict host named c (by simp [parts])
      rw [edge] at free
      cases free
    simp [refused]
  · rw [List.concat_eq_append, ← List.append_assoc] at parts
    obtain rfl : d = c := by simpa using congrArg List.getLast? parts
    simp [portNumber?_edge edge]

theorem strict_readHost? : Strict Url.readHost? := by
  intro host named c member
  rw [Url.readHost?] at named
  split at named
  · next valid =>
    unfold validHost at valid
    split at valid
    · next rest =>
      simp only [Bool.and_eq_true, beq_iff_eq, List.all_eq_true, Bool.or_eq_true] at valid
      obtain ⟨closed, inner⟩ := valid
      rcases List.mem_cons.1 member with rfl | inside
      · rfl
      rw [← List.dropLast_append_getLast? _ closed, List.mem_append, List.mem_singleton] at inside
      rcases inside with inside | rfl
      · rcases inner c inside with (hex | same) | same
        · exact isEdge_eq_false_of_hexDigit hex
        · exact same ▸ rfl
        · exact same ▸ rfl
      · rfl
    · have free : ∀ d ∈ host, isForbidden d = false := by simpa using valid
      have allowed := free c member
      simp only [isForbidden, Bool.or_eq_false_iff] at allowed
      exact allowed.1.1
  · cases named

end Site

section Parse

variable {readHost? : List Char → Option String} {scheme slashes authority path rest : List Char}

theorem ofChars?_eq_none {cs : List Char} (none : ':' ∉ cs) :
    ofChars? readHost? cs = Option.none := by
  have rest : (Text.run (· != ':') cs).2 = [] := by
    rw [Text.run, List.dropWhile_eq_nil_iff]
    intro c member
    simpa using fun same : c = ':' => none (same ▸ member)
  simp [ofChars?, rest, Text.after?]

/-- The parts of a text are read one after the other. -/
theorem ofChars?_append (first : ':' ∉ scheme) (leading : ∀ c ∈ slashes, isSlash c = true)
    (named : ∀ c ∈ authority, inAuthority c = true) {tail : List Char}
    (stops : ∀ c ∈ tail.head?, inAuthority c = false)
    (bare : authority = [] → ∀ c ∈ tail.head?, isSlash c = false) :
    ofChars? readHost? (scheme ++ ':' :: (slashes ++ (authority ++ tail))) =
      (scheme? scheme).bind fun secure => (site? readHost? secure authority).map fun site =>
        ⟨secure, site.1, site.2, pathOf (tail.takeWhile inPath),
          queryOf (tail.dropWhile inPath)⟩ := by
  have before : ∀ c ∈ scheme, (c != ':') = true := by
    intro c member
    simpa using fun same : c = ':' => first (same ▸ member)
  have start : ∀ c ∈ (authority ++ tail).head?, isSlash c = false := by
    cases authority with
    | nil => exact bare rfl
    | cons c cs =>
      rintro d ⟨⟩
      have inside := named c List.mem_cons_self
      simp only [inAuthority, Bool.and_eq_true, Bool.not_eq_true'] at inside
      exact inside.1.1
  have parts := Text.run_append_of_stop named stops
  rw [Text.run, Prod.mk.injEq] at parts
  rw [ofChars?, Text.run_append_of_stop before (by simp)]
  simp only [Text.after?, if_true, Option.bind_eq_bind, Option.bind_some,
    Text.dropWhile_append leading start, Text.run, parts]
  cases scheme? scheme with
  | none => rfl
  | some secure =>
    rw [Option.bind_some, Option.bind_some, Option.map_eq_bind]
    rfl

theorem inAuthority_of_isSlash {c : Char} (slash : isSlash c = true) : inAuthority c = false := by
  simp [inAuthority, slash]

theorem inAuthority_of_not_inPath {c : Char} (mark : inPath c = false) : inAuthority c = false := by
  simp only [inPath, Bool.and_eq_false_iff] at mark
  rcases mark with mark | mark <;> simp [inAuthority, mark]

theorem Split.ofChars?_eq {cs : List Char} (split : Split cs scheme slashes authority path rest) :
    ofChars? readHost? cs = (scheme? scheme).bind fun secure =>
      (site? readHost? secure authority).map fun site =>
        ⟨secure, site.1, site.2, pathOf path, queryOf rest⟩ := by
  have stops : ∀ c ∈ (path ++ rest).head?, inAuthority c = false := by
    have ends := split.ends
    have begins := split.begins
    cases path with
    | nil => exact fun c mark => inAuthority_of_not_inPath (ends c mark)
    | cons d path => exact fun c slash => inAuthority_of_isSlash (begins c slash)
  have parts := Text.run_append_of_stop split.within split.ends
  rw [Text.run, Prod.mk.injEq] at parts
  rw [split.eq, ofChars?_append split.first split.leading split.named stops
    (fun empty => absurd empty split.filled), parts.1, parts.2]

/-- Nothing is said behind the slashes, or all parts are there. -/
theorem unhosted_or_split {cs behind : List Char} {sent : Url} (none : ':' ∉ behind)
    (named : ofChars? readHost? (cs ++ behind) = some sent) :
    (∃ scheme slashes, cs = scheme ++ ':' :: slashes ∧ ':' ∉ scheme ∧
        ∀ c ∈ slashes, isSlash c = true) ∨
      ∃ scheme slashes authority path rest, Split cs scheme slashes authority path rest := by
  have colon : ':' ∈ cs := by
    by_contra absent
    have nowhere : ':' ∉ cs ++ behind := by simp [absent, none]
    rw [ofChars?_eq_none nowhere] at named
    cases named
  obtain ⟨scheme, hosted, rfl, first⟩ := List.eq_append_cons_of_mem colon
  obtain ⟨slashes, hosted, rfl, leading, apart⟩ := Text.exists_run isSlash hosted
  obtain ⟨authority, tail, rfl, inside, mark⟩ := Text.exists_run inAuthority hosted
  by_cases unnamed : authority = []
  · subst unnamed
    cases tail with
    | nil => exact .inl ⟨scheme, slashes, by simp, first, leading⟩
    | cons c rest =>
      have whole : scheme ++ ':' :: (slashes ++ ([] ++ c :: rest)) ++ behind =
          scheme ++ ':' :: (slashes ++ ([] ++ (c :: rest ++ behind))) := by simp
      rw [whole, ofChars?_append first leading inside (by simpa using mark)
        (fun _ => by simpa using apart)] at named
      simp [site?_nil] at named
  · obtain ⟨path, rest, rfl, within, ends⟩ := Text.exists_run inPath tail
    refine .inr ⟨scheme, slashes, authority, path, rest, rfl, first, leading, unnamed, inside, ?_,
      within, ends⟩
    intro c head
    have in_path := within c (List.mem_of_mem_head? head)
    have stops := mark c (by simp [Option.mem_def.1 head])
    simp only [inPath, Bool.and_eq_true, bne_iff_ne] at in_path
    simpa [inAuthority, in_path] using stops

end Parse

section Joined

/-- What stands between a text and the name of a method once both are cleaned: nothing behind a
slash, and a slash behind all else. Controls at the end of the text are no longer at the end, and
stay. -/
inductive Joined (text cs : List Char) : List Char → Prop where
  | slash (last : text.getLast? = some '/') (same : cs.getLast? = some '/') : Joined text cs []
  | plain {c : Char} (last : text.getLast? = some c) (other : c ≠ '/') (free : isEdge c = false)
      (same : cs.getLast? = some c) : Joined text cs ['/']
  | control {c : Char} {others : List Char} (last : text.getLast? = some c)
      (edge : isEdge c = true) (some : others ≠ []) (edges : ∀ d ∈ others, isEdge d = true) :
      Joined text cs (others ++ ['/'])

variable {readHost? : List Char → Option String} {text cs between name : List Char}
  {scheme slashes authority path rest : List Char} {sent : Url}

theorem inAuthority_of_isEdge {c : Char} (edge : isEdge c = true) : inAuthority c = true := by
  have other (d : Char) (free : isEdge d = false) : (c == d) = false := by
    rw [beq_eq_false_iff_ne]
    rintro rfl
    rw [edge] at free
    cases free
  simp [inAuthority, isSlash, bne, other '/' rfl, other '\\' rfl, other '?' rfl, other '#' rfl]

theorem inPath_of_inAuthority {c : Char} (inside : inAuthority c = true) : inPath c = true := by
  simp only [inAuthority, Bool.and_eq_true] at inside
  simp [inPath, inside.1.2, inside.2]

theorem Token.inAuthority (token : Token name) : ∀ c ∈ name, inAuthority c = true := by
  intro c member
  have query : c ≠ '?' := token.ne member (by decide)
  have fragment : c ≠ '#' := token.ne member (by decide)
  simp [Url.inAuthority, token.not_slash c member, query, fragment]

theorem Joined.inPath (joined : Joined text cs between) (token : Token name) :
    ∀ c ∈ between ++ name, inPath c = true := by
  have named := fun c member => inPath_of_inAuthority (token.inAuthority c member)
  refine List.forall_mem_append.2 ⟨?_, named⟩
  cases joined with
  | slash => simp
  | plain => simp [Url.inPath]
  | control _ _ _ edges =>
    refine List.forall_mem_append.2 ⟨fun c member => ?_, by simp [Url.inPath]⟩
    exact inPath_of_inAuthority (inAuthority_of_isEdge (edges c member))

theorem Split.last_not_slash (split : Split cs scheme slashes authority path rest)
    (no_path : path = []) (no_rest : rest = []) : ∀ c ∈ cs.getLast?, isSlash c = false := by
  intro c last
  have same : cs.getLast? = authority.getLast? := by
    have eq : cs = (scheme ++ ':' :: slashes) ++ authority := by
      simp [split.eq, no_path, no_rest]
    rw [eq, List.getLast?_append_of_ne_nil _ split.filled]
  have inside := split.named c (List.mem_of_getLast? (same ▸ last))
  simp only [Url.inAuthority, Bool.and_eq_true, Bool.not_eq_true'] at inside
  exact inside.1.1

theorem ofChars?_edge (strict : Strict readHost?) (first : ':' ∉ scheme)
    (leading : ∀ c ∈ slashes, isSlash c = true) (named : ∀ c ∈ authority, inAuthority c = true)
    {others : List Char} (some : others ≠ []) (edges : ∀ c ∈ others, isEdge c = true)
    (tail : List Char) :
    ofChars? readHost? (scheme ++ ':' :: (slashes ++ ((authority ++ others) ++ '/' :: tail))) =
      none := by
  have all : ∀ c ∈ authority ++ others, inAuthority c = true :=
    List.forall_mem_append.2 ⟨named, fun c member => inAuthority_of_isEdge (edges c member)⟩
  have refused (secure : Bool) : site? readHost? secure (authority ++ others) = none := by
    obtain ⟨front, c, rfl⟩ := (List.eq_nil_or_concat' others).resolve_left some
    rw [← List.append_assoc]
    exact site?_edge strict (edges c (by simp)) secure _
  rw [ofChars?_append first leading all (by simp [Url.inAuthority, isSlash]) (by simp [some])]
  simp [refused]

theorem Joined.of_unhosted (joined : Joined text cs between) (token : Token name)
    (strict : Strict readHost?) (first : ':' ∉ scheme) (leading : ∀ c ∈ slashes, isSlash c = true)
    (eq : cs = scheme ++ ':' :: slashes)
    (named : ofChars? readHost? (cs ++ (between ++ name)) = some sent) :
    ofChars? readHost? cs = none ∧ sent.path = [""] ∧ sent.query = none := by
  have bare : ofChars? readHost? cs = none := by
    have read := @ofChars?_append readHost? scheme slashes [] first leading (by simp) [] (by simp)
      (by simp)
    rw [eq]
    simpa [site?_nil] using read
  have server (more : List Char) (more_leading : ∀ c ∈ more, isSlash c = true)
      (between_eq : between = more) : sent.path = [""] ∧ sent.query = none := by
    have read := @ofChars?_append readHost? scheme (slashes ++ more) name first
      (List.forall_mem_append.2 ⟨leading, more_leading⟩) token.inAuthority [] (by simp) (by simp)
    have same : cs ++ (between ++ name) =
        scheme ++ ':' :: ((slashes ++ more) ++ (name ++ [])) := by simp [eq, between_eq]
    rw [same, read] at named
    obtain ⟨secure, -, server⟩ := Option.bind_eq_some_iff.1 named
    obtain ⟨site, -, rfl⟩ := Option.map_eq_some_iff.1 server
    exact ⟨rfl, rfl⟩
  refine ⟨bare, ?_⟩
  cases joined with
  | slash => exact server [] (by simp) rfl
  | plain => exact server ['/'] (by simp [isSlash]) rfl
  | @control c others last edge some edges =>
    have refused := @ofChars?_edge readHost? scheme slashes [] strict first leading (by simp)
      others some edges name
    have same : cs ++ (others ++ ['/'] ++ name) =
        scheme ++ ':' :: (slashes ++ (([] ++ others) ++ '/' :: name)) := by simp [eq]
    rw [same, refused] at named
    cases named

theorem Split.of_longer (split : Split cs scheme slashes authority path rest)
    {longer path' rest' : List Char} (split' : Split longer scheme slashes authority path' rest')
    (named : ofChars? readHost? longer = some sent) :
    (∃ configured, ofChars? readHost? cs = some configured ∧ configured.path = pathOf path) ∧
      sent.path = pathOf path' ∧ sent.query = queryOf rest' := by
  rw [split'.ofChars?_eq] at named
  obtain ⟨secure, known, server⟩ := Option.bind_eq_some_iff.1 named
  obtain ⟨site, read, rfl⟩ := Option.map_eq_some_iff.1 server
  refine ⟨⟨⟨secure, site.1, site.2, pathOf path, queryOf rest⟩, ?_, rfl⟩, rfl, rfl⟩
  rw [split.ofChars?_eq, known, Option.bind_some, read]
  rfl

/-- What becomes of a name that is put behind a text: it is in the path, if nothing follows the
path, and else in what follows. -/
inductive Reaches (path rest between name : List Char) (sent : Url) : Prop where
  | inside (ends : rest = []) (at_host : path = [] → between = ['/'])
      (path_eq : sent.path = pathOf (path ++ (between ++ name))) (query_eq : sent.query = none)
  | behind (follows : rest ≠ []) (path_eq : sent.path = pathOf path)
      (query_eq : sent.query = queryOf (rest ++ (between ++ name)))

/-- Where a text names a server, the request goes there. -/
theorem Joined.of_split (joined : Joined text cs between) (token : Token name)
    (strict : Strict readHost?) (split : Split cs scheme slashes authority path rest)
    (named : ofChars? readHost? (cs ++ (between ++ name)) = some sent) :
    (∃ configured, ofChars? readHost? cs = some configured ∧ configured.path = pathOf path) ∧
      Reaches path rest between name sent := by
  have inside := joined.inPath token
  by_cases follows : rest = []
  · subst follows
    by_cases at_host : path = []
    · subst at_host
      have slash : between = ['/'] := by
        cases joined with
        | slash last same => exact absurd (split.last_not_slash rfl rfl '/' same) (by decide)
        | plain => rfl
        | @control c others last edge some edges =>
          have refused := @ofChars?_edge readHost? scheme slashes authority strict split.first
            split.leading split.named others some edges name
          have same : cs ++ (others ++ ['/'] ++ name) =
              scheme ++ ':' :: (slashes ++ ((authority ++ others) ++ '/' :: name)) := by
            simp [split.eq]
          rw [same, refused] at named
          cases named
      subst slash
      have longer : Split (cs ++ (['/'] ++ name)) scheme slashes authority ('/' :: name) [] :=
        ⟨by simp [split.eq], split.first, split.leading, split.filled, split.named,
          by simp [isSlash], inside, by simp⟩
      obtain ⟨known, path_eq, query_eq⟩ := split.of_longer longer named
      exact ⟨known, .inside rfl (fun _ => rfl) path_eq query_eq⟩
    · have longer : Split (cs ++ (between ++ name)) scheme slashes authority
          (path ++ (between ++ name)) [] :=
        ⟨by simp [split.eq], split.first, split.leading, split.filled, split.named,
          by rw [List.head?_append_of_ne_nil _ at_host]; exact split.begins,
          List.forall_mem_append.2 ⟨split.within, inside⟩, by simp⟩
      obtain ⟨known, path_eq, query_eq⟩ := split.of_longer longer named
      exact ⟨known, .inside rfl (fun empty => absurd empty at_host) path_eq query_eq⟩
  · have longer : Split (cs ++ (between ++ name)) scheme slashes authority path
        (rest ++ (between ++ name)) :=
      ⟨by simp [split.eq], split.first, split.leading, split.filled, split.named, split.begins,
        split.within, by rw [List.head?_append_of_ne_nil _ follows]; exact split.ends⟩
    obtain ⟨known, path_eq, query_eq⟩ := split.of_longer longer named
    exact ⟨known, .behind follows path_eq query_eq⟩

end Joined

section Cleaned

open Text (strip exists_strip strip_append head?_strip getLast?_strip)

theorem isEdge_of_isLineBreak {c : Char} (line : isLineBreak c = true) : isEdge c = true := by
  simp only [isLineBreak, Bool.or_eq_true, beq_iff_eq] at line
  rcases line with (rfl | rfl) | rfl <;> rfl

theorem isBlank_of_isLineBreak {c : Char} (line : isLineBreak c = true) :
    Text.isBlank c = true := by
  simp only [isLineBreak, Bool.or_eq_true, beq_iff_eq] at line
  rcases line with (rfl | rfl) | rfl <;> decide

theorem filter_of_not_edge {cs : List Char} (free : ∀ c ∈ cs, isEdge c = false) :
    cs.filter (!isLineBreak ·) = cs := by
  refine List.filter_eq_self.2 fun c member => ?_
  rw [Bool.not_eq_true', Bool.eq_false_iff]
  intro line
  have edge := isEdge_of_isLineBreak line
  rw [free c member] at edge
  cases edge

theorem cleaned_of_parts {text : String} {before core : List Char} (after : List Char)
    (eq : text.toList = before ++ core ++ after) (leading : ∀ c ∈ before, isEdge c = true)
    (trailing : ∀ c ∈ after, isEdge c = true) (first : ∀ c ∈ core.head?, isEdge c = false)
    (last : ∀ c ∈ core.getLast?, isEdge c = false) (filled : core ≠ []) :
    cleaned text = core.filter (!isLineBreak ·) := by
  have core_eq := strip_append leading trailing first last filled
  rw [← eq] at core_eq
  exact congrArg (List.filter (!isLineBreak ·)) core_eq

/-- Cleaning leaves every character that is no edge. -/
theorem mem_cleaned_iff {text : String} {c : Char} (free : isEdge c = false) :
    c ∈ cleaned text ↔ c ∈ text.toList := by
  obtain ⟨before, after, eq, leading, trailing⟩ := exists_strip isEdge text.toList
  have outside {ds : List Char} (edges : ∀ d ∈ ds, isEdge d = true) : c ∉ ds := by
    intro member
    rw [edges c member] at free
    cases free
  have kept : isLineBreak c = false := by
    rw [Bool.eq_false_iff]
    intro line
    rw [isEdge_of_isLineBreak line] at free
    cases free
  have whole : c ∈ text.toList ↔ c ∈ strip isEdge text.toList := by
    conv_lhs => rw [eq]
    simp [outside leading, outside trailing]
  change c ∈ (strip isEdge text.toList).filter (!isLineBreak ·) ↔ _
  simp [whole, kept]

theorem Token.not_edge {cs : List Char} (token : Token cs) : ∀ c ∈ cs, isEdge c = false := by
  intro c member
  have printed := (token.bounds c member).1
  simpa [isEdge] using printed

/-- With a name at its end a text is stripped at its start alone. -/
theorem cleaned_of_token {text : String} {before name : List Char} (token : Token name)
    (front : List Char) (eq : text.toList = before ++ (front ++ name))
    (leading : ∀ c ∈ before, isEdge c = true)
    (first : ∀ c ∈ front.head?, isEdge c = false) :
    cleaned text = front.filter (!isLineBreak ·) ++ name := by
  have begins : ∀ c ∈ (front ++ name).head?, isEdge c = false := by
    cases front with
    | nil => exact fun c head => token.not_edge c (List.mem_of_mem_head? head)
    | cons d front => exact first
  have ends : ∀ c ∈ (front ++ name).getLast?, isEdge c = false := by
    rw [List.getLast?_append_of_ne_nil _ token.filled]
    exact fun c last => token.not_edge c (List.mem_of_getLast? last)
  rw [cleaned_of_parts [] (by rw [eq, List.append_nil]) leading (by simp) begins ends
    (by simp [token.filled]), List.filter_append, filter_of_not_edge token.not_edge]

/-- What a slash at the end of a text takes. -/
def separator (text : String) : List Char := if text.toList.getLast? = some '/' then [] else ['/']

theorem toList_slashed (text : String) : (slashed text).toList = text.toList ++ separator text := by
  rw [separator]
  split
  · next ends => rw [slashed_of_slash ends, List.append_nil]
  · next ends => rw [toList_slashed_of_other ends]

theorem filter_separator (text : String) :
    (separator text).filter (!isLineBreak ·) = separator text := by
  rw [separator]
  split <;> rfl

/-- Of what is around a text, only what is in front of it goes when a name is put behind it. -/
theorem cleaned_slashed {text name : String} {before core after : List Char}
    (eq : text.toList = before ++ core ++ after) (leading : ∀ c ∈ before, isEdge c = true)
    (first : ∀ c ∈ core.head?, isEdge c = false) (filled : core ≠ []) (token : Token name.toList) :
    cleaned (slashed text ++ name) = core.filter (!isLineBreak ·) ++
      ((after.filter (!isLineBreak ·) ++ separator text) ++ name.toList) := by
  have named : (slashed text ++ name).toList =
      before ++ ((core ++ (after ++ separator text)) ++ name.toList) := by
    rw [String.toList_append, toList_slashed, eq]
    simp
  have head : ∀ c ∈ (core ++ (after ++ separator text)).head?, isEdge c = false := by
    rwa [List.head?_append_of_ne_nil _ filled]
  rw [cleaned_of_token token _ named leading head, List.filter_append, List.filter_append,
    filter_separator, List.append_assoc]

/-- What is put behind a text that is trimmed, as far as it is left. Of a text of controls nothing
is, and then there is no address. -/
theorem joined_or_edges {text : String} (filled : text.toList ≠ [])
    (trimmed : ∀ c ∈ text.toList.getLast?, Text.isBlank c = false) :
    (∃ between, Joined text.toList (cleaned text) between ∧
        ∀ name : String, Token name.toList →
          cleaned (slashed text ++ name) = cleaned text ++ (between ++ name.toList)) ∨
      ∀ name : String, Token name.toList → ':' ∉ cleaned (slashed text ++ name) := by
  obtain ⟨before, after, eq, leading, trailing⟩ := exists_strip isEdge text.toList
  have first := @head?_strip isEdge text.toList
  have last := @getLast?_strip isEdge text.toList
  have core_eq : cleaned text = (strip isEdge text.toList).filter (!isLineBreak ·) := rfl
  generalize strip isEdge text.toList = core at *
  obtain ⟨c, text_last⟩ : ∃ c, text.toList.getLast? = some c :=
    Option.isSome_iff_exists.1 (List.getLast?_isSome.2 filled)
  have kept : (!isLineBreak c) = true := by
    rw [Bool.not_eq_true', Bool.eq_false_iff]
    intro line
    have blank := isBlank_of_isLineBreak line
    rw [trimmed c text_last] at blank
    cases blank
  have other (edge : isEdge c = true) : separator text = ['/'] := by
    refine if_neg fun ends => ?_
    obtain rfl := Option.some.inj (text_last.symm.trans ends)
    cases edge
  by_cases empty : core = []
  · refine .inr fun name token => ?_
    subst empty
    rw [List.append_nil] at eq
    have all : ∀ d ∈ text.toList, isEdge d = true :=
      eq ▸ List.forall_mem_append.2 ⟨leading, trailing⟩
    have slash : separator text = ['/'] := other (all c (List.mem_of_getLast? text_last))
    have named : (slashed text ++ name).toList = text.toList ++ (['/'] ++ name.toList) := by
      rw [String.toList_append, toList_slashed, slash, List.append_assoc]
    rw [cleaned_of_token token _ named all (by simp [isEdge])]
    simp [token.not_mem]
  · refine .inl ⟨after.filter (!isLineBreak ·) ++ separator text, ?_, fun name token => ?_⟩
    · rcases List.eq_nil_or_concat' after with rfl | ⟨others, e, rfl⟩
      · obtain ⟨init, d, rfl⟩ := (List.eq_nil_or_concat' core).resolve_left empty
        rw [List.append_nil, ← List.append_assoc] at eq
        obtain rfl : d = c := by simpa [eq] using text_last
        have free : isEdge d = false := last d (by simp)
        have ending : (cleaned text).getLast? = some d := by
          rw [core_eq, List.filter_append, List.filter_cons_of_pos (p := (!isLineBreak ·)) kept]
          simp
        by_cases ends : d = '/'
        · subst ends
          rw [separator, if_pos text_last]
          exact .slash text_last ending
        · rw [separator, if_neg (by simpa [text_last] using ends)]
          exact .plain text_last ends free ending
      · rw [← List.append_assoc] at eq
        obtain rfl : e = c := by simpa [eq] using text_last
        have edge : isEdge e = true := trailing e (by simp)
        have member : e ∈ (others ++ [e]).filter (!isLineBreak ·) :=
          List.mem_filter.2 ⟨by simp, kept⟩
        rw [other edge]
        exact .control text_last edge (List.ne_nil_of_mem member)
          fun b inside => trailing b (List.mem_of_mem_filter inside)
    · rw [core_eq]
      exact cleaned_slashed eq leading first empty token

end Cleaned

end Url
end KeyRotation
