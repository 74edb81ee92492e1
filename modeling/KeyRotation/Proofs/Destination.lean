import Mathlib
import KeyRotation.Proofs.Address

/-! What a request asks its server for, against the address that was configured. The path is that of
the address with the method behind it if the address ends within its path. With a query or a
fragment in the address the method is no part of the path, and behind a fragment it is not sent. -/
namespace KeyRotation

namespace Url

/-- A text that ends within its path, and not with a backslash or a control. -/
structure Plain (text : List Char) : Prop where
  no_query : '?' ∉ text
  no_fragment : '#' ∉ text
  ending : ∀ c ∈ text.getLast?, c ≠ '\\' ∧ isEdge c = false

/-- The path of an address is that of the one that a text names, with a slash at its end, and the
method behind it. -/
def Names (readHost? : List Char → Option String) (text method : String) (sent : Url) : Prop :=
  ∃ configured, Url.parse? text readHost? = some configured ∧
    pathText sent.path = slashed (pathText configured.path) ++ method

section Reached

variable {readHost? : List Char → Option String} {text cs between name : List Char}
  {scheme slashes authority path rest : List Char} {sent : Url}

theorem notMem_scheme (known : (scheme? scheme).isSome) {c : Char} (mark : inPath c = false) :
    c ∉ scheme := by
  intro member
  have kept : c.toLower = c := by
    simp only [inPath, Bool.and_eq_false_iff, bne_eq_false_iff_eq] at mark
    rcases mark with rfl | rfl <;> decide
  have lower : c ∈ scheme.map Char.toLower := List.mem_map.2 ⟨c, member, kept⟩
  have word : scheme.map Char.toLower = "http".toList ∨
      scheme.map Char.toLower = "https".toList := by
    simp only [scheme?, ← String.toList_inj, String.toList_ofList] at known
    split at known
    · next http => exact .inl http
    · split at known
      · next https => exact .inr https
      · cases known
  simp only [inPath, Bool.and_eq_false_iff, bne_eq_false_iff_eq] at mark
  rcases word with word | word <;> rw [word] at lower <;> rcases mark with rfl | rfl <;>
    exact absurd lower (by decide)

theorem Split.mem_iff (split : Split cs scheme slashes authority path rest)
    (known : (scheme? scheme).isSome) {c : Char} (mark : inPath c = false) : c ∈ cs ↔ c ∈ rest := by
  have outside := inAuthority_of_not_inPath mark
  have in_scheme := notMem_scheme known mark
  have in_slashes : c ∉ slashes := by
    intro member
    have slash := split.leading c member
    simp only [isSlash, Bool.or_eq_true, beq_iff_eq] at slash
    rcases slash with rfl | rfl <;> cases mark
  have in_authority : c ∉ authority := by
    intro member
    rw [split.named c member] at outside
    cases outside
  have in_path : c ∉ path := by
    intro member
    rw [split.within c member] at mark
    cases mark
  have colon : c ≠ ':' := by
    rintro rfl
    cases mark
  simp [split.eq, in_scheme, colon, in_slashes, in_authority, in_path]

theorem Split.rest_eq_nil_iff (split : Split cs scheme slashes authority path rest) :
    rest = [] ↔ '?' ∉ rest ∧ '#' ∉ rest := by
  cases rest with
  | nil => simp
  | cons c rest =>
    have mark := split.ends c rfl
    simp only [inPath, Bool.and_eq_false_iff, bne_eq_false_iff_eq] at mark
    rcases mark with rfl | rfl <;> simp

theorem last_eq_nil_iff {front last : List Char} {slash c : Char} (divides : isSlash slash = true)
    (whole : ∀ d ∈ last, isSlash d = false) (ends : (front ++ slash :: last).getLast? = some c) :
    last = [] ↔ isSlash c = true := by
  rcases List.eq_nil_or_concat' last with rfl | ⟨last, d, rfl⟩
  · obtain rfl : slash = c := by simpa using ends
    simp [divides]
  · rw [← List.cons_append, ← List.append_assoc, List.getLast?_concat] at ends
    obtain rfl := Option.some.inj ends
    simp [whole d (by simp)]

theorem eq_slash_or_backslash {c : Char} (slash : isSlash c = true) : c = '/' ∨ c = '\\' := by
  simpa [isSlash] using slash

theorem Split.getLast?_path (split : Split cs scheme slashes authority path [])
    (filled : path ≠ []) : cs.getLast? = path.getLast? := by
  have parts : cs = (scheme ++ ':' :: (slashes ++ authority)) ++ path := by simp [split.eq]
  rw [parts, List.getLast?_append_of_ne_nil _ filled]

theorem Joined.names_at_host (joined : Joined text cs ['/'])
    (split : Split cs scheme slashes authority [] []) (token : Token name) :
    (pathText (pathOf (['/'] ++ name))).toList = (slashed (pathText (pathOf []))).toList ++ name ∧
      ∀ c ∈ text.getLast?, c ≠ '\\' ∧ isEdge c = false := by
  refine ⟨toList_pathText_token (rfl : isSlash '/' = true) [] token, fun d member => ?_⟩
  generalize between_eq : ['/'] = between at joined
  cases joined with
  | slash => cases between_eq
  | plain last other free same =>
    obtain rfl := Option.some.inj (last.symm.trans member)
    have apart := split.last_not_slash rfl rfl _ same
    refine ⟨?_, free⟩
    rintro rfl
    cases apart
  | control last edge some => simp [some] at between_eq

/-- Behind a path the method follows it, unless the path ends with a slash of the other kind, or
with controls. -/
theorem Joined.names_iff_in_path (joined : Joined text cs between)
    (split : Split cs scheme slashes authority path []) (filled : path ≠ []) (token : Token name) :
    (pathText (pathOf (path ++ (between ++ name)))).toList =
        (slashed (pathText (pathOf path))).toList ++ name ↔
      ∀ c ∈ text.getLast?, c ≠ '\\' ∧ isEdge c = false := by
  have last_same := split.getLast?_path filled
  obtain ⟨d, begins⟩ := Option.isSome_iff_exists.1 (List.isSome_head?.2 filled)
  obtain ⟨front, slash, part, rfl, divides, whole⟩ :=
    exists_last_slash ⟨d, List.mem_of_head? begins, split.begins d begins⟩
  cases joined with
  | slash last same =>
    rw [same] at last_same
    obtain rfl : part = [] := (last_eq_nil_iff divides whole last_same.symm).2 rfl
    obtain rfl : slash = '/' := by simpa using last_same.symm
    refine iff_of_true ?_ fun e member => ?_
    · rw [List.nil_append, List.append_assoc, List.cons_append, List.nil_append,
        toList_pathText_token divides front token, pathOf_append divides front whole,
        toList_slashed_leaf _ whole, if_pos rfl]
    · obtain rfl := Option.some.inj (last.symm.trans member)
      exact ⟨by decide, rfl⟩
  | @plain c last other free same =>
    have none : ∀ c ∈ ([] : List Char), isEdge c = true := List.forall_mem_nil _
    have named := names_iff divides front whole none token
    rw [same] at last_same
    rw [List.singleton_append, ← List.nil_append ('/' :: name), named,
      Ne, last_eq_nil_iff divides whole last_same.symm, last]
    simp only [true_and, Option.mem_some_iff, forall_eq', free, and_true]
    refine not_congr ⟨fun divides => (eq_slash_or_backslash divides).resolve_left other, ?_⟩
    rintro rfl
    rfl
  | @control c others last edge some edges =>
    have named := names_iff divides front whole edges token
    rw [List.append_assoc others, List.singleton_append, named, last]
    simp [some, edge]

/-- A method that is put behind a text follows its path just when the text ends within the path. -/
theorem Reaches.names_iff (reaches : Reaches path rest between name sent)
    (joined : Joined text cs between) (split : Split cs scheme slashes authority path rest)
    (token : Token name) :
    (pathText sent.path).toList = (slashed (pathText (pathOf path))).toList ++ name ↔
      rest = [] ∧ ∀ c ∈ text.getLast?, c ≠ '\\' ∧ isEdge c = false := by
  cases reaches with
  | behind follows path_eq =>
    refine iff_of_false (fun same => ?_) (fun plain => follows plain.1)
    have grown : (pathText (pathOf path)).toList.length ≤
        (slashed (pathText (pathOf path))).toList.length := by
      rw [slashed]
      split <;> simp
    have filled := List.length_pos_of_ne_nil token.filled
    have size := congrArg List.length same
    rw [path_eq, List.length_append] at size
    omega
  | inside ends at_host path_eq =>
    subst ends
    rw [path_eq, eq_self, true_and]
    by_cases host : path = []
    · subst host
      obtain rfl := at_host rfl
      exact iff_of_true (joined.names_at_host split token).1 (joined.names_at_host split token).2
    · exact joined.names_iff_in_path split host token

theorem target_eq (url : Url) :
    url.target = pathText url.path ++ url.query.elim "" ("?" ++ ·) := rfl

theorem Joined.exists_folder (joined : Joined text cs between)
    (split : Split cs scheme slashes authority path []) (at_host : path = [] → between = ['/']) :
    ∃ front, path ++ between = front ++ ['/'] := by
  cases joined with
  | slash last same =>
    have filled : path ≠ [] := fun host => by cases at_host host
    rw [split.getLast?_path filled] at same
    exact ⟨path.dropLast, by rw [List.append_nil, List.dropLast_append_getLast? _ same]⟩
  | plain => exact ⟨path, rfl⟩
  | @control c others => exact ⟨path ++ others, (List.append_assoc ..).symm⟩

/-- Requests for different methods have the same target just when the text has a fragment. -/
theorem Reaches.target_eq_iff {name' : List Char} {sent' : Url}
    (reaches : Reaches path rest between name sent)
    (reaches' : Reaches path rest between name' sent') (joined : Joined text cs between)
    (split : Split cs scheme slashes authority path rest) (token : Token name)
    (token' : Token name') (other : name ≠ name') : sent.target = sent'.target ↔ '#' ∈ rest := by
  rw [target_eq, target_eq]
  cases reaches with
  | inside ends at_host path_eq query_eq =>
    cases reaches' with
    | behind follows => exact absurd ends follows
    | inside _ _ path_eq' query_eq' =>
      subst ends
      obtain ⟨front, folder⟩ := joined.exists_folder split at_host
      refine iff_of_false (fun same => other ?_) List.not_mem_nil
      rw [query_eq, query_eq', path_eq, path_eq', ← List.append_assoc, ← List.append_assoc, folder,
        List.append_assoc, List.append_assoc, ← String.toList_inj] at same
      simpa [toList_pathText_token (rfl : isSlash '/' = true) front token,
        toList_pathText_token (rfl : isSlash '/' = true) front token'] using same
  | behind follows path_eq query_eq =>
    cases reaches' with
    | inside ends => exact absurd ends follows
    | behind _ path_eq' query_eq' =>
      rw [path_eq, path_eq', query_eq, query_eq', ← String.toList_inj, String.toList_append,
        String.toList_append, List.append_cancel_left_eq]
      obtain ⟨c, query, rfl⟩ := List.exists_cons_of_ne_nil follows
      have mark := split.ends c rfl
      simp only [inPath, Bool.and_eq_false_iff, bne_eq_false_iff_eq] at mark
      rcases mark with rfl | rfl
      · have unmarked {word : List Char} (token : Token word) :
            ∀ d ∈ between ++ word, (d != '#') = true := by
          intro d member
          have inside := joined.inPath token d member
          simp only [inPath, Bool.and_eq_true] at inside
          exact inside.2
        have free : ∀ d ∈ querySet, ¬(d.isLower = true ∨ d = '_') := by simp [querySet]
        simp only [List.cons_append, queryOf, Option.elim_some, String.toList_append,
          String.toList_ofList, List.append_cancel_left_eq, List.mem_cons, Char.reduceEq, false_or]
        by_cases fragment : '#' ∈ query
        · obtain ⟨front, back, rfl, before⟩ := List.eq_append_cons_of_mem fragment
          have kept : ∀ d ∈ front, (d != '#') = true := by
            intro d member
            exact bne_iff_ne.2 fun same => before (same ▸ member)
          simp [List.takeWhile_append_of_pos kept]
        · have kept : ∀ d ∈ query, (d != '#') = true := by
            intro d member
            exact bne_iff_ne.2 fun same => fragment (same ▸ member)
          have whole {word : List Char} (token : Token word) :
              encode querySet ((query ++ (between ++ word)).takeWhile (· != '#')) =
                encode querySet (query ++ between) ++ word := by
            rw [List.takeWhile_append_of_pos kept, List.takeWhile_eq_self_iff.2 (unmarked token),
              ← List.append_assoc, encode_append, token.encode_eq free]
          rw [whole token, whole token', List.append_cancel_left_eq]
          exact iff_of_false other fragment
      · simp [queryOf]

end Reached

section Sent

variable {readHost? : List Char → Option String} {text : String}

/-- Where all requests to a text go. -/
inductive Sending (readHost? : List Char → Option String) (text : String) : Prop where
  | unhosted (unnamed : parse? text readHost? = none)
      (sends : ∀ (name : String) (sent : Url), Token name.toList →
        parse? (slashed text ++ name) readHost? = some sent → sent.path = [""] ∧ sent.query = none)
  | hosted {between scheme slashes authority path rest : List Char} {configured : Url}
      (joined : Joined text.toList (cleaned text) between)
      (split : Split (cleaned text) scheme slashes authority path rest)
      (known : parse? text readHost? = some configured) (path_eq : configured.path = pathOf path)
      (sends : ∀ (name : String) (sent : Url), Token name.toList →
        parse? (slashed text ++ name) readHost? = some sent →
        Reaches path rest between name.toList sent)

theorem sending_of_sent (strict : Strict readHost?) (filled : text.toList ≠ [])
    (trimmed : ∀ c ∈ text.toList.getLast?, Text.isBlank c = false) {name : String} {sent : Url}
    (token : Token name.toList) (named : parse? (slashed text ++ name) readHost? = some sent) :
    Sending readHost? text := by
  rcases joined_or_edges filled trimmed with ⟨between, joined, cleaned_eq⟩ | colonless
  · have put {word : String} (token : Token word.toList) {url : Url}
        (named : parse? (slashed text ++ word) readHost? = some url) :
        ofChars? readHost? (cleaned text ++ (between ++ word.toList)) = some url := by
      rwa [parse?, cleaned_eq word token] at named
    have unmarked : ':' ∉ between ++ name.toList := by
      rw [List.mem_append, not_or]
      refine ⟨?_, token.not_mem (by decide)⟩
      cases joined with
      | slash => simp
      | plain => simp
      | control _ _ _ edges =>
        rw [List.mem_append, not_or]
        exact ⟨fun member => absurd (edges _ member) (by decide), by simp⟩
    rcases unhosted_or_split unmarked (put token named) with
      ⟨scheme, slashes, eq, first, leading⟩ | ⟨scheme, slashes, authority, path, rest, split⟩
    · refine .unhosted (joined.of_unhosted token strict first leading eq (put token named)).1 ?_
      exact fun word url token named =>
        (joined.of_unhosted token strict first leading eq (put token named)).2
    · obtain ⟨⟨configured, known, path_eq⟩, -⟩ :=
        joined.of_split token strict split (put token named)
      exact .hosted joined split known path_eq fun word url token named =>
        (joined.of_split token strict split (put token named)).2
  · rw [parse?, ofChars?_eq_none (colonless name token)] at named
    cases named

theorem Split.isSome_scheme? {cs scheme slashes authority path rest : List Char} {url : Url}
    (split : Split cs scheme slashes authority path rest)
    (known : ofChars? readHost? cs = some url) : (scheme? scheme).isSome := by
  rw [split.ofChars?_eq] at known
  obtain ⟨secure, scheme_eq, -⟩ := Option.bind_eq_some_iff.1 known
  simp [scheme_eq]

theorem Sending.names_iff (sending : Sending readHost? text) {name : String} {sent : Url}
    (token : Token name.toList) (named : parse? (slashed text ++ name) readHost? = some sent) :
    Names readHost? text name sent ↔
      Plain text.toList ∧ (parse? text readHost?).isSome := by
  cases sending with
  | unhosted unnamed => simp [Names, unnamed]
  | @hosted between _ _ _ path rest configured joined split known path_eq sends =>
    have named_iff := (sends name sent token named).names_iff joined split token
    have marks {c : Char} (mark : inPath c = false) : c ∈ text.toList ↔ c ∈ rest := by
      have free : isEdge c = false := by
        simp only [inPath, Bool.and_eq_false_iff, bne_eq_false_iff_eq] at mark
        rcases mark with rfl | rfl <;> rfl
      rw [← mem_cleaned_iff free, split.mem_iff (split.isSome_scheme? known) mark]
    have bare : rest = [] ↔ '?' ∉ text.toList ∧ '#' ∉ text.toList := by
      rw [marks rfl, marks rfl, split.rest_eq_nil_iff]
    have law : Names readHost? text name sent ↔ (pathText sent.path).toList =
        (slashed (pathText (pathOf path))).toList ++ name.toList := by
      rw [← String.toList_append, String.toList_inj, ← path_eq]
      constructor
      · rintro ⟨url, url_known, same⟩
        obtain rfl := Option.some.inj (known.symm.trans url_known)
        exact same
      · exact fun same => ⟨configured, known, same⟩
    rw [law, named_iff, bare, known]
    constructor
    · rintro ⟨⟨no_query, no_fragment⟩, ending⟩
      exact ⟨⟨no_query, no_fragment, ending⟩, rfl⟩
    · rintro ⟨plain, -⟩
      exact ⟨⟨plain.no_query, plain.no_fragment⟩, plain.ending⟩

theorem Sending.target_eq_iff (sending : Sending readHost? text) {name name' : String}
    {sent sent' : Url} (token : Token name.toList) (token' : Token name'.toList)
    (named : parse? (slashed text ++ name) readHost? = some sent)
    (named' : parse? (slashed text ++ name') readHost? = some sent') (other : name ≠ name') :
    sent.target = sent'.target ↔ '#' ∈ text.toList ∨ parse? text readHost? = none := by
  cases sending with
  | unhosted unnamed sends =>
    obtain ⟨path_eq, query_eq⟩ := sends name sent token named
    obtain ⟨path_eq', query_eq'⟩ := sends name' sent' token' named'
    simp [target_eq, path_eq, path_eq', query_eq, query_eq', unnamed]
  | @hosted between _ _ _ path rest configured joined split known path_eq sends =>
    have same_iff := (sends name sent token named).target_eq_iff (sends name' sent' token' named')
      joined split token token' (mt String.toList_inj.1 other)
    rw [same_iff, ← split.mem_iff (split.isSome_scheme? known) rfl, mem_cleaned_iff rfl, known]
    simp

end Sent

end Url

namespace Client

/-- A request that a client sends, with the method that it is for. -/
inductive Sends (client : Client) (readHost? : List Char → Option String) :
    String → Request → Prop where
  | status {request : Request} (sent : client.statusRequest? readHost? = some request) :
      Sends client readHost? "status" request
  | batch {kind : KeyKind} {batch : Batch} {request : Request}
      (sent : client.batchRequest? kind batch readHost? = some request) :
      Sends client readHost? kind.method request

variable {client : Client} {readHost? : List Char → Option String} {url method : String}
  {request : Request}

theorem Sends.token (sends : client.Sends readHost? method request) : Url.Token method.toList := by
  cases sends with
  | status => exact ⟨by simp, by simp⟩
  | @batch kind => cases kind <;> exact ⟨by simp [KeyKind.method], by simp [KeyKind.method]⟩

theorem Sends.parse?_eq (sends : client.Sends readHost? method request) :
    Url.parse? (client.baseUrl ++ method) readHost? = some request.url := by
  have address {parameters : List (String × Int)}
      (sent : client.request? method parameters readHost? = some request) :
      Url.parse? (client.baseUrl ++ method) readHost? = some request.url := by
    obtain ⟨url, named, rfl⟩ := Option.map_eq_some_iff.1 sent
    exact named
  cases sends with
  | status sent => exact address sent
  | batch sent => exact address sent

theorem baseUrl_of_ofUrl (made : ofUrl url = .ok client) :
    (Text.trim url).toList ≠ [] ∧ client.baseUrl = Url.slashed (Text.trim url) := by
  simp only [ofUrl] at made
  split at made
  · cases made
  · next filled =>
    cases made
    refine ⟨fun empty => filled ?_, rfl⟩
    rw [String.isEmpty_iff, ← String.toList_inj, empty]
    rfl

theorem getLast?_trim (text : String) :
    ∀ c ∈ (Text.trim text).toList.getLast?, Text.isBlank c = false := by
  rw [Text.trim, String.toList_ofList]
  exact Text.getLast?_strip text.toList

theorem Sends.sending (strict : Url.Strict readHost?) (made : ofUrl url = .ok client)
    (sends : client.Sends readHost? method request) : Url.Sending readHost? (Text.trim url) := by
  obtain ⟨filled, base⟩ := baseUrl_of_ofUrl made
  exact Url.sending_of_sent strict filled (getLast?_trim url) sends.token
    (base ▸ sends.parse?_eq)

end Client

/-- The path of a request is that of the configured address and the method just when the address
ends within its path, not with a backslash or a control, and names a server. Requests for different
methods have the same target just when the address has a fragment or names no server. -/
theorem method_named_iff_plain {url : String} {client : Client}
    {readHost? : List Char → Option String} (strict : Url.Strict readHost?)
    (made : Client.ofUrl url = .ok client) :
    (∀ method request, client.Sends readHost? method request →
      (Url.Names readHost? (Text.trim url) method request.url ↔
        Url.Plain (Text.trim url).toList ∧ (Url.parse? (Text.trim url) readHost?).isSome)) ∧
    ∀ method request method' request', client.Sends readHost? method request →
      client.Sends readHost? method' request' → method ≠ method' →
      (request.url.target = request'.url.target ↔
        '#' ∈ (Text.trim url).toList ∨ Url.parse? (Text.trim url) readHost? = none) := by
  obtain ⟨-, base⟩ := Client.baseUrl_of_ofUrl made
  constructor
  · intro method request sends
    exact (sends.sending strict made).names_iff sends.token (base ▸ sends.parse?_eq)
  · intro method request method' request' sends sends' other
    exact (sends.sending strict made).target_eq_iff sends.token sends'.token
      (base ▸ sends.parse?_eq) (base ▸ sends'.parse?_eq) other

theorem keyapi_methods_named :
    ∃ client kek hmac, Client.ofUrl "http://h/keyapi" = .ok client ∧
      client.batchRequest? .kek ⟨1, 2⟩ = some kek ∧ client.batchRequest? .hmac ⟨1, 2⟩ = some hmac ∧
      Url.Names Url.readHost? "http://h/keyapi" "reencrypt_deks" kek.url ∧
      Url.Names Url.readHost? "http://h/keyapi" "rehash_tokens" hmac.url ∧
      kek.url.target ≠ hmac.url.target := by
  have made : Client.ofUrl "http://h/keyapi" = .ok ⟨"http://h/keyapi/", 30⟩ := by rfl
  have trimmed : Text.trim "http://h/keyapi" = "http://h/keyapi" := by cbv
  have kek : Client.batchRequest? ⟨"http://h/keyapi/", 30⟩ .kek ⟨1, 2⟩ =
      some ⟨⟨false, "h", none, ["keyapi", "reencrypt_deks"], none⟩, "id_min=1&id_max=2"⟩ := by rfl
  have hmac : Client.batchRequest? ⟨"http://h/keyapi/", 30⟩ .hmac ⟨1, 2⟩ =
      some ⟨⟨false, "h", none, ["keyapi", "rehash_tokens"], none⟩, "id_min=1&id_max=2"⟩ := by rfl
  have known : (Url.parse? "http://h/keyapi").isSome := by cbv
  have plain : Url.Plain "http://h/keyapi".toList := ⟨by simp, by simp, by simp [Url.isEdge]⟩
  obtain ⟨named, apart⟩ := method_named_iff_plain Url.strict_readHost? made
  rw [trimmed] at named apart
  refine ⟨_, _, _, made, kek, hmac, (named _ _ (.batch kek)).2 ⟨plain, known⟩,
    (named _ _ (.batch hmac)).2 ⟨plain, known⟩, ?_⟩
  rw [Ne, apart _ _ _ _ (.batch kek) (.batch hmac) (by decide), not_or]
  exact ⟨plain.no_fragment, Option.isSome_iff_ne_none.1 known⟩

/-- Behind a fragment the method is not sent: both kinds ask for the same. -/
theorem fragment_hides_method :
    ∃ client kek hmac, Client.ofUrl "http://h/keyapi#v1" = .ok client ∧
      client.batchRequest? .kek ⟨1, 2⟩ = some kek ∧ client.batchRequest? .hmac ⟨1, 2⟩ = some hmac ∧
      ¬Url.Names Url.readHost? "http://h/keyapi#v1" "reencrypt_deks" kek.url ∧
      kek.url.target = "/keyapi" ∧ hmac = kek := by
  have configured : Url.parse? "http://h/keyapi#v1" =
      some ⟨false, "h", none, ["keyapi"], none⟩ := by
    decide +kernel
  refine ⟨⟨"http://h/keyapi#v1/", 30⟩, ⟨⟨false, "h", none, ["keyapi"], none⟩, "id_min=1&id_max=2"⟩,
    _, by rfl, by rfl, by rfl, ?_, by decide +kernel, rfl⟩
  rintro ⟨url, known, same⟩
  obtain rfl := Option.some.inj (configured.symm.trans known)
  revert same
  decide +kernel

end KeyRotation
