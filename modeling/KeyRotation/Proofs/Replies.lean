import Mathlib
import KeyRotation.Client
import KeyRotation.Proofs.Breakdown
import KeyRotation.Proofs.Decoding

/-! A run whose key authority answers over the web. Only the replies that report success and can
be decoded in full count; the first one that does not is the end of the run. -/
namespace KeyRotation

inductive Exchange where
  | status (response : Response)
  | batch (kind : KeyKind) (batch : Batch) (response : Response)
  deriving DecidableEq, Repr

namespace Exchange

def response : Exchange → Response
  | .status response => response
  | .batch _ _ response => response

def event : Exchange → Event
  | .status response => .status (Client.readStatus (.answered response))
  | .batch kind sent response => .migrate kind sent (Client.readOutcome (.answered response))

end Exchange

/-- The state of a world whose authority is reached over the web, with all that was exchanged
so far. -/
structure Wire (σ : Type) where
  rest : σ
  heard : List Exchange := []

/-- The authority's replies are given in advance, the rest of the world answers as it did. What
requests to the authority change in it is left to the rest. -/
def Wire.world {σ : Type} (rest : World σ) (replies : Nat → Response) : World (Wire σ)
  | wire, .status =>
    let response := replies wire.heard.length
    (Client.readStatus (.answered response),
      ⟨(rest wire.rest .status).2, wire.heard ++ [.status response]⟩)
  | wire, .migrate kind batch =>
    let response := replies wire.heard.length
    (Client.readOutcome (.answered response),
      ⟨(rest wire.rest (.migrate kind batch)).2, wire.heard ++ [.batch kind batch response]⟩)
  | wire, .now => ((rest wire.rest .now).1, { wire with rest := (rest wire.rest .now).2 })
  | wire, .target kind =>
    ((rest wire.rest (.target kind)).1, { wire with rest := (rest wire.rest (.target kind)).2 })
  | wire, .pending kind version =>
    ((rest wire.rest (.pending kind version)).1,
      { wire with rest := (rest wire.rest (.pending kind version)).2 })

/-- A reply that is no error and has a document for its body. -/
structure Response.Carries (response : Response) (root : Xml.Element) : Prop where
  code : ¬(400 ≤ response.code ∧ response.code < 600)
  body : Xml.read? response.text = some root

namespace Exchange

/-- The reply is a document that can be decoded in full. -/
def Accepted : Exchange → Prop
  | .status response => ∃ root, response.Carries root ∧ Reply.StatusReadable root
  | .batch _ _ response => ∃ root, response.Carries root ∧ Reply.OutcomeReadable root

def count (name : String) : Exchange → Nat
  | .status _ => 0
  | .batch _ _ response =>
    match Xml.read? response.text with
    | none => 0
    | some root => (Reply.countOf root name).toNat

end Exchange

def Fault.OfReply : Fault → Prop
  | .http | .xml | .protocol _ => True
  | _ => False

/-- A reply is decoded if it carries a document that the decoder reads, and is a fault if not. -/
theorem decoded_cases {α : Type} {decode : Xml.Element → Except Fault α}
    {readable : Xml.Element → Prop} (decides : ∀ root, Reply.Decides (readable root) (decode root))
    (response : Response) :
    let result := Client.received (.answered response) >>= fun body =>
      Reply.document body >>= decode
    (∃ root value, response.Carries root ∧ readable root ∧ decode root = .ok value ∧
        result = .ok value) ∨
      (¬∃ root, response.Carries root ∧ readable root) ∧
        ∃ fault, result = .error fault ∧ fault.OfReply := by
  intro result
  by_cases error : response.isError
  · refine .inr ⟨fun ⟨root, carries, _⟩ => carries.code ?_, .http, ?_, trivial⟩
    · simpa [Response.isError] using error
    · simp [result, Client.received, error, bind, Except.bind]
  have code : ¬(400 ≤ response.code ∧ response.code < 600) := by
    simpa [Response.isError] using error
  have received : Client.received (.answered response) = .ok response.text := by
    simp [Client.received, error]
  cases document : Xml.read? response.text with
  | none =>
    refine .inr ⟨fun ⟨root, carries, _⟩ => ?_, .xml, ?_, trivial⟩
    · simpa [document] using carries.body
    · simp [result, received, Reply.document, document, bind, Except.bind]
  | some root =>
    have carries : response.Carries root := ⟨code, document⟩
    have same : result = decode root := by
      simp [result, received, Reply.document, document, bind, Except.bind]
    by_cases reads : readable root
    · obtain ⟨value, decoded⟩ := (decides root).value reads
      exact .inl ⟨root, value, carries, reads, decoded, same.trans decoded⟩
    · obtain ⟨cause, failed⟩ := (decides root).fault reads
      refine .inr ⟨?_, _, same.trans failed, trivial⟩
      rintro ⟨other, carried, held⟩
      obtain rfl := Option.some.inj (document.symm.trans carried.body)
      exact reads held

namespace Exchange

/-- A run takes the numbers of a reply that is accepted, and a fault from any other. -/
theorem event_cases (x : Exchange) :
    (x.Accepted ∧ x.event.fault? = none ∧ x.event.converted = x.count "converted" ∧
        x.event.failed = x.count "failed") ∨
      ¬x.Accepted ∧ ∃ fault, x.event.fault? = some fault ∧ fault.OfReply := by
  cases x with
  | status response =>
    rcases decoded_cases Reply.decides_status response with
      ⟨root, keys, carries, readable, -, decoded⟩ | ⟨rejected, fault, failed, kind⟩
    · have event : (Exchange.status response).event = .status (.ok keys) := congrArg _ decoded
      exact .inl ⟨⟨root, carries, readable⟩, by simp [event, Event.fault?, Event.converted,
        Event.failed, count]⟩
    · have event : (Exchange.status response).event = .status (.error fault) := congrArg _ failed
      exact .inr ⟨rejected, fault, by simp [event, Event.fault?], kind⟩
  | batch kind sent response =>
    rcases decoded_cases Reply.decides_outcome response with
      ⟨root, outcome, carries, readable, told, decoded⟩ | ⟨rejected, fault, failed, ofReply⟩
    · have event : (Exchange.batch kind sent response).event = .migrate kind sent (.ok outcome) :=
        congrArg _ decoded
      exact .inl ⟨⟨root, carries, readable⟩, by simp [event, Event.fault?, Event.converted,
        Event.failed, count, carries.body, Reply.outcome_eq told]⟩
    · have event : (Exchange.batch kind sent response).event = .migrate kind sent (.error fault) :=
        congrArg _ failed
      exact .inr ⟨rejected, fault, by simp [event, Event.fault?], ofReply⟩

theorem accepted_iff (x : Exchange) : x.Accepted ↔ x.event.fault? = none := by
  rcases x.event_cases with ⟨accepted, clean, -⟩ | ⟨rejected, fault, failed, -⟩
  · exact iff_of_true accepted clean
  · exact iff_of_false rejected (by simp [failed])

end Exchange

namespace Wire

variable {σ : Type} {rest : World σ} {replies : Nat → Response}

theorem heard_of_path {events : List Event} {wire after : Wire σ}
    (path : (world rest replies).Path wire events after) :
    ∃ new, after.heard = wire.heard ++ new ∧
      new.map Exchange.event = events.filter Event.isToAuthority := by
  induction events generalizing wire with
  | nil =>
    obtain rfl := path
    exact ⟨[], by simp⟩
  | cons event later ih =>
    obtain ⟨answer, path⟩ := path
    obtain ⟨new, heard, same⟩ := ih path
    cases event with
    | now | target | pending => exact ⟨new, heard, same⟩
    | status =>
      refine ⟨.status (replies wire.heard.length) :: new, ?_, ?_⟩
      · rw [heard]
        simp [world, Event.call]
      · rw [List.map_cons, same]
        exact congrArg (· :: _) answer
    | migrate kind batch =>
      refine ⟨.batch kind batch (replies wire.heard.length) :: new, ?_, ?_⟩
      · rw [heard]
        simp [world, Event.call]
      · rw [List.map_cons, same]
        exact congrArg (· :: _) answer

theorem responses_of_path {events : List Event} {wire after : Wire σ}
    (path : (world rest replies).Path wire events after)
    (begun : wire.heard.map Exchange.response = (List.range wire.heard.length).map replies) :
    after.heard.map Exchange.response = (List.range after.heard.length).map replies := by
  refine World.path_invariant
    (fun wire => wire.heard.map Exchange.response = (List.range wire.heard.length).map replies)
    (fun wire request kept => ?_) path begun
  cases request with
  | now | target | pending => exact kept
  | status | migrate => simp [world, Exchange.response, kept, List.range_succ]

end Wire

/-- Of two byte order marks only the first is passed over. -/
example :
    let document := "<result><status>success</status><converted>2</converted></result>"
    let mark : List UInt8 := [0xef, 0xbb, 0xbf]
    Client.readOutcome (.answered ⟨200, mark ++ document.toUTF8.toList⟩) = .ok ⟨2, 0⟩ ∧
      Client.readOutcome (.answered ⟨200, mark ++ mark ++ document.toUTF8.toList⟩) =
        .error .xml := by
  decide +kernel

def granted (n : Nat) : Response where
  code := 200
  body := (if n = 0 then
      "<result><status>success</status><hmac_keys><hmac version=\"7\"/></hmac_keys></result>"
    else "<result><status> success </status><failed>1</failed></result>").toUTF8.toList

/-- A status with one key, and then a count that is no numeral. -/
def garbled (n : Nat) : Response :=
  if n = 0 then granted 0
  else ⟨200, "<result><status>success</status><failed>1 row</failed></result>".toUTF8.toList⟩

def nineLeft : Script where
  targets := [.ok (some 7)]
  ranges := [.ok (IdRange.of? (-3) 5)]

def wired (replies : Nat → Response) : Except Fault Report × Wire Script :=
  (migrate .hmac ⟨16, none, false, by decide⟩ id).drive (Wire.world Script.world replies)
    ⟨nineLeft, []⟩

end KeyRotation
