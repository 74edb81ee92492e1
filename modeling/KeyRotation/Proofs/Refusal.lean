import Mathlib
import KeyRotation.Proofs.Replies

/-! Which codes of a reply make it a transport error. A reply with any other code is as good as a
success, for a call and for a whole run: it is what its body says. -/
namespace KeyRotation

def ErrorCode (code : Nat) : Prop := 400 ≤ code ∧ code < 600

def SuccessCode (code : Nat) : Prop := 200 ≤ code ∧ code < 300

instance (code : Nat) : Decidable (ErrorCode code) := inferInstanceAs (Decidable (_ ∧ _))

instance (code : Nat) : Decidable (SuccessCode code) := inferInstanceAs (Decidable (_ ∧ _))

/-- Replies that have the code of a success in place of another. -/
def recoded (code : Nat) (replies : Nat → Response) (n : Nat) : Response :=
  if (replies n).code = code then ⟨200, (replies n).body⟩ else replies n

/-- No run takes a reply with this code and leaves a report. -/
def NeverReported (code : Nat) : Prop :=
  ∀ (σ : Type) (rest : World σ) (replies : Nat → Response) (kind : KeyKind) (settings : Settings)
    (order : List Batch → List Batch) (s : σ),
    let ended := (migrate kind settings order).drive (Wire.world rest replies) ⟨s, []⟩
    (∃ report, ended.1 = .ok report) → ∀ x ∈ ended.2.heard, x.response.code ≠ code

namespace Client

theorem received_of_error {response : Response} (error : ErrorCode response.code) :
    received (.answered response) = .error .http := by
  have refused : response.isError = true := by
    simpa [Response.isError, ErrorCode] using error
  simp only [received, refused, if_true]

theorem received_of_other {response : Response} (other : ¬ErrorCode response.code) :
    received (.answered response) = .ok response.text := by
  have taken : response.isError = false := by
    simpa [Response.isError, ErrorCode] using other
  simp only [received, taken, Bool.false_eq_true, if_false]

theorem readStatus_of_other {response : Response} (other : ¬ErrorCode response.code) :
    readStatus (.answered response) = Reply.readStatus response.text := by
  rw [readStatus, received_of_other other]
  rfl

theorem readOutcome_of_other {response : Response} (other : ¬ErrorCode response.code) :
    readOutcome (.answered response) = Reply.readOutcome response.text := by
  rw [readOutcome, received_of_other other]
  rfl

theorem document_ne_http {α : Type} {decode : Xml.Element → Except Fault α}
    {readable : Xml.Element → Prop} (decides : ∀ root, Reply.Decides (readable root) (decode root))
    (body : String) : (Reply.document body >>= decode) ≠ .error .http := by
  unfold Reply.document
  cases Xml.read? body with
  | none => exact nofun
  | some root =>
    change decode root ≠ .error .http
    by_cases reads : readable root
    · obtain ⟨value, decoded⟩ := (decides root).value reads
      rw [decoded]
      exact nofun
    · obtain ⟨cause, failed⟩ := (decides root).fault reads
      rw [failed]
      exact nofun

theorem read_eq_http_iff {α : Type} {decode : Xml.Element → Except Fault α}
    {readable : Xml.Element → Prop} (decides : ∀ root, Reply.Decides (readable root) (decode root))
    (response : Response) :
    (received (.answered response) >>= fun body => Reply.document body >>= decode) = .error .http ↔
      ErrorCode response.code := by
  by_cases error : ErrorCode response.code
  · rw [received_of_error error]
    exact iff_of_true rfl error
  · rw [received_of_other error]
    exact iff_of_false (document_ne_http decides response.text) error

end Client

/-- A code that is no error may as well be that of a success. -/
theorem received_recoded {code : Nat} (other : ¬ErrorCode code) (replies : Nat → Response)
    (n : Nat) : Client.received (.answered (recoded code replies n)) =
      Client.received (.answered (replies n)) := by
  unfold recoded
  split
  next same =>
    have success : ¬ErrorCode 200 := by decide
    rw [Client.received_of_other success, Client.received_of_other (same ▸ other)]
    rfl
  · rfl

theorem Exchange.Accepted.code {x : Exchange} (accepted : x.Accepted) :
    ¬ErrorCode x.response.code := by
  cases x with
  | status =>
    obtain ⟨root, carries, -⟩ := accepted
    exact carries.code
  | batch =>
    obtain ⟨root, carries, -⟩ := accepted
    exact carries.code

namespace Wire

variable {σ : Type} {rest : World σ} {first second : Nat → Response}

/-- The states of two worlds that have taken as many replies and are the same otherwise. -/
def Level (left right : Wire σ) : Prop :=
  left.rest = right.rest ∧ left.heard.length = right.heard.length

theorem step_level (same : ∀ n, Client.received (.answered (first n)) =
      Client.received (.answered (second n)))
    (left right : Wire σ) (request : Call) (level : left.Level right) :
    (world rest first left request).1 = (world rest second right request).1 ∧
      (world rest first left request).2.Level (world rest second right request).2 := by
  obtain ⟨shared, taken⟩ := level
  cases request with
  | now | target | pending =>
    refine ⟨?_, ?_, ?_⟩
    · simp [world, shared]
    · simp [world, shared]
    · exact taken
  | status =>
    refine ⟨?_, ?_, ?_⟩
    · simp only [world, Client.readStatus, taken, same]
    · simp only [world, shared]
    · simp [world, taken]
  | migrate kind batch =>
    refine ⟨?_, ?_, ?_⟩
    · simp only [world, Client.readOutcome, taken, same]
    · simp only [world, shared]
    · simp [world, taken]

/-- A session does the same where other replies are received in the same way. -/
theorem run_level (same : ∀ n, Client.received (.answered (first n)) =
      Client.received (.answered (second n))) {α : Type} (session : Session α) (s : σ) :
    (session.drive (world rest first) ⟨s, []⟩).1 = (session.drive (world rest second) ⟨s, []⟩).1 ∧
      session.trace (world rest first) ⟨s, []⟩ = session.trace (world rest second) ⟨s, []⟩ ∧
      (session.drive (world rest first) ⟨s, []⟩).2.Level
        (session.drive (world rest second) ⟨s, []⟩).2 :=
  session.run_related (step_level same) ⟨rfl, rfl⟩

end Wire

theorem neverReported_of_error {code : Nat} (error : ErrorCode code) : NeverReported code := by
  rintro σ rest replies kind settings order s ended ⟨report, ran⟩ x member rfl
  have path := Session.path_trace (Wire.world rest replies) (migrate kind settings order) ⟨s, []⟩
  obtain ⟨new, all, same⟩ := Wire.heard_of_path path
  have heard : x ∈ new := by
    rw [List.nil_append] at all
    exact all ▸ member
  have event : x.event ∈ new.map Exchange.event := List.mem_map_of_mem heard
  rw [same] at event
  have clean := faultless_of_report ran x.event (List.mem_of_mem_filter event)
  exact (x.accepted_iff.2 clean).code error

theorem code_of_heard {σ : Type} {rest : World σ} {code : Nat} {replies : Nat → Response}
    (coded : ∀ n, (replies n).code = code) (session : Session (Except Fault Report)) (s : σ) :
    ∀ x ∈ (session.drive (Wire.world rest replies) ⟨s, []⟩).2.heard, x.response.code = code := by
  have taken := Wire.responses_of_path
    (Session.path_trace (Wire.world rest replies) session ⟨s, []⟩) rfl
  intro x member
  have response := List.mem_map_of_mem (f := Exchange.response) member
  rw [taken] at response
  obtain ⟨n, -, same⟩ := List.mem_map.1 response
  exact same ▸ coded n

/-- The replies that the report was granted for, with another code. -/
def grantedAs (code n : Nat) : Response := ⟨code, (granted n).body⟩

theorem recoded_grantedAs (code : Nat) : recoded code (grantedAs code) = granted := by
  funext n
  exact if_pos rfl

theorem wired_granted :
    (wired granted).1 = .ok ⟨.hmac, some 7, 0, 1, 1, 1, .completed, 0⟩ ∧
      (wired granted).2.heard.length = 2 := by
  decide +kernel

theorem wired_grantedAs {code : Nat} (other : ¬ErrorCode code) :
    (wired (grantedAs code)).1 = .ok ⟨.hmac, some 7, 0, 1, 1, 1, .completed, 0⟩ ∧
      (wired (grantedAs code)).2.heard.length = 2 ∧
      ∀ x ∈ (wired (grantedAs code)).2.heard, x.response.code = code := by
  let session := migrate .hmac ⟨16, none, false, by decide⟩ id
  have same := received_recoded other (grantedAs code)
  rw [recoded_grantedAs] at same
  obtain ⟨result, -, -, taken⟩ := @Wire.run_level _ Script.world _ _ same _ session nineLeft
  obtain ⟨reported, two⟩ := wired_granted
  have coded (n : Nat) : (grantedAs code n).code = code := rfl
  exact ⟨result.symm.trans reported, taken.symm.trans two,
    code_of_heard coded session nineLeft⟩

theorem neverReported_iff {code : Nat} : NeverReported code ↔ ErrorCode code := by
  constructor
  · intro never
    by_contra other
    obtain ⟨reported, two, coded⟩ := wired_grantedAs other
    obtain ⟨x, member⟩ := List.exists_mem_of_length_pos (two ▸ Nat.two_pos)
    exact never _ Script.world _ _ _ _ _ ⟨_, reported⟩ x member (coded x member)
  · exact neverReported_of_error

/-- Which codes make a reply a transport error, whatever its body: those for errors. With any other
code a reply is decoded, and does in a run what it does with the code of a success, so that a run
may report what it says. -/
theorem transport_error_iff_error_code (code : Nat) :
    (∀ body, (Client.readStatus (.answered ⟨code, body⟩) = .error .http ↔ ErrorCode code) ∧
        (Client.readOutcome (.answered ⟨code, body⟩) = .error .http ↔ ErrorCode code)) ∧
      (¬ErrorCode code → ∀ body, let text := Response.text ⟨code, body⟩
        Client.readStatus (.answered ⟨code, body⟩) = Reply.readStatus text ∧
          Client.readOutcome (.answered ⟨code, body⟩) = Reply.readOutcome text) ∧
      (NeverReported code ↔ ErrorCode code) ∧
      (¬ErrorCode code → ∀ (σ : Type) (rest : World σ) (replies : Nat → Response)
        (kind : KeyKind) (settings : Settings) (order : List Batch → List Batch) (s : σ),
        let run := migrate kind settings order
        let world := Wire.world rest replies
        let likewise := Wire.world rest (recoded code replies)
        (run.drive world ⟨s, []⟩).1 = (run.drive likewise ⟨s, []⟩).1 ∧
          run.trace world ⟨s, []⟩ = run.trace likewise ⟨s, []⟩ ∧
          (run.drive world ⟨s, []⟩).2.rest = (run.drive likewise ⟨s, []⟩).2.rest) := by
  refine ⟨?_, ?_, neverReported_iff, ?_⟩
  · intro body
    exact ⟨Client.read_eq_http_iff Reply.decides_status ⟨code, body⟩,
      Client.read_eq_http_iff Reply.decides_outcome ⟨code, body⟩⟩
  · intro other body
    exact ⟨Client.readStatus_of_other other, Client.readOutcome_of_other other⟩
  · intro other σ rest replies kind settings order s run world likewise
    obtain ⟨result, events, shared, -⟩ := @Wire.run_level _ rest _ _
      (fun n => (received_recoded other replies n).symm) _ run s
    exact ⟨result, events, shared⟩

/-- A server that is down moves nothing, whatever it says. -/
theorem unavailable_refused : ErrorCode 503 ∧ NeverReported 503 ∧
    ∀ body, Client.readOutcome (.answered ⟨503, body⟩) = .error .http := by
  have error : ErrorCode 503 := by decide
  obtain ⟨calls, -, never, -⟩ := transport_error_iff_error_code 503
  exact ⟨error, never.2 error, fun body => (calls body).2.2 error⟩

/-- An answer that leaves a choice, and is no success, is booked as a batch. -/
theorem choices_reported :
    let moved := "<result><status>success</status><converted>2</converted></result>"
    ¬SuccessCode 300 ∧ Client.readOutcome (.answered ⟨300, moved.toUTF8.toList⟩) = .ok ⟨2, 0⟩ ∧
      (wired (grantedAs 300)).1 = .ok ⟨.hmac, some 7, 0, 1, 1, 1, .completed, 0⟩ ∧
      (wired (grantedAs 300)).2.heard =
        [.status (grantedAs 300 0), .batch .hmac ⟨-3, 5⟩ (grantedAs 300 1)] := by
  intro moved
  obtain ⟨reported, -, -⟩ := wired_grantedAs (show ¬ErrorCode 300 by decide)
  exact ⟨by decide, by decide +kernel, reported, by decide +kernel⟩

end KeyRotation
