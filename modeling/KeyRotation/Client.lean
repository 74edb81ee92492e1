import KeyRotation.Batches
import KeyRotation.Fault
import KeyRotation.KeyStatus
import KeyRotation.Report
import KeyRotation.Text.Basic
import KeyRotation.Url
import KeyRotation.Xml.Reader

/-! Calls to the key authority over the web, and what its replies say. A call posts its parameters
to the address of a method. A reply is decoded unless its code reports an error: it has to be a
document that reports success, and anything else is a fault. -/
namespace KeyRotation

namespace Reply

open Xml (Element)

/-- The leading text of the first child with a name, trimmed; blank text is none. -/
def fieldText? (e : Element) (name : String) : Option String :=
  ((e.child? name).bind (·.leadingText?)).bind fun text =>
    let text := Text.trim text
    if text.isEmpty then none else some text

def number {α : Type} (numeral? : String → Option α) (e : Element) (name : String) :
    Except Fault (Option α) :=
  match fieldText? e name with
  | none => .ok none
  | some text =>
    match numeral? text with
    | some n => .ok (some n)
    | none => .error (.protocol (.notANumber name text))

/-- The root of a reply that reports success. -/
def checked (root : Element) : Except Fault Element :=
  if root.name.base ≠ "result" then .error (.protocol (.unexpectedRoot root.name.base))
  else
    match fieldText? root "status" with
    | none => .error (.protocol .noStatus)
    | some status =>
      if status = "success" then .ok root else .error (.protocol (.refused status))

def version (key : Element) : Except Fault KeyVersion :=
  match key.attribute? "version" with
  | none => .error (.protocol (.noVersion key.name.base))
  | some raw =>
    match Text.int64? (Text.trim raw) with
    | some version => .ok version
    | none => .error (.protocol (.badVersion raw))

def count (key : Element) : Except Fault (Option UInt64) :=
  match key.attribute? "count" with
  | none => .ok none
  | some raw =>
    match Text.uint64? (Text.trim raw) with
    | some count => .ok (some count)
    | none => .error (.protocol (.badCount raw))

/-- A flag is set by the word `true` and by no other. -/
def flag (key : Element) (name : String) (absent : Bool) : Bool :=
  match key.attribute? name with
  | none => absent
  | some value => Text.trim value == "true"

/-- One listed key. An HMAC key is valid unless it says otherwise and is never
confirmed. -/
def key (kind : KeyKind) (e : Element) : Except Fault (KeyVersion × KeyStatus) := do
  let version ← version e
  let count ← count e
  match kind with
  | .kek => pure (version, ⟨flag e "valid" false, flag e "checked" false, count⟩)
  | .hmac => pure (version, ⟨flag e "valid" true, false, count⟩)

def listName : KeyKind → String
  | .kek => "master_keys"
  | .hmac => "hmac_keys"

def listed (root : Element) (kind : KeyKind) : List Element :=
  match root.child? (listName kind) with
  | none => []
  | some list => list.childrenNamed kind.tag

/-- Take in keys one after the other; of two with one version the later stays. -/
def collect (kind : KeyKind) (keys : KeyInventory) : List Element → Except Fault KeyInventory
  | [] => .ok keys
  | e :: rest => do
    let (version, status) ← key kind e
    collect kind (keys.insert kind version status) rest

def status (root : Element) : Except Fault KeyInventory := do
  let root ← checked root
  let activeKek ← number Text.int64? root "kek_version"
  let activeHmac ← number Text.int64? root "hmac_version"
  let targetKek ← number Text.int64? root "target_kek_version"
  let state := fieldText? root "keyapi_state"
  let keys : KeyInventory := { state, activeKek, activeHmac, targetKek }
  let keys ← collect .kek keys (listed root .kek)
  collect .hmac keys (listed root .hmac)

/-- The counts of one batch, from the document of its reply. A count that is not there
is zero. -/
def outcome (root : Element) : Except Fault BatchOutcome := do
  let root ← checked root
  let converted ← number Text.uint64? root "converted"
  let failed ← number Text.uint64? root "failed"
  pure ⟨converted.getD 0, failed.getD 0⟩

def document (body : String) : Except Fault Element :=
  match Xml.read? body with
  | none => .error .xml
  | some root => .ok root

def readStatus (body : String) : Except Fault KeyInventory := do
  status (← document body)

def readOutcome (body : String) : Except Fault BatchOutcome := do
  outcome (← document body)

end Reply

structure Request where
  url : Url
  body : String
  deriving DecidableEq, Repr

structure Response where
  code : Nat
  body : List UInt8
  deriving DecidableEq, Repr

/-- What becomes of a request: no server receives it, or one does and answers or not. A wait
that would end later than any clock can tell is endless. -/
inductive Reception where
  | endless
  | unreachable
  | unanswered
  | answered (response : Response)
  deriving DecidableEq, Repr

namespace Request

def method : String := "POST"

def contentType : String := "application/x-www-form-urlencoded"

def form (parameters : List (String × Int)) : String :=
  "&".intercalate (parameters.map fun (name, value) => name ++ "=" ++ toString value)

end Request

namespace Response

def isError (response : Response) : Bool := 400 ≤ response.code && response.code < 600

/-- A byte order mark is left in the text of a reply. -/
def text (response : Response) : String := String.ofList (Text.Utf8.decode response.body)

end Response

/-- A client knows the address that the methods' names are appended to, and how long it waits
for a reply. -/
structure Client where
  baseUrl : String
  timeoutSecs : UInt64 := 30
  deriving DecidableEq, Repr

namespace Client

def ofUrl (url : String) : Except Fault Client :=
  let trimmed := Text.trim url
  if trimmed.isEmpty then .error (.config .emptyUrl)
  else .ok { baseUrl := if trimmed.toList.getLast? = some '/' then trimmed else trimmed ++ "/" }

def request? (client : Client) (method : String) (parameters : List (String × Int))
    (readHost? : List Char → Option String := Url.readHost?) : Option Request :=
  (Url.parse? (client.baseUrl ++ method) readHost?).map fun url => ⟨url, Request.form parameters⟩

def statusRequest? (client : Client)
    (readHost? : List Char → Option String := Url.readHost?) : Option Request :=
  client.request? "status" [] readHost?

def batchRequest? (client : Client) (kind : KeyKind) (batch : Batch)
    (readHost? : List Char → Option String := Url.readHost?) : Option Request :=
  client.request? kind.method [("id_min", batch.minId.toInt), ("id_max", batch.maxId.toInt)]
    readHost?

/-- The body of a reply that is no error. An endless wait stops the process. -/
def received : Reception → Except Fault String
  | .endless => .error .crashed
  | .answered response => if response.isError then .error .http else .ok response.text
  | _ => .error .http

def readStatus (reception : Reception) : Except Fault KeyInventory := do
  Reply.readStatus (← received reception)

def readOutcome (reception : Reception) : Except Fault BatchOutcome := do
  Reply.readOutcome (← received reception)

end Client
end KeyRotation
