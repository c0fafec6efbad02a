import Automation.Action.Failure
import Automation.Json.Reader
import Automation.Run.Engine

/-!
# Plain requests

A request over the network, what is handed to the network for it, and what the ways in which the
network can end it mean: an answer of any status is an answer, an address that cannot work is fatal,
and whatever may work the next time is transient.
-/

namespace Automation.Remote

/-! ## Requests -/

/-- A request. -/
structure HttpRequest where
  method : String
  url : String
  headers : Option (Entries Value) := none
  body : Value := .null
  /-- The milliseconds that the request may take. -/
  timeoutMs : Option Value.Quantity := none
deriving DecidableEq

/-- What is sent with a request. -/
inductive Payload where
  /-- Parameters in the address. -/
  | query (v : Value)
  /-- A document behind the headers. -/
  | document (v : Value)
deriving DecidableEq

/-- What is handed to the network for a request. -/
structure Sending where
  method : String
  url : String
  headers : Option (Entries Value)
  payload : Payload
  /-- The seconds that the network has. -/
  timeout : Value.Quantity
deriving DecidableEq

/-- Some milliseconds in seconds. -/
def secondsOfMillis : Value.Quantity → Except Fault Float
  | .float x => .ok (x / 1000.0)
  | .int ms =>
    let x := Number.divide ms 1000
    if x.isInf then .error (.defect .hugeTimeout) else .ok x

/-- Whether a quantity is zero. -/
def isZero (q : Value.Quantity) : Bool := q.compare? (.int 0) = some .eq

namespace HttpRequest

/-- The seconds that a request may take. A timeout of zero is none. -/
def timeout (r : HttpRequest) (default : Value.Quantity) : Except Fault Value.Quantity :=
  match r.timeoutMs with
  | none => .ok default
  | some ms => if isZero ms then .ok default else (secondsOfMillis ms).map .float

/-- What a request hands to the network. Requests that only read or delete have no document: what
they carry goes into the address, unless it is nothing. -/
def sending (r : HttpRequest) (default : Value.Quantity) : Except Fault Sending := do
  let timeout ← r.timeout default
  let method := Text.upper r.method
  let payload : Payload :=
    if method = "GET" ∨ method = "DELETE" then
      .query (if r.body.isEmptyLike then .null else r.body)
    else .document r.body
  return { method, url := r.url, headers := r.headers, payload, timeout }

end HttpRequest

/-! ## Answers -/

/-- An answer. -/
structure HttpAnswer where
  status : Int
  body : Value
  contentType : Option String
deriving DecidableEq

/-- How the network ends a request. -/
inductive Delivery where
  | answer (status : Int) (contentType : Option String) (content : String)
  /-- The address cannot work. -/
  | badAddress (message : String)
  /-- There was no answer in time. -/
  | late
  /-- The request or its answer was lost. -/
  | lost (message : String)
  /-- Something else went wrong. -/
  | broken (message : String)
deriving DecidableEq

/-- The body of an answer: a document if it is called one and can be read, else its text. -/
def bodyOf (contentType : Option String) (content : String) : Value :=
  if (contentType.getD "").startsWith "application/json" then
    let document := if content.startsWith "\ufeff" then (content.drop 1).toString else content
    match Json.read document with
    | .ok v => v
    | .error _ => .text content
  else .text content

/-- What the end of a request means. -/
def Sending.conclude (s : Sending) : Delivery → Except Fault HttpAnswer
  | .answer status contentType content =>
    .ok { status, contentType, body := bodyOf contentType content }
  | .badAddress message => .error (.fatal "http" s!"Malformed URL '{s.url}': {message}")
  | .late =>
    let seconds := limitText s.timeout
    .error (.transient "http" s!"{s.method} {s.url} timed out after {seconds}s")
  | .lost message => .error (.transient "http" s!"{s.method} {s.url} failed: {message}")
  | .broken message => .error (.defect (.broken message))

end Automation.Remote
