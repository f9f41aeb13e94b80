import MotionScript.Device.Endpoint
import MotionScript.Device.Reply
import MotionScript.Json.Printer

/-!
# Delivery of commands over HTTP

A command is posted to the endpoint of a controller until an attempt is answered, fails for good, or
no retries are left.

* `Exchange`: what comes of one attempt.
* `Exchange.outcome`: the reply of an attempt, or why there is none. A reply counts whatever its
  status is, as long as the status tells no fault of the server.
* `Endpoint.deliver`: the attempts made for a command, and the outcome of the last one.
  `Endpoint.deliverWith` leaves open how the body of a reply is read.
* `Delivery.pauses`: the time between the attempts. It grows by the same amount at each retry.
-/

namespace MotionScript

/-- What comes of an attempt to post a command. -/
inductive Exchange where
  /-- No connection could be opened. -/
  | refused
  /-- The connection was closed without an answer. -/
  | closed
  /-- No answer came in time. -/
  | silent
  /-- The controller answered with a status code and a body. -/
  | answered (status : Nat) (body : String)

namespace Exchange

/-- Whether the request reached the controller. -/
def isReceived : Exchange → Bool
  | refused => false
  | closed | silent | answered _ _ => true

/-- Whether a status code tells success. -/
def isSuccess (status : Nat) : Bool := 200 ≤ status && status ≤ 299

/-- Whether a status code tells a fault of the server. -/
def isServerFault (status : Nat) : Bool := 500 ≤ status && status ≤ 599

/-- The reply of an exchange over a URL as a decoder reads it, or why there is none. -/
def outcome (decode? : String → Option Reply) (url : String) : Exchange → Except FaultKind Reply
  | refused | closed => .error (.connection s!"error sending request for url ({url})")
  | silent => .error .timeout
  | answered status body =>
    if isServerFault status then .error (.status status)
    else
      match decode? body with
      | some r => .ok r
      | none =>
        .error (if isSuccess status then .invalidResponse "error decoding response body"
          else .status status)

end Exchange

/-- A request that posts a command. -/
structure Request where
  /-- The path it is made to. -/
  path : String
  body : String
  deriving DecidableEq

/-- The first line of a request. -/
def Request.line (r : Request) : String := s!"POST {r.path} HTTP/1.1"

/-- An attempt to post a command. -/
structure Posting where
  request : Request
  exchange : Exchange

/-- The attempts to post a command, in order, and the outcome of the last one. -/
structure Delivery where
  postings : List Posting
  result : Except Fault Reply

namespace Delivery

/-- The requests that reached the controller. -/
def received (d : Delivery) : List Request :=
  (d.postings.filter (·.exchange.isReceived)).map (·.request)

/-- The milliseconds spent between the attempts: `step` before the first retry, and `step` more
before each further one. -/
def pauses (step : Nat) (d : Delivery) : Nat :=
  (List.range d.postings.length).foldl (fun total n => total + step * n) 0

end Delivery

/-- Milliseconds before the first retry. -/
def retryPause : Nat := 200

/-- Whether another attempt may have another outcome. -/
def mayPass : Except Fault Reply → Bool
  | .error f => f.isTransient
  | .ok _ => false

namespace Endpoint

/-- The request that posts a command. -/
def request (e : Endpoint) (command : String) : Request :=
  ⟨e.url.pathText, Json.compact (.obj [("command", .str command)])⟩

/-- The outcome of an exchange after a number of retries. -/
def outcome (decode? : String → Option Reply) (e : Endpoint) (retries : Nat) (x : Exchange) :
    Except Fault Reply :=
  match x.outcome decode? e.url.text with
  | .ok r => .ok { r with retries }
  | .error kind => .error ⟨e.name, kind⟩

/-- Post a command after `retries` retries, with at most `left` more. `world` is what comes of each
attempt. -/
def deliverFrom (decode? : String → Option Reply) (e : Endpoint) (command : String)
    (world : Nat → Exchange) (retries : Nat) : (left : Nat) → Delivery
  | 0 => ⟨[⟨e.request command, world retries⟩], e.outcome decode? retries (world retries)⟩
  | left + 1 =>
    if mayPass (e.outcome decode? retries (world retries)) then
      let d := e.deliverFrom decode? command world (retries + 1) left
      { d with postings := ⟨e.request command, world retries⟩ :: d.postings }
    else ⟨[⟨e.request command, world retries⟩], e.outcome decode? retries (world retries)⟩

/-- Post a command, with at most `maxRetries` retries, and read the replies with a decoder. -/
def deliverWith (decode? : String → Option Reply) (e : Endpoint) (command : String)
    (maxRetries : Nat) (world : Nat → Exchange) : Delivery :=
  e.deliverFrom decode? command world 0 maxRetries

/-- Post a command, with at most `maxRetries` retries. -/
def deliver (e : Endpoint) (command : String) (maxRetries : Nat) (world : Nat → Exchange) :
    Delivery :=
  e.deliverWith Reply.decode? command maxRetries world

end Endpoint

end MotionScript
