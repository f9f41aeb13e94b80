/-!
# Device faults

* `FaultKind`, `Fault`: why a command got no answer from a device, and from which device.
* `Fault.isTransient`: whether the same request may succeed when it is made again.
-/

namespace MotionScript

/-- Why a command got no answer. -/
inductive FaultKind where
  /-- The device did not answer in time. It may still have accepted the command. -/
  | timeout
  /-- The device could not be reached. -/
  | connection (text : String)
  /-- The device answered with an unexpected status code. -/
  | status (code : Nat)
  /-- The device answered with a body that could not be decoded. -/
  | invalidResponse (text : String)
  /-- The device cannot be addressed as asked for. -/
  | invalidInput (text : String)
  deriving DecidableEq

/-- A fault of a named device. -/
structure Fault where
  device : String
  kind : FaultKind
  deriving DecidableEq

namespace Fault

/-- Whether the same request may succeed when it is made again. -/
def isTransient (f : Fault) : Bool :=
  match f.kind with
  | .timeout | .connection _ => true
  | .status code => 500 ≤ code
  | .invalidResponse _ | .invalidInput _ => false

/-- A fault as a line of text. -/
def text (f : Fault) : String :=
  f.device ++ ": " ++
    match f.kind with
    | .timeout => "communication timeout"
    | .connection e => "connection failed: " ++ e
    | .status code => "unexpected status " ++ toString code
    | .invalidResponse e => "invalid response: " ++ e
    | .invalidInput e => "invalid device parameters: " ++ e

end Fault

end MotionScript
