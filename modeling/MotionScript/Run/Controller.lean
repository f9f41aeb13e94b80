import MotionScript.Device.Delivery

/-!
# Controllers on the bench

* `Controller`: what a runner talks to: a simulated device, one that follows a script, or one that
  no connection reaches.
* `Controller.receive`: the answer to a command and the time it takes.
* `Controller.ofConfig`: the controller of a configuration.
-/

namespace MotionScript

/-- An answer of a controller: after a number of milliseconds, a reply or a fault. -/
structure TimedAnswer where
  delay : Nat
  reply : Except Fault Reply

/-- What a runner talks to. -/
inductive Controller where
  | simulated (device : SimulatedDevice)
  /-- Each command takes the next answer; once there are none left, commands are accepted. -/
  | scripted (answers : List TimedAnswer)
  /-- No connection to the endpoint can be opened. -/
  | unreachable (endpoint : Endpoint)

namespace Controller

/-- The answer to a command that may be retried, and the controller after the command. -/
def receive (text : String) (maxRetries : Nat) : Controller → TimedAnswer × Controller
  | simulated d => (⟨d.latency, .ok (d.reply text)⟩, simulated d)
  | scripted (a :: as) => (a, scripted as)
  | scripted [] => (⟨0, .ok (.accepted "OK")⟩, scripted [])
  | unreachable e =>
    let d := e.deliver text maxRetries fun _ => .refused
    (⟨d.pauses retryPause, d.result⟩, unreachable e)

/-- The controller after it has answered a command. -/
def answered (text : String) : Controller → Controller
  | simulated d => simulated (d.remember text)
  | c => c

/-- The controller of a configuration. -/
def ofConfig (c : DeviceConfig) : Except Fault Controller :=
  if c.simulation then .ok (.simulated ⟨c.latency, [], []⟩)
  else (Endpoint.ofAddress c.address).map .unreachable

end Controller

end MotionScript
