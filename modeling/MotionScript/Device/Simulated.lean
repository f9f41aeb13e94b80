import MotionScript.Device.Reply

/-!
# The simulated device

* `SimulatedDevice`: it answers every command after a fixed time and remembers it. A command that
  begins with one of the refused texts is rejected, every other one is accepted.
-/

namespace MotionScript

/-- A controller in memory. -/
structure SimulatedDevice where
  /-- Milliseconds until a command is answered. -/
  latency : Nat
  /-- The beginnings of the commands that are rejected. -/
  refused : List String
  /-- The commands answered so far, last one first. -/
  history : List String

namespace SimulatedDevice

/-- The name of the device. -/
def name : String := "simulation"

/-- Whether `s` begins with `start`. -/
def beginsWith (start s : String) : Bool := start.toList.isPrefixOf s.toList

/-- The reply to a command. -/
def reply (d : SimulatedDevice) (command : String) : Reply :=
  if d.refused.any fun start => beginsWith start command then
    .rejected s!"Command '{command}' rejected"
  else .accepted "OK"

/-- Remember a command. -/
def remember (d : SimulatedDevice) (command : String) : SimulatedDevice :=
  { d with history := command :: d.history }

/-- Forget all commands. -/
def clear (d : SimulatedDevice) : SimulatedDevice := { d with history := [] }

end SimulatedDevice

end MotionScript
