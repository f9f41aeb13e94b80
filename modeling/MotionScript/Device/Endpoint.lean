import MotionScript.Config
import MotionScript.Device.Fault
import MotionScript.Device.Simulated
import MotionScript.Url.Basic

/-!
# The endpoint of a controller

* `Endpoint.ofAddress`: commands are posted to the path `api/command` below the address of a
  controller, and the controller is named by the origin of its address.
* `DeviceConfig.deviceName`: the name of the device of a configuration.
-/

namespace MotionScript

/-- Where commands are posted. -/
structure Endpoint where
  url : Url

namespace Endpoint

/-- The path of requests below the address. -/
def commandPath : List (List Char) := ["api".toList, "command".toList]

/-- An address with exactly one slash at its end. -/
def base (address : List Char) : List Char :=
  (address.reverse.dropWhile (· = '/')).reverse ++ ['/']

/-- The endpoint of an address. -/
def ofAddress (address : String) : Except Fault Endpoint :=
  match (Url.parse (base address.toList)).bind fun u => u.join commandPath with
  | .ok u => .ok ⟨u⟩
  | .error e => .error ⟨address, .invalidInput e.message⟩

/-- The name of the controller. -/
def name (e : Endpoint) : String := e.url.origin

end Endpoint

/-- The name of the device of a configuration. -/
def DeviceConfig.deviceName (c : DeviceConfig) : Except Fault String :=
  if c.simulation then .ok SimulatedDevice.name
  else (Endpoint.ofAddress c.address).map (·.name)

end MotionScript
