import MotionScript.Folder
import MotionScript.Run.Options
import MotionScript.Text.Integer
import MotionScript.Toml.Reader

/-!
# Configuration

* `DeviceConfig`, `Config`: which device to talk to, and the options of a run.
* `Config.ofText?`: the configuration of a file. What is left out takes its standard value, an
  unknown key is ignored, and a value of the wrong type or out of range is refused. The values of a
  section may also be given by position, in an array.
-/

namespace MotionScript

/-- Which device to talk to. -/
structure DeviceConfig where
  /-- Address of the controller. -/
  address : String
  /-- Milliseconds until a request is given up. -/
  timeout : Nat
  /-- Use the simulated device. -/
  simulation : Bool
  /-- Milliseconds until the simulated device answers. -/
  latency : Nat
  deriving DecidableEq

/-- The standard device. -/
def DeviceConfig.standard : DeviceConfig := ⟨"http://localhost:3000", 5000, false, 0⟩

/-- A configuration. -/
structure Config where
  device : DeviceConfig
  options : Options
  deriving DecidableEq

/-- The standard configuration. -/
def Config.standard : Config := ⟨.standard, .standard⟩

/-- Why there is no configuration. -/
inductive ConfigError where
  /-- The file could not be read. -/
  | io (text : String)
  /-- The file is not valid. -/
  | parse
  deriving DecidableEq

/-- The wording of an error. -/
def ConfigError.message : ConfigError → String
  | io text => "failed to read configuration: " ++ text
  | parse => "invalid configuration"

namespace Config

/-- A text. -/
def string? : Toml → Option String
  | .string s => some s
  | _ => none

/-- A truth value. -/
def bool? : Toml → Option Bool
  | .boolean b => some b
  | _ => none

/-- A number from 0 up to `max`. -/
def nat? (max : Nat) : Toml → Option Nat
  | .integer i => if 0 ≤ i ∧ i ≤ max then some i.toNat else none
  | _ => none

/-- The values of a section, by key. The keys name the items of an array in order. A date counts as
a section without known keys. -/
def section? (keys : List String) : Toml → Option Toml.Entries
  | .table _ es => some es
  | .array items | .tables items => some (keys.zip items)
  | .datetime => some []
  | _ => none

/-- The value of a key, or the standard one if the key is missing. -/
def valueOr {α : Type} (read? : Toml → Option α) (standard : α) (key : String)
    (es : Toml.Entries) : Option α :=
  match es.lookup key with
  | some v => read? v
  | none => some standard

/-- The device of a section. -/
def device? (v : Toml) : Option DeviceConfig := do
  let es ← section? ["address", "timeout", "simulation", "latency"] v
  let d := DeviceConfig.standard
  return {
    address := ← valueOr string? d.address "address" es
    timeout := ← valueOr (nat? word64Max) d.timeout "timeout" es
    simulation := ← valueOr bool? d.simulation "simulation" es
    latency := ← valueOr (nat? word64Max) d.latency "latency" es }

/-- The options of a section. -/
def options? (v : Toml) : Option Options := do
  let es ← section? ["skip_errors", "max_retries", "sync_timeout", "pause_on_error",
    "enable_performance_monitoring", "command_spacing"] v
  let o := Options.standard
  return {
    skipErrors := ← valueOr bool? o.skipErrors "skip_errors" es
    maxRetries := ← valueOr (nat? word32Max) o.maxRetries "max_retries" es
    syncTimeout := ← valueOr (nat? word64Max) o.syncTimeout "sync_timeout" es
    pauseOnError := ← valueOr bool? o.pauseOnError "pause_on_error" es
    monitoring := ← valueOr bool? o.monitoring "enable_performance_monitoring" es
    spacing := ← valueOr (nat? word64Max) o.spacing "command_spacing" es }

/-- The configuration of a root table. -/
def ofToml? (v : Toml) : Option Config := do
  let es ← section? ["device", "execution"] v
  return {
    device := ← valueOr device? .standard "device" es
    options := ← valueOr options? .standard "execution" es }

/-- The configuration of a file; `none` stands for a file that could not be found. -/
def read (content : Option String) : Except ConfigError Config :=
  match content with
  | none => .error (.io FileError.missing.message)
  | some text =>
    match (Toml.parse? text).bind ofToml? with
    | some c => .ok c
    | none => .error .parse

end Config

end MotionScript
