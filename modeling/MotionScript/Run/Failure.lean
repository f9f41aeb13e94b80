import MotionScript.Device.Fault
import MotionScript.Word

/-!
# Failures of a run

* `Failure`: why a runner refuses a request, why a run ends or why one of its commands fails.
-/

namespace MotionScript

/-- Why something asked of a runner did not succeed. -/
inductive Failure where
  /-- There is nothing to run. -/
  | notLoaded
  /-- A run is in progress. -/
  | alreadyExecuting
  /-- The script has errors. -/
  | compile (errors : List String)
  /-- Commands of this kind cannot be executed. -/
  | unsupported (kind : String)
  /-- The device gave no answer. -/
  | device (fault : Fault)
  /-- The device rejected a command. -/
  | rejected (command message : String)
  /-- No signal arrived within a number of microseconds. -/
  | syncTimeout (micros : Nat)
  /-- The run was abandoned. -/
  | reset
  /-- A number left its word. -/
  | overflow (operation : Overflow)
  deriving DecidableEq

/-- The wording of a failure. Durations are cut to whole milliseconds. -/
def Failure.message : Failure → String
  | notLoaded => "no script loaded"
  | alreadyExecuting => "script is already executing"
  | compile errors => s!"script has {errors.length} compile error(s)"
  | unsupported kind => s!"unsupported command type {kind}"
  | device fault => fault.text
  | rejected command message => s!"device rejected '{command}': {message}"
  | syncTimeout micros => s!"no signal received within {micros / 1000}ms"
  | reset => "run was reset"
  | overflow operation => operation.message

end MotionScript
