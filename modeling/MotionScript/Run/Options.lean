/-!
# Options of a run

* `Options`: how a run treats failures, how long it waits for signals and how it spaces commands.
-/

namespace MotionScript

/-- Options of a run. -/
structure Options where
  /-- Go on with the next command after a failure. -/
  skipErrors : Bool
  /-- Greatest number of retries for a device command. -/
  maxRetries : Nat
  /-- Milliseconds to wait for an external signal. -/
  syncTimeout : Nat
  /-- Pause after a failure. Takes precedence over skipping. -/
  pauseOnError : Bool
  /-- Keep metrics. -/
  monitoring : Bool
  /-- Milliseconds between two commands that address the device. -/
  spacing : Nat
  deriving DecidableEq

namespace Options

/-- The options of a run unless others are asked for. -/
def standard : Options := ⟨false, 3, 30000, true, true, 50⟩

/-- Options as a line of text. -/
def text (o : Options) : String :=
  s!"Skip errors: {o.skipErrors}; Pause on error: {o.pauseOnError}; " ++
  s!"Max retries: {o.maxRetries}; Sync timeout: {o.syncTimeout}ms; Spacing: {o.spacing}ms"

end Options

end MotionScript
