import MotionScript.Decimal.Fixed

/-!
# Metrics of a run

* `Metrics`: counters of a run with its average command time and its success rate.
* `Metrics.record`: one more command. The average moves by the distance to the new value over the
  number of commands; the success rate is computed from the counters.
-/

namespace MotionScript

/-- Metrics of a run. -/
structure Metrics where
  /-- Duration of the run in milliseconds. -/
  runTime : Nat
  /-- Average time of a command in milliseconds. -/
  averageTime : Float
  /-- Percentage of the commands that succeeded. -/
  successRate : Float
  /-- Number of commands, failures included. -/
  commands : Nat
  failures : Nat
  /-- Number of signals set. -/
  signals : Nat
  /-- Number of device retries. -/
  retries : Nat

namespace Metrics

/-- Nothing recorded. -/
def zero : Metrics := ⟨0, 0, 0, 0, 0, 0, 0⟩

/-- A number of nanoseconds in milliseconds: whole seconds and the rest of a second are added as
doubles. -/
def milliseconds (nanos : Nat) : Float :=
  ((nanos / 1000000000).toUInt64.toFloat +
    (nanos % 1000000000).toUInt64.toFloat / 1000000000.0) * 1000.0

/-- The percentage of `commands` that are no failures. -/
def rate (commands failures : Nat) : Float :=
  (commands - failures).toUInt64.toFloat * 100.0 / commands.toUInt64.toFloat

/-- Record a command that took a number of nanoseconds. -/
def record (nanos : Nat) (success : Bool) (m : Metrics) : Metrics :=
  let commands := m.commands + 1
  let failures := if success then m.failures else m.failures + 1
  { m with
    commands
    failures
    averageTime :=
      m.averageTime + (milliseconds nanos - m.averageTime) / commands.toUInt64.toFloat
    successRate := rate commands failures }

/-- Metrics as a line of text. -/
def text (m : Metrics) : String :=
  s!"Time: {m.runTime}ms; Commands: {m.commands} ({m.failures} failed); " ++
  s!"Average: {fixedPlaces 1 m.averageTime}ms; Success: {fixedPlaces 1 m.successRate}%; " ++
  s!"Sync: {m.signals}; Retries: {m.retries}"

@[simp] theorem record_commands (nanos : Nat) (success : Bool) (m : Metrics) :
    (m.record nanos success).commands = m.commands + 1 := rfl

@[simp] theorem record_failures (nanos : Nat) (success : Bool) (m : Metrics) :
    (m.record nanos success).failures = if success then m.failures else m.failures + 1 := rfl

@[simp] theorem record_signals (nanos : Nat) (success : Bool) (m : Metrics) :
    (m.record nanos success).signals = m.signals := rfl

@[simp] theorem record_retries (nanos : Nat) (success : Bool) (m : Metrics) :
    (m.record nanos success).retries = m.retries := rfl

end Metrics

end MotionScript
