import MotionScript.Decimal.Binary64
import MotionScript.Word

/-!
# The status of a run

* `Phase`: what a runner is doing.
* `Status`: what a runner reports about itself, apart from what depends on the time of the report.
* `progress`: the part of the commands done, as a percentage rounded to the nearest whole number,
  halves up.
* `remaining?`: the time the remaining commands take at the speed so far.
* `Snapshot`: a status at a point in time.
* `Status.refresh`, `Status.overflow?`: the snapshot as 64-bit words give it, and the operation that
  leaves the words if there is one.
-/

namespace MotionScript

/-- What a runner is doing. -/
inductive Phase where
  /-- No run is in progress. -/
  | idle
  /-- Commands are being executed. -/
  | running
  /-- The run is suspended until it is resumed or stopped. -/
  | paused
  /-- A stop is requested and the run has not ended yet. -/
  | stopping
  /-- The last run ended with a failure. -/
  | error
  /-- The run waits for an external signal. -/
  | syncWait
  deriving DecidableEq

namespace Phase

/-- The name of a phase in a text. -/
def text : Phase → String
  | idle => "idle"
  | running => "running"
  | paused => "paused"
  | stopping => "stopping"
  | error => "error"
  | syncWait => "sync wait"

/-- The name of a phase in a serialized status. -/
def label : Phase → String
  | idle => "IDLE"
  | running => "RUNNING"
  | paused => "PAUSED"
  | stopping => "STOPPING"
  | error => "ERROR"
  | syncWait => "SYNC_WAIT"

/-- All phases. -/
def all : List Phase := [idle, running, paused, stopping, error, syncWait]

/-- The phase of a label. -/
def ofLabel? (s : String) : Option Phase := all.find? fun p => p.label == s

end Phase

/-- What a runner reports about itself. Times are in milliseconds. -/
structure Status where
  phase : Phase
  /-- Index of the next command to execute. -/
  cursor : Nat
  /-- Number of commands loaded. -/
  total : Nat
  /-- Whether a run is in progress. -/
  executing : Bool
  startTime : Option Int
  lastCommandTime : Option Int
  syncWaitStart : Option Int
  /-- The routines the current command was inlined from, outermost first. -/
  callers : List String
  /-- Errors of the current run. -/
  errors : List String
  /-- Number of waits of the current run that timed out. -/
  syncTimeouts : Nat
  deriving DecidableEq

/-- The status before a run of a number of commands. -/
def Status.fresh (total : Nat) : Status :=
  ⟨.idle, 0, total, false, none, none, none, [], [], 0⟩

/-- The percentage of `total` that `current` is, as a double rounded to the nearest whole number,
halves up. -/
def progress (current total : Nat) : Nat :=
  if total = 0 then 0
  else ((Magnitude.ofNat (100 * min current total)).div (.ofNat total)).rounded

/-- The milliseconds that the remaining commands take at the speed so far. -/
def remaining? (start : Option Int) (now : Int) (current total : Nat) : Option Nat :=
  match start with
  | some s => if 0 < current then some ((now - s).toNat * (total - current) / current) else none
  | none => none

/-- A status at a point in time. -/
structure Snapshot where
  status : Status
  /-- The innermost routine of the current command. -/
  routine : Option String
  /-- Progress in percent. -/
  progress : Nat
  /-- Estimated milliseconds remaining. -/
  remaining : Option Nat
  deriving DecidableEq

/-- The snapshot of a status at a point in time. -/
def Status.snapshot (s : Status) (now : Int) : Snapshot :=
  ⟨s, s.callers.getLast?, MotionScript.progress s.cursor s.total,
    remaining? s.startTime now s.cursor s.total⟩

/-- The operation that leaves the 64-bit words when a snapshot is taken at a point in time. -/
def Status.overflow? (s : Status) (now : Int) : Option Overflow :=
  if word64Max < 100 * min s.cursor s.total then some .multiplication
  else
    match s.startTime with
    | some start =>
      if s.cursor = 0 then none
      else if now - start < -(int64Max + 1) ∨ int64Max < now - start then some .subtraction
      else if word64Max < (now - start).toNat * (s.total - s.cursor) then some .multiplication
      else none
    | none => none

/-- The percentage that is done, computed in 64-bit words. -/
def progressWord (current total : Nat) : Except Overflow Nat :=
  if total = 0 then return 0
  else return ((Magnitude.ofNat (← mulWord 100 (min current total))).div (.ofNat total)).rounded

/-- The milliseconds that the remaining commands take, computed in 64-bit words. -/
def remainingWord? (start : Option Int) (now : Int) (current total : Nat) :
    Except Overflow (Option Nat) :=
  match start with
  | some s =>
    if 0 < current then
      return some ((← mulWord (← subInt64 now s).toNat (total - current)) / current)
    else return none
  | none => return none

/-- The snapshot of a status at a point in time, computed in 64-bit words. -/
def Status.refresh (s : Status) (now : Int) : Except Overflow Snapshot :=
  return ⟨s, s.callers.getLast?, ← progressWord s.cursor s.total,
    ← remainingWord? s.startTime now s.cursor s.total⟩

/-- A snapshot as a line of text. -/
def Snapshot.text (s : Snapshot) : String :=
  s!"State: {s.status.phase.text}; Command: {s.status.cursor}/{s.status.total}; " ++
  s!"Progress: {s.progress}%" ++
    (match s.remaining with
      | some r => s!"; Remaining: ~{r}ms"
      | none => "") ++
    (match s.routine with
      | some f => s!"; Function: {f}"
      | none => "") ++
    (if s.status.errors.isEmpty then "" else s!"; Errors: {s.status.errors.length}")

end MotionScript
