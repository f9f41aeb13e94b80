import MotionScript.Device.Reply
import MotionScript.Run.Event
import MotionScript.Run.Options
import MotionScript.Run.Task
import MotionScript.Script.Expansion

/-!
# The sequence runner

The runner executes a list of tasks against a device, one command at a time and in list order. It is
a state machine. Operations change what plays are asked to do; a play that is blocked goes on once
something lets it, and what it does up to the next place where it blocks happens at once. What the
runner does is written into its journal.

* `Runner`: the state. A reset abandons the run in progress: what it still does is for nothing,
  since it began before the present epoch.
* `Blocked`: where a run is: paused, in a device call, in a hold, in the spacing after a command, or
  waiting for the signal.
* `Wake`, `Runner.allows`: what lets a blocked run go on, and when it does.
* `Runner.advance`: the run goes on with its next task, up to the next place where it blocks.
* `Runner.resume`: it goes on inside a task. `Runner.conclude`: it accounts for the end of a task.
* Operations: `load`, `play`, `pause`, `unpause`, `stop`, `reset`, `signal`, `setOptions`. One that
  is refused yields no new state.
* Inputs from outside: `wake`, `pass`.

A pause takes effect between two commands. A stop takes effect before the next device call and cuts
holds and waits short. A spacing that is cut short still completes its command.
-/

namespace MotionScript

/-- The mode runs are asked to be in. -/
inductive Control where
  | run
  | pause
  | stop
  deriving DecidableEq

/-- A play that has not ended. -/
structure Run where
  /-- The number of the play. -/
  id : Nat
  /-- The number of resets before it began. -/
  epoch : Nat
  /-- The options when the play began. -/
  options : Options
  /-- The time when the play began. -/
  began : Nat

/-- A task in progress. -/
structure Attempt where
  task : Task
  /-- The tasks after it. -/
  later : List Task
  /-- The steps not yet begun. -/
  steps : List Step
  /-- The retries of the answers so far. The sum is exact, as that of 32-bit words is up to
  `word32Max`. -/
  retries : Nat
  /-- Whether the device has accepted a command of it. -/
  sent : Bool
  /-- The time when it began. -/
  began : Nat

/-- The tasks from the one in progress on. -/
def Attempt.todo (a : Attempt) : List Task := a.task :: a.later

/-- How a task in progress ends. -/
inductive Ending where
  /-- All its steps are done. -/
  | done
  /-- A stop or a reset came before its last step was done. -/
  | interrupted
  | failed (e : Failure)

/-- Where a run is blocked. -/
inductive Blocked where
  /-- Before the first of the remaining tasks. -/
  | paused (todo : List Task)
  /-- In a device call. -/
  | calling (attempt : Attempt) (text : String)
  /-- In a hold. -/
  | holding (attempt : Attempt) (deadline : Nat)
  /-- In the spacing after a command. -/
  | spacing (attempt : Attempt) (deadline : Nat)
  /-- In a wait for the signal, with what the wait was told: that the signal came, or that it will
  not come any more. -/
  | waiting (attempt : Attempt) (wait deadline : Nat) (told : Option Bool)

/-- The time at which a blocked run goes on by itself. -/
def Blocked.deadline? : Blocked → Option Nat
  | holding _ d | spacing _ d | waiting _ _ d _ => some d
  | paused _ | calling _ _ => none

/-- Tell a wait something. -/
def Blocked.tell (wait : Nat) (signalled : Bool) : Blocked → Blocked
  | waiting a w d told => waiting a w d (if w = wait then some signalled else told)
  | b => b

/-- What lets a blocked run go on. -/
inductive Wake where
  /-- The device answers. -/
  | answered (reply : Except Fault Reply)
  /-- The deadline has come. -/
  | elapsed
  /-- The signal came. -/
  | signalled
  /-- A pause is over, or a stop or a reset came. -/
  | released

/-- What a runner did. -/
inductive Entry where
  /-- It announced an event. -/
  | event (e : Event)
  /-- A play sent a text to the device at a time. -/
  | sent (time play : Nat) (text : String) (maxRetries : Nat)
  /-- A play ended. -/
  | ended (play : Nat) (outcome : Except Failure Metrics)

/-- The state of a runner. -/
structure Runner where
  options : Options
  status : Status
  /-- The tasks loaded. -/
  tasks : List Task
  metrics : Metrics
  /-- The mode runs are asked to be in. -/
  control : Control
  /-- The number of resets so far. A run of an earlier epoch is abandoned. -/
  epoch : Nat
  /-- The wait that takes the next signal. -/
  slot : Option Nat
  /-- Number of waits so far. -/
  waits : Nat
  /-- Number of plays so far. -/
  plays : Nat
  /-- The plays that have not ended, and where each is blocked. -/
  runs : List (Run × Blocked)
  /-- The time in milliseconds. -/
  clock : Nat
  /-- What the runner did, last entry first. -/
  journal : List Entry

namespace Runner

/-- A runner with nothing loaded. -/
def new (options : Options) : Runner :=
  ⟨options, .fresh 0, [], .zero, .run, 0, none, 0, 0, [], 0, []⟩

/-- The status at the present time. -/
def snapshot (r : Runner) : Snapshot := r.status.snapshot r.clock

/-! ## Parts of a transition -/

/-- Write an entry into the journal. -/
def note (e : Entry) (r : Runner) : Runner := { r with journal := e :: r.journal }

/-- Announce an event. -/
def emit (e : Event) (r : Runner) : Runner := r.note (.event e)

/-- Enter a phase, and announce it unless it is the present one. -/
def setPhase (p : Phase) (r : Runner) : Runner :=
  if r.status.phase = p then r
  else { r with status := { r.status with phase := p } }.emit (.phaseChanged p)

/-- Block a run. -/
def block (run : Run) (b : Blocked) (r : Runner) : Runner :=
  { r with runs := r.runs ++ [(run, b)] }

/-- Whether a run may still do something: it is neither stopped nor abandoned. -/
def MayGoOn (run : Run) (r : Runner) : Prop := r.control ≠ .stop ∧ run.epoch = r.epoch

instance (run : Run) (r : Runner) : Decidable (r.MayGoOn run) :=
  inferInstanceAs (Decidable (_ ∧ _))

/-- The phase after a run with an outcome. -/
def endPhase : Except Failure Unit → Phase
  | .ok _ => .idle
  | .error _ => .error

/-- End the run in progress. -/
def close (run : Run) (outcome : Except Failure Unit) (r : Runner) : Runner :=
  let metrics :=
    if run.options.monitoring then { r.metrics with runTime := r.clock - run.began } else r.metrics
  { r with
    metrics
    status := { r.status with executing := false, syncWaitStart := none } }
    |>.setPhase (endPhase outcome)
    |>.emit (.finished metrics)
    |>.note (.ended run.id (outcome.map fun _ => metrics))

/-- End a run. One that is abandoned ends with a reset, whatever its outcome. -/
def finish (run : Run) (outcome : Except Failure Unit) (r : Runner) : Runner :=
  if run.epoch = r.epoch then r.close run outcome else r.note (.ended run.id (.error .reset))

/-- Begin a task. -/
def begin (t : Task) (r : Runner) : Runner :=
  { r with status := { r.status with callers := t.command.callers } }
    |>.setPhase .running
    |>.emit (.started r.status.cursor t.command.raw)

/-- Record a command in the metrics, if the run keeps any. -/
def record (run : Run) (began : Nat) (success : Bool) (r : Runner) : Runner :=
  if run.options.monitoring then
    { r with metrics := r.metrics.record ((r.clock - began) * 1000000) success }
  else r

/-- Count the retries and the signal of a completed task, if the run keeps metrics. The retries are
counted exactly, as with 32-bit words up to `word32Max`. -/
def countTask (run : Run) (t : Task) (retries : Nat) (r : Runner) : Runner :=
  if run.options.monitoring then
    { r with metrics := { r.metrics with
      retries := r.metrics.retries + retries
      signals := r.metrics.signals + if t.isSignal then 1 else 0 } }
  else r

/-- Complete a task. -/
def complete (run : Run) (a : Attempt) (r : Runner) : Runner :=
  let r' := (r.record run a.began true).countTask run a.task a.retries
  { r' with status := { r'.status with
    cursor := r.status.cursor + 1
    lastCommandTime := some r.clock } }
    |>.emit (.completed r.status.cursor (r.clock - a.began))

/-- The message of a failed task. -/
def failureText (t : Task) (e : Failure) : String := s!"Line {t.command.line}: {e.message}"

/-- Report a failed task. -/
def fail (run : Run) (a : Attempt) (e : Failure) (r : Runner) : Runner :=
  let r' := r.record run a.began false
  { r' with status := { r'.status with
    errors := r.status.errors ++ [failureText a.task e]
    lastCommandTime := some r.clock } }
    |>.emit (.failed r.status.cursor (failureText a.task e))

/-- Begin a step of a task. -/
def perform (run : Run) (a : Attempt) (s : Step) (r : Runner) : Runner :=
  match s with
  | .send text =>
    (r.note (.sent r.clock run.id text run.options.maxRetries)).block run (.calling a text)
  | .delay ms => r.block run (.holding a (r.clock + ms))
  | .signal =>
    { r with
      slot := some r.waits
      waits := r.waits + 1
      status := { r.status with syncWaitStart := some r.clock } }
      |>.setPhase .syncWait
      |>.emit (.waiting r.status.cursor run.options.syncTimeout)
      |>.block run (.waiting a r.waits (r.clock + run.options.syncTimeout) none)

/-! ## The course of a run -/

/-- Go on with the tasks of a run, up to the next place where it blocks or to its end. -/
def advance (run : Run) (todo : List Task) (r : Runner) : Runner :=
  match r.control with
  | .pause => r.block run (.paused todo)
  | .stop => r.finish run (.ok ())
  | .run =>
    if run.epoch ≠ r.epoch then r.finish run (.error .reset)
    else
      match todo with
      | [] => r.finish run (.ok ())
      | t :: later =>
        match t.steps with
        | [] => advance run later ((r.begin t).complete run ⟨t, later, [], 0, false, r.clock⟩)
        | s :: steps => (r.begin t).perform run ⟨t, later, steps, 0, false, r.clock⟩ s

/-- Go on after a failed task, as the options of the run ask for. -/
def afterFailure (run : Run) (a : Attempt) (e : Failure) (r : Runner) : Runner :=
  let r := r.fail run a e
  if run.options.pauseOnError then
    (if r.control = .stop then r else { r with control := .pause }.setPhase .paused).advance run
      a.todo
  else if run.options.skipErrors then
    { r with status := { r.status with cursor := r.status.cursor + 1 } }.advance run a.later
  else r.finish run (.error e)

/-- Account for the end of a task, and go on. An abandoned run ends. -/
def conclude (run : Run) (a : Attempt) (ending : Ending) (r : Runner) : Runner :=
  if run.epoch ≠ r.epoch then r.finish run (.error .reset)
  else
    match ending with
    | .done => (r.complete run a).advance run a.later
    | .interrupted => r.advance run a.todo
    | .failed e => r.afterFailure run a e

/-- Go on inside a task. Its steps are followed by the spacing, if the device was addressed. -/
def resume (run : Run) (a : Attempt) (r : Runner) : Runner :=
  match a.steps with
  | [] =>
    if a.sent ∧ 0 < run.options.spacing ∧ r.MayGoOn run then
      r.block run (.spacing a (r.clock + run.options.spacing))
    else r.conclude run a .done
  | s :: steps =>
    if r.MayGoOn run then r.perform run { a with steps } s else r.conclude run a .interrupted

/-- Go on after an answer of the device. Its retries are added exactly, as with 32-bit words up to
`word32Max`. -/
def hear (run : Run) (a : Attempt) (text : String) (reply : Except Fault Reply) (r : Runner) :
    Runner :=
  match reply with
  | .error fault => r.conclude run a (.failed (.device fault))
  | .ok reply =>
    if reply.success then
      r.resume run { a with retries := a.retries + reply.retries, sent := true }
    else r.conclude run a (.failed (.rejected text reply.message))

/-- A wait does not take the next signal any more. -/
def disarm (wait : Nat) (r : Runner) : Runner :=
  { r with slot := if r.slot = some wait then none else r.slot }

/-- Account for the end of a wait, and go back to running, unless another phase was entered
meanwhile. -/
def endWait (w : Wake) (r : Runner) : Runner :=
  let r := { r with status := { r.status with syncWaitStart := none } }
  let r := match w with
    | .signalled => r.emit .signalled
    | .elapsed => { r with status := { r.status with syncTimeouts := r.status.syncTimeouts + 1 } }
    | .answered _ | .released => r
  if r.status.phase = .syncWait then r.setPhase .running else r

/-- Go on after a wait. -/
def leaveWait (run : Run) (a : Attempt) (wait : Nat) (w : Wake) (r : Runner) : Runner :=
  let r := r.disarm wait
  if run.epoch ≠ r.epoch then r.conclude run a .interrupted
  else
    match w with
    | .signalled => (r.endWait w).resume run a
    | .elapsed =>
      (r.endWait w).conclude run a (.failed (.syncTimeout (1000 * run.options.syncTimeout)))
    | .answered _ | .released => (r.endWait w).conclude run a .interrupted

/-! ## Inputs from outside -/

/-- Whether something lets a run go on from where it is blocked. -/
def allows (run : Run) (b : Blocked) (w : Wake) (r : Runner) : Bool :=
  match b, w with
  | .paused _, .released => r.control ≠ .pause
  | .calling _ _, .answered _ => true
  | .holding _ d, .elapsed | .spacing _ d, .elapsed | .waiting _ _ d _, .elapsed => d ≤ r.clock
  | .holding _ _, .released | .spacing _ _, .released => ¬ r.MayGoOn run
  | .waiting _ _ _ told, .signalled => told = some true
  | .waiting _ _ _ told, .released => r.control = .stop ∨ told = some false
  | _, _ => false

/-- Go on from where a run is blocked. -/
def goOn (run : Run) (b : Blocked) (w : Wake) (r : Runner) : Runner :=
  match b, w with
  | .paused todo, _ => r.advance run todo
  | .calling a text, .answered reply => r.hear run a text reply
  | .calling a text, _ => r.block run (.calling a text)
  | .holding a _, .elapsed => r.resume run a
  | .holding a _, _ => r.conclude run a .interrupted
  | .spacing a _, _ => r.conclude run a .done
  | .waiting a wait _ _, w => r.leaveWait run a wait w

/-- A runner without one of its plays. -/
def without (play : Nat) (r : Runner) : Runner :=
  { r with runs := r.runs.filter fun x => x.1.id != play }

/-- Something lets a play go on. -/
def wake (play : Nat) (w : Wake) (r : Runner) : Runner :=
  match r.runs.find? fun x => x.1.id == play with
  | some (run, b) => if r.allows run b w then (r.without play).goOn run b w else r
  | none => r

/-- A number of milliseconds pass. -/
def pass (ms : Nat) (r : Runner) : Runner := { r with clock := r.clock + ms }

/-- The first time at which a run goes on by itself. -/
def deadline? (r : Runner) : Option Nat := (r.runs.filterMap fun x => x.2.deadline?).min?

/-- A play that can go on at the present instant without an answer of the device, and what lets
it. -/
def ready? (r : Runner) : Option (Nat × Wake) :=
  r.runs.findSome? fun (run, b) =>
    ([.signalled, .elapsed, .released].find? fun w => r.allows run b w).map (run.id, ·)

/-! ## Operations -/

/-- Load commands. The cursor goes to the first one. -/
def load (cs : List Command) (r : Runner) : Except Failure Runner := do
  let tasks ← Task.ofCommands cs
  if r.status.executing then .error .alreadyExecuting
  else .ok { r with tasks, status := .fresh tasks.length, metrics := .zero }

/-- Expand a compilation and load it. -/
def loadCompilation (c : Compilation) (r : Runner) : Except Failure (Runner × List String) :=
  if c.isOk then
    let e := c.expand
    if e.isOk then (r.load e.commands).map fun r => (r, e.warnings)
    else .error (.compile e.errors)
  else .error (.compile c.errors)

/-- Compile a script, expand it and load it. -/
def loadScript (source : String) (r : Runner) : Except Failure (Runner × List String) :=
  match compile defaultCallDepth source with
  | .ok c => r.loadCompilation c
  | .error (.tooLarge size limit) => .error (.compile [(SourceError.tooLarge size limit).message])
  | .error (.overflow operation) => .error (.overflow operation)

/-- The index of the command the next play begins with: the cursor, or the first one if the cursor
is at the end. -/
def startIndex (r : Runner) : Nat :=
  if r.status.total ≤ r.status.cursor then 0 else r.status.cursor

/-- The runner at the beginning of a play, before anything is executed. -/
def opened (r : Runner) : Runner :=
  { r with
    status := { r.status with
      cursor := r.startIndex
      executing := true
      startTime := some r.clock
      lastCommandTime := none
      syncWaitStart := none
      errors := []
      syncTimeouts := 0 }
    metrics := .zero
    control := .run
    plays := r.plays + 1 }

/-- The run of a play that begins now. -/
def nextRun (r : Runner) : Run := ⟨r.plays, r.epoch, r.options, r.clock⟩

/-- Run what is loaded, from the cursor on, or from the beginning if the cursor is at the end. -/
def play (r : Runner) : Except Failure Runner :=
  if r.status.executing then .error .alreadyExecuting
  else if r.tasks.isEmpty then .error .notLoaded
  else .ok ((r.opened.setPhase .running).advance r.nextRun (r.tasks.drop r.startIndex))

/-- Begin a play. One that is refused ends at once. -/
def launch (r : Runner) : Runner :=
  match r.play with
  | .ok r => r
  | .error e => { r with plays := r.plays + 1 }.note (.ended r.plays (.error e))

/-- Pause the run before its next command. -/
def pause (r : Runner) : Option Runner :=
  if r.status.phase = .running ∨ r.status.phase = .syncWait then
    some ({ r with control := .pause }.setPhase .paused)
  else none

/-- Let a paused run go on. -/
def unpause (r : Runner) : Option Runner :=
  if r.status.phase = .paused then some ({ r with control := .run }.setPhase .running) else none

/-- Stop the run. An outstanding device call is not cut short. -/
def stop (r : Runner) : Option Runner :=
  if r.status.phase = .running ∨ r.status.phase = .paused ∨ r.status.phase = .syncWait then
    some ({ r with control := .stop }.setPhase .stopping)
  else none

/-- Tell a wait, if there is one, whether its signal came. -/
def tell (wait : Option Nat) (signalled : Bool) (runs : List (Run × Blocked)) :
    List (Run × Blocked) :=
  match wait with
  | some w => runs.map fun (run, b) => (run, b.tell w signalled)
  | none => runs

/-- Tell the wait that takes the next signal whether it came. -/
def tellWait (signalled : Bool) (r : Runner) : Runner :=
  { r with slot := none, runs := tell r.slot signalled r.runs }

/-- Go back to the beginning. A run in progress is abandoned: it sends nothing more, and it ends
once it goes on from where it is blocked. -/
def reset (r : Runner) : Runner :=
  { r with
    epoch := r.epoch + 1
    status := .fresh r.tasks.length
    metrics := .zero
    control := .stop }
    |>.tellWait false
    |>.emit (.phaseChanged .idle)

/-- Deliver the external signal to the wait that is pending. Without one it is lost. -/
def signal (r : Runner) : Option Runner :=
  if r.slot.isSome then some (r.tellWait true) else none

/-- Replace the options. A run in progress keeps those it began with. -/
def setOptions (o : Options) (r : Runner) : Runner := { r with options := o }

end Runner

end MotionScript
