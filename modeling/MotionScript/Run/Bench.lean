import MotionScript.Run.Controller
import MotionScript.Run.Runner

/-!
# A runner on the bench

The bench couples a runner with a controller and a clock that moves only when it is told to. All
that can happen at the present instant happens at once; timers fire exactly, in the order of time,
and at the same time in the order in which they were set.

* `Bench.next?`: the next thing that happens at the present instant.
* `Bench.settle`: everything that happens at the present instant.
* `Bench.advance`: the passing of time.
* `Bench.tick?`: the passing of time up to the next thing that happens by itself.
-/

namespace MotionScript

/-- A device call that is not answered yet. -/
structure Call where
  play : Nat
  text : String
  /-- The time of the answer. -/
  due : Nat
  reply : Except Fault Reply

/-- A runner, a controller and the calls between them. -/
structure Bench where
  runner : Runner
  controller : Controller
  /-- The outstanding calls, in the order in which they were made. -/
  calls : List Call

namespace Bench

/-- A runner that has done nothing yet. -/
def new (options : Options) (controller : Controller) : Bench :=
  ⟨.new options, controller, []⟩

/-- A device call that a run has made and the controller has not received. -/
def unsent? (b : Bench) : Option (Run × String) :=
  b.runner.runs.findSome? fun
    | (run, .calling _ text) =>
      if b.calls.any fun c => c.play == run.id then none else some (run, text)
    | _ => none

/-- Hand a device call to the controller. -/
def send (b : Bench) (run : Run) (text : String) : Bench :=
  let (answer, controller) := b.controller.receive text run.options.maxRetries
  { b with
    controller
    calls := b.calls ++ [⟨run.id, text, b.runner.clock + answer.delay, answer.reply⟩] }

/-- Hand the answer of a call to the runner. -/
def deliver (b : Bench) (c : Call) : Bench :=
  { b with
    controller := b.controller.answered c.text
    calls := b.calls.filter fun d => d.play != c.play
    runner := b.runner.wake c.play (.answered c.reply) }

/-- The outstanding call answered first, of several the one made first. -/
def firstCall? (b : Bench) : Option Call :=
  b.calls.foldl (fun best c =>
    match best with
    | some d => if c.due < d.due then some c else some d
    | none => some c) none

/-- The time at which something happens by itself, if anything does. -/
def nextTime? (b : Bench) : Option Nat :=
  match b.firstCall?, b.runner.deadline? with
  | some c, some d => some (min c.due d)
  | some c, none => some c.due
  | none, d => d

/-- The next thing that happens at the present instant. -/
def next? (b : Bench) : Option Bench :=
  match b.unsent? with
  | some (run, text) => some (b.send run text)
  | none =>
    match b.firstCall?.filter fun c => c.due ≤ b.runner.clock with
    | some c => some (b.deliver c)
    | none => b.runner.ready?.map fun (play, w) => { b with runner := b.runner.wake play w }

/-- Everything that happens at the present instant, at most `fuel` things. -/
def settleFor (b : Bench) : Nat → Bench
  | 0 => b
  | fuel + 1 =>
    match b.next? with
    | some b => settleFor b fuel
    | none => b

/-- A bound on the things that can happen until all tasks are done: every step is begun and ended,
every task may be spaced, and every call may be answered. -/
def workload (b : Bench) : Nat :=
  b.runner.tasks.foldl (fun n t => n + 3 * t.steps.length + 2) (b.calls.length + 8)

/-- Everything that happens at the present instant. -/
def settle (b : Bench) : Bench := settleFor b b.workload

/-- Time passes up to a given point, if that is not over. -/
def passTo (time : Nat) (b : Bench) : Bench :=
  { b with runner := b.runner.pass (time - b.runner.clock) }

/-- Time passes up to a given point, at most `fuel` times up to something that happens. -/
def advanceFor (target : Nat) : Nat → Bench → Bench
  | 0, b => b.passTo target
  | fuel + 1, b =>
    match b.nextTime?.filter (· ≤ target) with
    | some t => advanceFor target fuel ((b.passTo t).settleFor (fuel + 1))
    | none => b.passTo target

/-- A number of milliseconds pass. -/
def advance (ms : Nat) (b : Bench) : Bench := advanceFor (b.runner.clock + ms) b.workload b

/-- Time passes up to the next thing that happens by itself, if there is one. -/
def tick? (b : Bench) : Option Bench := b.nextTime?.map fun t => b.advance (t - b.runner.clock)

/-! ## Operations -/

/-- Change the runner and let everything happen that can. -/
def change (b : Bench) (runner : Runner) : Bench := settle { b with runner }

/-- An operation that the runner may refuse, and whether it did not. -/
def tryChange (b : Bench) (runner : Option Runner) : Bool × Bench :=
  match runner with
  | some r => (true, b.change r)
  | none => (false, b)

/-- Begin a play, and its number. One that is refused ends at once. -/
def play (b : Bench) : Nat × Bench := (b.runner.plays, b.change b.runner.launch)

/-- The entries of the journal so far, and the bench with an empty one. -/
def takeJournal (b : Bench) : List Entry × Bench :=
  (b.runner.journal.reverse, { b with runner := { b.runner with journal := [] } })

/-- The commands the simulated device answered, if there is one. -/
def history? (b : Bench) : Option (List String) :=
  match b.controller with
  | .simulated d => some d.history.reverse
  | _ => none

/-- Let the simulated device forget its commands. -/
def clearHistory (b : Bench) : Bench :=
  match b.controller with
  | .simulated d => { b with controller := .simulated d.clear }
  | _ => b

end Bench

end MotionScript
