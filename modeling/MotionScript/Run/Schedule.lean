import MotionScript.Run.Runner

/-!
# Schedules

What comes to a runner from outside comes one input after the other, in any order: operations,
whether they are refused or not, the passing of time, and whatever lets a blocked play go on.

* `Input`: something that comes to a runner.
* `Runner.step`, `Runner.after`: what a runner makes of an input, and of a schedule of inputs.
* `Runner.Reachable`: the states of a runner that began with nothing loaded.
* `Runner.Rests`: a run has no more to do at the present instant.
-/

namespace MotionScript

/-- Something that comes to a runner from outside. -/
inductive Input where
  | load (commands : List Command)
  | loadCompilation (c : Compilation)
  | loadScript (source : String)
  | play
  | pause
  | unpause
  | stop
  | reset
  | signal
  | setOptions (o : Options)
  | pass (ms : Nat)
  | wake (play : Nat) (w : Wake)

namespace Runner

/-- What a runner makes of an input. -/
def step (r : Runner) : Input → Runner
  | .load cs => (r.load cs).toOption.getD r
  | .loadCompilation c => ((r.loadCompilation c).map Prod.fst).toOption.getD r
  | .loadScript source => ((r.loadScript source).map Prod.fst).toOption.getD r
  | .play => r.launch
  | .pause => r.pause.getD r
  | .unpause => r.unpause.getD r
  | .stop => r.stop.getD r
  | .reset => r.reset
  | .signal => r.signal.getD r
  | .setOptions o => r.setOptions o
  | .pass ms => r.pass ms
  | .wake play w => r.wake play w

/-- What a runner makes of a schedule. -/
def after (s : List Input) (r : Runner) : Runner := s.foldl step r

/-- The states that a runner gets into. -/
inductive Reachable : Runner → Prop where
  | new (o : Options) : Reachable (.new o)
  | step {r : Runner} (i : Input) : Reachable r → Reachable (r.step i)

/-- A run has no more to do at the present instant: only an answer of the device lets it go on. -/
def Rests (run : Run) (b : Blocked) (r : Runner) : Prop :=
  ∀ w, r.allows run b w → ∃ reply, w = .answered reply

@[simp] theorem after_nil (r : Runner) : r.after [] = r := rfl

@[simp] theorem after_cons (i : Input) (s : List Input) (r : Runner) :
    r.after (i :: s) = (r.step i).after s := rfl

theorem after_append (r : Runner) (s s' : List Input) :
    r.after (s ++ s') = (r.after s).after s' := List.foldl_append

theorem after_concat (r : Runner) (s : List Input) (i : Input) :
    r.after (s ++ [i]) = (r.after s).step i := r.after_append s [i]

theorem Reachable.after {r : Runner} (h : r.Reachable) (s : List Input) :
    (r.after s).Reachable := by
  induction s generalizing r with
  | nil => exact h
  | cons i s ih => exact ih (h.step i)

end Runner

end MotionScript
