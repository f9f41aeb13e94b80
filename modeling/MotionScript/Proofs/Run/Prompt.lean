import MotionScript.Proofs.Run.Progress
import MotionScript.Proofs.Run.Turn

/-!
# Prompt schedules

A runner does at once whatever it can do at the present instant: an operation comes, and time
passes, only when the run in progress has no more to do, and no time passes beyond its deadline.

* `Quiet`: the run in progress has no more to do at the present instant.
* `InTime`, `Prompt`: the inputs and the schedules that let it do at once what it can.
-/

namespace MotionScript

namespace Runner

/-- The run in progress, if there is one, has no more to do at the present instant. -/
def Quiet (r : Runner) : Prop := ∀ x ∈ r.current, r.Rests x.1 x.2

/-- An input comes when there is no more to do at the present instant, and time passes no further
than to the deadline of the run in progress. What lets a play go on may come at any time. -/
def InTime (r : Runner) : Input → Prop
  | .wake _ _ => True
  | .pass ms => r.Quiet ∧ ∀ x ∈ r.current, ∀ d, x.2.deadline? = some d → r.clock + ms ≤ d
  | _ => r.Quiet

/-- Every input of a schedule comes in time. -/
def Prompt : List Input → Runner → Prop
  | [], _ => True
  | i :: s, r => r.InTime i ∧ Prompt s (r.step i)

section Prompt

variable {run : Run} {b : Blocked} {r : Runner}

theorem InProgress.mem_current (h : r.InProgress run b) : (run, b) ∈ r.current :=
  Runner.mem_current.2 ⟨h.mem, h.epoch_eq⟩

theorem InProgress.rests (h : r.InProgress run b) (hq : r.Quiet) : r.Rests run b :=
  hq _ h.mem_current

/-- What is not reset is the run in progress. -/
theorem Inv.inProgress_of_mem_current (h : r.Inv) (hm : (run, b) ∈ r.current) :
    r.InProgress run b :=
  h.inProgress_of_mem (Runner.mem_current.1 hm).1 (Runner.mem_current.1 hm).2

end Prompt

end Runner

end MotionScript
