import Mathlib.Algebra.GroupWithZero.Nat
import MotionScript.Proofs.Run.Counters

/-!
# The retries that are counted

A device tells with every answer how many retries it needed. The metrics count them when a command
is completed. The retries of an attempt that fails, or that a stop cuts short, are lost.

* `receivedRetries`, `lostRetries`: the retries of all answers, and of those in attempts that were
  not completed.
* `RetryBalance`: what is received is counted, lost or not accounted for yet.
* **`Reachable.retries_balance`**: the balance holds after every play with monitoring.
* `rejectedDetection_retries`: the retries of an answer that rejects a command are lost.
-/

namespace MotionScript

/-- The retries of all answers. -/
def receivedRetries (l : List Moment) : Nat := (l.map Moment.retries).sum

/-- The retries of the answers in attempts that failed, or that were left before their end. -/
def lostRetries : List Moment → Nat
  | [] => 0
  | .told (.started _ _) :: l | .told (.failed _ _) :: l | .told (.finished _) :: l =>
    lostRetries l + openRetries l
  | _ :: l => lostRetries l

theorem receivedRetries_eq (l : List Moment) :
    receivedRetries l = countedRetries l + lostRetries l + openRetries l := by
  induction l with
  | nil => rfl
  | cons m l ih =>
    have hsum : receivedRetries (m :: l) = m.retries + receivedRetries l := List.sum_cons
    rw [hsum, ih]
    cases m with
    | told e =>
      cases e <;> simp [countedRetries, lostRetries, openRetries, Moment.retries,
        Moment.isCompleted] <;> omega
    | woken b w => simp [countedRetries, lostRetries, openRetries, Moment.isCompleted]; omega
    | stopped | abandoned =>
      simp [countedRetries, lostRetries, openRetries, Moment.retries, Moment.isCompleted]

namespace Runner

/-- What becomes of the retries that a play receives, where `d` is its diary and `q` a state after
it. -/
structure RetryBalance (d : List Moment) (q : Runner) : Prop where
  counted_eq : q.metrics.retries = countedRetries d
  received_eq : receivedRetries d = q.metrics.retries + lostRetries d + openRetries d
  /-- At the end nothing is open, and these metrics are announced. -/
  finished : q.status.executing = false → openRetries d = 0 ∧
    (q.metrics.retries = receivedRetries d ↔ lostRetries d = 0) ∧
    ∃ l, d = .told (.finished q.metrics) :: l

section Retries

variable {r r' : Runner} {s : List Input}

theorem Counted.retryBalance {d : List Moment} (h : Counted r d r')
    (ho : r.options.monitoring = true) : RetryBalance d r' := by
  have hcounted := (h.measures ho).retries_eq
  have hreceived := receivedRetries_eq d
  rw [← hcounted] at hreceived
  refine ⟨hcounted, hreceived, fun hx => ?_⟩
  obtain ⟨l, rfl⟩ := h.finished hx
  have hopen : openRetries (.told (.finished r'.metrics) :: l) = 0 := rfl
  refine ⟨hopen, ?_, l, rfl⟩
  rw [hopen] at hreceived
  omega

/-- **The retries that a play receives are counted, lost or still open.** At its end those counted
are all that were received if and only if no attempt with a retry failed or was cut short. -/
theorem Reachable.retries_balance (h : r.Reachable) (hp : r.play = .ok r')
    (ho : r.options.monitoring = true) (hs : r'.Calm s) :
    RetryBalance (diary r.plays (.play :: s) r) (r'.after s) :=
  ((h.inv.idle (play_eq_ok hp).1).counted hp hs).retryBalance ho

end Retries

/-- A detection is loaded. A failure ends the run. -/
def detection : Runner :=
  (new { Options.standard with pauseOnError := false }).after
    [.load [⟨.detect, "DETECT", 1, 0, []⟩]]

/-- The device rejects the detection after two retries. -/
def rejection : List Input := [.wake 0 (.answered (.ok ⟨false, "NO", none, 2⟩))]

theorem calm_rejection (r : Runner) : r.Calm rejection :=
  ⟨⟨by simp, False.elim, by simp⟩, trivial⟩

/-- The retries of an answer that rejects a command are not counted. -/
theorem rejectedDetection_retries : ¬ ∀ (r r' : Runner) (s : List Input), r.Reachable →
    r.play = .ok r' → r.options.monitoring = true → r'.Calm s →
    (r'.after s).status.executing = false →
    (r'.after s).metrics.retries = receivedRetries (diary r.plays (.play :: s) r) := by
  intro h
  have hr : detection.Reachable := (Reachable.new _).after _
  have hlost := h detection (detection.step .play) rejection hr rfl rfl (calm_rejection _) rfl
  have hcounted : ((detection.step .play).after rejection).metrics.retries = 0 := rfl
  have hreceived : receivedRetries (diary detection.plays (.play :: rejection) detection) = 2 := rfl
  omega

theorem rejection_retryBalance : detection.Reachable ∧
    RetryBalance (diary 0 (.play :: rejection) detection)
      ((detection.step .play).after rejection) ∧
    lostRetries (diary 0 (.play :: rejection) detection) = 2 := by
  have hr : detection.Reachable := (Reachable.new _).after _
  exact ⟨hr, hr.retries_balance rfl rfl (calm_rejection _), rfl⟩

end Runner

end MotionScript
