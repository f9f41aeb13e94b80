import MotionScript.Proofs.Run.Turn
import MotionScript.Proofs.Run.Written

/-!
# Where in its plan a run is blocked

A task in progress keeps the steps that it has not begun. They are what is left of its plan after
the step in which the run is blocked; in the spacing nothing is left. A wait is the whole plan of
its task, and it knows when it was armed.

* `Attempt.At`: a task in progress is in a step of its plan.
* `Blocked.Sited`: where in its plan a run is blocked.
* **`Reachable.sited`**: every run in progress is blocked in a step of its plan.
-/

namespace MotionScript

/-- Some steps of the plan of a task are behind it, and others are left. The device has accepted a
command of it only if one is behind it. -/
def Attempt.Splits (a : Attempt) (behind left : List Step) : Prop :=
  a.task.steps = behind ++ left ∧ (a.sent = true → ∃ text, .send text ∈ behind)

/-- A task in progress is in a step of its plan. -/
def Attempt.At (a : Attempt) (s : Step) : Prop := ∃ behind, a.Splits behind (s :: a.steps)

/-- Where in its plan a run is blocked. -/
def Blocked.Sited (run : Run) (r : Runner) : Blocked → Prop
  | .paused _ => True
  | .calling a text => a.At (.send text)
  | .holding a _ => ∃ ms, a.At (.delay ms)
  | .spacing a _ => a.steps = []
  | .waiting a _ d _ => a.At .signal ∧
      ∃ armed : Nat, r.status.syncWaitStart = some (armed : Int) ∧
        d = armed + run.options.syncTimeout

/-- Where in its plan a run is. -/
def Place.Sited (run : Run) (r : Runner) : Place → Prop
  | .within a => ∃ behind, a.Splits behind a.steps
  | .done a => a.steps = []
  | .blocked b => b.Sited run r
  | .before _ | .failing _ _ | .ended => True

section Site

variable {run : Run} {b : Blocked} {r r' : Runner}

theorem Attempt.At.step {a : Attempt} {s : Step} (h : a.At s) :
    ∃ behind, a.Splits (behind ++ [s]) a.steps := by
  obtain ⟨behind, hp, hs⟩ := h
  refine ⟨behind, by rw [hp, List.append_assoc]; rfl, fun ha => ?_⟩
  obtain ⟨text, ht⟩ := hs ha
  exact ⟨text, List.mem_append_left _ ht⟩

theorem Attempt.At.signal {a : Attempt} (h : a.At .signal) :
    a.task.steps = [.signal] ∧ a.steps = [] ∧ a.sent = false := by
  obtain ⟨behind, hp, hs⟩ := h
  have hmem : .signal ∈ a.task.steps := hp ▸ by simp
  have hall := plan_eq_of_signal_mem a.task.planned hmem
  have hlen := congrArg List.length (hall.symm.trans hp)
  simp only [List.length_append, List.length_cons, List.length_nil] at hlen
  have hb : behind = [] := List.length_eq_zero_iff.1 (by omega)
  subst hb
  refine ⟨hall, List.length_eq_zero_iff.1 (by omega), ?_⟩
  cases hsent : a.sent with
  | false => rfl
  | true =>
    obtain ⟨text, ht⟩ := hs hsent
    cases ht

theorem Blocked.Sited.congr (h : b.Sited run r)
    (hs : r'.status.syncWaitStart = r.status.syncWaitStart) : b.Sited run r' := by
  cases b with
  | waiting a w d told =>
    rw [Blocked.Sited, hs]
    exact h
  | _ => exact h

namespace Runner

theorem Stride.sited {p p' : Place} (hs : Stride run (p, r) (p', r')) (h : p.Sited run r) :
    p'.Sited run r' := by
  cases hs with
  | begin hc t later => exact ⟨[], rfl, fun hs => by cases hs⟩
  | @perform _ hc a s steps hsteps =>
    obtain ⟨behind, hp⟩ := h
    have hat : Attempt.At { a with steps } s := ⟨behind, hsteps ▸ hp⟩
    cases s with
    | send text => exact hat
    | delay ms => exact ⟨ms, hat⟩
    | signal =>
      obtain ⟨j, e⟩ := r.perform_signal_eq run { a with steps }
      rw [e]
      exact ⟨hat, r.clock, rfl, rfl⟩
  | space hc hs hsent hpos => exact hs
  | leave hs hn => exact hs
  | _ => trivial

theorem Departs.sited {w : Wake} {p : Place} (hd : Departs run r b w (p, r'))
    (h : b.Sited run r) : p.Sited run r' := by
  cases hd with
  | accepted a text hr =>
    obtain ⟨behind, hp, -⟩ := h.step
    exact ⟨_, hp, fun _ => ⟨text, by simp⟩⟩
  | held a d =>
    obtain ⟨ms, hat⟩ := h
    exact ⟨_, hat.step.choose_spec⟩
  | spaced a d w => exact h
  | signalled a wait d told => exact ⟨_, h.1.step.choose_spec⟩
  | _ => trivial

theorem InProgress.sited_goOn {b' : Blocked} {run' : Run} {w : Wake} (h : r.InProgress run b)
    (hb : b.Sited run r) (ha : r.allows run b w)
    (h' : ((r.without run.id).goOn run b w).InProgress run' b') :
    b'.Sited run' ((r.without run.id).goOn run b w) := by
  rcases h.goOn_induct (I := fun p r => p.Sited run r) ha
    (fun p r' hd => hd.sited (hb.congr rfl)) (fun p r p' r' hp hs => hs.sited hp) with
    ⟨b'', hp, hs⟩ | ⟨hi, -⟩
  · obtain ⟨rfl, rfl⟩ := hp.unique h'
    exact hs
  · exact absurd h' hi.not_inProgress

/-- **Every run in progress is blocked in a step of its plan.** -/
theorem Reachable.sited (h : r.Reachable) (hp : r.InProgress run b) : b.Sited run r := by
  induction h generalizing run b with
  | new o => exact absurd hp.mem List.not_mem_nil
  | @step r i hr ih =>
    generalize hr' : r.step i = r' at hp
    have ht := hr.inv.turn i
    rw [hr'] at ht
    cases ht with
    | load hi hi₁ hi₂ tasks e => exact absurd hp hi₂.not_inProgress
    | reset => exact absurd hp hr.inv.reset.not_inProgress
    | idle hi₁ hi₂ ha => exact absurd hp hi₂.not_inProgress
    | play hidle hplay =>
      rcases hidle.play_induct (I := fun p r' => p.Sited r.nextRun r') hplay trivial
        (fun p r p' r' hp hs => hs.sited hp) with ⟨b', hp', hs⟩ | ⟨hi, -⟩
      · obtain ⟨rfl, rfl⟩ := hp'.unique hp
        exact hs
      · exact absurd hp hi.not_inProgress
    | goOn h₁ ha => exact h₁.sited_goOn (ih h₁) ha hp
    | aside h₁ h₂ hb hw ha =>
      obtain ⟨rfl, rfl⟩ := h₂.unique hp
      have hs := congrArg Status.syncWaitStart ha.status_eq
      rcases hb with rfl | ⟨-, a, wait, d, rfl, rfl⟩
      · exact (ih h₁).congr hs
      · exact Blocked.Sited.congr (b := .waiting a wait d none) (ih h₁) hs

end Runner

end Site

end MotionScript
