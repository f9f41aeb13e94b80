import MotionScript.Run.Task

/-!
# Plans and the signal

* **`Task.signal_notMem`**: only the first step of a task can be a wait for the signal.
-/

namespace MotionScript

theorem signal_notMem_hold (ms : Nat) : .signal ∉ hold ms := by
  unfold hold
  split <;> simp

theorem send_notMem_hold (text : String) (ms : Nat) : .send text ∉ hold ms := by
  unfold hold
  split <;> simp

theorem Leg.signal_notMem_steps (axis : Axis) (l : Leg) : .signal ∉ l.steps axis := by
  simp only [Leg.steps, List.mem_append, Option.mem_toList, Option.map_eq_some_iff, reduceCtorEq,
    and_false, exists_false, List.mem_cons, false_or]
  exact signal_notMem_hold _

theorem Move.signal_notMem_steps (m : Move) : .signal ∉ m.steps := by
  intro h
  obtain ⟨l, -, hl⟩ := List.mem_flatMap.1 h
  exact l.signal_notMem_steps m.axis hl

theorem Move.groupStep?_ne_signal (m : Move) : m.groupStep? ≠ some .signal := by
  simp [Move.groupStep?]

theorem instruction_eq_of_signal_mem {c : Command} {steps : List Step} (h : plan c = .ok steps)
    (hs : .signal ∈ steps) : c.instruction = .wait := by
  unfold plan at h
  split at h
  · cases h
    obtain ⟨m, -, hm⟩ := List.mem_flatMap.1 hs
    exact absurd hm m.signal_notMem_steps
  · cases h
    rcases List.mem_append.1 hs with hs | hs
    · obtain ⟨m, -, hm⟩ := List.mem_filterMap.1 hs
      exact absurd hm m.groupStep?_ne_signal
    · exact absurd hs (signal_notMem_hold _)
  all_goals cases h
  all_goals simp_all

/-- A plan with a wait in it is nothing but the wait. -/
theorem plan_eq_of_signal_mem {c : Command} {steps : List Step} (h : plan c = .ok steps)
    (hs : .signal ∈ steps) : steps = [.signal] := by
  simp only [plan, instruction_eq_of_signal_mem h hs, Except.ok.injEq] at h
  exact h.symm

/-- Only the first step of a task can be a wait for the signal. -/
theorem Task.signal_notMem {t : Task} {s : Step} {steps : List Step} (h : t.steps = s :: steps) :
    .signal ∉ steps := by
  intro hs
  have := plan_eq_of_signal_mem t.planned (h ▸ List.mem_cons_of_mem _ hs)
  simp_all

end MotionScript
