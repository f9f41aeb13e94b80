import MotionScript.Proofs.Run.Invariant

/-!
# The status of a runner is consistent

* `Runner.current`: the plays that have not ended and were not reset.
* `Consistent`: how the fields of a status, the requested mode and the plays that have not ended
  belong together.
* **`after_consistent`**: they do after every schedule.
-/

namespace MotionScript

theorem Task.command_of_ofCommand {c : Command} {t : Task} (h : Task.ofCommand c = .ok t) :
    t.command = c := by
  unfold Task.ofCommand at h
  split at h <;> cases h
  rfl

theorem Task.map_command_of_ofCommands {cs : List Command} {ts : List Task}
    (h : Task.ofCommands cs = .ok ts) : ts.map Task.command = cs := by
  unfold Task.ofCommands at h
  induction cs generalizing ts with
  | nil => cases h; rfl
  | cons c cs ih =>
    rw [List.mapM_cons] at h
    cases hc : Task.ofCommand c with
    | error e => simp [hc, bind, Except.bind] at h
    | ok t =>
      cases hcs : cs.mapM Task.ofCommand with
      | error e => simp [hc, hcs, bind, Except.bind] at h
      | ok ts' =>
        simp only [hc, hcs, bind, Except.bind, pure, Except.pure, Except.ok.injEq] at h
        subst h
        rw [List.map_cons, ih hcs, Task.command_of_ofCommand hc]

namespace Runner

/-- The plays that have not ended and were not reset. -/
def current (r : Runner) : List (Run × Blocked) := r.runs.filter fun x => x.1.epoch == r.epoch

/-- The fields of a status, the requested mode and the plays that have not ended belong together. -/
structure Consistent (r : Runner) : Prop where
  /-- A run is in progress in four of the phases. -/
  executing_iff : r.status.executing = true ↔
    r.status.phase ∈ [.running, .paused, .stopping, .syncWait]
  /-- Then one play has not ended and was not reset, otherwise none. -/
  length_current : r.current.length = if r.status.executing then 1 else 0
  total_eq : r.status.total = r.tasks.length
  /-- What is loaded is what was asked for. -/
  load_eq : ∀ cs r', r.load cs = .ok r' → r'.tasks.map Task.command = cs
  cursor_le : r.status.cursor ≤ r.status.total
  /-- A command in progress is the one at the cursor, and the status names the routines that it was
  inlined from and the innermost of them. -/
  attempt : ∀ x ∈ r.current, ∀ a, x.2.attempt? = some a →
    r.status.cursor < r.status.total ∧ r.tasks[r.status.cursor]? = some a.task ∧
      r.snapshot.status.callers = a.task.command.callers ∧
      r.snapshot.routine = a.task.command.callers.getLast?
  paused_iff : r.status.executing = true → (r.status.phase = .paused ↔ r.control = .pause)
  stopping_iff : r.status.executing = true → (r.status.phase = .stopping ↔ r.control = .stop)
  timeouts_le : r.status.syncTimeouts ≤ r.status.errors.length

variable {r : Runner} {run : Run} {b : Blocked}

theorem mem_current {x : Run × Blocked} : x ∈ r.current ↔ x ∈ r.runs ∧ x.1.epoch = r.epoch := by
  simp [current]

theorem load_eq_ok {cs : List Command} {r' : Runner} (h : r.load cs = .ok r') :
    r'.tasks.map Task.command = cs := by
  cases ht : Task.ofCommands cs with
  | error e => simp [load, ht, bind, Except.bind] at h
  | ok tasks =>
    cases he : r.status.executing with
    | true => simp [load, ht, he, bind, Except.bind] at h
    | false =>
      simp only [load, ht, he, bind, Except.bind, Bool.false_eq_true, if_false,
        Except.ok.injEq] at h
      subst h
      exact Task.map_command_of_ofCommands ht

theorem Idle.current_eq (h : r.Idle) : r.current = [] :=
  List.filter_eq_nil_iff.2 fun x hx => by simpa using Nat.ne_of_lt (h.old x hx)

/-- The run in progress is the only play that was not reset. -/
theorem InProgress.current_eq (h : r.InProgress run b) : r.current = [(run, b)] := by
  have hnodup : r.current.Nodup := (List.Nodup.of_map _ h.roster.nodup).filter _
  have hmem : (run, b) ∈ r.current := mem_current.2 ⟨h.mem, h.epoch_eq⟩
  -- all its elements are the run in progress, and no two are equal
  have hrep : r.current = List.replicate r.current.length (run, b) :=
    List.eq_replicate_of_mem fun x hx =>
      h.eq_of_epoch_eq (mem_current.1 hx).1 (mem_current.1 hx).2
  have hle : r.current.length ≤ 1 := by
    rw [hrep] at hnodup
    exact List.nodup_replicate.1 hnodup
  have hpos := List.length_pos_of_mem hmem
  rw [hrep, show r.current.length = 1 by omega]
  rfl

theorem Idle.consistent (h : r.Idle) : r.Consistent where
  executing_iff := by rcases h.phase with hp | hp <;> simp [h.executing, hp]
  length_current := by simp [h.current_eq, h.executing]
  total_eq := h.tally.total_eq
  load_eq _ _ := load_eq_ok
  cursor_le := h.tally.total_eq ▸ h.tally.cursor_le
  attempt x hx := by rw [h.current_eq] at hx; cases hx
  paused_iff he := by rw [h.executing] at he; cases he
  stopping_iff he := by rw [h.executing] at he; cases he
  timeouts_le := h.tally.timeouts_le

theorem InProgress.consistent (h : r.InProgress run b) : r.Consistent where
  executing_iff := by
    simp only [h.executing, true_iff]
    rcases h.phase with hp | ⟨-, hp, -⟩
    · rw [hp]
      cases r.control <;> simp [Control.phase]
    · simp [hp]
  length_current := by simp [h.current_eq, h.executing]
  total_eq := h.tally.total_eq
  load_eq _ _ := load_eq_ok
  cursor_le := h.tally.total_eq ▸ h.tally.cursor_le
  attempt := by
    intro x hx a ha
    rw [h.current_eq, List.mem_singleton] at hx
    subst hx
    have htodo : a.task :: a.later = r.tasks.drop r.status.cursor := by
      rw [← h.todo_eq]
      cases b <;> cases ha <;> rfl
    have hcallers := h.callers a ha
    refine ⟨h.tally.total_eq ▸ cursor_lt_of_drop_eq htodo, ?_, hcallers, ?_⟩
    · rw [← List.head?_drop, ← htodo, List.head?_cons]
    · exact congrArg List.getLast? hcallers
  paused_iff _ := by
    rcases h.phase with hp | ⟨-, hp, hc⟩
    · rw [hp]
      cases r.control <;> simp [Control.phase]
    · simp [hp, hc]
  stopping_iff _ := by
    rcases h.phase with hp | ⟨-, hp, hc⟩
    · rw [hp]
      cases r.control <;> simp [Control.phase]
    · simp [hp, hc]
  timeouts_le := h.tally.timeouts_le

/-- **After every schedule, of operations, answers of the device and timers, the status of a runner
is consistent.** -/
theorem after_consistent (o : Options) (s : List Input) : ((new o).after s).Consistent := by
  rcases ((Reachable.new o).after s).inv with h | ⟨run, b, h⟩
  · exact h.consistent
  · exact h.consistent

end Runner

end MotionScript
