import MotionScript.Proofs.Run.Consistent

/-!
# No run is stuck

Whatever lets the run in progress go on moves it: it gets to another place, or it ends. Where it has
no more to do at the present instant, it waits for one of four things: an answer of the device, a
time to come, a signal that may still come until a time to come, or the end of a pause.

* `Awaits`: what a run waits for where it is blocked.
* `remedy`: inputs that let a run go on.
* `Waits`: a run waits for something, and the remedy moves it.
* `Movable`: a run goes on at once, or it waits.
* **`Reachable.movable`**: every run in progress is movable.
-/

namespace MotionScript

namespace Runner

/-- What a run waits for where it is blocked. -/
def Awaits (r : Runner) : Blocked → Prop
  | .paused _ => r.control = .pause ∧ r.status.phase = .paused
  | .calling _ _ => True
  | .holding _ d | .spacing _ d => r.clock < d
  | .waiting _ w d told => told = none ∧ r.slot = some w ∧ r.clock < d

/-- A run just ended without a failure, and none is in progress. -/
structure Stopped (run : Run) (r : Runner) : Prop where
  notMem : ∀ b, (run, b) ∉ r.runs
  phase : r.status.phase = .idle
  executing : r.status.executing = false
  ended : ∃ m j, r.journal = .ended run.id (.ok m) :: j

/-- A run is beyond a task: it is paused, or blocked within a later task. -/
def Onward (a : Attempt) (b : Blocked) : Prop :=
  (∃ todo, b = .paused todo) ∨ ∃ a', b.attempt? = some a' ∧ a'.later.length < a.later.length

section Next

variable {run : Run} {b : Blocked} {late : Nat} {r : Runner}

theorem mem_runs_block (hid : ∀ x ∈ r.runs, x.1.id ≠ run.id) {b' : Blocked} :
    (run, b') ∈ (r.block run b).runs ↔ b' = b := by
  have hne : (run, b') ∉ r.runs := fun hx => hid _ hx rfl
  simp [block, hne]

theorem Carried.notMem (h : r.Carried run late) : (run, b) ∉ r.runs := fun hx => (h.old _ hx).1 rfl

theorem Carried.notMem_finish (h : r.Carried run late) (outcome : Except Failure Unit) :
    (run, b) ∉ (r.finish run outcome).runs := by
  obtain ⟨m, j, e⟩ := r.close_eq run outcome
  rw [Runner.finish, if_pos h.epoch_eq, e]
  exact h.notMem

theorem Carried.stopped_finish (h : r.Carried run late) : (r.finish run (.ok ())).Stopped run where
  notMem _ := h.notMem_finish _
  phase := by
    obtain ⟨m, j, e⟩ := r.close_eq run (.ok ())
    rw [Runner.finish, if_pos h.epoch_eq, e]
    rfl
  executing := by
    obtain ⟨m, j, e⟩ := r.close_eq run (.ok ())
    rw [Runner.finish, if_pos h.epoch_eq, e]
  ended := by
    rw [Runner.finish, if_pos h.epoch_eq]
    exact ⟨_, _, rfl⟩

theorem Underway.attempt_of_perform (h : r.Underway run late) {a : Attempt} {s : Step}
    (hb : (run, b) ∈ (r.perform run a s).runs) :
    b.attempt? = some a ∧ ∀ a' d, b ≠ .spacing a' d := by
  have hid := fun x hx => (h.old x hx).1
  cases s with
  | send text =>
    obtain rfl := (mem_runs_block hid).1 hb
    exact ⟨rfl, by simp⟩
  | delay ms =>
    obtain rfl := (mem_runs_block hid).1 hb
    exact ⟨rfl, by simp⟩
  | signal =>
    obtain ⟨j, e⟩ := setPhase_eq { r with
      slot := some r.waits
      waits := r.waits + 1
      status := { r.status with syncWaitStart := some (r.clock : Int) } } .syncWait
    simp only [Runner.perform] at hb
    rw [e] at hb
    obtain rfl := (mem_runs_block hid).1 hb
    exact ⟨rfl, by simp⟩

/-- A run that goes on with some tasks pauses before them, or is blocked within one of them. -/
theorem Underway.attempt_of_advance (h : r.Underway run late) {todo : List Task}
    (ht : todo = r.tasks.drop r.status.cursor) (hb : (run, b) ∈ (r.advance run todo).runs) :
    (r.control = .pause ∧ b = .paused todo) ∨
      (r.control = .run ∧ ∃ a, b.attempt? = some a ∧ a.later.length < todo.length) := by
  fun_induction Runner.advance run todo r with
  | case1 _ r hc => exact .inl ⟨hc, (mem_runs_block fun x hx => (h.old x hx).1).1 hb⟩
  | case2 | case3 | case4 => exact absurd hb (h.notMem_finish _)
  | case5 r hc _ t later _ ih =>
    obtain ⟨j, e⟩ := r.begin_eq t
    obtain ⟨m, e'⟩ := complete_eq (r.begin t) run ⟨t, later, [], 0, false, r.clock⟩
    have hlt : (r.begin t).status.cursor < (r.begin t).tasks.length := by
      rw [e]; exact cursor_lt_of_drop_eq ht
    rcases ih ((h.begin hc t).complete hlt _) (by rw [e', e]; exact drop_succ_cursor ht) hb with
      ⟨hp, -⟩ | ⟨-, a, ha, hlen⟩
    · rw [e', e] at hp
      exact absurd (hc.symm.trans hp) (by simp)
    · exact .inr ⟨hc, a, ha, Nat.lt_succ_of_lt hlen⟩
  | case6 r hc _ t later s steps =>
    exact .inr ⟨hc, _, ((h.begin hc t).attempt_of_perform hb).1, Nat.lt_succ_self _⟩

/-- After a failed task a run pauses, or goes on with the tasks after it, or ends. -/
theorem Underway.onward_of_afterFailure (h : r.Underway run late) (hl : late ≤ 1) {a : Attempt}
    (ht : a.todo = r.tasks.drop r.status.cursor) {e : Failure}
    (hb : (run, b) ∈ (r.afterFailure run a e).runs) : Onward a b := by
  have hf := h.fail hl a e
  obtain ⟨m, he⟩ := r.fail_eq run a e
  have htodo : a.todo = (r.fail run a e).tasks.drop (r.fail run a e).status.cursor := by
    rw [he]; exact ht
  simp only [Runner.afterFailure] at hb
  split at hb
  · split at hb
    · next hc =>
      rw [advance_stop hc] at hb
      exact absurd hb (hf.notMem_finish _)
    · obtain ⟨j, e'⟩ := setPhase_eq { r.fail run a e with control := .pause } .paused
      have hc : (setPhase .paused { r.fail run a e with control := .pause }).control = .pause := by
        rw [e']
      rw [advance_pause hc] at hb
      exact .inl ⟨_, (mem_runs_block fun x hx => ((hf.setMode .pause).old x hx).1).1 hb⟩
  · split at hb
    · have hs := hf.skip (cursor_lt_of_drop_eq htodo)
      exact (hs.attempt_of_advance (drop_succ_cursor htodo) hb).imp (fun h => ⟨_, h.2⟩) And.right
    · exact absurd hb (hf.notMem_finish _)

theorem Underway.onward_of_conclude (h : r.Underway run 0) {a : Attempt}
    (ht : a.todo = r.tasks.drop r.status.cursor) {ending : Ending}
    (hi : ending = .interrupted → r.control = .stop)
    (hb : (run, b) ∈ (r.conclude run a ending).runs) : Onward a b := by
  simp only [Runner.conclude, h.epoch_eq, ne_eq, not_true_eq_false, if_false] at hb
  cases ending with
  | done =>
    have hc := h.complete (cursor_lt_of_drop_eq ht) a
    obtain ⟨m, e⟩ := r.complete_eq run a
    refine (hc.attempt_of_advance ?_ hb).imp (fun h => ⟨_, h.2⟩) And.right
    rw [e]
    exact drop_succ_cursor ht
  | interrupted =>
    rw [advance_stop (hi rfl)] at hb
    exact absurd hb (h.notMem_finish _)
  | failed e => exact h.onward_of_afterFailure (Nat.zero_le 1) ht hb

/-- Inside a task, a run gets to a later step, or to the spacing, or beyond the task. -/
theorem Underway.onward_of_resume (h : r.Underway run 0) {a : Attempt}
    (ht : a.todo = r.tasks.drop r.status.cursor) (hb : (run, b) ∈ (r.resume run a).runs) :
    Onward a b ∨ (∃ d, b = .spacing a d) ∨
      ∃ a', b.attempt? = some a' ∧ a'.steps.length < a.steps.length := by
  unfold Runner.resume at hb
  split at hb
  · split at hb
    · exact .inr (.inl ⟨_, (mem_runs_block fun x hx => (h.old x hx).1).1 hb⟩)
    · exact .inl (h.onward_of_conclude ht (by simp) hb)
  · next s steps hs =>
    split at hb
    · refine .inr (.inr ⟨_, (h.attempt_of_perform hb).1, ?_⟩)
      rw [hs]
      exact Nat.lt_succ_self _
    · next hg =>
      have hc := stop_of_not_mayGoOn h.epoch_eq hg
      exact .inl (h.onward_of_conclude ht (fun _ => hc) hb)

theorem Onward.attempt_ne {a : Attempt} (h : Onward a b) : b.attempt? ≠ some a := by
  rintro ha
  rcases h with ⟨todo, rfl⟩ | ⟨a', ha', hlt⟩
  · cases ha
  · rw [ha] at ha'
    cases ha'
    exact Nat.lt_irrefl _ hlt

theorem Underway.notMem_resume (h : r.Underway run 0) {a a' : Attempt}
    (ht : a'.todo = r.tasks.drop r.status.cursor) (hlater : a'.later = a.later)
    (hsteps : a'.steps = a.steps) (ha : b.attempt? = some a) (hb : ∀ a d, b ≠ .spacing a d) :
    (run, b) ∉ (r.resume run a').runs := by
  intro hm
  rcases h.onward_of_resume ht hm with ho | ⟨d, e⟩ | ⟨a'', ha'', hlt⟩
  · have ho : Onward a b := by rwa [Onward, ← hlater]
    exact ho.attempt_ne ha
  · exact hb _ _ e
  · rw [ha] at ha''
    cases ha''
    rw [hsteps] at hlt
    exact Nat.lt_irrefl _ hlt

theorem Underway.notMem_conclude (h : r.Underway run 0) {a : Attempt}
    (ht : a.todo = r.tasks.drop r.status.cursor) {ending : Ending}
    (hi : ending = .interrupted → r.control = .stop) (ha : b.attempt? = some a) :
    (run, b) ∉ (r.conclude run a ending).runs :=
  fun hm => (h.onward_of_conclude ht hi hm).attempt_ne ha

theorem InProgress.notMem_leaveWait {a : Attempt} {wait d : Nat} {told : Option Bool}
    (h : r.InProgress run (.waiting a wait d told)) {w : Wake}
    (ha : r.allows run (.waiting a wait d told) w) :
    (run, .waiting a wait d told) ∉ ((r.without run.id).leaveWait run a wait w).runs := by
  have hu := h.carried.endWait (h.phase.imp_right And.right) w
  obtain ⟨j, e⟩ := endWait_eq { r.without run.id with slot := none } w
  have ht : a.todo = (endWait w { r.without run.id with slot := none }).tasks.drop
      (endWait w { r.without run.id with slot := none }).status.cursor := by
    rw [e]; exact h.todo_eq
  unfold Runner.leaveWait
  rw [h.disarm, if_neg (fun hne => hne h.epoch_eq)]
  cases w with
  | signalled => exact hu.notMem_resume ht rfl rfl rfl (by simp)
  | elapsed =>
    rw [conclude_eq hu.epoch_eq]
    exact fun hm => (hu.onward_of_afterFailure (Nat.le_refl 1) ht hm).attempt_ne rfl
  | released =>
    have hc := h.stop_of_released ha
    refine hu.notMem_conclude ht (fun _ => ?_) rfl
    rw [e]
    exact hc
  | answered reply => simp [allows] at ha

theorem InProgress.notMem_goOn (h : r.InProgress run b) {w : Wake} (ha : r.allows run b w) :
    (run, b) ∉ ((r.without run.id).goOn run b w).runs := by
  cases b with
  | paused todo =>
    intro hm
    rcases (h.underway id).attempt_of_advance h.todo_eq hm with ⟨hc, -⟩ | ⟨-, a, e, -⟩
    · cases w <;> simp [allows] at ha
      exact ha hc
    · cases e
  | calling a text =>
    cases w with
    | answered reply =>
      have hu := h.underway id
      change _ ∉ (Runner.hear run a text reply (r.without run.id)).runs
      unfold Runner.hear
      split
      · exact hu.notMem_conclude h.todo_eq (by simp) rfl
      · split
        · exact hu.notMem_resume (a := a) h.todo_eq rfl rfl rfl (by simp)
        · exact hu.notMem_conclude h.todo_eq (by simp) rfl
    | elapsed | signalled | released => simp [allows] at ha
  | holding a d =>
    have hu := h.underway id
    cases w with
    | elapsed => exact hu.notMem_resume h.todo_eq rfl rfl rfl (by simp)
    | released =>
      have hg : ¬ r.MayGoOn run := by simpa [allows] using ha
      exact hu.notMem_conclude h.todo_eq (fun _ => stop_of_not_mayGoOn hu.epoch_eq hg) rfl
    | answered reply | signalled => simp [allows] at ha
  | spacing a d => exact (h.underway id).notMem_conclude h.todo_eq (by simp) rfl
  | waiting a wait d told => exact h.notMem_leaveWait ha

end Next

/-! ## Progress -/

section Progress

variable {run : Run} {b : Blocked} {r : Runner}

theorem Inv.wake_eq (h : r.Inv) (hm : (run, b) ∈ r.runs) {w : Wake} (ha : r.allows run b w) :
    r.wake run.id w = (r.without run.id).goOn run b w := by
  have hf : (r.runs.find? fun x => x.1.id == run.id) = some (run, b) := by
    cases hf : r.runs.find? fun x => x.1.id == run.id with
    | none => exact absurd (List.find?_eq_none.1 hf _ hm) (by simp)
    | some x =>
      have hid : x.1.id = run.id := by simpa using List.find?_some hf
      rw [h.roster.eq_of_id_eq (List.mem_of_find?_eq_some hf) hm hid]
  simp only [Runner.wake, hf, ha, if_true]

theorem InProgress.notMem_wake (h : r.InProgress run b) {w : Wake} (ha : r.allows run b w) :
    (run, b) ∉ (r.wake run.id w).runs := by
  rw [Inv.wake_eq (.inr ⟨run, b, h⟩) h.mem ha]
  exact h.notMem_goOn ha

/-- A run that has no more to do at the present instant waits where it is blocked. -/
theorem InProgress.awaits (h : r.InProgress run b) (hq : r.Rests run b) : r.Awaits b := by
  cases b with
  | paused todo =>
    have hc : r.control = .pause := by
      by_contra hc
      obtain ⟨_, e⟩ := hq .released (by simpa [allows] using hc)
      cases e
    refine ⟨hc, ?_⟩
    rw [h.phase.resolve_right fun hw => hw.1, hc]
    rfl
  | calling a text => trivial
  | holding a d | spacing a d =>
    by_contra hd
    obtain ⟨_, e⟩ := hq .elapsed (by simpa [allows, Awaits] using hd)
    cases e
  | waiting a wait d told =>
    have ht : told = none := by
      cases told with
      | none => rfl
      | some s =>
        cases s with
        | true =>
          obtain ⟨_, e⟩ := hq .signalled (by simp [allows])
          cases e
        | false =>
          obtain ⟨_, e⟩ := hq .released (by simp [allows])
          cases e
    refine ⟨ht, ((h.roster.member _ h.mem).untold_iff rfl).1 ht, ?_⟩
    by_contra hd
    obtain ⟨_, e⟩ := hq .elapsed (by simpa [allows] using hd)
    cases e

theorem InProgress.pass (h : r.InProgress run b) (ms : Nat) : (r.pass ms).InProgress run b :=
  { h with }

theorem control_setMode (r : Runner) (c : Control) :
    (setPhase c.phase { r with control := c }).control = c := by
  obtain ⟨j, e⟩ := setPhase_eq { r with control := c } c.phase
  rw [e]

theorem InProgress.unpause {todo : List Task} (h : r.InProgress run (.paused todo))
    (ha : r.Awaits (.paused todo)) : ∃ r', r.unpause = some r' ∧
      ∀ b', (run, b') ∈ (r'.wake run.id .released).runs → ∀ todo', b' ≠ .paused todo' := by
  have hp := h.setMode .run
  have hc := control_setMode r .run
  refine ⟨_, if_pos ha.2, fun b' hm todo' e => ?_⟩
  subst e
  rw [← Control.phase, Inv.wake_eq (.inr ⟨_, _, hp⟩) hp.mem (by simp [allows, hc])] at hm
  rcases (hp.underway id).attempt_of_advance hp.todo_eq hm with ⟨hc', -⟩ | ⟨-, a, e, -⟩
  · cases hc.symm.trans hc'
  · cases e

theorem InProgress.stop {todo : List Task} (h : r.InProgress run (.paused todo))
    (ha : r.Awaits (.paused todo)) :
    ∃ r', r.stop = some r' ∧ (r'.wake run.id .released).Stopped run := by
  have hp := h.setMode .stop
  have hc := control_setMode r .stop
  refine ⟨_, if_pos (.inr (.inl ha.2)), ?_⟩
  rw [← Control.phase, Inv.wake_eq (.inr ⟨_, _, hp⟩) hp.mem (by simp [allows, hc])]
  change ((without run.id _).advance run todo).Stopped run
  rw [advance_stop (show (without run.id _).control = .stop from hc)]
  exact (hp.underway id).stopped_finish

theorem InProgress.stopping (h : r.InProgress run b) (ha : r.Awaits b) (hq : r.Rests run b)
    (hp : r.status.phase = .stopping) : ∃ a text, b = .calling a text := by
  have hc : r.control = .stop := by
    rcases h.phase with hp' | ⟨-, hp', -⟩
    · rw [hp] at hp'
      cases hc : r.control <;> simp [hc, Control.phase] at hp' ⊢
    · rw [hp] at hp'
      cases hp'
  have hg : ¬ r.MayGoOn run := fun hg => hg.1 hc
  have hq : r.allows run b .released → False := fun ha => by
    obtain ⟨_, e⟩ := hq .released ha
    cases e
  cases b with
  | paused todo => exact absurd (hc.symm.trans ha.1) (by simp)
  | calling a text => exact ⟨a, text, rfl⟩
  | holding a d | spacing a d => exact (hq (by simpa [allows] using hg)).elim
  | waiting a wait d told => exact (hq (by simp [allows, hc])).elim

end Progress

end Runner

end MotionScript
