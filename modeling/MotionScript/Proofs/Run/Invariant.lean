import MotionScript.Proofs.Run.Abandoned
import MotionScript.Proofs.Run.Parts
import MotionScript.Proofs.Run.Plan
import MotionScript.Proofs.Run.Roster

/-!
# The invariant of a runner

A runner is idle, or exactly one run is in progress and blocked somewhere. What holds of a blocked
run, `InProgress`, follows from what holds while it is carried out, `Underway`, and the other way
round; each part of a transition is a step from the one to the other.

* `Tally`: the counters of the status.
* `Idle`, `InProgress`, `Inv`: the states of a runner.
* `Carried`, `Underway`: a run is being carried out.
* **`Reachable.inv`**: every state that a runner gets into satisfies the invariant.
-/

namespace MotionScript

namespace Blocked

/-- The task in progress. -/
def attempt? : Blocked → Option Attempt
  | paused _ => none
  | calling a _ | holding a _ | spacing a _ | waiting a _ _ _ => some a

/-- The tasks that are not done. -/
def todo : Blocked → List Task
  | paused todo => todo
  | calling a _ | holding a _ | spacing a _ | waiting a _ _ _ => a.todo

end Blocked

namespace Runner

/-- What holds of the counters of a status, while `late` waits that timed out are still to be
reported. -/
structure Tally (late : Nat) (s : Status) (tasks : List Task) : Prop where
  total_eq : s.total = tasks.length
  cursor_le : s.cursor ≤ tasks.length
  timeouts_le : s.syncTimeouts ≤ s.errors.length + late

/-- No run is in progress. -/
structure Idle (r : Runner) : Prop where
  roster : Roster r.runs r.epoch r.plays r.slot r.waits
  tally : Tally 0 r.status r.tasks
  executing : r.status.executing = false
  phase : r.status.phase = .idle ∨ r.status.phase = .error
  old : ∀ x ∈ r.runs, x.1.epoch < r.epoch
  start : r.status.syncWaitStart = none

/-- A run is in progress, and blocked. -/
structure InProgress (run : Run) (b : Blocked) (r : Runner) : Prop where
  roster : Roster r.runs r.epoch r.plays r.slot r.waits
  tally : Tally 0 r.status r.tasks
  executing : r.status.executing = true
  mem : (run, b) ∈ r.runs
  epoch_eq : run.epoch = r.epoch
  old : ∀ x ∈ r.runs, x.1.id ≠ run.id → x.1.epoch < r.epoch
  todo_eq : b.todo = r.tasks.drop r.status.cursor
  callers : ∀ a, b.attempt? = some a → r.status.callers = a.task.command.callers
  steps : ∀ a, b.attempt? = some a → .signal ∉ a.steps
  phase : r.status.phase = r.control.phase ∨
    b.IsWaiting ∧ r.status.phase = .syncWait ∧ r.control = .run
  start : r.status.syncWaitStart.isSome ↔ b.IsWaiting

/-- What holds of a runner between two inputs. -/
def Inv (r : Runner) : Prop := r.Idle ∨ ∃ run b, r.InProgress run b

/-- A run is in progress and not blocked, and none waits for the signal. -/
structure Carried (run : Run) (late : Nat) (r : Runner) : Prop where
  roster : Roster r.runs r.epoch r.plays r.slot r.waits
  tally : Tally late r.status r.tasks
  executing : r.status.executing = true
  epoch_eq : run.epoch = r.epoch
  id_lt : run.id < r.plays
  old : ∀ x ∈ r.runs, x.1.id ≠ run.id ∧ x.1.epoch < r.epoch
  slot : r.slot = none

/-- A run is carried out, and the status tells so. -/
structure Underway (run : Run) (late : Nat) (r : Runner) : Prop extends Carried run late r where
  phase : r.status.phase = r.control.phase
  start : r.status.syncWaitStart = none

/-! ## A run is carried out -/

section Course

variable {run : Run} {late : Nat} {r : Runner}

theorem Underway.block (h : r.Underway run 0) {b : Blocked} (hb : ¬ b.IsWaiting)
    (htodo : b.todo = r.tasks.drop r.status.cursor)
    (hcallers : ∀ a, b.attempt? = some a → r.status.callers = a.task.command.callers)
    (hsteps : ∀ a, b.attempt? = some a → .signal ∉ a.steps) : (r.block run b).Inv := by
  refine .inr ⟨run, b, ?_⟩
  exact
    { roster := h.roster.append (fun x hx => (h.old x hx).1) h.id_lt (Nat.le_of_eq h.epoch_eq) hb
      tally := h.tally
      executing := h.executing
      mem := List.mem_append_right _ (List.mem_singleton_self _)
      epoch_eq := h.epoch_eq
      old := by
        intro x hx hne
        rcases List.mem_append.1 hx with hx | hx
        · exact (h.old x hx).2
        · obtain rfl := List.mem_singleton.1 hx
          exact absurd rfl hne
      todo_eq := htodo
      callers := hcallers
      steps := hsteps
      phase := .inl h.phase
      start := by simp [Runner.block, h.start, hb] }

theorem Carried.finish (h : r.Carried run 0) (outcome : Except Failure Unit) :
    (r.finish run outcome).Inv := by
  obtain ⟨m, j, e⟩ := r.close_eq run outcome
  rw [Runner.finish, if_pos h.epoch_eq, e]
  exact .inl
    { roster := h.roster
      tally := ⟨h.tally.total_eq, h.tally.cursor_le, h.tally.timeouts_le⟩
      executing := rfl
      phase := by cases outcome <;> simp [endPhase]
      old := fun x hx => (h.old x hx).2
      start := rfl }

theorem Underway.begin (h : r.Underway run late) (hc : r.control = .run) (t : Task) :
    (r.begin t).Underway run late := by
  obtain ⟨j, e⟩ := r.begin_eq t
  rw [e]
  exact
    { h with
      tally := ⟨h.tally.total_eq, h.tally.cursor_le, h.tally.timeouts_le⟩
      phase := by simp [hc, Control.phase] }

theorem Underway.complete (h : r.Underway run late) (hc : r.status.cursor < r.tasks.length)
    (a : Attempt) : (r.complete run a).Underway run late := by
  obtain ⟨m, e⟩ := r.complete_eq run a
  rw [e]
  exact { h with tally := ⟨h.tally.total_eq, hc, h.tally.timeouts_le⟩ }

/-- The report of a failed task accounts for one wait that timed out. -/
theorem Underway.fail (h : r.Underway run late) (hl : late ≤ 1) (a : Attempt) (e : Failure) :
    (r.fail run a e).Underway run 0 := by
  obtain ⟨m, he⟩ := r.fail_eq run a e
  have hle : r.status.syncTimeouts ≤ (r.status.errors ++ [failureText a.task e]).length := by
    have := h.tally.timeouts_le
    rw [List.length_append, List.length_singleton]
    omega
  rw [he]
  exact { h with tally := ⟨h.tally.total_eq, h.tally.cursor_le, hle⟩ }

theorem Underway.setMode (h : r.Underway run late) (c : Control) :
    (setPhase c.phase { r with control := c }).Underway run late := by
  obtain ⟨j, e⟩ := setPhase_eq { r with control := c } c.phase
  rw [e]
  exact
    { h with
      tally := ⟨h.tally.total_eq, h.tally.cursor_le, h.tally.timeouts_le⟩
      phase := rfl }

theorem cursor_lt_of_drop_eq {t : Task} {later : List Task} {r : Runner}
    (h : t :: later = r.tasks.drop r.status.cursor) : r.status.cursor < r.tasks.length := by
  have := congrArg List.length h
  simp only [List.length_cons, List.length_drop] at this
  omega

theorem drop_succ_cursor {t : Task} {later : List Task} {r : Runner}
    (h : t :: later = r.tasks.drop r.status.cursor) :
    later = r.tasks.drop (r.status.cursor + 1) := by
  rw [← List.drop_drop, ← h, List.drop_one, List.tail_cons]

theorem Underway.perform (h : r.Underway run 0) {a : Attempt} {s : Step}
    (htodo : a.todo = r.tasks.drop r.status.cursor)
    (hcallers : r.status.callers = a.task.command.callers) (hsteps : .signal ∉ a.steps)
    (hs : s = .signal → r.control = .run) : (r.perform run a s).Inv := by
  cases s with
  | send text =>
    have h' : (r.note (.sent r.clock run.id text run.options.maxRetries)).Underway run 0 :=
      { h with }
    refine h'.block id htodo ?_ ?_ <;> rintro _ ⟨⟩ <;> assumption
  | delay ms => refine h.block id htodo ?_ ?_ <;> rintro _ ⟨⟩ <;> assumption
  | signal =>
    have hc := hs rfl
    obtain ⟨j, e⟩ := setPhase_eq { r with
      slot := some r.waits
      waits := r.waits + 1
      status := { r.status with syncWaitStart := some (r.clock : Int) } } .syncWait
    simp only [Runner.perform]
    rw [e]
    refine .inr ⟨run, .waiting a r.waits (r.clock + run.options.syncTimeout) none, ?_⟩
    exact
      { roster := (h.slot ▸ h.roster).arm a _ (fun x hx => (h.old x hx).1) h.id_lt h.epoch_eq
        tally := ⟨h.tally.total_eq, h.tally.cursor_le, h.tally.timeouts_le⟩
        executing := h.executing
        mem := List.mem_append_right _ (List.mem_singleton_self _)
        epoch_eq := h.epoch_eq
        old := by
          intro x hx hne
          rcases List.mem_append.1 hx with hx | hx
          · exact (h.old x hx).2
          · obtain rfl := List.mem_singleton.1 hx
            exact absurd rfl hne
        todo_eq := htodo
        callers := by rintro _ ⟨⟩; exact hcallers
        steps := by rintro _ ⟨⟩; exact hsteps
        phase := .inr ⟨trivial, rfl, hc⟩
        start := by simp [emit, note, Runner.block, Blocked.IsWaiting] }

/-- A run that goes on with the tasks from the cursor on. The induction is on the tasks: the ones
with nothing to do are begun and completed on the way. -/
theorem Underway.advance (h : r.Underway run 0) {todo : List Task}
    (ht : todo = r.tasks.drop r.status.cursor) : (r.advance run todo).Inv := by
  fun_induction Runner.advance run todo r with
  | case1 => exact h.block id ht (by simp [Blocked.attempt?]) (by simp [Blocked.attempt?])
  | case2 | case3 | case4 => exact h.finish _
  | case5 r hc _ t later _ ih =>
    obtain ⟨j, e⟩ := r.begin_eq t
    obtain ⟨m, e'⟩ := complete_eq (r.begin t) run ⟨t, later, [], 0, false, r.clock⟩
    have hlt : (r.begin t).status.cursor < (r.begin t).tasks.length := by
      rw [e]; exact cursor_lt_of_drop_eq ht
    refine ih ((h.begin hc t).complete hlt _) ?_
    rw [e', e]
    exact drop_succ_cursor ht
  | case6 r hc _ t later s steps hs =>
    obtain ⟨j, e⟩ := r.begin_eq t
    refine (h.begin hc t).perform (by rw [e]; exact ht) (by rw [e]) (Task.signal_notMem hs)
      fun _ => ?_
    rw [e]
    exact hc

theorem Underway.skip (h : r.Underway run late) (hlt : r.status.cursor < r.tasks.length) :
    Underway run late { r with status := { r.status with cursor := r.status.cursor + 1 } } :=
  { h with tally := ⟨h.tally.total_eq, hlt, h.tally.timeouts_le⟩ }

theorem Underway.afterFailure (h : r.Underway run late) (hl : late ≤ 1) {a : Attempt}
    (ht : a.todo = r.tasks.drop r.status.cursor) (e : Failure) :
    (r.afterFailure run a e).Inv := by
  have hf := h.fail hl a e
  obtain ⟨m, he⟩ := r.fail_eq run a e
  have htodo : a.todo = (r.fail run a e).tasks.drop (r.fail run a e).status.cursor := by
    rw [he]; exact ht
  simp only [Runner.afterFailure]
  split
  · split
    · exact hf.advance htodo
    · obtain ⟨j, e'⟩ := setPhase_eq { r.fail run a e with control := .pause } .paused
      exact (hf.setMode .pause).advance (by rw [Control.phase, e']; exact htodo)
  · split
    · exact (hf.skip (cursor_lt_of_drop_eq htodo)).advance (drop_succ_cursor htodo)
    · exact hf.finish _

theorem Underway.conclude (h : r.Underway run 0) {a : Attempt}
    (ht : a.todo = r.tasks.drop r.status.cursor) (ending : Ending) :
    (r.conclude run a ending).Inv := by
  rw [conclude_eq h.epoch_eq]
  cases ending with
  | done =>
    obtain ⟨m, e⟩ := r.complete_eq run a
    refine (h.complete (cursor_lt_of_drop_eq ht) a).advance ?_
    rw [e]
    exact drop_succ_cursor ht
  | interrupted => exact h.advance ht
  | failed e => exact h.afterFailure (Nat.zero_le 1) ht e

theorem Underway.resume (h : r.Underway run 0) {a : Attempt}
    (ht : a.todo = r.tasks.drop r.status.cursor)
    (hcallers : r.status.callers = a.task.command.callers) (hsteps : .signal ∉ a.steps) :
    (r.resume run a).Inv := by
  unfold Runner.resume
  split
  · split
    · refine h.block id ht ?_ ?_ <;> rintro _ ⟨⟩ <;> assumption
    · exact h.conclude ht .done
  · next s steps hs =>
    rw [hs, List.mem_cons, not_or] at hsteps
    split
    · exact h.perform ht hcallers hsteps.2 fun e => absurd e.symm hsteps.1
    · exact h.conclude ht .interrupted

theorem Underway.hear (h : r.Underway run 0) {a : Attempt}
    (ht : a.todo = r.tasks.drop r.status.cursor)
    (hcallers : r.status.callers = a.task.command.callers) (hsteps : .signal ∉ a.steps)
    (text : String) (reply : Except Fault Reply) : (r.hear run a text reply).Inv := by
  unfold Runner.hear
  split
  · exact h.conclude ht _
  · split
    · exact h.resume ht hcallers hsteps
    · exact h.conclude ht _

theorem Carried.endWait (h : r.Carried run 0)
    (hp : r.status.phase = r.control.phase ∨ r.status.phase = .syncWait ∧ r.control = .run)
    (w : Wake) : (r.endWait w).Underway run w.late := by
  obtain ⟨j, e⟩ := r.endWait_eq w
  have hphase : (if r.status.phase = .syncWait then .running else r.status.phase) =
      r.control.phase := by
    rcases hp with hp | ⟨hp, hc⟩
    · rw [if_neg, hp]
      rw [hp]
      cases r.control <;> simp [Control.phase]
    · rw [if_pos hp, hc]
      rfl
  rw [e]
  exact
    { h with
      tally := ⟨h.tally.total_eq, h.tally.cursor_le, Nat.add_le_add_right h.tally.timeouts_le _⟩
      phase := hphase
      start := rfl }

end Course

/-! ## A blocked run goes on -/

section Wake

variable {run : Run} {b : Blocked} {r : Runner}

theorem InProgress.eq_of_epoch_eq (h : r.InProgress run b) {x : Run × Blocked} (hx : x ∈ r.runs)
    (he : x.1.epoch = r.epoch) : x = (run, b) := by
  refine h.roster.eq_of_id_eq hx h.mem (Decidable.byContradiction fun hne => ?_)
  exact Nat.ne_of_lt (h.old x hx hne) he

theorem InProgress.slot_eq (h : r.InProgress run b) {w : Nat} (hs : r.slot = some w) :
    ∃ a d, b = .waiting a w d none := by
  obtain ⟨x, hx, a, d, e⟩ := h.roster.taken w hs
  have := h.eq_of_epoch_eq hx ((h.roster.member x hx).epoch_of_untold e)
  exact ⟨a, d, by rw [← e, this]⟩

theorem InProgress.carried (h : r.InProgress run b) :
    Carried run 0 { r.without run.id with slot := none } := by
  have hroster : Roster (r.without run.id).runs r.epoch r.plays none r.waits := by
    refine
      { nodup := h.roster.nodup.sublist (List.filter_sublist.map _)
        member := fun x hx => ?_
        taken := fun w hw => by cases hw }
    obtain ⟨hx, hne⟩ := List.mem_filter.1 hx
    have hm := h.roster.member x hx
    have hlt := h.old x hx (by simpa using hne)
    -- the waits of abandoned runs were all told something
    have hold : ∀ a w d, x.2 ≠ .waiting a w d none := fun a w d e =>
      Nat.ne_of_lt hlt (hm.epoch_of_untold e)
    refine ⟨hm.id_lt, hm.epoch_le, hm.wait_lt, fun {a w d told} e => ?_, hm.epoch_of_untold,
      hm.epoch_of_off⟩
    cases told with
    | none => exact absurd e (hold a w d)
    | some s => simp
  exact
    { roster := hroster
      tally := ⟨h.tally.total_eq, h.tally.cursor_le, h.tally.timeouts_le⟩
      executing := h.executing
      epoch_eq := h.epoch_eq
      id_lt := (h.roster.member _ h.mem).id_lt
      old := fun x hx => by
        obtain ⟨hx, hne⟩ := List.mem_filter.1 hx
        have hne : x.1.id ≠ run.id := by simpa using hne
        exact ⟨hne, h.old x hx hne⟩
      slot := rfl }

theorem InProgress.underway (h : r.InProgress run b) (hb : ¬ b.IsWaiting) :
    (r.without run.id).Underway run 0 := by
  have hslot : r.slot = none := by
    cases hs : r.slot with
    | none => rfl
    | some w =>
      obtain ⟨a, d, rfl⟩ := h.slot_eq hs
      exact absurd trivial hb
  have hstart : r.status.syncWaitStart = none := by simpa [hb] using h.start
  have hc := h.carried
  rw [← hslot] at hc
  exact { hc with phase := h.phase.resolve_right fun hw => hb hw.1, start := hstart }

/-- Once the run in progress leaves its wait, nothing takes the next signal. -/
theorem InProgress.disarm {a : Attempt} {wait d : Nat} {told : Option Bool}
    (h : r.InProgress run (.waiting a wait d told)) :
    (r.without run.id).disarm wait = { r.without run.id with slot := none } := by
  have hslot : (r.disarm wait).slot = none := by
    unfold Runner.disarm
    dsimp only
    split
    · rfl
    · next hne =>
      cases hs : r.slot with
      | none => rfl
      | some v =>
        obtain ⟨a', d', e⟩ := h.slot_eq hs
        cases e
        exact absurd hs hne
  change { r.without run.id with slot := (r.disarm wait).slot } = _
  rw [hslot]

theorem InProgress.stop_of_released {a : Attempt} {wait d : Nat} {told : Option Bool}
    (h : r.InProgress run (.waiting a wait d told))
    (ha : r.allows run (.waiting a wait d told) .released) : r.control = .stop := by
  rcases (by simpa [allows] using ha : r.control = .stop ∨ told = some false) with hc | rfl
  · exact hc
  · exact absurd h.epoch_eq (Nat.ne_of_lt ((h.roster.member _ h.mem).epoch_of_off rfl))

theorem InProgress.leaveWait {a : Attempt} {wait d : Nat} {told : Option Bool}
    (h : r.InProgress run (.waiting a wait d told)) (w : Wake) :
    ((r.without run.id).leaveWait run a wait w).Inv := by
  have hu := h.carried.endWait (h.phase.imp_right And.right) w
  obtain ⟨j, e⟩ := endWait_eq { r.without run.id with slot := none } w
  have ht : a.todo = (endWait w { r.without run.id with slot := none }).tasks.drop
      (endWait w { r.without run.id with slot := none }).status.cursor := by
    rw [e]; exact h.todo_eq
  unfold Runner.leaveWait
  rw [h.disarm, if_neg (fun hne => hne h.epoch_eq)]
  cases w with
  | signalled =>
    refine hu.resume ht ?_ (h.steps a rfl)
    rw [e]
    exact h.callers a rfl
  | elapsed =>
    -- the timeout is counted already, and the failure not yet reported
    rw [conclude_eq hu.epoch_eq]
    exact hu.afterFailure (Nat.le_refl 1) ht _
  | answered reply => exact hu.conclude ht .interrupted
  | released => exact hu.conclude ht .interrupted

theorem InProgress.goOn (h : r.InProgress run b) {w : Wake} (ha : r.allows run b w) :
    ((r.without run.id).goOn run b w).Inv := by
  cases b with
  | paused todo => exact (h.underway id).advance h.todo_eq
  | calling a text =>
    cases w with
    | answered reply =>
      exact (h.underway id).hear h.todo_eq (h.callers a rfl) (h.steps a rfl) text reply
    | elapsed | signalled | released => simp [allows] at ha
  | holding a d =>
    cases w with
    | elapsed => exact (h.underway id).resume h.todo_eq (h.callers a rfl) (h.steps a rfl)
    | answered reply | signalled | released =>
      exact (h.underway id).conclude h.todo_eq .interrupted
  | spacing a d => exact (h.underway id).conclude h.todo_eq .done
  | waiting a wait d told => exact h.leaveWait w

theorem Inv.note_without (h : r.Inv) (hm : (run, b) ∈ r.runs) (he : run.epoch ≠ r.epoch)
    (e : Entry) : ((r.without run.id).note e).Inv := by
  have herase {runs : List (Run × Blocked)} {epoch plays waits : Nat} {slot : Option Nat}
      (hr : Roster runs epoch plays slot waits) (hm : (run, b) ∈ runs) (he : run.epoch ≠ epoch) :
      Roster (runs.filter fun x => x.1.id != run.id) epoch plays slot waits :=
    hr.erase run.id fun x hx hid => by rwa [hr.eq_of_id_eq hx hm hid]
  rcases h with h | ⟨run', b', h⟩
  · exact .inl
      { h with
        roster := herase h.roster hm he
        old := fun x hx => h.old x (List.mem_filter.1 hx).1 }
  · have hne : run'.id ≠ run.id := fun hid => by
      cases h.roster.eq_of_id_eq h.mem hm hid
      exact he h.epoch_eq
    exact .inr ⟨run', b',
      { h with
        roster := herase h.roster hm he
        mem := List.mem_filter.2 ⟨h.mem, by simpa using hne⟩
        old := fun x hx => h.old x (List.mem_filter.1 hx).1 }⟩

theorem Inv.roster (h : r.Inv) : Roster r.runs r.epoch r.plays r.slot r.waits := by
  rcases h with h | ⟨run, b, h⟩
  · exact h.roster
  · exact h.roster

/-- An abandoned run that something lets go on ends, and changes nothing else. -/
theorem Inv.goOn_abandoned (h : r.Inv) (hm : (run, b) ∈ r.runs) (he : run.epoch ≠ r.epoch)
    {w : Wake} (ha : r.allows run b w) :
    (r.without run.id).goOn run b w = (r.without run.id).note (.ended run.id (.error .reset)) := by
  refine Runner.goOn_abandoned he ha fun a wait d told hb hs => he ?_
  have hmem := h.roster.member _ hm
  obtain rfl := (hmem.untold_iff hb).2 hs
  exact hmem.epoch_of_untold hb

theorem Inv.wake (h : r.Inv) (play : Nat) (w : Wake) : (r.wake play w).Inv := by
  rcases r.wake_eq play w with e | ⟨run, b, hm, rfl, ha, e⟩
  · rwa [e]
  · rw [e]
    by_cases he : run.epoch = r.epoch
    · rcases h with h | ⟨run', b', h⟩
      · exact absurd he (Nat.ne_of_lt (h.old _ hm))
      · cases h.eq_of_epoch_eq hm he
        exact h.goOn ha
    · rw [h.goOn_abandoned hm he ha]
      exact h.note_without hm he _

end Wake

/-! ## Operations -/

section Operations

variable {run : Run} {b : Blocked} {r : Runner}

/-- The run in progress is asked to be in a mode, and the phase tells of it. -/
theorem InProgress.setMode (h : r.InProgress run b) (c : Control) :
    InProgress run b (setPhase c.phase { r with control := c }) := by
  obtain ⟨j, e⟩ := setPhase_eq { r with control := c } c.phase
  rw [e]
  exact
    { h with
      tally := ⟨h.tally.total_eq, h.tally.cursor_le, h.tally.timeouts_le⟩
      phase := .inl rfl }

theorem Inv.inProgress (h : r.Inv) (hp : r.status.phase ≠ .idle) (hp' : r.status.phase ≠ .error) :
    ∃ run b, r.InProgress run b :=
  h.resolve_left fun hi => hi.phase.elim hp hp'

theorem Inv.idle (h : r.Inv) (he : r.status.executing = false) : r.Idle :=
  h.resolve_right fun ⟨_, _, hp⟩ => by simp [hp.executing] at he

/-- What a pause, a resumption or a stop does, if it is not refused. -/
theorem Inv.mode (h : r.Inv) {i : Input} (hi : i = .pause ∨ i = .unpause ∨ i = .stop) :
    (r.step i).Inv := by
  rcases r.step_mode hi with e | ⟨hp, hp', c, e⟩ <;> rw [e]
  · exact h
  · obtain ⟨run, b, h⟩ := h.inProgress hp hp'
    exact .inr ⟨run, b, h.setMode c⟩

theorem Inv.reset (h : r.Inv) : r.reset.Idle where
  roster := h.roster.told (Nat.le_succ _) fun _ => Nat.lt_succ_self _
  tally := ⟨rfl, Nat.zero_le _, Nat.le_refl 0⟩
  executing := rfl
  phase := .inl rfl
  old x hx := by
    obtain ⟨y, hy, e, -⟩ := mem_tell hx
    rw [← e]
    exact Nat.lt_succ_of_le (h.roster.member y hy).epoch_le
  start := rfl

/-- Only the run in progress takes a signal, and it stays blocked in its wait. -/
theorem Inv.signal {r' : Runner} (h : r.Inv) (e : r.signal = some r') : r'.Inv := by
  obtain ⟨hs, rfl⟩ : r.slot.isSome = true ∧ r.tellWait true = r' := by
    simpa [Runner.signal] using e
  obtain ⟨w, hw⟩ := Option.isSome_iff_exists.1 hs
  have hroster : Roster (tell r.slot true r.runs) r.epoch r.plays none r.waits :=
    h.roster.told (Nat.le_refl _) fun e => by cases e
  rcases h with h | ⟨run, b, h⟩
  · obtain ⟨x, hx, a, d, e⟩ := h.roster.taken w hw
    exact absurd ((h.roster.member x hx).epoch_of_untold e) (Nat.ne_of_lt (h.old x hx))
  · obtain ⟨a, d, rfl⟩ := h.slot_eq hw
    refine .inr ⟨run, .waiting a w d (some true), ?_⟩
    exact
      { h with
        roster := hroster
        mem := by
          simp only [tellWait, hw, tell]
          exact List.mem_map.2 ⟨_, h.mem, by simp [Blocked.tell]⟩
        old := fun x hx hne => by
          obtain ⟨y, hy, e, -⟩ := mem_tell hx
          rw [← e] at hne ⊢
          exact h.old y hy hne }

theorem Inv.loads {r' : Runner} (h : r.Inv) (hl : Loads r r') : r'.Inv := by
  rcases hl with rfl | ⟨he, tasks, rfl⟩
  · exact h
  · exact .inl
      { h.idle he with
        tally := ⟨rfl, Nat.zero_le _, Nat.le_refl 0⟩
        executing := rfl
        phase := .inl rfl
        start := rfl }

theorem startIndex_le (h : r.status.cursor ≤ r.tasks.length) : r.startIndex ≤ r.tasks.length := by
  unfold startIndex
  split
  · exact Nat.zero_le _
  · exact h

theorem Idle.opened (h : r.Idle) : (r.opened.setPhase .running).Underway r.nextRun 0 := by
  obtain ⟨j, e⟩ := r.opened.setPhase_eq .running
  have hslot : r.slot = none := by
    cases hs : r.slot with
    | none => rfl
    | some w =>
      obtain ⟨x, hx, a, d, e⟩ := h.roster.taken w hs
      exact absurd ((h.roster.member x hx).epoch_of_untold e) (Nat.ne_of_lt (h.old x hx))
  rw [e]
  exact
    { roster := h.roster.next
      tally := ⟨h.tally.total_eq, startIndex_le h.tally.cursor_le, Nat.le_refl 0⟩
      executing := rfl
      epoch_eq := rfl
      id_lt := Nat.lt_succ_self _
      old := fun x hx => ⟨Nat.ne_of_lt (h.roster.member x hx).id_lt, h.old x hx⟩
      slot := hslot
      phase := rfl
      start := rfl }

theorem Inv.play {r' : Runner} (h : r.Inv) (e : r.play = .ok r') : r'.Inv := by
  obtain ⟨he, rfl⟩ := play_eq_ok e
  obtain ⟨j, e'⟩ := r.opened.setPhase_eq .running
  exact (h.idle he).opened.advance (by rw [e']; rfl)

theorem Inv.launch (h : r.Inv) : r.launch.Inv := by
  unfold Runner.launch
  split
  · next r' e => exact h.play e
  · rcases h with h | ⟨run, b, h⟩
    · exact .inl { h with roster := h.roster.next }
    · exact .inr ⟨run, b, { h with roster := h.roster.next }⟩

theorem Inv.step (h : r.Inv) (i : Input) : (r.step i).Inv := by
  cases i with
  | load cs => exact h.loads (r.step_loads.1 cs)
  | loadCompilation c => exact h.loads (r.step_loads.2.1 c)
  | loadScript source => exact h.loads (r.step_loads.2.2 source)
  | play => exact h.launch
  | pause | unpause | stop => exact h.mode (by simp)
  | reset => exact .inl h.reset
  | signal =>
    cases e : r.signal with
    | none => simpa [Runner.step, e] using h
    | some r' => simpa [Runner.step, e] using h.signal e
  | setOptions o =>
    rcases h with h | ⟨run, b, h⟩
    · exact .inl { h with }
    · exact .inr ⟨run, b, { h with }⟩
  | pass ms =>
    rcases h with h | ⟨run, b, h⟩
    · exact .inl { h with }
    · exact .inr ⟨run, b, { h with }⟩
  | wake play w => exact h.wake play w

theorem Inv.after (h : r.Inv) (s : List Input) : (r.after s).Inv := by
  induction s generalizing r with
  | nil => exact h
  | cons i s ih => exact ih (h.step i)

/-- **Every state that a runner gets into satisfies the invariant.** -/
theorem Reachable.inv (h : r.Reachable) : r.Inv := by
  induction h with
  | new o =>
    refine .inl
      { roster := ⟨List.nodup_nil, fun x hx => absurd hx (List.not_mem_nil), fun w hw => ?_⟩
        tally := ⟨rfl, Nat.le_refl 0, Nat.le_refl 0⟩
        executing := rfl
        phase := .inl rfl
        old := fun x hx => absurd hx (List.not_mem_nil)
        start := rfl }
    cases hw
  | step i _ ih => exact ih.step i

end Operations

end Runner

end MotionScript
