import MotionScript.Proofs.Run.Boundary
import MotionScript.Proofs.Run.Outcome
import MotionScript.Proofs.Run.Signal

/-!
# What becomes of a failure

A command fails when a device call of it is not answered, or its text is rejected, or its wait was
too long. The failure is reported once, and nothing more of the attempt is sent. The options with
which the run began decide what comes then: the run pauses before the command, or leaves it out, or
ends with the failure.

* `Blocked.failure?`: why a command fails when something lets its run go on.
* `Reports`: a failure is reported.
* `Policy`, `afterFailure_policy`: what comes after the report.
* `Unfailed`: since a state no command failed, which every stride keeps.
* `FailurePolicy`: what becomes of failures, and what can be told from how a play ends.
* **`after_failurePolicy`**: it holds after every schedule.
-/

namespace MotionScript

/-- Why a command fails when something lets its run go on. -/
def Blocked.failure? (o : Options) : Blocked → Wake → Option Failure
  | .calling _ _, .answered (.error fault) => some (.device fault)
  | .calling _ text, .answered (.ok reply) =>
    if reply.success then none else some (.rejected text reply.message)
  | .waiting _ _ _ _, .elapsed => some (.syncTimeout (1000 * o.syncTimeout))
  | _, _ => none

/-- Whether an entry tells that a command failed. -/
def Entry.IsFailure : Entry → Prop
  | .event (.failed _ _) => True
  | _ => False

theorem Entry.IsRemark.not_isFailure {e : Entry} (he : e.IsRemark) : ¬ e.IsFailure := by
  intro hf
  cases e with
  | event e => cases e <;> first | exact hf | exact he
  | sent | ended => exact hf

theorem Entry.IsFailure.isReport {e : Entry} (he : e.IsFailure) : e.IsReport := by
  cases e with
  | event e => cases e <;> trivial
  | sent | ended => cases he

/-- Whether a task fails where a run is. -/
def Place.IsFailing : Place → Prop
  | .failing _ _ => True
  | _ => False

namespace Runner

/-- The failure of an attempt is reported between two states: one event tells of it, and its text is
added to the errors. -/
structure Reports (a : Attempt) (e : Failure) (r q : Runner) : Prop where
  task : r.tasks[r.status.cursor]? = some a.task
  journal : ∃ before, q.journal =
      .event (.failed r.status.cursor (failureText a.task e)) :: (before ++ r.journal) ∧
    ∀ x ∈ before, x.IsRemark
  errors_eq : q.status.errors = r.status.errors ++ [failureText a.task e]
  tasks_eq : q.tasks = r.tasks
  cursor_eq : q.status.cursor = r.status.cursor
  control_eq : q.control = r.control
  clock_eq : q.clock = r.clock

/-- A run leaves out the command at the cursor. It goes on with the next one unless it is asked to
pause or to stop. -/
def LeavesOut (run : Run) (q r' : Runner) : Prop :=
  match q.control with
  | .run => Proceeds run q.skip r'
  | .pause => r'.Suspended run ∧ r'.tasks = q.tasks ∧
      r'.status.cursor = q.status.cursor + 1 ∧ Adds Entry.IsRemark q r'
  | .stop => Ends run (.ok ()) q.skip r'

/-- What a run does in a state `q` in which a failure was reported. -/
def Policy (run : Run) (e : Failure) (q r' : Runner) : Prop :=
  if run.options.pauseOnError then
    if q.control = .stop then Ends run (.ok ()) q r'
    else
      -- it pauses before the command that failed
      r'.Suspended run ∧ r'.tasks = q.tasks ∧ r'.status.cursor = q.status.cursor ∧
        Adds Entry.IsRemark q r'
  else if run.options.skipErrors then LeavesOut run q r'
  else
    -- it ends with the failure, and the next play begins with the command that failed
    Ends run (.error e) q r' ∧ ∀ s, r'.Calm s → (r'.after s).tasks = q.tasks ∧
      (r'.after s).status.cursor = q.status.cursor ∧ ∃ r₁, (r'.after s).play = .ok r₁ ∧
        Proceeds (r'.after s).nextRun (r'.after s) r₁

/-- If anything is begun between two states, then first a command. -/
def Fresh (q r' : Runner) : Prop :=
  ∃ later before, r'.journal = later ++ (before ++ q.journal) ∧ (∀ x ∈ before, ¬ x.Begins) ∧
    (later = [] ∨ ∃ l i raw, later = l ++ [.event (.started i raw)])

/-- Since a state no command failed, and none fails where a run is. -/
structure Unfailed (r : Runner) (p : Place) (r' : Runner) : Prop where
  not_failing : ¬ p.IsFailing
  errors_eq : r'.status.errors = r.status.errors
  adds : Adds (fun e => ¬ e.IsFailure) r r'

/-- What becomes of failures, and what can be told from how a play ends. -/
structure FailurePolicy (r : Runner) : Prop where
  /-- A failure is reported once, nothing more is sent of the attempt, and the options of the run
  decide what comes then. -/
  fails : ∀ run b w e, (run, b) ∈ r.current → r.allows run b w →
    b.failure? run.options w = some e → ∃ a q, b.attempt? = some a ∧ Reports a e r q ∧
      Unreported q (r.wake run.id w) ∧ Fresh q (r.wake run.id w) ∧
      Policy run e q (r.wake run.id w)
  /-- Nothing else is reported as a failure. -/
  sound : ∀ run b w, (run, b) ∈ r.current → r.allows run b w →
    b.failure? run.options w = none →
    (r.wake run.id w).status.errors = r.status.errors ∧
      Adds (fun e => ¬ e.IsFailure) r (r.wake run.id w)
  returns : ∀ r', r.play = .ok r' → ∀ s outcome,
    .ended r.plays outcome ∈ (r'.after s).journal → Warranted r.options r.plays s r' outcome
  refused : ∀ e, r.play = .error e → e = .notLoaded ∨ e = .alreadyExecuting

section Failing

variable {run : Run} {b : Blocked} {w : Wake} {a : Attempt} {e : Failure} {p p' : Place}
  {q r r' : Runner}

/-! ## A command fails -/

theorem InProgress.departs_failing (h : r.InProgress run b) (ha : r.allows run b w)
    (he : b.failure? run.options w = some e) :
    ∃ a q, b.attempt? = some a ∧ Departs run (r.without run.id) b w (.failing a e, q) := by
  obtain ⟨⟨p, q⟩, hd⟩ := h.departs ha
  cases hd with
  | unanswered a text fault =>
    cases he
    exact ⟨a, _, rfl, .unanswered a text fault⟩
  | rejected a text hs =>
    simp only [Blocked.failure?, hs, Bool.false_eq_true, if_false, Option.some.injEq] at he
    subst he
    exact ⟨a, _, rfl, .rejected a text hs⟩
  | timedOut a wait d told =>
    cases he
    exact ⟨a, _, rfl, .timedOut a wait d told⟩
  | accepted a text hs =>
    simp only [Blocked.failure?, hs, if_true] at he
    cases he
  | spaced a d w => cases w <;> cases he
  | released | held | cut | signalled | cancelled => cases he

theorem Departs.not_failing (hd : Departs run r b w (p, r'))
    (he : b.failure? run.options w = none) : ¬ p.IsFailing := by
  cases hd with
  | rejected a text hs => simp [Blocked.failure?, hs] at he
  | unanswered | timedOut => cases he
  | _ => exact id

theorem Departs.remarks (hd : Departs run r b w (p, r')) : Adds Entry.IsRemark r r' := by
  have hwait (wait : Nat) (w : Wake) : Adds Entry.IsRemark r ((r.disarm wait).endWait w) :=
    Adds.endWait (.of_eq rfl) (fun _ => trivial) fun _ => trivial
  cases hd with
  | signalled | timedOut | cancelled => exact hwait _ _
  | _ => exact .refl _ r

theorem Departs.reports (hd : Departs run r b w (.failing a e, q))
    (ht : r.tasks[r.status.cursor]? = some a.task) : Reports a e r (q.fail run a e) := by
  obtain ⟨before, hj, hb⟩ := hd.remarks
  obtain ⟨slot, start, timeouts, phase, j, hq⟩ := hd.eq
  obtain ⟨m, hf⟩ := q.fail_eq run a e
  refine ⟨ht, ⟨before, ?_, hb⟩, ?_, ?_, ?_, ?_, ?_⟩
  · rw [hf, hj, hq]
  all_goals rw [hf, hq]

/-! ## After the report -/

theorem Fresh.of_remarks (h : Adds Entry.IsRemark r r') : Fresh r r' := by
  obtain ⟨l, e, hl⟩ := h
  exact ⟨[], l, e, fun x hx => (hl x hx).not_begins, .inl rfl⟩

theorem Proceeds.fresh (h : Proceeds run r r') : Fresh r r' := by
  cases ht : r.tasks[r.status.cursor]? with
  | none => exact .of_remarks (h.ends ht).remarks
  | some t =>
    obtain ⟨later, before, e, hb, -⟩ := h.starts t ht
    refine ⟨later ++ [.event (.started r.status.cursor t.command.raw)], before, ?_,
      fun x hx => (hb x hx).not_begins, .inr ⟨later, _, _, rfl⟩⟩
    rw [e, List.append_assoc]
    rfl

theorem LeavesOut.fresh (h : LeavesOut run r r') : Fresh r r' := by
  unfold LeavesOut at h
  split at h
  · exact h.fresh
  · exact .of_remarks h.2.2.2
  · exact .of_remarks h.remarks

theorem Policy.fresh (h : Policy run e r r') : Fresh r r' := by
  unfold Policy at h
  split at h
  · split at h
    · exact .of_remarks h.remarks
    · exact .of_remarks h.2.2.2
  · split at h
    · exact h.fresh
    · exact .of_remarks h.1.remarks

/-- A run that is asked to pause is suspended before its next command. -/
theorem advance_suspended {todo : List Task} (hc : r.control = .pause) (he : run.epoch = r.epoch)
    (h : (r.advance run todo).Inv) : (r.advance run todo).Suspended run := by
  rw [advance_pause hc] at h ⊢
  have hp := h.inProgress_of_mem (b := .paused todo)
    (List.mem_append_right _ (List.mem_singleton_self _)) he
  exact hp.suspended hc

theorem advance_ends {todo : List Task} (hc : r.control = .stop) (he : run.epoch = r.epoch)
    (h : (r.advance run todo).Inv) : Ends run (.ok ()) r (r.advance run todo) := by
  rw [advance_stop hc] at h ⊢
  exact finish_ends he _ h

theorem skip_leavesOut (he : run.epoch = q.epoch) (htodo : a.todo = q.tasks.drop q.status.cursor)
    (hinv : (q.skip.advance run a.later).Inv) :
    LeavesOut run q (q.skip.advance run a.later) := by
  have hlater : a.later = q.skip.tasks.drop q.skip.status.cursor := drop_succ_cursor htodo
  unfold LeavesOut
  cases hc : q.control with
  | run =>
    rw [hlater] at hinv ⊢
    exact advance_proceeds hc he hinv
  | pause =>
    refine ⟨advance_suspended (r := q.skip) hc he hinv, ?_⟩
    rw [advance_pause (r := q.skip) hc]
    exact ⟨rfl, rfl, .of_eq rfl⟩
  | stop => exact advance_ends (r := q.skip) hc he hinv

theorem Idle.play_again (h : r.Idle) (hlt : r.status.cursor < r.tasks.length) {s : List Input}
    (hs : r.Calm s) : (r.after s).tasks = r.tasks ∧
      (r.after s).status.cursor = r.status.cursor ∧ ∃ r₁, (r.after s).play = .ok r₁ ∧
        Proceeds (r.after s).nextRun (r.after s) r₁ := by
  obtain ⟨hidle, htasks, hcursor, -, -⟩ := h.after_calm hs
  exact ⟨htasks, hcursor, hidle.play_proceeds (by rwa [htasks, hcursor])⟩

/-- A run that a failure pauses is suspended before the command that failed. -/
theorem pause_suspends {todo : List Task} (he : run.epoch = q.epoch)
    (hinv : ((setPhase .paused { q with control := .pause }).advance run todo).Inv) :
    ((setPhase .paused { q with control := .pause }).advance run todo).Suspended run ∧
      ((setPhase .paused { q with control := .pause }).advance run todo).tasks = q.tasks ∧
      ((setPhase .paused { q with control := .pause }).advance run todo).status.cursor =
        q.status.cursor ∧
      Adds Entry.IsRemark q ((setPhase .paused { q with control := .pause }).advance run todo) := by
  have hp : Silent { q with control := .pause } (setPhase .paused { q with control := .pause }) :=
    .setPhase (.refl _) _
  have hr : Adds Entry.IsRemark q (setPhase .paused { q with control := .pause }) :=
    Adds.setPhase (.of_eq rfl) trivial
  refine ⟨advance_suspended hp.control_eq (he.trans hp.epoch_eq.symm) hinv, ?_⟩
  obtain ⟨j, e'⟩ := setPhase_eq { q with control := .pause } .paused
  rw [advance_pause hp.control_eq]
  rw [e'] at hr ⊢
  exact ⟨rfl, rfl, hr⟩

/-- After a play that a failure ends the next one begins with the command that failed. -/
theorem finish_play_again (he : run.epoch = q.epoch)
    (htodo : a.todo = q.tasks.drop q.status.cursor) (hinv : (q.finish run (.error e)).Inv)
    {s : List Input} (hs : (q.finish run (.error e)).Calm s) :
    ((q.finish run (.error e)).after s).tasks = q.tasks ∧
      ((q.finish run (.error e)).after s).status.cursor = q.status.cursor ∧
      ∃ r₁, ((q.finish run (.error e)).after s).play = .ok r₁ ∧
        Proceeds ((q.finish run (.error e)).after s).nextRun
          ((q.finish run (.error e)).after s) r₁ := by
  have hends := finish_ends he (.error e) hinv
  have hlt : (q.finish run (.error e)).status.cursor < (q.finish run (.error e)).tasks.length := by
    rw [hends.cursor_eq, hends.tasks_eq]
    exact cursor_lt_of_drop_eq htodo
  obtain ⟨htasks, hcursor, hplay⟩ := (hinv.idle hends.executing).play_again hlt hs
  exact ⟨htasks.trans hends.tasks_eq, hcursor.trans hends.cursor_eq, hplay⟩

/-- **What a run does once a failure is reported** is decided by the options with which it began,
and by what it is asked to do. -/
theorem afterFailure_policy (he : run.epoch = r.epoch)
    (htodo : a.todo = r.tasks.drop r.status.cursor) (hinv : (r.afterFailure run a e).Inv) :
    Policy run e (r.fail run a e) (r.afterFailure run a e) := by
  have hf : Silent r (r.fail run a e) := .fail (.refl r) a e
  have heq : run.epoch = (r.fail run a e).epoch := he.trans hf.epoch_eq.symm
  have htodo : a.todo = (r.fail run a e).tasks.drop (r.fail run a e).status.cursor := by
    obtain ⟨m, e'⟩ := r.fail_eq run a e
    rw [e']
    exact htodo
  simp only [Runner.afterFailure, Policy] at hinv ⊢
  generalize r.fail run a e = q at heq htodo hinv ⊢
  split at hinv
  · next ho =>
    split at hinv
    · next hc =>
      simp only [ho, hc, if_true]
      exact advance_ends hc heq hinv
    · next hc =>
      simp only [ho, hc, if_true, if_false]
      exact pause_suspends heq hinv
  · next ho =>
    split at hinv
    · next hk =>
      simp only [ho, hk, if_true, Bool.false_eq_true, if_false]
      exact skip_leavesOut heq htodo hinv
    · next hk =>
      simp only [ho, hk, Bool.false_eq_true, if_false]
      exact ⟨finish_ends heq (.error e) hinv, fun s hs => finish_play_again heq htodo hinv hs⟩

/-! ## Nothing else is reported -/

theorem Stride.unreported (hs : Stride run (p, r) (p', r')) (hp : ¬ p.IsFailing) :
    Unreported r r' ∧ ¬ p'.IsFailing := by
  cases hs with
  | pause | interrupt | space | leave => exact ⟨.of_eq rfl rfl, id⟩
  | stop | finish => exact ⟨unreported_finish r run _, id⟩
  | begin hc t later => exact ⟨unreported_begin r t, id⟩
  | perform hc hs => exact ⟨unreported_perform r run _ _, id⟩
  | complete _ a => exact ⟨unreported_complete r run a, id⟩
  | failPaused | failStopped | failSkipped | failEnded => exact absurd trivial hp

theorem Departs.unfailed (hd : Departs run r b w (p, r'))
    (he : b.failure? run.options w = none) : Unfailed r p r' := by
  have hadds : Adds (fun e => ¬ e.IsFailure) r r' := hd.remarks.mono fun _ hx => hx.not_isFailure
  obtain ⟨slot, start, timeouts, phase, j, e⟩ := hd.eq
  exact ⟨hd.not_failing he, by rw [e], hadds⟩

theorem Unfailed.stride (h : Unfailed r p q) (hs : Stride run (p, q) (p', r')) :
    Unfailed r p' r' := by
  obtain ⟨hu, hp'⟩ := hs.unreported h.not_failing
  exact ⟨hp', hu.errors_eq.trans h.errors_eq,
    h.adds.trans (hu.adds.mono fun _ hx hf => hx hf.isReport)⟩

theorem InProgress.unfailed (h : r.InProgress run b) (ha : r.allows run b w)
    (he : b.failure? run.options w = none) :
    (r.wake run.id w).status.errors = r.status.errors ∧
      Adds (fun e => ¬ e.IsFailure) r (r.wake run.id w) := by
  rw [Inv.wake_eq (.inr ⟨run, b, h⟩) h.mem ha]
  rcases h.goOn_induct ha (fun _ _ hd => hd.unfailed he) fun _ _ _ _ hu hs => hu.stride hs with
    ⟨_, -, hu⟩ | ⟨-, hu⟩
  · exact ⟨hu.errors_eq, (Adds.of_eq rfl).trans hu.adds⟩
  · exact ⟨hu.errors_eq, (Adds.of_eq rfl).trans hu.adds⟩

/-! ## Every failure -/

theorem play_error {e : Failure} (h : r.play = .error e) :
    e = .notLoaded ∨ e = .alreadyExecuting := by
  unfold Runner.play at h
  split at h
  · cases h
    exact .inr rfl
  · split at h
    · cases h
      exact .inl rfl
    · cases h

theorem InProgress.fails (h : r.InProgress run b) (ha : r.allows run b w)
    (he : b.failure? run.options w = some e) : ∃ a q, b.attempt? = some a ∧ Reports a e r q ∧
      Unreported q (r.wake run.id w) ∧ Fresh q (r.wake run.id w) ∧
      Policy run e q (r.wake run.id w) := by
  obtain ⟨a, q, hatt, hd⟩ := h.departs_failing ha he
  have hepoch : run.epoch = (r.without run.id).epoch := h.epoch_eq
  have hgo : (r.without run.id).goOn run b w = q.afterFailure run a e := hd.goOn_eq hepoch
  have hinv : (q.afterFailure run a e).Inv := hgo ▸ h.goOn ha
  have htask := (h.consistent.attempt _ h.mem_current a hatt).2.1
  have hr := hd.reports htask
  have hpolicy := afterFailure_policy (hepoch.trans hd.silent.epoch_eq.symm)
    (hd.todo_eq h.todo_eq) hinv
  rw [Inv.wake_eq (.inr ⟨run, b, h⟩) h.mem ha, hgo]
  exact ⟨a, q.fail run a e, hatt, { hr with }, afterFailure_reports q run a e, hpolicy.fresh,
    hpolicy⟩

theorem Reachable.failurePolicy (h : r.Reachable) : r.FailurePolicy where
  fails _ _ _ _ hm := (h.inv.inProgress_of_mem_current hm).fails
  sound _ _ _ hm := (h.inv.inProgress_of_mem_current hm).unfailed
  returns _ hp s _ hm := h.warranted hp s hm
  refused _ := play_error

end Failing

/-- **After every schedule** every failure of the run in progress is reported once, and the options
of the run decide what comes then; and the way a play ends tells of a stop, of a reset or of these
options. -/
theorem after_failurePolicy (o : Options) (s : List Input) :
    ((new o).after s).FailurePolicy :=
  ((Reachable.new o).after s).failurePolicy

end Runner

end MotionScript
