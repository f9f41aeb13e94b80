import MotionScript.Proofs.Run.Failing

/-!
# Plays without a failure

A play that is not stopped or reset, and none of whose commands fails, sends what all its commands
send and completes each of them, whatever else comes to the runner, and whenever it comes.

* `Accrues`: what comes about between two states of a runner.
* `Smooth`: schedules without a stop, a reset or a failure.
* `Due`, `Stride.due`: what is done, followed by what is still to be done, stays the same.
* **`Reachable.runsThrough`**: a play without a failure completes all its commands.
-/

namespace MotionScript

/-- The index of the command that an entry tells to be completed. -/
def Entry.completed? : Entry → Option Nat
  | event (.completed i _) => some i
  | _ => none

theorem Entry.IsRemark.completed? {e : Entry} (he : e.IsRemark) : e.completed? = none := by
  cases e with
  | event e => cases e <;> first | rfl | cases he
  | sent | ended => rfl

/-- What some tasks send. -/
def sendsOfTasks (maxRetries : Nat) (todo : List Task) : List (String × Nat) :=
  todo.flatMap fun t => t.steps.flatMap (Step.sends maxRetries)

namespace Blocked

/-- The steps of the task in progress that are not begun. -/
def left : Blocked → List Step
  | paused _ | spacing _ _ => []
  | calling a _ | holding a _ | waiting a _ _ _ => a.steps

/-- The number of steps of the task in progress that are not done. The spacing is none of them. -/
def ahead : Blocked → Nat
  | spacing _ _ => 0
  | b => b.left.length + 1

/-- The tasks that are not begun. -/
def later : Blocked → List Task
  | paused todo => todo
  | calling a _ | holding a _ | spacing a _ | waiting a _ _ _ => a.later

/-- What the task in progress is still to send. -/
def owes (maxRetries : Nat) (b : Blocked) : List (String × Nat) :=
  b.left.flatMap (Step.sends maxRetries)

theorem left_of_told {b b' : Blocked} {i : Input}
    (hb : b' = b ∨ i = .signal ∧ ∃ a wait d, b = .waiting a wait d none ∧
      b' = .waiting a wait d (some true)) :
    b'.attempt? = b.attempt? ∧ b'.left = b.left ∧ b'.ahead = b.ahead ∧ b'.later = b.later ∧
      b'.todo = b.todo := by
  rcases hb with rfl | ⟨-, a, wait, d, rfl, rfl⟩ <;> exact ⟨rfl, rfl, rfl, rfl, rfl⟩

end Blocked

/-- What is still to be sent, unless a task fails. -/
def Place.owes (maxRetries : Nat) : Place → List (String × Nat)
  | before todo => sendsOfTasks maxRetries todo
  | within a => a.steps.flatMap (Step.sends maxRetries) ++ sendsOfTasks maxRetries a.later
  | done a => sendsOfTasks maxRetries a.later
  | blocked b => b.owes maxRetries ++ sendsOfTasks maxRetries b.later
  | failing _ _ | ended => []

namespace Runner

/-- The indices of the commands completed, in order. -/
def completions (r : Runner) : List Nat := r.journal.reverse.filterMap Entry.completed?

/-- What comes about between two states: the cursor passes some commands, some are completed, a play
sends some texts, and some errors are added. -/
structure Accrues (p passed : Nat) (done : List Nat) (sends : List (String × Nat))
    (errors : List String) (r r' : Runner) : Prop where
  tasks_eq : r'.tasks = r.tasks
  cursor_eq : r'.status.cursor = r.status.cursor + passed
  completions_eq : r'.completions = r.completions ++ done
  sends_eq : r'.sendsOf p = r.sendsOf p ++ sends
  errors_eq : r'.status.errors = r.status.errors ++ errors

/-- Every input of a schedule is harmless, none is a stop, and none lets a command of a play fail:
its device calls are accepted, and its waits are signalled in time. -/
def Smooth (p : Nat) : List Input → Runner → Prop
  | [], _ => True
  | i :: s, r => i ≠ .stop ∧ r.Harmless i ∧
      (∀ run b w, i = .wake p w → run.id = p → (run, b) ∈ r.current → r.allows run b w →
        b.failure? run.options w = none) ∧
      Smooth p s (r.step i)

/-- What is done, followed by what is still to be done, is what a play is to do. -/
structure Due (run : Run) (tasks : List Task) (sends : List (String × Nat)) (done : List Nat)
    (p : Place) (r : Runner) : Prop where
  control : r.control ≠ .stop
  unfailing : ¬ p.IsFailing
  tasks_eq : r.tasks = tasks
  todo_eq : p.todo = r.tasks.drop r.status.cursor
  sends_eq : r.sendsOf run.id ++ p.owes run.options.maxRetries = sends
  completions_eq : r.completions ++ List.range' r.status.cursor p.todo.length = done
  errors_eq : r.status.errors = []

/-- A play is on its way, or it is over and has done all. -/
def OnCourse (run : Run) (tasks : List Task) (sends : List (String × Nat)) (done : List Nat)
    (r : Runner) : Prop :=
  (∃ b, r.InProgress run b ∧ Due run tasks sends done (.blocked b) r) ∨
    r.Idle ∧ Due run tasks sends done .ended r

section Smooth

variable {run : Run} {b : Blocked} {p p' : Place} {i : Input} {n n' : Nat} {done done' : List Nat}
  {sends sends' : List (String × Nat)} {errors errors' : List String} {tasks : List Task}
  {r r' r'' : Runner}

/-! ## What comes about -/

theorem Adds.completions_eq {P : Entry → Prop} (h : Adds P r r')
    (hP : ∀ e, P e → e.completed? = none) : r'.completions = r.completions := by
  obtain ⟨l, e, hl⟩ := h
  have hnil : l.reverse.filterMap Entry.completed? = [] :=
    List.filterMap_eq_nil_iff.2 fun x hx => hP x (hl x (List.mem_reverse.1 hx))
  rw [completions, e, List.reverse_append, List.filterMap_append, hnil, List.append_nil]
  rfl

theorem Accrues.trans {q : Nat} (h : Accrues q n done sends errors r r')
    (h' : Accrues q n' done' sends' errors' r' r'') :
    Accrues q (n + n') (done ++ done') (sends ++ sends') (errors ++ errors') r r'' where
  tasks_eq := h'.tasks_eq.trans h.tasks_eq
  cursor_eq := by rw [h'.cursor_eq, h.cursor_eq, Nat.add_assoc]
  completions_eq := by rw [h'.completions_eq, h.completions_eq, List.append_assoc]
  sends_eq := by rw [h'.sends_eq, h.sends_eq, List.append_assoc]
  errors_eq := by rw [h'.errors_eq, h.errors_eq, List.append_assoc]

theorem Accrues.refl (q : Nat) (r : Runner) : Accrues q 0 [] [] [] r r where
  tasks_eq := rfl
  cursor_eq := rfl
  completions_eq := (List.append_nil _).symm
  sends_eq := (List.append_nil _).symm
  errors_eq := (List.append_nil _).symm

/-- Nothing comes about where nothing but remarks is written. -/
theorem Adds.accrues (h : Adds Entry.IsRemark r r') (htasks : r'.tasks = r.tasks)
    (hcursor : r'.status.cursor = r.status.cursor) (herrors : r'.status.errors = r.status.errors)
    (q : Nat) : Accrues q 0 [] [] [] r r' where
  tasks_eq := htasks
  cursor_eq := hcursor
  completions_eq := by rw [h.completions_eq fun _ he => he.completed?, List.append_nil]
  sends_eq := by rw [h.sendsOf_eq fun _ he => he.not_begins, List.append_nil]
  errors_eq := by rw [herrors, List.append_nil]

theorem Aside.accrues (h : Aside i r r') (q : Nat) : Accrues q 0 [] [] [] r r' :=
  h.remarked.accrues h.tasks_eq h.cursor_eq h.errors_eq q

theorem accrues_block (r : Runner) (run : Run) (b : Blocked) (q : Nat) :
    Accrues q 0 [] [] [] r (r.block run b) := by
  have hadds : Adds Entry.IsRemark r (r.block run b) := .of_eq rfl
  exact hadds.accrues rfl rfl rfl q

theorem accrues_begin (r : Runner) (t : Task) (q : Nat) : Accrues q 0 [] [] [] r (r.begin t) := by
  have hs : Silent r (r.begin t) := .begin (.refl r) t
  have hadds : Adds (fun e => e.completed? = none) r (r.begin t) :=
    Adds.begin (.refl _ r) t (fun _ => rfl) rfl
  obtain ⟨j, e⟩ := r.begin_eq t
  refine ⟨by rw [e], by rw [e]; rfl, ?_, ?_, by rw [e, List.append_nil]⟩
  · rw [hadds.completions_eq fun _ he => he, List.append_nil]
  · rw [hs.sendsOf_eq, List.append_nil]

theorem accrues_perform (r : Runner) (run : Run) (a : Attempt) (s : Step) :
    Accrues run.id 0 [] (s.sends run.options.maxRetries) [] r (r.perform run a s) := by
  have hadds : Adds (fun e => e.completed? = none) r (r.perform run a s) :=
    Adds.perform (.refl _ r) a (fun _ => rfl) (fun _ _ => rfl) fun _ _ => rfl
  have hsends := sendsOf_perform r run a s
  have hdone := hadds.completions_eq fun _ he => he
  obtain ⟨_, _, _, _, _, _, e⟩ := r.perform_eq run a s
  exact ⟨by rw [e], by rw [e]; rfl, by rw [hdone, List.append_nil], hsends,
    by rw [e, List.append_nil]⟩

theorem accrues_complete (r : Runner) (run : Run) (a : Attempt) (q : Nat) :
    Accrues q 1 [r.status.cursor] [] [] r (r.complete run a) := by
  have hs : Silent r (r.complete run a) := .complete (.refl r) a
  obtain ⟨m, e⟩ := r.complete_eq run a
  refine ⟨by rw [e], by rw [e], ?_, ?_, by rw [e, List.append_nil]⟩
  · rw [e, completions, List.reverse_cons, List.filterMap_append]
    rfl
  · rw [hs.sendsOf_eq, List.append_nil]

theorem accrues_finish (r : Runner) (run : Run) (outcome : Except Failure Unit) (q : Nat) :
    Accrues q 0 [] [] [] r (r.finish run outcome) := by
  have hadds : Adds Entry.IsRemark r (r.finish run outcome) :=
    Adds.finish (.refl _ r) outcome (fun _ => trivial) (fun _ => trivial) fun _ => trivial
  obtain ⟨m, j, e⟩ := r.close_eq run outcome
  have heq : (r.finish run outcome).tasks = r.tasks ∧
      (r.finish run outcome).status.cursor = r.status.cursor ∧
      (r.finish run outcome).status.errors = r.status.errors := by
    unfold Runner.finish
    split
    · rw [e]
      exact ⟨rfl, rfl, rfl⟩
    · exact ⟨rfl, rfl, rfl⟩
  exact hadds.accrues heq.1 heq.2.1 heq.2.2 q

theorem Departs.accrues {w : Wake} (hd : Departs run r b w (p, r')) (q : Nat) :
    Accrues q 0 [] [] [] r r' := by
  have hr := hd.remarks
  obtain ⟨slot, start, timeouts, phase, j, e⟩ := hd.eq
  exact hr.accrues (by rw [e]) (by rw [e]) (by rw [e]) q

/-! ## What is due stays the same -/

theorem Due.of_accrues (h : Due run tasks sends done p r)
    (ha : Accrues run.id 0 [] sends' [] r r') (hc : r'.control ≠ .stop) (hp : ¬ p'.IsFailing)
    (htodo : p'.todo = p.todo)
    (hs : p.owes run.options.maxRetries = sends' ++ p'.owes run.options.maxRetries) :
    Due run tasks sends done p' r' where
  control := hc
  unfailing := hp
  tasks_eq := ha.tasks_eq.trans h.tasks_eq
  todo_eq := by
    rw [htodo, h.todo_eq, ha.tasks_eq, ha.cursor_eq]
    rfl
  sends_eq := by rw [ha.sends_eq, List.append_assoc, ← hs, h.sends_eq]
  completions_eq := by
    rw [ha.completions_eq, ha.cursor_eq, htodo, List.append_nil]
    exact h.completions_eq
  errors_eq := by rw [ha.errors_eq, h.errors_eq, List.append_nil]

theorem Stride.control_eq (hs : Stride run (p, r) (p', r')) (hp : ¬ p.IsFailing) :
    r'.control = r.control := by
  have hfinish (outcome : Except Failure Unit) : (r.finish run outcome).control = r.control := by
    obtain ⟨q, outcome', hq, e⟩ := finish_eq run outcome r
    rw [e]
    exact hq.control_eq
  cases hs with
  | pause | interrupt | space | leave => rfl
  | stop | finish => exact hfinish _
  | begin hc t =>
    have hs : Silent r (r.begin t) := .begin (.refl r) t
    exact hs.control_eq
  | @perform _ hc a s steps =>
    obtain ⟨_, _, _, _, _, _, e⟩ := r.perform_eq run { a with steps } s
    rw [e]
  | complete _ a =>
    have hs : Silent r (r.complete run a) := .complete (.refl r) a
    exact hs.control_eq
  | failPaused | failStopped | failSkipped | failEnded => exact absurd trivial hp

/-- What is due stays the same as a run goes on, if no command fails. -/
theorem Stride.due (hs : Stride run (p, r) (p', r')) (h : Due run tasks sends done p r) :
    Due run tasks sends done p' r' := by
  have hc : r'.control ≠ .stop := hs.control_eq h.unfailing ▸ h.control
  have hp := (hs.unreported h.unfailing).2
  cases hs with
  | pause => exact h.of_accrues (accrues_block r run _ _) hc hp rfl rfl
  | stop hstop | interrupt hstop => exact absurd hstop h.control
  | finish => exact h.of_accrues (accrues_finish r run _ _) hc hp rfl rfl
  | begin _ t later =>
    refine h.of_accrues (accrues_begin r t _) hc hp rfl ?_
    simp only [Place.owes, sendsOfTasks, List.flatMap_cons, List.nil_append]
  | @perform _ _ a s steps hs =>
    refine h.of_accrues (accrues_perform r run _ s) hc hp (by cases s <;> rfl) ?_
    have howes : (Place.blocked (r.blockedIn run { a with steps } s)).owes run.options.maxRetries =
        steps.flatMap (Step.sends run.options.maxRetries) ++
          sendsOfTasks run.options.maxRetries a.later := by cases s <;> rfl
    rw [howes, Place.owes, hs, List.flatMap_cons, List.append_assoc]
  | @space _ _ a hs =>
    refine h.of_accrues (accrues_block r run _ _) hc hp rfl ?_
    rw [Place.owes, hs]
    rfl
  | @leave _ a hs =>
    refine h.of_accrues (.refl _ r) hc hp rfl ?_
    rw [Place.owes, hs]
    rfl
  | complete _ a =>
    have ha := accrues_complete r run a run.id
    have htodo : a.todo = r.tasks.drop r.status.cursor := h.todo_eq
    exact
      { control := hc
        unfailing := hp
        tasks_eq := ha.tasks_eq.trans h.tasks_eq
        todo_eq := by
          rw [ha.tasks_eq, ha.cursor_eq]
          exact drop_succ_cursor htodo
        sends_eq := by
          rw [ha.sends_eq, List.append_nil]
          exact h.sends_eq
        completions_eq := by
          rw [ha.completions_eq, ha.cursor_eq, List.append_assoc]
          exact h.completions_eq
        errors_eq := by rw [ha.errors_eq, h.errors_eq, List.append_nil] }
  | failPaused | failStopped | failSkipped | failEnded => exact absurd trivial h.unfailing

theorem Departs.due {w : Wake} (hd : Departs run r b w (p, r'))
    (hw : b.failure? run.options w = none) (h : Due run tasks sends done (.blocked b) r) :
    Due run tasks sends done p r' := by
  have hc : r'.control ≠ .stop := hd.silent.control_eq ▸ h.control
  have htodo : p.todo = b.todo := by cases hd <;> rfl
  refine h.of_accrues (hd.accrues _) hc (hd.not_failing hw) htodo ?_
  cases hd with
  | cut _ _ hstop | cancelled _ _ _ _ hstop => exact absurd hstop h.control
  | rejected a text hs => simp [Blocked.failure?, hs] at hw
  | unanswered | timedOut => cases hw
  | _ => rfl

/-! ## Smooth schedules -/

theorem OnCourse.step (h : OnCourse run tasks sends done r) (hstop : i ≠ .stop)
    (hi : r.Harmless i)
    (hw : ∀ b w, i = .wake run.id w → (run, b) ∈ r.current → r.allows run b w →
      b.failure? run.options w = none) : OnCourse run tasks sends done (r.step i) := by
  have hcontrol {p : Place} {r' : Runner} (hd : Due run tasks sends done p r) (ha : Aside i r r') :
      r'.control ≠ .stop := fun hc => (ha.stops hc).elim hd.control hstop
  rcases h with ⟨b, hp, hd⟩ | ⟨hidle, hd⟩
  · have ht := Inv.turn (.inr ⟨run, b, hp⟩) i
    generalize hr' : r.step i = r' at ht ⊢
    cases ht with
    | load _ hidle | idle hidle | play hidle => exact absurd hp hidle.not_inProgress
    | reset => exact absurd rfl hi.1
    | @goOn _ _ w h₁ ha =>
      obtain ⟨rfl, rfl⟩ := h₁.unique hp
      have hd' : Due run tasks sends done (.blocked b) (r.without run.id) := { hd with }
      rcases h₁.goOn_induct (I := Due run tasks sends done) ha
        (fun p r' hdep => hdep.due (hw b w rfl h₁.mem_current ha) hd')
        (fun _ _ _ _ hI hs => hs.due hI) with ⟨b', hp', hb⟩ | hend
      · exact .inl ⟨b', hp', hb⟩
      · exact .inr hend
    | @aside _ _ b' _ _ h₁ h₂ hb hw ha =>
      obtain ⟨rfl, rfl⟩ := h₁.unique hp
      obtain ⟨-, hleft, -, hlater, htodo⟩ := Blocked.left_of_told hb
      refine .inl ⟨b', h₂, hd.of_accrues (ha.accrues _) (hcontrol hd ha) id htodo ?_⟩
      rw [Place.owes, Place.owes, Blocked.owes, Blocked.owes, hleft, hlater]
      rfl
  · obtain ⟨hidle', ha⟩ := hidle.step_harmless hi
    exact .inr ⟨hidle', hd.of_accrues (ha.accrues _) (hcontrol hd ha) id rfl rfl⟩

/-- A play stays on its way, or comes to its end. The induction is on the schedule. -/
theorem OnCourse.after (h : OnCourse run tasks sends done r) {s : List Input}
    (hs : r.Smooth run.id s) : OnCourse run tasks sends done (r.after s) := by
  induction s generalizing r with
  | nil => exact h
  | cons i s ih =>
    obtain ⟨hstop, hi, hw, hs⟩ := hs
    exact ih (h.step hstop hi fun b w e hm => hw run b w e rfl hm) hs

theorem Reachable.onCourse (h : r.Reachable) (hp : r.play = .ok r') :
    OnCourse r.nextRun r.tasks (sendsOfTasks r.options.maxRetries (r.tasks.drop r.startIndex))
      (r.completions ++ List.range' r.startIndex (r.tasks.length - r.startIndex)) r' := by
  have hidle := h.inv.idle (play_eq_ok hp).1
  have hadds : Adds Entry.IsRemark r (r.opened.setPhase .running) :=
    Adds.setPhase (.of_eq rfl) trivial
  have hnil : (r.opened.setPhase .running).sendsOf r.nextRun.id = [] := by
    have hentries : r.entriesOf r.nextRun.id = [] := h.entriesOf_eq_nil (Nat.le_refl _)
    rw [hadds.sendsOf_eq fun _ he => he.not_begins, sendsOf, hentries]
    rfl
  have hcompletions := hadds.completions_eq fun _ he => he.completed?
  obtain ⟨j, e⟩ := r.opened.setPhase_eq .running
  refine hidle.play_induct hp (I := Due _ _ _ _) ?_ fun _ _ _ _ hI hs => hs.due hI
  exact
    { control := by rw [e]; simp [opened]
      unfailing := id
      tasks_eq := by rw [e]; rfl
      todo_eq := by rw [e]; rfl
      sends_eq := by rw [hnil]; rfl
      completions_eq := by rw [hcompletions, e, Place.todo, List.length_drop]; rfl
      errors_eq := by rw [e]; rfl }

end Smooth

end Runner

end MotionScript
