import MotionScript.Proofs.Run.Bracket

/-!
# What the counters count

The counters of the metrics and of the status are read off the diary of a play, as long as nothing
else is begun, loaded or reset.

* `timeouts`, `countedRetries`: the failures of a diary that come of a wait that timed out, and the
  retries of its attempts that were completed.
* `Tallies`, `Errs`, `Counts`: the counters are those of a diary.
* `Counting`, `counting_keeps`: they go along with the course of a run.
* **`Idle.counted`**: the counters after a play are those of its diary.
-/

namespace MotionScript

namespace Moment

/-- Whether a command is completed. -/
def isCompleted : Moment → Bool
  | told (.completed _ _) => true
  | _ => false

/-- Whether a command fails. -/
def isFailed : Moment → Bool
  | told (.failed _ _) => true
  | _ => false

/-- Whether a command that sets the signal is completed. -/
def setsSignal (tasks : List Task) : Moment → Bool
  | told (.completed i _) => (tasks[i]?.map Task.isSignal).getD false
  | _ => false

/-- The error that is told, if a command fails. -/
def error? : Moment → Option String
  | told (.failed _ error) => some error
  | _ => none

/-- Whether a command is neither completed nor fails. -/
def IsOther (m : Moment) : Prop := m.isCompleted = false ∧ m.isFailed = false

/-- The retries of an answer of the device. -/
def retries : Moment → Nat
  | woken (.calling _ _) (.answered (.ok reply)) => reply.retries
  | _ => 0

end Moment

/-- Whether what let the run go on last was the end of the time of a wait. -/
def timedOut : List Moment → Bool
  | [] => false
  | .woken (.waiting _ _ _ _) .elapsed :: _ => true
  | .woken _ _ :: _ => false
  | .told _ :: l | .stopped :: l | .abandoned :: l => timedOut l

/-- The number of commands that failed since their wait timed out. -/
def timeouts : List Moment → Nat
  | [] => 0
  | m :: l => timeouts l + if m.isFailed && timedOut l then 1 else 0

/-- The retries of the answers in the attempt that is neither completed nor failed nor left. -/
def openRetries : List Moment → Nat
  | [] => 0
  | .told (.started _ _) :: _ | .told (.completed _ _) :: _ | .told (.failed _ _) :: _
  | .told (.finished _) :: _ => 0
  | m :: l => openRetries l + m.retries

/-- The retries of the answers in the attempts that were completed. -/
def countedRetries : List Moment → Nat
  | [] => 0
  | m :: l => countedRetries l + if m.isCompleted then openRetries l else 0

/-- The counters of metrics are those of a diary. -/
structure Tallies (tasks : List Task) (l : List Moment) (m : Metrics) : Prop where
  commands_eq : m.commands = l.countP Moment.isCompleted + l.countP Moment.isFailed
  failures_eq : m.failures = l.countP Moment.isFailed
  signals_eq : m.signals = l.countP (Moment.setsSignal tasks)
  retries_eq : m.retries = countedRetries l

/-- The errors and the waits that timed out are those of a diary, while `late` waits that timed out
are still to be reported. -/
structure Errs (late : Nat) (l : List Moment) (s : Status) : Prop where
  errors_eq : s.errors = (l.filterMap Moment.error?).reverse
  timeouts_eq : s.syncTimeouts = timeouts l + late

namespace Place

/-- The attempt in progress. -/
def attempt? : Place → Option Attempt
  | within a | done a => some a
  | blocked b => b.attempt?
  | before _ | failing _ _ | ended => none

/-- The number of waits that timed out and are still to be reported. -/
def late (l : List Moment) : Place → Nat
  | failing _ _ => if timedOut l then 1 else 0
  | before _ | within _ | done _ | blocked _ | ended => 0

end Place

section Counters

variable {tasks : List Task} {m : Moment} {l l' : List Moment} {s : Status} {late : Nat}
  {metrics metrics' : Metrics}

/-! ## What does not count -/

theorem Moment.IsPhase.isOther (h : m.IsPhase) : m.IsOther := by
  cases m with
  | told e => cases e <;> first | exact ⟨rfl, rfl⟩ | cases h
  | woken | stopped | abandoned => cases h

theorem Moment.setsSignal_eq (h : m.isCompleted = false) : m.setsSignal tasks = false := by
  cases m with
  | told e => cases e <;> first | rfl | cases h
  | woken | stopped | abandoned => rfl

theorem Moment.error?_eq (h : m.isFailed = false) : m.error? = none := by
  cases m with
  | told e => cases e <;> first | rfl | cases h
  | woken | stopped | abandoned => rfl

theorem Tallies.other (h : Tallies tasks l metrics) (hm : m.IsOther) :
    Tallies tasks (m :: l) metrics where
  commands_eq := by
    rw [List.countP_cons_of_neg (by simp [hm.1]), List.countP_cons_of_neg (by simp [hm.2])]
    exact h.commands_eq
  failures_eq := by
    rw [List.countP_cons_of_neg (by simp [hm.2])]
    exact h.failures_eq
  signals_eq := by
    rw [List.countP_cons_of_neg (by simp [Moment.setsSignal_eq hm.1])]
    exact h.signals_eq
  retries_eq := by
    rw [countedRetries, hm.1]
    exact h.retries_eq

theorem Tallies.others (h : Tallies tasks l metrics) (hl : ∀ m ∈ l', m.IsOther) :
    Tallies tasks (l' ++ l) metrics := by
  induction l' with
  | nil => exact h
  | cons m l' ih =>
    exact (ih fun x hx => hl x (List.mem_cons_of_mem _ hx)).other (hl m List.mem_cons_self)

theorem Tallies.runTime (h : Tallies tasks l metrics) (time : Nat) :
    Tallies tasks l { metrics with runTime := time } :=
  ⟨h.commands_eq, h.failures_eq, h.signals_eq, h.retries_eq⟩

theorem Errs.other (h : Errs late l s) (hm : m.isFailed = false) : Errs late (m :: l) s where
  errors_eq := by
    rw [List.filterMap_cons_none (Moment.error?_eq hm)]
    exact h.errors_eq
  timeouts_eq := by
    rw [timeouts, hm]
    exact h.timeouts_eq

theorem Errs.others (h : Errs late l s) (hl : ∀ m ∈ l', m.IsOther) : Errs late (l' ++ l) s := by
  induction l' with
  | nil => exact h
  | cons m l' ih =>
    exact (ih fun x hx => hl x (List.mem_cons_of_mem _ hx)).other (hl m List.mem_cons_self).2

theorem Errs.congr {s' : Status} (h : Errs late l s) (he : s'.errors = s.errors)
    (ht : s'.syncTimeouts = s.syncTimeouts) : Errs late l s' :=
  ⟨he.trans h.errors_eq, ht.trans h.timeouts_eq⟩

theorem openRetries_phases (hl : ∀ m ∈ l', m.IsPhase) (l : List Moment) :
    openRetries (l' ++ l) = openRetries l := by
  induction l' with
  | nil => rfl
  | cons m l' ih =>
    rw [← ih fun x hx => hl x (List.mem_cons_of_mem _ hx)]
    have hm := hl m List.mem_cons_self
    cases m with
    | told e => cases e <;> first | rfl | cases hm
    | woken | stopped | abandoned => cases hm

theorem timedOut_phases (hl : ∀ m ∈ l', m.IsPhase) (l : List Moment) :
    timedOut (l' ++ l) = timedOut l := by
  induction l' with
  | nil => rfl
  | cons m l' ih =>
    rw [← ih fun x hx => hl x (List.mem_cons_of_mem _ hx)]
    have hm := hl m List.mem_cons_self
    cases m with
    | told e => rfl
    | woken | stopped | abandoned => cases hm

/-! ## What counts -/

theorem Tallies.completed (h : Tallies tasks l metrics) {i : Nat} {t : Task}
    (ht : tasks[i]? = some t) (elapsed nanos : Nat) :
    Tallies tasks (.told (.completed i elapsed) :: l)
      { metrics.record nanos true with
        retries := metrics.retries + openRetries l
        signals := metrics.signals + if t.isSignal then 1 else 0 } where
  commands_eq := by
    rw [List.countP_cons_of_pos (by rfl), List.countP_cons_of_neg (by simp [Moment.isFailed])]
    simp only [Metrics.record_commands, h.commands_eq]
    omega
  failures_eq := by
    rw [List.countP_cons_of_neg (by simp [Moment.isFailed])]
    exact h.failures_eq
  signals_eq := by
    rw [List.countP_cons, Moment.setsSignal, ht, ← h.signals_eq]
    rfl
  retries_eq := by
    rw [countedRetries, ← h.retries_eq]
    rfl

theorem Tallies.failed (h : Tallies tasks l metrics) (i : Nat) (error : String) (nanos : Nat) :
    Tallies tasks (.told (.failed i error) :: l) (metrics.record nanos false) where
  commands_eq := by
    rw [List.countP_cons_of_neg (by simp [Moment.isCompleted]), List.countP_cons_of_pos (by rfl)]
    simp only [Metrics.record_commands, h.commands_eq]
    omega
  failures_eq := by
    rw [List.countP_cons_of_pos (by rfl)]
    simp only [Metrics.record_failures, h.failures_eq]
    rfl
  signals_eq := by
    rw [List.countP_cons_of_neg (by simp [Moment.setsSignal])]
    exact h.signals_eq
  retries_eq := h.retries_eq

theorem Errs.failed {s' : Status} (h : Errs (if timedOut l then 1 else 0) l s) (i : Nat)
    {error : String} (he : s'.errors = s.errors ++ [error])
    (ht : s'.syncTimeouts = s.syncTimeouts) : Errs 0 (.told (.failed i error) :: l) s' where
  errors_eq := by
    rw [he, h.errors_eq, ← List.reverse_cons]
    rfl
  timeouts_eq := by
    rw [ht, h.timeouts_eq]
    simp [timeouts, Moment.isFailed]

theorem length_errors (l : List Moment) :
    (l.filterMap Moment.error?).length = l.countP Moment.isFailed := by
  have hp : (fun m : Moment => m.error?.isSome) = Moment.isFailed := by
    funext m
    cases m with
    | told e => cases e <;> rfl
    | woken | stopped | abandoned => rfl
  rw [List.length_filterMap_eq_countP, hp]

end Counters

namespace Runner

/-- The counters of a state are those of a diary, while `late` waits that timed out are still to be
reported. Without monitoring metrics have none. -/
structure Counts (o : Options) (tasks : List Task) (late : Nat) (l : List Moment) (r : Runner) :
    Prop where
  measures : o.monitoring = true → Tallies tasks l r.metrics
  unmeasured : o.monitoring = false → r.metrics = .zero
  errs : Errs late l r.status

/-- The counters go along with the course of a run. -/
structure Counting (run : Run) (tasks : List Task) (start : Nat) (p : Place) (l : List Moment)
    (r : Runner) : Prop extends Bracketing run tasks start p l r where
  counts : Counts run.options tasks (p.late l) l r
  attempt_eq : ∀ a, p.attempt? = some a → a.retries = openRetries l

section Counting

variable {run : Run} {tasks : List Task} {start late late' : Nat} {p p' : Place} {b b' : Blocked}
  {w : Wake} {todo : List Task} {l l' : List Moment} {r r' : Runner}

/-! ## What the parts of a transition do to the metrics -/

theorem metrics_complete (r : Runner) (run : Run) (a : Attempt) : (r.complete run a).metrics =
    if run.options.monitoring then
      { r.metrics.record ((r.clock - a.began) * 1000000) true with
        retries := r.metrics.retries + a.retries
        signals := r.metrics.signals + if a.task.isSignal then 1 else 0 }
    else r.metrics := by
  unfold complete record countTask
  split <;> rfl

theorem metrics_fail (r : Runner) (run : Run) (a : Attempt) (e : Failure) :
    (r.fail run a e).metrics =
      if run.options.monitoring then r.metrics.record ((r.clock - a.began) * 1000000) false
      else r.metrics := by
  unfold fail record
  split <;> rfl

theorem metrics_finish (he : run.epoch = r.epoch) (outcome : Except Failure Unit) :
    (r.finish run outcome).metrics =
      if run.options.monitoring then { r.metrics with runTime := r.clock - run.began }
      else r.metrics := by
  obtain ⟨j, e⟩ := setPhase_eq { r with
    metrics := if run.options.monitoring then { r.metrics with runTime := r.clock - run.began }
      else r.metrics
    status := { r.status with executing := false, syncWaitStart := none } } (endPhase outcome)
  rw [Runner.finish, if_pos he, close]
  simp only [e]
  rfl

/-! ## What they do to the counters -/

/-- Neither a completion nor a failure is told. A wait that timed out is counted, and is still to be
reported. -/
theorem Counts.others (h : Counts run.options tasks late l r) (hl : ∀ m ∈ l', m.IsOther)
    (hm : r'.metrics = r.metrics) (he : r'.status.errors = r.status.errors)
    (ht : r'.status.syncTimeouts + late = r.status.syncTimeouts + late') :
    Counts run.options tasks late' (l' ++ l) r' where
  measures ho := hm ▸ (h.measures ho).others hl
  unmeasured ho := hm.trans (h.unmeasured ho)
  errs := by
    have herrs := h.errs.others hl
    have htimeouts := herrs.timeouts_eq
    exact ⟨he.trans herrs.errors_eq, by omega⟩

theorem Counts.complete (h : Counts run.options tasks 0 l r) {a : Attempt}
    (ht : tasks[r.status.cursor]? = some a.task) (ha : a.retries = openRetries l) :
    Counts run.options tasks 0 (.told (.completed r.status.cursor (r.clock - a.began)) :: l)
      (r.complete run a) := by
  have hmetrics := r.metrics_complete run a
  obtain ⟨m, e⟩ := r.complete_eq run a
  refine ⟨fun ho => ?_, fun ho => ?_, ?_⟩
  · rw [hmetrics, if_pos ho, ha]
    exact (h.measures ho).completed ht _ _
  · rw [hmetrics, if_neg (by simp [ho])]
    exact h.unmeasured ho
  · exact (h.errs.other (m := .told (.completed _ _)) rfl).congr (by rw [e]) (by rw [e])

theorem Counts.fail (h : Counts run.options tasks (if timedOut l then 1 else 0) l r) (a : Attempt)
    (e : Failure) : Counts run.options tasks 0
      (.told (.failed r.status.cursor (failureText a.task e)) :: l) (r.fail run a e) := by
  have hmetrics := r.metrics_fail run a e
  obtain ⟨m, e'⟩ := r.fail_eq run a e
  refine ⟨fun ho => ?_, fun ho => ?_, ?_⟩
  · rw [hmetrics, if_pos ho]
    exact (h.measures ho).failed _ _ _
  · rw [hmetrics, if_neg (by simp [ho])]
    exact h.unmeasured ho
  · refine h.errs.failed r.status.cursor ?_ ?_ <;> rw [e']

theorem Counts.failPaused (h : Counts run.options tasks (if timedOut l then 1 else 0) l r)
    (a : Attempt) (e : Failure) : Counts run.options tasks 0
      (tells r (setPhase .paused { r.fail run a e with control := .pause }) ++ l)
      (setPhase .paused { r.fail run a e with control := .pause }) := by
  obtain ⟨l', hl', et⟩ := r.tells_pause_fail run a e
  obtain ⟨j, e'⟩ := setPhase_eq { r.fail run a e with control := .pause } .paused
  rw [et, List.append_assoc]
  exact (h.fail a e).others (fun m hm => (hl' m hm).isOther) (by rw [e']) (by rw [e'])
    (by rw [e'])

theorem Counts.finish (h : Counts run.options tasks 0 l r) (he : run.epoch = r.epoch)
    (outcome : Except Failure Unit) : Counts run.options tasks 0
      (tells r (r.finish run outcome) ++ l) (r.finish run outcome) := by
  obtain ⟨l', hl', et⟩ := tells_finish he outcome
  obtain ⟨m, j, e⟩ := r.close_eq run outcome
  have hmetrics := metrics_finish he outcome
  have hstatus : (r.finish run outcome).status.errors = r.status.errors ∧
      (r.finish run outcome).status.syncTimeouts = r.status.syncTimeouts := by
    rw [Runner.finish, if_pos he, e]
    exact ⟨rfl, rfl⟩
  have hl : ∀ m ∈ tells r (r.finish run outcome), m.IsOther := by
    rw [et]
    exact List.forall_mem_cons.2 ⟨⟨rfl, rfl⟩, fun m hm => (hl' m hm).isOther⟩
  refine ⟨fun ho => ?_, fun ho => ?_, (h.errs.others hl).congr hstatus.1 hstatus.2⟩
  · rw [hmetrics, if_pos ho]
    exact ((h.measures ho).others hl).runTime _
  · rw [hmetrics, if_neg (by simp [ho])]
    exact h.unmeasured ho

/-! ## The course of a run -/

theorem Counting.others (h : Counting run tasks start p l r)
    (hb : Bracketing run tasks start p' (l' ++ l) r') (hl : ∀ m ∈ l', m.IsOther)
    (hm : r'.metrics = r.metrics) (he : r'.status.errors = r.status.errors)
    (ht : r'.status.syncTimeouts + p.late l = r.status.syncTimeouts + p'.late (l' ++ l))
    (ha : ∀ a, p'.attempt? = some a → a.retries = openRetries (l' ++ l)) :
    Counting run tasks start p' (l' ++ l) r' :=
  ⟨hb, h.counts.others hl hm he ht, ha⟩

/-- Nothing is told, and the attempt stays what it is. -/
theorem Counting.quiet (h : Counting run tasks start p l r)
    (hb : Bracketing run tasks start p' (tells r r' ++ l) r') (hj : r'.journal = r.journal)
    (hm : r'.metrics = r.metrics) (hs : r'.status = r.status) (hl : p'.late l = p.late l)
    (ha : ∀ a, p'.attempt? = some a → a.retries = openRetries l) :
    Counting run tasks start p' (tells r r' ++ l) r' := by
  rw [tells_of_eq hj] at hb ⊢
  refine h.others hb (List.forall_mem_nil _) hm (by rw [hs]) ?_ ha
  rw [hs]
  exact congrArg _ hl.symm

theorem Counting.begin (h : Counting run tasks start (.before todo) l r) (t : Task)
    (later : List Task) (hb : Bracketing run tasks start
      (.within ⟨t, later, t.steps, 0, false, r.clock⟩) (tells r (r.begin t) ++ l) (r.begin t)) :
    Counting run tasks start (.within ⟨t, later, t.steps, 0, false, r.clock⟩)
      (tells r (r.begin t) ++ l) (r.begin t) := by
  obtain ⟨l', hl', et⟩ := r.tells_begin t
  obtain ⟨j, e⟩ := r.begin_eq t
  rw [et] at hb ⊢
  refine h.others hb ?_ (by rw [e]) (by rw [e]) (by rw [e]; rfl) ?_
  · exact List.forall_mem_cons.2 ⟨⟨rfl, rfl⟩, fun m hm => (hl' m hm).isOther⟩
  · rintro _ ⟨⟩
    rfl

/-- A step of an attempt is begun, which keeps its retries. -/
theorem Counting.perform {a : Attempt} {steps : List Step} (s : Step)
    (h : Counting run tasks start (.within a) l r)
    (hb : Bracketing run tasks start (.blocked (r.blockedIn run { a with steps } s))
      (tells r (r.perform run { a with steps } s) ++ l) (r.perform run { a with steps } s)) :
    Counting run tasks start (.blocked (r.blockedIn run { a with steps } s))
      (tells r (r.perform run { a with steps } s) ++ l) (r.perform run { a with steps } s) := by
  have hretries : a.retries = openRetries l := h.attempt_eq a rfl
  cases s with
  | send text | delay ms =>
    rw [tells_perform r run _ (by simp)] at hb ⊢
    exact h.others hb (List.forall_mem_nil _) rfl rfl rfl (by rintro _ ⟨⟩; exact hretries)
  | signal =>
    obtain ⟨l', hl', et⟩ := r.tells_perform_signal run { a with steps }
    obtain ⟨slot, waits, began, phase, b, j, e⟩ := r.perform_eq run { a with steps } .signal
    rw [et] at hb ⊢
    refine h.others hb ?_ (by rw [e]) (by rw [e]) (by rw [e]; rfl) ?_
    · exact List.forall_mem_cons.2 ⟨⟨rfl, rfl⟩, fun m hm => (hl' m hm).isOther⟩
    · rintro _ ⟨⟩
      exact hretries.trans (openRetries_phases hl' l).symm

/-- An attempt that is over is counted, and none is open. -/
theorem Counts.counting (h : Counts run.options tasks 0 (tells r r' ++ l) r')
    (hb : Bracketing run tasks start p (tells r r' ++ l) r')
    (hl : p.late (tells r r' ++ l) = 0) (ha : p.attempt? = none) :
    Counting run tasks start p (tells r r' ++ l) r' :=
  ⟨hb, hl ▸ h, by simp [ha]⟩

theorem Stride.counting (hs : Stride run (p, r) (p', r')) (h : Counting run tasks start p l r) :
    Counting run tasks start p' (tells r r' ++ l) r' := by
  have hb := hs.bracketing h.toBracketing
  cases hs with
  | pause | interrupt => exact h.quiet hb rfl rfl rfl rfl (by rintro a ⟨⟩)
  | space | leave => exact h.quiet hb rfl rfl rfl rfl fun a ha => h.attempt_eq a ha
  | stop | finish => exact (h.counts.finish h.epoch_eq _).counting hb rfl rfl
  | begin hc t later => exact h.begin t later hb
  | @perform _ hc a s steps hs => exact h.perform s hb
  | complete _ a =>
    have ht : tasks[r.status.cursor]? = some a.task := by
      rw [← h.tasks_eq]
      exact getElem?_cursor (h.todo_eq.resolve_left (by simp))
    refine Counts.counting ?_ hb rfl rfl
    rw [tells_complete]
    exact h.counts.complete ht (h.attempt_eq a rfl)
  | failPaused hc ho a e => exact (h.counts.failPaused a e).counting hb rfl rfl
  | failStopped hc ho a e =>
    refine Counts.counting ?_ hb rfl rfl
    rw [tells_fail]
    exact h.counts.fail a e
  | failSkipped _ ho hk a e =>
    have et : tells r (r.fail run a e).skip =
        [.told (.failed r.status.cursor (failureText a.task e))] := r.tells_fail run a e
    refine Counts.counting ?_ hb rfl rfl
    rw [et]
    exact (h.counts.fail a e).others (List.forall_mem_nil _) rfl rfl rfl
  | failEnded _ ho hk a e =>
    have he : run.epoch = (r.fail run a e).epoch := by
      obtain ⟨m, e'⟩ := r.fail_eq run a e
      rw [e']
      exact h.epoch_eq
    refine Counts.counting ?_ hb rfl rfl
    rw [tells_fail_finish, List.append_assoc]
    exact (h.counts.fail a e).finish he _

theorem Counting.woken (h : Counting run tasks start (.blocked b) l r)
    (hb : Bracketing run tasks start p (l' ++ .woken b w :: l) r') (hl : ∀ m ∈ l', m.IsOther)
    (hm : r'.metrics = r.metrics) (he : r'.status.errors = r.status.errors)
    (ht : r'.status.syncTimeouts = r.status.syncTimeouts + p.late (l' ++ .woken b w :: l))
    (ha : ∀ a, p.attempt? = some a → a.retries = openRetries (l' ++ .woken b w :: l)) :
    Counting run tasks start p (l' ++ .woken b w :: l) r' := by
  have hwoken : ∀ m ∈ [Moment.woken b w], m.IsOther := List.forall_mem_singleton.2 ⟨rfl, rfl⟩
  have hcounts : Counts run.options tasks 0 (.woken b w :: l) r :=
    h.counts.others hwoken rfl rfl rfl
  exact ⟨hb, hcounts.others hl hm he ht, ha⟩

theorem others_endWait (r : Runner) (wait : Nat) (w : Wake) :
    (∀ m ∈ tells r ((r.disarm wait).endWait w), m.IsOther) ∧ ∀ l,
      openRetries (tells r ((r.disarm wait).endWait w) ++ l) = openRetries l ∧
      timedOut (tells r ((r.disarm wait).endWait w) ++ l) = timedOut l := by
  obtain ⟨l', hl', et⟩ := r.tells_endWait wait w
  rw [et]
  cases w with
  | signalled =>
    have hsignalled : ∀ m ∈ [Moment.told .signalled], m.IsOther :=
      List.forall_mem_singleton.2 ⟨rfl, rfl⟩
    refine ⟨List.forall_mem_append.2 ⟨fun m hm => (hl' m hm).isOther, hsignalled⟩, fun l => ?_⟩
    rw [List.append_assoc]
    exact ⟨openRetries_phases hl' _, timedOut_phases hl' _⟩
  | elapsed | released | answered _ =>
    refine ⟨fun m hm => ?_, fun l => ?_⟩
    · rw [List.append_nil] at hm
      exact (hl' m hm).isOther
    · rw [List.append_nil]
      exact ⟨openRetries_phases hl' l, timedOut_phases hl' l⟩

theorem Departs.counting (hd : Departs run (r.without run.id) b w (p, r'))
    (hp : r.InProgress run b) (h : Counting run tasks start (.blocked b) l r) :
    Counting run tasks start p (tells r r' ++ .woken b w :: l) r' := by
  have hb := hd.bracketing hp h.toBracketing
  have hquiet : tells r (r.without run.id) = [] := tells_of_eq rfl
  have hopen (a : Attempt) (ha : b.attempt? = some a) : a.retries = openRetries l :=
    h.attempt_eq a ha
  cases hd with
  | released | unanswered | rejected | cut =>
    rw [hquiet] at hb ⊢
    exact h.woken hb (List.forall_mem_nil _) rfl rfl rfl (by rintro a ⟨⟩)
  | @accepted a text reply hr =>
    rw [hquiet] at hb ⊢
    refine h.woken hb (List.forall_mem_nil _) rfl rfl rfl ?_
    rintro _ ⟨⟩
    exact congrArg (· + reply.retries) (hopen a rfl)
  | held a d | spaced a d w =>
    rw [hquiet] at hb ⊢
    refine h.woken hb (List.forall_mem_nil _) rfl rfl rfl ?_
    rintro _ ⟨⟩
    exact hopen _ rfl
  | signalled a wait d told =>
    obtain ⟨hl, hsame⟩ := (r.without run.id).others_endWait wait .signalled
    obtain ⟨slot, j, e⟩ := (r.without run.id).endWait_disarm_eq wait .signalled
    refine h.woken hb hl (by rw [e]; rfl) (by rw [e]; rfl) (by rw [e]; rfl) ?_
    rintro _ ⟨⟩
    exact (hopen a rfl).trans (hsame (.woken (.waiting a wait d told) .signalled :: l)).1.symm
  | timedOut a wait d told =>
    obtain ⟨hl, hsame⟩ := (r.without run.id).others_endWait wait .elapsed
    obtain ⟨slot, j, e⟩ := (r.without run.id).endWait_disarm_eq wait .elapsed
    -- the status counts the wait already, the diary only with the failure
    refine h.woken hb hl (by rw [e]; rfl) (by rw [e]; rfl) ?_ (by rintro a ⟨⟩)
    refine .trans ?_ (congrArg (fun b : Bool => _ + if b then 1 else 0) (hsame _).2.symm)
    rw [e]
    rfl
  | cancelled a wait d told hc =>
    obtain ⟨hl, -⟩ := (r.without run.id).others_endWait wait .released
    obtain ⟨slot, j, e⟩ := (r.without run.id).endWait_disarm_eq wait .released
    exact h.woken hb hl (by rw [e]; rfl) (by rw [e]; rfl) (by rw [e]; rfl) (by rintro a ⟨⟩)

theorem Attends.counting (ha : Attends l' r r')
    (hb : b' = b ∨ ∃ a wait d, b = .waiting a wait d none ∧ b' = .waiting a wait d (some true))
    (h : Counting run tasks start (.blocked b) l r) :
    Counting run tasks start (.blocked b') (l' ++ l) r' := by
  have hattempt : b'.attempt? = b.attempt? := by
    rcases hb with rfl | ⟨a, wait, d, rfl, rfl⟩ <;> rfl
  obtain ⟨hl, hopen⟩ : (∀ m ∈ l', m.IsOther) ∧ openRetries (l' ++ l) = openRetries l := by
    rcases ha.moments with ⟨hl, -⟩ | ⟨l'', hl, rfl, -⟩
    · exact ⟨fun m hm => (hl m hm).isOther, openRetries_phases hl l⟩
    · have hstopped : ∀ m ∈ [Moment.stopped], m.IsOther :=
        List.forall_mem_singleton.2 ⟨rfl, rfl⟩
      refine ⟨List.forall_mem_append.2 ⟨fun m hm => (hl m hm).isOther, hstopped⟩, ?_⟩
      rw [List.append_assoc, openRetries_phases hl]
      rfl
  refine h.others (ha.bracketing hb h.toBracketing) hl ha.metrics_eq (by rw [ha.status_eq])
    (by rw [ha.status_eq]; rfl) fun a hp => ?_
  rw [hopen]
  exact h.attempt_eq a (hattempt.symm.trans hp)

/-- **The counters go along with the course of a run.** -/
theorem counting_keeps (run : Run) (tasks : List Task) (start : Nat) :
    Keeps run (Counting run tasks start) where
  stride h hs := hs.counting h
  departs hp h hd := hd.counting hp h
  attends h hb ha := ha.counting hb h

theorem counting_opened (r : Runner) :
    Counting r.nextRun r.tasks r.startIndex (.before (r.tasks.drop r.startIndex))
      (tells r (r.opened.setPhase .running)) (r.opened.setPhase .running) := by
  have hzero : Counts r.nextRun.options r.tasks 0 [] r.opened :=
    ⟨fun _ => ⟨rfl, rfl, rfl, rfl⟩, fun _ => rfl, rfl, rfl⟩
  have hl := r.opened.isPhase_setPhase .running
  have htells : tells r (r.opened.setPhase .running) ++ [] =
      tells r (r.opened.setPhase .running) := List.append_nil _
  obtain ⟨j, e⟩ := r.opened.setPhase_eq .running
  refine ⟨r.bracketing_opened, ?_, by rintro a ⟨⟩⟩
  rw [← htells]
  exact hzero.others (fun m hm => (hl m hm).isOther) (by rw [e]) (by rw [e]) (by rw [e]; rfl)

/-! ## After a calm schedule -/

theorem Calm.of_append {s s' : List Input} (h : r.Calm (s ++ s')) :
    r.Calm s ∧ (r.after s).Calm s' := by
  induction s generalizing r with
  | nil => exact ⟨trivial, h⟩
  | cons i s ih => exact ⟨⟨h.1, (ih h.2).1⟩, (ih h.2).2⟩

/-- In an idle runner a calm schedule changes no counter. -/
theorem Idle.counters_calm (h : r.Idle) {s : List Input} (hs : r.Calm s) :
    (r.after s).metrics = r.metrics ∧ ∃ phase, (r.after s).status = { r.status with phase } := by
  induction s generalizing r with
  | nil => exact ⟨rfl, _, rfl⟩
  | cons i s ih =>
    obtain ⟨h', ha⟩ := h.step_harmless hs.1
    have hm := Inv.metrics_step (.inl h) hs.1 fun run b w hp => absurd hp h.not_inProgress
    obtain ⟨hmetrics, phase, hstatus⟩ := ih h' hs.2
    refine ⟨hmetrics.trans hm, phase, hstatus.trans ?_⟩
    rw [ha.status_eq]

/-- The counters after a play that began in a state `r`, where `d` is its diary: those of the diary,
and once it is over those that it finished with. -/
structure Counted (r : Runner) (d : List Moment) (q : Runner) : Prop
    extends Counts r.options r.tasks 0 d q where
  cursor_eq : q.status.cursor = r.startIndex + passed r.options d
  finished : q.status.executing = false → ∃ l, d = .told (.finished q.metrics) :: l

/-- **The counters after a play are those of its diary**, as long as nothing else is begun, loaded
or reset. -/
theorem Idle.counted (h : r.Idle) (hp : r.play = .ok r') {s : List Input} (hs : r'.Calm s) :
    Counted r (diary r.plays (.play :: s) r) (r'.after s) := by
  have hd := h.diary_play hp
  cases h.play_becomes hp (counting_keeps _ _ _) r.counting_opened s with
  | going hprog hI =>
    rw [← hd] at hI
    refine ⟨hI.counts, hI.cursor_eq, fun he => ?_⟩
    rw [hprog.executing] at he
    cases he
  | @ended s hidle hI s' hsame =>
    obtain ⟨hmetrics, phase, hstatus⟩ := hidle.counters_calm hs.of_append.2
    rw [← hd] at hI
    rw [h.diary_play_congr hp hsame, after_append]
    have hcounts := hI.counts.others (List.forall_mem_nil _) hmetrics (by rw [hstatus])
      (by rw [hstatus])
    refine ⟨hcounts, ?_, fun _ => ?_⟩
    · rw [hstatus]
      exact hI.cursor_eq
    · obtain ⟨l, hl, -⟩ := hI.staged
      exact ⟨l, hmetrics ▸ hl⟩
  | abandoned hprog hI s' => exact absurd rfl hs.of_append.2.1.1

end Counting

end Runner

end MotionScript
