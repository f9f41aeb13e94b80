import MotionScript.Proofs.Run.Prompt
import MotionScript.Proofs.Run.Site
import MotionScript.Proofs.Run.Written

/-!
# Signals are neither stored nor shared

There is one slot for all waits of all runs. A signal is taken exactly if a run waits, it releases
that wait and no other, and it is lost otherwise. A wait that is not told anything fails when its
time is over, and not before.

* `Unreported`: a run goes on with its next tasks, which reports no failure and takes no signal.
* `Releases`: what a signal does that is taken.
* `TimesOut`: what becomes of a wait when its time is over.
* `StillWaiting`, `Waiting.after`: a wait that was not told anything, as long as it lasts.
* `SignalExact`: what signals do, and what becomes of waits.
* **`after_signalExact`**: they do after every schedule.
-/

namespace MotionScript

/-- Whether an entry tells that a task failed or that a signal came. -/
def Entry.IsReport : Entry → Prop
  | .event (.failed _ _) | .event .signalled => True
  | _ => False

namespace Runner

/-- A signal that is taken releases one wait, and changes nothing else. -/
structure Releases (run : Run) (a : Attempt) (wait d : Nat) (r r' : Runner) : Prop where
  current_eq : r.current = [(run, .waiting a wait d none)]
  /-- The wait is the whole plan of the command at the cursor. -/
  plan : a.task.steps = [.signal] ∧ r.tasks[r.status.cursor]? = some a.task
  /-- Only this wait is told of the signal. -/
  eq : r' = { r with
    slot := none
    runs := r.runs.map fun x =>
      if x.1.id = run.id then (run, .waiting a wait d (some true)) else x }
  /-- Another signal is lost. -/
  lost : r'.signal = none
  /-- The signal lets the run go on at once, and nothing else does. -/
  allows_iff : ∀ w, r'.allows run (.waiting a wait d (some true)) w ↔ w = .signalled
  /-- The run tells of the signal once, and its command is completed. -/
  completed : ∃ later between elapsed, (r'.wake run.id .signalled).journal =
      later ++ .event (.completed r.status.cursor elapsed) ::
        (between ++ .event .signalled :: r.journal) ∧
    ∀ e ∈ later ++ between, ¬ e.IsReport

/-- A wait whose time is over fails. -/
structure TimesOut (run : Run) (a : Attempt) (wait d : Nat) (r r' : Runner) : Prop where
  gone : (run, .waiting a wait d none) ∉ r'.runs
  timeouts_eq : r'.status.syncTimeouts = r.status.syncTimeouts + 1
  errors_eq : r'.status.errors = r.status.errors ++
    [failureText a.task (.syncTimeout (1000 * run.options.syncTimeout))]
  /-- The run tells of the failure once. -/
  failed : ∃ later between, r'.journal =
      later ++ .event (.failed r.status.cursor
        (failureText a.task (.syncTimeout (1000 * run.options.syncTimeout)))) ::
        (between ++ r.journal) ∧
    ∀ e ∈ later ++ between, ¬ e.IsReport

/-- A wait that was found in a state `r₀` is still not told anything, and its time is not over. -/
structure StillWaiting (run : Run) (a : Attempt) (wait d : Nat) (r₀ r : Runner) : Prop where
  current_eq : r.current = [(run, .waiting a wait d none)]
  clock_le : r.clock ≤ d
  timeouts_eq : r.status.syncTimeouts = r₀.status.syncTimeouts
  errors_eq : r.status.errors = r₀.status.errors
  allows_iff : ∀ w, r.allows run (.waiting a wait d none) w ↔ w = .elapsed ∧ r.clock = d
  timesOut : r.clock = d → TimesOut run a wait d r (r.wake run.id .elapsed)

/-- No input of a schedule is a signal that is taken. -/
def Unheard : List Input → Runner → Prop
  | [], _ => True
  | i :: s, r => (i = .signal → r.signal = none) ∧ Unheard s (r.step i)

/-- Signals are neither stored nor shared, and waits last as long as they should. -/
structure SignalExact (r : Runner) : Prop where
  taken_iff : r.Quiet → (r.signal.isSome ↔ ∃ x ∈ r.current, x.2.IsWaiting)
  start_iff : r.status.syncWaitStart.isSome ↔ ∃ x ∈ r.current, x.2.IsWaiting
  releases : ∀ r', r.Quiet → r.signal = some r' → ∃ run a wait d, Releases run a wait d r r'
  lost : r.signal = none → r.step .signal = r
  reset : r.reset.signal = none
  /-- Without a signal that is taken, no wait of this or a later run is released. -/
  unreleased : r.Quiet → ∀ s, r.Unheard s →
    ∀ x ∈ (r.after s).current, ¬ (r.after s).allows x.1 x.2 .signalled
  /-- When a wait begins, its time begins. -/
  armed : ∀ i run a wait d, (run, .waiting a wait d none) ∈ (r.step i).current →
    (run, .waiting a wait d none) ∉ r.current →
    (r.step i).status.syncWaitStart = some ((r.step i).clock : Int) ∧
      d = (r.step i).clock + run.options.syncTimeout ∧ (r.step i).control ≠ .stop
  /-- A wait that is not signalled, stopped or reset lasts until its time is over, and fails
  then. -/
  expires : ∀ run a wait d, (run, .waiting a wait d none) ∈ r.current → r.clock ≤ d →
    r.control ≠ .stop → ∀ s, r.Prompt s → .signal ∉ s → .stop ∉ s → .reset ∉ s →
    StillWaiting run a wait d r (r.after s) ∨
      ∃ s₁ s₂, s = s₁ ++ .wake run.id .elapsed :: s₂ ∧
        StillWaiting run a wait d r (r.after s₁) ∧ (r.after s₁).clock = d

/-! ## A run goes on with its next tasks -/

/-- No failure is reported and no signal is taken between two states. -/
structure Unreported (r r' : Runner) : Prop where
  errors_eq : r'.status.errors = r.status.errors
  timeouts_eq : r'.status.syncTimeouts = r.status.syncTimeouts
  adds : Adds (fun e => ¬ e.IsReport) r r'

section Signal

variable {run : Run} {b : Blocked} {a : Attempt} {wait d : Nat} {i : Input} {r r₀ r' r'' : Runner}

theorem Unreported.trans (h : Unreported r r') (h' : Unreported r' r'') : Unreported r r'' :=
  ⟨h'.errors_eq.trans h.errors_eq, h'.timeouts_eq.trans h.timeouts_eq, h.adds.trans h'.adds⟩

theorem Unreported.of_eq (hs : r'.status = r.status) (hj : r'.journal = r.journal) :
    Unreported r r' :=
  ⟨by rw [hs], by rw [hs], .of_eq hj⟩

theorem unreported_setPhase (r : Runner) (p : Phase) : Unreported r (r.setPhase p) := by
  have hadds : Adds (fun e => ¬ e.IsReport) r (r.setPhase p) := Adds.setPhase (.refl _ r) id
  obtain ⟨j, e⟩ := r.setPhase_eq p
  rw [e] at hadds ⊢
  exact ⟨rfl, rfl, hadds⟩

theorem unreported_finish (r : Runner) (run : Run) (outcome : Except Failure Unit) :
    Unreported r (r.finish run outcome) := by
  have hadds : Adds (fun e => ¬ e.IsReport) r (r.finish run outcome) :=
    Adds.finish (.refl _ r) outcome (fun _ => id) (fun _ => id) fun _ => id
  unfold Runner.finish at hadds ⊢
  split at hadds
  · next he =>
    obtain ⟨m, j, e⟩ := r.close_eq run outcome
    rw [if_pos he]
    rw [e] at hadds ⊢
    exact ⟨rfl, rfl, hadds⟩
  · next he =>
    rw [if_neg he]
    exact ⟨rfl, rfl, hadds⟩

theorem unreported_begin (r : Runner) (t : Task) : Unreported r (r.begin t) := by
  have hadds : Adds (fun e => ¬ e.IsReport) r (r.begin t) :=
    Adds.begin (.refl _ r) t (fun _ => id) id
  obtain ⟨j, e⟩ := r.begin_eq t
  rw [e] at hadds ⊢
  exact ⟨rfl, rfl, hadds⟩

theorem unreported_complete (r : Runner) (run : Run) (a : Attempt) :
    Unreported r (r.complete run a) := by
  have hadds : Adds (fun e => ¬ e.IsReport) r (r.complete run a) :=
    Adds.complete (.refl _ r) a fun _ _ => id
  obtain ⟨m, e⟩ := r.complete_eq run a
  rw [e] at hadds ⊢
  exact ⟨rfl, rfl, hadds⟩

theorem unreported_perform (r : Runner) (run : Run) (a : Attempt) (s : Step) :
    Unreported r (r.perform run a s) := by
  have hadds : Adds (fun e => ¬ e.IsReport) r (r.perform run a s) :=
    Adds.perform (.refl _ r) a (fun _ => id) (fun _ _ => id) fun _ _ => id
  obtain ⟨_, _, _, _, _, _, e⟩ := r.perform_eq run a s
  rw [e] at hadds ⊢
  exact ⟨rfl, rfl, hadds⟩

/-- A run that goes on with its next tasks reports no failure and takes no signal. -/
theorem unreported_advance (r : Runner) (run : Run) (todo : List Task) :
    Unreported r (r.advance run todo) := by
  fun_induction Runner.advance run todo r with
  | case1 => exact .of_eq rfl rfl
  | case2 | case3 | case4 => exact unreported_finish _ run _
  | case5 r hc _ t later ht ih =>
    exact ((unreported_begin r t).trans (unreported_complete _ run _)).trans ih
  | case6 r hc _ t later s steps =>
    exact (unreported_begin r t).trans (unreported_perform _ run _ s)

/-! ## A signal that is taken -/

/-- Where a run has no more to do and waits, it may take a signal. -/
theorem InProgress.slot_of_quiet (h : r.InProgress run b) (hq : r.Quiet) (hb : b.IsWaiting) :
    ∃ a wait d, b = .waiting a wait d none ∧ r.slot = some wait ∧ r.clock < d := by
  have hw := h.awaits (h.rests hq)
  cases b with
  | waiting a wait d told =>
    obtain ⟨rfl, hs, hd⟩ := hw
    exact ⟨a, wait, d, rfl, hs, hd⟩
  | paused | calling | holding | spacing => exact hb.elim

theorem InProgress.signal_isSome_iff (h : r.InProgress run b) (hq : r.Quiet) :
    r.signal.isSome ↔ b.IsWaiting := by
  have hsome : r.signal.isSome ↔ r.slot.isSome := by
    unfold Runner.signal
    split
    · next hs => simp [hs]
    · next hs => simp [hs]
  rw [hsome]
  constructor
  · intro hs
    obtain ⟨w, hw⟩ := Option.isSome_iff_exists.1 hs
    obtain ⟨a, d, rfl⟩ := h.slot_eq hw
    trivial
  · intro hb
    obtain ⟨a, wait, d, -, hs, -⟩ := h.slot_of_quiet hq hb
    rw [hs]
    rfl

theorem InProgress.tellWait_eq (h : r.InProgress run (.waiting a wait d none)) :
    r.tellWait true = { r with
      slot := none
      runs := r.runs.map fun x =>
        if x.1.id = run.id then (run, .waiting a wait d (some true)) else x } := by
  have hs : r.slot = some wait := ((h.roster.member _ h.mem).untold_iff rfl).1 rfl
  have hruns : tell r.slot true r.runs = r.runs.map fun x =>
      if x.1.id = run.id then (run, .waiting a wait d (some true)) else x := by
    rw [hs, tell]
    refine List.map_congr_left fun x hx => ?_
    by_cases hid : x.1.id = run.id
    · rw [if_pos hid, h.roster.eq_of_id_eq hx h.mem hid]
      simp [Blocked.tell]
    · rw [if_neg hid]
      obtain ⟨run', b'⟩ := x
      cases b' with
      | waiting a' wait' d' told' =>
        -- another wait in the slot would be of the run in progress too
        have hne : wait' ≠ wait := by
          rintro rfl
          have hm := h.roster.member _ hx
          have htold := (hm.untold_iff rfl).2 hs
          subst htold
          exact hid (congrArg (·.1.id) (h.eq_of_epoch_eq hx (hm.epoch_of_untold rfl)))
        simp [Blocked.tell, hne]
      | paused | calling | holding | spacing => rfl
  rw [tellWait, hruns]

theorem InProgress.told (h : r.InProgress run (.waiting a wait d none)) :
    (r.tellWait true).InProgress run (.waiting a wait d (some true)) := by
  have hs : r.slot = some wait := ((h.roster.member _ h.mem).untold_iff rfl).1 rfl
  have hinv : (r.tellWait true).Inv := Inv.signal (.inr ⟨_, _, h⟩) (by simp [Runner.signal, hs])
  refine hinv.inProgress_of_mem ?_ h.epoch_eq
  rw [h.tellWait_eq]
  exact List.mem_map.2 ⟨_, h.mem, by simp⟩

theorem InProgress.completed_of_told (h : r.InProgress run (.waiting a wait d (some true)))
    (hsteps : a.steps = []) (hsent : a.sent = false) :
    ∃ later between elapsed, (r.wake run.id .signalled).journal =
        later ++ .event (.completed r.status.cursor elapsed) ::
          (between ++ .event .signalled :: r.journal) ∧
      ∀ e ∈ later ++ between, ¬ e.IsReport := by
  have he : run.epoch = (r.without run.id).epoch := h.epoch_eq
  let q := ((r.without run.id).disarm wait).endWait .signalled
  have hwake : r.wake run.id .signalled = (q.complete run a).advance run a.later := by
    have heq : run.epoch = q.epoch := he.trans (epoch_endWait_disarm _ wait .signalled).symm
    rw [Inv.wake_eq (.inr ⟨_, _, h⟩) h.mem (by simp [allows])]
    change (r.without run.id).leaveWait run a wait .signalled = _
    rw [leaveWait_eq he]
    change q.resume run a = _
    simp only [Runner.resume, hsteps, hsent, Bool.false_eq_true, false_and, if_false]
    rw [conclude_eq heq]
  have hq : ∃ between, q.journal = between ++ .event .signalled :: r.journal ∧
      (∀ e ∈ between, ¬ e.IsReport) ∧ q.status.cursor = r.status.cursor := by
    have key (q' : Runner) : Adds (fun e => ¬ e.IsReport) q'
        (if q'.status.phase = .syncWait then q'.setPhase .running else q') := by
      split
      · exact Adds.setPhase (.refl _ q') id
      · exact .refl _ q'
    obtain ⟨l, e, hl⟩ := key (emit .signalled { (r.without run.id).disarm wait with
      status := { (r.without run.id).status with syncWaitStart := none } })
    obtain ⟨slot, j, e'⟩ := (r.without run.id).endWait_disarm_eq wait .signalled
    refine ⟨l, e, hl, ?_⟩
    change (((r.without run.id).disarm wait).endWait .signalled).status.cursor = _
    rw [e']
    rfl
  obtain ⟨between, hj, hb, hc⟩ := hq
  obtain ⟨m, e⟩ := q.complete_eq run a
  obtain ⟨later, hlater, hl⟩ := (unreported_advance (q.complete run a) run a.later).adds
  refine ⟨later, between, q.clock - a.began, ?_, fun x hx => ?_⟩
  · rw [hwake, hlater, e, ← hj, ← hc]
  · exact (List.mem_append.1 hx).elim (hl x) (hb x)

theorem Reachable.releases (h : r.Reachable) (hq : r.Quiet) (hs : r.signal = some r') :
    ∃ run a wait d, Releases run a wait d r r' := by
  obtain ⟨hsome, rfl⟩ : r.slot.isSome = true ∧ r.tellWait true = r' := by
    simpa [Runner.signal] using hs
  rcases h.inv with hi | ⟨run, b, hp⟩
  · rw [hi.slot_eq] at hsome
    cases hsome
  · obtain ⟨w, hw⟩ := Option.isSome_iff_exists.1 hsome
    obtain ⟨a, d, rfl⟩ := hp.slot_eq hw
    obtain ⟨hplan, hsteps, hsent⟩ := (h.sited hp).1.signal
    have hd : ¬ d ≤ r.clock := by
      obtain ⟨a', w', d', e, -, hd⟩ := hp.slot_of_quiet hq trivial
      cases e
      exact Nat.not_le.2 hd
    have hc : r.control ≠ .stop := by
      intro hc
      obtain ⟨reply, e⟩ := hp.rests hq .released (by simp [allows, hc])
      cases e
    have hcur := hp.consistent.attempt _ hp.mem_current a rfl
    refine ⟨run, a, w, d, hp.current_eq, ⟨hplan, hcur.2.1⟩, hp.tellWait_eq, rfl, fun w' => ?_, ?_⟩
    · have hclock : (r.tellWait true).clock = r.clock := rfl
      have hcontrol : (r.tellWait true).control = r.control := rfl
      cases w' <;> simp [allows, hclock, hcontrol, hd, hc]
    · exact hp.told.completed_of_told hsteps hsent

/-! ## Where a wait begins, and where it goes on -/

end Signal

end Runner

/-- A run that is blocked in a wait has just begun it. -/
def Place.Armed (run : Run) (r : Runner) : Place → Prop
  | .blocked (.waiting _ _ d told) =>
    told = none ∧ r.status.syncWaitStart = some (r.clock : Int) ∧
      d = r.clock + run.options.syncTimeout ∧ r.control ≠ .stop
  | _ => True

namespace Runner

section Wait

variable {run : Run} {b : Blocked} {a : Attempt} {wait d : Nat} {i : Input} {r r₀ r' : Runner}

theorem Stride.armed {p p' : Place} (hs : Stride run (p, r) (p', r')) : p'.Armed run r' := by
  cases hs with
  | @perform _ hc a s steps =>
    cases s with
    | send text | delay ms => trivial
    | signal =>
      obtain ⟨j, e⟩ := r.perform_signal_eq run { a with steps }
      rw [e]
      exact ⟨rfl, rfl, rfl, hc⟩
  | _ => trivial

theorem Departs.armed {w : Wake} {p : Place} (hd : Departs run r b w (p, r')) :
    p.Armed run r' := by
  cases hd <;> trivial

/-- After an input the run in progress has just begun a wait, or does not wait, or is blocked where
it was, up to what it is told. -/
theorem Inv.armed_or_kept (h : r.Inv) (hp : (r.step i).InProgress run b) :
    Place.Armed run (r.step i) (.blocked b) ∨ ∃ b₀, r.InProgress run b₀ ∧
      (b = b₀ ∨ i = .signal ∧ ∃ a wait d, b₀ = .waiting a wait d none ∧
        b = .waiting a wait d (some true)) := by
  rcases h.blocked_or_kept (I := fun p r' => p.Armed run r') hp (fun _ _ => trivial)
    (fun _ _ _ _ _ _ _ hd => hd.armed) (fun _ _ _ _ _ hs => hs.armed) with ha | ⟨b₀, hp₀, hb, -⟩
  · exact .inl ha
  · exact .inr ⟨b₀, hp₀, hb⟩

theorem allows_signalled_iff :
    r.allows run b .signalled ↔ ∃ a wait d, b = .waiting a wait d (some true) := by
  cases b <;> simp [allows]

theorem InProgress.signal_ne_none (h : r.InProgress run (.waiting a wait d none)) :
    r.signal ≠ none := by
  have hs : r.slot = some wait := ((h.roster.member _ h.mem).untold_iff rfl).1 rfl
  simp [Runner.signal, hs]

theorem Inv.unreleased_step (h : r.Inv)
    (hr : ∀ x ∈ r.current, ¬ r.allows x.1 x.2 .signalled)
    (hi : i = .signal → r.signal = none) :
    ∀ x ∈ (r.step i).current, ¬ (r.step i).allows x.1 x.2 .signalled := by
  rintro ⟨run, b⟩ hx hw
  obtain ⟨a, wait, d, rfl⟩ := allows_signalled_iff.1 hw
  have hp := (h.step i).inProgress_of_mem_current hx
  rcases h.armed_or_kept hp with ha | ⟨b₀, hp₀, rfl | ⟨rfl, a', wait', d', rfl, -⟩⟩
  · cases ha.1
  · exact hr _ hp₀.mem_current (allows_signalled_iff.2 ⟨a, wait, d, rfl⟩)
  · exact hp₀.signal_ne_none (hi rfl)

theorem Inv.unreleased_after (h : r.Inv)
    (hr : ∀ x ∈ r.current, ¬ r.allows x.1 x.2 .signalled) {s : List Input} (hs : r.Unheard s) :
    ∀ x ∈ (r.after s).current, ¬ (r.after s).allows x.1 x.2 .signalled := by
  induction s generalizing r with
  | nil => exact hr
  | cons i s ih => exact ih (h.step i) (h.unreleased_step hr hs.1) hs.2

/-! ## A wait whose time is over -/

theorem afterFailure_reports (r : Runner) (run : Run) (a : Attempt) (e : Failure) :
    Unreported (r.fail run a e) (r.afterFailure run a e) := by
  simp only [Runner.afterFailure]
  split
  · refine Unreported.trans ?_ (unreported_advance _ run a.todo)
    split
    · exact .of_eq rfl rfl
    · have hset : Unreported (r.fail run a e) { r.fail run a e with control := .pause } :=
        .of_eq rfl rfl
      exact hset.trans (unreported_setPhase _ _)
  · split
    · have hskip : Unreported (r.fail run a e) (r.fail run a e).skip :=
        ⟨rfl, rfl, .of_eq rfl⟩
      exact hskip.trans (unreported_advance _ run a.later)
    · exact unreported_finish _ run _

theorem InProgress.timesOut (h : r.InProgress run (.waiting a wait d none)) (hd : d ≤ r.clock) :
    TimesOut run a wait d r (r.wake run.id .elapsed) := by
  have he : run.epoch = (r.without run.id).epoch := h.epoch_eq
  have ha : r.allows run (.waiting a wait d none) .elapsed := decide_eq_true hd
  let e : Failure := .syncTimeout (1000 * run.options.syncTimeout)
  let q := ((r.without run.id).disarm wait).endWait .elapsed
  obtain ⟨slot, j, hq⟩ := (r.without run.id).endWait_disarm_eq wait .elapsed
  change q = _ at hq
  have hwake : r.wake run.id .elapsed = q.afterFailure run a e := by
    have heq : run.epoch = q.epoch := he.trans (epoch_endWait_disarm _ wait .elapsed).symm
    rw [Inv.wake_eq (.inr ⟨_, _, h⟩) h.mem ha]
    change (r.without run.id).leaveWait run a wait .elapsed = _
    rw [leaveWait_eq he]
    change q.conclude run a (.failed e) = _
    rw [conclude_eq heq]
  have hadds : Adds (fun e => ¬ e.IsReport) (r.without run.id) q :=
    Adds.endWait (.of_eq rfl) (fun _ => id) (by simp)
  obtain ⟨between, hbetween, hb⟩ := hadds
  have hcursor : q.status.cursor = r.status.cursor := by rw [hq]; rfl
  obtain ⟨herrors, htimeouts, later, hlater, hl⟩ := afterFailure_reports q run a e
  obtain ⟨m, hf⟩ := q.fail_eq run a e
  rw [hf] at herrors htimeouts hlater
  refine ⟨h.notMem_wake ha, ?_, ?_, later, between, ?_, fun x hx => ?_⟩
  · rw [hwake, htimeouts, hq]
    rfl
  · rw [hwake, herrors, hq]
    rfl
  · rw [hwake, hlater, hbetween, hcursor]
    rfl
  · exact (List.mem_append.1 hx).elim (hl x) (hb x)

/-! ## As long as a wait lasts -/

/-- A wait that was found in a state `r₀` goes on: it was not told anything, there was no stop, and
its time is not over. -/
structure Waiting (run : Run) (a : Attempt) (wait d : Nat) (r₀ r : Runner) : Prop where
  inProgress : r.InProgress run (.waiting a wait d none)
  control : r.control ≠ .stop
  clock_le : r.clock ≤ d
  timeouts_eq : r.status.syncTimeouts = r₀.status.syncTimeouts
  errors_eq : r.status.errors = r₀.status.errors

theorem Waiting.allows_iff (h : Waiting run a wait d r₀ r) (w : Wake) :
    r.allows run (.waiting a wait d none) w ↔ w = .elapsed ∧ r.clock = d := by
  have hle := h.clock_le
  cases w with
  | elapsed =>
    simp only [allows, decide_eq_true_eq, true_and]
    omega
  | answered reply | signalled => simp [allows]
  | released => simp [allows, h.control]

theorem Waiting.stillWaiting (h : Waiting run a wait d r₀ r) : StillWaiting run a wait d r₀ r where
  current_eq := h.inProgress.current_eq
  clock_le := h.clock_le
  timeouts_eq := h.timeouts_eq
  errors_eq := h.errors_eq
  allows_iff := h.allows_iff
  timesOut e := h.inProgress.timesOut (Nat.le_of_eq e.symm)

/-- What comes in time leaves a wait as it is, or it is a signal, a stop or a reset, or its time is
over. -/
theorem Waiting.step (h : Waiting run a wait d r₀ r) (hi : r.InTime i) (hsignal : i ≠ .signal)
    (hstop : i ≠ .stop) (hreset : i ≠ .reset) :
    Waiting run a wait d r₀ (r.step i) ∨ i = .wake run.id .elapsed ∧ r.clock = d := by
  have hp := h.inProgress
  have ht := Inv.turn (.inr ⟨_, _, hp⟩) i
  generalize hr' : r.step i = r' at ht ⊢
  cases ht with
  | load _ hidle | idle hidle | play hidle => exact absurd hp hidle.not_inProgress
  | reset => exact absurd rfl hreset
  | goOn h₁ ha =>
    obtain ⟨rfl, rfl⟩ := h₁.unique hp
    obtain ⟨rfl, hd⟩ := (h.allows_iff _).1 ha
    exact .inr ⟨rfl, hd⟩
  | aside h₁ h₂ hb hw ha =>
    obtain ⟨rfl, rfl⟩ := h₁.unique hp
    rcases hb with rfl | ⟨rfl, -⟩
    · refine .inl ⟨h₂, fun hc => ?_, ?_, ?_, ?_⟩
      · exact (ha.stops hc).elim h.control hstop
      · rcases ha.clock_eq with e | ⟨ms, rfl, e⟩
        · rw [e]
          exact h.clock_le
        · rw [e]
          exact hi.2 _ hp.mem_current d rfl
      · exact (congrArg Status.syncTimeouts ha.status_eq).trans h.timeouts_eq
      · exact (congrArg Status.errors ha.status_eq).trans h.errors_eq
    · exact absurd rfl hsignal

/-- A wait that is not signalled, stopped or reset goes on until its time is over. The induction is
on the schedule: its first input leaves the wait as it is, or its time is over. -/
theorem Waiting.after (h : Waiting run a wait d r₀ r) {s : List Input} (hs : r.Prompt s)
    (hsignal : .signal ∉ s) (hstop : .stop ∉ s) (hreset : .reset ∉ s) :
    Waiting run a wait d r₀ (r.after s) ∨ ∃ s₁ s₂, s = s₁ ++ .wake run.id .elapsed :: s₂ ∧
      Waiting run a wait d r₀ (r.after s₁) ∧ (r.after s₁).clock = d := by
  induction s generalizing r with
  | nil => exact .inl h
  | cons i s ih =>
    rw [List.mem_cons, not_or] at hsignal hstop hreset
    rcases h.step hs.1 (Ne.symm hsignal.1) (Ne.symm hstop.1) (Ne.symm hreset.1) with
      h' | ⟨rfl, hd⟩
    · rcases ih h' hs.2 hsignal.2 hstop.2 hreset.2 with hw | ⟨s₁, s₂, rfl, hw⟩
      · exact .inl hw
      · exact .inr ⟨i :: s₁, s₂, rfl, hw⟩
    · exact .inr ⟨[], s, rfl, h, hd⟩

theorem Reachable.signalExact (h : r.Reachable) : r.SignalExact where
  taken_iff hq := by
    rcases h.inv with hi | ⟨run, b, hp⟩
    · simp [Runner.signal, hi.slot_eq, hi.current_eq]
    · rw [hp.signal_isSome_iff hq, hp.current_eq]
      simp
  start_iff := by
    rcases h.inv with hi | ⟨run, b, hp⟩
    · simp [hi.start, hi.current_eq]
    · rw [hp.start, hp.current_eq]
      simp
  releases r' hq hs := h.releases hq hs
  lost hs := by rw [Runner.step, hs]; rfl
  reset := rfl
  unreleased hq s hs := by
    refine h.inv.unreleased_after (fun x hx hw => ?_) hs
    obtain ⟨reply, e⟩ := hq x hx _ hw
    cases e
  armed i run a wait d hm hn := by
    have hp := (h.inv.step i).inProgress_of_mem_current hm
    rcases h.inv.armed_or_kept hp with ha | ⟨b₀, hp₀, rfl | ⟨-, a', wait', d', -, e⟩⟩
    · exact ha.2
    · exact absurd hp₀.mem_current hn
    · cases e
  expires run a wait d hm hd hc s hs hsignal hstop hreset := by
    have hw : Waiting run a wait d r r := ⟨h.inv.inProgress_of_mem_current hm, hc, hd, rfl, rfl⟩
    rcases hw.after hs hsignal hstop hreset with hw | ⟨s₁, s₂, e, hw, hd⟩
    · exact .inl hw.stillWaiting
    · exact .inr ⟨s₁, s₂, e, hw.stillWaiting, hd⟩

end Wait

/-- **After every schedule signals are neither stored nor shared, and waits last as long as they
should.** -/
theorem after_signalExact (o : Options) (s : List Input) : ((new o).after s).SignalExact :=
  ((Reachable.new o).after s).signalExact

end Runner

end MotionScript
