import MotionScript.Proofs.Run.Termination

/-!
# A pause acts between two commands

A run that is asked to pause carries its command through: it sends what is left of it, with the
holds between and the spacing after, unless it fails. Then it is suspended before its next command,
until it is asked to go on.

* `Yields`: what comes about between two states without a command being begun.
* `Moves`: what a run that is asked to pause does when something lets it go on.
* `StillWithin`: it is in its command still.
* `AfterPause`, `Carrying.stage`: what has become of its command, whatever has come since the pause.
* `PausesBetween`: pauses act between commands, and change nothing that is sent or completed.
* **`after_pausesBetween`**: they do after every schedule.
-/

namespace MotionScript

/-- The task in progress, once a step of it is done. -/
def Blocked.next? : Blocked → Wake → Option Attempt
  | .calling a _, .answered (.ok reply) =>
    if reply.success then some { a with retries := a.retries + reply.retries, sent := true }
    else none
  | .holding a _, .elapsed | .waiting a _ _ _, .signalled => some a
  | _, _ => none

theorem Blocked.next?_eq {b : Blocked} {w : Wake} {a : Attempt} (h : b.next? w = some a) :
    a.steps = b.left ∧ b.ahead = b.left.length + 1 ∧
      ∃ a', b.attempt? = some a' ∧ a'.task = a.task := by
  cases b with
  | paused | spacing => cases h
  | calling a' text =>
    cases w with
    | answered reply =>
      cases reply with
      | error fault => cases h
      | ok reply =>
        simp only [Blocked.next?] at h
        split at h
        · cases h
          exact ⟨rfl, rfl, a', rfl, rfl⟩
        · cases h
    | elapsed | signalled | released => cases h
  | holding a' d | waiting a' wait d told =>
    cases w <;> cases h
    exact ⟨rfl, rfl, _, rfl, rfl⟩

namespace Runner

/-- A schedule in which a run that is asked to pause is not asked to go on, stopped or reset, and
nothing is loaded or begun, unless in vain. -/
structure Pausing (s : List Input) (r : Runner) : Prop where
  unpause : .unpause ∉ s
  stop : .stop ∉ s
  calm : r.Calm s

/-- What comes about between two states without a command being begun. -/
structure Yields (p passed : Nat) (done : List Nat) (sends : List (String × Nat))
    (errors : List String) (r r' : Runner) : Prop extends
    Accrues p passed done sends errors r r' where
  unstarted : Adds (fun e => ¬ e.IsStart) r r'

/-- A run completes the command at the cursor, and is suspended before the next one. -/
structure Completes (run : Run) (r r' : Runner) : Prop where
  suspended : r'.Suspended run
  yields : Yields run.id 1 [r.status.cursor] [] [] r r'

/-- The command at the cursor fails. The run is suspended before it, or before the next one if it
leaves it out, or it is over. -/
structure Breaks (run : Run) (text : String) (r r' : Runner) : Prop where
  halts : if run.options.pauseOnError || run.options.skipErrors then r'.Suspended run
    else r'.status.executing = false
  yields : Yields run.id run.options.skips.toNat [] [] [text] r r'

/-- A run is blocked within its command, and asked to pause. -/
structure Blocks (run : Run) (b : Blocked) (sends : List (String × Nat)) (r r' : Runner) :
    Prop where
  current_eq : r'.current = [(run, b)]
  phase_eq : r'.status.phase = .paused
  yields : Yields run.id 0 [] sends [] r r'

/-- What a run does once a step of its command is done: it begins the next one, or keeps the
spacing, or completes the command. -/
def GoesOn (run : Run) (a : Attempt) (r r' : Runner) : Prop :=
  match a.steps with
  | s :: steps =>
    Blocks run (r.blockedIn run { a with steps } s) (s.sends run.options.maxRetries) r r'
  | [] =>
    if a.sent ∧ 0 < run.options.spacing then
      Blocks run (.spacing a (r.clock + run.options.spacing)) [] r r'
    else Completes run r r'

/-- What a run that is asked to pause does when something lets it go on. -/
inductive Moves (run : Run) (b : Blocked) (w : Wake) (r r' : Runner) : Prop where
  | goesOn {a : Attempt} (h : b.next? w = some a) (hg : GoesOn run a r r')
  | completes {a : Attempt} {d : Nat} (hb : b = .spacing a d) (hc : Completes run r r')
  | breaks {a : Attempt} {e : Failure} (ha : b.attempt? = some a)
    (h : b.failure? run.options w = some e) (hb : Breaks run (failureText a.task e) r r')

/-- A run was asked to pause in a state `r₀`, and is still in the command in which it was. -/
structure StillWithin (run : Run) (b₀ b : Blocked) (r₀ r : Runner) : Prop where
  current_eq : r.current = [(run, b)]
  phase_eq : r.status.phase = .paused
  task : ∃ a, b.attempt? = some a ∧ r.tasks[r.status.cursor]? = some a.task
  left : b.left <:+ b₀.left
  yields : ∃ sent, Yields run.id 0 [] sent [] r₀ r ∧
    sent ++ b.owes run.options.maxRetries = b₀.owes run.options.maxRetries
  /-- A hold and a spacing last until their deadline. -/
  lasts : ∀ w a d, b = .holding a d ∨ b = .spacing a d →
    (r.allows run b w ↔ w = .elapsed ∧ d ≤ r.clock)
  moves : ∀ w, r.allows run b w → Moves run b w r (r.wake run.id w)
  /-- It can complete its command although it is asked to pause. -/
  finishes : ∃ s, r.Pausing s ∧ (r.after s).Suspended run ∧
    Yields run.id 1 [r.status.cursor] (b.owes run.options.maxRetries) [] r (r.after s)
  /-- It can be asked to go on. -/
  resumes : ∃ r', r.unpause = some r' ∧ r'.current = r.current ∧ r'.control = .run ∧
    Yields run.id 0 [] [] [] r r'

/-- What has become of a run that was asked to pause in a state `r₀`. -/
inductive AfterPause (run : Run) (b₀ : Blocked) (r₀ r : Runner) : Prop where
  /-- It was between two commands, and still is. -/
  | between (hb : b₀.attempt? = none) (hs : r.Suspended run) (hy : Yields run.id 0 [] [] [] r₀ r)
  | within {b : Blocked} (hw : StillWithin run b₀ b r₀ r)
  | completed {a : Attempt} (ha : b₀.attempt? = some a) (hs : r.Suspended run)
    (hy : Yields run.id 1 [r₀.status.cursor] (b₀.owes run.options.maxRetries) [] r₀ r)
  | broken {a : Attempt} {e : Failure} {sent : List (String × Nat)} (ha : b₀.attempt? = some a)
    (hsent : sent <+: b₀.owes run.options.maxRetries)
    (hh : if run.options.pauseOnError || run.options.skipErrors then r.Suspended run
      else r.status.executing = false)
    (hy : Yields run.id run.options.skips.toNat [] sent [failureText a.task e] r₀ r)

/-- A run that was asked to pause in a state `r₀` carries its command through. -/
structure Carrying (run : Run) (b₀ b : Blocked) (r₀ r : Runner) : Prop where
  inProgress : r.InProgress run b
  control : r.control = .pause
  attempt : ∃ a a₀, b.attempt? = some a ∧ b₀.attempt? = some a₀ ∧ a.task = a₀.task
  left : b.left <:+ b₀.left
  yields : ∃ sent, Yields run.id 0 [] sent [] r₀ r ∧
    sent ++ b.owes run.options.maxRetries = b₀.owes run.options.maxRetries

section Pause

variable {run : Run} {b b₀ : Blocked} {w : Wake} {i : Input} {a : Attempt} {p n n' : Nat}
  {done done' : List Nat} {sends sends' : List (String × Nat)} {errors errors' : List String}
  {s s' : List Input} {r r' r'' r₀ q : Runner}

/-! ## What comes about without a command being begun -/

theorem Yields.trans (h : Yields p n done sends errors r r')
    (h' : Yields p n' done' sends' errors' r' r'') :
    Yields p (n + n') (done ++ done') (sends ++ sends') (errors ++ errors') r r'' :=
  { h.toAccrues.trans h'.toAccrues with unstarted := h.unstarted.trans h'.unstarted }

theorem Yields.refl (p : Nat) (r : Runner) : Yields p 0 [] [] [] r r :=
  { Accrues.refl p r with unstarted := .refl _ r }

theorem Adds.yields (h : Adds Entry.IsRemark r r') (htasks : r'.tasks = r.tasks)
    (hcursor : r'.status.cursor = r.status.cursor) (herrors : r'.status.errors = r.status.errors)
    (p : Nat) : Yields p 0 [] [] [] r r' :=
  { h.accrues htasks hcursor herrors p with unstarted := h.mono fun _ he => he.not_isStart }

theorem Aside.yields (h : Aside i r r') (p : Nat) : Yields p 0 [] [] [] r r' :=
  h.remarked.yields h.tasks_eq h.cursor_eq h.errors_eq p

theorem Departs.yields {x : Place} (hd : Departs run r b w (x, r')) (p : Nat) :
    Yields p 0 [] [] [] r r' :=
  { hd.accrues p with unstarted := hd.remarks.mono fun _ he => he.not_isStart }

theorem yields_perform (r : Runner) (run : Run) (a : Attempt) (s : Step) :
    Yields run.id 0 [] (s.sends run.options.maxRetries) [] r (r.perform run a s) :=
  { accrues_perform r run a s with
    unstarted := Adds.perform (.refl _ r) a (fun _ => id) (fun _ _ => id) fun _ _ => id }

theorem yields_complete (r : Runner) (run : Run) (a : Attempt) (p : Nat) :
    Yields p 1 [r.status.cursor] [] [] r (r.complete run a) :=
  { accrues_complete r run a p with
    unstarted := Adds.complete (.refl _ r) a fun _ _ => id }

theorem yields_skip (r : Runner) (p : Nat) : Yields p 1 [] [] [] r r.skip where
  tasks_eq := rfl
  cursor_eq := rfl
  completions_eq := (List.append_nil _).symm
  sends_eq := (List.append_nil _).symm
  errors_eq := (List.append_nil _).symm
  unstarted := .of_eq rfl

theorem yields_setMode (r : Runner) (c : Control) (p : Nat) :
    Yields p 0 [] [] [] r (setPhase c.phase { r with control := c }) := by
  have hadds : Adds Entry.IsRemark r (setPhase c.phase { r with control := c }) :=
    Adds.setPhase (.of_eq rfl) trivial
  obtain ⟨j, e⟩ := setPhase_eq { r with control := c } c.phase
  exact hadds.yields (by rw [e]) (by rw [e]) (by rw [e]) p

theorem Reports.yields {e : Failure} (h : Reports a e r q) (p : Nat) :
    Yields p 0 [] [] [failureText a.task e] r q := by
  obtain ⟨before, hj, hb⟩ := h.journal
  have hadds : Adds (fun x => x.IsRemark ∨ x.IsFailure) r q := by
    refine ⟨_ :: before, hj, fun x hx => ?_⟩
    rcases List.mem_cons.1 hx with rfl | hx
    · exact .inr trivial
    · exact .inl (hb x hx)
  have hfailure {x : Entry} (hx : x.IsFailure) :
      x.completed? = none ∧ ¬ x.Begins ∧ ¬ x.IsStart := by
    cases x with
    | event x => cases x <;> first | exact ⟨rfl, id, id⟩ | cases hx
    | sent | ended => cases hx
  refine ⟨⟨h.tasks_eq, h.cursor_eq, ?_, ?_, h.errors_eq⟩, ?_⟩
  · rw [hadds.completions_eq fun x hx => hx.elim (·.completed?) fun hx => (hfailure hx).1,
      List.append_nil]
  · rw [hadds.sendsOf_eq fun x hx => hx.elim (·.not_begins) fun hx => (hfailure hx).2.1,
      List.append_nil]
  · exact hadds.mono fun x hx => hx.elim (·.not_isStart) fun hx => (hfailure hx).2.2

/-! ## A run that is asked to pause goes on -/

theorem complete_completes (hc : r.control = .pause) (he : run.epoch = r.epoch)
    (h : ((r.complete run a).advance run a.later).Inv) :
    Completes run r ((r.complete run a).advance run a.later) := by
  have hs : Silent r (r.complete run a) := .complete (.refl r) a
  have hpause : (r.complete run a).control = .pause := hs.control_eq.trans hc
  refine ⟨advance_suspended hpause (he.trans hs.epoch_eq.symm) h, ?_⟩
  have hb : Adds Entry.IsRemark (r.complete run a)
      ((r.complete run a).block run (.paused a.later)) := .of_eq rfl
  rw [advance_pause hpause]
  exact (yields_complete r run a run.id).trans (hb.yields rfl rfl rfl run.id)

theorem resume_goesOn (hc : r.control = .pause) (he : run.epoch = r.epoch)
    (h : (r.resume run a).Inv) : GoesOn run a r (r.resume run a) := by
  have hgo : r.MayGoOn run := ⟨by rw [hc]; decide, he⟩
  cases hs : a.steps with
  | cons s steps =>
    have e : r.resume run a = r.perform run { a with steps } s := by
      simp only [Runner.resume, hs, hgo, if_true]
    have hf := (Frame.refl run r).perform { a with steps } s
    have hpause : (r.perform run { a with steps } s).control = .pause := by
      obtain ⟨_, _, _, _, _, _, e⟩ := r.perform_eq run { a with steps } s
      rwa [e]
    simp only [GoesOn, hs]
    rw [e] at h ⊢
    have hp := h.inProgress_of_mem (mem_runs_perform _ _) (he.trans hf.epoch_eq.symm)
    exact ⟨hp.current_eq, hp.phase_of_pause hpause, yields_perform r run _ s⟩
  | nil =>
    by_cases hspace : a.sent = true ∧ 0 < run.options.spacing
    · have e : r.resume run a = r.block run (.spacing a (r.clock + run.options.spacing)) := by
        simp only [Runner.resume, hs, hspace, hgo, and_self, if_true]
      have hadds : Adds Entry.IsRemark r
          (r.block run (.spacing a (r.clock + run.options.spacing))) := .of_eq rfl
      simp only [GoesOn, hs, if_pos hspace]
      rw [e] at h ⊢
      have hp := h.inProgress_of_mem (List.mem_append_right _ (List.mem_singleton_self _)) he
      exact ⟨hp.current_eq, hp.phase_of_pause hc, hadds.yields rfl rfl rfl _⟩
    · have e : r.resume run a = (r.complete run a).advance run a.later := by
        simp only [Runner.resume, hs]
        rw [if_neg fun hn => hspace ⟨hn.1, hn.2.1⟩, conclude_eq he]
      simp only [GoesOn, hs, if_neg hspace]
      rw [e] at h ⊢
      exact complete_completes hc he h

theorem Completes.of_yields (h : Completes run q r') (hq : Yields run.id 0 [] [] [] r q) :
    Completes run r r' := by
  have hcursor : q.status.cursor = r.status.cursor := hq.cursor_eq
  have hy := hq.trans h.yields
  rw [hcursor] at hy
  exact ⟨h.suspended, by simpa using hy⟩

theorem Blocks.of_yields (h : Blocks run b sends q r') (hq : Yields run.id 0 [] [] [] r q) :
    Blocks run b sends r r' :=
  ⟨h.current_eq, h.phase_eq, by simpa using hq.trans h.yields⟩

theorem GoesOn.of_yields (h : GoesOn run a q r') (hq : Yields run.id 0 [] [] [] r q)
    (hclock : q.clock = r.clock) (hwaits : q.waits = r.waits) : GoesOn run a r r' := by
  cases hs : a.steps with
  | cons s steps =>
    have hblocked : q.blockedIn run { a with steps } s = r.blockedIn run { a with steps } s := by
      cases s <;> simp only [blockedIn, hclock, hwaits]
    simp only [GoesOn, hs, hblocked] at h ⊢
    exact h.of_yields hq
  | nil =>
    simp only [GoesOn, hs, hclock] at h ⊢
    split at h
    · next hspace => exact if_pos hspace ▸ h.of_yields hq
    · next hspace => exact if_neg hspace ▸ h.of_yields hq

theorem Policy.breaks {e : Failure} (h : Policy run e q r') (hu : Unreported q r')
    (hr : Reports a e r q) (hc : q.control = .pause) :
    Breaks run (failureText a.task e) r r' := by
  have hy := hr.yields run.id
  unfold Policy at h
  cases ho : run.options.pauseOnError with
  | true =>
    simp only [ho, if_true, hc, reduceCtorEq, if_false] at h
    obtain ⟨hs, htasks, hcursor, hadds⟩ := h
    refine ⟨by simpa [ho] using hs, ?_⟩
    simpa [Options.skips, ho] using hy.trans (hadds.yields htasks hcursor hu.errors_eq _)
  | false =>
    cases hk : run.options.skipErrors with
    | true =>
      simp only [ho, hk, Bool.false_eq_true, if_true, if_false, LeavesOut, hc] at h
      obtain ⟨hs, htasks, hcursor, hadds⟩ := h
      refine ⟨by simpa [ho, hk] using hs, ?_⟩
      have hrest : Yields run.id 0 [] [] [] q.skip r' :=
        Adds.yields (r := q.skip) hadds htasks hcursor hu.errors_eq _
      simpa [Options.skips, ho, hk] using hy.trans ((yields_skip q run.id).trans hrest)
    | false =>
      simp only [ho, hk, Bool.false_eq_true, if_false] at h
      have he := h.1
      refine ⟨by simpa [ho, hk] using he.executing, ?_⟩
      simpa [Options.skips, ho, hk] using
        hy.trans (he.remarks.yields he.tasks_eq he.cursor_eq hu.errors_eq _)

/-- **What a run that is asked to pause does when something lets it go on.** -/
theorem InProgress.moves (h : r.InProgress run b) (hc : r.control = .pause)
    (ha : r.allows run b w) : Moves run b w r (r.wake run.id w) := by
  cases hf : b.failure? run.options w with
  | some e =>
    obtain ⟨a, q, hatt, hr, hu, -, hpolicy⟩ := h.fails ha hf
    exact .breaks hatt hf (hpolicy.breaks hu hr (hr.control_eq.trans hc))
  | none =>
    obtain ⟨⟨p, q⟩, hd⟩ := h.departs ha
    have hepoch : run.epoch = (r.without run.id).epoch := h.epoch_eq
    have hgo : (r.without run.id).goOn run b w = carry run p q := hd.goOn_eq hepoch
    have hinv : (carry run p q).Inv := hgo ▸ h.goOn ha
    have hpause : q.control = .pause := hd.silent.control_eq.trans hc
    have he : run.epoch = q.epoch := hepoch.trans hd.silent.epoch_eq.symm
    have hy : Yields run.id 0 [] [] [] r q := { hd.yields run.id with }
    have hsame : q.clock = r.clock ∧ q.waits = r.waits := by
      obtain ⟨slot, start, timeouts, phase, j, e⟩ := hd.eq
      rw [e]
      exact ⟨rfl, rfl⟩
    rw [Inv.wake_eq (.inr ⟨run, b, h⟩) h.mem ha, hgo]
    cases hd with
    | released todo => exact absurd ha (not_allows_paused hc _ _)
    | cut _ _ hstop | cancelled _ _ _ _ hstop =>
      rw [show (r.without run.id).control = r.control from rfl, hc] at hstop
      cases hstop
    | rejected a text hs => simp [Blocked.failure?, hs] at hf
    | unanswered | timedOut => cases hf
    | accepted a text hs =>
      exact .goesOn (by simp only [Blocked.next?, hs, if_true])
        ((resume_goesOn hpause he hinv).of_yields hy hsame.1 hsame.2)
    | held | signalled =>
      exact .goesOn rfl ((resume_goesOn hpause he hinv).of_yields hy hsame.1 hsame.2)
    | spaced a d w =>
      have e : carry run (.done a) (r.without run.id) =
          ((r.without run.id).complete run a).advance run a.later := conclude_eq he a .done
      rw [e] at hinv ⊢
      exact .completes rfl ((complete_completes hpause he hinv).of_yields hy)

/-! ## As long as a run is asked to pause -/

theorem Pausing.cons (h : r.Pausing (i :: s)) :
    i ≠ .unpause ∧ i ≠ .stop ∧ i ≠ .reset ∧ (r.step i).Pausing s := by
  obtain ⟨hunpause, hstop, hi, hs⟩ := h
  rw [List.mem_cons, not_or] at hunpause hstop
  exact ⟨Ne.symm hunpause.1, Ne.symm hstop.1, hi.1, hunpause.2, hstop.2, hs⟩

theorem Pausing.single (hi : i ≠ .unpause ∧ i ≠ .stop ∧ i ≠ .reset ∧ i ≠ .play)
    (hl : ¬ i.IsLoad) : r.Pausing [i] where
  unpause hm := hi.1 (List.mem_singleton.1 hm).symm
  stop hm := hi.2.1 (List.mem_singleton.1 hm).symm
  calm := ⟨harmless_of_ne hi.2.2.1 hi.2.2.2 hl, trivial⟩

theorem Calm.append (hs : r.Calm s) (hs' : (r.after s).Calm s') : r.Calm (s ++ s') := by
  induction s generalizing r with
  | nil => exact hs'
  | cons i s ih => exact ⟨hs.1, ih hs.2 hs'⟩

theorem Calm.reset_notMem (hs : r.Calm s) : .reset ∉ s := by
  induction s generalizing r with
  | nil => exact List.not_mem_nil
  | cons i s ih => exact List.not_mem_cons_of_ne_of_not_mem (Ne.symm hs.1.1) (ih hs.2)

theorem Pausing.append (h : r.Pausing s) (h' : (r.after s).Pausing s') : r.Pausing (s ++ s') where
  unpause hm := (List.mem_append.1 hm).elim h.unpause h'.unpause
  stop hm := (List.mem_append.1 hm).elim h.stop h'.stop
  calm := h.calm.append h'.calm

theorem pausing_of_external (h : ∀ i ∈ s, i.IsExternal) : r.Pausing s where
  unpause hm := h _ hm
  stop hm := h _ hm
  calm := by
    induction s generalizing r with
    | nil => trivial
    | cons i s ih =>
      exact ⟨harmless_of_external (h i List.mem_cons_self),
        ih fun j hj => h j (List.mem_cons_of_mem _ hj)⟩

theorem Suspended.after (h : r.Suspended run) (hinv : r.Inv) (hs : r.Pausing s) :
    (r.after s).Suspended run ∧ Yields run.id 0 [] [] [] r (r.after s) := by
  obtain ⟨hp, htasks, hcursor, herrors, hadds⟩ := h.lasts s hs.unpause hs.stop hs.calm.reset_notMem
  exact ⟨(hinv.after s).suspended hp, hadds.yields htasks hcursor herrors _⟩

theorem Breaks.after {text : String} (h : Breaks run text r r') (hinv : r'.Inv)
    (hs : r'.Pausing s) : Breaks run text r (r'.after s) := by
  have hhalts := h.halts
  split at hhalts
  · next ho =>
    obtain ⟨hsus, hy⟩ := hhalts.after hinv hs
    exact ⟨if_pos ho ▸ hsus, by simpa using h.yields.trans hy⟩
  · next ho =>
    obtain ⟨hidle, htasks, hcursor, herrors, hadds⟩ := (hinv.idle hhalts).after_calm hs.calm
    exact ⟨if_neg ho ▸ hidle.executing,
      by simpa using h.yields.trans (hadds.yields htasks hcursor herrors _)⟩

/-- What a run that is asked to pause has sent since is some of what it is still to send. -/
theorem Carrying.step (h : Carrying run b₀ b r₀ r) {b' : Blocked} {sent : List (String × Nat)}
    (hp : r'.InProgress run b') (hc : r'.control = .pause)
    (hatt : ∃ a a', b'.attempt? = some a ∧ b.attempt? = some a' ∧ a.task = a'.task)
    (hleft : b'.left <:+ b.left) (hy : Yields run.id 0 [] sent [] r r')
    (hsent : sent ++ b'.owes run.options.maxRetries = b.owes run.options.maxRetries) :
    Carrying run b₀ b' r₀ r' where
  inProgress := hp
  control := hc
  attempt := by
    obtain ⟨a, a', ha, ha', htask⟩ := hatt
    obtain ⟨a₁, a₀, ha₁, ha₀, htask'⟩ := h.attempt
    cases ha'.symm.trans ha₁
    exact ⟨a, a₀, ha, ha₀, htask.trans htask'⟩
  left := hleft.trans h.left
  yields := by
    obtain ⟨sent₀, hy₀, hsent₀⟩ := h.yields
    exact ⟨sent₀ ++ sent, by simpa using hy₀.trans hy, by rw [List.append_assoc, hsent, hsent₀]⟩

theorem Carrying.blocks {b' : Blocked} {sent : List (String × Nat)} (h : Carrying run b₀ b r₀ r)
    (hb : Blocks run b' sent r r') (hinv : r'.Inv)
    (hatt : ∃ a a', b'.attempt? = some a ∧ b.attempt? = some a' ∧ a.task = a'.task)
    (hleft : b'.left <:+ b.left)
    (hsent : sent ++ b'.owes run.options.maxRetries = b.owes run.options.maxRetries) :
    Carrying run b₀ b' r₀ r' := by
  have hm : (run, b') ∈ r'.current := by
    rw [hb.current_eq]
    exact List.mem_singleton_self _
  have hp := hinv.inProgress_of_mem_current hm
  have hc := (hp.consistent.paused_iff hp.executing).1 hb.phase_eq
  exact h.step hp hc hatt hleft hb.yields hsent

/-- A run that goes on within its command is in it still, or has completed it. -/
theorem Carrying.goesOn (h : Carrying run b₀ b r₀ r) (hnext : b.next? w = some a)
    (hg : GoesOn run a r r') (hinv : r'.Inv) :
    (∃ b', Carrying run b₀ b' r₀ r' ∧ b'.ahead < b.ahead) ∨
      b.left = [] ∧ Completes run r r' := by
  obtain ⟨hleft, hahead, a', hatt, htask⟩ := Blocked.next?_eq hnext
  cases hs : a.steps with
  | cons s steps =>
    simp only [GoesOn, hs] at hg
    have hl : b.left = s :: (r.blockedIn run { a with steps } s).left := by
      rw [← hleft, hs]
      cases s <;> rfl
    have hatt' : (r.blockedIn run { a with steps } s).attempt? = some { a with steps } := by
      cases s <;> rfl
    refine .inl ⟨_, h.blocks hg hinv ⟨_, a', hatt', hatt, htask.symm⟩
      (hl ▸ List.suffix_cons _ _) ?_, ?_⟩
    · rw [Blocked.owes, Blocked.owes, hl, List.flatMap_cons]
    · rw [hahead, hl]
      cases s <;> exact Nat.lt_succ_self _
  | nil =>
    simp only [GoesOn, hs] at hg
    rw [hs] at hleft
    split at hg
    · refine .inl ⟨_, h.blocks hg hinv ⟨a, a', rfl, hatt, htask.symm⟩ List.nil_suffix ?_, ?_⟩
      · rw [Blocked.owes, Blocked.owes, ← hleft]
        rfl
      · rw [hahead]
        exact Nat.succ_pos _
    · exact .inr ⟨hleft.symm, hg⟩

theorem Carrying.completes (h : Carrying run b₀ b r₀ r) (hleft : b.left = [])
    (hc : Completes run r r') :
    Yields run.id 1 [r₀.status.cursor] (b₀.owes run.options.maxRetries) [] r₀ r' := by
  obtain ⟨sent, hy₀, hsent⟩ := h.yields
  have hcursor : r.status.cursor = r₀.status.cursor := hy₀.cursor_eq
  rw [Blocked.owes, hleft, List.flatMap_nil, List.append_nil] at hsent
  subst hsent
  simpa [hcursor] using hy₀.trans hc.yields

/-- What a run waits for within its command comes, and the run is in its command still. -/
theorem Enabled.carrying {b' : Blocked} (he : Enabled run b b' s w r) (h : r.InProgress run b)
    (hc : r.control = .pause) (hatt : b.attempt? = some a) :
    Carrying run b b' r (r.after s) := by
  have hcarry : Carrying run b b r r := ⟨h, hc, ⟨a, a, hatt, hatt, rfl⟩, List.suffix_refl _,
    [], .refl _ r, rfl⟩
  obtain ⟨hattempt, hleft, -⟩ := he.left_eq
  have hadds : Adds Entry.IsRemark r (r.after s) := .of_eq he.journal_eq
  refine hcarry.step he.inProgress (he.control_eq.trans hc)
    ⟨a, a, hattempt.trans hatt, hatt, rfl⟩ (hleft ▸ List.suffix_refl _)
    (hadds.yields he.tasks_eq (by rw [he.status_eq]) (by rw [he.status_eq]) _) ?_
  rw [Blocked.owes, Blocked.owes, hleft]
  rfl

/-- **A run that is asked to pause can complete its command.** The induction is on the steps that
are not begun. -/
theorem InProgress.finishes (h : r.InProgress run b) (hc : r.control = .pause)
    (hatt : b.attempt? = some a) : ∃ s, r.Pausing s ∧ (r.after s).Suspended run ∧
      Yields run.id 1 [r.status.cursor] (b.owes run.options.maxRetries) [] r (r.after s) := by
  induction hn : b.ahead using Nat.strongRecOn generalizing a b r with
  | ind n ih =>
    obtain ⟨b', s, w, he⟩ := h.enabled (.inl ⟨a, hatt⟩)
    have hcarry := he.carrying h hc hatt
    obtain ⟨-, -, hahead, -⟩ := he.left_eq
    have hwake : r.Pausing (s ++ [.wake run.id w]) :=
      (pausing_of_external he.external).append (.single (by simp) id)
    have hafter : r.after (s ++ [.wake run.id w]) = (r.after s).wake run.id w :=
      r.after_concat s _
    have hinv : ((r.after s).wake run.id w).Inv := Inv.wake (.inr ⟨_, _, hcarry.inProgress⟩) _ _
    have hdone (hleft : b'.left = []) (hc' : Completes run (r.after s)
        ((r.after s).wake run.id w)) : ∃ s, r.Pausing s ∧ (r.after s).Suspended run ∧
        Yields run.id 1 [r.status.cursor] (b.owes run.options.maxRetries) [] r (r.after s) := by
      refine ⟨_, hwake, ?_⟩
      rw [hafter]
      exact ⟨hc'.suspended, hcarry.completes hleft hc'⟩
    cases hcarry.inProgress.moves hcarry.control he.allows with
    | completes hb hc' => exact hdone (by rw [hb]; rfl) hc'
    | breaks _ hf => simp [he.unfailing] at hf
    | goesOn hnext hg =>
      rcases hcarry.goesOn hnext hg hinv with ⟨b'', h'', hlt⟩ | ⟨hleft, hc'⟩
      · -- it is in its command still, with fewer steps ahead
        obtain ⟨a'', -, ha'', -⟩ := h''.attempt
        obtain ⟨sent, hy₀, hsent⟩ := h''.yields
        have hcursor : ((r.after s).wake run.id w).status.cursor = r.status.cursor :=
          hy₀.cursor_eq
        rw [← hafter] at h'' hcursor hy₀
        obtain ⟨s', hs', hsus, hy⟩ :=
          ih b''.ahead (by omega) h''.inProgress h''.control ha'' rfl
        refine ⟨_, hwake.append hs', ?_⟩
        rw [after_append]
        exact ⟨hsus, by simpa [hcursor, hsent] using hy₀.trans hy⟩
      · exact hdone hleft hc'

theorem Carrying.within (h : Carrying run b₀ b r₀ r) : StillWithin run b₀ b r₀ r where
  current_eq := h.inProgress.current_eq
  phase_eq := h.inProgress.phase_of_pause h.control
  task := by
    obtain ⟨a, -, ha, -⟩ := h.attempt
    exact ⟨a, ha, (h.inProgress.consistent.attempt _ h.inProgress.mem_current a ha).2.1⟩
  left := h.left
  yields := h.yields
  lasts w a d hb := by
    have hgo : r.MayGoOn run := ⟨by rw [h.control]; decide, h.inProgress.epoch_eq⟩
    rcases hb with rfl | rfl <;> cases w <;> simp [allows, hgo]
  moves _ := h.inProgress.moves h.control
  finishes := by
    obtain ⟨a, -, ha, -⟩ := h.attempt
    exact h.inProgress.finishes h.control ha
  resumes := by
    have hphase := h.inProgress.phase_of_pause h.control
    have hp := h.inProgress.setMode .run
    exact ⟨_, if_pos hphase, hp.current_eq.trans h.inProgress.current_eq.symm,
      control_setMode r .run, yields_setMode r .run _⟩

theorem Carrying.stage_of_completes (h : Carrying run b₀ b r₀ r) (hleft : b.left = [])
    (hc : Completes run r r') (hinv : r'.Inv) (hs : r'.Pausing s) :
    AfterPause run b₀ r₀ (r'.after s) := by
  obtain ⟨a, a₀, -, ha₀, -⟩ := h.attempt
  obtain ⟨hsus, hy⟩ := hc.suspended.after hinv hs
  exact .completed ha₀ hsus (by simpa using (h.completes hleft hc).trans hy)

theorem Carrying.stage_of_breaks {e : Failure} (h : Carrying run b₀ b r₀ r)
    (hatt : b.attempt? = some a) (hb : Breaks run (failureText a.task e) r r') (hinv : r'.Inv)
    (hs : r'.Pausing s) : AfterPause run b₀ r₀ (r'.after s) := by
  obtain ⟨a₁, a₀, ha₁, ha₀, htask⟩ := h.attempt
  cases ha₁.symm.trans hatt
  obtain ⟨sent, hy₀, hsent⟩ := h.yields
  have hafter := hb.after hinv hs
  have htext : failureText a.task e = failureText a₀.task e := by rw [failureText, htask]; rfl
  refine .broken (e := e) ha₀ ⟨_, hsent⟩ hafter.halts ?_
  have hy := hy₀.trans hafter.yields
  rw [htext] at hy
  simpa using hy

/-- What has become of a run that was asked to pause. The induction is on the schedule: its first
input leaves the run where it is, or lets it go on within its command, or completes the command, or
fails it. -/
theorem Carrying.stage (h : Carrying run b₀ b r₀ r) (hs : r.Pausing s) :
    AfterPause run b₀ r₀ (r.after s) := by
  induction s generalizing b r with
  | nil => exact .within h.within
  | cons i s ih =>
    obtain ⟨hunpause, hstop, hreset, hs'⟩ := hs.cons
    have hp := h.inProgress
    have ht := Inv.turn (.inr ⟨run, b, hp⟩) i
    have hinv : (r.step i).Inv := Inv.step (.inr ⟨run, b, hp⟩) i
    rw [after_cons]
    generalize hr' : r.step i = r' at ht hinv hs' ⊢
    cases ht with
    | load _ hidle | idle hidle | play hidle => exact absurd hp hidle.not_inProgress
    | reset => exact absurd rfl hreset
    | @goOn _ _ w h₁ ha =>
      obtain ⟨rfl, rfl⟩ := h₁.unique hp
      have hm := hp.moves h.control ha
      rw [Inv.wake_eq (.inr ⟨run, b, hp⟩) hp.mem ha] at hm
      cases hm with
      | goesOn hnext hg =>
        rcases h.goesOn hnext hg hinv with ⟨b', h', -⟩ | ⟨hleft, hc⟩
        · exact ih h' hs'
        · exact h.stage_of_completes hleft hc hinv hs'
      | completes hb hc =>
        subst hb
        exact h.stage_of_completes rfl hc hinv hs'
      | breaks hatt _ hb => exact h.stage_of_breaks hatt hb hinv hs'
    | @aside _ _ b' _ _ h₁ h₂ hb hw ha =>
      obtain ⟨rfl, rfl⟩ := h₁.unique hp
      rw [← hr'] at h₂
      have hc := hp.pause_of_kept h.control h₂ hw hunpause hstop
      rw [hr'] at h₂ hc
      obtain ⟨a, -, hatt, -⟩ := h.attempt
      obtain ⟨hattempt, hleft, -⟩ := Blocked.left_of_told hb
      refine ih (h.step h₂ hc ⟨a, a, hattempt.trans hatt, hatt, rfl⟩ (hleft ▸ List.suffix_refl _)
        (ha.yields _) ?_) hs'
      rw [Blocked.owes, Blocked.owes, hleft]
      rfl

end Pause

/-- Two commands, paused and let go on now and then. -/
example :
    let c : Command := ⟨.detect, "DETECT", 1, 0, []⟩
    let r := (new { Options.standard with spacing := 0 }).after [.load [c, c], .play]
    let answer : Input := .wake 0 (.answered (.ok (.accepted "")))
    let r₁ := r.after [answer, answer]
    let r₂ := r.after [.pause, .unpause, .pause, answer, .unpause, .pause, .unpause,
      .wake 0 .released, .pause, answer, .unpause, .wake 0 .released]
    r₁.sendsOf 0 = r₂.sendsOf 0 ∧ r₁.completions = [0, 1] ∧ r₂.completions = [0, 1] ∧
      r₁.status.executing = false ∧ r₂.status.executing = false := by
  decide

end Runner

end MotionScript
