import MotionScript.Proofs.Run.Chronicle
import MotionScript.Proofs.Run.Sequential
import MotionScript.Proofs.Run.Stop

/-!
# Between two commands

A run that is paused is blocked between two commands. It stays there until it is asked to go on, and
goes on with the command at the cursor, from its first step. A play that begins does so as well.

* `Ends`, `Proceeds`: a run is over, or goes on with the command at the cursor.
* `Pauses`, `Suspended`: a run is paused between two commands, and stays so.
* `Calm`: schedules without anything that begins a play, loads something or resets the runner.
* **`InProgress.suspended`**: a paused run stays paused, and sends nothing, until it is asked to go
  on.
* **`Idle.play_proceeds`**: a play begins with the command at the cursor.
-/

namespace MotionScript

theorem Entry.IsRemark.not_begins {e : Entry} (he : e.IsRemark) :
    ¬ e.Begins := by
  cases e with
  | event e => cases e <;> first | exact id | cases he
  | sent => cases he
  | ended => exact id

namespace Runner

/-- A run is over. -/
structure Ends (run : Run) (outcome : Except Failure Unit) (r r' : Runner) : Prop where
  ended : ∃ m, r'.journal.head? = some (.ended run.id (outcome.map fun _ => m))
  current_eq : r'.current = []
  executing : r'.status.executing = false
  phase_eq : r'.status.phase = endPhase outcome
  cursor_eq : r'.status.cursor = r.status.cursor
  tasks_eq : r'.tasks = r.tasks
  remarks : Adds Entry.IsRemark r r'

/-- A run goes on with the command at the cursor, or is over if there is none. -/
structure Proceeds (run : Run) (r r' : Runner) : Prop where
  /-- The command is started first. Then its first step is begun, or it is completed if it has no
  steps. -/
  starts : ∀ t, r.tasks[r.status.cursor]? = some t → ∃ later before,
    r'.journal = later ++ .event (.started r.status.cursor t.command.raw) :: (before ++ r.journal) ∧
    (∀ e ∈ before, e.IsRemark) ∧
    match t.steps with
    | [] => ∃ rest, later = rest ++ [.event (.completed r.status.cursor 0)]
    | s :: steps =>
      r'.current = [(run, r.blockedIn run
        ⟨t, r.tasks.drop (r.status.cursor + 1), steps, 0, false, r.clock⟩ s)] ∧
      r'.status.cursor = r.status.cursor ∧
      r'.sendsOf run.id = r.sendsOf run.id ++ s.sends run.options.maxRetries
  ends : r.tasks[r.status.cursor]? = none → Ends run (.ok ()) r r'

/-- A run is paused before the command at the cursor. -/
structure Pauses (run : Run) (r : Runner) : Prop where
  current_eq : r.current = [(run, .paused (r.tasks.drop r.status.cursor))]
  phase_eq : r.status.phase = .paused
  /-- Nothing lets it go on. -/
  holds : ∀ w, ¬ r.allows run (.paused (r.tasks.drop r.status.cursor)) w
  /-- It can be asked to go on, and does so with the command at the cursor. -/
  resumes : ∃ r', r.unpause = some r' ∧ Proceeds run r (r'.wake run.id .released)

/-- A run is paused before the command at the cursor, and stays so until it is asked to go on,
stopped or reset. In no case it sends anything before it is asked to go on. -/
structure Suspended (run : Run) (r : Runner) : Prop where
  pauses : r.Pauses run
  lasts : ∀ s, .unpause ∉ s → .stop ∉ s → .reset ∉ s → (r.after s).Pauses run ∧
    (r.after s).tasks = r.tasks ∧ (r.after s).status.cursor = r.status.cursor ∧
    (r.after s).status.errors = r.status.errors ∧ Adds Entry.IsRemark r (r.after s)
  silent : ∀ s, .unpause ∉ s → (r.after s).sendsOf run.id = r.sendsOf run.id

/-- An input does not reset the runner, and does not load something or begin a play, unless in
vain. -/
def Harmless (r : Runner) (i : Input) : Prop :=
  i ≠ .reset ∧ (i.IsLoad → r.step i = r) ∧ (i = .play → ∃ e, r.play = .error e)

/-- Every input of a schedule is harmless. -/
def Calm : List Input → Runner → Prop
  | [], _ => True
  | i :: s, r => r.Harmless i ∧ Calm s (r.step i)

section Boundary

variable {run : Run} {todo : List Task} {i : Input} {p : Nat} {r r' q : Runner}

/-! ## What is written and sent -/

theorem Adds.sendsOf_eq {P : Entry → Prop} (h : Adds P r r') (hP : ∀ e, P e → ¬ e.Begins)
    (p : Nat) : r'.sendsOf p = r.sendsOf p := by
  obtain ⟨l, e, hl⟩ := h
  have hnil : (l.filter fun e => e.play? == some p).reverse.filterMap Entry.send? = [] := by
    refine List.filterMap_eq_nil_iff.2 fun x hx => ?_
    have hx := hP x (hl x (List.mem_filter.1 (List.mem_reverse.1 hx)).1)
    cases x with
    | sent => exact absurd trivial hx
    | event | ended => rfl
  rw [sendsOf, entriesOf, e, List.filter_append, List.reverse_append, List.filterMap_append, hnil,
    List.append_nil]
  rfl

theorem sendsOf_perform (r : Runner) (run : Run) (a : Attempt) (s : Step) :
    (r.perform run a s).sendsOf run.id = r.sendsOf run.id ++ s.sends run.options.maxRetries := by
  cases s with
  | send text =>
    simp [sendsOf, entriesOf, perform, block, note, Entry.play?, Entry.send?, Step.sends]
  | delay ms => exact (List.append_nil _).symm
  | signal =>
    have hs : Adds (fun e => ¬ e.Begins) r (r.perform run a .signal) :=
      Adds.perform (.refl _ r) a (fun _ => id) (fun _ _ => id) fun _ e => by cases e
    rw [hs.sendsOf_eq (fun _ => id), Step.sends, List.append_nil]

theorem journal_begin (r : Runner) (t : Task) : ∃ before,
    (r.begin t).journal =
      .event (.started r.status.cursor t.command.raw) :: (before ++ r.journal) ∧
    ∀ e ∈ before, e.IsRemark := by
  have hp : Adds Entry.IsRemark { r with status := { r.status with callers := t.command.callers } }
      (setPhase .running { r with status := { r.status with callers := t.command.callers } }) :=
    Adds.setPhase (.refl _ _) trivial
  obtain ⟨before, e, hb⟩ := hp
  exact ⟨before, by rw [begin, emit, note, e], hb⟩

/-! ## The end of a run -/

theorem finish_ends (he : run.epoch = r.epoch) (outcome : Except Failure Unit)
    (h : (r.finish run outcome).Inv) : Ends run outcome r (r.finish run outcome) := by
  have hadds : Adds Entry.IsRemark r (r.finish run outcome) :=
    Adds.finish (.refl _ r) outcome (fun _ => trivial) (fun _ => trivial) fun _ => trivial
  have hj : ∃ m, (r.finish run outcome).journal.head? =
      some (.ended run.id (outcome.map fun _ => m)) := by
    rw [Runner.finish, if_pos he]
    exact ⟨_, rfl⟩
  have hx : (r.finish run outcome).status.executing = false := (inPlace_finish he outcome).2
  obtain ⟨m, j, e⟩ := r.close_eq run outcome
  refine ⟨hj, (h.idle hx).current_eq, hx, ?_, ?_, ?_, hadds⟩ <;>
    rw [Runner.finish, if_pos he, e]

/-! ## A run goes on with the command at the cursor -/

theorem journal_complete_begin (r : Runner) (run : Run) (t : Task) (later : List Task) :
    ∃ rest before,
      (((r.begin t).complete run ⟨t, later, [], 0, false, r.clock⟩).advance run later).journal =
        rest ++ [.event (.completed r.status.cursor 0)] ++
          .event (.started r.status.cursor t.command.raw) :: (before ++ r.journal) ∧
      ∀ e ∈ before, e.IsRemark := by
  obtain ⟨before, hj, hb⟩ := r.journal_begin t
  obtain ⟨j, e⟩ := r.begin_eq t
  let a : Attempt := ⟨t, later, [], 0, false, r.clock⟩
  obtain ⟨m, e'⟩ := (r.begin t).complete_eq run a
  have hcompleted : ((r.begin t).complete run a).journal =
      .event (.completed r.status.cursor 0) :: (r.begin t).journal := by
    rw [e', e]
    simp [a]
  obtain ⟨rest, hrest, -⟩ := ((Frame.refl run ((r.begin t).complete run a)).advance later).journal
  refine ⟨rest, before, ?_, hb⟩
  rw [hrest, hcompleted, hj, List.append_assoc]
  rfl

/-- A task with steps is started, and its first step is begun. -/
theorem perform_begin (he : run.epoch = r.epoch) (t : Task) (a : Attempt) (s : Step)
    (h : ((r.begin t).perform run a s).Inv) :
    (∃ later before, ((r.begin t).perform run a s).journal =
        later ++ .event (.started r.status.cursor t.command.raw) :: (before ++ r.journal) ∧
      ∀ e ∈ before, e.IsRemark) ∧
    ((r.begin t).perform run a s).current = [(run, r.blockedIn run a s)] ∧
    ((r.begin t).perform run a s).status.cursor = r.status.cursor ∧
    ((r.begin t).perform run a s).sendsOf run.id =
      r.sendsOf run.id ++ s.sends run.options.maxRetries := by
  have hbegin : Silent r (r.begin t) := .begin (.refl r) t
  have hf := (Frame.refl run (r.begin t)).perform a s
  obtain ⟨before, hj, hb⟩ := r.journal_begin t
  obtain ⟨j, e⟩ := r.begin_eq t
  obtain ⟨_, _, _, _, _, _, e'⟩ := (r.begin t).perform_eq run a s
  obtain ⟨later, hlater, -⟩ := hf.journal
  have hblocked : (r.begin t).blockedIn run a s = r.blockedIn run a s := by
    rw [e]
    cases s <;> rfl
  have hm : (run, (r.begin t).blockedIn run a s) ∈ ((r.begin t).perform run a s).runs :=
    mem_runs_perform a s
  rw [hblocked] at hm
  have hp := h.inProgress_of_mem hm (he.trans (hf.epoch_eq.trans hbegin.epoch_eq).symm)
  refine ⟨⟨later, before, by rw [hlater, hj], hb⟩, hp.current_eq, ?_, ?_⟩
  · exact (congrArg (·.status.cursor) e').trans (congrArg (·.status.cursor) e)
  · rw [sendsOf_perform, hbegin.sendsOf_eq]

theorem advance_proceeds (hc : r.control = .run) (he : run.epoch = r.epoch)
    (h : (r.advance run (r.tasks.drop r.status.cursor)).Inv) :
    Proceeds run r (r.advance run (r.tasks.drop r.status.cursor)) where
  starts t ht := by
    have hdrop : r.tasks.drop r.status.cursor = t :: r.tasks.drop (r.status.cursor + 1) := by
      obtain ⟨hlt, rfl⟩ := List.getElem?_eq_some_iff.1 ht
      exact List.drop_eq_getElem_cons hlt
    rw [hdrop, advance_cons hc he] at h ⊢
    cases hs : t.steps with
    | nil =>
      obtain ⟨rest, before, hj, hb⟩ :=
        r.journal_complete_begin run t (r.tasks.drop (r.status.cursor + 1))
      exact ⟨_, before, hj, hb, rest, rfl⟩
    | cons s steps =>
      rw [hs] at h
      obtain ⟨⟨later, before, hj, hb⟩, hfirst⟩ := perform_begin he t _ s h
      exact ⟨later, before, hj, hb, hfirst⟩
  ends hn := by
    have hnil : r.tasks.drop r.status.cursor = [] :=
      List.drop_eq_nil_of_le (List.getElem?_eq_none_iff.1 hn)
    rw [hnil, advance_nil hc he] at h ⊢
    exact finish_ends he _ h

theorem Proceeds.of_remarks (h : Proceeds run q r') (hq : Adds Entry.IsRemark r q)
    (htasks : q.tasks = r.tasks) (hcursor : q.status.cursor = r.status.cursor)
    (hclock : q.clock = r.clock) (hwaits : q.waits = r.waits) : Proceeds run r r' where
  starts t ht := by
    obtain ⟨l, e, hl⟩ := hq
    have hsends : q.sendsOf run.id = r.sendsOf run.id :=
      Adds.sendsOf_eq ⟨l, e, hl⟩ (fun _ he => he.not_begins) _
    have hblocked (a : Attempt) (s : Step) : q.blockedIn run a s = r.blockedIn run a s := by
      cases s <;> simp only [blockedIn, hclock, hwaits]
    have hstarts := h.starts t (by rw [htasks, hcursor]; exact ht)
    rw [htasks, hcursor, hclock, hsends] at hstarts
    obtain ⟨later, before, hj, hb, hmatch⟩ := hstarts
    simp only [hblocked] at hmatch
    refine ⟨later, before ++ l, by rw [hj, e, List.append_assoc], fun x hx => ?_, hmatch⟩
    exact (List.mem_append.1 hx).elim (hb x) (hl x)
  ends hn := by
    have he := h.ends (by rw [htasks, hcursor]; exact hn)
    exact { he with
      cursor_eq := he.cursor_eq.trans hcursor
      tasks_eq := he.tasks_eq.trans htasks
      remarks := hq.trans he.remarks }

/-- **A play begins with the command at the cursor**, if the cursor is not at the end. -/
theorem Idle.play_proceeds (h : r.Idle) (hlt : r.status.cursor < r.tasks.length) :
    ∃ r', r.play = .ok r' ∧ Proceeds r.nextRun r r' := by
  have hne : r.tasks ≠ [] := fun e => by simp [e] at hlt
  have hstart : r.startIndex = r.status.cursor := by
    rw [startIndex, if_neg (by rw [h.tally.total_eq]; omega)]
  have hplay : r.play = .ok ((r.opened.setPhase .running).advance r.nextRun
      (r.tasks.drop r.startIndex)) := by
    simp [Runner.play, h.executing, hne]
  refine ⟨_, hplay, ?_⟩
  have hinv := Inv.play (.inl h) hplay
  have hq : Adds Entry.IsRemark r (r.opened.setPhase .running) :=
    Adds.setPhase (.of_eq rfl) trivial
  obtain ⟨j, e⟩ := r.opened.setPhase_eq .running
  have hcursor : (r.opened.setPhase .running).status.cursor = r.startIndex := by rw [e]; rfl
  have htasks : (r.opened.setPhase .running).tasks = r.tasks := by rw [e]; rfl
  have hdrop : r.tasks.drop r.startIndex = (r.opened.setPhase .running).tasks.drop
      (r.opened.setPhase .running).status.cursor := by rw [htasks, hcursor]
  rw [hdrop] at hinv ⊢
  have hp := advance_proceeds (by rw [e]; rfl) (by rw [e]; rfl) hinv
  exact hp.of_remarks hq htasks (hcursor.trans hstart) (by rw [e]; rfl) (by rw [e]; rfl)

/-! ## A run is paused -/

theorem not_allows_paused (hc : r.control = .pause) (todo : List Task) (w : Wake) :
    ¬ r.allows run (.paused todo) w := by
  cases w <;> simp [allows, hc]

theorem InProgress.phase_of_pause {b : Blocked} (h : r.InProgress run b)
    (hc : r.control = .pause) : r.status.phase = .paused :=
  (h.consistent.paused_iff h.executing).2 hc

theorem InProgress.pauses (h : r.InProgress run (.paused todo)) (hc : r.control = .pause) :
    r.Pauses run := by
  have htodo : todo = r.tasks.drop r.status.cursor := h.todo_eq
  have hphase : r.status.phase = .paused := h.phase_of_pause hc
  subst htodo
  refine ⟨h.current_eq, hphase, not_allows_paused hc _, _, if_pos hphase, ?_⟩
  have hp := h.setMode .run
  have hcontrol := control_setMode r .run
  have ha : (setPhase Control.run.phase { r with control := .run }).allows run
      (.paused (r.tasks.drop r.status.cursor)) .released := by simp [allows, hcontrol]
  have hinv := hp.goOn ha
  rw [← Control.phase, Inv.wake_eq (.inr ⟨_, _, hp⟩) hp.mem ha]
  let q := (setPhase Control.run.phase { r with control := .run }).without run.id
  have hq : Adds Entry.IsRemark r q := Adds.setPhase (.of_eq rfl) trivial
  obtain ⟨j, e⟩ := setPhase_eq { r with control := .run } Control.run.phase
  have htasks : q.tasks = r.tasks := by simp only [q, e]; rfl
  have hcursor : q.status.cursor = r.status.cursor := by simp only [q, e]; rfl
  have hgo : q.goOn run (.paused (r.tasks.drop r.status.cursor)) .released =
      q.advance run (q.tasks.drop q.status.cursor) := by
    rw [htasks, hcursor]
    rfl
  change Proceeds run r (q.goOn run (.paused (r.tasks.drop r.status.cursor)) .released)
  change (q.goOn run (.paused (r.tasks.drop r.status.cursor)) .released).Inv at hinv
  rw [hgo] at hinv ⊢
  have hadv := advance_proceeds (r := q) hcontrol hp.epoch_eq hinv
  exact hadv.of_remarks hq htasks hcursor (by simp only [q, e]; rfl) (by simp only [q, e]; rfl)

theorem Aside.remarked (h : Aside i r r') : Adds Entry.IsRemark r r' :=
  h.adds (fun _ => trivial) fun _ _ => trivial

/-- A run that is asked to pause and stays where it is, is still asked to. -/
theorem InProgress.pause_of_kept {run' : Run} {b b' : Blocked} (h : r.InProgress run b)
    (hc : r.control = .pause) (h' : (r.step i).InProgress run' b')
    (hw : ∀ w, i = .wake run.id w → ¬ r.allows run b w) (hunpause : i ≠ .unpause)
    (hstop : i ≠ .stop) : (r.step i).control = .pause := by
  by_cases hi : i = .pause
  · subst hi
    have hp := h.phase_of_pause hc
    simpa [Runner.step, Runner.pause, hp] using hc
  · rw [(h.mode_of_kept h' hw ⟨hi, hunpause, hstop⟩).1, hc]

theorem InProgress.paused_step (h : r.InProgress run (.paused todo)) (hc : r.control = .pause)
    (hunpause : i ≠ .unpause) (hstop : i ≠ .stop) (hreset : i ≠ .reset) :
    (r.step i).InProgress run (.paused todo) ∧ (r.step i).control = .pause ∧
      Aside i r (r.step i) := by
  have ht := Inv.turn (.inr ⟨run, _, h⟩) i
  generalize hr' : r.step i = r' at ht ⊢
  cases ht with
  | load _ hidle | idle hidle | play hidle => exact absurd h hidle.not_inProgress
  | reset => exact absurd rfl hreset
  | goOn h₁ ha =>
    obtain ⟨rfl, rfl⟩ := h₁.unique h
    exact absurd ha (not_allows_paused hc _ _)
  | aside h₁ h₂ hb hw ha =>
    obtain ⟨rfl, rfl⟩ := h₁.unique h
    rcases hb with rfl | ⟨-, a, wait, d, e, -⟩
    · rw [← hr'] at h₂ ⊢
      exact ⟨h₂, h.pause_of_kept hc h₂ hw hunpause hstop, hr' ▸ ha⟩
    · cases e

theorem InProgress.paused_after (h : r.InProgress run (.paused todo)) (hc : r.control = .pause)
    {s : List Input} (hunpause : .unpause ∉ s) (hstop : .stop ∉ s) (hreset : .reset ∉ s) :
    (r.after s).InProgress run (.paused todo) ∧ (r.after s).control = .pause ∧
      (r.after s).tasks = r.tasks ∧ (r.after s).status.cursor = r.status.cursor ∧
      (r.after s).status.errors = r.status.errors ∧ Adds Entry.IsRemark r (r.after s) := by
  induction s generalizing r with
  | nil => exact ⟨h, hc, rfl, rfl, rfl, .refl _ r⟩
  | cons i s ih =>
    rw [List.mem_cons, not_or] at hunpause hstop hreset
    obtain ⟨h', hc', ha⟩ := h.paused_step hc (Ne.symm hunpause.1) (Ne.symm hstop.1)
      (Ne.symm hreset.1)
    obtain ⟨hp, hc'', htasks, hcursor, herrors, hadds⟩ := ih h' hc' hunpause.2 hstop.2 hreset.2
    exact ⟨hp, hc'', htasks.trans ha.tasks_eq,
      hcursor.trans ha.cursor_eq,
      herrors.trans ha.errors_eq, ha.remarked.trans hadds⟩

/-! ## Nothing is sent before a run is asked to go on -/

/-- If a play is in progress it is asked to stop, or paused between two commands. -/
def Muted (p : Nat) (r : Runner) : Prop :=
  p < r.plays ∧ ∀ run b, r.InProgress run b → run.id = p →
    r.control = .stop ∨ r.control = .pause ∧ ∃ todo, b = .paused todo

/-- Where a muted play is in progress and something lets it go on, it ends. -/
theorem Muted.halts {b : Blocked} {w : Wake} (h : Muted run.id r) (hp : r.InProgress run b)
    (ha : r.allows run b w) : Halts run b w r (r.wake run.id w) := by
  rcases h.2 run b hp rfl with hc | ⟨hc, todo, rfl⟩
  · exact hp.halts hc ha
  · exact absurd ha (not_allows_paused hc _ _)

theorem Muted.step (h : Muted p r) (hinv : r.Inv) (hi : i ≠ .unpause) : Muted p (r.step i) := by
  refine ⟨Nat.lt_of_lt_of_le h.1 (r.le_step i).2, fun run b hp hid => ?_⟩
  subst hid
  rcases hinv.blocked_or_kept (I := fun _ _ => ¬ (r.step i).Unfinished run.id ∨ r.plays ≤ run.id)
    hp (fun _ e => .inr (by rw [e]; exact Nat.le_refl _))
    (fun b₀ w _ _ h₀ ha e _ => .inl (by rw [e]; exact (h.halts h₀ ha).ended))
    (fun _ _ _ _ hI _ => hI) with hn | ⟨b₀, h₀, hb, hw, ha⟩
  · rcases hn with hn | hle
    · exact absurd ⟨_, hp.mem, rfl⟩ hn
    · exact absurd h.1 (Nat.not_lt.2 hle)
  · rcases h.2 run b₀ h₀ rfl with hc | ⟨hc, todo, rfl⟩
    · exact .inl (ha.stopped hc)
    · by_cases hstop : i = .stop
      · subst hstop
        have hphase := (h₀.pauses hc).phase_eq
        refine .inl ?_
        simp only [Runner.step, Runner.stop, hphase, reduceCtorEq, or_true, true_or, if_true,
          Option.getD_some]
        exact control_setMode r .stop
      · have hreset : i ≠ .reset := fun e => by
          subst e
          exact absurd hp hinv.reset.not_inProgress
        obtain ⟨h₁, hc₁, -⟩ := h₀.paused_step hc hi hstop hreset
        exact .inr ⟨hc₁, todo, (h₁.unique hp).2⟩

theorem Muted.sendsOf_step (h : Muted p r) (hinv : r.Inv) (i : Input) :
    (r.step i).sendsOf p = r.sendsOf p := by
  by_cases hi : ∃ w, i = .wake p w
  · obtain ⟨w, rfl⟩ := hi
    have hinert : Adds (fun e => ¬ e.Begins) r (r.wake p w) := by
      by_cases hgo : ∃ run b, r.InProgress run b ∧ run.id = p ∧ r.allows run b w
      · obtain ⟨run, b, hp, rfl, ha⟩ := hgo
        exact (h.halts hp ha).inert
      · exact (hinv.aside_wake (i := .wake p w) fun run b hp hid ha =>
          hgo ⟨run, b, hp, hid, ha⟩).1.inert
    exact hinert.sendsOf_eq (fun _ => id) p
  · exact (step_spares (fun _ => Nat.ne_of_lt h.1) fun w e => hi ⟨w, e⟩).sendsOf_eq

theorem Muted.sendsOf_after (h : Muted p r) (hinv : r.Inv) {s : List Input}
    (hs : .unpause ∉ s) : (r.after s).sendsOf p = r.sendsOf p := by
  induction s generalizing r with
  | nil => rfl
  | cons i s ih =>
    rw [List.mem_cons, not_or] at hs
    exact (ih (h.step hinv (Ne.symm hs.1)) (hinv.step i) hs.2).trans (h.sendsOf_step hinv i)

/-- **A run that is paused stays paused, and sends nothing, until it is asked to go on**; then it
goes on with the command at the cursor. -/
theorem InProgress.suspended (h : r.InProgress run (.paused todo)) (hc : r.control = .pause) :
    r.Suspended run where
  pauses := h.pauses hc
  lasts s hunpause hstop hreset := by
    obtain ⟨hp, hc', hrest⟩ := h.paused_after hc hunpause hstop hreset
    exact ⟨hp.pauses hc', hrest⟩
  silent s hs := by
    have hmuted : Muted run.id r := ⟨(h.roster.member _ h.mem).id_lt, fun run' b hp _ =>
      .inr ⟨hc, todo, (h.unique hp).2⟩⟩
    exact hmuted.sendsOf_after (.inr ⟨run, _, h⟩) hs

theorem Inv.suspended (h : r.Inv) (hp : r.Pauses run) : r.Suspended run := by
  have hm : (run, .paused (r.tasks.drop r.status.cursor)) ∈ r.current := by
    rw [hp.current_eq]
    exact List.mem_singleton_self _
  have hprog := h.inProgress_of_mem_current hm
  exact hprog.suspended ((hprog.consistent.paused_iff hprog.executing).1 hp.phase_eq)

/-! ## Schedules that leave a runner idle -/

theorem Idle.step_harmless (h : r.Idle) (hi : r.Harmless i) :
    (r.step i).Idle ∧ Aside i r (r.step i) := by
  obtain ⟨hreset, hload, hplay⟩ := hi
  have ht := Inv.turn (.inl h) i
  generalize hr' : r.step i = r' at ht ⊢
  cases ht with
  | load hi =>
    rw [← hr', hload hi]
    exact ⟨h, .refl i r⟩
  | reset => exact absurd rfl hreset
  | idle _ h' ha => exact ⟨h', ha⟩
  | play _ hp =>
    obtain ⟨e, he⟩ := hplay rfl
    rw [hp] at he
    cases he
  | goOn h₁ | aside h₁ => exact absurd h₁ h.not_inProgress

theorem Idle.after_calm (h : r.Idle) {s : List Input} (hs : r.Calm s) :
    (r.after s).Idle ∧ (r.after s).tasks = r.tasks ∧
      (r.after s).status.cursor = r.status.cursor ∧
      (r.after s).status.errors = r.status.errors ∧ Adds Entry.IsRemark r (r.after s) := by
  induction s generalizing r with
  | nil => exact ⟨h, rfl, rfl, rfl, .refl _ r⟩
  | cons i s ih =>
    obtain ⟨h', ha⟩ := h.step_harmless hs.1
    obtain ⟨hidle, htasks, hcursor, herrors, hadds⟩ := ih h' hs.2
    exact ⟨hidle, htasks.trans ha.tasks_eq, hcursor.trans ha.cursor_eq,
      herrors.trans ha.errors_eq, ha.remarked.trans hadds⟩

end Boundary

end Runner

end MotionScript
