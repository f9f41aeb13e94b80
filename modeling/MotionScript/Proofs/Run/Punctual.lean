import MotionScript.Proofs.Run.Outcome
import MotionScript.Proofs.Run.Termination
import MotionScript.Proofs.Run.Timetable

/-!
# An undisturbed play keeps to its timetable

Nobody pauses, stops or resets the runner, the device accepts every text after the same time, the
latency, and timers are exact: time does not pass beyond what a run waits for. Then everything a
play does is done at the time that is computed from its tasks.

* `dispatchesOf`: what a play has sent, and when.
* `due?`: the time of what a blocked run waits for.
* `Undisturbed`, `Punctual`: the inputs and the schedules that let a play keep to its timetable.
* `Ahead`, `Over`, `OnTime`: what holds of a run that keeps to its timetable.
* `Hastens`: what holds of it as it goes on, without time passing.
* `Stride.onTime`, `Departs.onTime`: it stays so as the run goes on.
* **`Reachable.keepsTime`**: every undisturbed play keeps to its timetable.
-/

namespace MotionScript

/-- The text that is sent, with its time. -/
def Entry.dispatch? : Entry → Option (Nat × String)
  | sent time _ text _ => some (time, text)
  | event _ | ended _ _ => none

/-- The outcome of a play that ends. -/
def Entry.outcome? : Entry → Option (Except Failure Metrics)
  | ended _ outcome => some outcome
  | event _ | sent _ _ _ _ => none

/-- The steps that are still to be done in a task and after it, the spacing included. -/
def Attempt.agenda (spacing : Nat) (a : Attempt) : List Step :=
  a.steps ++ (if a.sent = false ∧ textsOf a.steps = [] then [] else hold spacing) ++
    MotionScript.agenda spacing a.later

/-- The steps that a blocked run has still to begin. A wait is still to be done. -/
def Blocked.agenda (gap : Nat) : Blocked → List Step
  | paused todo => MotionScript.agenda gap todo
  | calling a _ => { a with sent := true }.agenda gap
  | holding a _ => a.agenda gap
  | spacing a _ => MotionScript.agenda gap a.later
  | waiting a _ _ _ => .signal :: a.agenda gap

/-! ## What is left of an agenda -/

/-- A task that was begun is still to be done, and the spacing follows if it sends anything. -/
theorem Attempt.agenda_begun (gap : Nat) (t : Task) (later : List Task) (began : Nat) :
    Attempt.agenda gap ⟨t, later, t.steps, 0, false, began⟩ =
      MotionScript.agenda gap (t :: later) := by
  rw [Attempt.agenda, agenda_cons]
  simp only [true_and]
  rfl

theorem Attempt.agenda_delay (gap : Nat) {a : Attempt} {ms : Nat} {steps : List Step}
    (hs : a.steps = .delay ms :: steps) :
    a.agenda gap = .delay ms :: { a with steps }.agenda gap := by
  rw [Attempt.agenda, Attempt.agenda, hs]
  rfl

theorem Attempt.agenda_send (gap : Nat) {a : Attempt} {text : String} {steps : List Step}
    (hs : a.steps = .send text :: steps) :
    a.agenda gap = .send text :: { a with steps, sent := true }.agenda gap := by
  have htexts : textsOf (.send text :: steps) = text :: textsOf steps := rfl
  rw [Attempt.agenda, Attempt.agenda, hs, htexts]
  simp

theorem Attempt.agenda_spaced (gap : Nat) {a : Attempt} (hs : a.steps = [])
    (hsent : a.sent = true) (hpos : 0 < gap) :
    a.agenda gap = .delay gap :: MotionScript.agenda gap a.later := by
  rw [Attempt.agenda, hs, hsent, hold, if_neg (Nat.ne_of_gt hpos)]
  simp

theorem Attempt.agenda_done (gap : Nat) {a : Attempt} (hs : a.steps = [])
    (hn : ¬ (a.sent = true ∧ 0 < gap)) : a.agenda gap = MotionScript.agenda gap a.later := by
  have hnil : (if a.sent = false ∧ textsOf a.steps = [] then [] else hold gap) = [] := by
    split
    · rfl
    · next h =>
      have hsent : a.sent = true := by simpa [hs, textsOf] using h
      have hgap : gap = 0 := by
        by_contra hne
        exact hn ⟨hsent, Nat.pos_of_ne_zero hne⟩
      rw [hold, if_pos hgap]
  rw [Attempt.agenda, hnil, hs]
  rfl

/-! ## Keeping to a timetable -/

namespace Runner

/-- What a play has sent, each text with its time, in order. -/
def dispatchesOf (play : Nat) (r : Runner) : List (Nat × String) :=
  (r.entriesOf play).reverse.filterMap Entry.dispatch?

/-- The outcomes of a play. There is none before its end. -/
def outcomesOf (play : Nat) (r : Runner) : List (Except Failure Metrics) :=
  (r.entriesOf play).filterMap Entry.outcome?

/-- The time at which the last text of a play is answered, if the device answers after a latency. -/
def answerTime? (latency play : Nat) (r : Runner) : Option Nat :=
  (r.dispatchesOf play).getLast?.map fun d => d.1 + latency

/-- The time of what a blocked run waits for: an answer of the device, or its deadline. -/
def due? (latency : Nat) (run : Run) (b : Blocked) (r : Runner) : Option Nat :=
  match b with
  | .calling _ _ => r.answerTime? latency run.id
  | b => b.deadline?

/-- Nothing that the run in progress waits for comes before a time. -/
def DueFrom (latency time : Nat) (r : Runner) : Prop :=
  ∀ x ∈ r.current, ∀ d, r.due? latency x.1 x.2 = some d → time ≤ d

/-- Nothing that the run in progress waits for comes at the present instant. -/
def UpToDate (latency : Nat) (r : Runner) : Prop := r.DueFrom latency (r.clock + 1)

/-- An input leaves a play to itself, on a device that accepts every text of the play after a
latency. Time does not pass beyond what the play waits for. -/
def Undisturbed (latency play : Nat) (r : Runner) : Input → Prop
  | .wake q (.answered reply) => q = play →
    (∃ answer, reply = .ok answer ∧ answer.success = true) ∧
      r.answerTime? latency play = some r.clock
  | .wake _ _ => True
  | .pass ms => r.DueFrom latency (r.clock + ms)
  | .pause | .unpause | .stop | .reset => False
  | i => r.Harmless i

/-- Every input of a schedule leaves a play to itself. -/
def Punctual (latency play : Nat) : List Input → Runner → Prop
  | [], _ => True
  | i :: s, r => r.Undisturbed latency play i ∧ Punctual latency play s (r.step i)

/-- A run that has sent some of its texts does some more steps from a time on. So it sends all its
texts at their times, and is done in time. -/
structure Ahead (latency : Nat) (run : Run) (todo : List Task) (time : Nat) (steps : List Step)
    (r : Runner) : Prop where
  epoch_eq : run.epoch = r.epoch
  control_eq : r.control = .run
  signal_notMem : .signal ∉ steps
  clock_le : r.clock ≤ time
  elapsed : ∀ d ∈ r.dispatchesOf run.id, d.1 ≤ r.clock
  sends_eq : r.dispatchesOf run.id ++ sendTimes latency time steps =
    sendTimes latency run.began (agenda run.options.spacing todo)
  finish_eq : time + duration latency steps =
    run.began + duration latency (agenda run.options.spacing todo)
  outcomes_eq : r.outcomesOf run.id = []

/-- A run has sent all its texts at their times, and is over. -/
structure Over (latency : Nat) (run : Run) (todo : List Task) (m : Metrics) (r : Runner) :
    Prop where
  runs_eq : r.runsOf run.id = []
  elapsed : ∀ d ∈ r.dispatchesOf run.id, d.1 ≤ r.clock
  sends_eq : r.dispatchesOf run.id =
    sendTimes latency run.began (agenda run.options.spacing todo)
  finish_le : run.began + duration latency (agenda run.options.spacing todo) ≤ r.clock
  outcomes_eq : r.outcomesOf run.id = [.ok m]

/-- A run ends at the present instant. -/
structure EndsNow (latency : Nat) (run : Run) (todo : List Task) (m : Metrics) (r : Runner) :
    Prop where
  clock_eq : r.clock = run.began + duration latency (agenda run.options.spacing todo)
  head_eq : r.journal.head? = some (.ended run.id (.ok m))

/-- A run keeps to its timetable: it does what is ahead of it at the present instant, or from the
time on that it waits for, or it is over. -/
def OnTime (latency : Nat) (run : Run) (todo : List Task) : Place → Runner → Prop
  | .before later, r => r.runsOf run.id = [] ∧
    Ahead latency run todo r.clock (agenda run.options.spacing later) r
  | .within a, r => r.runsOf run.id = [] ∧
    Ahead latency run todo r.clock (a.agenda run.options.spacing) r
  | .done a, r => r.runsOf run.id = [] ∧
    Ahead latency run todo r.clock (agenda run.options.spacing a.later) r
  | .blocked b, r => ∃ time, r.due? latency run b = some time ∧
    Ahead latency run todo time (b.agenda run.options.spacing) r
  | .failing _ _, _ => False
  | .ended, r => ∃ m, Over latency run todo m r ∧ EndsNow latency run todo m r

/-- A run on time goes on at a time, and from then on blocks less than `n` times. -/
structure Hastens (latency : Nat) (run : Run) (todo : List Task) (time n : Nat) (p : Place)
    (r : Runner) : Prop where
  clock_eq : r.clock = time
  onTime : OnTime latency run todo p r
  weight_lt : p.weight < n

/-- The time at which a play that begins now sends a text of its tasks. -/
def sendTime (latency : Nat) (r : Runner) (x : Sending (r.tasks.drop r.startIndex)) : Nat :=
  x.time latency r.options.spacing r.clock

/-- The time at which a play that begins now is over. -/
def endTime (latency : Nat) (r : Runner) : Nat :=
  timeAfter latency r.options.spacing r.clock (r.tasks.drop r.startIndex) []

/-- What holds, after a schedule, of a play that began in a state `r`. -/
structure KeepsTime (latency : Nat) (r r' : Runner) (s : List Input) : Prop where
  /-- Whatever is sent is a text of the tasks, in order and at its time. -/
  sent : ∀ k d, ((r'.after s).dispatchesOf r.plays)[k]? = some d →
    ∃ x : Sending (r.tasks.drop r.startIndex), x.index = k ∧ d = (r.sendTime latency x, x.text)
  /-- Every text of the tasks is sent as soon as its time has come. -/
  due : (r'.after s).UpToDate latency → ∀ x : Sending (r.tasks.drop r.startIndex),
    ((r'.after s).dispatchesOf r.plays)[x.index]? =
      if r.sendTime latency x ≤ (r'.after s).clock then some (r.sendTime latency x, x.text)
      else none
  /-- The texts of a group are separated by the latency only. -/
  grouped : ∀ x y : Sending (r.tasks.drop r.startIndex), x.before = y.before →
    ∀ ms, x.task.command.instruction = .group ms → x.index ≤ y.index →
    r.sendTime latency y = r.sendTime latency x + latency * (y.index - x.index)
  /-- A play ends without a failure, and at its time. -/
  ended : ∀ outcome, .ended r.plays outcome ∈ (r'.after s).journal → ∃ m, outcome = .ok m ∧
    ∃ s₁ s₂, s = s₁ ++ s₂ ∧ (r'.after s₁).clock = r.endTime latency ∧
      (r'.after s₁).journal.head? = some (.ended r.plays (.ok m))
  /-- It ends as soon as its time has come. -/
  ends : (r'.after s).UpToDate latency → r.endTime latency ≤ (r'.after s).clock →
    ∃ m, .ended r.plays (.ok m) ∈ (r'.after s).journal
  /-- Any time can come without a disturbance. -/
  lasts : ∀ time, (r'.after s).clock ≤ time → ∃ s', r'.Punctual latency r.plays (s ++ s') ∧
    (r'.after (s ++ s')).UpToDate latency ∧ (r'.after (s ++ s')).clock = time

section Punctual

variable {latency time ms : Nat} {run : Run} {todo : List Task} {steps : List Step} {b : Blocked}
  {p p' : Place} {i : Input} {s s' : List Input} {r r' : Runner}

/-! ## What is written about a play -/

theorem dispatchesOf_of_entriesOf {q : Nat} (h : r'.entriesOf q = r.entriesOf q) :
    r'.dispatchesOf q = r.dispatchesOf q := by
  rw [dispatchesOf, h, dispatchesOf]

theorem outcomesOf_of_entriesOf {q : Nat} (h : r'.entriesOf q = r.entriesOf q) :
    r'.outcomesOf q = r.outcomesOf q := by
  rw [outcomesOf, h, outcomesOf]

theorem mem_outcomesOf {q : Nat} {o : Except Failure Metrics} :
    o ∈ r.outcomesOf q ↔ .ended q o ∈ r.journal := by
  rw [outcomesOf, List.mem_filterMap, ← mem_entriesOf]
  constructor
  · rintro ⟨e, he, ho⟩
    cases e with
    | ended q' o' =>
      cases ho
      obtain rfl : q' = q := by simpa [entriesOf, Entry.play?] using (List.mem_filter.1 he).2
      exact he
    | event | sent => cases ho
  · exact fun h => ⟨_, h, rfl⟩

theorem entriesOf_note_self {e : Entry} {q : Nat} (h : e.play? = some q) :
    (r.note e).entriesOf q = e :: r.entriesOf q :=
  List.filter_cons_of_pos (by simp [h])

/-! ## What is ahead -/

theorem Ahead.congr (h : Ahead latency run todo time steps r) (hepoch : r'.epoch = r.epoch)
    (hcontrol : r'.control = r.control) (he : r'.entriesOf run.id = r.entriesOf run.id)
    (hle : r.clock ≤ r'.clock) (hle' : r'.clock ≤ time) :
    Ahead latency run todo time steps r' := by
  have hd := dispatchesOf_of_entriesOf he
  exact
    { epoch_eq := h.epoch_eq.trans hepoch.symm
      control_eq := hcontrol.trans h.control_eq
      signal_notMem := h.signal_notMem
      clock_le := hle'
      elapsed := fun d hm => Nat.le_trans (h.elapsed d (hd ▸ hm)) hle
      sends_eq := hd ▸ h.sends_eq
      finish_eq := h.finish_eq
      outcomes_eq := (outcomesOf_of_entriesOf he).trans h.outcomes_eq }

theorem Ahead.silent (h : Ahead latency run todo r.clock steps r) (hs : Silent r r')
    (hc : r'.clock = r.clock) : Ahead latency run todo r'.clock steps r' := by
  rw [hc]
  exact h.congr hs.epoch_eq hs.control_eq (hs.entriesOf_eq _) (Nat.le_of_eq hc.symm)
    (Nat.le_of_eq hc)

theorem Ahead.delay (h : Ahead latency run todo r.clock (.delay ms :: steps) r) (b : Blocked) :
    Ahead latency run todo (r.clock + ms) steps (r.block run b) where
  epoch_eq := h.epoch_eq
  control_eq := h.control_eq
  signal_notMem hm := h.signal_notMem (List.mem_cons_of_mem _ hm)
  clock_le := Nat.le_add_right _ _
  elapsed := h.elapsed
  sends_eq := h.sends_eq
  finish_eq := by rw [← h.finish_eq, duration_delay, Nat.add_assoc]
  outcomes_eq := h.outcomes_eq

theorem Ahead.send {text : String} (h : Ahead latency run todo r.clock (.send text :: steps) r)
    (b : Blocked) (maxRetries : Nat)
    (e : r' = (r.note (.sent r.clock run.id text maxRetries)).block run b) :
    r'.answerTime? latency run.id = some (r.clock + latency) ∧
      Ahead latency run todo (r.clock + latency) steps r' := by
  have he : r'.entriesOf run.id = .sent r.clock run.id text maxRetries :: r.entriesOf run.id := by
    rw [e]
    exact entriesOf_note_self rfl
  have hd : r'.dispatchesOf run.id = r.dispatchesOf run.id ++ [(r.clock, text)] := by
    rw [dispatchesOf, he, List.reverse_cons, List.filterMap_append]
    rfl
  have hclock : r'.clock = r.clock := by rw [e]; rfl
  refine ⟨by rw [answerTime?, hd, List.getLast?_concat]; rfl, ?_⟩
  exact
    { epoch_eq := by rw [e]; exact h.epoch_eq
      control_eq := by rw [e]; exact h.control_eq
      signal_notMem := fun hm => h.signal_notMem (List.mem_cons_of_mem _ hm)
      clock_le := hclock ▸ Nat.le_add_right _ _
      elapsed := fun d hm => by
        rw [hd] at hm
        rw [hclock]
        rcases List.mem_append.1 hm with hm | hm
        · exact h.elapsed d hm
        · obtain rfl := List.mem_singleton.1 hm
          exact Nat.le_refl _
      sends_eq := by
        rw [hd, List.append_assoc]
        exact h.sends_eq
      finish_eq := by rw [← h.finish_eq, duration_send, Nat.add_assoc]
      outcomes_eq := by
        rw [outcomesOf, he]
        exact h.outcomes_eq }

theorem Ahead.finish (h : Ahead latency run todo r.clock [] r) (hn : r.runsOf run.id = []) :
    OnTime latency run todo .ended (r.finish run (.ok ())) := by
  have hnote : ∃ m r', Silent r r' ∧ r.close run (.ok ()) = r'.note (.ended run.id (.ok m)) :=
    ⟨_, _, .emit (.setPhase (.update (.refl r)) _) _, rfl⟩
  obtain ⟨m, r', hs, e⟩ := hnote
  obtain ⟨m', j, e'⟩ := r.close_eq run (.ok ())
  rw [e] at e'
  have hclock : r'.clock = r.clock := by
    have hc := congrArg Runner.clock e'
    exact hc
  have ha := h.silent hs hclock
  have he : (r'.note (.ended run.id (.ok m))).entriesOf run.id =
      .ended run.id (.ok m) :: r'.entriesOf run.id := entriesOf_note_self rfl
  have hd : (r'.note (.ended run.id (.ok m))).dispatchesOf run.id = r'.dispatchesOf run.id := by
    rw [dispatchesOf, he, List.reverse_cons, List.filterMap_append]
    exact List.append_nil _
  have hsends := ha.sends_eq
  rw [sendTimes, List.append_nil] at hsends
  rw [Runner.finish, if_pos h.epoch_eq, e]
  refine ⟨m, ⟨(hs.runsOf_eq _).trans hn, fun d hm => ha.elapsed d (hd ▸ hm), hd.trans hsends,
    Nat.le_of_eq ha.finish_eq.symm, ?_⟩, ha.finish_eq, rfl⟩
  rw [outcomesOf, he, List.filterMap_cons]
  exact congrArg (_ :: ·) ha.outcomes_eq

/-! ## A run keeps to its timetable -/

theorem Stride.onTime (hs : Stride run (p, r) (p', r')) (h : OnTime latency run todo p r) :
    OnTime latency run todo p' r' := by
  have hclock := hs.clock_eq
  cases hs with
  | pause hpause =>
    rw [h.2.control_eq] at hpause
    cases hpause
  | stop hstop | interrupt hstop =>
    rw [h.2.control_eq] at hstop
    cases hstop
  | finish => exact h.2.finish h.1
  | begin _ t later =>
    have hs : Silent r (r.begin t) := .begin (.refl r) t
    refine ⟨(hs.runsOf_eq _).trans h.1, ?_⟩
    rw [Attempt.agenda_begun]
    exact h.2.silent hs hclock
  | @perform _ _ a s steps hs =>
    obtain ⟨-, ha⟩ := h
    cases s with
    | send text =>
      rw [Attempt.agenda_send _ hs] at ha
      exact ⟨_, ha.send _ _ rfl⟩
    | delay ms =>
      rw [Attempt.agenda_delay _ hs] at ha
      exact ⟨_, rfl, ha.delay _⟩
    | signal =>
      refine absurd ?_ ha.signal_notMem
      rw [Attempt.agenda, hs]
      exact List.mem_append_left _ (List.mem_append_left _ List.mem_cons_self)
  | @space _ _ a hs hsent hpos =>
    obtain ⟨-, ha⟩ := h
    rw [Attempt.agenda_spaced _ hs hsent hpos] at ha
    exact ⟨_, rfl, ha.delay _⟩
  | @leave _ a hs hn =>
    obtain ⟨hruns, ha⟩ := h
    have hn' : ¬ (a.sent = true ∧ 0 < run.options.spacing) := fun ⟨hsent, hpos⟩ =>
      hn ⟨hsent, hpos, by simp [ha.control_eq]⟩
    rw [Attempt.agenda_done _ hs hn'] at ha
    exact ⟨hruns, ha⟩
  | complete _ a =>
    have hs : Silent r (r.complete run a) := .complete (.refl r) a
    exact ⟨(hs.runsOf_eq _).trans h.1, h.2.silent hs hclock⟩
  | failPaused | failStopped | failSkipped | failEnded => exact h.elim

theorem Departs.onTime {w : Wake} (hd : Departs run (r.without run.id) b w (p, r'))
    (ha : r.allows run b w) (hw : r.Undisturbed latency run.id (.wake run.id w))
    (h : OnTime latency run todo (.blocked b) r) : OnTime latency run todo p r' := by
  obtain ⟨time, hdue, h⟩ := h
  have hruns : (r.without run.id).runsOf run.id = [] := runsOf_without_self _
  have hgo : r.MayGoOn run := ⟨by simp [h.control_eq], h.epoch_eq⟩
  have hnow {steps : List Step} (ht : time = r.clock)
      (h : Ahead latency run todo time steps r) :
      (r.without run.id).runsOf run.id = [] ∧
        Ahead latency run todo (r.without run.id).clock steps (r.without run.id) :=
    ⟨hruns, ht ▸ h.congr rfl rfl rfl (Nat.le_refl _) h.clock_le⟩
  cases hd with
  | released todo => cases hdue
  | unanswered a text fault =>
    obtain ⟨⟨answer, e, -⟩, -⟩ := hw rfl
    cases e
  | rejected a text hs =>
    obtain ⟨⟨answer, e, hs'⟩, -⟩ := hw rfl
    cases e
    rw [hs] at hs'
    cases hs'
  | accepted a text hs =>
    obtain ⟨-, htime⟩ := hw rfl
    exact hnow (Option.some.inj (hdue.symm.trans htime)) h
  | held a d =>
    cases hdue
    exact hnow (Nat.le_antisymm (of_decide_eq_true ha) h.clock_le) h
  | cut a d hc =>
    rw [show (r.without run.id).control = r.control from rfl, h.control_eq] at hc
    cases hc
  | spaced a d =>
    cases hdue
    cases w with
    | elapsed => exact hnow (Nat.le_antisymm (of_decide_eq_true ha) h.clock_le) h
    | released => simp [allows, hgo] at ha
    | answered | signalled => simp [allows] at ha
  | signalled | timedOut | cancelled => exact absurd List.mem_cons_self h.signal_notMem

/-! ## Undisturbed schedules -/

theorem Undisturbed.harmless {q : Nat} (h : r.Undisturbed latency q i) : r.Harmless i := by
  cases i with
  | pause | unpause | stop | reset => exact h.elim
  | load | loadCompilation | loadScript | play | setOptions | signal => exact h
  | pass | wake => exact harmless_of_ne (by simp) (by simp) id

theorem InProgress.entriesOf_step (h : r.InProgress run b)
    (hw : ∀ w, i = .wake run.id w → ¬ r.allows run b w) :
    (r.step i).entriesOf run.id = r.entriesOf run.id := by
  by_cases hi : ∃ w, i = .wake run.id w
  · obtain ⟨w, rfl⟩ := hi
    rcases r.wake_eq run.id w with e | ⟨run', b', hm, hid, ha, -⟩
    · rw [Runner.step, e]
    · cases h.roster.eq_of_id_eq hm h.mem hid
      exact absurd ha (hw w rfl)
  · have hlt := (h.roster.member _ h.mem).id_lt
    exact (step_spares (fun _ => Nat.ne_of_lt hlt) fun w e => hi ⟨w, e⟩).entries

theorem InProgress.dueFrom_iff (h : r.InProgress run b) {t d : Nat}
    (hd : r.due? latency run b = some d) : r.DueFrom latency t ↔ t ≤ d := by
  constructor
  · exact fun ht => ht _ h.mem_current d hd
  · intro ht x hx d' hd'
    rw [h.current_eq, List.mem_singleton] at hx
    subst hx
    cases hd.symm.trans hd'
    exact ht

theorem Idle.dueFrom (h : r.Idle) (t : Nat) : r.DueFrom latency t := by
  intro x hx
  rw [h.current_eq] at hx
  cases hx

theorem InProgress.onTime_kept {b' : Blocked} (h : r.InProgress run b)
    (h' : (r.step i).InProgress run b')
    (hb : b' = b ∨ i = .signal ∧ ∃ a wait d, b = .waiting a wait d none ∧
      b' = .waiting a wait d (some true))
    (hw : ∀ w, i = .wake run.id w → ¬ r.allows run b w) (ha : Aside i r (r.step i))
    (hi : r.Undisturbed latency run.id i) (ht : OnTime latency run todo (.blocked b) r) :
    OnTime latency run todo (.blocked b') (r.step i) := by
  obtain ⟨time, hdue, ht⟩ := ht
  have he := h.entriesOf_step hw
  rcases hb with rfl | ⟨-, a, wait, d, rfl, -⟩
  · have hmode : i ≠ .pause ∧ i ≠ .unpause ∧ i ≠ .stop := by
      refine ⟨?_, ?_, ?_⟩ <;>
      · rintro rfl
        exact hi
    have hdue' : (r.step i).due? latency run b' = some time := by
      cases b' with
      | calling a text =>
        change (r.step i).answerTime? latency run.id = some time
        rw [answerTime?, dispatchesOf_of_entriesOf he]
        exact hdue
      | paused | holding | spacing | waiting => exact hdue
    refine ⟨time, hdue', ?_⟩
    rcases ha.clock_eq with e | ⟨ms, rfl, e⟩
    · exact ht.congr ha.epoch_eq (h.mode_of_kept h' hw hmode).1 he (Nat.le_of_eq e.symm)
        (e ▸ ht.clock_le)
    · exact ht.congr ha.epoch_eq (h.mode_of_kept h' hw hmode).1 he (e ▸ Nat.le_add_right _ _)
        (e ▸ (h.dueFrom_iff hdue).1 hi)
  · exact absurd List.mem_cons_self ht.signal_notMem

theorem OnTime.step (ht : OnTime latency run todo (.blocked b) r) (h : r.InProgress run b)
    (hi : r.Undisturbed latency run.id i) :
    (∃ b', (r.step i).InProgress run b' ∧ OnTime latency run todo (.blocked b') (r.step i)) ∨
      (r.step i).Idle ∧ OnTime latency run todo .ended (r.step i) := by
  have hturn := Inv.turn (.inr ⟨run, b, h⟩) i
  generalize hr' : r.step i = r' at hturn ⊢
  cases hturn with
  | load _ hidle | idle hidle | play hidle => exact absurd h hidle.not_inProgress
  | reset => exact hi.elim
  | @goOn _ _ w h₁ ha =>
    obtain ⟨rfl, rfl⟩ := h₁.unique h
    exact h₁.goOn_induct (I := OnTime latency run todo) ha
      (fun _ _ hd => hd.onTime ha hi ht) fun _ _ _ _ hI hs => hs.onTime hI
  | @aside _ _ b' _ _ h₁ h₂ hb hw ha =>
    obtain ⟨rfl, rfl⟩ := h₁.unique h
    subst hr'
    exact .inl ⟨b', h₂, h₁.onTime_kept h₂ hb hw ha hi ht⟩

theorem Over.step {m : Metrics} (h : Over latency run todo m r) (hidle : r.Idle)
    (hlt : run.id < r.plays) (hi : r.Harmless i) :
    Over latency run todo m (r.step i) ∧ (r.step i).Idle := by
  obtain ⟨hidle', ha⟩ := hidle.step_harmless hi
  have hspares : (r.step i).entriesOf run.id = r.entriesOf run.id ∧
      (r.step i).runsOf run.id = [] := by
    by_cases hw : ∃ w, i = .wake run.id w
    · obtain ⟨w, rfl⟩ := hw
      rw [Runner.step, wake_of_runsOf_nil h.runs_eq]
      exact ⟨rfl, h.runs_eq⟩
    · have hs : Spares run.id r (r.step i) :=
        step_spares (fun _ => Nat.ne_of_lt hlt) fun w e => hw ⟨w, e⟩
      obtain ⟨f, -, e⟩ := hs.exists_map
      exact ⟨hs.entries, by rw [e, h.runs_eq]; rfl⟩
  have hd := dispatchesOf_of_entriesOf hspares.1
  have hclock : r.clock ≤ (r.step i).clock := by
    rcases ha.clock_eq with e | ⟨ms, -, e⟩ <;> omega
  exact ⟨⟨hspares.2, fun d hm => Nat.le_trans (h.elapsed d (hd ▸ hm)) hclock,
    hd.trans h.sends_eq, Nat.le_trans h.finish_le hclock,
    (outcomesOf_of_entriesOf hspares.1).trans h.outcomes_eq⟩, hidle'⟩

theorem Over.after {m : Metrics} (h : Over latency run todo m r) (hidle : r.Idle)
    (hlt : run.id < r.plays) (hs : r.Punctual latency run.id s) :
    Over latency run todo m (r.after s) ∧ (r.after s).Idle := by
  induction s generalizing r with
  | nil => exact ⟨h, hidle⟩
  | cons i s ih =>
    obtain ⟨h', hidle'⟩ := h.step hidle hlt hs.1.harmless
    exact ih h' hidle' (Nat.lt_of_lt_of_le hlt (r.le_step i).2) hs.2

/-- A run on time stays so until it is over. The induction is on the schedule. -/
theorem OnTime.after (ht : OnTime latency run todo (.blocked b) r) (h : r.InProgress run b)
    (hs : r.Punctual latency run.id s) :
    (∃ b', (r.after s).InProgress run b' ∧ OnTime latency run todo (.blocked b') (r.after s)) ∨
      ∃ m, (Over latency run todo m (r.after s) ∧ (r.after s).Idle) ∧
        ∃ s₁ s₂, s = s₁ ++ s₂ ∧ EndsNow latency run todo m (r.after s₁) := by
  induction s generalizing b r with
  | nil => exact .inl ⟨b, h, ht⟩
  | cons i s ih =>
    have hlt := (h.roster.member _ h.mem).id_lt
    rcases ht.step h hs.1 with ⟨b', h', ht'⟩ | ⟨hidle, m, hover, hnow⟩
    · rcases ih ht' h' hs.2 with hgo | ⟨m, hover, s₁, s₂, rfl, hnow⟩
      · exact .inl hgo
      · exact .inr ⟨m, hover, i :: s₁, s₂, rfl, hnow⟩
    · exact .inr ⟨m, hover.after hidle (Nat.lt_of_lt_of_le hlt (r.le_step i).2) hs.2,
        [i], s, rfl, hnow⟩

/-! ## Any time can come -/

theorem Punctual.append {q : Nat} (h : r.Punctual latency q s)
    (h' : (r.after s).Punctual latency q s') : r.Punctual latency q (s ++ s') := by
  induction s generalizing r with
  | nil => exact h'
  | cons i s ih => exact ⟨h.1, ih h.2 h'⟩

theorem OnTime.not_failing (h : OnTime latency run todo p r) : ¬ p.IsFailing := by
  cases p with
  | failing => exact h.elim
  | before | within | done | blocked | ended => exact id

theorem Stride.control_of_onTime (hs : Stride run (p, r) (p', r'))
    (h : OnTime latency run todo p r) : r.control = .run := by
  cases p with
  | before | within | done => exact h.2.control_eq
  | failing => exact h.elim
  | blocked | ended => cases hs

theorem OnTime.exists_wake (h : OnTime latency run todo (.blocked b) r)
    (hdue : r.due? latency run b = some r.clock) :
    ∃ w, r.allows run b w ∧ r.Undisturbed latency run.id (.wake run.id w) := by
  cases b with
  | calling a text =>
    exact ⟨.answered (.ok (.accepted "")), rfl, fun _ => ⟨⟨_, rfl, rfl⟩, hdue⟩⟩
  | holding a d | spacing a d =>
    cases hdue
    exact ⟨.elapsed, by simp [allows], trivial⟩
  | paused => cases hdue
  | waiting =>
    obtain ⟨_, -, ha⟩ := h
    exact absurd List.mem_cons_self ha.signal_notMem

theorem Departs.hastens {w : Wake} (hd : Departs run (r.without run.id) b w (p, r'))
    (ha : r.allows run b w) (hw : r.Undisturbed latency run.id (.wake run.id w))
    (h : OnTime latency run todo (.blocked b) r) :
    Hastens latency run todo r.clock (Place.blocked b).weight p r' := by
  have hrun : r.control = .run := by
    obtain ⟨_, -, ha⟩ := h
    exact ha.control_eq
  have hlt := hd.weight_lt (by simp [without, hrun])
  have ht := hd.onTime ha hw h
  obtain ⟨slot, start, timeouts, phase, j, e⟩ := hd.eq
  exact ⟨by rw [e]; rfl, ht, hlt⟩

theorem Hastens.stride {n : Nat} (h : Hastens latency run todo time n p r)
    (hs : Stride run (p, r) (p', r')) : Hastens latency run todo time n p' r' := by
  have hle := hs.weight_le (hs.control_of_onTime h.onTime) h.onTime.not_failing
  exact ⟨hs.clock_eq.trans h.clock_eq, hs.onTime h.onTime, Nat.lt_of_le_of_lt hle h.weight_lt⟩

/-- When a run goes on at its time, it takes no time, and blocks less often from then on. -/
theorem OnTime.goOn {w : Wake} (h : OnTime latency run todo (.blocked b) r)
    (hp : r.InProgress run b) (ha : r.allows run b w)
    (hw : r.Undisturbed latency run.id (.wake run.id w)) :
    (r.step (.wake run.id w)).clock = r.clock ∧
    ((∃ b', (r.step (.wake run.id w)).InProgress run b' ∧
      OnTime latency run todo (.blocked b') (r.step (.wake run.id w)) ∧
      (Place.blocked b').weight < (Place.blocked b).weight) ∨ (r.step (.wake run.id w)).Idle) := by
  have hstep : r.step (.wake run.id w) = (r.without run.id).goOn run b w :=
    Inv.wake_eq (.inr ⟨run, b, hp⟩) hp.mem ha
  rw [hstep]
  rcases hp.goOn_induct ha (fun _ _ hd => hd.hastens ha hw h) fun _ _ _ _ hi hs => hi.stride hs with
    ⟨b', hp', hi⟩ | ⟨hidle, hi⟩
  · exact ⟨hi.clock_eq, .inl ⟨b', hp', hi.onTime, hi.weight_lt⟩⟩
  · exact ⟨hi.clock_eq, .inr hidle⟩

theorem OnTime.pass (h : OnTime latency run todo (.blocked b) r)
    (hle : r.clock + ms ≤ time) (hdue : r.due? latency run b = some time) :
    OnTime latency run todo (.blocked b) (r.pass ms) := by
  obtain ⟨time', hdue', ha⟩ := h
  cases hdue.symm.trans hdue'
  exact ⟨time, hdue, ha.congr rfl rfl rfl (Nat.le_add_right _ _) hle⟩

theorem Idle.lasts (h : r.Idle) (latency q : Nat) (hle : r.clock ≤ time) :
    ∃ s, r.Punctual latency q s ∧ (r.after s).UpToDate latency ∧ (r.after s).clock = time := by
  have h' : (r.pass (time - r.clock)).Idle := { h with }
  exact ⟨[.pass (time - r.clock)], ⟨h.dueFrom _, trivial⟩, h'.dueFrom _,
    Nat.add_sub_cancel' hle⟩

/-- Without a disturbance any time can come. The induction is on how often the run still blocks. -/
theorem OnTime.lasts (h : OnTime latency run todo (.blocked b) r) (hp : r.InProgress run b)
    (hle : r.clock ≤ time) : ∃ s, r.Punctual latency run.id s ∧
      (r.after s).UpToDate latency ∧ (r.after s).clock = time := by
  induction hn : (Place.blocked b).weight using Nat.strongRecOn generalizing b r with
  | ind n ih =>
    obtain ⟨d, hdue, ha⟩ := id h
    by_cases hd : time < d
    · have hclock : (r.pass (time - r.clock)).clock = time := Nat.add_sub_cancel' hle
      have hpass : r.clock + (time - r.clock) ≤ d := by omega
      have hnext : (r.pass (time - r.clock)).clock + 1 ≤ d := by omega
      exact ⟨[.pass (time - r.clock)], ⟨(hp.dueFrom_iff hdue).2 hpass, trivial⟩,
        ((hp.pass _).dueFrom_iff hdue).2 hnext, hclock⟩
    · have hclock : (r.pass (d - r.clock)).clock = d := Nat.add_sub_cancel' ha.clock_le
      have hpass : r.Punctual latency run.id [.pass (d - r.clock)] :=
        ⟨(hp.dueFrom_iff hdue).2 (Nat.le_of_eq hclock), trivial⟩
      have hp' := hp.pass (d - r.clock)
      have h' := h.pass (Nat.le_of_eq hclock) hdue
      have hdue' : (r.pass (d - r.clock)).due? latency run b =
          some (r.pass (d - r.clock)).clock := hdue.trans (congrArg some hclock.symm)
      obtain ⟨w, hallows, hw⟩ := h'.exists_wake hdue'
      have hwake : r.Punctual latency run.id [.pass (d - r.clock), .wake run.id w] :=
        hpass.append ⟨hw, trivial⟩
      obtain ⟨hc, hgo⟩ := h'.goOn hp' hallows hw
      have hle' : ((r.pass (d - r.clock)).step (.wake run.id w)).clock ≤ time := by omega
      rcases hgo with ⟨b', hp₁, h₁, hlt⟩ | hidle
      · obtain ⟨s, hs, hup, hend⟩ := ih _ (hn ▸ hlt) h₁ hp₁ hle' rfl
        exact ⟨_, hwake.append hs, hup, hend⟩
      · obtain ⟨s, hs, hup, hend⟩ := hidle.lasts latency run.id hle'
        exact ⟨_, hwake.append hs, hup, hend⟩

/-! ## The play as a whole -/

theorem Reachable.onTime_play (h : r.Reachable) (latency : Nat)
    (hw : ∀ t ∈ r.tasks, t.command.instruction ≠ .wait) (hp : r.play = .ok r') :
    (∃ b, r'.InProgress r.nextRun b ∧
      OnTime latency r.nextRun (r.tasks.drop r.startIndex) (.blocked b) r') ∨
    r'.Idle ∧ OnTime latency r.nextRun (r.tasks.drop r.startIndex) .ended r' := by
  have hs : Silent r.opened (r.opened.setPhase .running) := .setPhase (.refl _) _
  have hclock : (r.opened.setPhase .running).clock = r.clock := by
    obtain ⟨j, e⟩ := r.opened.setPhase_eq .running
    rw [e]
    rfl
  have hentries : (r.opened.setPhase .running).entriesOf r.nextRun.id = [] :=
    (hs.entriesOf_eq _).trans (h.entriesOf_eq_nil (Nat.le_refl _))
  have hd : (r.opened.setPhase .running).dispatchesOf r.nextRun.id = [] := by
    rw [dispatchesOf, hentries]
    rfl
  refine (h.inv.idle (play_eq_ok hp).1).play_induct hp
    ⟨(hs.runsOf_eq _).trans (h.inv.runsOf_eq_nil (Nat.le_refl _)), ?_⟩
    fun _ _ _ _ hI hs => hs.onTime hI
  exact
    { epoch_eq := hs.epoch_eq.symm
      control_eq := hs.control_eq
      signal_notMem := signal_notMem_agenda _ fun t ht => hw t (List.mem_of_mem_drop ht)
      clock_le := Nat.le_refl _
      elapsed := fun d hm => by rw [hd] at hm; cases hm
      sends_eq := by rw [hd, hclock]; rfl
      finish_eq := by rw [hclock]; rfl
      outcomes_eq := by rw [outcomesOf, hentries]; rfl }

theorem Reachable.onTime_after (h : r.Reachable)
    (hw : ∀ t ∈ r.tasks, t.command.instruction ≠ .wait) (hp : r.play = .ok r')
    (hs : r'.Punctual latency r.plays s) :
    (∃ b, (r'.after s).InProgress r.nextRun b ∧
      OnTime latency r.nextRun (r.tasks.drop r.startIndex) (.blocked b) (r'.after s)) ∨
    ∃ m, (Over latency r.nextRun (r.tasks.drop r.startIndex) m (r'.after s) ∧
      (r'.after s).Idle) ∧ ∃ s₁ s₂, s = s₁ ++ s₂ ∧
        EndsNow latency r.nextRun (r.tasks.drop r.startIndex) m (r'.after s₁) := by
  rcases h.onTime_play latency hw hp with ⟨b, hprog, ht⟩ | ⟨hidle, m, hover, hnow⟩
  · exact ht.after hprog hs
  · have hlt : r.plays < r'.plays := by
      rw [(frame_play hp).plays_eq]
      exact Nat.lt_succ_self _
    exact .inr ⟨m, hover.after hidle hlt hs, [], s, rfl, hnow⟩

theorem endTime_eq (latency : Nat) (r : Runner) : r.endTime latency =
    r.clock + duration latency (agenda r.options.spacing (r.tasks.drop r.startIndex)) := by
  rw [endTime, timeAfter_eq, List.append_nil]

theorem getElem?_of_append {sent rest all : List (Nat × String)} {k now : Nat} {d : Nat × String}
    (h : sent ++ rest = all) (hsent : ∀ d ∈ sent, d.1 ≤ now) (hrest : ∀ d ∈ rest, now < d.1)
    (hk : all[k]? = some d) : sent[k]? = if d.1 ≤ now then some d else none := by
  subst h
  by_cases hlt : k < sent.length
  · rw [List.getElem?_append_left hlt] at hk
    rw [hk, if_pos (hsent d (List.mem_of_getElem? hk))]
  · have hlen : sent.length ≤ k := Nat.le_of_not_lt hlt
    rw [List.getElem?_append_right hlen] at hk
    rw [List.getElem?_eq_none hlen,
      if_neg (Nat.not_le_of_lt (hrest d (List.mem_of_getElem? hk)))]

/-- What is sent of a timetable is sent by steps of the tasks, at their times. -/
theorem exists_sending {sent rest : List (Nat × String)} {k : Nat} {d : Nat × String}
    (hall : sent ++ rest =
      sendTimes latency r.clock (agenda r.options.spacing (r.tasks.drop r.startIndex)))
    (hk : sent[k]? = some d) :
    ∃ x : Sending (r.tasks.drop r.startIndex), x.index = k ∧
      d = (r.sendTime latency x, x.text) := by
  have hd : (sendTimes latency r.clock
      (agenda r.options.spacing (r.tasks.drop r.startIndex)))[k]? = some d := by
    rw [← hall, List.getElem?_append_left (List.getElem?_eq_some_iff.1 hk).1, hk]
  exact Sending.exists_of_getElem? hd

/-- As long as a play is on time it has sent what is due, and it is not over. -/
theorem keepsTime_of_onTime (hs : r'.Punctual latency r.plays s)
    (hp : (r'.after s).InProgress r.nextRun b)
    (h : OnTime latency r.nextRun (r.tasks.drop r.startIndex) (.blocked b) (r'.after s)) :
    KeepsTime latency r r' s := by
  obtain ⟨time, hdue, ha⟩ := id h
  exact
    { sent := fun _ _ hk => exists_sending ha.sends_eq hk
      due := fun hup x => by
        have hlt := (hp.dueFrom_iff hdue).1 hup
        exact getElem?_of_append ha.sends_eq ha.elapsed
          (fun d hd => Nat.lt_of_lt_of_le hlt (le_of_mem_sendTimes hd)) (x.getElem?_sendTimes ..)
      grouped := fun x y hxy ms hms hle => Sending.time_of_group _ _ _ hxy hms hle
      ended := fun outcome hm => by
        have hmem : outcome ∈ [] := ha.outcomes_eq ▸ mem_outcomesOf.2 hm
        cases hmem
      ends := fun hup hle => by
        have hlt := (hp.dueFrom_iff hdue).1 hup
        have hfinish := ha.finish_eq.trans (r.endTime_eq latency).symm
        omega
      lasts := fun time hle => by
        obtain ⟨s', hs', hup, hclock⟩ := h.lasts hp hle
        exact ⟨s', hs.append hs', by rwa [after_append], by rwa [after_append]⟩ }

theorem keepsTime_of_over {m : Metrics} {s₁ s₂ : List Input}
    (hs : r'.Punctual latency r.plays s) (hidle : (r'.after s).Idle)
    (h : Over latency r.nextRun (r.tasks.drop r.startIndex) m (r'.after s)) (hsplit : s = s₁ ++ s₂)
    (hnow : EndsNow latency r.nextRun (r.tasks.drop r.startIndex) m (r'.after s₁)) :
    KeepsTime latency r r' s := by
  have hall := (List.append_nil _).trans h.sends_eq
  have houtcomes : (r'.after s).outcomesOf r.plays = [.ok m] := h.outcomes_eq
  have hended : .ok m ∈ (r'.after s).outcomesOf r.plays := houtcomes ▸ List.mem_singleton_self _
  exact
    { sent := fun _ _ hk => exists_sending hall hk
      due := fun _ x => getElem?_of_append hall h.elapsed (fun _ hd => by cases hd)
        (x.getElem?_sendTimes ..)
      grouped := fun x y hxy ms hms hle => Sending.time_of_group _ _ _ hxy hms hle
      ended := fun outcome hm => by
        have hmem : outcome ∈ [.ok m] := houtcomes ▸ mem_outcomesOf.2 hm
        exact ⟨m, List.mem_singleton.1 hmem, s₁, s₂, hsplit,
          hnow.clock_eq.trans (r.endTime_eq latency).symm, hnow.head_eq⟩
      ends := fun _ _ => ⟨m, mem_outcomesOf.1 hended⟩
      lasts := fun time hle => by
        obtain ⟨s', hs', hup, hclock⟩ := hidle.lasts latency r.plays hle
        exact ⟨s', hs.append hs', by rwa [after_append], by rwa [after_append]⟩ }

end Punctual

/-- **Every undisturbed play keeps to its timetable**, if nothing in it waits for the signal. -/
theorem Reachable.keepsTime {r : Runner} (h : r.Reachable) (he : r.status.executing = false)
    (hne : r.tasks ≠ []) (hw : ∀ t ∈ r.tasks, t.command.instruction ≠ .wait) (latency : Nat) :
    ∃ r', r.play = .ok r' ∧
      ∀ s, r'.Punctual latency r.plays s → KeepsTime latency r r' s := by
  have hp : r.play = .ok ((r.opened.setPhase .running).advance r.nextRun
      (r.tasks.drop r.startIndex)) := by
    simp [play, he, hne]
  refine ⟨_, hp, fun s hs => ?_⟩
  rcases h.onTime_after hw hp hs with
    ⟨b, hprog, ht⟩ | ⟨m, ⟨hover, hidle⟩, s₁, s₂, hsplit, hnow⟩
  · exact keepsTime_of_onTime hs hprog ht
  · exact keepsTime_of_over hs hidle hover hsplit hnow

/-- Two axes that move together, and then hold for the longer of two delays. -/
def pairMoves : Task where
  command :=
    ⟨.group [⟨.x, [1], [10], []⟩, ⟨.y, [2], [30], []⟩], "GROUP(X(1,d10),Y(2,d30))", 1, 0, []⟩
  steps := [.send (targetText .x 1), .send (targetText .y 2), .delay 30]
  planned := rfl

/-- An axis that moves twice and holds in between. -/
def twoLegs : Task where
  command := ⟨.movement [⟨.x, [3, 4], [5], []⟩], "X(3,d5,4)", 2, 0, []⟩
  steps := [.send (targetText .x 3), .delay 5, .send (targetText .x 4)]
  planned := rfl

/-- A runner with a group and a move loaded, to be spaced by 50 milliseconds. -/
def pairThenLegs : Runner :=
  (new { Options.standard with spacing := 50 }).after [.load [pairMoves.command, twoLegs.command]]

/-- If the device takes 7 milliseconds, the last text is sent after 106 and the play is over after
163. -/
theorem pairThenLegs_keepsTime : ∃ r', pairThenLegs.play = .ok r' ∧ ∃ s,
    r'.Punctual 7 0 s ∧ KeepsTime 7 pairThenLegs r' s ∧ (r'.after s).clock = 163 ∧
    ((r'.after s).dispatchesOf 0)[3]? = some (106, targetText .x 4) ∧
    ∃ m, .ended 0 (.ok m) ∈ (r'.after s).journal := by
  have hreach : pairThenLegs.Reachable := (Reachable.new _).after _
  obtain ⟨r', hp, hkeeps⟩ := hreach.keepsTime rfl (by decide) (by decide) 7
  have hclock : r'.clock ≤ 163 := by
    have hmap : pairThenLegs.play.map Runner.clock = .ok 0 := rfl
    rw [hp] at hmap
    rw [Except.ok.inj hmap]
    exact Nat.zero_le _
  obtain ⟨s, hs, hup, hc⟩ := (hkeeps [] trivial).lasts 163 hclock
  have hk := hkeeps _ hs
  let last : Sending (pairThenLegs.tasks.drop pairThenLegs.startIndex) :=
    ⟨[pairMoves], twoLegs, [], [.send (targetText .x 3), .delay 5], targetText .x 4, [], rfl, rfl⟩
  have hlast := hk.due hup last
  rw [hc, if_pos (by decide)] at hlast
  exact ⟨r', hp, s, hs, hk, hc, hlast, hk.ends hup (by rw [hc]; decide)⟩

end Runner

end MotionScript
