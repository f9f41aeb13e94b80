import MotionScript.Proofs.Run.Chronicle
import MotionScript.Proofs.Run.Turn
import MotionScript.Proofs.Run.Written

/-!
# Every command is completed exactly once

From when a list of commands is loaded, or the runner reset, until the cursor is at the end, plays
are begun, and stopped or failed, and begun again. What they write is a chronicle of the tasks.

* `Runner.history`: what is written during a schedule, with the options of the runs that write it.
* `Continues`, `Continued`: inputs that neither load something else, nor reset the runner, nor begin
  all over again.
* `Accords`, `Stride.accords`: what is written accords with the place where a run is, one stride
  after the other.
* **`Reachable.exactlyOnce_after`**: every command is passed exactly once.
-/

namespace MotionScript

namespace Runner

/-! ## Histories -/

/-- The options of the run that an input lets act. -/
def actor (r : Runner) : Input → Options
  | .wake play _ =>
    match r.runs.find? fun x => x.1.id == play with
    | some x => x.1.options
    | none => r.options
  | _ => r.options

/-- What is written when an input comes, last entry first. -/
def written (r : Runner) (i : Input) : List (Options × Entry) :=
  ((r.step i).journal.take ((r.step i).journal.length - r.journal.length)).map (r.actor i, ·)

/-- What is written during a schedule, last entry first. -/
def history : List Input → Runner → List (Options × Entry)
  | [], _ => []
  | i :: s, r => history s (r.step i) ++ r.written i

/-- Whether an input goes on with what is loaded. A play does if it is refused, or if the cursor is
not at the end. -/
def Continues (r : Runner) : Input → Prop
  | .reset => False
  | .play => ∀ r', r.play = .ok r' → r.status.cursor < r.status.total
  | i => i.IsLoad → r.step i = r

/-- Every input of a schedule goes on with what is loaded. -/
def Continued : List Input → Runner → Prop
  | [], _ => True
  | i :: s, r => r.Continues i ∧ Continued s (r.step i)

/-! ## What is written accords with the place of a run -/

/-- A task is being attempted: the texts sent so far and those of the steps left make up its
plan. -/
def Attempted (tasks : List Task) (h : List (Options × Entry)) (r : Runner) (a : Attempt) : Prop :=
  a.todo = tasks.drop r.status.cursor ∧ ∃ texts, texts ++ textsOf a.steps = a.task.texts ∧
    Chronicle tasks h r.status.cursor (some texts)

/-- What was written so far accords with the place where a run is. -/
def Accords (tasks : List Task) (h : List (Options × Entry)) (r : Runner) : Place → Prop
  | .before todo | .blocked (.paused todo) =>
    todo = tasks.drop r.status.cursor ∧ ∃ attempt, Chronicle tasks h r.status.cursor attempt
  | .within a | .blocked (.calling a _) | .blocked (.holding a _) | .blocked (.waiting a _ _ _) =>
    Attempted tasks h r a
  | .done a | .blocked (.spacing a _) =>
    a.todo = tasks.drop r.status.cursor ∧
      Chronicle tasks h r.status.cursor (some a.task.texts)
  | .failing a _ =>
    a.todo = tasks.drop r.status.cursor ∧
      ∃ texts, Chronicle tasks h r.status.cursor (some texts)
  | .ended => ∃ attempt, Chronicle tasks h r.status.cursor attempt

/-- What a run writes between two states is added to a history, and accords with the place where it
is. -/
def AccordsAfter (tasks : List Task) (o : Options) (h : List (Options × Entry)) (r r' : Runner)
    (p : Place) : Prop :=
  r'.tasks = tasks ∧ ∃ l, r'.journal = l ++ r.journal ∧ Accords tasks (l.map (o, ·) ++ h) r' p

section Completion

variable {tasks : List Task} {o : Options} {h : List (Options × Entry)} {run : Run} {b : Blocked}
  {r r' r'' : Runner} {p p' : Place}

theorem Accords.congr (hf : Accords tasks h r p) (hc : r'.status.cursor = r.status.cursor) :
    Accords tasks h r' p := by
  unfold Accords Attempted at hf ⊢
  rw [hc]
  exact hf

theorem Accords.mono {h' : List (Options × Entry)} (hf : Accords tasks h r p)
    (hh : ∀ attempt, Chronicle tasks h r.status.cursor attempt →
      Chronicle tasks h' r.status.cursor attempt) : Accords tasks h' r p := by
  have hattempted {a : Attempt} (ha : Attempted tasks h r a) : Attempted tasks h' r a := by
    obtain ⟨hd, texts, ht, hch⟩ := ha
    exact ⟨hd, texts, ht, hh _ hch⟩
  cases p with
  | before todo => exact ⟨hf.1, hf.2.imp hh⟩
  | within a => exact hattempted hf
  | done a => exact ⟨hf.1, hh _ hf.2⟩
  | failing a e => exact ⟨hf.1, hf.2.imp fun _ => hh _⟩
  | ended => exact hf.imp hh
  | blocked b =>
    cases b with
    | paused todo => exact ⟨hf.1, hf.2.imp hh⟩
    | spacing a d => exact ⟨hf.1, hh _ hf.2⟩
    | calling a text | holding a d | waiting a w d told => exact hattempted hf

theorem Accords.remarks (hf : Accords tasks h r p) (o : Options) {l : List Entry}
    (hl : ∀ e ∈ l, e.IsRemark) : Accords tasks (l.map (o, ·) ++ h) r p :=
  hf.mono fun _ hch => hch.remarks o hl

/-- What is written besides says nothing about how far a task is. -/
theorem Accords.after (hf : Accords tasks h r p) (ht : r.tasks = tasks) (o : Options)
    (ha : Adds Entry.IsRemark r r') (ht' : r'.tasks = r.tasks)
    (hc : r'.status.cursor = r.status.cursor) : AccordsAfter tasks o h r r' p := by
  obtain ⟨l, e, hl⟩ := ha
  exact ⟨ht'.trans ht, l, e, (hf.remarks o hl).congr hc⟩

theorem AccordsAfter.trans (hf : AccordsAfter tasks o h r r' p)
    (hs : ∀ h, r'.tasks = tasks → Accords tasks h r' p → AccordsAfter tasks o h r' r'' p') :
    AccordsAfter tasks o h r r'' p' := by
  obtain ⟨ht, l, e, hf⟩ := hf
  obtain ⟨ht', l', e', hf'⟩ := hs _ ht hf
  refine ⟨ht', l' ++ l, by rw [e', e, List.append_assoc], ?_⟩
  rw [List.map_append, List.append_assoc]
  exact hf'

theorem getElem?_cursor {t : Task} {later : List Task}
    (hd : t :: later = tasks.drop r.status.cursor) : tasks[r.status.cursor]? = some t := by
  rw [← List.head?_drop, ← hd, List.head?_cons]

theorem drop_succ {t : Task} {later : List Task} {n : Nat} (hd : t :: later = tasks.drop n) :
    later = tasks.drop (n + 1) := by
  rw [← List.drop_drop, ← hd, List.drop_one, List.tail_cons]

/-! ## Strides -/

theorem finish_accords (hch : ∃ attempt, Chronicle tasks h r.status.cursor attempt)
    (ht : r.tasks = tasks) (outcome : Except Failure Unit) :
    AccordsAfter tasks o h r (r.finish run outcome) .ended := by
  have hf : Accords tasks h r .ended := hch
  have ha : Adds Entry.IsRemark r (r.finish run outcome) :=
    Adds.finish (.refl _ r) outcome (fun _ => trivial) (fun _ => trivial) fun _ => trivial
  obtain ⟨m, j, e⟩ := r.close_eq run outcome
  refine hf.after ht o ha ?_ ?_
  · rw [Runner.finish]
    split
    · rw [e]
    · rfl
  · rw [Runner.finish]
    split
    · rw [e]
    · rfl

theorem begin_accords {t : Task} {later : List Task} (hd : t :: later = tasks.drop r.status.cursor)
    (hch : ∃ attempt, Chronicle tasks h r.status.cursor attempt) (ht : r.tasks = tasks)
    (clock : Nat) :
    AccordsAfter tasks o h r (r.begin t) (.within ⟨t, later, t.steps, 0, false, clock⟩) := by
  have hp : Adds Entry.IsRemark r
      (setPhase .running { r with status := { r.status with callers := t.command.callers } }) :=
    Adds.setPhase (.of_eq rfl) trivial
  obtain ⟨l, e, hl⟩ := hp
  obtain ⟨attempt, hch⟩ := hch
  have hj : (r.begin t).journal =
      .event (.started r.status.cursor t.command.raw) :: l ++ r.journal := congrArg (_ :: ·) e
  obtain ⟨j, e'⟩ := r.begin_eq t
  have hc : (r.begin t).status.cursor = r.status.cursor := by rw [e']
  refine ⟨by rw [e']; exact ht, _, hj, by rw [hc]; exact hd, [], rfl, ?_⟩
  rw [hc]
  exact (hch.remarks o hl).started o (getElem?_cursor hd)

theorem perform_accords {a : Attempt} {s : Step} {steps : List Step} (hs : a.steps = s :: steps)
    (ha : Attempted tasks h r a) (ht : r.tasks = tasks) :
    AccordsAfter tasks o h r (r.perform run { a with steps } s)
      (.blocked (r.blockedIn run { a with steps } s)) := by
  obtain ⟨hd, texts, htexts, hch⟩ := ha
  rw [hs] at htexts
  cases s with
  | send text =>
    have htexts' : texts ++ [text] ++ textsOf steps = a.task.texts := by
      rw [List.append_assoc]
      exact htexts
    exact ⟨ht, [_], rfl, hd, texts ++ [text], htexts',
      hch.sent o (getElem?_cursor hd) ⟨_, htexts'⟩ _ _ _⟩
  | delay ms => exact ⟨ht, [], rfl, hd, texts, htexts, hch⟩
  | signal =>
    have hf : Accords tasks h r (.blocked (r.blockedIn run { a with steps } .signal)) :=
      ⟨hd, texts, htexts, hch⟩
    have hadds : Adds Entry.IsRemark r (r.perform run { a with steps } .signal) :=
      Adds.perform (.refl _ r) _ (fun _ => trivial) (fun _ _ => trivial) fun _ e => by cases e
    obtain ⟨j, e⟩ := r.perform_signal_eq run { a with steps }
    exact hf.after ht o hadds (by rw [e]) (by rw [e])

theorem complete_accords {a : Attempt} (hd : a.todo = tasks.drop r.status.cursor)
    (hch : Chronicle tasks h r.status.cursor (some a.task.texts)) (ht : r.tasks = tasks) :
    AccordsAfter tasks o h r (r.complete run a) (.before a.later) := by
  obtain ⟨m, e⟩ := r.complete_eq run a
  rw [e]
  exact ⟨ht, [_], rfl, drop_succ hd, none, hch.completed o (getElem?_cursor hd) _⟩

theorem fail_accords {a : Attempt} {texts : List String}
    (hch : Chronicle tasks h r.status.cursor (some texts)) (ht : r.tasks = tasks)
    (hd : a.todo = tasks.drop r.status.cursor) (ho : o.skips = false) (e : Failure) :
    AccordsAfter tasks o h r (r.fail run a e) (.before a.todo) := by
  obtain ⟨m, he⟩ := r.fail_eq run a e
  rw [he]
  exact ⟨ht, [_], rfl, hd, none, hch.failed ho _⟩

theorem skip_accords {a : Attempt} {texts : List String}
    (hch : Chronicle tasks h r.status.cursor (some texts)) (ht : r.tasks = tasks)
    (hd : a.todo = tasks.drop r.status.cursor) (ho : o.skips = true) (e : Failure) :
    AccordsAfter tasks o h r (r.fail run a e).skip (.before a.later) := by
  obtain ⟨m, he⟩ := r.fail_eq run a e
  rw [he]
  exact ⟨ht, [_], rfl, drop_succ hd, none, hch.skipped ho _⟩

/-- What one stride keeps: what was written so far accords with the place where the run is. -/
theorem Stride.accords (hs : Stride run (p, r) (p', r')) (ht : r.tasks = tasks)
    (hf : Accords tasks h r p) : AccordsAfter tasks run.options h r r' p' := by
  cases hs with
  | pause hc todo => exact ⟨ht, [], rfl, hf⟩
  | stop hc todo | finish hc => exact finish_accords hf.2 ht _
  | begin hc t later => exact begin_accords hf.1 hf.2 ht _
  | perform hc hs => exact perform_accords hs hf ht
  | interrupt hc hs =>
    obtain ⟨hd, texts, -, hch⟩ := hf
    exact ⟨ht, [], rfl, hd, _, hch⟩
  | space hc hs | leave hs =>
    obtain ⟨hd, texts, htexts, hch⟩ := hf
    rw [hs] at htexts
    obtain rfl : texts = _ := (List.append_nil _).symm.trans htexts
    exact ⟨ht, [], rfl, hd, hch⟩
  | complete _ a => exact complete_accords hf.1 hf.2 ht
  | failPaused hc hpause a e =>
    obtain ⟨hd, texts, hch⟩ := hf
    have hfail : AccordsAfter tasks run.options h r (r.fail run a e) (.before a.todo) :=
      fail_accords hch ht hd (by simp [Options.skips, hpause]) e
    refine hfail.trans fun h' ht' hf' => ?_
    obtain ⟨j, e'⟩ := setPhase_eq { r.fail run a e with control := .pause } .paused
    have hadds : Adds Entry.IsRemark (r.fail run a e)
        (setPhase .paused { r.fail run a e with control := .pause }) :=
      Adds.setPhase (.of_eq rfl) trivial
    exact hf'.after ht' _ hadds (by rw [e']) (by rw [e'])
  | failStopped hc hpause a e =>
    obtain ⟨hd, texts, hch⟩ := hf
    exact fail_accords hch ht hd (by simp [Options.skips, hpause]) e
  | failSkipped _ hpause hskip a e =>
    obtain ⟨hd, texts, hch⟩ := hf
    exact skip_accords hch ht hd (by simp [Options.skips, hpause, hskip]) e
  | failEnded _ hpause hskip a e =>
    obtain ⟨hd, texts, hch⟩ := hf
    have hfail : AccordsAfter tasks run.options h r (r.fail run a e) (.before a.todo) :=
      fail_accords hch ht hd (by simp [Options.skips, hskip]) e
    exact hfail.trans fun h' ht' hf' => finish_accords hf'.2 ht' _

theorem Departs.accords {w : Wake} (hd : Departs run r b w (p, r')) (ht : r.tasks = tasks)
    (hf : Accords tasks h r (.blocked b)) : AccordsAfter tasks run.options h r r' p := by
  have hwait {p : Place} (wait : Nat) (w : Wake) (hf : Accords tasks h r p) :
      AccordsAfter tasks run.options h r ((r.disarm wait).endWait w) p := by
    have hadds : Adds Entry.IsRemark r ((r.disarm wait).endWait w) :=
      Adds.endWait (.of_eq rfl) (fun _ => trivial) fun _ => trivial
    obtain ⟨slot, j, e⟩ := r.endWait_disarm_eq wait w
    exact hf.after ht _ hadds (by rw [e]) (by rw [e])
  have hfailing {a : Attempt} (ha : Attempted tasks h r a) (e : Failure) :
      Accords tasks h r (.failing a e) := ⟨ha.1, ha.2.imp fun _ ht => ht.2⟩
  have hbefore {a : Attempt} (ha : Attempted tasks h r a) : Accords tasks h r (.before a.todo) :=
    ⟨ha.1, ha.2.elim fun _ ht => ⟨_, ht.2⟩⟩
  cases hd with
  | released todo | held a d | spaced a d w | accepted a text => exact ⟨ht, [], rfl, hf⟩
  | unanswered a text fault | rejected a text => exact ⟨ht, [], rfl, hfailing hf _⟩
  | cut a d => exact ⟨ht, [], rfl, hbefore hf⟩
  | signalled a wait d told => exact hwait wait _ hf
  | timedOut a wait d told => exact hwait wait _ (hfailing hf _)
  | cancelled a wait d told => exact hwait wait _ (hbefore hf)

/-! ## Inputs -/

theorem written_eq {i : Input} {l : List Entry} (e : (r.step i).journal = l ++ r.journal) :
    r.written i = l.map (r.actor i, ·) := by
  have hn : (r.step i).journal.length - r.journal.length = l.length := by
    rw [e, List.length_append]
    omega
  rw [written, hn, e, List.take_left]

/-- What was written so far accords with where the run in progress is blocked, if there is one. -/
def Recorded (tasks : List Task) (h : List (Options × Entry)) (r : Runner) : Prop :=
  r.tasks = tasks ∧
    (r.Idle ∧ (∃ attempt, Chronicle tasks h r.status.cursor attempt) ∨
      ∃ run b, r.InProgress run b ∧ Accords tasks h r (.blocked b))

theorem Recorded.chronicle (hr : Recorded tasks h r) :
    ∃ attempt, Chronicle tasks h r.status.cursor attempt := by
  obtain ⟨-, ⟨-, hch⟩ | ⟨run, b, -, ha⟩⟩ := hr
  · exact hch
  · cases b with
    | paused todo => exact ha.2
    | spacing a d => exact ⟨_, ha.2⟩
    | calling a text | holding a d | waiting a w d told =>
      obtain ⟨-, texts, -, hch⟩ := ha
      exact ⟨_, hch⟩

theorem Aside.remarks {i : Input} (ha : Aside i r r') : Adds Entry.IsRemark r r' :=
  ha.adds (fun _ => trivial) fun _ _ => trivial

/-- Where a run is blocked next, or at its end, what was written accords with the place. -/
theorem Recorded.of_outcome {i : Input} {r₀ : Runner} (hJ : r₀.journal = r.journal)
    (hout : (∃ b, (r.step i).InProgress run b ∧
        AccordsAfter tasks (r.actor i) h r₀ (r.step i) (.blocked b)) ∨
      (r.step i).Idle ∧ AccordsAfter tasks (r.actor i) h r₀ (r.step i) .ended) :
    Recorded tasks (r.written i ++ h) (r.step i) := by
  rcases hout with ⟨b, hp, ht, l, e, ha⟩ | ⟨hi, ht, l, e, ha⟩
  · rw [hJ] at e
    rw [written_eq e]
    exact ⟨ht, .inr ⟨run, b, hp, ha⟩⟩
  · rw [hJ] at e
    rw [written_eq e]
    exact ⟨ht, .inl ⟨hi, ha⟩⟩

theorem InProgress.actor_eq (hp : r.InProgress run b) (w : Wake) :
    r.actor (.wake run.id w) = run.options := by
  have hsome : ∃ x, (r.runs.find? fun x => x.1.id == run.id) = some x :=
    Option.isSome_iff_exists.1 (List.find?_isSome.2 ⟨_, hp.mem, by simp⟩)
  obtain ⟨x, hx⟩ := hsome
  have hid : x.1.id = run.id := by simpa using List.find?_some hx
  have he := hp.roster.eq_of_id_eq (List.mem_of_find?_eq_some hx) hp.mem hid
  simp only [actor, hx, he]

theorem startIndex_eq (hlt : r.status.cursor < r.status.total) : r.startIndex = r.status.cursor :=
  if_neg (Nat.not_le.2 hlt)

theorem Recorded.play (hidle : r.Idle) (ht : r.tasks = tasks)
    (hch : ∃ attempt, Chronicle tasks h r.status.cursor attempt)
    (hlt : r.status.cursor < r.status.total) {r' : Runner} (hplay : r.play = .ok r') :
    Recorded tasks (r.written .play ++ h) (r.step .play) := by
  have hstep : r.step .play = r' := step_play hplay
  have hstart : AccordsAfter tasks r.options h r (r.opened.setPhase .running)
      (.before (r.tasks.drop r.startIndex)) := by
    have hf : Accords tasks h r (.before (r.tasks.drop r.startIndex)) := by
      rw [startIndex_eq hlt, ht]
      exact ⟨rfl, hch⟩
    obtain ⟨j, e⟩ := r.opened.setPhase_eq .running
    refine hf.after ht _ (Adds.setPhase (.of_eq rfl) trivial) ?_ ?_
    · rw [e]
      rfl
    · rw [e]
      exact startIndex_eq hlt
  have hout := hidle.play_induct (I := fun p r' => AccordsAfter tasks r.options h r r' p) hplay
    hstart fun p r₁ p' r₂ ha hs => ha.trans fun _ ht' ha' => hs.accords ht' ha'
  rw [← hstep] at hout
  exact .of_outcome rfl hout

theorem Recorded.goOn (hp : r.InProgress run b) (ht : r.tasks = tasks)
    (ha : Accords tasks h r (.blocked b)) {w : Wake} (hw : r.allows run b w) :
    Recorded tasks (r.written (.wake run.id w) ++ h) (r.step (.wake run.id w)) := by
  have hstep : r.step (.wake run.id w) = (r.without run.id).goOn run b w :=
    Inv.wake_eq (.inr ⟨run, b, hp⟩) hp.mem hw
  have ha' : Accords tasks h (r.without run.id) (.blocked b) := ha.congr rfl
  have hout := hp.goOn_induct
    (I := fun p r' => AccordsAfter tasks run.options h (r.without run.id) r' p) hw
    (fun p r' hd => hd.accords ht ha')
    fun p r₁ p' r₂ ha hs => ha.trans fun _ ht' ha' => hs.accords ht' ha'
  rw [← hstep, ← hp.actor_eq w] at hout
  exact .of_outcome rfl hout

theorem Recorded.aside (hr : Recorded tasks h r) {i : Input} (ha : Aside i r (r.step i))
    (hstay : (r.step i).Idle ∨ ∃ run b b', r.InProgress run b ∧ (r.step i).InProgress run b' ∧
      ∀ h, Accords tasks h r (.blocked b) → Accords tasks h r (.blocked b')) :
    Recorded tasks (r.written i ++ h) (r.step i) := by
  obtain ⟨l, e, hl⟩ := ha.remarks
  have hc := congrArg Status.cursor ha.status_eq
  rw [written_eq e]
  refine ⟨ha.tasks_eq.trans hr.1, ?_⟩
  rcases hstay with hi | ⟨run, b, b', hp, hp', hb⟩
  · obtain ⟨attempt, hch⟩ := hr.chronicle
    rw [hc]
    exact .inl ⟨hi, attempt, hch.remarks _ hl⟩
  · obtain ⟨-, ⟨hi, -⟩ | ⟨run₁, b₁, hp₁, ha₁⟩⟩ := hr
    · exact absurd hp hi.not_inProgress
    · obtain ⟨rfl, rfl⟩ := hp₁.unique hp
      exact .inr ⟨_, b', hp', ((hb h ha₁).remarks _ hl).congr hc⟩

/-- Every input that goes on with what is loaded adds to the chronicle. -/
theorem Recorded.step (hr : Recorded tasks h r) (hinv : r.Inv) {i : Input} (hi : r.Continues i) :
    Recorded tasks (r.written i ++ h) (r.step i) := by
  have hturn := hinv.turn i
  generalize hr' : r.step i = r' at hturn
  cases hturn with
  | load hload hidle hidle' ts e =>
    -- a load that goes on with what is loaded has changed nothing
    rw [← hr'] at hidle' ⊢
    have hsame : r.step i = r := by
      cases i <;> first | exact hi trivial | cases hload
    have ha : Aside i r (r.step i) := by
      rw [hsame]
      exact .refl i r
    exact hr.aside ha (.inl hidle')
  | reset => exact hi.elim
  | idle hidle hidle' ha =>
    subst hr'
    exact hr.aside ha (.inl hidle')
  | play hidle hplay =>
    rw [← hr']
    exact .play hidle hr.1 hr.chronicle (hi _ hplay) hplay
  | goOn hp ha =>
    obtain ⟨ht, ⟨hidle, -⟩ | ⟨run₁, b₁, hp₁, ha₁⟩⟩ := hr
    · exact absurd hp hidle.not_inProgress
    · obtain ⟨rfl, rfl⟩ := hp₁.unique hp
      rw [← hr']
      exact .goOn hp ht ha₁ ha
  | aside hp hp' hb hw ha =>
    subst hr'
    refine hr.aside ha (.inr ⟨_, _, _, hp, hp', fun h ha => ?_⟩)
    rcases hb with rfl | ⟨-, a, wait, d, rfl, rfl⟩
    · exact ha
    · exact ha

theorem Recorded.after (hr : Recorded tasks h r) (hinv : r.Inv) {s : List Input}
    (hs : r.Continued s) : Recorded tasks (r.history s ++ h) (r.after s) := by
  induction s generalizing r h with
  | nil => exact hr
  | cons i s ih =>
    rw [history, List.append_assoc]
    exact ih (hr.step hinv hs.1) (hinv.step i) hs.2

/-- **Every command is passed exactly once.** From a state in which nothing is executed and the
cursor is at the first command, which a load or a reset leaves behind, whatever goes on with what is
loaded passes each command once, up to the cursor. -/
theorem Reachable.exactlyOnce_after (hr : r.Reachable) (hidle : r.status.executing = false)
    (hcursor : r.status.cursor = 0) {s : List Input} (hs : r.Continued s) :
    ExactlyOnce r.tasks (r.after s).status.cursor (r.history s) := by
  have hstart : Recorded r.tasks [] r :=
    ⟨rfl, .inl ⟨hr.inv.idle hidle, none, hcursor ▸ .nil⟩⟩
  obtain ⟨attempt, hch⟩ := (hstart.after hr.inv hs).chronicle
  rw [List.append_nil] at hch
  exact hch.exactlyOnce

end Completion

/-- A wait and a detection are loaded. -/
def waitAndDetection : Runner :=
  (new Options.standard).after
    [.load [⟨.wait, "WAIT", 1, 0, []⟩, ⟨.detect, "DETECT", 2, 0, []⟩]]

/-- The first play is stopped in the wait. The second one is signalled and comes to the end. -/
def stoppedOnce : List Input :=
  [.play, .stop, .wake 0 .released, .play, .signal, .wake 1 .signalled,
    .wake 1 (.answered (.ok (.accepted ""))), .pass 50, .wake 1 .elapsed]

theorem stoppedOnce_exactlyOnce : waitAndDetection.Continued stoppedOnce ∧
    ExactlyOnce waitAndDetection.tasks 2 (waitAndDetection.history stoppedOnce) := by
  have hs : waitAndDetection.Continued stoppedOnce :=
    ⟨fun _ _ => by decide, False.elim, False.elim, fun _ _ => by decide, False.elim, False.elim,
      False.elim, False.elim, False.elim, trivial⟩
  have hc : (waitAndDetection.after stoppedOnce).status.cursor = 2 := by decide
  have hr : waitAndDetection.Reachable := (Reachable.new _).after _
  have h := Reachable.exactlyOnce_after hr rfl rfl hs
  rw [hc] at h
  exact ⟨hs, h⟩

end Runner

end MotionScript
