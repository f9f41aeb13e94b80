import MotionScript.Proofs.Run.Boundary
import MotionScript.Proofs.Run.Reset

/-!
# The diary of a play

A diary tells what comes about in a play from its beginning on, last moment first: the events that
are announced, what lets the play go on, whether it is asked to stop, and whether it is abandoned.
After its end nothing comes about in it.

* `Moment`, `moments`, `diary`: what comes about in a play with an input, and with a schedule.
* `tells`: the events announced between two states.
* `Keeps`: all that may come about in a play keeps a property of the place where its run is, of its
  diary and of the runner.
* **`InProgress.becomes`**, **`Idle.play_becomes`**: what becomes of a play, and of such a property,
  after every schedule.
-/

namespace MotionScript

/-- Something that comes about in a play. -/
inductive Moment where
  /-- An event is announced. -/
  | told (e : Event)
  /-- Something lets the run go on from where it is blocked. -/
  | woken (b : Blocked) (w : Wake)
  /-- The run is asked to stop. -/
  | stopped
  /-- The run is abandoned by a reset. -/
  | abandoned

/-- Whether a change of phase is announced. -/
def Moment.IsPhase : Moment → Prop
  | told (.phaseChanged _) => True
  | _ => False

/-- The announcement that an entry is. -/
def Entry.moment? : Entry → Option Moment
  | event e => some (.told e)
  | sent _ _ _ _ | ended _ _ => none

namespace Runner

/-- The events announced between two states, last one first. -/
def tells (r r' : Runner) : List Moment :=
  (r'.journal.take (r'.journal.length - r.journal.length)).filterMap Entry.moment?

/-- What comes about in a play with an input, last moment first. As long as the play is in progress
that is whatever is announced, by whichever input. Otherwise it is what is announced when the play
begins, or when something is to let it go on. -/
def moments (p : Nat) (i : Input) (r : Runner) : List Moment :=
  match r.current.find? fun x => x.1.id == p, i with
  | some (run, b), .wake q w =>
    if q = p ∧ r.allows run b w then tells r (r.step i) ++ [.woken b w] else tells r (r.step i)
  | some _, .stop =>
    if r.stop.isSome then tells r (r.step i) ++ [.stopped] else tells r (r.step i)
  | some _, .reset => .abandoned :: tells r (r.step i)
  | some _, _ => tells r (r.step i)
  | none, .play => if r.plays = p then tells r (r.step i) else []
  | none, .wake q _ => if q = p then tells r (r.step i) else []
  | none, _ => []

/-- What comes about in a play with a schedule, last moment first. -/
def diary (p : Nat) : List Input → Runner → List Moment
  | [], _ => []
  | i :: s, r => diary p s (r.step i) ++ moments p i r

/-- What an input that leaves the run in progress where it is changes, with what comes about in the
play: phases are announced, and a stop may be asked for. -/
structure Attends (l : List Moment) (r r' : Runner) : Prop where
  status_eq : r'.status = { r.status with phase := r'.status.phase }
  tasks_eq : r'.tasks = r.tasks
  epoch_eq : r'.epoch = r.epoch
  metrics_eq : r'.metrics = r.metrics
  moments : (∀ m ∈ l, m.IsPhase) ∧ (r'.control = .stop ↔ r.control = .stop) ∨
    ∃ l', (∀ m ∈ l', m.IsPhase) ∧ l = l' ++ [.stopped] ∧ r'.control = .stop

/-- All that may come about in a play keeps a property of the place where its run is, of its diary
and of the runner. -/
structure Keeps (run : Run) (I : Place → List Moment → Runner → Prop) : Prop where
  stride : ∀ {p p' : Place} {r r' : Runner} {l : List Moment}, I p l r →
    Stride run (p, r) (p', r') → I p' (tells r r' ++ l) r'
  departs : ∀ {b : Blocked} {w : Wake} {p : Place} {r r' : Runner} {l : List Moment},
    r.InProgress run b → I (.blocked b) l r → Departs run (r.without run.id) b w (p, r') →
    I p (tells r r' ++ .woken b w :: l) r'
  attends : ∀ {b b' : Blocked} {r r' : Runner} {l l' : List Moment}, I (.blocked b) l r →
    (b' = b ∨ ∃ a wait d, b = .waiting a wait d none ∧ b' = .waiting a wait d (some true)) →
    Attends l' r r' → I (.blocked b') (l' ++ l) r'

/-- What becomes of a play after a schedule: it is in progress, it is over, or it was abandoned. The
diary `l` is that of the play before the schedule. -/
inductive TurnsOut (run : Run) (I : Place → List Moment → Runner → Prop) (l : List Moment)
    (r : Runner) : List Input → Prop where
  | going {s : List Input} {b : Blocked} (h : (r.after s).InProgress run b)
    (hI : I (.blocked b) (diary run.id s r ++ l) (r.after s)) : TurnsOut run I l r s
  | ended {s : List Input} (h : (r.after s).Idle)
    (hI : I .ended (diary run.id s r ++ l) (r.after s)) (s' : List Input)
    (hd : diary run.id (s ++ s') r = diary run.id s r) : TurnsOut run I l r (s ++ s')
  | abandoned {s : List Input} {b : Blocked} (h : (r.after s).InProgress run b)
    (hI : I (.blocked b) (diary run.id s r ++ l) (r.after s)) (s' : List Input)
    (told : List Moment) (ht : ∀ m ∈ told, m.IsPhase)
    (hd : diary run.id (s ++ .reset :: s') r = .abandoned :: (told ++ diary run.id s r)) :
    TurnsOut run I l r (s ++ .reset :: s')

section Diary

variable {P Q : Entry → Prop} {run : Run} {b b' : Blocked} {i : Input} {w : Wake} {k p : Nat}
  {I : Place → List Moment → Runner → Prop} {l : List Moment} {s : List Input} {r r' r'' : Runner}

/-! ## What is announced -/

theorem tells_eq {l : List Entry} (h : r'.journal = l ++ r.journal) :
    tells r r' = l.filterMap Entry.moment? := by
  simp [tells, h]

theorem tells_of_eq (h : r'.journal = r.journal) : tells r r' = [] := tells_eq (l := []) h

theorem tells_self (r : Runner) : tells r r = [] := tells_of_eq rfl

theorem Adds.tells_trans (h : Adds P r r') (h' : Adds Q r' r'') :
    tells r r'' = tells r' r'' ++ tells r r' := by
  obtain ⟨l, e, -⟩ := h
  obtain ⟨l', e', -⟩ := h'
  have e'' : r''.journal = (l' ++ l) ++ r.journal := by rw [e', e, List.append_assoc]
  rw [tells_eq e, tells_eq e', tells_eq e'', List.filterMap_append]

theorem tells_emit (r : Runner) (e : Event) : tells r (r.emit e) = [.told e] :=
  tells_eq (l := [.event e]) rfl

theorem Adds.isPhase (h : Adds (fun e => ∀ m ∈ e.moment?, m.IsPhase) r r') :
    ∀ m ∈ tells r r', m.IsPhase := by
  obtain ⟨l, e, hl⟩ := h
  rw [tells_eq e]
  intro m hm
  obtain ⟨x, hx, hm⟩ := List.mem_filterMap.1 hm
  exact hl x hx m hm

theorem isPhase_setPhase (r : Runner) (p : Phase) : ∀ m ∈ tells r (r.setPhase p), m.IsPhase :=
  Adds.isPhase (.setPhase (.refl _ r) (by rintro m ⟨⟩; trivial))

theorem tells_begin (r : Runner) (t : Task) : ∃ l, (∀ m ∈ l, m.IsPhase) ∧
    tells r (r.begin t) = .told (.started r.status.cursor t.command.raw) :: l := by
  let q : Runner := { r with status := { r.status with callers := t.command.callers } }
  have hcursor : (q.setPhase .running).status.cursor = q.status.cursor := by
    obtain ⟨j, e⟩ := q.setPhase_eq .running
    rw [e]
  have hadds : Adds (fun _ => True) r (q.setPhase .running) := .setPhase (.of_eq rfl) trivial
  have hemit (e : Event) : Adds (fun _ => True) (q.setPhase .running)
      ((q.setPhase .running).emit e) := .emit (.refl _ _) trivial
  refine ⟨tells q (q.setPhase .running), q.isPhase_setPhase .running, ?_⟩
  exact (hadds.tells_trans (hemit _)).trans (by rw [tells_emit]; rfl)

theorem tells_complete (r : Runner) (run : Run) (a : Attempt) : tells r (r.complete run a) =
    [.told (.completed r.status.cursor (r.clock - a.began))] := by
  obtain ⟨m, e⟩ := r.complete_eq run a
  rw [e]
  exact tells_eq (l := [.event _]) rfl

theorem tells_fail (r : Runner) (run : Run) (a : Attempt) (e : Failure) :
    tells r (r.fail run a e) = [.told (.failed r.status.cursor (failureText a.task e))] := by
  obtain ⟨m, he⟩ := r.fail_eq run a e
  rw [he]
  exact tells_eq (l := [.event _]) rfl

theorem tells_pause_fail (r : Runner) (run : Run) (a : Attempt) (e : Failure) :
    ∃ l, (∀ m ∈ l, m.IsPhase) ∧
      tells r (setPhase .paused { r.fail run a e with control := .pause }) =
        l ++ [.told (.failed r.status.cursor (failureText a.task e))] := by
  let q : Runner := { r.fail run a e with control := .pause }
  have hadds : Adds (fun _ => True) r q :=
    (Adds.fail (.refl _ r) a e trivial).trans (.of_eq rfl)
  have hphase : Adds (fun _ => True) q (q.setPhase .paused) := .setPhase (.refl _ q) trivial
  exact ⟨_, q.isPhase_setPhase .paused,
    (hadds.tells_trans hphase).trans (congrArg (_ ++ ·) (r.tells_fail run a e))⟩

theorem tells_fail_finish (r : Runner) (run : Run) (a : Attempt) (e : Failure) :
    tells r ((r.fail run a e).finish run (.error e)) =
      tells (r.fail run a e) ((r.fail run a e).finish run (.error e)) ++
        [.told (.failed r.status.cursor (failureText a.task e))] := by
  have hfail : Adds (fun _ => True) r (r.fail run a e) := .fail (.refl _ r) a e trivial
  have hend : Adds (fun _ => True) (r.fail run a e) ((r.fail run a e).finish run (.error e)) :=
    .finish (.refl _ _) _ (fun _ => trivial) (fun _ => trivial) fun _ => trivial
  exact (hfail.tells_trans hend).trans (congrArg (_ ++ ·) (r.tells_fail run a e))

theorem tells_perform (r : Runner) (run : Run) (a : Attempt) {s : Step} (hs : s ≠ .signal) :
    tells r (r.perform run a s) = [] := by
  cases s with
  | send text => exact tells_eq (l := [.sent _ _ _ _]) rfl
  | delay ms => exact tells_of_eq rfl
  | signal => exact absurd rfl hs

theorem tells_perform_signal (r : Runner) (run : Run) (a : Attempt) :
    ∃ l, (∀ m ∈ l, m.IsPhase) ∧ tells r (r.perform run a .signal) =
      .told (.waiting r.status.cursor run.options.syncTimeout) :: l := by
  let q : Runner := { r with
    slot := some r.waits
    waits := r.waits + 1
    status := { r.status with syncWaitStart := some (r.clock : Int) } }
  have hcursor : (q.setPhase .syncWait).status.cursor = q.status.cursor := by
    obtain ⟨j, e⟩ := q.setPhase_eq .syncWait
    rw [e]
  have hadds : Adds (fun _ => True) r (q.setPhase .syncWait) := .setPhase (.of_eq rfl) trivial
  have hemit (e : Event) (b : Blocked) : Adds (fun _ => True) (q.setPhase .syncWait)
      (((q.setPhase .syncWait).emit e).block run b) :=
    .trans (.emit (.refl _ _) trivial) (.of_eq rfl)
  refine ⟨tells q (q.setPhase .syncWait), q.isPhase_setPhase .syncWait, ?_⟩
  exact (hadds.tells_trans (hemit _ _)).trans (congrArg (· ++ _) (tells_eq (l := [.event _]) rfl))

theorem tells_finish (he : run.epoch = r.epoch) (outcome : Except Failure Unit) :
    ∃ l, (∀ m ∈ l, m.IsPhase) ∧ tells r (r.finish run outcome) =
      .told (.finished (r.finish run outcome).metrics) :: l := by
  let m := if run.options.monitoring then { r.metrics with runTime := r.clock - run.began }
    else r.metrics
  let q : Runner := { r with
    metrics := m
    status := { r.status with executing := false, syncWaitStart := none } }
  have hmetrics : (q.setPhase (endPhase outcome)).metrics = m := by
    obtain ⟨j, e⟩ := q.setPhase_eq (endPhase outcome)
    rw [e]
  have hfinish : r.finish run outcome = ((q.setPhase (endPhase outcome)).emit (.finished m)).note
      (.ended run.id (outcome.map fun _ => m)) := by
    rw [Runner.finish, if_pos he]
    rfl
  have hadds : Adds (fun _ => True) r (q.setPhase (endPhase outcome)) :=
    .setPhase (.of_eq rfl) trivial
  have hemit : Adds (fun _ => True) (q.setPhase (endPhase outcome)) (r.finish run outcome) := by
    rw [hfinish]
    exact .note (.emit (.refl _ _) trivial) trivial
  refine ⟨tells q (q.setPhase (endPhase outcome)), q.isPhase_setPhase _, ?_⟩
  have htold : tells (q.setPhase (endPhase outcome)) (r.finish run outcome) =
      [.told (.finished m)] := by
    rw [hfinish]
    exact tells_eq (l := [.ended _ _, .event _]) rfl
  have heq : (r.finish run outcome).metrics = m := by
    rw [hfinish]
    exact hmetrics
  rw [hadds.tells_trans hemit, htold, heq]
  rfl

theorem tells_endWait (r : Runner) (wait : Nat) (w : Wake) : ∃ l, (∀ m ∈ l, m.IsPhase) ∧
    tells r ((r.disarm wait).endWait w) =
      l ++ match w with
        | .signalled => [.told .signalled]
        | .answered _ | .elapsed | .released => [] := by
  have key {q : Runner} {l : List Moment} (hq : Adds (fun _ => True) r q)
      (hl : tells r q = l) :
      ∃ l', (∀ m ∈ l', m.IsPhase) ∧
        tells r (if q.status.phase = .syncWait then q.setPhase .running else q) = l' ++ l := by
    split
    · have hadds : Adds (fun _ => True) q (q.setPhase .running) := .setPhase (.refl _ _) trivial
      exact ⟨_, q.isPhase_setPhase .running, by rw [hq.tells_trans hadds, hl]⟩
    · exact ⟨[], by simp, hl⟩
  have hsame {q : Runner} (h : q.journal = r.journal) :
      Adds (fun _ => True) r q ∧ tells r q = [] := ⟨.of_eq h, tells_of_eq h⟩
  cases w with
  | signalled =>
    exact key ⟨[.event .signalled], rfl, fun _ _ => trivial⟩
      (tells_eq (l := [.event .signalled]) rfl)
  | elapsed | answered _ | released => exact key (hsame rfl).1 (hsame rfl).2

theorem Stride.adds {p p' : Place} (hs : Stride run (p, r) (p', r')) :
    Adds (fun _ => True) r r' := by
  have hfail (a : Attempt) (e : Failure) : Adds (fun _ => True) r (r.fail run a e) :=
    .fail (.refl _ r) a e trivial
  have hfinish {q : Runner} (outcome : Except Failure Unit) :
      Adds (fun _ => True) q (q.finish run outcome) :=
    .finish (.refl _ q) outcome (fun _ => trivial) (fun _ => trivial) fun _ => trivial
  cases hs with
  | pause | interrupt | space | leave => exact .of_eq rfl
  | stop | finish => exact hfinish _
  | begin hc t => exact .begin (.refl _ r) t (fun _ => trivial) trivial
  | @perform _ hc a s steps =>
    exact Adds.perform (P := fun _ => True) (.refl _ r) { a with steps } (fun _ => trivial)
      (fun _ _ => trivial) fun _ _ => trivial
  | complete _ a => exact .complete (.refl _ r) a fun _ _ => trivial
  | failPaused hc ho a e => exact .setPhase ((hfail a e).trans (.of_eq rfl)) trivial
  | failStopped hc ho a e => exact hfail a e
  | failSkipped _ ho hs a e => exact (hfail a e).trans (.of_eq rfl)
  | failEnded _ ho hs a e => exact (hfail a e).trans (hfinish _)

theorem Departs.adds {p : Place} (hd : Departs run r b w (p, r')) : Adds (fun _ => True) r r' := by
  obtain ⟨l, e, -⟩ := hd.silent.journal
  exact ⟨l, e, fun _ _ => trivial⟩

/-! ## Diaries -/

theorem InProgress.find?_current (h : r.InProgress run b) :
    r.current.find? (fun x => x.1.id == run.id) = some (run, b) := by
  rw [h.current_eq]
  simp

/-- Nothing comes about in a play that is not in progress, unless it begins or goes on. -/
theorem moments_eq_nil (hlt : p < r.plays) (hcur : ∀ x ∈ r.current, x.1.id ≠ p)
    (hw : ∀ w, tells r (r.wake p w) = []) (i : Input) : moments p i r = [] := by
  have hnone : r.current.find? (fun x => x.1.id == p) = none :=
    List.find?_eq_none.2 fun x hx hid => hcur x hx (eq_of_beq hid)
  unfold moments
  rw [hnone]
  cases i with
  | play => exact if_neg (Nat.ne_of_gt hlt)
  | wake q w =>
    dsimp only
    split
    · next hq => exact hq ▸ hw w
    · rfl
  | _ => rfl

/-- Nothing comes about in a play that is over or abandoned. -/
theorem Past.moments_eq (h : Past k r) (hp : p < k) (i : Input) : moments p i r = [] := by
  refine moments_eq_nil (Nat.lt_of_lt_of_le hp h.le_plays) (fun x hx hid => ?_) (fun w => ?_) i
  · obtain ⟨hm, he⟩ := Runner.mem_current.1 hx
    exact Nat.ne_of_lt (h.old x hm (by rwa [hid])) he
  · rcases h.wake_eq hp w with e | ⟨-, e⟩ <;> rw [e]
    · exact tells_self r
    · exact tells_eq (l := [.ended _ _]) rfl

theorem Past.diary_eq (h : Past k r) (hp : p < k) (s : List Input) : diary p s r = [] := by
  induction s generalizing r with
  | nil => rfl
  | cons i s ih => rw [diary, ih (h.step i), h.moments_eq hp, List.append_nil]

theorem diary_eq_nil (hlt : p < r.plays) (hn : ¬ r.Unfinished p) (s : List Input) :
    diary p s r = [] := by
  induction s generalizing r with
  | nil => rfl
  | cons i s ih =>
    have hm : moments p i r = [] := by
      refine moments_eq_nil hlt (fun x hx hid => hn ⟨x, (Runner.mem_current.1 hx).1, hid⟩)
        (fun w => ?_) i
      rcases r.wake_eq p w with e | ⟨run, b, hm, hid, -⟩
      · rw [e, tells_self]
      · exact absurd ⟨_, hm, hid⟩ hn
    rw [diary, hm, List.append_nil]
    exact ih (Nat.lt_of_lt_of_le hlt (r.le_step i).2) (not_unfinished_step hlt hn i)

theorem Idle.past (h : r.Idle) : Past r.plays r :=
  ⟨.inl h, Nat.le_refl _, fun x hx _ => h.old x hx⟩

/-! ## Inputs beside the run in progress -/

theorem Loads.metrics_eq (h : Loads r r') (he : r.status.executing = true) :
    r'.metrics = r.metrics := by
  rcases h with rfl | ⟨he', -⟩
  · rfl
  · rw [he] at he'
    cases he'

/-- Only a run that goes on, a play that begins, a load and a reset change the metrics. -/
theorem Inv.metrics_step (h : r.Inv) (hi : r.Harmless i)
    (hw : ∀ run b w, r.InProgress run b → i = .wake run.id w → ¬ r.allows run b w) :
    (r.step i).metrics = r.metrics := by
  obtain ⟨hreset, hload, hplay⟩ := hi
  have hmode (hi : i = .pause ∨ i = .unpause ∨ i = .stop) : (r.step i).metrics = r.metrics := by
    rcases r.step_mode hi with e | ⟨-, -, c, e⟩ <;> rw [e]
    obtain ⟨j, e⟩ := setPhase_eq { r with control := c } c.phase
    rw [e]
  cases i with
  | load | loadCompilation | loadScript => rw [hload trivial]
  | play =>
    obtain ⟨e, he⟩ := hplay rfl
    rw [Runner.step, Runner.launch, he]
    rfl
  | pause | unpause | stop => exact hmode (by simp)
  | reset => exact absurd rfl hreset
  | signal =>
    simp only [Runner.step, Runner.signal]
    split <;> rfl
  | setOptions | pass => rfl
  | wake q w =>
    rw [Runner.step]
    rcases r.wake_eq q w with e | ⟨run, b, hm, rfl, ha, e⟩ <;> rw [e]
    by_cases he : run.epoch = r.epoch
    · exact absurd ha (hw run b w (h.inProgress_of_mem hm he) rfl)
    · rw [h.goOn_abandoned hm he ha]
      rfl

theorem InProgress.harmless (h : r.InProgress run b) (hi : i ≠ .reset) : r.Harmless i := by
  have hloads {r' : Runner} (hl : Loads r r') : r' = r := by
    rcases hl with e | ⟨he, -⟩
    · exact e
    · rw [h.executing] at he
      cases he
  refine ⟨hi, fun hl => ?_, fun _ => ⟨_, play_eq_error h.executing⟩⟩
  cases i with
  | load cs => exact hloads (r.step_loads.1 cs)
  | loadCompilation c => exact hloads (r.step_loads.2.1 c)
  | loadScript source => exact hloads (r.step_loads.2.2 source)
  | _ => cases hl

theorem Aside.isPhase (ha : Aside i r r') : ∀ m ∈ tells r r', m.IsPhase := by
  refine (ha.adds (fun p => ?_) fun p outcome => ?_).isPhase
  · rintro m ⟨⟩
    trivial
  · rintro m ⟨⟩

theorem InProgress.attends (h : r.InProgress run b) (h' : (r.step i).InProgress run b')
    (hw : ∀ w, i = .wake run.id w → ¬ r.allows run b w) (ha : Aside i r (r.step i)) :
    Attends (moments run.id i r) r (r.step i) := by
  have hreset : i ≠ .reset := by
    rintro rfl
    exact absurd h' (Inv.reset (.inr ⟨run, b, h⟩)).not_inProgress
  have hmetrics := Inv.metrics_step (.inr ⟨run, b, h⟩) (h.harmless hreset) fun run' b' w hp e => by
    obtain ⟨rfl, rfl⟩ := h.unique hp
    exact hw w e
  refine ⟨ha.status_eq, ha.tasks_eq, ha.epoch_eq, hmetrics, ?_⟩
  have hkept (hi : i ≠ .stop) (hm : moments run.id i r = tells r (r.step i)) :
      (∀ m ∈ moments run.id i r, m.IsPhase) ∧
        ((r.step i).control = .stop ↔ r.control = .stop) :=
    ⟨hm ▸ ha.isPhase, fun hc => (ha.stops hc).resolve_right hi, ha.stopped⟩
  unfold moments at hkept ⊢
  rw [h.find?_current] at hkept ⊢
  cases i with
  | stop =>
    dsimp only
    cases hs : r.stop with
    | none =>
      have e : r.step .stop = r := by rw [Runner.step, hs]; rfl
      rw [if_neg (by simp), e]
      exact .inl ⟨by simp [tells_of_eq], Iff.rfl⟩
    | some q =>
      have e : r.step .stop = q := by rw [Runner.step, hs]; rfl
      refine .inr ⟨_, ha.isPhase, if_pos rfl, ?_⟩
      unfold Runner.stop at hs
      split at hs
      · cases hs
        rw [e]
        exact control_setMode r .stop
      · cases hs
  | wake q w =>
    refine .inl (hkept (by simp) ?_)
    exact if_neg fun hq => hw w (by rw [hq.1]) hq.2
  | reset => exact absurd rfl hreset
  | _ => exact .inl (hkept (by simp) rfl)

/-! ## What becomes of a play -/

theorem InProgress.moments_goOn (h : r.InProgress run b) (ha : r.allows run b w) :
    moments run.id (.wake run.id w) r =
      tells r ((r.without run.id).goOn run b w) ++ [.woken b w] := by
  unfold moments
  rw [h.find?_current]
  simp only [ha, and_self, if_true]
  rw [Runner.step, Inv.wake_eq (.inr ⟨run, b, h⟩) h.mem ha]

/-- Where the run goes on, the property holds where it blocks next, or at its end. -/
theorem Keeps.goOn (hk : Keeps run I) (h : r.InProgress run b) (hI : I (.blocked b) l r)
    (ha : r.allows run b w) :
    (∃ b', ((r.without run.id).goOn run b w).InProgress run b' ∧ I (.blocked b')
      (moments run.id (.wake run.id w) r ++ l) ((r.without run.id).goOn run b w)) ∨
    ((r.without run.id).goOn run b w).Idle ∧ I .ended
      (moments run.id (.wake run.id w) r ++ l) ((r.without run.id).goOn run b w) := by
  have hgo := h.goOn_induct
    (I := fun p r' => Adds (fun _ => True) r r' ∧ I p (tells r r' ++ .woken b w :: l) r') ha
    (fun p r' hd => ⟨hd.adds, hk.departs h hI hd⟩)
    (fun p r₁ p' r₂ ⟨hadds, hp⟩ hs => ⟨hadds.trans hs.adds, by
      rw [hadds.tells_trans hs.adds, List.append_assoc]
      exact hk.stride hp hs⟩)
  rw [h.moments_goOn ha, List.append_assoc]
  exact hgo.imp (fun ⟨b', hp, hb⟩ => ⟨b', hp, hb.2⟩) fun ⟨hidle, hb⟩ => ⟨hidle, hb.2⟩

theorem TurnsOut.cons (h : TurnsOut run I (moments run.id i r ++ l) (r.step i) s) :
    TurnsOut run I l r (i :: s) := by
  have hd (s : List Input) : diary run.id s (r.step i) ++ (moments run.id i r ++ l) =
      diary run.id (i :: s) r ++ l := (List.append_assoc _ _ _).symm
  cases h with
  | going h hI => exact .going h (hd _ ▸ hI)
  | ended h hI s' hs =>
    refine .ended (s := i :: _) h (hd _ ▸ hI) s' ?_
    exact congrArg (· ++ moments run.id i r) hs
  | abandoned h hI s' told ht hs =>
    refine .abandoned (s := i :: _) h (hd _ ▸ hI) s' told ht ?_
    rw [List.cons_append, diary, hs, diary, List.cons_append, List.append_assoc]

/-- The run has come to its end, and nothing comes about after it. -/
theorem Idle.becomes (h : r.Idle) (hI : I .ended l r) (hlt : run.id < r.plays) (s : List Input) :
    TurnsOut run I l r s :=
  .ended (s := []) h hI s (h.past.diary_eq hlt s)

/-- **What becomes of the play in progress after a schedule.** The induction is on the schedule. -/
theorem InProgress.becomes (hk : Keeps run I) (h : r.InProgress run b) (hI : I (.blocked b) l r)
    (s : List Input) : TurnsOut run I l r s := by
  induction s generalizing b l r with
  | nil => exact .going h hI
  | cons i s ih =>
    have hlt : run.id < (r.step i).plays :=
      Nat.lt_of_lt_of_le (h.roster.member _ h.mem).id_lt (r.le_step i).2
    have ht := Inv.turn (.inr ⟨run, b, h⟩) i
    generalize hr' : r.step i = r' at ht hlt
    cases ht with
    | load _ hidle | idle hidle | play hidle => exact absurd h hidle.not_inProgress
    | reset =>
      have hpast := (Inv.past_reset (.inr ⟨run, b, h⟩)).diary_eq
        (h.roster.member _ h.mem).id_lt s
      refine .abandoned (s := []) h hI s (tells r r.reset) (Adds.isPhase ?_) ?_
      · exact ⟨[.event (.phaseChanged .idle)], rfl, by simp [Entry.moment?, Moment.IsPhase]⟩
      · change diary run.id s r.reset ++ moments run.id .reset r = _
        have hm : moments run.id .reset r = .abandoned :: tells r r.reset := by
          unfold moments
          rw [h.find?_current]
          rfl
        rw [hpast, hm]
        exact congrArg (_ :: ·) (List.append_nil _).symm
    | goOn h₁ ha =>
      obtain ⟨rfl, rfl⟩ := h₁.unique h
      rcases hk.goOn h hI ha with ⟨b', hp, hb⟩ | ⟨hidle, hb⟩
      · exact .cons (hr' ▸ ih hp hb)
      · exact .cons (hr' ▸ hidle.becomes hb hlt s)
    | aside h₁ h₂ hb hw ha =>
      obtain ⟨rfl, rfl⟩ := h₁.unique h
      subst hr'
      have hb' := hk.attends hI (hb.imp_right And.right) (h.attends h₂ hw ha)
      exact .cons (ih h₂ hb')

theorem Idle.moments_play (h : r.Idle) (hp : r.play = .ok r') :
    moments r.plays .play r = tells r r' := by
  unfold moments
  rw [h.current_eq, ← step_play hp]
  exact if_pos rfl

theorem Inv.diary_refused (h : r.Inv) {e : Failure} (hp : r.play = .error e) (s : List Input) :
    diary r.plays (.play :: s) r = [] := by
  have hroster : Roster r.runs r.epoch r.plays r.slot r.waits := by
    rcases h with h | ⟨run, b, h⟩ <;> exact h.roster
  have hn : ¬ r.Unfinished r.plays := by
    rintro ⟨x, hx, hid⟩
    exact Nat.ne_of_lt (hroster.member x hx).id_lt hid
  have hlaunch :
      r.step .play = { r with plays := r.plays + 1 }.note (.ended r.plays (.error e)) := by
    rw [Runner.step, Runner.launch, hp]
  have hnone : r.current.find? (fun x => x.1.id == r.plays) = none :=
    List.find?_eq_none.2 fun x hx hid => hn ⟨x, (Runner.mem_current.1 hx).1, eq_of_beq hid⟩
  have hm : moments r.plays .play r = [] := by
    unfold moments
    rw [hnone, hlaunch]
    exact (if_pos rfl).trans (tells_eq (l := [.ended _ _]) rfl)
  rw [diary, hm, List.append_nil, hlaunch]
  exact diary_eq_nil (r := { r with plays := r.plays + 1 }.note (.ended r.plays (.error e)))
    (Nat.lt_succ_self _) hn s

theorem Idle.diary_play (h : r.Idle) (hp : r.play = .ok r') (s : List Input) :
    diary r.plays (.play :: s) r = diary r.nextRun.id s r' ++ tells r r' := by
  rw [diary, step_play hp, h.moments_play hp]
  rfl

/-- What changes nothing in a diary from the beginning of a play on changes nothing in the whole. -/
theorem Idle.diary_play_congr (h : r.Idle) (hp : r.play = .ok r') {s s' : List Input}
    (hs : diary r.nextRun.id s' r' = diary r.nextRun.id s r') :
    diary r.plays (.play :: s') r = diary r.plays (.play :: s) r := by
  rw [h.diary_play hp, h.diary_play hp, hs]

/-- **What becomes of a play that begins.** -/
theorem Idle.play_becomes (h : r.Idle) (hp : r.play = .ok r') (hk : Keeps r.nextRun I)
    (h0 : I (.before (r.tasks.drop r.startIndex)) (tells r (r.opened.setPhase .running))
      (r.opened.setPhase .running)) (s : List Input) :
    TurnsOut r.nextRun I (tells r r') r' s := by
  have hopened : Adds (fun _ => True) r (r.opened.setPhase .running) :=
    .setPhase (.of_eq rfl) trivial
  have hlt : r.plays < r'.plays := by
    have hs : Silent r.opened (r.opened.setPhase .running) := .setPhase (.refl _) _
    have hf := (Frame.refl r.nextRun (r.opened.setPhase .running)).advance
      (r.tasks.drop r.startIndex)
    rw [(play_eq_ok hp).2, hf.plays_eq, hs.plays_eq]
    exact Nat.lt_succ_self _
  rcases h.play_induct
    (I := fun p q => Adds (fun _ => True) r q ∧ I p (tells r q) q) hp ⟨hopened, h0⟩
    (fun p r₁ p' r₂ ⟨hadds, hI⟩ hs => ⟨hadds.trans hs.adds, by
      rw [hadds.tells_trans hs.adds]
      exact hk.stride hI hs⟩) with ⟨b, hprog, -, hI⟩ | ⟨hidle, -, hI⟩
  · exact hprog.becomes hk hI s
  · exact hidle.becomes hI hlt s

end Diary

end Runner

end MotionScript
