import Mathlib.Logic.Relation
import MotionScript.Proofs.Run.Frame
import MotionScript.Proofs.Run.Invariant
import MotionScript.Proofs.Run.Written

/-!
# The strides of a run

What a run does from one place where it blocks to the next is a chain of strides. A stride says
everything that the run may do next, and when; what holds along a chain is proved one stride at a
time.

* `Place`: where a run is while it is carried out.
* `Departs`: how a blocked run goes on.
* `Stride`: what it does next.
* `advance_leads`, `Departs.leads`: a run that begins, or goes on, takes strides until it blocks or
  ends.
* **`InProgress.goOn_induct`**, **`Idle.play_induct`**: what every stride keeps holds where the run
  blocks next, or at its end.
* `carry`, `Departs.goOn_eq`: a blocked run goes on from the place that it departs to.
-/

namespace MotionScript

/-- Whether a run leaves out a task that failed. -/
def Options.skips (o : Options) : Bool := o.skipErrors && !o.pauseOnError

/-- Where a run is while it is carried out. -/
inductive Place where
  /-- Before the first of the remaining tasks. -/
  | before (todo : List Task)
  /-- Before the next step of a task. -/
  | within (a : Attempt)
  /-- At the end of a task that is done, its spacing included. -/
  | done (a : Attempt)
  | failing (a : Attempt) (e : Failure)
  | blocked (b : Blocked)
  | ended

/-- The tasks that are not done. -/
def Place.todo : Place → List Task
  | before todo => todo
  | within a | done a | failing a _ => a.todo
  | blocked b => b.todo
  | ended => []

/-- Whether a run has no more to do before something lets it go on. -/
def Place.IsEnd : Place → Prop
  | blocked _ | ended => True
  | _ => False

namespace Runner

/-- Where a run blocks in a step of a task. -/
def blockedIn (run : Run) (a : Attempt) (s : Step) (r : Runner) : Blocked :=
  match s with
  | .send text => .calling a text
  | .delay ms => .holding a (r.clock + ms)
  | .signal => .waiting a r.waits (r.clock + run.options.syncTimeout) none

/-- The cursor passes over a task. -/
def skip (r : Runner) : Runner :=
  { r with status := { r.status with cursor := r.status.cursor + 1 } }

/-- How a run of the present epoch goes on from where it is blocked. -/
inductive Departs (run : Run) (r : Runner) : Blocked → Wake → Place × Runner → Prop where
  | released (todo : List Task) : Departs run r (.paused todo) .released (.before todo, r)
  | unanswered (a : Attempt) (text : String) (fault : Fault) :
    Departs run r (.calling a text) (.answered (.error fault)) (.failing a (.device fault), r)
  | rejected (a : Attempt) (text : String) {reply : Reply} (h : reply.success = false) :
    Departs run r (.calling a text) (.answered (.ok reply))
      (.failing a (.rejected text reply.message), r)
  | accepted (a : Attempt) (text : String) {reply : Reply} (h : reply.success = true) :
    Departs run r (.calling a text) (.answered (.ok reply))
      (.within { a with retries := a.retries + reply.retries, sent := true }, r)
  | held (a : Attempt) (d : Nat) : Departs run r (.holding a d) .elapsed (.within a, r)
  | cut (a : Attempt) (d : Nat) (hc : r.control = .stop) :
    Departs run r (.holding a d) .released (.before a.todo, r)
  | spaced (a : Attempt) (d : Nat) (w : Wake) : Departs run r (.spacing a d) w (.done a, r)
  | signalled (a : Attempt) (wait d : Nat) (told : Option Bool) :
    Departs run r (.waiting a wait d told) .signalled
      (.within a, (r.disarm wait).endWait .signalled)
  | timedOut (a : Attempt) (wait d : Nat) (told : Option Bool) :
    Departs run r (.waiting a wait d told) .elapsed
      (.failing a (.syncTimeout (1000 * run.options.syncTimeout)),
        (r.disarm wait).endWait .elapsed)
  | cancelled (a : Attempt) (wait d : Nat) (told : Option Bool) (hc : r.control = .stop) :
    Departs run r (.waiting a wait d told) .released
      (.before a.todo, (r.disarm wait).endWait .released)

/-- What a run of the present epoch does next. -/
inductive Stride (run : Run) : Place × Runner → Place × Runner → Prop where
  | pause {r : Runner} (hc : r.control = .pause) (todo : List Task) :
    Stride run (.before todo, r) (.blocked (.paused todo), r.block run (.paused todo))
  | stop {r : Runner} (hc : r.control = .stop) (todo : List Task) :
    Stride run (.before todo, r) (.ended, r.finish run (.ok ()))
  | finish {r : Runner} (hc : r.control = .run) :
    Stride run (.before [], r) (.ended, r.finish run (.ok ()))
  | begin {r : Runner} (hc : r.control = .run) (t : Task) (later : List Task) :
    Stride run (.before (t :: later), r)
      (.within ⟨t, later, t.steps, 0, false, r.clock⟩, r.begin t)
  | perform {r : Runner} (hc : r.control ≠ .stop) {a : Attempt} {s : Step} {steps : List Step}
    (hs : a.steps = s :: steps) :
    Stride run (.within a, r)
      (.blocked (r.blockedIn run { a with steps } s), r.perform run { a with steps } s)
  | interrupt {r : Runner} (hc : r.control = .stop) {a : Attempt} (hs : a.steps ≠ []) :
    Stride run (.within a, r) (.before a.todo, r)
  | space {r : Runner} (hc : r.control ≠ .stop) {a : Attempt} (hs : a.steps = [])
    (hsent : a.sent = true) (hpos : 0 < run.options.spacing) :
    Stride run (.within a, r)
      (.blocked (.spacing a (r.clock + run.options.spacing)),
        r.block run (.spacing a (r.clock + run.options.spacing)))
  | leave {r : Runner} {a : Attempt} (hs : a.steps = [])
    (hn : ¬ (a.sent = true ∧ 0 < run.options.spacing ∧ r.control ≠ .stop)) :
    Stride run (.within a, r) (.done a, r)
  | complete (r : Runner) (a : Attempt) :
    Stride run (.done a, r) (.before a.later, r.complete run a)
  | failPaused {r : Runner} (hc : r.control ≠ .stop) (ho : run.options.pauseOnError = true)
    (a : Attempt) (e : Failure) :
    Stride run (.failing a e, r)
      (.before a.todo, setPhase .paused { r.fail run a e with control := .pause })
  | failStopped {r : Runner} (hc : r.control = .stop) (ho : run.options.pauseOnError = true)
    (a : Attempt) (e : Failure) :
    Stride run (.failing a e, r) (.before a.todo, r.fail run a e)
  | failSkipped (r : Runner) (ho : run.options.pauseOnError = false)
    (hs : run.options.skipErrors = true) (a : Attempt) (e : Failure) :
    Stride run (.failing a e, r) (.before a.later, (r.fail run a e).skip)
  | failEnded (r : Runner) (ho : run.options.pauseOnError = false)
    (hs : run.options.skipErrors = false) (a : Attempt) (e : Failure) :
    Stride run (.failing a e, r) (.ended, (r.fail run a e).finish run (.error e))

/-- A run gets by strides to where it blocks next, or to its end. -/
def Leads (run : Run) (x : Place × Runner) (r' : Runner) : Prop :=
  ∃ p : Place, p.IsEnd ∧ Relation.ReflTransGen (Stride run) x (p, r')

theorem endWait_disarm_eq (r : Runner) (wait : Nat) (w : Wake) :
    ∃ slot j, (r.disarm wait).endWait w =
      { r with
        slot
        status := { r.status with
          syncWaitStart := none
          syncTimeouts := r.status.syncTimeouts + w.late
          phase := if r.status.phase = .syncWait then .running else r.status.phase }
        journal := j } := by
  obtain ⟨j, e⟩ := (r.disarm wait).endWait_eq w
  exact ⟨_, j, e⟩

theorem epoch_endWait_disarm (r : Runner) (wait : Nat) (w : Wake) :
    ((r.disarm wait).endWait w).epoch = r.epoch := by
  obtain ⟨slot, j, e⟩ := r.endWait_disarm_eq wait w
  rw [e]

section Leads

variable {run : Run} {r r' : Runner}

theorem Leads.head {x y : Place × Runner} (hs : Stride run x y) (h : Leads run y r') :
    Leads run x r' := by
  obtain ⟨p, hp, hy⟩ := h
  exact ⟨p, hp, .head hs hy⟩

theorem Stride.leads {x : Place × Runner} {p : Place} (hs : Stride run x (p, r')) (hp : p.IsEnd) :
    Leads run x r' :=
  ⟨p, hp, .single hs⟩

theorem Leads.induct {I : Place → Runner → Prop} {p : Place} (h : Leads run (p, r) r')
    (hI : ∀ p r p' r', I p r → Stride run (p, r) (p', r') → I p' r') (h0 : I p r) :
    ∃ p' : Place, p'.IsEnd ∧ I p' r' := by
  obtain ⟨q, hq, hs⟩ := h
  refine ⟨q, hq, ?_⟩
  have key : ∀ y, Relation.ReflTransGen (Stride run) (p, r) y → I y.1 y.2 := by
    intro y hy
    induction hy with
    | refl => exact h0
    | tail _ hyz ih => exact hI _ _ _ _ ih hyz
  exact key _ hs

/-! ## What a run does is a chain of strides -/

theorem advance_leads (he : run.epoch = r.epoch) (todo : List Task) :
    Leads run (.before todo, r) (r.advance run todo) := by
  fun_induction Runner.advance run todo r with
  | case1 todo r hc => exact (Stride.pause hc todo).leads trivial
  | case2 todo r hc => exact (Stride.stop hc todo).leads trivial
  | case3 _ _ _ hne => exact absurd he hne
  | case4 r hc => exact (Stride.finish hc).leads trivial
  | case5 r hc _ t later ht ih =>
    have hs : Silent r ((r.begin t).complete run ⟨t, later, [], 0, false, r.clock⟩) :=
      .complete (.begin (.refl r) t) _
    have hb : Stride run (.before (t :: later), r) _ := .begin hc t later
    rw [ht] at hb
    exact .head hb (.head (.leave rfl (by simp)) (.head (.complete _ _)
      (ih (he.trans hs.epoch_eq.symm))))
  | case6 r hc _ t later s steps ht =>
    have hs : Silent r (r.begin t) := .begin (.refl r) t
    have hc' : (r.begin t).control ≠ .stop := by
      rw [hs.control_eq, hc]
      decide
    exact .head (.begin hc t later) ((Stride.perform hc' ht).leads trivial)

theorem afterFailure_leads (he : run.epoch = r.epoch) (a : Attempt) (e : Failure) :
    Leads run (.failing a e, r) (r.afterFailure run a e) := by
  have hs : Silent r (r.fail run a e) := .fail (.refl r) a e
  have he' : run.epoch = (r.fail run a e).epoch := he.trans hs.epoch_eq.symm
  simp only [Runner.afterFailure]
  split
  · next ho =>
    split
    · next hc => exact .head (.failStopped (hs.control_eq ▸ hc) ho a e) (advance_leads he' _)
    · next hc =>
      have hp : Silent { r.fail run a e with control := .pause }
        (setPhase .paused { r.fail run a e with control := .pause }) := .setPhase (.refl _) _
      exact .head (.failPaused (hs.control_eq ▸ hc) ho a e)
        (advance_leads (he'.trans hp.epoch_eq.symm) _)
  · next ho =>
    split
    · next hsk =>
      exact .head (.failSkipped r (by simpa using ho) hsk a e)
        (advance_leads (r := (r.fail run a e).skip) he' a.later)
    · next hsk =>
      exact (Stride.failEnded r (by simpa using ho) (by simpa using hsk) a e).leads trivial

theorem done_leads (he : run.epoch = r.epoch) (a : Attempt) :
    Leads run (.done a, r) (r.conclude run a .done) := by
  have hs : Silent r (r.complete run a) := .complete (.refl r) a
  rw [conclude_eq he]
  exact .head (.complete r a) (advance_leads (he.trans hs.epoch_eq.symm) _)

theorem interrupted_leads (he : run.epoch = r.epoch) (a : Attempt) :
    Leads run (.before a.todo, r) (r.conclude run a .interrupted) := by
  rw [conclude_eq he]
  exact advance_leads he _

theorem failed_leads (he : run.epoch = r.epoch) (a : Attempt) (e : Failure) :
    Leads run (.failing a e, r) (r.conclude run a (.failed e)) := by
  rw [conclude_eq he]
  exact afterFailure_leads he a e

theorem resume_leads (he : run.epoch = r.epoch) (a : Attempt) :
    Leads run (.within a, r) (r.resume run a) := by
  have hgo : r.MayGoOn run ↔ r.control ≠ .stop := by simp [MayGoOn, he]
  simp only [Runner.resume, hgo]
  split
  · next hs =>
    split
    · next hn => exact (Stride.space hn.2.2 hs hn.1 hn.2.1).leads trivial
    · next hn => exact .head (.leave hs hn) (done_leads he a)
  · next s steps hs =>
    split
    · next hc => exact (Stride.perform hc hs).leads trivial
    · next hc => exact .head (.interrupt (not_not.1 hc) (by simp [hs])) (interrupted_leads he a)

/-- **A run that goes on takes strides until it blocks or ends.** -/
theorem Departs.leads {b : Blocked} {w : Wake} {x : Place × Runner} (h : Departs run r b w x)
    (he : run.epoch = r.epoch) : Leads run x (r.goOn run b w) := by
  have hwait (wait : Nat) (w : Wake) : run.epoch = ((r.disarm wait).endWait w).epoch :=
    he.trans (r.epoch_endWait_disarm wait w).symm
  cases h with
  | released todo => exact advance_leads he todo
  | unanswered a text fault => exact failed_leads he a _
  | rejected a text h =>
    simp only [Runner.goOn, Runner.hear, h]
    exact failed_leads he a _
  | accepted a text h =>
    simp only [Runner.goOn, Runner.hear, h, if_true]
    exact resume_leads he _
  | held a d => exact resume_leads he a
  | cut a d hc => exact interrupted_leads he a
  | spaced a d w => exact done_leads he a
  | signalled a wait d told =>
    simp only [Runner.goOn, leaveWait_eq he]
    exact resume_leads (hwait _ _) a
  | timedOut a wait d told =>
    simp only [Runner.goOn, leaveWait_eq he]
    exact failed_leads (hwait _ _) a _
  | cancelled a wait d told hc =>
    simp only [Runner.goOn, leaveWait_eq he]
    exact interrupted_leads (hwait _ _) a

/-- The run in progress departs whenever something lets it go on. -/
theorem InProgress.departs {b : Blocked} {w : Wake} (h : r.InProgress run b)
    (ha : r.allows run b w) : ∃ x, Departs run (r.without run.id) b w x := by
  have hstop (hg : ¬ r.MayGoOn run) : (r.without run.id).control = .stop :=
    stop_of_not_mayGoOn h.epoch_eq hg
  cases b with
  | paused todo =>
    cases w with
    | released => exact ⟨_, .released todo⟩
    | answered reply | elapsed | signalled => simp [allows] at ha
  | calling a text =>
    cases w with
    | answered reply =>
      cases reply with
      | error fault => exact ⟨_, .unanswered a text fault⟩
      | ok reply =>
        cases hs : reply.success with
        | false => exact ⟨_, .rejected a text hs⟩
        | true => exact ⟨_, .accepted a text hs⟩
    | elapsed | signalled | released => simp [allows] at ha
  | holding a d =>
    cases w with
    | elapsed => exact ⟨_, .held a d⟩
    | released => exact ⟨_, .cut a d (hstop (by simpa [allows] using ha))⟩
    | answered reply | signalled => simp [allows] at ha
  | spacing a d => exact ⟨_, .spaced a d w⟩
  | waiting a wait d told =>
    cases w with
    | signalled => exact ⟨_, .signalled a wait d told⟩
    | elapsed => exact ⟨_, .timedOut a wait d told⟩
    | released => exact ⟨_, .cancelled a wait d told (h.stop_of_released ha)⟩
    | answered reply => simp [allows] at ha

/-! ## Where a chain of strides ends -/

/-- What holds of a place where a run is: where it is blocked it is in the list, and once it is over
no run is in progress. -/
def InPlace (run : Run) (p : Place) (r : Runner) : Prop :=
  run.epoch = r.epoch ∧
    match p with
    | .blocked b => (run, b) ∈ r.runs
    | .ended => r.status.executing = false
    | _ => True

theorem mem_runs_perform (a : Attempt) (s : Step) :
    (run, r.blockedIn run a s) ∈ (r.perform run a s).runs := by
  cases s with
  | send text | delay ms => exact List.mem_append_right _ (List.mem_singleton_self _)
  | signal => exact List.mem_append_right _ (List.mem_singleton_self _)

theorem inPlace_finish (he : run.epoch = r.epoch) (outcome : Except Failure Unit) :
    InPlace run .ended (r.finish run outcome) := by
  obtain ⟨m, j, e⟩ := r.close_eq run outcome
  rw [InPlace, Runner.finish, if_pos he, e]
  exact ⟨he, rfl⟩

theorem Stride.inPlace {p p' : Place} (hs : Stride run (p, r) (p', r')) (h : InPlace run p r) :
    InPlace run p' r' := by
  have he := h.1
  cases hs with
  | pause hc todo => exact ⟨he, List.mem_append_right _ (List.mem_singleton_self _)⟩
  | stop hc todo | finish hc => exact inPlace_finish he _
  | begin hc t later =>
    have hb : Silent r (r.begin t) := .begin (.refl r) t
    exact ⟨he.trans hb.epoch_eq.symm, trivial⟩
  | @perform _ hc a s steps hs =>
    have hf := (Frame.refl run r).perform { a with steps } s
    exact ⟨he.trans hf.epoch_eq.symm, mem_runs_perform _ _⟩
  | interrupt hc hs => exact ⟨he, trivial⟩
  | space hc hs hsent hpos => exact ⟨he, List.mem_append_right _ (List.mem_singleton_self _)⟩
  | leave hs hn => exact ⟨he, trivial⟩
  | complete _ a =>
    have hb : Silent r (r.complete run a) := .complete (.refl r) a
    exact ⟨he.trans hb.epoch_eq.symm, trivial⟩
  | failPaused hc ho a e =>
    have hf : Silent r (r.fail run a e) := .fail (.refl r) a e
    have hp : Silent { r.fail run a e with control := .pause }
      (setPhase .paused { r.fail run a e with control := .pause }) := .setPhase (.refl _) _
    exact ⟨(he.trans hf.epoch_eq.symm).trans hp.epoch_eq.symm, trivial⟩
  | failStopped hc ho a e | failSkipped _ ho hsk a e =>
    have hf : Silent r (r.fail run a e) := .fail (.refl r) a e
    exact ⟨he.trans hf.epoch_eq.symm, trivial⟩
  | failEnded _ ho hsk a e =>
    have hf : Silent r (r.fail run a e) := .fail (.refl r) a e
    exact inPlace_finish (he.trans hf.epoch_eq.symm) _

theorem Inv.inProgress_of_mem {b : Blocked} (h : r.Inv) (hm : (run, b) ∈ r.runs)
    (he : run.epoch = r.epoch) : r.InProgress run b := by
  rcases h with h | ⟨run', b', h⟩
  · exact absurd he (Nat.ne_of_lt (h.old _ hm))
  · cases h.eq_of_epoch_eq hm he
    exact h

/-- What every stride keeps holds where a chain of strides ends: the run is blocked and in progress,
or it is over. -/
theorem Leads.outcome {I : Place → Runner → Prop} {p : Place} (h : Leads run (p, r) r')
    (hinv : r'.Inv) (hst : InPlace run p r)
    (hI : ∀ p r p' r', I p r → Stride run (p, r) (p', r') → I p' r') (h0 : I p r) :
    (∃ b, r'.InProgress run b ∧ I (.blocked b) r') ∨ r'.Idle ∧ I .ended r' := by
  obtain ⟨q, hq, hst', hq'⟩ := h.induct (I := fun p r => InPlace run p r ∧ I p r)
    (fun _ _ _ _ hi hs => ⟨hs.inPlace hi.1, hI _ _ _ _ hi.2 hs⟩) ⟨hst, h0⟩
  cases q with
  | blocked b => exact .inl ⟨b, hinv.inProgress_of_mem hst'.2 hst'.1, hq'⟩
  | ended => exact .inr ⟨hinv.idle hst'.2, hq'⟩
  | before | within | done | failing => exact hq.elim

theorem Departs.inPlace {b : Blocked} {w : Wake} {p : Place} (h : Departs run r b w (p, r'))
    (he : run.epoch = r.epoch) : InPlace run p r' := by
  have hwait (wait : Nat) (w : Wake) : run.epoch = ((r.disarm wait).endWait w).epoch :=
    he.trans (r.epoch_endWait_disarm wait w).symm
  cases h with
  | signalled | timedOut | cancelled => exact ⟨hwait _ _, trivial⟩
  | _ => exact ⟨he, trivial⟩

/-- **What every stride keeps holds where the run in progress blocks next, or at its end.** -/
theorem InProgress.goOn_induct {I : Place → Runner → Prop} {b : Blocked} {w : Wake}
    (h : r.InProgress run b) (ha : r.allows run b w)
    (h0 : ∀ p r', Departs run (r.without run.id) b w (p, r') → I p r')
    (hI : ∀ p r p' r', I p r → Stride run (p, r) (p', r') → I p' r') :
    (∃ b', ((r.without run.id).goOn run b w).InProgress run b' ∧
      I (.blocked b') ((r.without run.id).goOn run b w)) ∨
    ((r.without run.id).goOn run b w).Idle ∧ I .ended ((r.without run.id).goOn run b w) := by
  obtain ⟨⟨p, r'⟩, hd⟩ := h.departs ha
  have he : run.epoch = (r.without run.id).epoch := h.epoch_eq
  exact (hd.leads he).outcome (h.goOn ha) (hd.inPlace he) hI (h0 p r' hd)

/-- **What every stride keeps holds where a new run blocks first, or at its end.** -/
theorem Idle.play_induct {I : Place → Runner → Prop} (h : r.Idle) (hp : r.play = .ok r')
    (h0 : I (.before (r.tasks.drop r.startIndex)) (r.opened.setPhase .running))
    (hI : ∀ p r₁ p' r₂, I p r₁ → Stride r.nextRun (p, r₁) (p', r₂) → I p' r₂) :
    (∃ b, r'.InProgress r.nextRun b ∧ I (.blocked b) r') ∨ r'.Idle ∧ I .ended r' := by
  have hinv : r'.Inv := Inv.play (.inl h) hp
  obtain ⟨-, rfl⟩ := play_eq_ok hp
  have hs : Silent r.opened (r.opened.setPhase .running) := .setPhase (.refl _) _
  have he : r.nextRun.epoch = (r.opened.setPhase .running).epoch := hs.epoch_eq.symm
  exact (advance_leads he _).outcome hinv ⟨he, trivial⟩ hI h0

/-! ## How a run goes on -/

/-- What comes of a run from a place where it is carried out. -/
def carry (run : Run) : Place → Runner → Runner
  | .before todo, r => r.advance run todo
  | .within a, r => r.resume run a
  | .done a, r => r.conclude run a .done
  | .failing a e, r => r.afterFailure run a e
  | .blocked _, r | .ended, r => r

theorem Departs.goOn_eq {b : Blocked} {w : Wake} {p : Place} (hd : Departs run r b w (p, r'))
    (he : run.epoch = r.epoch) : r.goOn run b w = carry run p r' := by
  have hwait (wait : Nat) (w : Wake) : run.epoch = ((r.disarm wait).endWait w).epoch :=
    he.trans (r.epoch_endWait_disarm wait w).symm
  cases hd with
  | released | held | spaced => rfl
  | unanswered a text fault => exact conclude_eq he a (.failed (.device fault))
  | @rejected a text reply h =>
    simp only [Runner.goOn, Runner.hear, h]
    exact conclude_eq he a (.failed (.rejected text reply.message))
  | accepted a text h => simp only [Runner.goOn, Runner.hear, h, if_true, carry]
  | cut a d hc => exact conclude_eq he a .interrupted
  | signalled a wait d told => exact leaveWait_eq he a wait .signalled
  | timedOut a wait d told =>
    exact (leaveWait_eq he a wait .elapsed).trans (conclude_eq (hwait _ _) a (.failed _))
  | cancelled a wait d told hc =>
    exact (leaveWait_eq he a wait .released).trans (conclude_eq (hwait _ _) a .interrupted)

/-- A run that departs changes what the status tells of its wait, and nothing else of it. -/
theorem Departs.eq {b : Blocked} {w : Wake} {p : Place} (hd : Departs run r b w (p, r')) :
    ∃ slot start timeouts phase j, r' = { r with
      slot
      status := { r.status with syncWaitStart := start, syncTimeouts := timeouts, phase }
      journal := j } := by
  cases hd with
  | signalled a wait | timedOut a wait | cancelled a wait =>
    obtain ⟨slot, j, e⟩ := r.endWait_disarm_eq wait _
    exact ⟨slot, _, _, _, j, e⟩
  | _ => exact ⟨_, _, _, _, _, rfl⟩

theorem Departs.silent {b : Blocked} {w : Wake} {p : Place} (hd : Departs run r b w (p, r')) :
    Silent r r' := by
  have hdisarm (wait : Nat) : Silent r (r.disarm wait) := .update (.refl r)
  cases hd with
  | signalled a wait | timedOut a wait | cancelled a wait => exact (hdisarm wait).endWait _
  | _ => exact .refl r

/-! ## Time and tasks -/

theorem Stride.constant {p p' : Place} (hs : Stride run (p, r) (p', r')) :
    r'.clock = r.clock ∧ r'.tasks = r.tasks := by
  have hfinish (r : Runner) (outcome : Except Failure Unit) :
      (r.finish run outcome).clock = r.clock ∧ (r.finish run outcome).tasks = r.tasks := by
    unfold Runner.finish
    split
    · obtain ⟨m, j, e⟩ := r.close_eq run outcome
      rw [e]
      exact ⟨rfl, rfl⟩
    · exact ⟨rfl, rfl⟩
  have hfail (a : Attempt) (e : Failure) :
      (r.fail run a e).clock = r.clock ∧ (r.fail run a e).tasks = r.tasks := by
    obtain ⟨m, he⟩ := r.fail_eq run a e
    rw [he]
    exact ⟨rfl, rfl⟩
  cases hs with
  | pause | interrupt | space | leave => exact ⟨rfl, rfl⟩
  | stop | finish => exact hfinish _ _
  | begin _ t later =>
    obtain ⟨j, e⟩ := r.begin_eq t
    rw [e]
    exact ⟨rfl, rfl⟩
  | @perform _ _ a s steps =>
    obtain ⟨_, _, _, _, _, _, e⟩ := r.perform_eq run { a with steps } s
    rw [e]
    exact ⟨rfl, rfl⟩
  | complete _ a =>
    obtain ⟨m, e⟩ := r.complete_eq run a
    rw [e]
    exact ⟨rfl, rfl⟩
  | failPaused _ _ a e =>
    obtain ⟨j, he⟩ := setPhase_eq { r.fail run a e with control := .pause } .paused
    rw [he]
    exact hfail a e
  | failStopped _ _ a e | failSkipped _ _ _ a e => exact hfail a e
  | failEnded _ _ _ a e =>
    obtain ⟨hclock, htasks⟩ := hfail a e
    obtain ⟨hclock', htasks'⟩ := hfinish (r.fail run a e) (.error e)
    exact ⟨hclock'.trans hclock, htasks'.trans htasks⟩

theorem Stride.clock_eq {p p' : Place} (hs : Stride run (p, r) (p', r')) : r'.clock = r.clock :=
  hs.constant.1

theorem Stride.tasks_eq {p p' : Place} (hs : Stride run (p, r) (p', r')) : r'.tasks = r.tasks :=
  hs.constant.2

/-! ## The tasks that are not done -/

theorem Stride.todo_eq {p p' : Place} (hs : Stride run (p, r) (p', r'))
    (h : p.todo = r.tasks.drop r.status.cursor) :
    p' = .ended ∨ p'.todo = r'.tasks.drop r'.status.cursor := by
  have hfail (a : Attempt) (e : Failure) : (r.fail run a e).tasks = r.tasks ∧
      (r.fail run a e).status.cursor = r.status.cursor := by
    obtain ⟨m, he⟩ := r.fail_eq run a e
    rw [he]
    exact ⟨rfl, rfl⟩
  cases hs with
  | stop | finish | failEnded => exact .inl rfl
  | pause | interrupt | space | leave => exact .inr h
  | begin hc t later =>
    obtain ⟨j, e⟩ := r.begin_eq t
    rw [e]
    exact .inr h
  | @perform _ hc a s steps =>
    have htodo : (Place.blocked (r.blockedIn run { a with steps } s)).todo = a.todo := by
      cases s <;> rfl
    obtain ⟨_, _, _, _, _, _, e⟩ := r.perform_eq run { a with steps } s
    rw [e, htodo]
    exact .inr h
  | complete _ a =>
    obtain ⟨m, e⟩ := r.complete_eq run a
    rw [e]
    exact .inr (drop_succ_cursor h)
  | failPaused hc ho a e =>
    obtain ⟨j, e'⟩ := setPhase_eq { r.fail run a e with control := .pause } .paused
    obtain ⟨htasks, hcursor⟩ := hfail a e
    rw [e']
    exact .inr (by rw [htasks, hcursor]; exact h)
  | failStopped _ _ a e =>
    obtain ⟨htasks, hcursor⟩ := hfail a e
    exact .inr (by rw [htasks, hcursor]; exact h)
  | failSkipped _ _ _ a e =>
    obtain ⟨htasks, hcursor⟩ := hfail a e
    exact .inr (by rw [skip, htasks, hcursor]; exact drop_succ_cursor h)

theorem Departs.todo_eq {b : Blocked} {w : Wake} {p : Place} (hd : Departs run r b w (p, r'))
    (h : b.todo = r.tasks.drop r.status.cursor) : p.todo = r'.tasks.drop r'.status.cursor := by
  obtain ⟨slot, start, timeouts, phase, j, e⟩ := hd.eq
  rw [e]
  cases hd <;> exact h

end Leads

end Runner

end MotionScript
