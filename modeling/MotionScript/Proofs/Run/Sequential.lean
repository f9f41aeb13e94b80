import MotionScript.Proofs.Run.Frame
import MotionScript.Proofs.Run.Interpreter
import MotionScript.Proofs.Run.Invariant

/-!
# A play sends what the sequential interpreter sends

Wherever a run is blocked, the interpreter says what it will send from what it will hear. What the
run has sent so far, followed by that, does not change as the run goes on.

* `sendsOf`: what a play has sent.
* `Blocked.rest`: what the interpreter sends from where a run is blocked.
* `Follows`: a run goes on as the interpreter says.
* `hears`, `heard`: what a play hears from an input and from a schedule.
* **`play_sequential`**: what a play sends is what the interpreter sends from what the play hears.
-/

namespace MotionScript

namespace Blocked

/-- What a run hears when something lets it go on. -/
def hears : Blocked → Wake → List Heard
  | calling _ _, .answered (.ok reply) => [if reply.success then .accepted else .refused]
  | calling _ _, .answered (.error _) => [.refused]
  | holding _ _, .elapsed => [.elapsed]
  | waiting _ _ _ _, .signalled => [.signalled]
  | waiting _ _ _ _, .elapsed => [.timedOut]
  | _, _ => []

/-- What a run has sent and has no answer to. -/
def asked (maxRetries : Nat) : Blocked → List (String × Nat)
  | calling _ text => [(text, maxRetries)]
  | _ => []

/-- What the interpreter sends from where a run is blocked. -/
def rest (o : Options) : Blocked → List Heard → List (String × Nat)
  | paused todo => course o todo
  | calling a text => await o a.task a.later (.send text) a.steps
  | holding a d => await o a.task a.later (.delay d) a.steps
  | spacing a _ => course o a.later
  | waiting a _ _ _ => await o a.task a.later .signal a.steps

/-- A run in a device call hears of nothing before the answer. -/
def Fits (hs : List Heard) : Blocked → Prop
  | calling _ _ => hs.head? ≠ some .stopped
  | _ => True

end Blocked

/-- What an entry says was sent, with the greatest number of retries. -/
def Entry.send? : Entry → Option (String × Nat)
  | sent _ _ text maxRetries => some (text, maxRetries)
  | event _ | ended _ _ => none

namespace Runner

/-- What a play has sent, in order. -/
def sendsOf (play : Nat) (r : Runner) : List (String × Nat) :=
  (r.entriesOf play).reverse.filterMap Entry.send?

theorem Silent.sendsOf_eq {r r' : Runner} (h : Silent r r') (p : Nat) :
    r'.sendsOf p = r.sendsOf p := by
  rw [sendsOf, h.entriesOf_eq, sendsOf]

theorem Silent.runsOf_eq {r r' : Runner} (h : Silent r r') (p : Nat) :
    r'.runsOf p = r.runsOf p := by
  rw [runsOf, h.runs_eq, runsOf]

/-! ## A run goes on as the interpreter says -/

/-- A run is blocked once or has ended, and what it sent on the way and what the interpreter sends
from where it is blocked are what `k` gives. -/
def Follows (run : Run) (k : List Heard → List (String × Nat)) (r r' : Runner) : Prop :=
  (r'.runsOf run.id = [] ∧ r'.sendsOf run.id = r.sendsOf run.id ∧ ∀ hs, k hs = []) ∨
    ∃ b, r'.runsOf run.id = [(run, b)] ∧
      r'.sendsOf run.id = r.sendsOf run.id ++ b.asked run.options.maxRetries ∧
      ∀ hs, b.Fits hs → k hs = b.asked run.options.maxRetries ++ b.rest run.options hs

/-- What a run that goes on hears of its being stopped. -/
def mark (r : Runner) : List Heard := if r.control = .stop then [.stopped] else []

section Course

variable {run : Run} {k : List Heard → List (String × Nat)} {r r' r'' : Runner}

theorem Silent.mark_eq (h : Silent r r') : r'.mark = r.mark := by
  rw [mark, h.control_eq, mark]

theorem Follows.of_silent (hs : Silent r r') (h : Follows run k r' r'') : Follows run k r r'' := by
  unfold Follows at *
  rwa [hs.sendsOf_eq] at h

theorem follows_block (hn : r.runsOf run.id = []) {b : Blocked}
    (ha : b.asked run.options.maxRetries = []) :
    Follows run (b.rest run.options) r (r.block run b) := by
  refine .inr ⟨b, ?_, ?_, fun hs _ => ?_⟩
  · have hn : r.runs.filter (fun x => x.1.id == run.id) = [] := hn
    simp [runsOf, block, hn]
  · rw [ha, List.append_nil]
    rfl
  · rw [ha, List.nil_append]

theorem sendsOf_note_ended (p q : Nat) (outcome : Except Failure Metrics) :
    (r.note (.ended q outcome)).sendsOf p = r.sendsOf p := by
  unfold sendsOf entriesOf note
  dsimp only
  rw [List.filter_cons]
  split
  · rw [List.reverse_cons, List.filterMap_append]
    simp [Entry.send?]
  · rfl

theorem follows_finish (hn : r.runsOf run.id = []) (hk : ∀ hs, k hs = [])
    (outcome : Except Failure Unit) : Follows run k r (r.finish run outcome) := by
  obtain ⟨r', outcome', hs, e⟩ := finish_eq run outcome r
  rw [e]
  refine .inl ⟨(hs.runsOf_eq _).trans hn, ?_, hk⟩
  rw [sendsOf_note_ended, hs.sendsOf_eq]

theorem follows_perform (hn : r.runsOf run.id = []) (a : Attempt) (s : Step) :
    Follows run (attempt run.options a.task a.later (s :: a.steps)) r (r.perform run a s) := by
  cases s with
  | send text =>
    refine .inr ⟨.calling a text, ?_, ?_, fun hs hf => attempt_cons hf⟩
    · have hn : r.runs.filter (fun x => x.1.id == run.id) = [] := hn
      simp [runsOf, perform, block, note, hn]
    · simp [sendsOf, entriesOf, perform, block, note, Entry.play?, Entry.send?, Blocked.asked]
  | delay ms =>
    have h := follows_block (b := .holding a (r.clock + ms)) hn rfl
    have hk : attempt run.options a.task a.later (.delay ms :: a.steps) =
        (Blocked.holding a (r.clock + ms)).rest run.options :=
      funext fun hs => (attempt_cons_of_sends rfl).trans (await_delay _ _)
    rw [hk]
    exact h
  | signal =>
    have hs : Silent r (emit (.waiting r.status.cursor run.options.syncTimeout) (setPhase .syncWait
      { r with
        slot := some r.waits
        waits := r.waits + 1
        status := { r.status with syncWaitStart := some r.clock } })) :=
      .emit (.setPhase (.update (.refl r)) _) _
    have hk : attempt run.options a.task a.later (.signal :: a.steps) =
        (Blocked.waiting a r.waits (r.clock + run.options.syncTimeout) none).rest run.options :=
      funext fun hs => attempt_cons_of_sends rfl
    rw [hk]
    exact (follows_block ((hs.runsOf_eq _).trans hn) rfl).of_silent hs

theorem follows_advance (he : run.epoch = r.epoch) (hn : r.runsOf run.id = []) (todo : List Task) :
    Follows run (fun hs => course run.options todo (r.mark ++ hs)) r (r.advance run todo) := by
  fun_induction Runner.advance run todo r with
  | case1 todo r hc =>
    simp only [mark, hc, reduceCtorEq, if_false, List.nil_append]
    exact follows_block hn rfl
  | case2 todo r hc =>
    simp only [mark, hc, if_true, List.singleton_append, course_stopped]
    exact follows_finish hn (fun _ => rfl) _
  | case3 _ _ _ hne => exact absurd he hne
  | case4 => exact follows_finish hn (fun _ => course_nil) _
  | case5 r _ _ t later ht ih =>
    have hs : Silent r ((r.begin t).complete run ⟨t, later, [], 0, false, r.clock⟩) :=
      .complete (.begin (.refl r) t) _
    simp only [course_cons, ht, attempt_nil, ← hs.mark_eq]
    exact (ih (he.trans hs.epoch_eq.symm) ((hs.runsOf_eq _).trans hn)).of_silent hs
  | case6 r hc _ t later s steps ht =>
    have hs : Silent r (r.begin t) := .begin (.refl r) t
    simp only [mark, hc, reduceCtorEq, if_false, List.nil_append, course_cons, ht]
    exact (follows_perform ((hs.runsOf_eq _).trans hn) _ s).of_silent hs

theorem follows_afterFailure (he : run.epoch = r.epoch) (hn : r.runsOf run.id = []) (a : Attempt)
    (e : Failure) : Follows run
      (fun hs => course run.options (run.options.afterFailure a.task a.later) (r.mark ++ hs)) r
      (r.afterFailure run a e) := by
  have hs : Silent r (r.fail run a e) := .fail (.refl r) a e
  have he' := he.trans hs.epoch_eq.symm
  have hn' := (hs.runsOf_eq run.id).trans hn
  simp only [afterFailure, Options.afterFailure]
  split
  · split
    · rw [← hs.mark_eq]
      exact (follows_advance he' hn' _).of_silent hs
    · next hc =>
      -- the run pauses, whatever it hears of a stop it hears later
      have hm : r.mark = [] := by rw [← hs.mark_eq, mark, if_neg hc]
      have hp : Silent { r.fail run a e with control := .pause }
          (setPhase .paused { r.fail run a e with control := .pause }) := .setPhase (.refl _) _
      have hb := follows_block (b := .paused a.todo) ((hp.runsOf_eq run.id).trans hn') rfl
      simp only [hm, List.nil_append]
      rw [advance_pause hp.control_eq]
      have hf := hb.of_silent hp
      have hf : Follows run _ (r.fail run a e) _ := hf
      exact hf.of_silent hs
  · split
    · have hu : Silent r { r.fail run a e with
          status := { (r.fail run a e).status with
            cursor := (r.fail run a e).status.cursor + 1 } } := hs.update
      rw [← hu.mark_eq]
      exact (follows_advance (he.trans hu.epoch_eq.symm) ((hu.runsOf_eq _).trans hn) _).of_silent hu
    · simp only [course_nil]
      exact (follows_finish hn' (fun _ => rfl) _).of_silent hs

theorem follows_conclude (he : run.epoch = r.epoch) (hn : r.runsOf run.id = []) (a : Attempt)
    (ending : Ending) (hk : ∀ hs, k hs =
      match ending with
      | .done => course run.options a.later (r.mark ++ hs)
      | .interrupted => []
      | .failed _ => course run.options (run.options.afterFailure a.task a.later) (r.mark ++ hs))
    (hi : ending = .interrupted → r.control = .stop) :
    Follows run k r (r.conclude run a ending) := by
  obtain rfl := funext hk
  rw [conclude_eq he]
  cases ending with
  | done =>
    have hs : Silent r (r.complete run a) := .complete (.refl r) a
    simp only [← hs.mark_eq]
    exact (follows_advance (he.trans hs.epoch_eq.symm) ((hs.runsOf_eq _).trans hn) _).of_silent hs
  | interrupted =>
    rw [advance_stop (hi rfl)]
    exact follows_finish hn (fun _ => rfl) _
  | failed e => exact follows_afterFailure he hn a e

theorem follows_resume (he : run.epoch = r.epoch) (hn : r.runsOf run.id = []) (a : Attempt) :
    Follows run (fun hs => attempt run.options a.task a.later a.steps (r.mark ++ hs)) r
      (r.resume run a) := by
  unfold resume
  split
  · next ht =>
    simp only [ht, attempt_nil]
    split
    · next hsp =>
      simp only [mark, if_neg hsp.2.2.1, List.nil_append]
      exact follows_block hn rfl
    · exact follows_conclude he hn a _ (fun _ => rfl) (by simp)
  · next s steps ht =>
    rw [ht]
    split
    · next hm =>
      simp only [mark, if_neg hm.1, List.nil_append]
      exact follows_perform hn { a with steps } s
    · next hm =>
      have hc := stop_of_not_mayGoOn he hm
      refine follows_conclude he hn a _ (fun hs => ?_) fun _ => hc
      rw [mark, if_pos hc, List.singleton_append, attempt_stopped]

theorem follows_hear (he : run.epoch = r.epoch) (hn : r.runsOf run.id = []) (a : Attempt)
    (text : String) (reply : Except Fault Reply) :
    Follows run (fun hs => (Blocked.calling a text).rest run.options
      ((Blocked.calling a text).hears (.answered reply) ++ (r.mark ++ hs))) r
      (r.hear run a text reply) := by
  cases reply with
  | error fault => exact follows_conclude he hn a _ (fun _ => rfl) fun e => by cases e
  | ok reply =>
    by_cases hs : reply.success
    · simp only [hear, Blocked.hears, hs, if_true]
      exact follows_resume he hn { a with retries := a.retries + reply.retries, sent := true }
    · simp only [hear, Blocked.hears, hs]
      exact follows_conclude he hn a (.failed (.rejected text reply.message)) (fun _ => rfl)
        fun e => by cases e

theorem follows_leaveWait (he : run.epoch = r.epoch) (hn : r.runsOf run.id = []) (a : Attempt)
    (wait d : Nat) (told : Option Bool) {w : Wake} (hw : ∀ reply, w ≠ .answered reply)
    (hc : w = .released → r.control = .stop) :
    Follows run (fun hs => (Blocked.waiting a wait d told).rest run.options
      ((Blocked.waiting a wait d told).hears w ++ (r.mark ++ hs))) r
      (r.leaveWait run a wait w) := by
  have hd : Silent r (r.disarm wait) := .update (.refl r)
  have hs := hd.endWait w
  have he' := he.trans hs.epoch_eq.symm
  have hn' := (hs.runsOf_eq run.id).trans hn
  rw [leaveWait_eq he, ← hs.mark_eq]
  refine .of_silent hs ?_
  cases w with
  | answered reply => exact absurd rfl (hw reply)
  | signalled => exact follows_resume he' hn' a
  | elapsed => exact follows_conclude he' hn' a _ (fun _ => rfl) (by simp)
  | released =>
    have hstop : ((r.disarm wait).endWait .released).control = .stop := hs.control_eq.trans (hc rfl)
    refine follows_conclude he' hn' a _ (fun hs' => ?_) fun _ => hstop
    rw [mark, if_pos hstop]
    change await run.options a.task a.later .signal a.steps (.stopped :: hs') = []
    exact await_stopped

theorem runsOf_without_self (p : Nat) : (r.without p).runsOf p = [] := by
  simp [runsOf, without, List.filter_filter]

/-- **The run in progress goes on as the interpreter does.** -/
theorem InProgress.follows {b : Blocked} (h : r.InProgress run b) {w : Wake}
    (ha : r.allows run b w) :
    Follows run (fun hs => b.rest run.options (b.hears w ++ (r.mark ++ hs))) (r.without run.id)
      ((r.without run.id).goOn run b w) := by
  have he : run.epoch = (r.without run.id).epoch := h.epoch_eq
  have hn := r.runsOf_without_self run.id
  cases b with
  | paused todo => exact follows_advance he hn todo
  | calling a text =>
    cases w with
    | answered reply => exact follows_hear he hn a text reply
    | elapsed | signalled | released => simp [allows] at ha
  | holding a d =>
    cases w with
    | elapsed => exact follows_resume he hn a
    | released =>
      have hc := stop_of_not_mayGoOn h.epoch_eq (by simpa [allows] using ha)
      refine follows_conclude he hn a _ (fun hs => ?_) fun _ => hc
      rw [mark, if_pos hc]
      change await run.options a.task a.later (.delay d) a.steps (.stopped :: hs) = []
      exact await_stopped
    | answered reply | signalled => simp [allows] at ha
  | spacing a d =>
    cases w with
    | elapsed | released => exact follows_conclude he hn a _ (fun _ => rfl) (by simp)
    | answered reply | signalled => simp [allows] at ha
  | waiting a wait d told =>
    refine follows_leaveWait he hn a wait d told (fun reply e => ?_) fun e => ?_
    · subst e
      simp [allows] at ha
    · subst e
      exact h.stop_of_released ha

end Course

/-! ## What a play hears -/

/-- What a play hears from an input. If it is stopped or reset by then, it hears of that as well. -/
def hears (p : Nat) (r : Runner) : Input → List Heard
  | .wake q w =>
    match r.runsOf p with
    | (run, b) :: _ =>
      if q = p ∧ r.allows run b w then b.hears w ++ (if r.MayGoOn run then [] else [.stopped])
      else []
    | [] => []
  | _ => []

/-- What a play hears from a schedule. -/
def heard (p : Nat) : List Input → Runner → List Heard
  | [], _ => []
  | i :: s, r => r.hears p i ++ heard p s (r.step i)

/-- What a play that is blocked between two tasks would have to hear to send nothing more. -/
def between (p : Nat) (r : Runner) : List Heard :=
  match r.runsOf p with
  | (_, .paused _) :: _ | (_, .spacing _ _) :: _ => [.stopped]
  | _ => []

/-- What a play has sent and has no answer to. -/
def asked (p : Nat) (r : Runner) : List (String × Nat) :=
  match r.runsOf p with
  | (run, b) :: _ => b.asked run.options.maxRetries
  | [] => []

/-- What the interpreter sends from where a play is blocked. -/
def rest (p : Nat) (r : Runner) (hs : List Heard) : List (String × Nat) :=
  match r.runsOf p with
  | (run, b) :: _ => b.rest run.options hs
  | [] => []

/-- Something that a play may hear where it is blocked. -/
def Fits (p : Nat) (r : Runner) (hs : List Heard) : Prop := ∀ x ∈ r.runsOf p, x.2.Fits hs

/-- The play that begins in `r` and has got to `r'` does what the sequential interpreter does in the
course of a schedule. -/
structure Sequential (r r' : Runner) (s : List Input) : Prop where
  /-- What it has sent is what the interpreter sends from the cursor on, or from the beginning if
  the cursor is at the end, with the options when the play began and from what the play has heard.
  Between two tasks the interpreter is stopped where the play is. -/
  sends_eq : (r'.after s).sendsOf r.plays = course r.options (r.tasks.drop r.startIndex)
    (heard r.plays s r' ++ (r'.after s).between r.plays)
  /-- It has sent them in attempts, none of them twice, left out or out of order in an attempt. -/
  attempts : Attempts r.options (r.tasks.drop r.startIndex) ((r'.after s).sendsOf r.plays)
  /-- It has sent one text for each answer, and those that it has no answer to. -/
  length_eq : ((r'.after s).sendsOf r.plays).length =
    ((heard r.plays s r').filter Heard.isAnswer).length + ((r'.after s).asked r.plays).length
  /-- It has no answer to at most one. -/
  asked_le : ((r'.after s).asked r.plays).length ≤ 1

section Schedule

variable {p : Nat} {r r' : Runner}

theorem wake_of_runsOf_nil (hx : r.runsOf p = []) (w : Wake) : r.wake p w = r := by
  have hf : (r.runs.find? fun x => x.1.id == p) = none := by
    rw [← List.head?_filter]
    exact congrArg List.head? hx
  simp only [wake, hf]

theorem wake_of_runsOf_cons {run : Run} {b : Blocked} {l : List (Run × Blocked)}
    (hx : r.runsOf p = (run, b) :: l) (w : Wake) :
    r.wake p w = if r.allows run b w then (r.without p).goOn run b w else r := by
  have hf : (r.runs.find? fun x => x.1.id == p) = some (run, b) := by
    rw [← List.head?_filter]
    exact congrArg List.head? hx
  simp only [wake, hf]

theorem Inv.runsOf_eq (h : r.Inv) {x : Run × Blocked} {l : List (Run × Blocked)}
    (hx : r.runsOf p = x :: l) : x ∈ r.runs ∧ x.1.id = p ∧ l = [] := by
  have hm : ∀ y ∈ r.runsOf p, y ∈ r.runs ∧ y.1.id = p := fun y hy => by
    simpa [runsOf] using hy
  have hx' := hm x (by rw [hx]; exact List.mem_cons_self)
  refine ⟨hx'.1, hx'.2, List.eq_nil_iff_forall_not_mem.2 fun y hy => ?_⟩
  have hnodup : ((r.runsOf p).map fun x => x.1.id).Nodup :=
    h.roster.nodup.sublist (List.filter_sublist.map _)
  have hy' := hm y (by rw [hx]; exact List.mem_cons_of_mem _ hy)
  rw [hx, List.map_cons, List.nodup_cons] at hnodup
  exact hnodup.1 (List.mem_map.2 ⟨y, hy, hy'.2.trans hx'.2.symm⟩)

theorem rest_hears_stopped (o : Options) (b : Blocked) (w : Wake) (hs : List Heard) :
    b.rest o (b.hears w ++ .stopped :: hs) = [] := by
  -- at most one thing is heard before the stop
  have hw : b.hears w = [] ∨ ∃ h, b.hears w = [h] ∧ ∃ a, b.attempt? = some a := by
    cases b <;> cases w <;> try exact .inl rfl
    case calling.answered a text reply => cases reply <;> exact .inr ⟨_, rfl, _, rfl⟩
    all_goals exact .inr ⟨_, rfl, _, rfl⟩
  rcases hw with hw | ⟨h, hw, a, ha⟩ <;> rw [hw]
  · cases b <;> simp only [Blocked.rest, List.nil_append, course_stopped, await_stopped]
  · cases b with
    | paused todo => cases ha
    | spacing a d => cases w <;> cases hw
    | calling a text | holding a d | waiting a wait d told =>
      simp only [Blocked.rest, List.singleton_append, await_cons_stopped]

theorem Inv.follows_abandoned {run : Run} {b : Blocked} {w : Wake} (h : r.Inv)
    (hm : (run, b) ∈ r.runs) (he : run.epoch ≠ r.epoch) (ha : r.allows run b w) :
    Follows run (fun hs => b.rest run.options (b.hears w ++ .stopped :: hs)) r
      ((r.without run.id).goOn run b w) := by
  rw [h.goOn_abandoned hm he ha]
  exact .inl ⟨r.runsOf_without_self run.id, sendsOf_note_ended _ _ _,
    rest_hears_stopped run.options b w⟩

theorem Inv.step_follows (h : r.Inv) (hp : p < r.plays) (i : Input) :
    (r.hears p i = [] ∧ Spares p r (r.step i)) ∨
      ∃ run b w, i = .wake p w ∧ r.runsOf p = [(run, b)] ∧ run.id = p ∧ r.allows run b w ∧
        Follows run (fun hs => b.rest run.options (r.hears p i ++ hs)) r (r.step i) := by
  by_cases hi : ∃ w, i = .wake p w
  · obtain ⟨w, rfl⟩ := hi
    cases hx : r.runsOf p with
    | nil =>
      refine .inl ⟨by simp [hears, hx], ?_⟩
      rw [Runner.step, wake_of_runsOf_nil hx]
      exact spares_of_eq rfl rfl
    | cons x l =>
      obtain ⟨run, b⟩ := x
      obtain ⟨hm, rfl, rfl⟩ := h.runsOf_eq hx
      by_cases ha : r.allows run b w
      · refine .inr ⟨run, b, w, rfl, rfl, rfl, ha, ?_⟩
        rw [Runner.step, wake_of_runsOf_cons hx, if_pos ha]
        by_cases he : run.epoch = r.epoch
        · -- a run of the present epoch is the one in progress
          have hmark : (if r.MayGoOn run then [] else [Heard.stopped]) = r.mark := by
            by_cases hc : r.control = .stop <;> simp [mark, MayGoOn, hc, he]
          obtain ⟨run', b', hpr⟩ := h.resolve_left fun hi => Nat.ne_of_lt (hi.old _ hm) he
          cases hpr.eq_of_epoch_eq hm he
          simp only [hears, hx, ha, and_self, if_true, hmark, List.append_assoc]
          exact hpr.follows ha
        · have hmark : ¬ r.MayGoOn run := not_mayGoOn he
          simp only [hears, hx, ha, and_self, if_true, hmark, if_false, List.append_assoc]
          exact h.follows_abandoned hm he ha
      · refine .inl ⟨by simp [hears, hx, ha], ?_⟩
        rw [Runner.step, wake_of_runsOf_cons hx, if_neg ha]
        exact spares_of_eq rfl rfl
  · refine .inl ⟨?_, step_spares (fun _ => Nat.ne_of_lt hp) fun w e => hi ⟨w, e⟩⟩
    cases i with
    | wake q w =>
      have hq : q ≠ p := fun e => hi ⟨w, by rw [e]⟩
      simp only [hears, hq, false_and, if_false]
      split <;> rfl
    | _ => rfl

theorem Spares.exists_map (h : Spares p r r') : ∃ f : Blocked → Blocked,
    ((∀ o b, (f b).rest o = b.rest o) ∧ (∀ n b, (f b).asked n = b.asked n) ∧
      ∀ hs b, (f b).Fits hs ↔ b.Fits hs) ∧
    r'.runsOf p = (r.runsOf p).map fun x => (x.1, f x.2) := by
  have same : ∃ f : Blocked → Blocked,
      ((∀ o b, (f b).rest o = b.rest o) ∧ (∀ n b, (f b).asked n = b.asked n) ∧
        ∀ hs b, (f b).Fits hs ↔ b.Fits hs) ∧
      r.runsOf p = (r.runsOf p).map fun x => (x.1, f x.2) :=
    ⟨id, by simp, by simp⟩
  rcases h.runs with e | ⟨s, e⟩ <;> rw [e]
  · exact same
  · cases r.slot with
    | none => exact same
    | some w =>
      refine ⟨Blocked.tell w s, ⟨fun o b => ?_, fun n b => ?_, fun hs b => ?_⟩, rfl⟩ <;>
        cases b <;> rfl

theorem Spares.sendsOf_eq (h : Spares p r r') : r'.sendsOf p = r.sendsOf p := by
  rw [sendsOf, h.entries, sendsOf]

theorem Spares.rest_eq (h : Spares p r r') (hs : List Heard) : r'.rest p hs = r.rest p hs := by
  obtain ⟨f, ⟨hf, -, -⟩, e⟩ := h.exists_map
  unfold rest
  rw [e]
  cases r.runsOf p with
  | nil => rfl
  | cons x l => exact congrFun (hf _ _) _

theorem Spares.asked_eq (h : Spares p r r') : r'.asked p = r.asked p := by
  obtain ⟨f, ⟨-, hf, -⟩, e⟩ := h.exists_map
  unfold asked
  rw [e]
  cases r.runsOf p with
  | nil => rfl
  | cons x l => exact hf _ _

theorem Spares.fits (h : Spares p r r') {hs : List Heard} (hfits : r'.Fits p hs) :
    r.Fits p hs := by
  obtain ⟨f, ⟨-, -, hf⟩, e⟩ := h.exists_map
  intro x hx
  exact (hf _ _).1 (hfits (x.1, f x.2) (by rw [e]; exact List.mem_map_of_mem hx))

theorem fits_hears {run : Run} {b : Blocked} {w : Wake} (ha : r.allows run b w)
    (hs hs' : List Heard) : b.Fits (b.hears w ++ hs ++ hs') := by
  cases b with
  | calling a text =>
    cases w with
    | answered reply =>
      cases reply with
      | error fault => simp [Blocked.Fits, Blocked.hears]
      | ok reply => cases h : reply.success <;> simp [Blocked.Fits, Blocked.hears, h]
    | elapsed | signalled | released => simp [allows] at ha
  | _ => trivial

theorem answers_hears {run : Run} {b : Blocked} {w : Wake} (ha : r.allows run b w)
    (maxRetries : Nat) :
    ((b.hears w).filter Heard.isAnswer).length = (b.asked maxRetries).length := by
  cases b with
  | calling a text =>
    cases w with
    | answered reply =>
      cases reply with
      | error fault => rfl
      | ok reply => cases h : reply.success <;> simp only [Blocked.hears, h] <;> rfl
    | elapsed | signalled | released => simp [allows] at ha
  | _ => cases w <;> rfl

/-- What a run has sent, followed by what the interpreter sends from where it is blocked, is what it
had sent and what the interpreter sent from where it was. -/
theorem Follows.sends_rest {run : Run} {k : List Heard → List (String × Nat)}
    (h : Follows run k r r') {hs : List Heard} (hf : r'.Fits run.id hs) :
    r.sendsOf run.id ++ k hs = r'.sendsOf run.id ++ r'.rest run.id hs := by
  rcases h with ⟨hx, hsend, hk⟩ | ⟨b, hx, hsend, hk⟩
  · rw [hk, hsend]
    simp only [rest, hx]
  · rw [hk hs (hf _ (by rw [hx]; exact List.mem_singleton_self _)), hsend, List.append_assoc]
    simp only [rest, hx]

theorem Follows.sends_asked {run : Run} {k : List Heard → List (String × Nat)}
    (h : Follows run k r r') : r'.sendsOf run.id = r.sendsOf run.id ++ r'.asked run.id := by
  rcases h with ⟨hx, hsend, -⟩ | ⟨b, hx, hsend, -⟩ <;> simp [asked, hx, hsend]

/-- One input at a time: what a play has sent, followed by what the interpreter sends from where it
is blocked, stays the same. -/
theorem Inv.step_sends_rest (h : r.Inv) (hp : p < r.plays) (i : Input) {hs : List Heard}
    (hf : (r.step i).Fits p hs) : r.Fits p (r.hears p i ++ hs) ∧
      r.sendsOf p ++ r.rest p (r.hears p i ++ hs) =
        (r.step i).sendsOf p ++ (r.step i).rest p hs := by
  rcases h.step_follows hp i with ⟨hn, hs'⟩ | ⟨run, b, w, rfl, hx, rfl, ha, hfol⟩
  · rw [hn, List.nil_append, hs'.sendsOf_eq, hs'.rest_eq]
    exact ⟨hs'.fits hf, rfl⟩
  · refine ⟨fun x hm => ?_, ?_⟩
    · rw [hx, List.mem_singleton] at hm
      subst hm
      simp only [hears, hx, ha, and_self, if_true]
      exact fits_hears ha _ _
    · rw [← hfol.sends_rest hf]
      simp only [rest, hx]

/-- One input at a time: a play has sent one text for each answer, and one more while it is in a
device call. -/
theorem Inv.step_sends_asked (h : r.Inv) (hp : p < r.plays) (i : Input) :
    ((r.step i).sendsOf p).length + (r.asked p).length =
      (r.sendsOf p).length + ((r.step i).asked p).length +
        ((r.hears p i).filter Heard.isAnswer).length := by
  rcases h.step_follows hp i with ⟨hn, hs⟩ | ⟨run, b, w, rfl, hx, rfl, ha, hfol⟩
  · rw [hn, hs.sendsOf_eq, hs.asked_eq]
    rfl
  · have hanswer : ((r.hears run.id (.wake run.id w)).filter Heard.isAnswer).length =
        (r.asked run.id).length := by
      have hm : (if r.MayGoOn run then [] else [Heard.stopped]).filter Heard.isAnswer = [] := by
        split <;> rfl
      simp only [hears, asked, hx, ha, and_self, if_true, List.filter_append, hm, List.append_nil]
      exact answers_hears ha _
    rw [hfol.sends_asked, List.length_append, hanswer]

/-- A play sends what the interpreter sends from where it is blocked. The induction is on the
schedule. -/
theorem Inv.sends_rest_after (h : r.Inv) (hp : p < r.plays) (s : List Input) {hs : List Heard}
    (hf : (r.after s).Fits p hs) : r.Fits p (heard p s r ++ hs) ∧
      r.sendsOf p ++ r.rest p (heard p s r ++ hs) =
        (r.after s).sendsOf p ++ (r.after s).rest p hs := by
  induction s generalizing r with
  | nil => exact ⟨hf, rfl⟩
  | cons i s ih =>
    obtain ⟨hf', e⟩ := ih (h.step i) (Nat.lt_of_lt_of_le hp (r.le_step i).2) hf
    obtain ⟨hf'', e'⟩ := h.step_sends_rest hp i hf'
    rw [heard, List.append_assoc]
    exact ⟨hf'', e'.trans e⟩

theorem Inv.sends_asked_after (h : r.Inv) (hp : p < r.plays) (s : List Input) :
    ((r.after s).sendsOf p).length + (r.asked p).length =
      (r.sendsOf p).length + ((r.after s).asked p).length +
        ((heard p s r).filter Heard.isAnswer).length := by
  induction s generalizing r with
  | nil => rfl
  | cons i s ih =>
    have hs := ih (h.step i) (Nat.lt_of_lt_of_le hp (r.le_step i).2)
    have hi := h.step_sends_asked hp i
    rw [heard, List.filter_append, List.length_append, after_cons]
    omega

theorem asked_length_le (p : Nat) (r : Runner) : (r.asked p).length ≤ 1 := by
  unfold asked
  split
  · next b _ _ => cases b <;> simp [Blocked.asked]
  · exact Nat.zero_le _

/-- The interpreter sends nothing more, if it is stopped where a play is blocked between two
tasks. -/
theorem rest_between (p : Nat) (r : Runner) : r.rest p (r.between p) = [] := by
  cases hx : r.runsOf p with
  | nil => simp only [rest, hx]
  | cons x l =>
    obtain ⟨run, b⟩ := x
    cases b <;> simp only [rest, between, hx, Blocked.rest, course_stopped, await]

theorem Inv.fits_between (h : r.Inv) (p : Nat) : r.Fits p (r.between p) := by
  intro x hx
  cases hl : r.runsOf p with
  | nil => simp [hl] at hx
  | cons y l =>
    obtain ⟨-, -, rfl⟩ := h.runsOf_eq hl
    rw [hl, List.mem_singleton] at hx
    subst hx
    obtain ⟨run, b⟩ := x
    cases b with
    | calling a text => simp [Blocked.Fits, between, hl]
    | _ => trivial

theorem Inv.runsOf_eq_nil (h : r.Inv) (hp : r.plays ≤ p) : r.runsOf p = [] :=
  List.filter_eq_nil_iff.2 fun x hx hid => by
    have := (h.roster.member x hx).id_lt
    rw [beq_iff_eq.1 hid] at this
    omega

theorem Reachable.entriesOf_eq_nil (h : r.Reachable) (hp : r.plays ≤ p) : r.entriesOf p = [] := by
  induction h with
  | new o => rfl
  | @step r i h ih =>
    have hle := Nat.le_trans (r.le_step i).2 hp
    by_cases hi : ∃ w, i = .wake p w
    · obtain ⟨w, rfl⟩ := hi
      rw [Runner.step, wake_of_runsOf_nil (h.inv.runsOf_eq_nil hle)]
      exact ih hle
    · refine (step_spares (fun e => ?_) fun w e => hi ⟨w, e⟩).entries.trans (ih hle)
      rw [e, Runner.step, r.launch_eq.2] at hp
      omega

theorem Inv.follows_play (h : r.Inv) (hp : r.play = .ok r') :
    Follows r.nextRun (course r.options (r.tasks.drop r.startIndex)) r r' := by
  obtain ⟨-, rfl⟩ := play_eq_ok hp
  have hs : Silent r.opened (r.opened.setPhase .running) := .setPhase (.refl _) _
  have hn : r.opened.runsOf r.nextRun.id = [] := h.runsOf_eq_nil (Nat.le_refl _)
  have he : r.nextRun.epoch = (r.opened.setPhase .running).epoch := hs.epoch_eq.symm
  have hf := (follows_advance he ((hs.runsOf_eq _).trans hn)
    (r.tasks.drop r.startIndex)).of_silent hs
  have hm : (r.opened.setPhase .running).mark = [] := by
    rw [hs.mark_eq]
    rfl
  simp only [hm, List.nil_append] at hf
  exact hf

/-- **A play sends what the sequential interpreter sends**, after every schedule. -/
theorem play_sequential (h : r.Reachable) (hp : r.play = .ok r') (s : List Input) :
    Sequential r r' s := by
  have hi := h.inv.play hp
  have hlt : r.plays < r'.plays := by
    rw [(frame_play hp).plays_eq]
    exact Nat.lt_succ_self _
  have hnil : r.sendsOf r.plays = [] := by
    rw [sendsOf, h.entriesOf_eq_nil (Nat.le_refl _)]
    rfl
  have hf := h.inv.follows_play hp
  have hsends : (r'.after s).sendsOf r.plays = course r.options (r.tasks.drop r.startIndex)
      (heard r.plays s r' ++ (r'.after s).between r.plays) := by
    obtain ⟨hfits, e⟩ := hi.sends_rest_after hlt s ((hi.after s).fits_between _)
    have e' : r.sendsOf r.plays ++ course r.options (r.tasks.drop r.startIndex) _ =
        r'.sendsOf r.plays ++ r'.rest r.plays _ := hf.sends_rest hfits
    rw [hnil, List.nil_append] at e'
    rw [rest_between, List.append_nil] at e
    rw [← e, e']
  refine ⟨hsends, ?_, ?_, asked_length_le _ _⟩
  · rw [hsends]
    exact attempts_course _ _ _
  · have hs := hi.sends_asked_after hlt s
    have hbegin : r'.sendsOf r.plays = r.sendsOf r.plays ++ r'.asked r.plays := hf.sends_asked
    rw [hnil, List.nil_append] at hbegin
    rw [hbegin] at hs
    omega

end Schedule

/-- A runner with two commands loaded that each send a text. -/
def twoDetections : Runner :=
  let c : Command := ⟨.detect, "DETECT", 1, 0, []⟩
  (new { Options.standard with spacing := 0 }).after [.load [c, c]]

/-- The device accepts the first text, and the second one is sent. -/
theorem twoDetections_sequential : ∃ r', twoDetections.play = .ok r' ∧
    let s : List Input := [.wake 0 (.answered (.ok (.accepted "")))]
    (r'.after s).sendsOf 0 = [("DETECT", 3), ("DETECT", 3)] ∧ Sequential twoDetections r' s := by
  have h : twoDetections.Reachable := (Reachable.new _).after _
  exact ⟨_, rfl, by decide, play_sequential h rfl _⟩

end Runner

end MotionScript
