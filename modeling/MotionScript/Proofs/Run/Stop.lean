import MotionScript.Proofs.Run.Prompt
import MotionScript.Proofs.Run.Reset
import MotionScript.Proofs.Run.Site
import MotionScript.Proofs.Run.Written

/-!
# A stop is safe

A run that is asked to stop begins nothing more. It ends at the same instant, unless it is in a
device call; then it ends with the answer. Where the cursor is left depends on the place where the
stop found the run, and on the answer.

* `Entry.Begins`: a command or a device call is begun.
* `Blocked.completes`, `Blocked.fails`: what comes of a task in progress.
* `Halts`: a run that was asked to stop ends.
* `Halting`, `Halting.stride`: the outlook of a run that is carried out and asked to stop.
* `Stopping`: a run is asked to stop and has not ended.
* **`Reachable.stop_safe`**: every stop that is not refused is safe.
-/

namespace MotionScript

/-- Whether an entry tells that a command or a device call is begun. -/
def Entry.Begins : Entry → Prop
  | .event (.started _ _) | .sent _ _ _ _ => True
  | _ => False

namespace Blocked

/-- Whether all steps of a task are done when a run goes on. -/
def completes : Blocked → Wake → Bool
  | .spacing _ _, _ => true
  | .calling a _, .answered (.ok reply) => reply.success && a.steps.isEmpty
  | .holding a _, .elapsed | .waiting a _ _ _, .signalled => a.steps.isEmpty
  | _, _ => false

/-- Whether a task fails when a run goes on: a device call is not answered or its command is
rejected, or a wait was too long. -/
def fails : Blocked → Wake → Bool
  | .calling _ _, .answered (.error _) => true
  | .calling _ _, .answered (.ok reply) => !reply.success
  | .waiting _ _ _ _, .elapsed => true
  | _, _ => false

/-- Whether the cursor passes a task when a run that was asked to stop goes on: the task is done, or
it fails and is left out. -/
def passes (o : Options) (b : Blocked) (w : Wake) : Bool := b.completes w || b.fails w && o.skips

/-- Whether a run that was asked to stop ends with a failure when it goes on: a task fails and the
run neither pauses nor leaves it out. -/
def breaks (o : Options) (b : Blocked) (w : Wake) : Bool :=
  b.fails w && !o.skipErrors && !o.pauseOnError

end Blocked

namespace Runner

/-- A run that was asked to stop ends when something lets it go on. -/
structure Halts (run : Run) (b : Blocked) (w : Wake) (r r' : Runner) : Prop where
  ended : ¬ r'.Unfinished run.id
  executing : r'.status.executing = false
  inert : Adds (fun e => ¬ e.Begins) r r'
  cursor_eq : r'.status.cursor = r.status.cursor + (b.passes run.options w).toNat
  phase_eq : r'.status.phase = if b.breaks run.options w then .error else .idle
  outcome : ∃ outcome j, r'.journal = .ended run.id outcome :: j ∧
    outcome.isOk = !b.breaks run.options w

/-- Every operation on a run is refused, but for the signal. -/
structure Refuses (r : Runner) : Prop where
  pause : r.pause = none
  unpause : r.unpause = none
  stop : r.stop = none
  play : r.play = .error .alreadyExecuting
  load : ∀ cs, ∃ e, r.load cs = .error e
  loadCompilation : ∀ c, ∃ e, r.loadCompilation c = .error e
  loadScript : ∀ source, ∃ e, r.loadScript source = .error e

/-- A run was asked to stop in a state `r₀` and has not ended. -/
structure Stopping (run : Run) (b : Blocked) (r₀ r : Runner) : Prop where
  current_eq : r.current = [(run, b)]
  sited : b.Sited run r
  inert : Adds (fun e => ¬ e.Begins) r₀ r
  cursor_eq : r.status.cursor = r₀.status.cursor
  phase : r.status.phase = .stopping
  refuses : r.Refuses
  signal : r.Quiet → r.signal = none
  /-- No time has passed unless the run is in a device call, and something lets it go on. -/
  instant : (∀ a text, b ≠ .calling a text) → r.clock = r₀.clock ∧ r.allows run b .released
  /-- A device call ends with its answer, and everything else is cut short. -/
  allowed : ∀ w, r.allows run b w →
    w = .released ∨ ∃ a text reply, b = .calling a text ∧ w = .answered reply
  halts : ∀ w, r.allows run b w → Halts run b w r (r.wake run.id w)
  /-- Nothing else that comes in time ends the run, but for a reset. -/
  stays : ∀ i, r.InTime i → i ≠ .reset → (∀ w, i = .wake run.id w → ¬ r.allows run b w) →
    (r.step i).Unfinished run.id

/-- After a stop a run begins nothing, whatever comes; and as long as it has not ended, and there is
no reset, it is stopping. -/
structure StopSafe (run : Run) (b : Blocked) (r₀ r : Runner) : Prop where
  inert : ∀ s w, Adds (fun e => ¬ e.Begins) (r.after s) ((r.after s).wake run.id w)
  stopping : ∀ s, r.Prompt s → .reset ∉ s → (r.after s).Unfinished run.id →
    Stopping run b r₀ (r.after s)

end Runner

/-! ## A run is carried out and asked to stop -/

namespace Place

/-- Whether a run that is asked to stop still passes a task. -/
def passes (o : Options) : Place → Bool
  | .within a => a.steps.isEmpty
  | .done _ => true
  | .failing _ _ => o.skips
  | .before _ | .blocked _ | .ended => false

/-- Whether a run that is asked to stop ends with a failure. -/
def breaks (o : Options) : Place → Bool
  | .failing _ _ => !o.skipErrors && !o.pauseOnError
  | _ => false

end Place

namespace Runner

/-- The outlook of a run that is carried out and asked to stop: where the cursor will be, and
whether the run will end with a failure. -/
def Outlook (run : Run) (cursor : Nat) (broken : Bool) (r : Runner) : Place → Prop
  | .blocked _ => False
  | .ended => r.status.cursor = cursor ∧ r.status.phase = (if broken then .error else .idle) ∧
      ∃ outcome j, r.journal = .ended run.id outcome :: j ∧ outcome.isOk = !broken
  | p => r.status.cursor + (p.passes run.options).toNat = cursor ∧ p.breaks run.options = broken

/-- A run is carried out since a state `r₀`, and asked to stop. -/
structure Halting (run : Run) (r₀ : Runner) (cursor : Nat) (broken : Bool) (p : Place)
    (r : Runner) : Prop where
  control : r.control = .stop
  epoch_eq : run.epoch = r.epoch
  inert : Adds (fun e => ¬ e.Begins) r₀ r
  outlook : Outlook run cursor broken r p

section Stop

variable {run : Run} {b : Blocked} {r₀ r r' : Runner} {cursor : Nat} {broken : Bool}

theorem Halting.finish {p : Place} (h : Halting run r₀ cursor broken p r)
    {outcome : Except Failure Unit} (hc : r.status.cursor = cursor)
    (hb : outcome.isOk = !broken) :
    Halting run r₀ cursor broken .ended (r.finish run outcome) := by
  have hadds : Adds (fun e => ¬ e.Begins) r₀ (r.finish run outcome) :=
    h.inert.finish outcome (fun _ => id) (fun _ => id) fun _ => id
  have hj : ∃ m j,
      (r.finish run outcome).journal = .ended run.id (outcome.map fun _ => m) :: j := by
    rw [Runner.finish, if_pos h.epoch_eq]
    exact ⟨_, _, rfl⟩
  obtain ⟨m, j, e⟩ := r.close_eq run outcome
  rw [Runner.finish, if_pos h.epoch_eq, e] at hadds hj ⊢
  obtain ⟨m', j', hj⟩ := hj
  refine ⟨h.control, h.epoch_eq, hadds, hc, ?_, _, _, hj, ?_⟩
  · cases outcome <;> cases broken <;> first | rfl | cases hb
  · cases outcome <;> exact hb

theorem Halting.fail {a : Attempt} {e : Failure}
    (h : Halting run r₀ cursor broken (.failing a e) r) :
    Halting run r₀ cursor broken (.failing a e) (r.fail run a e) := by
  have hadds : Adds (fun e => ¬ e.Begins) r₀ (r.fail run a e) := h.inert.fail a e id
  obtain ⟨m, he⟩ := r.fail_eq run a e
  rw [he] at hadds ⊢
  exact ⟨h.control, h.epoch_eq, hadds, h.outlook⟩

theorem Halting.stride {p p' : Place} (h : Halting run r₀ cursor broken p r)
    (hs : Stride run (p, r) (p', r')) : Halting run r₀ cursor broken p' r' := by
  have hc := h.control
  have ho := h.outlook
  cases hs with
  -- a run that is asked to stop takes none of these
  | pause hp | finish hp | begin hp =>
    rw [hc] at hp
    cases hp
  | perform hn | space hn | failPaused hn => exact absurd hc hn
  | stop _ todo => exact h.finish ho.1 (by rw [← ho.2]; rfl)
  | @interrupt _ _ a hs =>
    have hp : a.steps.isEmpty = false := by simpa using hs
    simp only [Outlook, Place.passes, hp] at ho
    exact { h with outlook := ho }
  | @leave _ a hs hn =>
    simp only [Outlook, Place.passes, hs] at ho
    exact { h with outlook := ho }
  | complete _ a =>
    have hadds : Adds (fun e => ¬ e.Begins) r₀ (r.complete run a) :=
      h.inert.complete a fun _ _ => id
    obtain ⟨m, e⟩ := r.complete_eq run a
    rw [e] at hadds ⊢
    exact ⟨hc, h.epoch_eq, hadds, ho⟩
  | failStopped _ hpause a e =>
    have ho := h.fail.outlook
    simp only [Outlook, Place.passes, Place.breaks, Options.skips, hpause] at ho
    exact { h.fail with outlook := by simpa [Outlook, Place.passes, Place.breaks] using ho }
  | failSkipped _ hpause hskip a e =>
    have ho := h.fail.outlook
    simp only [Outlook, Place.passes, Place.breaks, Options.skips, hpause, hskip] at ho
    exact ⟨h.fail.control, h.fail.epoch_eq, h.fail.inert.trans (.of_eq rfl), ho⟩
  | failEnded _ hpause hskip a e =>
    have ho := h.fail.outlook
    simp only [Outlook, Place.passes, Place.breaks, Options.skips, hpause, hskip] at ho
    exact h.fail.finish ho.1 (by rw [← ho.2]; rfl)

theorem Departs.keeps {w : Wake} {p : Place} (hd : Departs run r b w (p, r')) :
    r'.control = r.control ∧ r'.epoch = r.epoch ∧ r'.status.cursor = r.status.cursor ∧
      Adds (fun e => ¬ e.Begins) r r' := by
  have hwait (wait : Nat) (w : Wake) : ((r.disarm wait).endWait w).control = r.control ∧
      ((r.disarm wait).endWait w).epoch = r.epoch ∧
      ((r.disarm wait).endWait w).status.cursor = r.status.cursor ∧
      Adds (fun e => ¬ e.Begins) r ((r.disarm wait).endWait w) := by
    have hadds : Adds (fun e => ¬ e.Begins) r ((r.disarm wait).endWait w) :=
      Adds.endWait (.of_eq rfl) (fun _ => id) fun _ => id
    obtain ⟨slot, j, e⟩ := r.endWait_disarm_eq wait w
    rw [e] at hadds ⊢
    exact ⟨rfl, rfl, rfl, hadds⟩
  cases hd with
  | signalled | timedOut | cancelled => exact hwait _ _
  | _ => exact ⟨rfl, rfl, rfl, .refl _ r⟩

theorem Departs.passes_eq {w : Wake} {p : Place} (hd : Departs run r b w (p, r')) (o : Options) :
    p.passes o = b.passes o w ∧ p.breaks o = b.breaks o w := by
  cases hd with
  | spaced a d w =>
    cases w <;> exact ⟨rfl, rfl⟩
  | rejected a text hr | accepted a text hr =>
    simp [Place.passes, Place.breaks, Blocked.passes, Blocked.breaks, Blocked.completes,
      Blocked.fails, hr]
  | _ =>
    simp [Place.passes, Place.breaks, Blocked.passes, Blocked.breaks, Blocked.completes,
      Blocked.fails]

theorem Departs.halting {w : Wake} {p : Place} (hd : Departs run r b w (p, r'))
    (hc : r.control = .stop) (he : run.epoch = r.epoch) :
    Halting run r (r.status.cursor + (b.passes run.options w).toNat) (b.breaks run.options w) p
      r' := by
  obtain ⟨hc', he', hcur, hadds⟩ := hd.keeps
  obtain ⟨hp, hb⟩ := hd.passes_eq run.options
  refine ⟨hc'.trans hc, he.trans he'.symm, hadds, ?_⟩
  have hout : r'.status.cursor + (p.passes run.options).toNat =
      r.status.cursor + (b.passes run.options w).toNat ∧
      p.breaks run.options = b.breaks run.options w := ⟨by rw [hcur, hp], hb⟩
  cases hd <;> exact hout

/-! ## The end of a run that was asked to stop -/

theorem InProgress.not_unfinished {w : Wake} (h : r.InProgress run b)
    (hi : ((r.without run.id).goOn run b w).Idle) :
    ¬ ((r.without run.id).goOn run b w).Unfinished run.id := by
  rintro ⟨x, hx, hid⟩
  have hf := (Frame.refl run (r.without run.id)).goOn b w
  obtain ⟨l, e, hl⟩ := hf.runs
  have hx' := hx
  rw [e] at hx
  rcases List.mem_append.1 hx with hx | hx
  · exact absurd hid (by simpa using (List.mem_filter.1 hx).2)
  · have hlt := hi.old x hx'
    rw [hl x hx, hf.epoch_eq] at hlt
    exact Nat.ne_of_lt hlt h.epoch_eq

theorem InProgress.halts (h : r.InProgress run b) (hc : r.control = .stop) {w : Wake}
    (ha : r.allows run b w) : Halts run b w r (r.wake run.id w) := by
  rw [Inv.wake_eq (.inr ⟨run, b, h⟩) h.mem ha]
  have he : run.epoch = (r.without run.id).epoch := h.epoch_eq
  rcases h.goOn_induct (I := fun p r' => Halting run (r.without run.id) _ _ p r') ha
    (fun p r' hd => hd.halting hc he) (fun p r p' r' hp hs => hp.stride hs) with
    ⟨b', -, hb⟩ | ⟨hi, ho⟩
  · exact absurd hb.outlook id
  · exact
      { ended := h.not_unfinished hi
        executing := hi.executing
        inert := (Adds.of_eq rfl).trans ho.inert
        cursor_eq := ho.outlook.1
        phase_eq := ho.outlook.2.1
        outcome := ho.outlook.2.2 }

/-! ## As long as a run is asked to stop -/

theorem InProgress.refuses (h : r.InProgress run b) (hc : r.control = .stop) : r.Refuses := by
  have hp := h.phase_of_stop hc
  have hload (cs : List Command) : ∃ e, r.load cs = .error e := by
    cases hl : r.load cs with
    | error e => exact ⟨e, rfl⟩
    | ok r' =>
      cases ht : Task.ofCommands cs <;>
        simp [Runner.load, ht, h.executing, bind, Except.bind] at hl
  have hcomp (c : Compilation) : ∃ e, r.loadCompilation c = .error e := by
    unfold loadCompilation
    dsimp only
    split
    · split
      · obtain ⟨e, he⟩ := hload c.expand.commands
        exact ⟨e, by rw [he]; rfl⟩
      · exact ⟨_, rfl⟩
    · exact ⟨_, rfl⟩
  exact
    { pause := by simp [Runner.pause, hp]
      unpause := by simp [Runner.unpause, hp]
      stop := by simp [Runner.stop, hp]
      play := play_eq_error h.executing
      load := hload
      loadCompilation := hcomp
      loadScript := fun source => by
        unfold loadScript
        split
        · exact hcomp _
        · exact ⟨_, rfl⟩
        · exact ⟨_, rfl⟩ }

/-- A run was asked to stop in a state `r₀` and is still blocked. -/
structure Asked (run : Run) (b : Blocked) (r₀ r : Runner) : Prop where
  inProgress : r.InProgress run b
  control : r.control = .stop
  inert : Adds (fun e => ¬ e.Begins) r₀ r
  cursor_eq : r.status.cursor = r₀.status.cursor
  instant : (∀ a text, b ≠ .calling a text) → r.clock = r₀.clock

theorem Aside.inert {i : Input} (h : Aside i r r') : Adds (fun e => ¬ e.Begins) r r' :=
  h.adds (fun _ => id) fun _ _ => id

/-- Where a run waits that is asked to stop, only an answer of the device or the stop itself lets it
go on: no deadline has come. -/
theorem Asked.allowed (h : Asked run b r₀ r) (hw : r₀.Awaits b) {w : Wake}
    (ha : r.allows run b w) :
    w = .released ∨ ∃ a text reply, b = .calling a text ∧ w = .answered reply := by
  cases b with
  | paused todo => cases w <;> simp [allows] at ha ⊢
  | calling a text => cases w <;> simp [allows] at ha ⊢
  | holding a d | spacing a d =>
    have hlt : r.clock < d := (h.instant (by simp)).symm ▸ hw
    cases w <;> simp [allows] at ha ⊢
    omega
  | waiting a wait d told =>
    have hlt : r.clock < d := (h.instant (by simp)).symm ▸ hw.2.2
    have htold := hw.1
    cases w <;> simp [allows, htold] at ha ⊢
    omega

theorem Asked.released (h : Asked run b r₀ r) (hb : ∀ a text, b ≠ .calling a text) :
    r.allows run b .released := by
  have hc := h.control
  cases b with
  | calling a text => exact absurd rfl (hb a text)
  | _ => simp [allows, MayGoOn, hc]

theorem Asked.calling_of_quiet (h : Asked run b r₀ r) (hq : r.Quiet) :
    ∃ a text, b = .calling a text := by
  by_contra hb
  obtain ⟨reply, e⟩ := h.inProgress.rests hq _ (h.released fun a text e => hb ⟨a, text, e⟩)
  cases e

/-- What comes in time leaves a run asked to stop, or it is a reset, or it lets the run go on. -/
theorem Asked.step (h : Asked run b r₀ r) {i : Input} (hi : r.InTime i) (hreset : i ≠ .reset) :
    Asked run b r₀ (r.step i) ∨ ∃ w, i = .wake run.id w ∧ r.allows run b w := by
  have hp := h.inProgress
  have ht := Inv.turn (.inr ⟨run, b, hp⟩) i
  generalize hr' : r.step i = r' at ht ⊢
  cases ht with
  | load _ hidle | idle hidle | play hidle => exact absurd hp hidle.not_inProgress
  | reset => exact absurd rfl hreset
  | goOn h₁ ha =>
    obtain ⟨rfl, rfl⟩ := h₁.unique hp
    exact .inr ⟨_, rfl, ha⟩
  | aside h₁ h₂ hb hw ha =>
    obtain ⟨rfl, rfl⟩ := h₁.unique hp
    rcases hb with rfl | ⟨rfl, a, wait, d, rfl, -⟩
    · refine .inl ⟨h₂, ha.stopped h.control, h.inert.trans ha.inert, ?_, fun hb => ?_⟩
      · rw [congrArg Status.cursor ha.status_eq]
        exact h.cursor_eq
      · rcases ha.clock_eq with e | ⟨ms, rfl, -⟩
        · exact e.trans (h.instant hb)
        · obtain ⟨a, text, e⟩ := h.calling_of_quiet hi.1
          exact absurd e (hb a text)
    · obtain ⟨a', text, e⟩ := h.calling_of_quiet hi
      cases e

theorem not_unfinished_step {p : Nat} (hp : p < r.plays) (hn : ¬ r.Unfinished p) (i : Input) :
    ¬ (r.step i).Unfinished p := by
  by_cases hi : ∃ w, i = .wake p w
  · obtain ⟨w, rfl⟩ := hi
    rcases r.wake_eq p w with e | ⟨run, b, hm, hid, -⟩
    · rwa [Runner.step, e]
    · exact absurd ⟨_, hm, hid⟩ hn
  · rwa [(step_spares (fun _ => Nat.ne_of_lt hp) fun w e => hi ⟨w, e⟩).unfinished_iff]

theorem not_unfinished_after {p : Nat} (hp : p < r.plays) (hn : ¬ r.Unfinished p)
    (s : List Input) : ¬ (r.after s).Unfinished p := by
  induction s generalizing r with
  | nil => exact hn
  | cons i s ih =>
    exact ih (Nat.lt_of_lt_of_le hp (r.le_step i).2) (not_unfinished_step hp hn i)

theorem Asked.after (h : Asked run b r₀ r) {s : List Input} (hs : r.Prompt s)
    (hreset : .reset ∉ s) (hu : (r.after s).Unfinished run.id) : Asked run b r₀ (r.after s) := by
  induction s generalizing r with
  | nil => exact h
  | cons i s ih =>
    rw [List.mem_cons, not_or] at hreset
    rcases h.step hs.1 (fun e => hreset.1 e.symm) with h' | ⟨w, rfl, ha⟩
    · exact ih h' hs.2 hreset.2 hu
    · have hended := (h.inProgress.halts h.control ha).ended
      have hlt : run.id < (r.step (.wake run.id w)).plays :=
        Nat.lt_of_lt_of_le (h.inProgress.roster.member _ h.inProgress.mem).id_lt (r.le_step _).2
      exact absurd hu (not_unfinished_after hlt hended s)

theorem Asked.stopping (h : Asked run b r₀ r) (hw : r₀.Awaits b) (hb : b.Sited run r) :
    Stopping run b r₀ r where
  current_eq := h.inProgress.current_eq
  sited := hb
  inert := h.inert
  cursor_eq := h.cursor_eq
  phase := h.inProgress.phase_of_stop h.control
  refuses := h.inProgress.refuses h.control
  signal hq := by
    obtain ⟨a, text, rfl⟩ := h.calling_of_quiet hq
    cases hs : r.slot with
    | none => simp [Runner.signal, hs]
    | some wait =>
      obtain ⟨a', d, e⟩ := h.inProgress.slot_eq hs
      cases e
  instant hb := ⟨h.instant hb, h.released hb⟩
  allowed w ha := h.allowed hw ha
  halts w ha := h.inProgress.halts h.control ha
  stays i hi hreset hn := by
    rcases h.step hi hreset with h' | ⟨w, e, ha⟩
    · exact ⟨_, h'.inProgress.mem, rfl⟩
    · exact absurd ha (hn w e)

/-! ## Whatever comes -/

/-- If a play is in progress it is asked to stop. -/
def Spent (p : Nat) (r : Runner) : Prop :=
  p < r.plays ∧ ∀ run b, r.InProgress run b → run.id = p → r.control = .stop

theorem Spent.step {p : Nat} (h : Spent p r) (hinv : r.Inv) (i : Input) : Spent p (r.step i) := by
  refine ⟨Nat.lt_of_lt_of_le h.1 (r.le_step i).2, fun run b hp hid => ?_⟩
  have ht := hinv.turn i
  generalize hr' : r.step i = r' at ht hp ⊢
  cases ht with
  | load _ _ hidle | idle _ hidle => exact absurd hp hidle.not_inProgress
  | reset => exact absurd hp hinv.reset.not_inProgress
  | play hidle hplay =>
    rcases hidle.play_induct (I := fun _ _ => True) hplay trivial fun _ _ _ _ _ _ => trivial with
      ⟨b', hp', -⟩ | ⟨hidle', -⟩
    · rw [(hp'.unique hp).1] at hid
      exact absurd hid (Nat.ne_of_gt h.1)
    · exact absurd hp hidle'.not_inProgress
  | @goOn run₁ b₁ w h₁ ha =>
    rcases h₁.goOn_induct (I := fun _ _ => True) ha (fun _ _ _ => trivial)
      fun _ _ _ _ _ _ => trivial with ⟨b', hp', -⟩ | ⟨hidle', -⟩
    · obtain ⟨rfl, rfl⟩ := hp'.unique hp
      have hended := (h₁.halts (h.2 _ _ h₁ hid) ha).ended
      rw [Inv.wake_eq hinv h₁.mem ha] at hended
      exact absurd ⟨_, hp.mem, rfl⟩ hended
    · exact absurd hp hidle'.not_inProgress
  | aside h₁ h₂ hb hw ha =>
    obtain ⟨rfl, rfl⟩ := h₂.unique hp
    exact ha.stopped (h.2 _ _ h₁ hid)

theorem Spent.after {p : Nat} (h : Spent p r) (hinv : r.Inv) (s : List Input) :
    Spent p (r.after s) := by
  induction s generalizing r with
  | nil => exact h
  | cons i s ih => exact ih (h.step hinv i) (hinv.step i)

/-- A play that is asked to stop, if it is in progress at all, begins nothing when it goes on. -/
theorem Spent.inert {p : Nat} (h : Spent p r) (hinv : r.Inv) (w : Wake) :
    Adds (fun e => ¬ e.Begins) r (r.wake p w) := by
  by_cases hgo : ∃ run b, r.InProgress run b ∧ run.id = p ∧ r.allows run b w
  · obtain ⟨run, b, hp, rfl, ha⟩ := hgo
    exact (hp.halts (h.2 run b hp rfl) ha).inert
  · have ha := (hinv.aside_wake (i := .wake p w) fun run b hp hid ha =>
      hgo ⟨run, b, hp, hid, ha⟩).1
    exact ha.inert

/-- **Every stop that is not refused is safe.** -/
theorem Reachable.stop_safe (h : r.Reachable) (hq : r.Quiet) (hs : r.stop = some r') :
    ∃ run b, r.current = [(run, b)] ∧ StopSafe run b r r' := by
  obtain ⟨hp, e⟩ : (r.status.phase = .running ∨ r.status.phase = .paused ∨
      r.status.phase = .syncWait) ∧ setPhase .stopping { r with control := .stop } = r' := by
    simpa [Runner.stop] using hs
  have hr' : r.step .stop = r' := by rw [Runner.step, hs]; rfl
  have hreach : r'.Reachable := hr' ▸ h.step .stop
  obtain ⟨run, b, hprog⟩ := h.inv.inProgress (by rcases hp with hp | hp | hp <;> simp [hp])
    (by rcases hp with hp | hp | hp <;> simp [hp])
  have hasked : Asked run b r r' := by
    have hadds : Adds (fun e => ¬ e.Begins) r r' := by
      rw [← e]
      exact Adds.setPhase (.of_eq rfl) id
    have hprog' : r'.InProgress run b := e ▸ hprog.setMode .stop
    obtain ⟨j, e'⟩ := setPhase_eq { r with control := .stop } .stopping
    rw [e'] at e
    subst e
    exact ⟨hprog', rfl, hadds, rfl, fun _ => rfl⟩
  have hspent : Spent run.id r' := by
    refine ⟨(hasked.inProgress.roster.member _ hasked.inProgress.mem).id_lt, fun _ _ _ _ => ?_⟩
    exact hasked.control
  refine ⟨run, b, hprog.current_eq, fun s w => ?_, fun s hs hreset hu => ?_⟩
  · exact (hspent.after hreach.inv s).inert (hreach.after s).inv w
  · have h' := hasked.after hs hreset hu
    exact h'.stopping (hprog.awaits (hprog.rests hq)) ((hreach.after s).sited h'.inProgress)

end Stop

/-- A play of two commands is asked to stop while it waits for the signal. -/
def stoppedWait : Runner :=
  let c : Command := ⟨.wait, "WAIT", 1, 0, []⟩
  (new Options.standard).after [.load [c, c], .play]

theorem stoppedWait_stop_safe : ∃ r', stoppedWait.stop = some r' ∧
    ∃ run b, stoppedWait.current = [(run, b)] ∧ StopSafe run b stoppedWait r' := by
  refine ⟨_, rfl, Reachable.stop_safe ((Reachable.new _).after _) (fun x hx w ha => ?_) rfl⟩
  obtain rfl := List.mem_singleton.1 hx
  cases w with
  | answered reply => exact ⟨reply, rfl⟩
  | elapsed | signalled | released => exact absurd ha (by decide)

end Runner

end MotionScript
