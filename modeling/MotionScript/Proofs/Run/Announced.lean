import Mathlib.Data.List.Induction
import MotionScript.Proofs.Run.Turn

/-!
# The phase that a listener makes out

A listener begins with idle and applies every change of phase that is announced. What is announced
in the course of an input accounts for the change of the phase, with one exception: a load that is
accepted after a run ended with a failure goes back to idle and does not tell. The listener is wrong
from then on until the next change is announced.

* `Runner.announced`, `Runner.observed`: the changes announced, and the phase they lead to.
* `Announces`: what is announced between two states accounts for the change of the phase. It is
  proved for each stride of a run, and `Inv.announces_step` for every input but `Silences`.
* **`observed_after`**: after every schedule the listener is right, unless such a load was the last
  to change the phase.
-/

namespace MotionScript

/-- The phase that an entry announces. -/
def Entry.phase? : Entry → Option Phase
  | .event (.phaseChanged p) => some p
  | _ => none

/-- The phase after some changes, one applied after the other. -/
def Phase.follow (p : Phase) (changes : List Phase) : Phase := changes.foldl (fun _ q => q) p

theorem Phase.follow_append (p : Phase) (l l' : List Phase) :
    p.follow (l ++ l') = (p.follow l).follow l' := List.foldl_append

theorem Phase.follow_eq_of_ne_nil {l : List Phase} (h : l ≠ []) (p q : Phase) :
    p.follow l = q.follow l := by
  cases l with
  | nil => exact absurd rfl h
  | cons x l => rfl

namespace Runner

/-- The changes of phase announced so far, first one first. -/
def announced (r : Runner) : List Phase := r.journal.reverse.filterMap Entry.phase?

/-- The phase that a listener makes out: it begins with idle and applies every change announced. -/
def observed (r : Runner) : Phase := Phase.idle.follow r.announced

/-- What is announced between two states accounts for the change of the phase. -/
def Announces (r r' : Runner) : Prop :=
  ∃ changes, r'.announced = r.announced ++ changes ∧
    r'.status.phase = r.status.phase.follow changes

/-- An input loads something after a run ended with a failure, and leaves the runner idle. -/
def Silences (r : Runner) (i : Input) : Prop :=
  i.IsLoad ∧ r.status.phase = .error ∧ (r.step i).status.phase = .idle

/-- In the course of a schedule something was loaded after a run ended with a failure, and nothing
is announced since. -/
def Silenced (o : Options) (s : List Input) : Prop :=
  ∃ s₁ i s₂, s = s₁ ++ i :: s₂ ∧ Silences ((new o).after s₁) i ∧
    ((new o).after s).announced = ((new o).after s₁).announced

section Announces

variable {run : Run} {r r' r'' : Runner}

/-! ## Parts of a transition -/

theorem announced_note (e : Entry) (r : Runner) :
    (r.note e).announced = r.announced ++ e.phase?.toList := by
  unfold announced note
  rw [List.reverse_cons, List.filterMap_append]
  cases h : e.phase? <;> simp [h]

namespace Announces

theorem of_eq (hj : r'.journal = r.journal) (hp : r'.status.phase = r.status.phase) :
    Announces r r' :=
  ⟨[], by rw [announced, hj, announced, List.append_nil], hp⟩

theorem refl (r : Runner) : Announces r r := of_eq rfl rfl

theorem trans (h : Announces r r') (h' : Announces r' r'') : Announces r r'' := by
  obtain ⟨l, ha, hp⟩ := h
  obtain ⟨l', ha', hp'⟩ := h'
  refine ⟨l ++ l', by rw [ha', ha, List.append_assoc], ?_⟩
  rw [hp', hp, Phase.follow_append]

theorem note (h : Announces r r') {e : Entry} (he : e.phase? = none) :
    Announces r (r'.note e) := by
  obtain ⟨l, ha, hp⟩ := h
  refine ⟨l, ?_, hp⟩
  rw [announced_note, he, ha]
  exact List.append_nil _

theorem setPhase (h : Announces r r') (p : Phase) : Announces r (r'.setPhase p) := by
  unfold Runner.setPhase
  split
  · exact h
  · refine h.trans ⟨[p], ?_, rfl⟩
    exact announced_note (.event (.phaseChanged p)) _

theorem begin (h : Announces r r') (t : Task) : Announces r (r'.begin t) := by
  have hc : Announces r { r' with status := { r'.status with callers := t.command.callers } } :=
    h.trans (.of_eq rfl rfl)
  exact (hc.setPhase .running).note rfl

theorem complete (h : Announces r r') (a : Attempt) : Announces r (r'.complete run a) := by
  obtain ⟨m, e⟩ := r'.complete_eq run a
  exact (h.note rfl).trans (.of_eq (by rw [e]; rfl) (by rw [e]; rfl))

theorem fail (h : Announces r r') (a : Attempt) (e : Failure) :
    Announces r (r'.fail run a e) := by
  obtain ⟨m, he⟩ := r'.fail_eq run a e
  exact (h.note rfl).trans (.of_eq (by rw [he]; rfl) (by rw [he]; rfl))

theorem finished (h : Announces r r') (m : Metrics) (p : Nat) (outcome : Except Failure Metrics) :
    Announces r ((r'.emit (.finished m)).note (.ended p outcome)) := by
  have hm : Announces r (r'.emit (.finished m)) := h.note rfl
  exact hm.note rfl

theorem finish (h : Announces r r') (outcome : Except Failure Unit) :
    Announces r (r'.finish run outcome) := by
  unfold Runner.finish
  split
  · have hclose : Announces r { r' with
        metrics :=
          if run.options.monitoring then { r'.metrics with runTime := r'.clock - run.began }
          else r'.metrics
        status := { r'.status with executing := false, syncWaitStart := none } } :=
      h.trans (.of_eq rfl rfl)
    exact finished (hclose.setPhase (endPhase outcome)) _ run.id _
  · exact h.note rfl

theorem endWait (h : Announces r r') (w : Wake) : Announces r (r'.endWait w) := by
  have key {r' : Runner} (h : Announces r r') :
      Announces r (if r'.status.phase = .syncWait then r'.setPhase .running else r') := by
    split
    · exact h.setPhase _
    · exact h
  have hu : Announces r { r' with status := { r'.status with syncWaitStart := none } } :=
    h.trans (.of_eq rfl rfl)
  cases w with
  | signalled => exact key (hu.note rfl)
  | elapsed => exact key (h.trans (.of_eq rfl rfl))
  | answered _ | released => exact key hu

theorem perform (h : Announces r r') (a : Attempt) (s : Step) :
    Announces r (r'.perform run a s) := by
  cases s with
  | send text => exact (h.note rfl).trans (.of_eq rfl rfl)
  | delay ms => exact h.trans (.of_eq rfl rfl)
  | signal =>
    have harm : Announces r { r' with
        slot := some r'.waits
        waits := r'.waits + 1
        status := { r'.status with syncWaitStart := some (r'.clock : Int) } } :=
      h.trans (.of_eq rfl rfl)
    exact ((harm.setPhase .syncWait).note rfl).trans (.of_eq rfl rfl)

end Announces

/-! ## The course of a run -/

theorem Stride.announces {p p' : Place} (hs : Stride run (p, r) (p', r')) : Announces r r' := by
  cases hs with
  | pause | interrupt | space | leave => exact .of_eq rfl rfl
  | stop hc todo | finish hc => exact (Announces.refl r).finish _
  | begin hc t later => exact (Announces.refl r).begin t
  | perform hc hs => exact (Announces.refl r).perform _ _
  | complete _ a => exact (Announces.refl r).complete a
  | failPaused hc ho a e =>
    have hf : Announces r (r.fail run a e) := (Announces.refl r).fail a e
    have hc : Announces r { r.fail run a e with control := .pause } := hf.trans (.of_eq rfl rfl)
    exact hc.setPhase _
  | failStopped hc ho a e => exact (Announces.refl r).fail a e
  | failSkipped _ ho hk a e =>
    have hf : Announces r (r.fail run a e) := (Announces.refl r).fail a e
    exact hf.trans (.of_eq rfl rfl)
  | failEnded _ ho hk a e => exact ((Announces.refl r).fail a e).finish _

theorem Departs.announces {b : Blocked} {w : Wake} {p : Place} (hd : Departs run r b w (p, r')) :
    Announces r r' := by
  have hwait (wait : Nat) (w : Wake) : Announces r ((r.disarm wait).endWait w) := by
    have hdisarm : Announces r (r.disarm wait) := .of_eq rfl rfl
    exact hdisarm.endWait w
  cases hd with
  | signalled | timedOut | cancelled => exact hwait _ _
  | _ => exact .refl r

/-- What the run in progress announces when it goes on accounts for the change of the phase. -/
theorem InProgress.announces {b : Blocked} {w : Wake} (h : r.InProgress run b)
    (ha : r.allows run b w) : Announces r ((r.without run.id).goOn run b w) := by
  have hw : Announces r (r.without run.id) := .of_eq rfl rfl
  rcases h.goOn_induct (I := fun _ r' => Announces (r.without run.id) r') ha
    (fun _ _ hd => hd.announces) (fun _ _ _ _ h hs => h.trans hs.announces) with
    ⟨_, -, h'⟩ | ⟨-, h'⟩
  · exact hw.trans h'
  · exact hw.trans h'

/-! ## Inputs -/

/-- What is loaded changes the phase only after a run that ended with a failure. -/
theorem Inv.announces_load {i : Input} (h : r.Inv) (hi : i.IsLoad) (hl : Loads r (r.step i))
    (hn : ¬ Silences r i) : Announces r (r.step i) := by
  rcases hl with e | ⟨he, tasks, e⟩
  · rw [e]
    exact .refl r
  · have hp : r.status.phase = .idle :=
      (h.idle he).phase.resolve_right fun hp => hn ⟨hi, hp, by rw [e]; rfl⟩
    rw [e]
    exact .of_eq rfl hp.symm

theorem Inv.announces_launch (h : r.Inv) : Announces r r.launch := by
  cases hp : r.play with
  | ok r' =>
    have hr : r.launch = r' := by rw [Runner.launch, hp]
    have ho : Announces r (r.opened.setPhase .running) :=
      Announces.setPhase (.of_eq rfl rfl) .running
    rw [hr]
    rcases (h.idle (play_eq_ok hp).1).play_induct (I := fun _ r' => Announces r r') hp ho
      (fun _ _ _ _ h hs => h.trans hs.announces) with ⟨_, -, h'⟩ | ⟨-, h'⟩
    · exact h'
    · exact h'
  | error e =>
    have hr : Announces r { r with plays := r.plays + 1 } := .of_eq rfl rfl
    rw [Runner.launch, hp]
    exact hr.note rfl

theorem Inv.announces_wake (h : r.Inv) (play : Nat) (w : Wake) :
    Announces r (r.wake play w) := by
  rcases r.wake_eq play w with e | ⟨run, b, hm, rfl, ha, e⟩
  · rw [e]
    exact .refl r
  · by_cases he : run.epoch = r.epoch
    · rw [e]
      exact (h.inProgress_of_mem hm he).announces ha
    · have hw : Announces r (r.without run.id) := .of_eq rfl rfl
      rw [e, h.goOn_abandoned hm he ha]
      exact hw.note rfl

/-- **What an input announces accounts for the change of the phase**, unless it loads something
after a run that ended with a failure. -/
theorem Inv.announces_step {i : Input} (h : r.Inv) (hn : ¬ Silences r i) :
    Announces r (r.step i) := by
  have hmode (hi : i = .pause ∨ i = .unpause ∨ i = .stop) : Announces r (r.step i) := by
    rcases r.step_mode hi with e | ⟨-, -, c, e⟩ <;> rw [e]
    · exact .refl r
    · exact Announces.setPhase (.of_eq rfl rfl) _
  cases i with
  | load cs => exact h.announces_load trivial (r.step_loads.1 cs) hn
  | loadCompilation c => exact h.announces_load trivial (r.step_loads.2.1 c) hn
  | loadScript source => exact h.announces_load trivial (r.step_loads.2.2 source) hn
  | play => exact h.announces_launch
  | pause | unpause | stop => exact hmode (by simp)
  | reset => exact ⟨[.idle], announced_note (.event (.phaseChanged .idle)) _, rfl⟩
  | signal =>
    simp only [Runner.step, Runner.signal]
    split <;> exact .of_eq rfl rfl
  | setOptions o => exact .of_eq rfl rfl
  | pass ms => exact .of_eq rfl rfl
  | wake play w => exact h.announces_wake play w

theorem Silences.announced_eq {i : Input} (h : Silences r i) :
    (r.step i).announced = r.announced := by
  have key {r' : Runner} (hl : Loads r r') : r'.announced = r.announced := by
    rcases hl with rfl | ⟨-, tasks, rfl⟩ <;> rfl
  obtain ⟨hi, -⟩ := h
  cases i with
  | load cs => exact key (r.step_loads.1 cs)
  | loadCompilation c => exact key (r.step_loads.2.1 c)
  | loadScript source => exact key (r.step_loads.2.2 source)
  | _ => exact hi.elim

/-! ## Schedules -/

theorem Announces.observed_eq_of_ne (h : Announces r r') (hne : r'.announced ≠ r.announced) :
    r'.observed = r'.status.phase := by
  obtain ⟨l, ha, hp⟩ := h
  have hl : l ≠ [] := by
    rintro rfl
    exact hne (ha.trans (List.append_nil _))
  rw [observed, ha, Phase.follow_append, hp]
  exact Phase.follow_eq_of_ne_nil hl _ _

theorem Announces.phase_eq (h : Announces r r') (he : r'.announced = r.announced) :
    r'.status.phase = r.status.phase := by
  obtain ⟨l, ha, hp⟩ := h
  have hl : l = [] := by simpa [he] using ha
  rw [hp, hl]
  rfl

theorem Inv.announced_prefix_step (h : r.Inv) (i : Input) :
    r.announced <+: (r.step i).announced := by
  by_cases hs : Silences r i
  · exact ⟨[], by rw [hs.announced_eq, List.append_nil]⟩
  · obtain ⟨l, e, -⟩ := h.announces_step hs
    exact ⟨l, e.symm⟩

theorem Inv.announced_prefix_after (h : r.Inv) (s : List Input) :
    r.announced <+: (r.after s).announced := by
  induction s generalizing r with
  | nil => exact List.prefix_rfl
  | cons i s ih => exact (h.announced_prefix_step i).trans (ih (h.step i))

variable {o : Options} {s : List Input}

/-- The last input silenced the runner, or it was silenced before and the last input announced
nothing. -/
theorem silenced_concat {i : Input} : Silenced o (s ++ [i]) ↔
    Silences ((new o).after s) i ∨
      Silenced o s ∧ (((new o).after s).step i).announced = ((new o).after s).announced := by
  constructor
  · rintro ⟨s₁, j, s₂, e, hj, ha⟩
    rw [after_concat] at ha
    rcases List.eq_nil_or_concat s₂ with rfl | ⟨s₂, j', rfl⟩
    · obtain ⟨rfl, hij⟩ := List.append_inj' e rfl
      cases hij
      exact .inl hj
    · have e : s ++ [i] = (s₁ ++ j :: s₂) ++ [j'] := by simpa using e
      obtain ⟨rfl, -⟩ := List.append_inj' e rfl
      -- nothing is announced since, so nothing was up to the last input
      have hinv := ((Reachable.new o).after s₁).inv
      have hle := hinv.announced_prefix_after (j :: s₂)
      rw [← after_append] at hle
      have hle' := ((Reachable.new o).after (s₁ ++ j :: s₂)).inv.announced_prefix_step i
      rw [ha] at hle'
      have heq := hle.eq_of_length_le hle'.length_le
      exact .inr ⟨⟨s₁, j, s₂, rfl, hj, heq.symm⟩, ha.trans heq⟩
  · rintro (hi | ⟨⟨s₁, j, s₂, rfl, hj, ha⟩, he⟩)
    · exact ⟨s, i, [], rfl, hi, by rw [after_concat, hi.announced_eq]⟩
    · exact ⟨s₁, j, s₂ ++ [i], by simp, hj, by rw [after_concat, he, ha]⟩

end Announces

/-- **After every schedule a listener that applies every change announced is right about the phase,
unless the runner is silenced**: then something was loaded after a run ended with a failure, and the
listener still takes the runner for failed while it is idle. -/
theorem observed_after (o : Options) (s : List Input) :
    (¬ Silenced o s → ((new o).after s).observed = ((new o).after s).status.phase) ∧
      (Silenced o s → ((new o).after s).observed = .error ∧
        ((new o).after s).status.phase = .idle) := by
  induction s using List.reverseRecOn with
  | nil =>
    refine ⟨fun _ => rfl, fun ⟨s₁, i, s₂, e, _⟩ => ?_⟩
    simp at e
  | append_singleton s i ih =>
    have hinv := ((Reachable.new o).after s).inv
    obtain ⟨htold, hsilenced⟩ := ih
    rw [silenced_concat, after_concat]
    by_cases hi : Silences ((new o).after s) i
    · refine ⟨fun h => absurd (.inl hi) h, fun _ => ⟨?_, hi.2.2⟩⟩
      -- the runner was not silenced before, since it was not idle
      have hn : ¬ Silenced o s := fun h => by
        have hp := (hsilenced h).2
        rw [hi.2.1] at hp
        cases hp
      rw [observed, hi.announced_eq, ← hi.2.1]
      exact htold hn
    · have ha := hinv.announces_step hi
      by_cases he : (((new o).after s).step i).announced = ((new o).after s).announced
      · have hsame : (((new o).after s).step i).observed = ((new o).after s).observed := by
          rw [observed, he, observed]
        simp only [hi, he, false_or, and_true, hsame, ha.phase_eq he]
        exact ⟨htold, hsilenced⟩
      · simp only [hi, he, false_or, and_false, not_false_eq_true, true_imp_iff]
        exact ⟨ha.observed_eq_of_ne he, False.elim⟩

/-- A runner whose play failed, with something loaded again. -/
def failedThenLoaded : Runner :=
  let c : Command := ⟨.detect, "DETECT", 1, 0, []⟩
  (new { Options.standard with pauseOnError := false }).after
    [.load [c], .play, .wake 0 (.answered (.ok (.rejected "NO"))), .load [c]]

/-- It is idle, and the last change announced is the failure. -/
theorem failedThenLoaded_observed :
    failedThenLoaded.observed = .error ∧ failedThenLoaded.status.phase = .idle := by
  decide

end Runner

end MotionScript
