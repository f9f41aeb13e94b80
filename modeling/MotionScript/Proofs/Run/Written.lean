import MotionScript.Proofs.Run.Parts

/-!
# What the parts of a transition write

* `perform_signal_eq`, `perform_eq`: the beginning of a wait, and of any step, as an update of a
  runner.
* `Adds`: all that is written between two states of a runner has a property.
* `Adds.setPhase`, `Adds.begin`, `Adds.perform`, `Adds.complete`, `Adds.fail`, `Adds.finish`,
  `Adds.endWait`: what each part writes.
-/

namespace MotionScript

namespace Runner

/-- A wait that begins takes the next signal, and the status tells of it. -/
theorem perform_signal_eq (r : Runner) (run : Run) (a : Attempt) :
    ∃ j, r.perform run a .signal =
      { r with
        slot := some r.waits
        waits := r.waits + 1
        status := { r.status with syncWaitStart := some (r.clock : Int), phase := .syncWait }
        runs := r.runs ++
          [(run, .waiting a r.waits (r.clock + run.options.syncTimeout) none)]
        journal := j } := by
  obtain ⟨j, e⟩ := setPhase_eq { r with
    slot := some r.waits
    waits := r.waits + 1
    status := { r.status with syncWaitStart := some (r.clock : Int) } } .syncWait
  simp only [perform]
  rw [e]
  exact ⟨_, rfl⟩

/-- A step that is begun as an update of a runner. -/
theorem perform_eq (r : Runner) (run : Run) (a : Attempt) (s : Step) :
    ∃ slot waits start phase b j, r.perform run a s =
      { r with
        slot
        waits
        status := { r.status with syncWaitStart := start, phase }
        runs := r.runs ++ [(run, b)]
        journal := j } := by
  cases s with
  | send text | delay ms => exact ⟨_, _, _, _, _, _, rfl⟩
  | signal =>
    obtain ⟨j, e⟩ := r.perform_signal_eq run a
    exact ⟨_, _, _, _, _, j, e⟩

/-- All that is written between two states of a runner has a property. -/
def Adds (P : Entry → Prop) (r r' : Runner) : Prop :=
  ∃ l, r'.journal = l ++ r.journal ∧ ∀ e ∈ l, P e

namespace Adds

variable {P Q : Entry → Prop} {run : Run} {r r' r'' : Runner}

theorem of_eq (h : r'.journal = r.journal) : Adds P r r' := ⟨[], h, fun e he => by cases he⟩

theorem refl (P : Entry → Prop) (r : Runner) : Adds P r r := of_eq rfl

theorem trans (h : Adds P r r') (h' : Adds P r' r'') : Adds P r r'' := by
  obtain ⟨l, e, hl⟩ := h
  obtain ⟨l', e', hl'⟩ := h'
  refine ⟨l' ++ l, by rw [e', e, List.append_assoc], fun x hx => ?_⟩
  rcases List.mem_append.1 hx with hx | hx
  · exact hl' x hx
  · exact hl x hx

theorem mono (h : Adds P r r') (hPQ : ∀ e, P e → Q e) : Adds Q r r' := by
  obtain ⟨l, e, hl⟩ := h
  exact ⟨l, e, fun x hx => hPQ x (hl x hx)⟩

theorem note {e : Entry} (h : Adds P r r') (he : P e) : Adds P r (r'.note e) := by
  refine h.trans ⟨[e], rfl, fun x hx => ?_⟩
  rw [List.mem_singleton.1 hx]
  exact he

theorem emit {e : Event} (h : Adds P r r') (he : P (.event e)) : Adds P r (r'.emit e) := h.note he

theorem setPhase {p : Phase} (h : Adds P r r') (hp : P (.event (.phaseChanged p))) :
    Adds P r (r'.setPhase p) := by
  unfold Runner.setPhase
  split
  · exact h
  · have hu : Adds P r { r' with status := { r'.status with phase := p } } := h.trans (of_eq rfl)
    exact hu.emit hp

theorem begin (h : Adds P r r') (t : Task) (hp : ∀ p, P (.event (.phaseChanged p)))
    (hs : P (.event (.started r'.status.cursor t.command.raw))) : Adds P r (r'.begin t) := by
  have hc : Adds P r { r' with status := { r'.status with callers := t.command.callers } } :=
    h.trans (of_eq rfl)
  exact (hc.setPhase (hp .running)).emit hs

theorem complete (h : Adds P r r') (a : Attempt) (hc : ∀ i n, P (.event (.completed i n))) :
    Adds P r (r'.complete run a) := by
  obtain ⟨m, e⟩ := r'.complete_eq run a
  exact (h.note (hc _ _)).trans (of_eq (by rw [e]; rfl))

theorem fail (h : Adds P r r') (a : Attempt) (e : Failure)
    (hf : P (.event (.failed r'.status.cursor (failureText a.task e)))) :
    Adds P r (r'.fail run a e) := by
  obtain ⟨m, he⟩ := r'.fail_eq run a e
  exact (h.note hf).trans (of_eq (by rw [he]; rfl))

theorem finish (h : Adds P r r') (outcome : Except Failure Unit)
    (hp : ∀ p, P (.event (.phaseChanged p))) (hf : ∀ m, P (.event (.finished m)))
    (he : ∀ o, P (.ended run.id o)) : Adds P r (r'.finish run outcome) := by
  unfold Runner.finish
  split
  · refine note (emit (setPhase (h.trans (of_eq rfl)) (hp _)) (hf _)) (he _)
  · exact h.note (he _)

theorem endWait (h : Adds P r r') {w : Wake} (hp : ∀ p, P (.event (.phaseChanged p)))
    (hs : w = .signalled → P (.event .signalled)) : Adds P r (r'.endWait w) := by
  have key {r' : Runner} (h : Adds P r r') :
      Adds P r (if r'.status.phase = .syncWait then r'.setPhase .running else r') := by
    split
    · exact h.setPhase (hp _)
    · exact h
  have hu : Adds P r { r' with status := { r'.status with syncWaitStart := none } } :=
    h.trans (of_eq rfl)
  cases w with
  | signalled => exact key (hu.emit (hs rfl))
  | elapsed => exact key (h.trans (of_eq rfl))
  | answered _ | released => exact key hu

theorem perform (h : Adds P r r') (a : Attempt) {s : Step} (hp : ∀ p, P (.event (.phaseChanged p)))
    (hw : ∀ i n, P (.event (.waiting i n)))
    (hs : ∀ text, s = .send text → P (.sent r'.clock run.id text run.options.maxRetries)) :
    Adds P r (r'.perform run a s) := by
  cases s with
  | send text => exact (h.note (hs text rfl)).trans (of_eq rfl)
  | delay ms => exact h.trans (of_eq rfl)
  | signal =>
    have harm : Adds P r { r' with
        slot := some r'.waits
        waits := r'.waits + 1
        status := { r'.status with syncWaitStart := some (r'.clock : Int) } } :=
      h.trans (of_eq rfl)
    exact ((harm.setPhase (hp _)).emit (hw _ run.options.syncTimeout)).trans (of_eq rfl)

end Adds

end Runner

end MotionScript
