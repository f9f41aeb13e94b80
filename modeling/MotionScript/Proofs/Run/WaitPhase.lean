import Mathlib.Data.List.Induction
import MotionScript.Proofs.Run.Signal

/-!
# What the phase tells of a wait

A wait that begins enters the phase that tells of it, and no other part of a run does. A pause or a
stop that is not refused leaves that phase, and a resumption does not go back to it: it enters the
phase of a run that is carried out, though the run still waits.

* `Runner.interrupts`, `interrupted`: a pause or a stop that is not refused.
* `WaitPhase`: what the phase tells in the course of a wait, and what can be told from it.
* **`waitPhase_after`**: it does so after every schedule.
-/

namespace MotionScript

namespace Runner

/-- Whether an input is a pause or a stop, and not refused. -/
def interrupts (r : Runner) : Input → Bool
  | .pause => r.pause.isSome
  | .stop => r.stop.isSome
  | _ => false

/-- Whether there is a pause or a stop in a schedule that is not refused. -/
def interrupted : List Input → Runner → Bool
  | [], _ => false
  | i :: s, r => r.interrupts i || interrupted s (r.step i)

/-- A wait begins in the course of an input. -/
structure BeginsWait (run : Run) (a : Attempt) (wait d : Nat) (i : Input) (r : Runner) : Prop where
  mem : (run, .waiting a wait d none) ∈ (r.step i).current
  new : ∀ told, (run, .waiting a wait d told) ∉ r.current

/-- What the phase tells of the wait of the run in progress after a schedule. -/
structure WaitPhase (o : Options) (s : List Input) (r : Runner) : Prop where
  /-- It tells of the wait until the first pause or stop since the wait began. From then on it tells
  only of the mode that is asked for, also once that is to go on. -/
  waiting : ∀ run a wait d told, (run, .waiting a wait d told) ∈ r.current →
    ∃ s₁ i s₂, s = s₁ ++ i :: s₂ ∧ BeginsWait run a wait d i ((new o).after s₁) ∧
      r.status.phase =
        if interrupted s₂ ((new o).after (s₁ ++ [i])) then r.control.phase else .syncWait
  /-- If it tells of a wait, then a run waits and is neither asked to pause nor to stop. -/
  told : r.status.phase = .syncWait → r.control = .run ∧
    ∃ run a wait d told, r.current = [(run, .waiting a wait d told)] ∧
      (r.Quiet → told = none ∧ r.slot = some wait ∧ r.clock < d)

end Runner

/-- A run that is blocked in a wait has just begun it, and it is not one of the first `n` waits. The
phase tells of it. -/
def Place.BegunAfter (n : Nat) (r : Runner) : Place → Prop
  | .blocked (.waiting _ wait _ told) =>
    n ≤ wait ∧ told = none ∧ r.status.phase = .syncWait
  | _ => n ≤ r.waits

namespace Runner

section WaitPhase

variable {run : Run} {b : Blocked} {a : Attempt} {wait d n : Nat} {told : Option Bool} {i : Input}
  {r r' : Runner} {o : Options} {s : List Input}

/-! ## The beginning of a wait -/

theorem Stride.begunAfter {p p' : Place} (hs : Stride run (p, r) (p', r'))
    (h : p.BegunAfter n r) : p'.BegunAfter n r' := by
  have hfinish (outcome : Except Failure Unit) {r : Runner} (h : n ≤ r.waits) :
      n ≤ (r.finish run outcome).waits := by
    unfold Runner.finish
    split
    · obtain ⟨m, j, e⟩ := r.close_eq run outcome
      rw [e]
      exact h
    · exact h
  have hfail (a : Attempt) (e : Failure) (h : n ≤ r.waits) : n ≤ (r.fail run a e).waits := by
    obtain ⟨m, he⟩ := r.fail_eq run a e
    rw [he]
    exact h
  cases hs with
  | pause | interrupt | space | leave => exact h
  | stop hc todo | finish hc => exact hfinish _ h
  | begin hc t later =>
    obtain ⟨j, e⟩ := r.begin_eq t
    rw [e]
    exact h
  | @perform _ hc a s steps =>
    cases s with
    | send text | delay ms => exact h
    | signal =>
      obtain ⟨j, e⟩ := r.perform_signal_eq run { a with steps }
      rw [e]
      exact ⟨h, rfl, rfl⟩
  | complete _ a =>
    obtain ⟨m, e⟩ := r.complete_eq run a
    rw [e]
    exact h
  | failPaused hc ho a e =>
    obtain ⟨j, e'⟩ := setPhase_eq { r.fail run a e with control := .pause } .paused
    rw [e']
    exact hfail a e h
  | failStopped _ _ a e | failSkipped _ _ _ a e => exact hfail a e h
  | failEnded _ ho hk a e => exact hfinish _ (hfail a e h)

theorem Departs.begunAfter {w : Wake} {p : Place} (hd : Departs run r b w (p, r'))
    (h : n ≤ r.waits) : p.BegunAfter n r' := by
  have hwait (wait : Nat) (w : Wake) : n ≤ ((r.disarm wait).endWait w).waits := by
    obtain ⟨slot, j, e⟩ := r.endWait_disarm_eq wait w
    rw [e]
    exact h
  cases hd with
  | signalled | timedOut | cancelled => exact hwait _ _
  | _ => exact h

theorem Inv.begins_or_kept (h : r.Inv)
    (hm : (run, .waiting a wait d told) ∈ (r.step i).current) :
    (told = none ∧ BeginsWait run a wait d i r ∧ (r.step i).status.phase = .syncWait) ∨
      ∃ told', r.InProgress run (.waiting a wait d told') ∧
        ∀ w, i = .wake run.id w → ¬ r.allows run (.waiting a wait d told') w := by
  have hp := (h.step i).inProgress_of_mem_current hm
  have hopened : r.waits ≤ (r.opened.setPhase .running).waits := by
    obtain ⟨j, e⟩ := r.opened.setPhase_eq .running
    rw [e]
    exact Nat.le_refl _
  rcases h.blocked_or_kept (I := fun p r' => p.BegunAfter r.waits r') hp (fun _ _ => hopened)
    (fun _ _ _ _ _ _ _ hd => hd.begunAfter (Nat.le_refl _))
    (fun _ _ _ _ hb hs => hs.begunAfter hb) with ⟨hle, rfl, hphase⟩ | ⟨b₀, hp₀, hb, hw, -⟩
  · refine .inl ⟨rfl, ⟨hm, fun told hm' => ?_⟩, hphase⟩
    have hlt := (h.roster.member _ (mem_current.1 hm').1).wait_lt rfl
    exact Nat.not_le.2 hlt hle
  · rcases hb with rfl | ⟨-, a', wait', d', rfl, e⟩
    · exact .inr ⟨_, hp₀, hw⟩
    · cases e
      exact .inr ⟨_, hp₀, hw⟩

/-! ## In the course of a wait -/

theorem interrupted_concat (s : List Input) (i : Input) (r : Runner) :
    interrupted (s ++ [i]) r = (interrupted s r || (r.after s).interrupts i) := by
  induction s generalizing r with
  | nil => simp [interrupted]
  | cons j s ih => simp only [List.cons_append, interrupted, ih, after_cons, Bool.or_assoc]

theorem InProgress.phase_of_kept {c : Bool} (h : r.InProgress run b) {b' : Blocked}
    (h' : (r.step i).InProgress run b') (hw : ∀ w, i = .wake run.id w → ¬ r.allows run b w)
    (hphase : r.status.phase = if c then r.control.phase else .syncWait) :
    (r.step i).status.phase =
      if c || r.interrupts i then (r.step i).control.phase else .syncWait := by
  have hset (c : Control) : (setPhase c.phase { r with control := c }).status.phase =
      (setPhase c.phase { r with control := c }).control.phase := by
    obtain ⟨j, e⟩ := setPhase_eq { r with control := c } c.phase
    rw [e]
  by_cases hi : i ≠ .pause ∧ i ≠ .unpause ∧ i ≠ .stop
  · obtain ⟨hc, hp⟩ := h.mode_of_kept h' hw hi
    have hn : r.interrupts i = false := by
      cases i <;> first | rfl | simp at hi
    rw [hc, hp, hn, Bool.or_false, hphase]
  · have hi : i = .pause ∨ i = .unpause ∨ i = .stop := by
      by_contra hn
      simp only [not_or] at hn
      exact hi hn
    rcases hi with rfl | rfl | rfl
    · by_cases hr : r.status.phase = .running ∨ r.status.phase = .syncWait
      · have e : r.pause = some (setPhase .paused { r with control := .pause }) := if_pos hr
        simp only [Runner.step, interrupts, e, Option.isSome_some, Bool.or_true, if_true]
        exact hset .pause
      · have e : r.pause = none := if_neg hr
        simp only [Runner.step, interrupts, e, Option.isSome_none, Bool.or_false]
        exact hphase
    · by_cases hr : r.status.phase = .paused
      · have e : r.unpause = some (setPhase .running { r with control := .run }) := if_pos hr
        have hc : c = true := by
          cases c with
          | true => rfl
          | false => cases hr.symm.trans hphase
        simp only [Runner.step, e, hc, Bool.true_or, if_true]
        exact hset .run
      · have e : r.unpause = none := if_neg hr
        simp only [Runner.step, interrupts, e, Bool.or_false]
        exact hphase
    · by_cases hr : r.status.phase = .running ∨ r.status.phase = .paused ∨
          r.status.phase = .syncWait
      · have e : r.stop = some (setPhase .stopping { r with control := .stop }) := if_pos hr
        simp only [Runner.step, interrupts, e, Option.isSome_some, Bool.or_true, if_true]
        exact hset .stop
      · have e : r.stop = none := if_neg hr
        simp only [Runner.step, interrupts, e, Option.isSome_none, Bool.or_false]
        exact hphase

theorem phase_of_waiting (o : Options) (s : List Input)
    (hm : (run, .waiting a wait d told) ∈ ((new o).after s).current) :
    ∃ s₁ i s₂, s = s₁ ++ i :: s₂ ∧ BeginsWait run a wait d i ((new o).after s₁) ∧
      ((new o).after s).status.phase =
        if interrupted s₂ ((new o).after (s₁ ++ [i])) then ((new o).after s).control.phase
        else .syncWait := by
  induction s using List.reverseRecOn generalizing told with
  | nil => cases hm
  | append_singleton s i ih =>
    have hinv := ((Reachable.new o).after s).inv
    rw [after_concat] at hm ⊢
    rcases hinv.begins_or_kept hm with ⟨rfl, hb, hphase⟩ | ⟨told', hp, hw⟩
    · exact ⟨s, i, [], rfl, hb, hphase⟩
    · obtain ⟨s₁, j, s₂, rfl, hb, hphase⟩ := ih hp.mem_current
      refine ⟨s₁, j, s₂ ++ [i], by simp, hb, ?_⟩
      have hp' := (hinv.step i).inProgress_of_mem_current hm
      have hafter : ((new o).after (s₁ ++ [j])).after s₂ = (new o).after (s₁ ++ j :: s₂) := by
        rw [← after_append, List.append_assoc]
        rfl
      rw [interrupted_concat, hafter]
      exact hp.phase_of_kept hp' hw hphase

end WaitPhase

/-- **After every schedule the phase tells of the wait of the run in progress until the first pause
or stop**, and from then on only of the mode that is asked for. -/
theorem waitPhase_after (o : Options) (s : List Input) : WaitPhase o s ((new o).after s) where
  waiting run a wait d told hm := phase_of_waiting o s hm
  told hphase := by
    obtain ⟨run, b, hp⟩ := ((Reachable.new o).after s).inv.inProgress (by simp [hphase])
      (by simp [hphase])
    rcases hp.phase with hc | ⟨hb, -, hc⟩
    · rw [hphase] at hc
      cases hcontrol : ((new o).after s).control <;> rw [hcontrol] at hc <;> cases hc
    · cases b with
      | waiting a wait d told =>
        refine ⟨hc, run, a, wait, d, told, hp.current_eq, fun hq => ?_⟩
        obtain ⟨a', wait', d', e, hslot, hd⟩ := hp.slot_of_quiet hq trivial
        cases e
        exact ⟨rfl, hslot, hd⟩
      | paused | calling | holding | spacing => exact hb.elim

/-- A play that waits for the signal was paused and resumed. -/
def resumedWait : Runner :=
  (new Options.standard).after [.load [⟨.wait, "WAIT", 1, 0, []⟩], .play, .pause, .unpause]

/-- It still waits, is asked to go on, and its phase does not tell of the wait. -/
theorem resumedWait_phase : (∃ x ∈ resumedWait.current, x.2.IsWaiting) ∧ resumedWait.Quiet ∧
    resumedWait.control = .run ∧ resumedWait.status.phase = .running := by
  refine ⟨⟨_, List.mem_singleton_self _, trivial⟩, fun x hx w ha => ?_, rfl, by decide⟩
  obtain rfl := List.mem_singleton.1 hx
  cases w with
  | answered reply => exact ⟨reply, rfl⟩
  | elapsed | signalled | released => exact absurd ha (by decide)

end Runner

end MotionScript
