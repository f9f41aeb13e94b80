import Mathlib.Algebra.GroupWithZero.Nat
import MotionScript.Proofs.Run.Smooth

/-!
# A play can be brought to its end

What a run waits for can come at any time: an answer of the device, the signal, a time, or the end
of a pause. Whenever it comes the run has less to do.

* `Enabled`, `InProgress.enabled`: what a run waits for comes, and nothing else changes.
* `Place.weight`: how often a run still blocks, at most.
* `Departs.weight_lt`, `Stride.weight_le`, `Lessens`: it is less once a run goes on.
* **`Reachable.ends`**: a play without a failure so far, paused or not, can be brought to its end
  without one.
-/

namespace MotionScript

/-- Whether an input is the signal, or the passing of time. -/
def Input.IsExternal : Input → Prop
  | .signal | .pass _ => True
  | _ => False

/-- How often a run blocks in some tasks, at most, and one more for each of them. -/
def weightOf (todo : List Task) : Nat := (todo.map fun t => t.steps.length + 2).sum

/-- How often a run still blocks, at most, if it is not asked to pause. -/
def Place.weight : Place → Nat
  | before todo => weightOf todo
  | within a => a.steps.length + 1 + weightOf a.later
  | done a => weightOf a.later
  | blocked b => b.ahead + 1 + weightOf b.later
  | failing _ _ | ended => 0

theorem weightOf_cons (t : Task) (later : List Task) :
    weightOf (t :: later) = t.steps.length + 2 + weightOf later := by
  rw [weightOf, List.map_cons, List.sum_cons]
  rfl

namespace Runner

/-- What a run waits for comes, and nothing else changes. -/
structure Enabled (run : Run) (b b' : Blocked) (s : List Input) (w : Wake) (r : Runner) :
    Prop where
  external : ∀ i ∈ s, i.IsExternal
  inProgress : (r.after s).InProgress run b'
  allows : (r.after s).allows run b' w
  unfailing : b'.failure? run.options w = none
  told : b' = b ∨ ∃ a wait d, b = .waiting a wait d none ∧ b' = .waiting a wait d (some true)
  control_eq : (r.after s).control = r.control
  status_eq : (r.after s).status = r.status
  tasks_eq : (r.after s).tasks = r.tasks
  journal_eq : (r.after s).journal = r.journal

/-- A run is not asked to pause or to stop, does not fail, and has less than `n` still to do. -/
structure Lessens (n : Nat) (p : Place) (r : Runner) : Prop where
  control_eq : r.control = .run
  not_failing : ¬ p.IsFailing
  weight_lt : p.weight < n

section Ends

variable {run : Run} {b b' : Blocked} {w : Wake} {p p' : Place} {i : Input} {s s' : List Input}
  {r r' : Runner}

/-! ## What a run waits for can come -/

theorem InProgress.enabled (h : r.InProgress run b)
    (hc : (∃ a, b.attempt? = some a) ∨ r.control ≠ .pause) :
    ∃ b' s w, Enabled run b b' s w r := by
  have hnow {w : Wake} (ha : r.allows run b w) (hf : b.failure? run.options w = none) :
      Enabled run b b [] w r :=
    ⟨fun _ hm => (List.not_mem_nil hm).elim, h, ha, hf, .inl rfl, rfl, rfl, rfl, rfl⟩
  have hlater {d : Nat} (ha : (r.pass (d - r.clock)).allows run b .elapsed)
      (hf : b.failure? run.options .elapsed = none) :
      Enabled run b b [.pass (d - r.clock)] .elapsed r :=
    ⟨fun _ hm => List.mem_singleton.1 hm ▸ trivial, h.pass _, ha, hf, .inl rfl, rfl, rfl, rfl, rfl⟩
  have hdeadline (d : Nat) : d ≤ r.clock + (d - r.clock) := by omega
  cases b with
  | paused todo =>
    have hc : r.control ≠ .pause := hc.resolve_left fun ⟨a, ha⟩ => by cases ha
    exact ⟨_, _, .released, hnow (by simp [allows, hc]) rfl⟩
  | calling a text => exact ⟨_, _, .answered (.ok (.accepted "")), hnow rfl rfl⟩
  | holding a d | spacing a d =>
    exact ⟨_, _, _, hlater (decide_eq_true (hdeadline d)) rfl⟩
  | waiting a wait d told =>
    cases told with
    | none =>
      have hs : r.slot = some wait := ((h.roster.member _ h.mem).untold_iff rfl).1 rfl
      have e : r.after [.signal] = r.tellWait true := by
        simp [Runner.step, Runner.signal, hs]
      refine ⟨.waiting a wait d (some true), [.signal], .signalled,
        fun _ hm => List.mem_singleton.1 hm ▸ trivial, ?_, rfl, rfl,
        .inr ⟨a, wait, d, rfl, rfl⟩, ?_, ?_, ?_, ?_⟩ <;> rw [e]
      · exact h.told
      all_goals rfl
    | some told =>
      cases told with
      | true => exact ⟨_, _, .signalled, hnow rfl rfl⟩
      | false =>
        -- only a reset tells a wait that the signal will not come
        have hlt := (h.roster.member _ h.mem).epoch_of_off rfl
        exact absurd h.epoch_eq (Nat.ne_of_lt hlt)

/-- What is left to do is the same when it comes. -/
theorem Enabled.left_eq (h : Enabled run b b' s w r) :
    b'.attempt? = b.attempt? ∧ b'.left = b.left ∧ b'.ahead = b.ahead ∧ b'.later = b.later ∧
      b'.todo = b.todo :=
  Blocked.left_of_told (i := .signal) (h.told.imp_right fun ht => ⟨rfl, ht⟩)

theorem harmless_of_ne (hreset : i ≠ .reset) (hplay : i ≠ .play) (hl : ¬ i.IsLoad) :
    r.Harmless i :=
  ⟨hreset, fun h => absurd h hl, fun h => absurd h hplay⟩

theorem harmless_of_external (hi : i.IsExternal) : r.Harmless i := by
  cases i with
  | signal | pass => exact harmless_of_ne (by simp) (by simp) id
  | _ => exact hi.elim

theorem Smooth.append {p : Nat} (h : r.Smooth p s) (h' : (r.after s).Smooth p s') :
    r.Smooth p (s ++ s') := by
  induction s generalizing r with
  | nil => exact h'
  | cons i s ih =>
    obtain ⟨hstop, hi, hw, hs⟩ := h
    exact ⟨hstop, hi, hw, ih hs h'⟩

theorem smooth_of_external (p : Nat) (h : ∀ i ∈ s, i.IsExternal) : r.Smooth p s := by
  induction s generalizing r with
  | nil => trivial
  | cons i s ih =>
    have hi := h i List.mem_cons_self
    refine ⟨fun e => ?_, harmless_of_external hi, fun _ _ _ e => ?_,
      ih fun j hj => h j (List.mem_cons_of_mem _ hj)⟩ <;>
    · rw [e] at hi
      exact hi.elim

theorem InProgress.smooth_wake (h : r.InProgress run b)
    (hf : b.failure? run.options w = none) : r.Smooth run.id [.wake run.id w] := by
  refine ⟨by simp, harmless_of_ne (by simp) (by simp) id, fun run' b' w' e hid hm _ => ?_, trivial⟩
  cases e
  cases h.roster.eq_of_id_eq (Runner.mem_current.1 hm).1 h.mem hid
  exact hf

/-! ## A run that goes on has less to do -/

theorem Departs.weight_lt (hd : Departs run r b w (p, r')) (hc : r.control ≠ .stop) :
    p.weight < (Place.blocked b).weight := by
  cases hd with
  | cut _ _ hstop | cancelled _ _ _ _ hstop => exact absurd hstop hc
  | _ =>
    simp only [Place.weight, Blocked.ahead, Blocked.left, Blocked.later]
    omega

theorem Stride.weight_le (hs : Stride run (p, r) (p', r')) (hc : r.control = .run)
    (hp : ¬ p.IsFailing) : p'.weight ≤ p.weight := by
  cases hs with
  | pause hpause => exact absurd (hc.symm.trans hpause) (by simp)
  | stop hstop | interrupt hstop => exact absurd (hc.symm.trans hstop) (by simp)
  | finish => exact Nat.zero_le _
  | begin _ t later =>
    simp only [Place.weight, weightOf_cons]
    omega
  | @perform _ _ a s steps hs =>
    have hweight : (Place.blocked (r.blockedIn run { a with steps } s)).weight =
        steps.length + 2 + weightOf a.later := by cases s <;> rfl
    have hlen : a.steps.length = steps.length + 1 := by rw [hs, List.length_cons]
    rw [hweight]
    simp only [Place.weight]
    omega
  | @space _ _ a hs =>
    simp only [Place.weight, Blocked.ahead, Blocked.later, hs, List.length_nil]
    omega
  | leave =>
    simp only [Place.weight]
    omega
  | complete => exact Nat.le_refl _
  | failPaused | failStopped | failSkipped | failEnded => exact absurd trivial hp

theorem Departs.lessens (hd : Departs run r b w (p, r')) (hc : r.control = .run)
    (he : b.failure? run.options w = none) : Lessens (Place.blocked b).weight p r' :=
  ⟨hd.silent.control_eq.trans hc, hd.not_failing he, hd.weight_lt (by simp [hc])⟩

theorem Lessens.stride {n : Nat} (h : Lessens n p r) (hs : Stride run (p, r) (p', r')) :
    Lessens n p' r' :=
  ⟨(hs.control_eq h.not_failing).trans h.control_eq, (hs.unreported h.not_failing).2,
    Nat.lt_of_le_of_lt (hs.weight_le h.control_eq h.not_failing) h.weight_lt⟩

/-- A run that is not asked to pause or to stop can be brought to its end. The induction is on how
often it still blocks. -/
theorem InProgress.ends_of_run (h : r.InProgress run b) (hc : r.control = .run) :
    ∃ s, r.Smooth run.id s ∧ (r.after s).status.executing = false := by
  induction hn : (Place.blocked b).weight using Nat.strongRecOn generalizing b r with
  | ind n ih =>
    obtain ⟨b', s, w, he⟩ := h.enabled (.inr (by simp [hc]))
    have hp := he.inProgress
    have hrun : (r.after s).control = .run := he.control_eq.trans hc
    have hs : r.Smooth run.id (s ++ [.wake run.id w]) :=
      (smooth_of_external _ he.external).append (hp.smooth_wake he.unfailing)
    have hafter : r.after (s ++ [.wake run.id w]) =
        ((r.after s).without run.id).goOn run b' w := by
      rw [after_concat, Runner.step, Inv.wake_eq (.inr ⟨run, b', hp⟩) hp.mem he.allows]
    have hweight : (Place.blocked b').weight = n := by
      obtain ⟨-, -, hahead, hlater, -⟩ := he.left_eq
      rw [← hn, Place.weight, Place.weight, hahead, hlater]
    rcases hp.goOn_induct he.allows (fun _ _ hd => hd.lessens hrun he.unfailing)
      fun _ _ _ _ hl hs => hl.stride hs with ⟨b'', hp', hl⟩ | ⟨hidle, -⟩
    · rw [← hafter] at hp' hl
      obtain ⟨s', hs', hend⟩ := ih _ (hweight ▸ hl.weight_lt) hp' hl.control_eq rfl
      exact ⟨_, hs.append hs', by rw [after_append]; exact hend⟩
    · rw [← hafter] at hidle
      exact ⟨_, hs, hidle.executing⟩

theorem InProgress.ends (h : r.InProgress run b) (hc : r.control ≠ .stop) :
    ∃ s, r.Smooth run.id s ∧ (r.after s).status.executing = false := by
  cases hmode : r.control with
  | run => exact h.ends_of_run hmode
  | stop => exact absurd hmode hc
  | pause =>
    have hphase := h.phase_of_pause hmode
    have e : r.step .unpause = setPhase Control.run.phase { r with control := .run } := by
      simp only [Runner.step, Runner.unpause, hphase, if_true]
      rfl
    have hp : (r.step .unpause).InProgress run b := e ▸ h.setMode .run
    have hrun : (r.step .unpause).control = .run := e ▸ control_setMode r .run
    obtain ⟨s, hs, hend⟩ := hp.ends_of_run hrun
    have hunpause : r.Smooth run.id [.unpause] :=
      ⟨by simp, harmless_of_ne (by simp) (by simp) id, (fun _ _ _ e => by cases e), trivial⟩
    exact ⟨.unpause :: s, hunpause.append hs, hend⟩

/-- **A play without a failure so far can be brought to its end without one.** -/
theorem Reachable.ends (h : r.Reachable) (hp : r.play = .ok r') (hs : r'.Smooth r.plays s) :
    ∃ s', r'.Smooth r.plays (s ++ s') ∧ (r'.after (s ++ s')).status.executing = false := by
  rcases (h.onCourse hp).after hs with ⟨b, hprog, hd⟩ | ⟨hidle, -⟩
  · obtain ⟨s', hs', hend⟩ := hprog.ends hd.control
    exact ⟨s', hs.append hs', by rw [after_append]; exact hend⟩
  · exact ⟨[], by rwa [List.append_nil], by rw [List.append_nil]; exact hidle.executing⟩

end Ends

end Runner

end MotionScript
