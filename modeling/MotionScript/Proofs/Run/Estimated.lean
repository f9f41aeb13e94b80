import Mathlib.Algebra.Order.BigOperators.Group.List
import Mathlib.Algebra.Order.Ring.Nat
import MotionScript.Proofs.Run.Timetable
import MotionScript.Proofs.Script.Limits

/-!
# Estimates and plans

The estimate for a command adds up its lists; its plan reads them position by position.

* `positionSends`: how many positions some steps send.
* `Move.idleDelays`: the delays of a move beyond its positions. The estimate counts them, and no
  step holds for them.
* `Move.estimate_eq`, `greatest_groupEstimate`: the estimates in terms of the plans.
* **`Compilation.duration_eq_plan`**: a command that moves axes is estimated to take what its plan
  takes, and its idle delays besides.
-/

namespace MotionScript

/-- Whether a step sends an axis to a position. -/
def Step.isTarget : Step → Bool
  | .send text => Axis.all.any fun a => (a.wire ++ ";1;").toList.isPrefixOf text.toList
  | .delay _ | .signal => false

/-- The number of positions that some steps send. -/
def positionSends (steps : List Step) : Nat := steps.countP Step.isTarget

/-- The delays beyond the positions of a move. -/
def Move.idleDelays (m : Move) : List Nat := m.delays.drop m.positions.length

section Steps

theorem isTarget_targetText (a : Axis) (p : Int) : Step.isTarget (.send (targetText a p)) := by
  have htext : (targetText a p).toList = (a.wire ++ ";1;").toList ++ (toString p).toList := by
    rw [← String.toList_append]
    rfl
  refine List.any_eq_true.2 ⟨a, by cases a <;> decide, List.isPrefixOf_iff_prefix.2 ?_⟩
  rw [htext]
  exact List.prefix_append ..

theorem isTarget_speedText (a : Axis) (v : Nat) :
    Step.isTarget (.send (speedText a v)) = false := by
  have htext : (speedText a v).toList = 'S' :: ("PEED;" ++ a.name ++ ";" ++ toString v).toList := by
    show ("SPEED;" ++ a.name ++ ";" ++ toString v).toList = _
    simp
  refine List.any_eq_false.2 fun b _ hprefix => ?_
  rw [htext, List.isPrefixOf_iff_prefix] at hprefix
  cases b <;> cases (List.cons_prefix_cons.1 hprefix).1

theorem positionSends_append (steps steps' : List Step) :
    positionSends (steps ++ steps') = positionSends steps + positionSends steps' :=
  List.countP_append

theorem positionSends_hold (ms : Nat) : positionSends (hold ms) = 0 := by
  unfold hold
  split <;> rfl

theorem Leg.takes (axis : Axis) (l : Leg) : positionSends (l.steps axis) = 1 ∧
    (delaysOf (l.steps axis)).sum = l.delay?.getD 0 := by
  have htarget := isTarget_targetText axis l.target
  have hhold := positionSends_hold (l.delay?.getD 0)
  have hsum := sum_delaysOf_hold (l.delay?.getD 0)
  unfold positionSends at hhold
  cases hv : l.speed? with
  | none => simp_all [steps, positionSends, delaysOf]
  | some v => simp_all [steps, positionSends, delaysOf, isTarget_speedText]

end Steps

/-! ## Moves -/

/-- Through its positions a move sends each and holds for the delays that belong to them. -/
theorem legs_take (axis : Axis) (ps : List Int) (ds ss : List Nat) :
    positionSends ((Move.legsOnto [] ps ds ss).flatMap (Leg.steps axis)) = ps.length ∧
      (delaysOf ((Move.legsOnto [] ps ds ss).flatMap (Leg.steps axis))).sum +
        (ds.drop ps.length).sum = ds.sum := by
  induction ps generalizing ds ss with
  | nil => exact ⟨rfl, Nat.zero_add _⟩
  | cons p ps ih =>
    obtain ⟨hsends, hholds⟩ := ih ds.tail ss.tail
    obtain ⟨hsend, hhold⟩ := Leg.takes axis ⟨p, ds.head?, ss.head?⟩
    rw [Move.legsOnto_cons, List.flatMap_cons, positionSends_append, delaysOf_append,
      List.sum_append, hsends, hsend, hhold, List.length_cons]
    refine ⟨Nat.add_comm .., ?_⟩
    cases ds with
    | nil => simpa using hholds
    | cons d ds =>
      simp only [List.head?_cons, Option.getD_some, List.tail_cons, List.drop_succ_cons,
        List.sum_cons] at hholds ⊢
      omega

theorem Move.estimate_eq (m : Move) : m.estimate =
    moveDuration * positionSends m.steps + (delaysOf m.steps).sum + m.idleDelays.sum := by
  obtain ⟨hsends, hholds⟩ := legs_take m.axis m.positions m.delays m.speeds
  have hsteps : m.steps = (legsOnto [] m.positions m.delays m.speeds).flatMap
    (Leg.steps m.axis) := rfl
  rw [estimate, total_eq_sum, List.map_id, hsteps, hsends, idleDelays, Nat.mul_comm]
  omega

theorem total_estimate (ms : List Move) : total Move.estimate ms =
    moveDuration * positionSends (ms.flatMap Move.steps) +
      (delaysOf (ms.flatMap Move.steps)).sum + (ms.flatMap Move.idleDelays).sum := by
  induction ms with
  | nil => rfl
  | cons m ms ih =>
    rw [total_cons, ih, m.estimate_eq, List.flatMap_cons, List.flatMap_cons,
      positionSends_append, delaysOf_append, List.sum_append, List.sum_append, Nat.mul_add]
    omega

theorem greatest_groupEstimate {ms : List Move} (hne : ms ≠ []) :
    greatest Move.groupEstimate ms = moveDuration + groupDelay ms := by
  have key : ∀ (ms : List Move) (n : Nat), ms.foldl (fun n m => max n m.groupEstimate)
      (moveDuration + n) =
        moveDuration + ms.foldl (fun d m => max d (m.delays.head?.getD 0)) n := by
    intro ms
    induction ms with
    | nil => exact fun _ => rfl
    | cons m ms ih =>
      intro n
      have hmax : max (moveDuration + n) m.groupEstimate =
          moveDuration + max n (m.delays.head?.getD 0) := by
        unfold Move.groupEstimate
        omega
      rw [List.foldl_cons, List.foldl_cons, hmax, ih]
  cases ms with
  | nil => exact absurd rfl hne
  | cons m ms =>
    have hfirst : max 0 m.groupEstimate = moveDuration + max 0 (m.delays.head?.getD 0) := by
      unfold Move.groupEstimate
      omega
    rw [greatest, groupDelay, List.foldl_cons, List.foldl_cons, hfirst, key]

theorem delaysOf_groupSteps (ms : List Move) : delaysOf (ms.filterMap Move.groupStep?) = [] := by
  refine List.filterMap_eq_nil_iff.2 fun s hs => ?_
  obtain ⟨m, -, hm⟩ := List.mem_filterMap.1 hs
  obtain ⟨p, -, rfl⟩ := Option.map_eq_some_iff.1 hm
  rfl

/-! ## Commands of a script -/

theorem ne_nil_of_group {s : List Char} {ms : List Move}
    (h : (Instruction.group ms).Written s) : ms ≠ [] := by
  cases h with
  | group _ hms => exact hms.ne_nil

/-- **What a command is estimated to take is what its plan takes**: the time of a move for each
position that is sent, or for all together in a group, and the holds. The estimate for a movement
counts its idle delays besides, which no step holds for. -/
theorem Compilation.duration_eq_plan {callDepth : Nat} {source : String} {c : Compilation}
    (h : compile callDepth source = .ok c) {x : Command} (hx : x ∈ c.program.allCommands) :
    (∀ ms, x.instruction = .movement ms → ∃ steps, plan x = .ok steps ∧
      x.duration = moveDuration * positionSends steps + (delaysOf steps).sum +
        (ms.flatMap Move.idleDelays).sum ∧
      (x.duration = moveDuration * positionSends steps + (delaysOf steps).sum ↔
        ∀ m ∈ ms, ∀ d ∈ m.idleDelays, d = 0)) ∧
    ∀ ms, x.instruction = .group ms → ∃ steps, plan x = .ok steps ∧
      x.duration = moveDuration + (delaysOf steps).sum := by
  obtain ⟨-, hwritten, hestimate⟩ := exists_token h hx
  constructor
  · intro ms hms
    obtain ⟨hduration, -⟩ := hestimate (by rw [hms]; rfl)
    have htotal : x.duration = moveDuration * positionSends (ms.flatMap Move.steps) +
        (delaysOf (ms.flatMap Move.steps)).sum + (ms.flatMap Move.idleDelays).sum := by
      rw [hduration, hms]
      exact total_estimate ms
    refine ⟨ms.flatMap Move.steps, by rw [plan, hms], htotal, ?_⟩
    have hzero : (ms.flatMap Move.idleDelays).sum = 0 ↔
        ∀ m ∈ ms, ∀ d ∈ m.idleDelays, d = 0 := by
      rw [List.sum_eq_zero_iff]
      simp only [List.mem_flatMap, forall_exists_index, and_imp]
      exact ⟨fun hall m hm d hd => hall d m hm hd, fun hall d m hm hd => hall m hm d hd⟩
    rw [← hzero, htotal]
    omega
  · intro ms hms
    obtain ⟨hduration, -⟩ := hestimate (by rw [hms]; rfl)
    have hne : ms ≠ [] := ne_nil_of_group (hms ▸ hwritten)
    refine ⟨ms.filterMap Move.groupStep? ++ hold (groupDelay ms), by rw [plan, hms], ?_⟩
    rw [hduration, hms, delaysOf_append, delaysOf_groupSteps, List.nil_append, sum_delaysOf_hold]
    exact greatest_groupEstimate hne

/-- A move of X to one position, with two delays. -/
def strayDelay : Command :=
  ⟨.movement [⟨.x, [1], [5, 7], []⟩], "X(1,d5,d7)", 1, 1012, []⟩

theorem compile_strayDelay : compile defaultCallDepth "X(1,d5,d7);" =
    .ok ⟨⟨[strayDelay], []⟩, [], defaultCallDepth⟩ := by
  have hc : compileTokens defaultCallDepth (tokenize "X(1,d5,d7);".toList).1
      (tokenize "X(1,d5,d7);".toList).2 = ⟨⟨[strayDelay], []⟩, [], defaultCallDepth⟩ := by
    rw [compileTokens_eq, Program.resolve_eq]
    decide +kernel
  refine compile_eq_ok.2 ⟨by decide, hc.symm, ?_⟩
  decide +kernel

theorem strayDelay_duration :
    compile defaultCallDepth "X(1,d5,d7);" = .ok ⟨⟨[strayDelay], []⟩, [], defaultCallDepth⟩ ∧
      ∃ steps, plan strayDelay = .ok steps ∧
        strayDelay.duration = moveDuration * positionSends steps + (delaysOf steps).sum + 7 := by
  obtain ⟨steps, hplan, hduration, -⟩ := (Compilation.duration_eq_plan compile_strayDelay
    (List.mem_singleton.2 rfl)).1 _ rfl
  exact ⟨compile_strayDelay, steps, hplan, hduration⟩

/-- A command without any problem whose estimate counts a delay that its plan does not hold for. -/
theorem strayDelay_not_planned :
    compile defaultCallDepth "X(1,d5,d7);" = .ok ⟨⟨[strayDelay], []⟩, [], defaultCallDepth⟩ ∧
      plan strayDelay = .ok [.send "x;1;1", .delay 5] ∧
      strayDelay.duration ≠ moveDuration * positionSends [.send "x;1;1", .delay 5] +
        (delaysOf [.send "x;1;1", .delay 5]).sum :=
  ⟨compile_strayDelay, by decide, by decide⟩

end MotionScript
