import Mathlib.Data.List.Nodup
import MotionScript.Run.Runner

/-!
# The plays that have not ended

* `Member`: what holds of a play that has not ended: its number, its epoch, and its wait if it is in
  one.
* **`Roster`**: what holds of all of them. No two have one number, and the wait that takes the next
  signal is the wait of one of them.
* `Roster.append`, `Roster.arm`, `Roster.erase`, `Roster.told`, `Roster.next`: a roster stays one.
-/

namespace MotionScript

/-- Whether a run waits for the signal. -/
def Blocked.IsWaiting : Blocked → Prop
  | waiting _ _ _ _ => True
  | _ => False

namespace Runner

/-- What holds of a play that has not ended. -/
structure Member (epoch plays : Nat) (slot : Option Nat) (waits : Nat) (x : Run × Blocked) :
    Prop where
  id_lt : x.1.id < plays
  epoch_le : x.1.epoch ≤ epoch
  wait_lt : ∀ {a w d told}, x.2 = .waiting a w d told → w < waits
  /-- A wait that was not told anything takes the next signal. -/
  untold_iff : ∀ {a w d told}, x.2 = .waiting a w d told → (told = none ↔ slot = some w)
  /-- The wait of an abandoned run was told something. -/
  epoch_of_untold : ∀ {a w d}, x.2 = .waiting a w d none → x.1.epoch = epoch
  /-- Only a reset tells a wait that the signal will not come. -/
  epoch_of_off : ∀ {a w d}, x.2 = .waiting a w d (some false) → x.1.epoch < epoch

/-- What holds of the plays that have not ended. -/
structure Roster (runs : List (Run × Blocked)) (epoch plays : Nat) (slot : Option Nat)
    (waits : Nat) : Prop where
  nodup : (runs.map fun x => x.1.id).Nodup
  member : ∀ x ∈ runs, Member epoch plays slot waits x
  /-- The wait that takes the next signal is the wait of a run. -/
  taken : ∀ w, slot = some w → ∃ x ∈ runs, ∃ a d, x.2 = .waiting a w d none

section Roster

variable {runs : List (Run × Blocked)} {epoch plays waits : Nat} {slot : Option Nat}

theorem nodup_append_run (h : (runs.map fun x => x.1.id).Nodup) {run : Run} (b : Blocked)
    (hid : ∀ x ∈ runs, x.1.id ≠ run.id) : ((runs ++ [(run, b)]).map fun x => x.1.id).Nodup := by
  rw [List.map_append, List.nodup_append]
  refine ⟨h, by simp, fun i hi j hj => ?_⟩
  obtain ⟨x, hx, rfl⟩ := List.mem_map.1 hi
  obtain rfl : j = run.id := by simpa using hj
  exact hid x hx

theorem Member.of_not_waiting {run : Run} {b : Blocked} (hlt : run.id < plays)
    (he : run.epoch ≤ epoch) (hb : ¬ b.IsWaiting) : Member epoch plays slot waits (run, b) := by
  have hw : ∀ a w d told, b ≠ .waiting a w d told := fun a w d told e => hb (e ▸ trivial)
  exact ⟨hlt, he, fun e => absurd e (hw _ _ _ _), fun e => absurd e (hw _ _ _ _),
    fun e => absurd e (hw _ _ _ _), fun e => absurd e (hw _ _ _ _)⟩

theorem Roster.append (h : Roster runs epoch plays slot waits) {run : Run} {b : Blocked}
    (hid : ∀ x ∈ runs, x.1.id ≠ run.id) (hlt : run.id < plays) (he : run.epoch ≤ epoch)
    (hb : ¬ b.IsWaiting) : Roster (runs ++ [(run, b)]) epoch plays slot waits where
  nodup := nodup_append_run h.nodup b hid
  member := by
    intro x hx
    rcases List.mem_append.1 hx with hx | hx
    · exact h.member x hx
    · obtain rfl := List.mem_singleton.1 hx
      exact .of_not_waiting hlt he hb
  taken w hw := by
    obtain ⟨x, hx, e⟩ := h.taken w hw
    exact ⟨x, List.mem_append_left _ hx, e⟩

theorem Roster.arm (h : Roster runs epoch plays none waits) {run : Run} (a : Attempt) (d : Nat)
    (hid : ∀ x ∈ runs, x.1.id ≠ run.id) (hlt : run.id < plays) (he : run.epoch = epoch) :
    Roster (runs ++ [(run, .waiting a waits d none)]) epoch plays (some waits) (waits + 1) where
  nodup := nodup_append_run h.nodup _ hid
  member := by
    intro x hx
    rcases List.mem_append.1 hx with hx | hx
    · have hm := h.member x hx
      refine ⟨hm.id_lt, hm.epoch_le, fun e => Nat.lt_succ_of_lt (hm.wait_lt e),
        fun {_ w _ _} e => ?_, hm.epoch_of_untold, hm.epoch_of_off⟩
      have h1 := hm.untold_iff e
      have h2 := hm.wait_lt e
      simp only [reduceCtorEq, iff_false] at h1
      simp only [h1, Option.some.injEq, false_iff]
      omega
    · obtain rfl := List.mem_singleton.1 hx
      refine ⟨hlt, Nat.le_of_eq he, fun e => ?_, fun e => ?_, fun _ => he, fun e => ?_⟩ <;>
        simp only [Blocked.waiting.injEq] at e <;> grind
  taken w hw := by
    obtain rfl := Option.some.inj hw
    exact ⟨_, List.mem_append_right _ (List.mem_singleton_self _), a, d, rfl⟩

/-- More plays than are in a list have begun. -/
theorem Roster.next (h : Roster runs epoch plays slot waits) :
    Roster runs epoch (plays + 1) slot waits :=
  { h with
    member := fun x hx =>
      { h.member x hx with id_lt := Nat.lt_succ_of_lt (h.member x hx).id_lt } }

theorem Roster.erase (h : Roster runs epoch plays slot waits) (id : Nat)
    (he : ∀ x ∈ runs, x.1.id = id → x.1.epoch ≠ epoch) :
    Roster (runs.filter fun x => x.1.id != id) epoch plays slot waits where
  nodup := h.nodup.sublist (List.filter_sublist.map _)
  member x hx := h.member x (List.mem_filter.1 hx).1
  taken w hw := by
    obtain ⟨x, hx, a, d, e⟩ := h.taken w hw
    have hne : x.1.id ≠ id := fun hid => he x hx hid ((h.member x hx).epoch_of_untold e)
    exact ⟨x, List.mem_filter.2 ⟨hx, by simpa using hne⟩, a, d, e⟩

theorem tell_eq_waiting {b : Blocked} {v : Nat} {signalled : Bool} {a : Attempt} {w d : Nat}
    {told : Option Bool} (h : b.tell v signalled = .waiting a w d told) :
    ∃ told', b = .waiting a w d told' ∧ told = if w = v then some signalled else told' := by
  cases b with
  | waiting a' w' d' told' =>
    simp only [Blocked.tell, Blocked.waiting.injEq] at h
    obtain ⟨rfl, rfl, rfl, rfl⟩ := h
    exact ⟨told', rfl, rfl⟩
  | _ => simp [Blocked.tell] at h

theorem map_id_tell (wait : Option Nat) (signalled : Bool) (runs : List (Run × Blocked)) :
    ((tell wait signalled runs).map fun x => x.1.id) = runs.map fun x => x.1.id := by
  cases wait <;> simp [tell]

theorem mem_tell {wait : Option Nat} {signalled : Bool} {x : Run × Blocked}
    (h : x ∈ tell wait signalled runs) :
    ∃ y ∈ runs, y.1 = x.1 ∧ x.2 = (wait.elim y.2 fun w => y.2.tell w signalled) := by
  cases wait with
  | none => exact ⟨x, h, rfl, rfl⟩
  | some w =>
    obtain ⟨y, hy, rfl⟩ := List.mem_map.1 h
    exact ⟨y, hy, rfl, rfl⟩

/-- The wait that takes the next signal is told that the signal came, or, by a reset, that it will
not come. -/
theorem Roster.told (h : Roster runs epoch plays slot waits) {epoch' : Nat} {signalled : Bool}
    (he : epoch ≤ epoch') (hs : signalled = false → epoch < epoch') :
    Roster (tell slot signalled runs) epoch' plays none waits where
  nodup := by rw [map_id_tell]; exact h.nodup
  taken w hw := by cases hw
  member := by
    intro x hx
    obtain ⟨y, hy, e1, e2⟩ := mem_tell hx
    have hm := h.member y hy
    -- a wait of `x` is one of `y`, and it was told something
    have hwait : ∀ {a w d t}, x.2 = .waiting a w d t → w < waits ∧ t ≠ none ∧
        (t = some false → y.1.epoch < epoch') := by
      intro a w d t e
      cases slot with
      | none =>
        rw [e2] at e
        have hiff := hm.untold_iff e
        refine ⟨hm.wait_lt e, fun ht => by simp [ht] at hiff, fun ht => ?_⟩
        subst ht
        exact Nat.lt_of_lt_of_le (hm.epoch_of_off e) he
      | some v =>
        rw [e2] at e
        obtain ⟨t', e', rfl⟩ := tell_eq_waiting e
        have hiff := hm.untold_iff e'
        refine ⟨hm.wait_lt e', ?_⟩
        split
        · exact ⟨by simp, fun ht => Nat.lt_of_le_of_lt hm.epoch_le (hs (by simpa using ht))⟩
        · next hv =>
          have ht : t' ≠ none := fun ht => hv (by simpa [ht, eq_comm] using hiff)
          refine ⟨ht, fun hf => ?_⟩
          subst hf
          exact Nat.lt_of_lt_of_le (hm.epoch_of_off e') he
    refine ⟨e1 ▸ hm.id_lt, e1 ▸ Nat.le_trans hm.epoch_le he, fun e => (hwait e).1, fun e => ?_,
      fun e => ?_, fun e => e1 ▸ (hwait e).2.2 rfl⟩
    · simpa using (hwait e).2.1
    · exact absurd rfl (hwait e).2.1

theorem Roster.eq_of_id_eq (h : Roster runs epoch plays slot waits) {x y : Run × Blocked}
    (hx : x ∈ runs) (hy : y ∈ runs) (e : x.1.id = y.1.id) : x = y :=
  List.inj_on_of_nodup_map h.nodup hx hy e

end Roster

end Runner

end MotionScript
