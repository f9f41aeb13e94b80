import Mathlib.Tactic.FieldSimp
import Mathlib.Tactic.Linarith
import Mathlib.Tactic.Positivity
import MotionScript.Proofs.Decimal.Rounding
import MotionScript.Proofs.Run.Counters
import MotionScript.Proofs.Run.Outcome

/-!
# The progress of a run

The cursor of a run never goes back, and neither does the percentage that is computed from it with
doubles.

* `progress_mono`, `progress_self`: the percentage grows with the cursor, up to 100.
* `progress_eq_round`: it is the exact quotient rounded to the nearest whole number, unless there
  are very many commands.
* `Snapshot.Measures`: what a snapshot tells of the progress.
* `Further`, `Stride.further`: the cursor goes on.
* **`Reachable.reportsProgress`**: how the progress of a run is reported.
-/

namespace MotionScript

/-- What a snapshot at a point in time tells of the progress of a run. -/
structure Snapshot.Measures (now : Int) (s : Snapshot) : Prop where
  cursor_le : s.status.cursor ≤ s.status.total
  /-- Percentages are rounded to the nearest whole number, halves up. -/
  progress_eq : s.status.total ≤ 2 ^ 45 →
    (s.progress : ℤ) = round (100 * s.status.cursor / s.status.total : ℚ)
  progress_empty : s.status.total = 0 → s.progress = 0
  progress_le : s.progress ≤ 100
  remaining_isSome : s.remaining.isSome ↔ s.status.startTime.isSome ∧ 0 < s.status.cursor
  remaining_eq : ∀ start n, s.status.startTime = some start → s.remaining = some n →
    (n : ℤ) = ⌊(max 0 (now - start) * (s.status.total - s.status.cursor) / s.status.cursor : ℚ)⌋
  remaining_end : s.status.cursor = s.status.total → ∀ n ∈ s.remaining, n = 0

namespace Runner

/-- How the progress of the run that a play begins is reported. -/
structure ReportsProgress (r : Runner) : Prop where
  measures : ∀ now, (r.status.snapshot now).Measures now
  /-- In 64-bit words a snapshot is computed as it is, unless an operation overflows. -/
  refresh_eq : ∀ now, r.status.refresh now =
    (r.status.overflow? now).elim (.ok (r.status.snapshot now)) .error
  /-- In the course of the run, the progress never goes back. -/
  advances : ∀ r', r.play = .ok r' → ∀ s s', r'.Calm (s ++ s') →
    (r'.after s).status.cursor ≤ (r'.after (s ++ s')).status.cursor ∧
    ∀ now now', ((r'.after s).status.snapshot now).progress ≤
      ((r'.after (s ++ s')).status.snapshot now').progress
  /-- A run that ends without a failure, and was not asked to stop, is at the end. -/
  completes : ∀ r', r.play = .ok r' → ∀ s m, r'.Calm s →
    .ended r.plays (.ok m) ∈ (r'.after s).journal → ¬ StoppedIn r.plays s r' →
    (r'.after s).status.cursor = (r'.after s).status.total ∧
    ∀ now, ((r'.after s).status.snapshot now).progress = 100

end Runner

/-! ## The percentage -/

section Percentage

variable {c c' t : Nat}

theorem toRat_ofNat_pos (ht : 0 < t) : 0 < (Magnitude.ofNat t).toRat := by
  have hone : (1 : ℚ) ≤ t := Nat.one_le_cast.2 ht
  have h := (abs_le.1 (Magnitude.ofNat_within t)).1
  linarith

theorem progress_mono (h : c ≤ c') (t : Nat) : progress c t ≤ progress c' t := by
  unfold progress
  split
  · exact Nat.le_refl 0
  · next ht =>
    have hparts : 100 * min c t ≤ 100 * min c' t := by omega
    exact Magnitude.rounded_mono (Magnitude.div_mono (toRat_ofNat_pos (Nat.pos_of_ne_zero ht))
      (Magnitude.ofNat_mono hparts))

/-- All of the commands are 100 percent, however their number is rounded to a double. -/
theorem progress_self (ht : 0 < t) : progress t t = 100 := by
  have hone : (1 : ℚ) ≤ t := Nat.one_le_cast.2 ht
  have hy := toRat_ofNat_pos ht
  obtain ⟨hx₁, hx₂⟩ := abs_le.1 (Magnitude.ofNat_within (100 * t))
  obtain ⟨hy₁, hy₂⟩ := abs_le.1 (Magnitude.ofNat_within t)
  obtain ⟨hz₁, hz₂⟩ := abs_le.1 (Magnitude.div_within (x := .ofNat (100 * t)) hy)
  push_cast at hx₁ hx₂
  have hlow : (999 / 10 : ℚ) ≤ (Magnitude.ofNat (100 * t)).toRat / (Magnitude.ofNat t).toRat := by
    rw [le_div_iff₀ hy]
    linarith
  have hhigh : (Magnitude.ofNat (100 * t)).toRat / (Magnitude.ofNat t).toRat ≤ 1001 / 10 := by
    rw [div_le_iff₀ hy]
    linarith
  rw [progress, if_neg ht.ne', Nat.min_self, Magnitude.rounded_eq, Nat.floor_eq_iff (by linarith)]
  push_cast
  constructor <;> linarith

theorem progress_le (c t : Nat) : progress c t ≤ 100 := by
  have hmin : progress c t = progress (min c t) t := by
    rw [progress, progress, Nat.min_assoc, Nat.min_self]
  rcases t.eq_zero_or_pos with rfl | ht
  · exact Nat.zero_le _
  · calc progress c t
        = progress (min c t) t := hmin
      _ ≤ progress t t := progress_mono (Nat.min_le_right c t) t
      _ = 100 := progress_self ht

/-- Halves between whole numbers are doubles, so a quotient is not rounded below one. -/
theorem half_le_div {x y : Magnitude} (hy : 0 < y.toRat) {n : Nat} (hn : n ≤ 2 ^ 52)
    (h : (n : ℚ) - 1 / 2 ≤ x.toRat / y.toRat) : (n : ℚ) - 1 / 2 ≤ (x.div y).toRat := by
  rcases n.eq_zero_or_pos with rfl | hpos
  · have := (x.div y).toRat_nonneg
    rw [Nat.cast_zero]
    linarith
  · have hhalf : ((2 * n - 1 : Nat) : ℚ) * 2 ^ (-1 : ℤ) = n - 1 / 2 := by
      rw [Nat.cast_sub (by omega), zpow_neg_one]
      push_cast
      ring
    rw [← hhalf] at h ⊢
    exact Magnitude.le_toRat_div hy (by omega) h

theorem add_inv_le_half {a b n : Nat} (hb : 0 < b) (h : (a : ℚ) / b < n + 1 / 2) :
    (a : ℚ) / b + 1 / (2 * b) ≤ n + 1 / 2 := by
  have hb' : (0 : ℚ) < b := Nat.cast_pos.2 hb
  have hlt : 2 * a < (2 * n + 1) * b := by
    rw [div_lt_iff₀ hb'] at h
    have hdouble : (2 * a : ℚ) < (2 * n + 1) * b := by linarith
    exact_mod_cast hdouble
  have hle : (2 * a + 1 : ℚ) ≤ (2 * n + 1) * b := by exact_mod_cast hlt
  have hsum : (a : ℚ) / b + 1 / (2 * b) = (2 * a + 1) / (2 * b) := by field_simp
  rw [hsum, div_le_iff₀ (by positivity)]
  linarith

/-- A percentage of few commands that is below a half between whole numbers is not rounded up to it:
doubles are finer than the distance from it. -/
theorem div_lt_half {s n : Nat} (ht : t ≤ 2 ^ 45) (hpos : 0 < t) (hst : s ≤ t)
    (h : ((100 * s : Nat) : ℚ) / t < n + 1 / 2) :
    ((Magnitude.ofNat (100 * s)).div (.ofNat t)).toRat < n + 1 / 2 := by
  have ht' : (0 : ℚ) < t := Nat.cast_pos.2 hpos
  have hx : (Magnitude.ofNat (100 * s)).toRat = (100 * s : Nat) :=
    Magnitude.toRat_ofNat (by omega)
  have hy : (Magnitude.ofNat t).toRat = t := Magnitude.toRat_ofNat (by omega)
  have hwithin := (abs_le.1 (Magnitude.div_within (x := .ofNat (100 * s))
    (toRat_ofNat_pos hpos))).2
  rw [hx, hy] at hwithin
  have hgap := add_inv_le_half hpos h
  have hle : ((100 * s : Nat) : ℚ) / t ≤ 100 := by
    rw [div_le_iff₀ ht']
    exact_mod_cast Nat.mul_le_mul_left 100 hst
  have hfine : (100 : ℚ) / 2 ^ 53 < 1 / (2 * t) := by
    have hbound : (t : ℚ) ≤ 2 ^ 45 := by exact_mod_cast ht
    rw [div_lt_div_iff₀ (by positivity) (by positivity)]
    linarith
  linarith

theorem progress_eq_round (ht : t ≤ 2 ^ 45) :
    (progress c t : ℤ) = round ((100 * min c t : Nat) / t : ℚ) := by
  rcases t.eq_zero_or_pos with rfl | hpos
  · simp [progress]
  set s := min c t with hs
  have hst : s ≤ t := Nat.min_le_right c t
  have hx : (Magnitude.ofNat (100 * s)).toRat = (100 * s : Nat) :=
    Magnitude.toRat_ofNat (by omega)
  have hy : (Magnitude.ofNat t).toRat = t := Magnitude.toRat_ofNat (by omega)
  set q : ℚ := (100 * s : Nat) / t with hq
  have hhalf : 0 ≤ q + 1 / 2 := by
    have hnonneg : 0 ≤ q := div_nonneg (Nat.cast_nonneg _) (Nat.cast_nonneg _)
    linarith
  obtain ⟨n, hn⟩ : ∃ n, ⌊q + 1 / 2⌋₊ = n := ⟨_, rfl⟩
  obtain ⟨hn₁, hn₂⟩ := (Nat.floor_eq_iff hhalf).1 hn
  have hsmall : n ≤ 2 ^ 52 := by
    have hle : q ≤ 100 := by
      rw [hq, div_le_iff₀ (Nat.cast_pos.2 hpos)]
      exact_mod_cast Nat.mul_le_mul_left 100 hst
    have hn' : (n : ℚ) ≤ 101 := by linarith
    have : n ≤ 101 := by exact_mod_cast hn'
    omega
  have hlow : (n : ℚ) - 1 / 2 ≤ ((Magnitude.ofNat (100 * s)).div (.ofNat t)).toRat := by
    refine half_le_div (toRat_ofNat_pos hpos) hsmall ?_
    rw [hx, hy]
    linarith
  have hhigh := div_lt_half (n := n) ht hpos hst (by linarith)
  have hround : round q = n := by
    rw [round_eq, ← hn, Int.natCast_floor_eq_floor hhalf]
  have hnonneg := ((Magnitude.ofNat (100 * s)).div (.ofNat t)).toRat_nonneg
  rw [hround, progress, if_neg hpos.ne', Magnitude.rounded_eq, Nat.cast_inj,
    Nat.floor_eq_iff (by linarith)]
  constructor <;> linarith

end Percentage

/-! ## Snapshots -/

theorem Status.snapshot_measures {s : Status} (h : s.cursor ≤ s.total) (now : Int) :
    (s.snapshot now).Measures now where
  cursor_le := h
  progress_eq ht := by
    have hround : (progress s.cursor s.total : ℤ) = _ := progress_eq_round (c := s.cursor) ht
    rw [Nat.min_eq_left h] at hround
    push_cast at hround
    exact hround
  progress_empty ht := if_pos ht
  progress_le := progress_le _ _
  remaining_isSome := by
    simp only [Status.snapshot, remaining?]
    cases s.startTime <;> simp
  remaining_eq start n hstart hn := by
    simp only [Status.snapshot, remaining?] at hstart hn ⊢
    rw [hstart] at hn
    simp only [Option.ite_none_right_eq_some, Option.some.injEq] at hn
    obtain ⟨-, rfl⟩ := hn
    have helapsed : (((now - start).toNat : ℤ) : ℚ) = max 0 (now - start) := by
      rw [Int.toNat_eq_max, max_comm]
    rw [← Nat.floor_div_eq_div (K := ℚ), Int.natCast_floor_eq_floor (by positivity)]
    congr 1
    rw [← helapsed]
    push_cast [Nat.cast_sub h]
    rfl
  remaining_end hend n hn := by
    simp only [Status.snapshot, remaining?] at hend hn
    split at hn
    · rw [hend, Nat.sub_self, Nat.mul_zero, Nat.zero_div] at hn
      split at hn <;> cases hn
      rfl
    · cases hn

theorem progressWord_eq (current total : Nat) : progressWord current total =
    if word64Max < 100 * min current total then .error .multiplication
    else .ok (progress current total) := by
  unfold progressWord progress mulWord
  by_cases ht : total = 0
  · have hfit : ¬ word64Max < 100 * min current total := by
      rw [ht, Nat.min_zero, Nat.mul_zero]
      exact Nat.not_lt_zero _
    rw [if_pos ht, if_pos ht, if_neg hfit]
    rfl
  · rw [if_neg ht, if_neg ht]
    split <;> rfl

theorem remainingWord?_eq {start : Int} {now : Int} {current total : Nat} (hc : current ≠ 0) :
    remainingWord? (some start) now current total =
      if now - start < -(int64Max + 1) ∨ int64Max < now - start then .error .subtraction
      else if word64Max < (now - start).toNat * (total - current) then .error .multiplication
      else .ok (remaining? (some start) now current total) := by
  simp only [remainingWord?, remaining?, if_pos (Nat.pos_of_ne_zero hc), subInt64, mulWord]
  by_cases hsub : now - start < -(int64Max + 1) ∨ int64Max < now - start
  · rw [if_pos hsub, if_pos hsub]
    rfl
  · rw [if_neg hsub, if_neg hsub]
    dsimp only [bind, Except.bind]
    by_cases hmul : word64Max < (now - start).toNat * (total - current)
    · simp only [if_pos hmul]
    · simp only [if_neg hmul]
      rfl

theorem Status.refresh_eq (s : Status) (now : Int) : s.refresh now =
    (s.overflow? now).elim (.ok (s.snapshot now)) .error := by
  unfold refresh overflow? snapshot
  rw [progressWord_eq]
  by_cases hmul : word64Max < 100 * min s.cursor s.total
  · simp only [if_pos hmul]
    rfl
  · simp only [if_neg hmul]
    cases s.startTime with
    | none => rfl
    | some start =>
      by_cases hc : s.cursor = 0
      · have hnone : ¬ 0 < s.cursor := by omega
        simp only [remainingWord?, remaining?, if_pos hc, if_neg hnone]
        rfl
      · simp only [if_neg hc, remainingWord?_eq hc]
        split
        · rfl
        · split <;> rfl

/-! ## The cursor -/

/-- The cursor is as far or further, in as many commands. -/
structure Status.Further (s s' : Status) : Prop where
  cursor_le : s.cursor ≤ s'.cursor
  total_eq : s'.total = s.total

namespace Status.Further

variable {s s' s'' : Status}

theorem refl (s : Status) : Further s s := ⟨Nat.le_refl _, rfl⟩

theorem trans (h : Further s s') (h' : Further s' s'') : Further s s'' :=
  ⟨Nat.le_trans h.cursor_le h'.cursor_le, h'.total_eq.trans h.total_eq⟩

theorem progress_le (h : Further s s') (now now' : Int) :
    (s.snapshot now).progress ≤ (s'.snapshot now').progress := by
  change progress s.cursor s.total ≤ progress s'.cursor s'.total
  rw [h.total_eq]
  exact progress_mono h.cursor_le _

end Status.Further

namespace Runner

section Further

variable {run : Run} {b : Blocked} {i : Input} {s : List Input} {p p' : Place} {r r' : Runner}

theorem further_setPhase (r : Runner) (x : Phase) : r.status.Further (r.setPhase x).status := by
  obtain ⟨j, e⟩ := r.setPhase_eq x
  rw [e]
  exact ⟨Nat.le_refl _, rfl⟩

theorem further_fail (r : Runner) (run : Run) (a : Attempt) (e : Failure) :
    r.status.Further (r.fail run a e).status := by
  obtain ⟨m, he⟩ := r.fail_eq run a e
  rw [he]
  exact ⟨Nat.le_refl _, rfl⟩

theorem further_finish (r : Runner) (run : Run) (outcome : Except Failure Unit) :
    r.status.Further (r.finish run outcome).status := by
  unfold finish
  split
  · obtain ⟨m, j, e⟩ := r.close_eq run outcome
    rw [e]
    exact ⟨Nat.le_refl _, rfl⟩
  · exact .refl _

theorem Stride.further (hs : Stride run (p, r) (p', r')) : r.status.Further r'.status := by
  cases hs with
  | pause | interrupt | space | leave => exact .refl _
  | stop | finish => exact further_finish ..
  | begin hc t later =>
    obtain ⟨j, e⟩ := r.begin_eq t
    rw [e]
    exact ⟨Nat.le_refl _, rfl⟩
  | @perform _ hc a s steps hs =>
    obtain ⟨_, _, _, _, _, _, e⟩ := r.perform_eq run { a with steps } s
    rw [e]
    exact ⟨Nat.le_refl _, rfl⟩
  | complete _ a =>
    obtain ⟨m, e⟩ := r.complete_eq run a
    rw [e]
    exact ⟨Nat.le_succ _, rfl⟩
  | failPaused hc ho a e =>
    exact (further_fail r run a e).trans
      (further_setPhase { r.fail run a e with control := .pause } .paused)
  | failStopped hc ho a e => exact further_fail r run a e
  | failSkipped _ ho hs a e =>
    have hskip : (r.fail run a e).status.Further (r.fail run a e).skip.status :=
      ⟨Nat.le_succ _, rfl⟩
    exact (further_fail r run a e).trans hskip
  | failEnded _ ho hs a e => exact (further_fail r run a e).trans (further_finish ..)

theorem Departs.further {w : Wake} (hd : Departs run r b w (p, r')) :
    r.status.Further r'.status := by
  obtain ⟨slot, start, timeouts, phase, j, e⟩ := hd.eq
  rw [e]
  exact ⟨Nat.le_refl _, rfl⟩

theorem Idle.further_play (h : r.Idle) (hp : r.play = .ok r') :
    r.opened.status.Further r'.status := by
  rcases h.play_induct (I := fun _ r' => r.opened.status.Further r'.status) hp
    (further_setPhase _ _) (fun _ _ _ _ hI hs => hI.trans hs.further) with ⟨b, -, hI⟩ | ⟨-, hI⟩ <;>
    exact hI

theorem Inv.further_step (h : r.Inv) (hi : r.Harmless i) :
    r.status.Further (r.step i).status := by
  obtain ⟨hreset, hload, hplay⟩ := hi
  have haside {r' : Runner} (ha : Aside i r r') : r.status.Further r'.status := by
    refine ⟨ha.cursor_eq.ge, ?_⟩
    rw [ha.status_eq]
  have ht := h.turn i
  generalize hr' : r.step i = r' at ht ⊢
  cases ht with
  | load hi =>
    rw [← hr', hload hi]
    exact .refl _
  | reset => exact absurd rfl hreset
  | idle _ _ ha | aside _ _ _ _ ha => exact haside ha
  | play _ hp =>
    obtain ⟨e, he⟩ := hplay rfl
    rw [hp] at he
    cases he
  | @goOn run b w h₁ ha =>
    have hdepart (p : Place) (r' : Runner) (hd : Departs run (r.without run.id) b w (p, r')) :
        r.status.Further r'.status := hd.further
    rcases h₁.goOn_induct (I := fun _ r' => r.status.Further r'.status) ha hdepart
      (fun _ _ _ _ hI hs => hI.trans hs.further) with ⟨b', -, hI⟩ | ⟨-, hI⟩ <;> exact hI

theorem Inv.further_after (h : r.Inv) (hs : r.Calm s) :
    r.status.Further (r.after s).status := by
  induction s generalizing r with
  | nil => exact .refl _
  | cons i s ih => exact (h.further_step hs.1).trans (ih (h.step i) hs.2)

theorem Inv.cursor_le (h : r.Inv) : r.status.cursor ≤ r.status.total := by
  rcases h with h | ⟨run, b, h⟩ <;> exact h.tally.total_eq ▸ h.tally.cursor_le

theorem tasks_ne_nil_of_play (hp : r.play = .ok r') : r.tasks ≠ [] := by
  rintro htasks
  unfold play at hp
  split at hp
  · cases hp
  · simp [htasks] at hp

/-- The number of commands stays the same in the course of a play, and there are some. -/
theorem Reachable.total_pos (h : r.Reachable) (hp : r.play = .ok r') (hs : r'.Calm s) :
    0 < (r'.after s).status.total := by
  have hidle := h.inv.idle (play_eq_ok hp).1
  have hfurther := (hidle.further_play hp).trans ((h.of_play hp).inv.further_after hs)
  have htotal : r.opened.status.total = r.tasks.length := hidle.tally.total_eq
  rw [hfurther.total_eq, htotal]
  exact List.length_pos_of_ne_nil (tasks_ne_nil_of_play hp)

theorem Reachable.reportsProgress (h : r.Reachable) : r.ReportsProgress where
  measures := Status.snapshot_measures h.inv.cursor_le
  refresh_eq := r.status.refresh_eq
  advances r' hp s s' hs := by
    have hinv : (r'.after s).Inv := ((h.of_play hp).after s).inv
    have hfurther := hinv.further_after hs.of_append.2
    rw [after_append]
    exact ⟨hfurther.cursor_le, hfurther.progress_le⟩
  completes r' hp s m hs hm hstop := by
    have hpos := h.total_pos hp hs
    obtain ⟨s₁, s₂, rfl, -, hw⟩ := h.warranted hp s hm
    have hend := hw.resolve_right fun hs => hstop (hs.append s₂)
    have hreach := (h.of_play hp).after s₁
    have hfurther := hreach.inv.further_after hs.of_append.2
    have hle := (hreach.after s₂).inv.cursor_le
    rw [after_append] at hpos ⊢
    have hcursor : ((r'.after s₁).after s₂).status.cursor =
        ((r'.after s₁).after s₂).status.total :=
      Nat.le_antisymm hle (hfurther.total_eq ▸ hend ▸ hfurther.cursor_le)
    refine ⟨hcursor, fun now => ?_⟩
    change progress _ _ = 100
    rw [hcursor]
    exact progress_self hpos

end Further

/-- **After every schedule, the progress of a run is reported as it is**: it never goes back, and is
100 percent at the end. -/
theorem after_reportsProgress (o : Options) (s : List Input) :
    (∀ total, Monotone (progress · total)) ∧ ((new o).after s).ReportsProgress :=
  ⟨fun total _ _ h => progress_mono h total, ((Reachable.new o).after s).reportsProgress⟩

/-- The device accepts a text at once. -/
def accepted : Input := .wake 0 (.answered (.ok (.accepted "")))

/-- Half of the commands are done after the first answer, and all after the second one. -/
theorem twoDetections_progress : ∃ r', twoDetections.play = .ok r' ∧
    r'.Calm [accepted, accepted] ∧
    ((r'.after [accepted]).status.snapshot 0).progress = 50 ∧
    ((r'.after [accepted, accepted]).status.snapshot 0).progress = 100 := by
  have hcalm (r' : Runner) : r'.Calm [accepted, accepted] :=
    ⟨⟨by simp [accepted], False.elim, by simp [accepted]⟩,
      ⟨by simp [accepted], False.elim, by simp [accepted]⟩, trivial⟩
  refine ⟨_, rfl, hcalm _, by decide, ?_⟩
  refine ((after_reportsProgress _ _).2.completes _ rfl _ _ (hcalm _) (List.Mem.head _) ?_).2 0
  rintro ⟨s₁, s₂, hs, -⟩
  have hmem : Input.stop ∈ [accepted, accepted] := hs ▸ by simp
  simp [accepted] at hmem

end Runner

end MotionScript
