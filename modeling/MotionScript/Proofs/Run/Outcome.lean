import Mathlib.Data.List.Induction
import MotionScript.Proofs.Run.Boundary

/-!
# How a play ends

A play that ends without a failure is at the end of what is loaded, or was asked to stop. A failure
ends a play only if it neither pauses nor leaves out what fails.

* `StoppedIn`: a play was asked to stop in the course of a schedule.
* `Warrants`: what warrants the outcome of a play.
* `Concludes`, `Stride.concludes`: a run is carried out and ends with an outcome that is warranted.
* **`Reachable.warranted`**: the outcome of every play is warranted.
-/

namespace MotionScript

namespace Runner

/-- A play was asked to stop in the course of a schedule, and not in vain. -/
def StoppedIn (p : Nat) (s : List Input) (r : Runner) : Prop :=
  ∃ s₁ s₂, s = s₁ ++ .stop :: s₂ ∧ (r.after s₁).stop.isSome ∧
    ∃ x ∈ (r.after s₁).current, x.1.id = p

/-- What warrants the outcome of a play with some options, at the end of a schedule. -/
def Warrants (o : Options) (p : Nat) (s : List Input) (r : Runner) :
    Except Failure Metrics → Prop
  | .ok _ => (r.after s).status.cursor = (r.after s).status.total ∨ StoppedIn p s r
  | .error e => e = .reset ∨ o.skipErrors = false ∧ o.pauseOnError = false

/-- A play that has got to a state ended in the course of a schedule, with an outcome that is
warranted. -/
def Warranted (o : Options) (p : Nat) (s : List Input) (r : Runner)
    (outcome : Except Failure Metrics) : Prop :=
  ∃ s₁ s₂, s = s₁ ++ s₂ ∧ (r.after s₁).journal.head? = some (.ended p outcome) ∧
    Warrants o p s₁ r outcome

/-! ## A run is carried out -/

/-- A run that is carried out from a state `r₀` on has not ended, or it ended with an outcome that
is warranted. -/
def Concludes (run : Run) (r₀ : Runner) (p : Place) (r : Runner) : Prop :=
  run.epoch = r.epoch ∧ (r.control = .stop → r₀.control = .stop) ∧
    match p with
    | .ended => ∃ outcome j, r.journal = .ended run.id outcome :: j ∧
        (∀ o, .ended run.id o ∈ j → .ended run.id o ∈ r₀.journal) ∧
        match outcome with
        | .ok _ => r.control = .stop ∨ r.tasks.drop r.status.cursor = []
        | .error _ => run.options.skipErrors = false ∧ run.options.pauseOnError = false
    | p => p.todo = r.tasks.drop r.status.cursor ∧
        ∀ o, .ended run.id o ∈ r.journal → .ended run.id o ∈ r₀.journal

section Outcome

variable {run : Run} {b : Blocked} {i : Input} {s : List Input} {p p' : Place} {r₀ r r' : Runner}

theorem Silent.ended_mem {q : Nat} {o : Except Failure Metrics} (h : Silent r r')
    (hm : .ended q o ∈ r'.journal) : .ended q o ∈ r.journal := by
  obtain ⟨l, e, hl⟩ := h.journal
  rw [e] at hm
  refine (List.mem_append.1 hm).resolve_left fun hm => ?_
  cases hl _ hm

theorem epoch_control_finish (r : Runner) (run : Run) (outcome : Except Failure Unit) :
    (r.finish run outcome).epoch = r.epoch ∧ (r.finish run outcome).control = r.control := by
  obtain ⟨r', outcome', hs, e⟩ := finish_eq run outcome r
  rw [e]
  exact ⟨hs.epoch_eq, hs.control_eq⟩

theorem perform_keeps (r : Runner) (run : Run) (a : Attempt) (s : Step) :
    (r.perform run a s).epoch = r.epoch ∧ (r.perform run a s).control = r.control ∧
      ∀ q o, .ended q o ∈ (r.perform run a s).journal → .ended q o ∈ r.journal := by
  cases s with
  | send text =>
    refine ⟨rfl, rfl, fun q o hm => ?_⟩
    exact (List.mem_cons.1 hm).resolve_left fun e => by cases e
  | delay ms => exact ⟨rfl, rfl, fun _ _ => id⟩
  | signal =>
    have harm : Silent r (emit (.waiting r.status.cursor run.options.syncTimeout)
        (setPhase .syncWait { r with
          slot := some r.waits
          waits := r.waits + 1
          status := { r.status with syncWaitStart := some (r.clock : Int) } })) :=
      .emit (.setPhase (.update (.refl r)) _) _
    exact ⟨harm.epoch_eq, harm.control_eq, fun _ _ => harm.ended_mem⟩

/-- Only the end of a run is written as an end, and no run is asked to stop by what it does. -/
theorem Stride.keeps (hs : Stride run (p, r) (p', r')) : r'.epoch = r.epoch ∧
    (r'.control = .stop → r.control = .stop) ∧
      (p' ≠ .ended → ∀ q o, .ended q o ∈ r'.journal → .ended q o ∈ r.journal) := by
  have hsilent {r r' : Runner} {p' : Place} (h : Silent r r') : r'.epoch = r.epoch ∧
      (r'.control = .stop → r.control = .stop) ∧
      (p' ≠ .ended → ∀ q o, .ended q o ∈ r'.journal → .ended q o ∈ r.journal) :=
    ⟨h.epoch_eq, fun hc => h.control_eq ▸ hc, fun _ _ _ => h.ended_mem⟩
  cases hs with
  | stop | finish =>
    obtain ⟨he, hc⟩ := r.epoch_control_finish run (.ok ())
    exact ⟨he, fun hstop => hc ▸ hstop, fun hp => absurd rfl hp⟩
  | failEnded _ ho hk a e =>
    have hf : Silent r (r.fail run a e) := .fail (.refl r) a e
    obtain ⟨he, hc⟩ := (r.fail run a e).epoch_control_finish run (.error e)
    exact ⟨he.trans hf.epoch_eq, fun hstop => hf.control_eq ▸ hc ▸ hstop,
      fun hp => absurd rfl hp⟩
  | pause | interrupt | space | leave => exact ⟨rfl, id, fun _ _ _ => id⟩
  | begin hc t later => exact hsilent (.begin (.refl r) t)
  | complete _ a => exact hsilent (.complete (.refl r) a)
  | failStopped _ _ a e => exact hsilent (.fail (.refl r) a e)
  | failSkipped _ _ _ a e =>
    have hf : Silent r (r.fail run a e) := .fail (.refl r) a e
    exact hsilent hf.update
  | failPaused hc ho a e =>
    have hf : Silent r (r.fail run a e) := .fail (.refl r) a e
    have hp : Silent { r.fail run a e with control := .pause }
      (setPhase .paused { r.fail run a e with control := .pause }) := .setPhase (.refl _) _
    refine ⟨hp.epoch_eq.trans hf.epoch_eq, fun hstop => ?_, fun _ _ _ hm =>
      hf.ended_mem (hp.ended_mem hm)⟩
    cases hp.control_eq.symm.trans hstop
  | @perform _ hc a s steps =>
    obtain ⟨he, hcontrol, hj⟩ := r.perform_keeps run { a with steps } s
    exact ⟨he, fun hstop => hcontrol ▸ hstop, fun _ => hj⟩

theorem concludes_finish {outcome : Except Failure Unit} (he : run.epoch = r.epoch)
    (hc : r.control = .stop → r₀.control = .stop)
    (hj : ∀ o, .ended run.id o ∈ r.journal → .ended run.id o ∈ r₀.journal)
    (ho : match outcome with
      | .ok _ => r.control = .stop ∨ r.tasks.drop r.status.cursor = []
      | .error _ => run.options.skipErrors = false ∧ run.options.pauseOnError = false) :
    Concludes run r₀ .ended (r.finish run outcome) := by
  have hnote : ∃ m r', Silent r r' ∧
      r.close run outcome = r'.note (.ended run.id (outcome.map fun _ => m)) :=
    ⟨_, _, .emit (.setPhase (.update (.refl r)) _) _, rfl⟩
  obtain ⟨m, r', hs, e⟩ := hnote
  obtain ⟨m', j, e'⟩ := r.close_eq run outcome
  rw [e] at e'
  have htasks : r'.tasks = r.tasks := by
    have h := congrArg Runner.tasks e'
    exact h
  have hcursor : r'.status.cursor = r.status.cursor := by
    have h := congrArg (fun r => r.status.cursor) e'
    exact h
  rw [Runner.finish, if_pos he, e]
  refine ⟨he.trans hs.epoch_eq.symm, fun hstop => hc (hs.control_eq ▸ hstop), _, r'.journal, rfl,
    fun o hm => hj o (hs.ended_mem hm), ?_⟩
  cases outcome with
  | ok =>
    refine ho.imp hs.control_eq.trans fun hnil => ?_
    change r'.tasks.drop r'.status.cursor = []
    rw [htasks, hcursor, hnil]
  | error => exact ho

theorem Stride.concludes (hs : Stride run (p, r) (p', r')) (h : Concludes run r₀ p r) :
    Concludes run r₀ p' r' := by
  have hnot : p ≠ .ended := by
    rintro rfl
    cases hs
  obtain ⟨he, hc, hrest⟩ := h
  have hrest : p.todo = r.tasks.drop r.status.cursor ∧
      ∀ o, .ended run.id o ∈ r.journal → .ended run.id o ∈ r₀.journal := by
    cases p with
    | ended => exact absurd rfl hnot
    | _ => exact hrest
  obtain ⟨htodo, hj⟩ := hrest
  by_cases hp' : p' = .ended
  · cases hs with
    | stop hstop todo => exact concludes_finish he hc hj (.inl hstop)
    | finish => exact concludes_finish he hc hj (.inr htodo.symm)
    | failEnded _ ho hk a e =>
      have hf : Silent r (r.fail run a e) := .fail (.refl r) a e
      exact concludes_finish (he.trans hf.epoch_eq.symm) (fun hstop => hc (hf.control_eq ▸ hstop))
        (fun o hm => hj o (hf.ended_mem hm)) ⟨hk, ho⟩
    | _ => cases hp'
  · obtain ⟨he', hc', hj'⟩ := hs.keeps
    have htodo' := (hs.todo_eq htodo).resolve_left hp'
    refine ⟨he.trans he'.symm, fun hstop => hc (hc' hstop), ?_⟩
    cases p' with
    | ended => exact absurd rfl hp'
    | _ => exact ⟨htodo', fun o hm => hj o (hj' hp' _ o hm)⟩

theorem Departs.concludes {w : Wake} (hd : Departs run r b w (p, r')) (he : run.epoch = r.epoch)
    (htodo : b.todo = r.tasks.drop r.status.cursor) : Concludes run r p r' := by
  have htodo' := hd.todo_eq htodo
  have hs := hd.silent
  refine ⟨he.trans hs.epoch_eq.symm, fun hstop => hs.control_eq ▸ hstop, ?_⟩
  cases hd <;> exact ⟨htodo', fun _ => hs.ended_mem⟩

/-! ## The end of a play -/

theorem StoppedIn.append {q : Nat} (h : StoppedIn q s r) (s' : List Input) :
    StoppedIn q (s ++ s') r := by
  obtain ⟨s₁, s₂, rfl, hs⟩ := h
  exact ⟨s₁, s₂ ++ s', by simp, hs⟩

theorem Warranted.append {o : Options} {q : Nat} {outcome : Except Failure Metrics}
    (h : Warranted o q s r outcome) (s' : List Input) : Warranted o q (s ++ s') r outcome := by
  obtain ⟨s₁, s₂, rfl, hs⟩ := h
  exact ⟨s₁, s₂ ++ s', by simp, hs⟩

/-- What holds of a play that had got to a state, after a schedule. -/
structure Settles (run : Run) (s : List Input) (r : Runner) : Prop where
  runs : ∀ x ∈ (r.after s).runsOf run.id, x.1 = run
  stopped : ∀ b, (r.after s).InProgress run b → (r.after s).control = .stop →
    StoppedIn run.id s r
  ended : ∀ outcome, .ended run.id outcome ∈ (r.after s).journal →
    Warranted run.options run.id s r outcome

/-- A run that is over is at the end of what is loaded, or asked to stop, or has failed. -/
theorem Concludes.warranted {outcome : Except Failure Metrics}
    (h : Concludes run r₀ .ended (r.after s)) (hidle : (r.after s).Idle)
    (hstop : r₀.control = .stop → StoppedIn run.id s r)
    (hold : ∀ o, .ended run.id o ∈ r₀.journal → Warranted run.options run.id s r o)
    (hm : .ended run.id outcome ∈ (r.after s).journal) :
    Warranted run.options run.id s r outcome := by
  obtain ⟨-, hc, o, j, e, hj, ho⟩ := h
  rw [e] at hm
  rcases List.mem_cons.1 hm with heq | hm
  · cases heq
    refine ⟨s, [], by simp, by rw [e]; rfl, ?_⟩
    cases outcome with
    | error => exact .inr ho
    | ok =>
      rcases ho with ho | hnil
      · exact .inr (hstop (hc ho))
      · have hle := hidle.tally.cursor_le
        have hge := List.drop_eq_nil_iff.1 hnil
        exact .inl (by rw [hidle.tally.total_eq]; omega)
  · exact hold _ (hj _ hm)

theorem mem_entriesOf {q : Nat} {o : Except Failure Metrics} :
    .ended q o ∈ r.entriesOf q ↔ .ended q o ∈ r.journal := by
  simp [entriesOf, Entry.play?]

theorem Settles.ended_step (h : Settles run s r) (hinv : (r.after s).Inv)
    (hlt : run.id < (r.after s).plays) {outcome : Except Failure Metrics}
    (hm : .ended run.id outcome ∈ (r.after (s ++ [i])).journal) :
    Warranted run.options run.id (s ++ [i]) r outcome := by
  have hafter := r.after_concat s i
  have hold (o : Except Failure Metrics) (hm : .ended run.id o ∈ (r.after s).journal) :
      Warranted run.options run.id (s ++ [i]) r o := (h.ended o hm).append [i]
  by_cases hi : ∃ w, i = .wake run.id w
  · obtain ⟨w, rfl⟩ := hi
    rcases (r.after s).wake_eq run.id w with e | ⟨run', b, hmem, hid, ha, e⟩
    · exact hold _ (by rwa [hafter, Runner.step, e] at hm)
    · obtain rfl : run' = run := h.runs (run', b) (List.mem_filter.2 ⟨hmem, by simp [hid]⟩)
      by_cases he : run'.epoch = (r.after s).epoch
      · have hp := hinv.inProgress_of_mem hmem he
        have hstop : ((r.after s).without run'.id).control = .stop →
            StoppedIn run'.id (s ++ [.wake run'.id w]) r := fun hc =>
          (h.stopped b hp hc).append _
        rcases hp.goOn_induct (I := Concludes run' ((r.after s).without run'.id)) ha
          (fun _ _ hd => hd.concludes he hp.todo_eq) (fun _ _ _ _ hI hs => hs.concludes hI) with
          ⟨b', -, -, -, -, hj⟩ | ⟨hidle, hI⟩
        · exact hold _ (hj _ (by rwa [hafter, Runner.step, e] at hm))
        · have hstep : r.after (s ++ [.wake run'.id w]) =
              ((r.after s).without run'.id).goOn run' b w := by rw [hafter, Runner.step, e]
          rw [← hstep] at hidle hI
          exact hI.warranted hidle hstop hold hm
      · rw [hafter, Runner.step, e, hinv.goOn_abandoned hmem he ha] at hm
        rcases List.mem_cons.1 hm with heq | hm
        · cases heq
          refine ⟨s ++ [.wake run'.id w], [], by simp, ?_, .inl rfl⟩
          rw [hafter, Runner.step, e, hinv.goOn_abandoned hmem he ha]
          rfl
        · exact hold _ hm
  · have hs := step_spares (r := r.after s) (i := i) (fun _ => Nat.ne_of_lt hlt)
      fun w e => hi ⟨w, e⟩
    rw [hafter, ← mem_entriesOf, hs.entries, mem_entriesOf] at hm
    exact hold _ hm

theorem Settles.stopped_step (h : Settles run s r) (hinv : (r.after s).Inv)
    (hlt : run.id < (r.after s).plays) (hp : (r.after (s ++ [i])).InProgress run b)
    (hc : (r.after (s ++ [i])).control = .stop) : StoppedIn run.id (s ++ [i]) r := by
  rw [r.after_concat] at hp hc
  rcases hinv.blocked_or_kept (I := fun _ r' => r'.control = .stop → StoppedIn run.id s r) hp
    (fun _ e => absurd hlt (by rw [e]; exact Nat.lt_irrefl _))
    (fun b₀ _ _ _ h₀ _ _ hd hc => h.stopped b₀ h₀ (hd.silent.control_eq ▸ hc))
    (fun _ _ _ _ hI hs hc => hI (hs.keeps.2.1 hc)) with hI | ⟨b₀, h₀, -, -, ha⟩
  · exact (hI hc).append [i]
  · by_cases hc₀ : (r.after s).control = .stop
    · exact (h.stopped b₀ h₀ hc₀).append [i]
    · obtain rfl := (ha.stops hc).resolve_left hc₀
      refine ⟨s, [], rfl, ?_, _, h₀.mem_current, rfl⟩
      cases hstop : (r.after s).stop with
      | some r' => rfl
      | none =>
        rw [Runner.step, hstop] at hc
        exact absurd hc hc₀

theorem Settles.step (h : Settles run s r) (hinv : (r.after s).Inv)
    (hlt : run.id < (r.after s).plays) (i : Input) : Settles run (s ++ [i]) r where
  runs x hx := by
    rw [r.after_concat] at hx
    rcases hinv.step_follows hlt i with ⟨-, hs⟩ | ⟨run', b, w, -, hrun, hid, -, hf⟩
    · obtain ⟨f, -, e⟩ := hs.exists_map
      rw [e] at hx
      obtain ⟨y, hy, rfl⟩ := List.mem_map.1 hx
      exact h.runs y hy
    · obtain rfl : run' = run := h.runs (run', b) (by rw [hrun]; exact List.mem_singleton_self _)
      rcases hf with ⟨e, -⟩ | ⟨b', e, -⟩ <;> rw [e] at hx
      · cases hx
      · rw [List.mem_singleton.1 hx]
  stopped b hp hc := h.stopped_step hinv hlt hp hc
  ended outcome hm := h.ended_step hinv hlt hm

theorem Reachable.settles_play (h : r.Reachable) (hp : r.play = .ok r') :
    Settles r.nextRun [] r' := by
  have hopened : Silent r.opened (r.opened.setPhase .running) := .setPhase (.refl _) _
  have hrun : (r.opened.setPhase .running).control = .run := hopened.control_eq
  have hnone (o : Except Failure Metrics) :
      .ended r.plays o ∉ (r.opened.setPhase .running).journal := by
    intro hm
    have hm : .ended r.plays o ∈ r.journal := hopened.ended_mem hm
    rw [← mem_entriesOf, h.entriesOf_eq_nil (Nat.le_refl _)] at hm
    cases hm
  have h0 : Concludes r.nextRun (r.opened.setPhase .running)
      (.before (r.tasks.drop r.startIndex)) (r.opened.setPhase .running) := by
    obtain ⟨j, e⟩ := r.opened.setPhase_eq .running
    refine ⟨hopened.epoch_eq.symm, id, ?_, fun _ => id⟩
    rw [e]
    rfl
  refine ⟨fun x hx => ?_, fun b hb hc => ?_, fun outcome hm => ?_⟩
  · rw [after_nil] at hx
    rcases h.inv.follows_play hp with ⟨e, -⟩ | ⟨b, e, -⟩ <;> rw [e] at hx
    · cases hx
    · rw [List.mem_singleton.1 hx]
  all_goals
    rcases (h.inv.idle (play_eq_ok hp).1).play_induct hp h0
      (fun _ _ _ _ hI hs => hs.concludes hI) with ⟨b', -, -, hstop, hI⟩ | ⟨hidle, hI⟩
  · cases hrun.symm.trans (hstop hc)
  · exact absurd hb hidle.not_inProgress
  · exact absurd (hI.2 outcome hm) (hnone outcome)
  · exact Concludes.warranted (s := []) hI hidle (fun hc => by cases hrun.symm.trans hc)
      (fun o hm => absurd hm (hnone o)) hm

/-- **The outcome of every play is warranted.** -/
theorem Reachable.warranted (h : r.Reachable) (hp : r.play = .ok r') (s : List Input)
    {outcome : Except Failure Metrics} (hm : .ended r.plays outcome ∈ (r'.after s).journal) :
    Warranted r.options r.plays s r' outcome := by
  have hreach : r'.Reachable := h.of_play hp
  have hlt (s : List Input) : r.plays < (r'.after s).plays := by
    induction s using List.reverseRecOn with
    | nil =>
      rw [after_nil, (frame_play hp).plays_eq]
      exact Nat.lt_succ_self _
    | append_singleton s i ih =>
      rw [after_concat]
      exact Nat.lt_of_lt_of_le ih (le_step _ i).2
  have hs : Settles r.nextRun s r' := by
    clear hm
    induction s using List.reverseRecOn with
    | nil => exact h.settles_play hp
    | append_singleton s i ih => exact ih.step (hreach.after s).inv (hlt s) i
  exact hs.ended outcome hm

end Outcome

end Runner

end MotionScript
