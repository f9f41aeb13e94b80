import MotionScript.Proofs.Run.Progress
import MotionScript.Proofs.Run.Stride
import MotionScript.Proofs.Run.Written

/-!
# What an input does

An input loads something, resets the runner, begins a play, lets the run in progress go on, or
leaves it where it is. In the last case it may change the mode that the run is asked to be in, tell
its wait of the signal, and end plays that were reset.

* `Aside`: what an input does that leaves the run in progress where it is.
* `Turn`, **`Inv.turn`**: what an input does, by cases.
-/

namespace MotionScript

/-- Whether an input loads something. -/
def Input.IsLoad : Input → Prop
  | load _ | loadCompilation _ | loadScript _ => True
  | _ => False

namespace Runner

/-- An input leaves the run in progress where it is. It writes nothing about its commands. -/
structure Aside (i : Input) (r r' : Runner) : Prop where
  status_eq : r'.status = { r.status with phase := r'.status.phase }
  tasks_eq : r'.tasks = r.tasks
  epoch_eq : r'.epoch = r.epoch
  clock_eq : r'.clock = r.clock ∨ ∃ ms, i = .pass ms ∧ r'.clock = r.clock + ms
  /-- A stop stands. -/
  stopped : r.control = .stop → r'.control = .stop
  /-- Only a stop stops. -/
  stops : r'.control = .stop → r.control = .stop ∨ i = .stop
  journal : Adds (fun e => (∃ p, e = .event (.phaseChanged p)) ∨ ∃ p outcome, e = .ended p outcome)
    r r'

/-- What an input does. -/
inductive Turn (r : Runner) : Input → Runner → Prop where
  | load {i : Input} {r' : Runner} (hi : i.IsLoad) (h : r.Idle) (h' : r'.Idle) (tasks : List Task)
    (e : r' = { r with tasks, status := .fresh tasks.length, metrics := .zero }) : Turn r i r'
  | reset : Turn r .reset r.reset
  | idle {i : Input} {r' : Runner} (h : r.Idle) (h' : r'.Idle) (ha : Aside i r r') : Turn r i r'
  | play {r' : Runner} (h : r.Idle) (hp : r.play = .ok r') : Turn r .play r'
  | goOn {run : Run} {b : Blocked} {w : Wake} (h : r.InProgress run b) (ha : r.allows run b w) :
    Turn r (.wake run.id w) ((r.without run.id).goOn run b w)
  | aside {run : Run} {b b' : Blocked} {i : Input} {r' : Runner} (h : r.InProgress run b)
    (h' : r'.InProgress run b')
    (hb : b' = b ∨ i = .signal ∧ ∃ a wait d, b = .waiting a wait d none ∧
      b' = .waiting a wait d (some true))
    (hw : ∀ w, i = .wake run.id w → ¬ r.allows run b w) (ha : Aside i r r') : Turn r i r'

section Turn

variable {run : Run} {b : Blocked} {i : Input} {r r' : Runner}

theorem InProgress.unique {run' : Run} {b' : Blocked} (h : r.InProgress run b)
    (h' : r.InProgress run' b') : run' = run ∧ b' = b := by
  cases h.eq_of_epoch_eq h'.mem h'.epoch_eq
  exact ⟨rfl, rfl⟩

theorem Idle.not_inProgress (h : r.Idle) : ¬ r.InProgress run b := by
  intro h'
  have he := h'.executing
  rw [h.executing] at he
  cases he

theorem Idle.slot_eq (h : r.Idle) : r.slot = none := by
  cases hs : r.slot with
  | none => rfl
  | some w =>
    obtain ⟨x, hx, a, d, e⟩ := h.roster.taken w hs
    exact absurd ((h.roster.member x hx).epoch_of_untold e) (Nat.ne_of_lt (h.old x hx))

/-! ## Inputs beside the run in progress -/

theorem Aside.refl (i : Input) (r : Runner) : Aside i r r :=
  ⟨rfl, rfl, rfl, .inl rfl, id, .inl, .refl _ r⟩

theorem Aside.cursor_eq (h : Aside i r r') : r'.status.cursor = r.status.cursor := by
  rw [h.status_eq]

theorem Aside.errors_eq (h : Aside i r r') : r'.status.errors = r.status.errors := by
  rw [h.status_eq]

theorem Aside.adds {P : Entry → Prop} (h : Aside i r r') (hp : ∀ p, P (.event (.phaseChanged p)))
    (he : ∀ p outcome, P (.ended p outcome)) : Adds P r r' := by
  refine h.journal.mono fun e hor => ?_
  rcases hor with ⟨p, rfl⟩ | ⟨p, outcome, rfl⟩
  · exact hp p
  · exact he p outcome

theorem Aside.update (h : Aside i r r') {o : Options} {m : Metrics} {slot : Option Nat}
    {waits plays : Nat} {runs : List (Run × Blocked)} : Aside i r { r' with
      options := o, metrics := m, slot, waits, plays, runs } :=
  ⟨h.status_eq, h.tasks_eq, h.epoch_eq, h.clock_eq, h.stopped, h.stops, h.journal⟩

theorem Aside.ended (h : Aside i r r') (p : Nat) (outcome : Except Failure Metrics) :
    Aside i r (r'.note (.ended p outcome)) :=
  ⟨h.status_eq, h.tasks_eq, h.epoch_eq, h.clock_eq, h.stopped, h.stops,
    h.journal.note (.inr ⟨p, outcome, rfl⟩)⟩

theorem aside_pass (r : Runner) (ms : Nat) : Aside (.pass ms) r (r.pass ms) :=
  ⟨rfl, rfl, rfl, .inr ⟨ms, rfl, rfl⟩, id, .inl, .of_eq rfl⟩

theorem aside_launch {e : Failure} (hp : r.play = .error e) : Aside i r r.launch := by
  unfold launch
  rw [hp]
  have h : Aside i r { r with plays := r.plays + 1 } := (Aside.refl i r).update
  exact h.ended _ _

theorem aside_setMode {c : Control} (hc : r.control ≠ .stop) (hi : c = .stop → i = .stop) :
    Aside i r (setPhase c.phase { r with control := c }) := by
  have hadds : Adds
      (fun e => (∃ p, e = .event (.phaseChanged p)) ∨ ∃ p outcome, e = .ended p outcome) r
      (setPhase c.phase { r with control := c }) :=
    Adds.setPhase (.of_eq rfl) (.inl ⟨c.phase, rfl⟩)
  obtain ⟨j, e⟩ := setPhase_eq { r with control := c } c.phase
  rw [e] at hadds ⊢
  exact ⟨rfl, rfl, rfl, .inl rfl, fun h => absurd h hc, fun h => .inr (hi h), hadds⟩

theorem control_step_ne_stop (hc : r.control ≠ .stop) (hi : i = .pause ∨ i = .unpause) :
    (r.step i).control ≠ .stop := by
  have hset (c : Control) (hs : c ≠ .stop) :
      (setPhase c.phase { r with control := c }).control ≠ .stop := by
    rwa [control_setMode]
  rcases hi with rfl | rfl
  · simp only [Runner.step, Runner.pause]
    split
    · exact hset .pause (by simp)
    · exact hc
  · simp only [Runner.step, Runner.unpause]
    split
    · exact hset .run (by simp)
    · exact hc

theorem InProgress.phase_of_stop (h : r.InProgress run b) (hc : r.control = .stop) :
    r.status.phase = .stopping := by
  rcases h.phase with hp | ⟨-, -, hr⟩
  · rw [hp, hc]
    rfl
  · rw [hc] at hr
    cases hr

/-- A stop is not taken back, and not asked for twice. -/
theorem InProgress.step_eq_of_stop (h : r.InProgress run b) (hc : r.control = .stop)
    (hi : i = .pause ∨ i = .unpause ∨ i = .stop) : r.step i = r := by
  have hp := h.phase_of_stop hc
  rcases hi with rfl | rfl | rfl
  · simp [Runner.step, Runner.pause, hp]
  · simp [Runner.step, Runner.unpause, hp]
  · simp [Runner.step, Runner.stop, hp]

theorem play_eq_error (he : r.status.executing = true) : r.play = .error .alreadyExecuting := by
  simp [play, he]

theorem Inv.aside_wake (h : r.Inv) {q : Nat} {w : Wake}
    (hw : ∀ run b, r.InProgress run b → run.id = q → ¬ r.allows run b w) :
    Aside i r (r.wake q w) ∧ ∀ x ∈ r.runs, x.1.epoch = r.epoch → x ∈ (r.wake q w).runs := by
  rcases r.wake_eq q w with e | ⟨run, b, hm, rfl, ha, e⟩ <;> rw [e]
  · exact ⟨.refl i r, fun x hx _ => hx⟩
  · by_cases he : run.epoch = r.epoch
    · exact absurd ha (hw run b (h.inProgress_of_mem hm he) rfl)
    · rw [h.goOn_abandoned hm he ha]
      refine ⟨(Aside.refl i r).update.ended _ _, fun x hx hxe => List.mem_filter.2 ⟨hx, ?_⟩⟩
      have hne : x.1.id ≠ run.id := fun hid => by
        cases h.roster.eq_of_id_eq hx hm hid
        exact he hxe
      simpa using hne

/-! ## Every input -/

/-- An input leaves the run in progress where it is blocked, if it leaves it in the list. -/
theorem InProgress.turn_aside (h : r.InProgress run b) (hm : (run, b) ∈ (r.step i).runs)
    (hw : ∀ w, i = .wake run.id w → ¬ r.allows run b w) (ha : Aside i r (r.step i)) :
    Turn r i (r.step i) := by
  have hinv : (r.step i).Inv := Inv.step (.inr ⟨run, b, h⟩) i
  exact .aside h (hinv.inProgress_of_mem hm (h.epoch_eq.trans ha.epoch_eq.symm)) (.inl rfl) hw ha

theorem Inv.turn_refl (h : r.Inv) (hi : ∀ q w, i ≠ .wake q w) : Turn r i r := by
  rcases h with h | ⟨run, b, h⟩
  · exact .idle h h (.refl i r)
  · exact .aside h h (.inl rfl) (fun w e => absurd e (hi _ w)) (.refl i r)

theorem Inv.turn_loads (h : r.Inv) (hl : Loads r r') (hi : i.IsLoad) : Turn r i r' := by
  rcases hl with rfl | ⟨he, tasks, e⟩
  · refine h.turn_refl fun q w e => ?_
    rw [e] at hi
    exact hi
  · have hidle := h.idle he
    have hl' : Loads r r' := .inr ⟨he, tasks, e⟩
    have hidle' : r'.Idle := (h.loads hl').idle (by rw [e]; rfl)
    exact .load hi hidle hidle' tasks e

theorem Inv.turn_mode (h : r.Inv) (hi : i = .pause ∨ i = .unpause ∨ i = .stop) :
    Turn r i (r.step i) := by
  have hni : ∀ q w, i ≠ .wake q w := by rcases hi with rfl | rfl | rfl <;> simp
  by_cases hc : r.control = .stop ∧ r.status.executing = true
  · rcases h with h | ⟨run, b, h⟩
    · rw [h.executing] at hc
      cases hc.2
    · rw [h.step_eq_of_stop hc.1 hi]
      exact Inv.turn_refl (.inr ⟨run, b, h⟩) hni
  · rcases r.step_mode hi with e | ⟨hp, hp', c, e⟩
    · rw [e]
      exact h.turn_refl hni
    · obtain ⟨run, b, hprog⟩ := h.inProgress hp hp'
      have hc : r.control ≠ .stop := fun hs => hc ⟨hs, hprog.executing⟩
      have hcontrol : c = .stop → i = .stop := by
        intro hs
        by_contra hne
        have hn := control_step_ne_stop hc (hi.imp_right fun h => h.resolve_right hne)
        rw [e, control_setMode] at hn
        exact hn hs
      rw [e]
      exact .aside hprog (hprog.setMode c) (.inl rfl) (fun w e => absurd e (hni _ w))
        (aside_setMode hc hcontrol)

theorem Inv.turn_signal (h : r.Inv) : Turn r .signal (r.step .signal) := by
  cases hs : r.slot with
  | none =>
    have e : r.step .signal = r := by simp [Runner.step, Runner.signal, hs]
    rw [e]
    exact h.turn_refl (by simp)
  | some w =>
    have e : r.step .signal = r.tellWait true := by simp [Runner.step, Runner.signal, hs]
    have ha : Aside .signal r (r.tellWait true) := (Aside.refl _ r).update
    rw [e]
    rcases h with h | ⟨run, b, h⟩
    -- without a run in progress nothing takes a signal
    · rw [h.slot_eq] at hs
      cases hs
    · obtain ⟨a, d, rfl⟩ := h.slot_eq hs
      have hm : (run, .waiting a w d (some true)) ∈ (r.tellWait true).runs := by
        simp only [tellWait, hs, tell]
        exact List.mem_map.2 ⟨_, h.mem, by simp [Blocked.tell]⟩
      have hinv : (r.tellWait true).Inv := Inv.signal (.inr ⟨_, _, h⟩) (by simp [Runner.signal, hs])
      exact .aside h (hinv.inProgress_of_mem hm h.epoch_eq) (.inr ⟨rfl, a, w, d, rfl, rfl⟩)
        (by simp) ha

theorem Inv.turn_wake (h : r.Inv) (q : Nat) (w : Wake) :
    Turn r (.wake q w) (r.step (.wake q w)) := by
  by_cases hgo : ∃ run b, r.InProgress run b ∧ run.id = q ∧ r.allows run b w
  · obtain ⟨run, b, hp, rfl, ha⟩ := hgo
    rw [Runner.step, Inv.wake_eq h hp.mem ha]
    exact .goOn hp ha
  · have hw : ∀ run b, r.InProgress run b → run.id = q → ¬ r.allows run b w :=
      fun run b hp hid ha => hgo ⟨run, b, hp, hid, ha⟩
    obtain ⟨ha, hm⟩ := h.aside_wake (i := .wake q w) hw
    have hinv : (r.wake q w).Inv := h.wake q w
    rcases h with h | ⟨run, b, h⟩
    · have hs := congrArg Status.executing ha.status_eq
      exact .idle h (hinv.idle (hs.trans h.executing)) ha
    · refine h.turn_aside (hm _ h.mem h.epoch_eq) (fun w' e => ?_) ha
      cases e
      exact hw run b h rfl

/-- **What an input does, by cases.** -/
theorem Inv.turn (h : r.Inv) (i : Input) : Turn r i (r.step i) := by
  cases i with
  | load cs => exact h.turn_loads (r.step_loads.1 cs) trivial
  | loadCompilation c => exact h.turn_loads (r.step_loads.2.1 c) trivial
  | loadScript source => exact h.turn_loads (r.step_loads.2.2 source) trivial
  | play =>
    cases hp : r.play with
    | ok r' =>
      rw [step_play hp]
      exact .play (h.idle (play_eq_ok hp).1) hp
    | error e =>
      have ha : Aside .play r (r.step .play) := aside_launch hp
      rcases h with h | ⟨run, b, h⟩
      · have hs := congrArg Status.executing ha.status_eq
        exact .idle h ((Inv.step (.inl h) .play).idle (hs.trans h.executing)) ha
      · refine h.turn_aside ?_ (by simp) ha
        have e : (r.step .play).runs = r.runs := by simp [Runner.step, Runner.launch, hp, note]
        rw [e]
        exact h.mem
  | pause | unpause | stop => exact h.turn_mode (by simp)
  | reset => exact .reset
  | signal => exact h.turn_signal
  | setOptions o =>
    have ha : Aside (.setOptions o) r (r.step (.setOptions o)) := (Aside.refl _ r).update
    rcases h with h | ⟨run, b, h⟩
    · exact .idle h { h with } ha
    · exact h.turn_aside h.mem (by simp) ha
  | pass ms =>
    rcases h with h | ⟨run, b, h⟩
    · exact .idle h { h with } (aside_pass r ms)
    · exact h.turn_aside h.mem (by simp) (aside_pass r ms)
  | wake q w => exact h.turn_wake q w

/-! ## Where the run in progress is after an input -/

/-- After an input the run in progress is blocked where its strides have led it, or where it was, up
to what its wait is told. -/
theorem Inv.blocked_or_kept {I : Place → Runner → Prop} (h : r.Inv)
    (hp : (r.step i).InProgress run b)
    (hbegin : r.Idle → run = r.nextRun →
      I (.before (r.tasks.drop r.startIndex)) (r.opened.setPhase .running))
    (hdepart : ∀ b₀ w p r', r.InProgress run b₀ → r.allows run b₀ w → i = .wake run.id w →
      Departs run (r.without run.id) b₀ w (p, r') → I p r')
    (hstride : ∀ p r p' r', I p r → Stride run (p, r) (p', r') → I p' r') :
    I (.blocked b) (r.step i) ∨ ∃ b₀, r.InProgress run b₀ ∧
      (b = b₀ ∨ i = .signal ∧ ∃ a wait d, b₀ = .waiting a wait d none ∧
        b = .waiting a wait d (some true)) ∧
      (∀ w, i = .wake run.id w → ¬ r.allows run b₀ w) ∧ Aside i r (r.step i) := by
  have ht := h.turn i
  generalize hr' : r.step i = r' at ht hp ⊢
  cases ht with
  | load _ _ hidle | idle _ hidle => exact absurd hp hidle.not_inProgress
  | reset => exact absurd hp h.reset.not_inProgress
  | play hidle hplay =>
    have hrun : run = r.nextRun := by
      rcases hidle.play_induct (I := fun _ _ => True) hplay trivial fun _ _ _ _ _ _ => trivial with
        ⟨b', hp', -⟩ | ⟨hidle', -⟩
      · exact (hp'.unique hp).1
      · exact absurd hp hidle'.not_inProgress
    subst hrun
    rcases hidle.play_induct hplay (hbegin hidle rfl) hstride with ⟨b', hp', hb⟩ | ⟨hidle', -⟩
    · obtain ⟨-, rfl⟩ := hp'.unique hp
      exact .inl hb
    · exact absurd hp hidle'.not_inProgress
  | @goOn run₁ b₁ w h₁ ha =>
    have hrun : run = run₁ := by
      rcases h₁.goOn_induct (I := fun _ _ => True) ha (fun _ _ _ => trivial)
        fun _ _ _ _ _ _ => trivial with ⟨b', hp', -⟩ | ⟨hidle', -⟩
      · exact (hp'.unique hp).1
      · exact absurd hp hidle'.not_inProgress
    subst hrun
    rcases h₁.goOn_induct ha (fun p r' hd => hdepart b₁ w p r' h₁ ha rfl hd) hstride with
      ⟨b', hp', hb⟩ | ⟨hidle', -⟩
    · obtain ⟨-, rfl⟩ := hp'.unique hp
      exact .inl hb
    · exact absurd hp hidle'.not_inProgress
  | aside h₁ h₂ hb hw ha =>
    obtain ⟨rfl, rfl⟩ := h₂.unique hp
    exact .inr ⟨_, h₁, hb, hw, ha⟩

/-- As long as a run stays where it is, only a pause, a resumption or a stop changes the mode and
the phase. -/
theorem InProgress.mode_of_kept (h : r.InProgress run b) {run' : Run} {b' : Blocked}
    (h' : (r.step i).InProgress run' b')
    (hw : ∀ w, i = .wake run.id w → ¬ r.allows run b w)
    (hi : i ≠ .pause ∧ i ≠ .unpause ∧ i ≠ .stop) :
    (r.step i).control = r.control ∧ (r.step i).status.phase = r.status.phase := by
  have hloads {r' : Runner} (hl : Loads r r') :
      r'.control = r.control ∧ r'.status.phase = r.status.phase := by
    rcases hl with rfl | ⟨he, -⟩
    · exact ⟨rfl, rfl⟩
    · rw [h.executing] at he
      cases he
  cases i with
  | load cs => exact hloads (r.step_loads.1 cs)
  | loadCompilation c => exact hloads (r.step_loads.2.1 c)
  | loadScript source => exact hloads (r.step_loads.2.2 source)
  | play =>
    simp only [Runner.step, Runner.launch, play_eq_error h.executing]
    exact ⟨rfl, rfl⟩
  | pause => exact absurd rfl hi.1
  | unpause => exact absurd rfl hi.2.1
  | stop => exact absurd rfl hi.2.2
  | reset =>
    have hidle : r.reset.Idle := Inv.reset (.inr ⟨run, b, h⟩)
    exact absurd h' hidle.not_inProgress
  | signal =>
    simp only [Runner.step, Runner.signal]
    split <;> exact ⟨rfl, rfl⟩
  | setOptions o => exact ⟨rfl, rfl⟩
  | pass ms => exact ⟨rfl, rfl⟩
  | wake q w =>
    rw [Runner.step]
    rcases r.wake_eq q w with e | ⟨run₁, b₁, hm, rfl, ha, e⟩ <;> rw [e]
    · exact ⟨rfl, rfl⟩
    · by_cases he : run₁.epoch = r.epoch
      · cases h.eq_of_epoch_eq hm he
        exact absurd ha (hw w rfl)
      · rw [Inv.goOn_abandoned (.inr ⟨run, b, h⟩) hm he ha]
        exact ⟨rfl, rfl⟩

end Turn

end Runner

end MotionScript
