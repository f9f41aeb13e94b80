import MotionScript.Proofs.Run.Chronicle
import MotionScript.Proofs.Run.Consistent
import MotionScript.Proofs.Run.Sequential
import MotionScript.Proofs.Run.Supported
import MotionScript.Proofs.Script.Limits

/-!
# Loaded scripts drive the device within limits

* `Sendable`: the texts that a script may have sent.
* `Task.Bounded`: what is asked of a task. `Task.bounded_of_within`: it holds if the command is
  within the limits.
* `loadScript_cases`: what becomes of a script that is to be loaded. None is refused for want of a
  plan.
* `Reachable.attempts_sendsOf`: a play sends in attempts of the tasks loaded when it begins.
* `Safe`, **`loadScript_safe`**: what a script that is accepted may do.
-/

namespace MotionScript

/-! ## Tasks within the limits -/

/-- An instruction that is sent as it is written, within the limits. -/
inductive Instruction.SentAsWritten : Instruction → Prop where
  | speed (axis : Option Axis) {v : Nat} : 10 ≤ v → v ≤ 10000 → SentAsWritten (.speed axis v)
  | sync {v : Nat} : v ≤ 1 → SentAsWritten (.sync v)
  | system (w : SystemWord) : SentAsWritten (.system w)
  | detect : SentAsWritten .detect

/-- A text that a script may have sent to the device: a target, a speed, or one of its statements as
it is written. -/
inductive Sendable (source : String) : String → Prop where
  | target (axis : Axis) (p : Int) : Sendable source (targetText axis p)
  | speed (axis : Axis) {v : Nat} : 10 ≤ v → v ≤ 10000 → Sendable source (speedText axis v)
  | statement {t : Token} {text : String} {i : Instruction} :
    t ∈ (tokenize source.toList).1 → t.lexeme = .statement text.toList →
    i.Written text.toList → i.SentAsWritten → Sendable source text

/-- A task that does something, and nothing beyond the limits. -/
structure Task.Bounded (source : String) (t : Task) : Prop where
  /-- The plan has a step. -/
  plan_eq : ∃ s steps, plan t.command = .ok (s :: steps) ∧ t.steps = s :: steps
  moves : ∀ ms, t.command.instruction = .movement ms ∨ t.command.instruction = .group ms →
    ms ≠ [] ∧ ∀ m ∈ ms, m.positions ≠ []
  /-- A group moves no axis twice and sends one text for each of its moves, in order. -/
  group : ∀ ms, t.command.instruction = .group ms → (ms.map (·.axis)).Nodup ∧
    List.Forall₂ (fun m text => ∃ p, m.positions.head? = some p ∧ text = targetText m.axis p)
      ms t.texts
  texts : ∀ text, .send text ∈ t.steps → Sendable source text

theorem Move.speed_mem_of_mem_legsOnto {ps : List Int} {ds ss : List Nat} {l : Leg}
    (hl : l ∈ legsOnto [] ps ds ss) {v : Nat} (hv : l.speed? = some v) : v ∈ ss := by
  induction ps generalizing ds ss with
  | nil => cases hl
  | cons p ps ih =>
    rw [legsOnto_cons] at hl
    rcases List.mem_cons.1 hl with rfl | hl
    · exact List.mem_of_head? hv
    · exact List.mem_of_mem_tail (ih hl)

theorem Move.steps_ne_nil {m : Move} (h : m.positions ≠ []) : m.steps ≠ [] := by
  have hlegs : m.legs ≠ [] := by
    rw [← List.length_pos_iff, Move.legs, Move.length_legsOnto, List.length_pos_iff]
    exact h
  obtain ⟨l, hl⟩ := List.exists_mem_of_ne_nil _ hlegs
  refine List.ne_nil_of_mem (a := .send (targetText m.axis l.target)) ?_
  exact List.mem_flatMap.2 ⟨l, hl, List.mem_append_right _ List.mem_cons_self⟩

theorem Move.sendable {source : String} {m : Move} (h : ∀ v ∈ m.speeds, speedOk v)
    {text : String} (ht : .send text ∈ m.steps) : Sendable source text := by
  obtain ⟨l, hl, ht⟩ := List.mem_flatMap.1 ht
  rcases List.mem_append.1 ht with ht | ht
  · obtain ⟨v, hv, he⟩ := Option.map_eq_some_iff.1 (Option.mem_toList.1 ht)
    cases he
    obtain ⟨hmin, hmax⟩ := speedOk_iff.1 (h v (speed_mem_of_mem_legsOnto hl hv))
    exact .speed m.axis hmin hmax
  · rcases List.mem_cons.1 ht with he | ht
    · cases he
      exact .target m.axis l.target
    · exact absurd ht (send_notMem_hold _ _)

theorem forall₂_groupStep {ms : List Move} (h : ∀ m ∈ ms, m.positions ≠ []) :
    List.Forall₂ (fun m text => ∃ p, m.positions.head? = some p ∧ text = targetText m.axis p)
      ms (textsOf (ms.filterMap Move.groupStep?)) := by
  induction ms with
  | nil => exact .nil
  | cons m ms ih =>
    obtain ⟨p, hp⟩ : ∃ p, m.positions.head? = some p := by
      cases hm : m.positions with
      | nil => exact absurd hm (h m List.mem_cons_self)
      | cons p ps => exact ⟨p, rfl⟩
    have hstep : m.groupStep? = some (.send (targetText m.axis p)) := by
      rw [Move.groupStep?, hp, Option.map_some]
    rw [List.filterMap_cons_some hstep]
    exact .cons ⟨p, hp, rfl⟩ (ih fun m hm => h m (List.mem_cons_of_mem _ hm))

theorem sendable_group {source : String} {ms : List Move} {text : String}
    (ht : .send text ∈ ms.filterMap Move.groupStep? ++ hold (groupDelay ms)) :
    Sendable source text := by
  rcases List.mem_append.1 ht with ht | ht
  · obtain ⟨m, -, hm⟩ := List.mem_filterMap.1 ht
    obtain ⟨p, -, he⟩ := Option.map_eq_some_iff.1 hm
    cases he
    exact .target m.axis p
  · exact absurd ht (send_notMem_hold _ _)

theorem Move.flatMap_steps_ne_nil {ms : List Move} (h : ms ≠ [])
    (hm : ∀ m ∈ ms, m.positions ≠ []) : ms.flatMap Move.steps ≠ [] := by
  obtain ⟨m, hmem⟩ := List.exists_mem_of_ne_nil _ h
  exact fun he => Move.steps_ne_nil (hm m hmem) (List.flatMap_eq_nil_iff.1 he m hmem)

theorem Move.filterMap_groupStep?_ne_nil {ms : List Move} (h : ms ≠ [])
    (hm : ∀ m ∈ ms, m.positions ≠ []) : ms.filterMap Move.groupStep? ≠ [] := by
  obtain ⟨m, hmem⟩ := List.exists_mem_of_ne_nil _ h
  intro he
  have hnone := List.filterMap_eq_nil_iff.1 he m hmem
  rw [Move.groupStep?, Option.map_eq_none_iff, List.head?_eq_none_iff] at hnone
  exact hm m hmem hnone

section Task

variable {source : String} {t : Task}

theorem Task.plan_eq_cons (h : t.steps ≠ []) :
    ∃ s steps, plan t.command = .ok (s :: steps) ∧ t.steps = s :: steps := by
  obtain ⟨s, steps, hs⟩ := List.exists_cons_of_ne_nil h
  exact ⟨s, steps, hs ▸ t.planned, hs⟩

/-- A task that moves no axis is bounded if what it sends is. -/
theorem Task.bounded_of_moves_eq_nil (hm : ∀ ms, t.command.instruction ≠ .movement ms)
    (hg : ∀ ms, t.command.instruction ≠ .group ms) {s : Step}
    (hp : plan t.command = .ok [s]) (hs : ∀ text, s = .send text → Sendable source text) :
    t.Bounded source := by
  have hsteps : t.steps = [s] := Except.ok.inj (t.planned.symm.trans hp)
  refine ⟨plan_eq_cons (by simp [hsteps]), ?_, fun ms h => absurd h (hg ms), ?_⟩
  · rintro ms (h | h)
    · exact absurd h (hm ms)
    · exact absurd h (hg ms)
  · intro text ht
    rw [hsteps, List.mem_singleton] at ht
    exact hs text ht.symm

theorem Task.bounded_of_movement {ms : List Move} (hi : t.command.instruction = .movement ms)
    (hne : ms ≠ []) (hpos : ∀ m ∈ ms, m.positions ≠ [])
    (hspeeds : ∀ m ∈ ms, ∀ v ∈ m.speeds, speedOk v) : t.Bounded source := by
  have hsteps : t.steps = ms.flatMap Move.steps := by simpa [plan, hi] using t.planned.symm
  refine ⟨plan_eq_cons (hsteps ▸ Move.flatMap_steps_ne_nil hne hpos), ?_, by simp [hi], ?_⟩
  · rintro ms' (h | h) <;> rw [hi] at h <;> cases h
    exact ⟨hne, hpos⟩
  · intro text ht
    rw [hsteps] at ht
    obtain ⟨m, hm, ht⟩ := List.mem_flatMap.1 ht
    exact Move.sendable (hspeeds m hm) ht

theorem Task.bounded_of_group {ms : List Move} (hi : t.command.instruction = .group ms)
    (hne : ms ≠ []) (hpos : ∀ m ∈ ms, m.positions ≠ []) (hnodup : (ms.map (·.axis)).Nodup) :
    t.Bounded source := by
  have hsteps : t.steps = ms.filterMap Move.groupStep? ++ hold (groupDelay ms) := by
    simpa [plan, hi] using t.planned.symm
  have htexts : t.texts = textsOf (ms.filterMap Move.groupStep?) := by
    rw [Task.texts, hsteps, textsOf, List.filterMap_append]
    exact (congrArg _ (textsOf_hold _)).trans (List.append_nil _)
  have hsome : t.steps ≠ [] := by
    rw [hsteps]
    exact List.append_ne_nil_of_left_ne_nil (Move.filterMap_groupStep?_ne_nil hne hpos) _
  refine ⟨plan_eq_cons hsome, ?_, ?_, fun text ht => sendable_group (hsteps ▸ ht)⟩
  · rintro ms' (h | h) <;> rw [hi] at h <;> cases h
    exact ⟨hne, hpos⟩
  · intro ms' h
    rw [hi] at h
    cases h
    exact ⟨hnodup, htexts ▸ forall₂_groupStep hpos⟩

theorem Task.bounded_of_within (h : t.command.Within source) : t.Bounded source := by
  obtain ⟨⟨u, hu, hlexeme⟩, hwritten, hwithin⟩ := h
  have hverbatim (hs : t.command.instruction.SentAsWritten)
      (hp : plan t.command = .ok [.send t.command.raw]) : t.Bounded source := by
    refine bounded_of_moves_eq_nil ?_ ?_ hp fun text he => ?_
    · exact fun ms hi => by rw [hi] at hs; cases hs
    · exact fun ms hi => by rw [hi] at hs; cases hs
    · cases he
      exact .statement hu hlexeme hwritten hs
  generalize hi : t.command.instruction = i at hwithin hverbatim
  cases hwithin with
  | movement hne hpos hspeeds => exact bounded_of_movement hi hne hpos hspeeds
  | group hne hpos hnodup => exact bounded_of_group hi hne hpos hnodup
  | speed axis hv =>
    obtain ⟨hmin, hmax⟩ := speedOk_iff.1 hv
    exact hverbatim (.speed axis hmin hmax) (by rw [plan, hi])
  | system w => exact hverbatim (.system w) (by rw [plan, hi])
  | sync hv => exact hverbatim (.sync hv) (by rw [plan, hi])
  | detect => exact hverbatim .detect (by rw [plan, hi])
  | wait =>
    refine bounded_of_moves_eq_nil (s := .signal) ?_ ?_ (by rw [plan, hi]) (by simp)
    · simp [hi]
    · simp [hi]

end Task

/-! ## Loading -/

theorem exists_ofCommand {source : String} {c : Command} (h : c.Within source) :
    ∃ t, Task.ofCommand c = .ok t := by
  have hplan : ∃ steps, plan c = .ok steps := by
    obtain ⟨-, -, hwithin⟩ := h
    unfold plan
    generalize c.instruction = i at hwithin
    cases hwithin <;> exact ⟨_, rfl⟩
  obtain ⟨steps, hsteps⟩ := hplan
  unfold Task.ofCommand
  split
  · exact ⟨_, rfl⟩
  · next e he => cases hsteps.symm.trans he

theorem exists_ofCommands {source : String} {cs : List Command} (h : ∀ c ∈ cs, c.Within source) :
    ∃ ts, Task.ofCommands cs = .ok ts ∧ ts.map (·.command) = cs := by
  induction cs with
  | nil => exact ⟨[], rfl, rfl⟩
  | cons c cs ih =>
    obtain ⟨t, ht⟩ := exists_ofCommand (h c List.mem_cons_self)
    obtain ⟨ts, hts, hmap⟩ := ih fun c hc => h c (List.mem_cons_of_mem _ hc)
    refine ⟨t :: ts, ?_, by rw [List.map_cons, Task.command_of_ofCommand ht, hmap]⟩
    rw [Task.ofCommands] at hts ⊢
    rw [List.mapM_cons, ht, hts]
    rfl

namespace Runner

variable {r r' : Runner} {source : String}

/-- What becomes of a script that is to be loaded: it has errors, the runner is executing, or its
commands, all within the limits, are the tasks loaded. -/
theorem loadScript_cases (r : Runner) (source : String) :
    (∃ e : Failure, e.Supported ∧ r.loadScript source = .error e) ∨
      ∃ c warnings tasks, compile defaultCallDepth source = .ok c ∧
        tasks.map Task.command = c.expand.commands ∧ (∀ t ∈ tasks, t.Bounded source) ∧
        r.loadScript source =
          .ok ({ r with tasks, status := .fresh tasks.length, metrics := .zero }, warnings) := by
  unfold loadScript
  split
  · next c hc =>
    unfold loadCompilation
    split
    · next hok =>
      dsimp only
      split
      · obtain ⟨tasks, hts, hmap⟩ := exists_ofCommands fun x hx =>
          Compilation.within_of_mem_expand hc hok hx
        cases he : r.status.executing with
        | true => exact .inl ⟨.alreadyExecuting, trivial, by simp [load, hts, he]; rfl⟩
        | false =>
          refine .inr ⟨c, c.expand.warnings, tasks, hc, hmap, fun t ht => ?_, ?_⟩
          · refine Task.bounded_of_within (Compilation.within_of_mem_expand hc hok ?_)
            exact hmap ▸ List.mem_map_of_mem ht
          · simp [load, hts, he]
            rfl
      · exact .inl ⟨.compile _, trivial, rfl⟩
    · exact .inl ⟨.compile _, trivial, rfl⟩
  · exact .inl ⟨.compile _, trivial, rfl⟩
  · exact .inl ⟨.overflow _, trivial, rfl⟩

end Runner

/-! ## Runs -/

theorem Step.eq_send_of_mem_sends {s : Step} {maxRetries : Nat} {x : String × Nat}
    (h : x ∈ s.sends maxRetries) : s = .send x.1 := by
  cases s with
  | send text => rw [List.mem_singleton.1 h]
  | delay | signal => cases h

theorem Options.mem_of_mem_afterFailure {o : Options} {t u : Task} {later : List Task}
    (h : u ∈ o.afterFailure t later) : u ∈ t :: later := by
  unfold Options.afterFailure at h
  split at h
  · exact h
  · split at h
    · exact List.mem_cons_of_mem _ h
    · cases h

theorem Attempts.mem_steps {o : Options} {todo : List Task} {texts : List (String × Nat)}
    (h : Attempts o todo texts) {x : String × Nat} (hx : x ∈ texts) :
    ∃ t ∈ todo, .send x.1 ∈ t.steps := by
  have hstep {steps : List Step} (hm : x ∈ steps.flatMap (Step.sends o.maxRetries)) :
      .send x.1 ∈ steps := by
    obtain ⟨s, hs, hm⟩ := List.mem_flatMap.1 hm
    exact Step.eq_send_of_mem_sends hm ▸ hs
  induction h with
  | nil => cases hx
  | broken t later n => exact ⟨t, List.mem_cons_self, List.mem_of_mem_take (hstep hx)⟩
  | completed t _ ih =>
    rcases List.mem_append.1 hx with hx | hx
    · exact ⟨t, List.mem_cons_self, hstep hx⟩
    · obtain ⟨u, hu, hm⟩ := ih hx
      exact ⟨u, List.mem_cons_of_mem _ hu, hm⟩
  | failed t n _ ih =>
    rcases List.mem_append.1 hx with hx | hx
    · exact ⟨t, List.mem_cons_self, List.mem_of_mem_take (hstep hx)⟩
    · obtain ⟨u, hu, hm⟩ := ih hx
      exact ⟨u, Options.mem_of_mem_afterFailure hu, hm⟩

namespace Runner

variable {r r' : Runner}

/-- A play sends in attempts of the tasks that are loaded when it begins. -/
theorem Reachable.attempts_sendsOf (h : r.Reachable) (hp : r.play = .ok r') (s : List Input) :
    Attempts r.options (r.tasks.drop r.startIndex) ((r'.after s).sendsOf r.plays) := by
  have hi := h.inv.play hp
  have hlt : r.plays < r'.plays := by
    rw [(frame_play hp).plays_eq]
    exact Nat.lt_succ_self _
  have hnone : r.sendsOf r.plays = [] := by
    rw [sendsOf, h.entriesOf_eq_nil (Nat.le_refl _)]
    rfl
  obtain ⟨hfits, hrest⟩ := hi.sends_rest_after hlt s ((hi.after s).fits_between _)
  have hcourse := (h.inv.follows_play hp).sends_rest hfits
  rw [rest_between, List.append_nil] at hrest
  change r.sendsOf r.plays ++ _ = r'.sendsOf r.plays ++ r'.rest r.plays _ at hcourse
  rw [hnone, List.nil_append, hrest] at hcourse
  exact hcourse ▸ attempts_course _ _ _

/-- What a script may do once it is loaded into a runner. -/
structure Safe (source : String) (r : Runner) : Prop where
  /-- The tasks are the commands of its expansion. -/
  loaded : ∃ c, compile defaultCallDepth source = .ok c ∧
    r.tasks.map Task.command = c.expand.commands
  bounded : ∀ t ∈ r.tasks, t.Bounded source
  /-- A play of these tasks sends in attempts of them, and sends nothing else, whatever comes. -/
  sends : ∀ r₁ r₂ : Runner, r₁.Reachable → r₁.tasks = r.tasks → r₁.play = .ok r₂ → ∀ s,
    Attempts r₁.options (r₁.tasks.drop r₁.startIndex) ((r₂.after s).sendsOf r₁.plays) ∧
      ∀ x ∈ (r₂.after s).sendsOf r₁.plays, Sendable source x.1
  /-- It is never refused because a command cannot be executed, and no run fails for that. -/
  accepted : ∀ (r₁ : Runner) (e : Failure), r₁.loadScript source = .error e → e.Supported
  supported : ∀ r₁ : Runner, r₁.Reachable → ∀ e ∈ r₁.journal, e.Supported

/-- **Accepted scripts drive the device within limits only.** -/
theorem loadScript_safe {source : String} {warnings : List String}
    (h : r.loadScript source = .ok (r', warnings)) : Safe source r' := by
  rcases r.loadScript_cases source with ⟨e, -, he⟩ | ⟨c, ws, tasks, hc, hmap, hbounded, he⟩
  · cases h.symm.trans he
  · cases h.symm.trans he
    refine ⟨⟨c, hc, hmap⟩, hbounded, fun r₁ r₂ hr ht hp s => ?_, fun r₁ e herr => ?_,
      fun r₁ hr => hr.supported⟩
    · have hattempts := hr.attempts_sendsOf hp s
      refine ⟨hattempts, fun x hx => ?_⟩
      obtain ⟨t, htask, hstep⟩ := hattempts.mem_steps hx
      have hmem : t ∈ r₁.tasks := List.mem_of_mem_drop htask
      rw [ht] at hmem
      exact (hbounded t hmem).texts x.1 hstep
    · rcases r₁.loadScript_cases source with ⟨e', hs, he'⟩ | ⟨_, _, _, -, -, -, hok⟩
      · cases herr.symm.trans he'
        exact hs
      · cases herr.symm.trans hok

/-- A group that runs after a call, which sets a signal and moves with a speed of its own. -/
def grouped : String := "FUNC(A)\x7bSET(1)\nX(5,s20)\x7d\nCALL(A)\nGROUP(X(1),Y(2,d3))"

def groupedCompiled : Compilation where
  program := {
    commands := [⟨.call "A", "CALL(A)", 3, 1100, []⟩,
      ⟨.group [⟨.x, [1], [], []⟩, ⟨.y, [2], [3], []⟩], "GROUP(X(1),Y(2,d3))", 4, 1003, []⟩]
    routines := [⟨"A", [⟨.sync 1, "SET(1)", 1, 100, []⟩,
      ⟨.movement [⟨.x, [5], [], [20]⟩], "X(5,s20)", 2, 1000, []⟩], 1, 1100⟩] }
  diagnostics := []
  callDepth := defaultCallDepth

theorem grouped_safe : ∃ r', (new .standard).loadScript grouped = .ok (r', []) ∧
    r'.tasks.map Task.steps = [[.send "SET(1)"], [.send "SPEED;X;20", .send "x;1;5"],
      [.send "x;1;1", .send "y;1;2", .delay 3]] ∧ Safe grouped r' := by
  have hc : compileTokens defaultCallDepth (tokenize grouped.toList).1
      (tokenize grouped.toList).2 = groupedCompiled := by
    rw [compileTokens_eq, Program.resolve_eq]
    decide +kernel
  have hcompile : compile defaultCallDepth grouped = .ok groupedCompiled := by
    refine compile_eq_ok.2 ⟨by decide, hc.symm, ?_⟩
    decide +kernel
  have hload : ∃ r', (new .standard).loadScript grouped = .ok (r', []) ∧
      r'.tasks.map Task.steps = [[.send "SET(1)"], [.send "SPEED;X;20", .send "x;1;5"],
        [.send "x;1;1", .send "y;1;2", .delay 3]] := by
    simp only [loadScript, hcompile]
    refine ⟨_, rfl, ?_⟩
    decide
  obtain ⟨r', h, hsteps⟩ := hload
  exact ⟨r', h, hsteps, loadScript_safe h⟩

end Runner

end MotionScript
