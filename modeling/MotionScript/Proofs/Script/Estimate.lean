import Mathlib.Algebra.Ring.Nat
import MotionScript.Proofs.Script.Inlining
import MotionScript.Proofs.Script.Scan

/-!
# Estimates agree with expansions

Two recursions follow the calls of a script: the estimates, made once for each name and depth and
then looked up, and the inlining, which carries the chain of routines that it is in. Both are
compared with a third one, which has neither a memo nor a chain.

* `bodyDuration`: the estimate for a routine, by recursion on the depth alone.
* `EstimateMemo.Sound`, `Evaluates`: a memo whose entries are what that recursion gives, and a
  computation that gives its value from every such memo and leaves such a memo. Estimates do
  (`estimateRoutine_evaluates`), so their order does not matter.
* `Command.total_inline`: with its calls inlined, a command takes what it is estimated to take at
  the depth that is left.
* **`estimates_agree`**: the estimate for a script is the sum over its expansion.
-/

namespace MotionScript

/-- The estimate for the routine of a name, with its calls down to a depth. A name without a
routine counts nothing. -/
def bodyDuration (table : List Routine) : Nat → String → Nat
  | 0, _ => 0
  | depth + 1, name =>
    match Routine.find? table name with
    | some r => total (Command.durationWith (bodyDuration table depth)) r.commands
    | none => 0

/-- A memo with nothing but right estimates for a table of routines. -/
def EstimateMemo.Sound (table : List Routine) (memo : EstimateMemo) : Prop :=
  ∀ name depth n, memo[(name, depth)]? = some n → n = bodyDuration table depth name

/-! ## Estimates with a memo -/

section Memo

variable {table : List Routine} {memo : EstimateMemo}

theorem EstimateMemo.sound_empty (table : List Routine) : EstimateMemo.Sound table ∅ := by
  intro name depth n h
  simp at h

theorem EstimateMemo.Sound.insert (h : memo.Sound table) (name : String) (depth : Nat) :
    EstimateMemo.Sound table (memo.insert (name, depth) (bodyDuration table depth name)) := by
  intro name' depth' n hn
  rw [Std.HashMap.getElem?_insert] at hn
  split at hn
  · next heq =>
    obtain ⟨rfl, rfl⟩ := Prod.mk.inj (eq_of_beq heq)
    exact (Option.some.inj hn).symm
  · exact h name' depth' n hn

/-- A computation with a memo that gives a value and keeps the memo sound. -/
def Evaluates {α : Type} (table : List Routine) (m : StateM EstimateMemo α) (a : α) : Prop :=
  ∀ memo : EstimateMemo, memo.Sound table →
    ∃ memo', m.run memo = pure (a, memo') ∧ memo'.Sound table

theorem Evaluates.pure {α : Type} (a : α) : Evaluates table (pure a) a :=
  fun memo h => ⟨memo, rfl, h⟩

theorem Evaluates.bind {α β : Type} {m : StateM EstimateMemo α} {f : α → StateM EstimateMemo β}
    {a : α} {b : β} (hm : Evaluates table m a) (hf : Evaluates table (f a) b) :
    Evaluates table (m >>= f) b := by
  intro memo h
  obtain ⟨memo', hrun, h'⟩ := hm memo h
  obtain ⟨memo'', hrun', h''⟩ := hf memo' h'
  refine ⟨memo'', ?_, h''⟩
  rw [StateT.run_bind, hrun, pure_bind]
  exact hrun'

theorem Evaluates.map {α β : Type} {m : StateM EstimateMemo α} {a : α} (f : α → β)
    (hm : Evaluates table m a) : Evaluates table (f <$> m) (f a) := by
  intro memo h
  obtain ⟨memo', hrun, h'⟩ := hm memo h
  exact ⟨memo', by rw [StateT.run_map, hrun, map_pure], h'⟩

theorem Evaluates.foldlM {α σ : Type} {f : σ → α → StateM EstimateMemo σ} {g : σ → α → σ}
    (hf : ∀ s a, Evaluates table (f s a) (g s a)) (l : List α) (s : σ) :
    Evaluates table (l.foldlM f s) (l.foldl g s) := by
  induction l generalizing s with
  | nil => exact .pure s
  | cons a l ih =>
    rw [List.foldlM_cons, List.foldl_cons]
    exact .bind (hf s a) (ih _)

theorem addDuration_evaluates {estimate : String → StateM EstimateMemo Nat} {known : String → Nat}
    (n : Nat) (c : Command) (h : ∀ name, Evaluates table (estimate name) (known name)) :
    Evaluates table (c.addDuration estimate n) (n + c.durationWith known) := by
  unfold Command.addDuration Command.durationWith
  cases c.instruction.callee? with
  | none => exact .pure _
  | some name => exact (h name).map (n + ·)

/-- An estimate with a memo is the depth-bounded one, and the memo stays sound. -/
theorem estimateRoutine_evaluates (table : List Routine) (depth : Nat) (name : String) :
    Evaluates table (estimateRoutine table depth name) (bodyDuration table depth name) := by
  induction depth generalizing name with
  | zero => exact .pure 0
  | succ depth ih =>
    intro memo h
    cases hm : memo[(name, depth + 1)]? with
    | some n =>
      -- a hit: what is looked up is right because the memo is sound
      have hn := h name (depth + 1) n hm
      exact ⟨memo, by simp [estimateRoutine, hm, hn], h⟩
    | none =>
      cases hf : Routine.find? table name with
      | none => exact ⟨memo, by simp [estimateRoutine, bodyDuration, hm, hf], h⟩
      | some r =>
        -- a miss: the calls of the body fill the memo, and the sum is entered after them
        obtain ⟨memo', hrun, h'⟩ :=
          Evaluates.foldlM (fun n c => addDuration_evaluates n c ih) r.commands 0 memo h
        have hbody : bodyDuration table (depth + 1) name =
            r.commands.foldl (fun n c => n + c.durationWith (bodyDuration table depth)) 0 := by
          rw [bodyDuration, hf]
          rfl
        refine ⟨memo'.insert (name, depth + 1) (bodyDuration table (depth + 1) name), ?_,
          h'.insert name (depth + 1)⟩
        simp [estimateRoutine, hm, hf, hrun, hbody]

theorem mapM_estimateRoutine_evaluates (table : List Routine) (queries : List (Nat × String)) :
    Evaluates table (queries.mapM fun q => estimateRoutine table q.1 q.2)
      (queries.map fun q => bodyDuration table q.1 q.2) := by
  induction queries with
  | nil => exact .pure []
  | cons q queries ih =>
    rw [List.mapM_cons, List.map_cons]
    exact (estimateRoutine_evaluates table q.1 q.2).bind (ih.bind (.pure _))

theorem Evaluates.run_eq {α : Type} {m : StateM EstimateMemo α} {a : α} (hm : Evaluates table m a) :
    (m.run ∅).run.1 = a := by
  obtain ⟨memo, hrun, -⟩ := hm ∅ (EstimateMemo.sound_empty table)
  rw [hrun]
  rfl

theorem getD_foldl_insert (g : String → Nat) (l : List Routine) (known : Std.HashMap String Nat)
    (name : String) : (l.foldl (fun known r => known.insert r.name (g r.name)) known).getD name 0 =
      if (Routine.find? l name).isSome then g name else known.getD name 0 := by
  induction l generalizing known with
  | nil => rfl
  | cons r l ih =>
    rw [List.foldl_cons, ih, Std.HashMap.getD_insert, Routine.find?_cons]
    by_cases hr : r.name = name
    · simp [hr]
    · simp [hr]

/-- The estimates for the routines of a table are the depth-bounded ones. -/
theorem getD_routineEstimates (table : List Routine) (depth : Nat) (name : String) :
    (routineEstimates table depth).getD name 0 = bodyDuration table depth name := by
  have hfold : routineEstimates table depth =
      table.foldl (fun known r => known.insert r.name (bodyDuration table depth r.name)) ∅ :=
    Evaluates.run_eq (.foldlM (fun (known : Std.HashMap String Nat) r =>
      (estimateRoutine_evaluates table depth r.name).map (known.insert r.name)) table ∅)
  rw [hfold, getD_foldl_insert]
  cases hf : Routine.find? table name with
  | some r => rfl
  | none => cases depth <;> simp [bodyDuration, hf]

end Memo

/-! ## Estimates and the inlining -/

theorem total_eq_sum {α : Type} (f : α → Nat) (l : List α) : total f l = (l.map f).sum := by
  induction l with
  | nil => rfl
  | cons a l ih => rw [total_cons, ih, List.map_cons, List.sum_cons]

theorem total_flatMap {α β : Type} (f : β → Nat) (g : α → List β) (l : List α) :
    total f (l.flatMap g) = total (fun a => total f (g a)) l := by
  induction l with
  | nil => rfl
  | cons a l ih => rw [List.flatMap_cons, total_append, total_cons, ih]

theorem total_map {α β : Type} (f : β → Nat) (g : α → β) (l : List α) :
    total f (l.map g) = total (fun a => f (g a)) l := by
  induction l with
  | nil => rfl
  | cons a l ih => rw [List.map_cons, total_cons, total_cons, ih]

/-- A command with its calls inlined takes what is estimated at the depth that is left. -/
theorem Command.total_inline (table : List Routine) (limit : Nat) (chain : List String)
    (c : Command) : total (·.duration) (c.inline table limit chain) =
      c.durationWith (bodyDuration table (limit - chain.length)) := by
  fun_induction Command.inline table limit chain c with
  | case1 chain c hc => simp [Command.durationWith, hc]
  | case2 chain c name hc hl =>
    simp [Command.durationWith, hc, Nat.sub_eq_zero_of_le hl, bodyDuration]
  | case3 chain c name hc hl hf =>
    have hleft : limit - chain.length = limit - (chain.length + 1) + 1 := by omega
    simp [Command.durationWith, hc, hleft, bodyDuration, hf]
  | case4 chain c name hc hl r hf ih =>
    have hleft : limit - chain.length = limit - (chain ++ [name]).length + 1 := by
      rw [List.length_append, List.length_singleton]
      omega
    calc total (·.duration) (r.commands.flatMap (Command.inline table limit (chain ++ [name])))
        = total (Command.durationWith (bodyDuration table (limit - (chain ++ [name]).length)))
            r.commands := by
          rw [total_flatMap]
          exact congrArg (total · r.commands) (funext ih)
      _ = bodyDuration table (limit - chain.length) name := by
          rw [hleft, bodyDuration, hf]
      _ = c.durationWith (bodyDuration table (limit - chain.length)) := by
          rw [Command.durationWith, hc]

theorem Program.total_inline (limit : Nat) (p : Program) : total (·.duration) (p.inline limit) =
    total (Command.durationWith (bodyDuration p.routines limit)) p.commands := by
  rw [Program.inline, total_flatMap]
  exact congrArg (total · p.commands) (funext fun c => c.total_inline _ _ _)

/-! ## Estimates once they are filled in -/

theorem Command.durationWith_resolve (f known : String → Nat) (c : Command) :
    (c.resolve known).durationWith f = c.durationWith f := by
  unfold Command.resolve
  unfold Command.durationWith
  cases c.instruction.callee? <;> rfl

theorem bodyDuration_resolve (known : String → Nat) (table : List Routine) (depth : Nat) :
    bodyDuration (table.map (Routine.resolve known)) depth = bodyDuration table depth := by
  induction depth with
  | zero => rfl
  | succ depth ih =>
    funext name
    rw [bodyDuration, bodyDuration, ih, Routine.find?_map (f := Routine.resolve known) fun _ => rfl]
    cases Routine.find? table name with
    | none => rfl
    | some r =>
      refine (total_map _ _ r.commands).trans ?_
      simp only [Command.durationWith_resolve]

theorem Program.resolve_eq (depth : Nat) (p : Program) : p.resolve depth =
    ⟨p.commands.map (Command.resolve (bodyDuration p.routines depth)),
      p.routines.map (Routine.resolve (bodyDuration p.routines depth))⟩ := by
  have hknown : (fun name => (routineEstimates p.routines depth).getD name 0) =
      bodyDuration p.routines depth := funext (getD_routineEstimates p.routines depth)
  rw [Program.resolve, hknown]

/-- With its calls inlined, a program takes what its commands are estimated to take. -/
theorem Program.total_inline_resolve (depth : Nat) (p : Program) :
    total (·.duration) ((p.resolve depth).inline depth) =
      total (·.duration) (p.resolve depth).commands := by
  rw [Program.total_inline, Program.resolve_eq, bodyDuration_resolve]
  simp only [total_map, Command.durationWith_resolve]
  rfl

theorem Compilation.length_visits_le {c : Compilation}
    (h : ∀ d ∈ c.expand.diagnostics, d.problem ≠ .budgetExceeded) :
    (c.program.visits c.callDepth).length ≤ expansionBudget := by
  by_contra hlt
  obtain ⟨d, hd, hp⟩ := Program.exists_budgetExceeded (Nat.not_le.1 hlt)
  exact h d (List.mem_append_right _ (List.mem_reverse.2 hd)) hp

theorem Compilation.expand_commands_eq {c : Compilation}
    (h : ∀ d ∈ c.expand.diagnostics, d.problem ≠ .budgetExceeded) :
    c.expand.commands = c.program.inline c.callDepth := by
  have hle := Compilation.length_visits_le h
  calc c.expand.commands
      = ((c.program.visits c.callDepth).take expansionBudget).filterMap Pending.copy? :=
        c.program.expand_commands expansionBudget c.callDepth
    _ = c.program.inline c.callDepth := by rw [List.take_of_length_le hle, Program.inline_eq]

/-- **The estimate for a script is the sum over its expansion**, and estimates with a memo are the
depth-bounded ones in whatever order they are made. -/
theorem estimates_agree :
    (∀ callDepth source c, compile callDepth source = .ok c →
      (∀ d ∈ c.expand.diagnostics, d.problem ≠ .budgetExceeded) →
      c.totalDuration = total (·.duration) c.expand.commands) ∧
    ∀ (table : List Routine) (queries : List (Nat × String)),
      ((queries.mapM fun q => estimateRoutine table q.1 q.2).run ∅).run.1 =
        queries.map fun q => bodyDuration table q.1 q.2 := by
  constructor
  · intro callDepth source c hc hb
    obtain ⟨-, rfl, -⟩ := compile_eq_ok.1 hc
    rw [Compilation.expand_commands_eq hb]
    exact (Program.total_inline_resolve callDepth _).symm
  · intro table queries
    exact Evaluates.run_eq (mapM_estimateRoutine_evaluates table queries)

/-- Two routines that call each other, and a call without a routine. -/
def loops : String := "FUNC(A)\x7bX(1);CALL(B)\x7d\nFUNC(B)\x7bCALL(A)\x7d\nCALL(A)\nCALL(C)"

/-- What the compilation with three calls in one another is: X is moved twice. -/
def loopsCompiled : Compilation where
  program := {
    commands := [⟨.call "A", "CALL(A)", 3, 2000, []⟩, ⟨.call "C", "CALL(C)", 4, 0, []⟩]
    routines := [
      ⟨"A", [⟨.movement [⟨.x, [1], [], []⟩], "X(1)", 1, 1000, []⟩,
        ⟨.call "B", "CALL(B)", 1, 1000, []⟩], 1, 2000⟩,
      ⟨"B", [⟨.call "A", "CALL(A)", 2, 2000, []⟩], 2, 1000⟩] }
  diagnostics := [.onLine 4 (.undefinedRoutine "C")]
  callDepth := 3

theorem compile_loops : compile 3 loops = .ok loopsCompiled := by
  have hc : compileTokens 3 (tokenize loops.toList).1 (tokenize loops.toList).2 =
      loopsCompiled := by
    rw [compileTokens_eq, Program.resolve_eq]
    decide +kernel
  refine compile_eq_ok.2 ⟨by decide, hc.symm, ?_⟩
  decide +kernel

theorem loops_agree : compile 3 loops = .ok loopsCompiled ∧
    (∀ d ∈ loopsCompiled.expand.diagnostics, d.problem ≠ .budgetExceeded) ∧
    loopsCompiled.totalDuration = total (·.duration) loopsCompiled.expand.commands := by
  have hb : ∀ d ∈ loopsCompiled.expand.diagnostics, d.problem ≠ .budgetExceeded := by decide
  exact ⟨compile_loops, hb, estimates_agree.1 3 loops _ compile_loops hb⟩

end MotionScript
