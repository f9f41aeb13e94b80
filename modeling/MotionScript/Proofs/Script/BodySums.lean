import MotionScript.Proofs.Script.Nesting
import MotionScript.Proofs.Script.Reordering

/-!
# A routine takes what its body takes

The estimate for a routine follows its calls down to a depth. The calls in its body are given the
estimates for what they call, which follow calls down to the same depth, so one call further.

* `CallsThrough`: a routine calls the first of some routines, and each of them the next one.
* `Shallow`: no such sequence is as long as the depth.
* `bodyDuration_of_shallow`: from there on the depth does not matter.
* `Estimated`: the estimates of a table of routines, in terms of the depth-bounded ones.
* **`compile_sumsBodies`**: where calls do not lead too deep, the estimate for a routine is the sum
  over its body.
-/

namespace MotionScript

/-- Calls lead from the routine of a name through those of others, each called by the one before. -/
structure CallsThrough (table : List Routine) (name : String) (names : List String) : Prop where
  isChain : (name :: names).IsChain (Calls table)
  defined : ∀ g ∈ names, (Routine.find? table g).isSome

/-- Calls lead from the routine of a name through fewer others than the depth. -/
def Shallow (table : List Routine) (depth : Nat) (name : String) : Prop :=
  ∀ names, CallsThrough table name names → names.length < depth

/-- Estimates for routines and for the calls in them, where calls count down to a depth. -/
structure Estimated (depth : Nat) (table : List Routine) : Prop where
  nodup : (table.map (·.name)).Nodup
  routine : ∀ f ∈ table, f.duration = bodyDuration table depth f.name
  command : ∀ f ∈ table, ∀ x ∈ f.commands, x.duration = x.durationWith (bodyDuration table depth)

/-- The estimates for routines are the sums over their bodies, where the calls stand with the
estimates for what they call. -/
structure SumsBodies (callDepth : Nat) (c : Compilation) : Prop where
  sum_eq : ∀ f ∈ c.program.routines, Shallow c.program.routines callDepth f.name →
    f.duration = (f.commands.map (·.duration)).sum
  /-- A call of no routine counts nothing. -/
  call_eq : ∀ f ∈ c.program.routines, ∀ x ∈ f.commands, ∀ name, x.instruction = .call name →
    x.duration = (c.routine? name).elim 0 (·.duration)

/-! ## Depths that are enough -/

section Depth

variable {table : List Routine} {depth : Nat} {name : String}

theorem bodyDuration_of_find?_eq_none (h : Routine.find? table name = none) (depth : Nat) :
    bodyDuration table depth name = 0 := by
  cases depth with
  | zero => rfl
  | succ depth => rw [bodyDuration, h]

theorem Shallow.pos (h : Shallow table depth name) : 0 < depth :=
  h [] ⟨List.isChain_singleton name, nofun⟩

theorem Shallow.callee (h : Shallow table (depth + 1) name) {g : String}
    (hcalls : Calls table name g) (hdefined : (Routine.find? table g).isSome) :
    Shallow table depth g := by
  intro names hthrough
  have hlonger : CallsThrough table name (g :: names) :=
    ⟨List.isChain_cons_cons.2 ⟨hcalls, hthrough.isChain⟩,
      List.forall_mem_cons.2 ⟨hdefined, hthrough.defined⟩⟩
  exact Nat.lt_of_succ_lt_succ (h _ hlonger)

theorem bodyDuration_of_shallow (h : Shallow table depth name) {depth' : Nat}
    (hle : depth ≤ depth') : bodyDuration table depth' name = bodyDuration table depth name := by
  induction depth generalizing name depth' with
  | zero => exact absurd h.pos (Nat.lt_irrefl 0)
  | succ depth ih =>
    obtain ⟨depth', rfl⟩ : ∃ d, depth' = d + 1 := ⟨depth' - 1, by omega⟩
    cases hf : Routine.find? table name with
    | none => rw [bodyDuration_of_find?_eq_none hf, bodyDuration_of_find?_eq_none hf]
    | some r =>
      have hcommand : ∀ x ∈ r.commands, x.durationWith (bodyDuration table depth') =
          x.durationWith (bodyDuration table depth) := by
        intro x hx
        unfold Command.durationWith
        cases hc : x.instruction.callee? with
        | none => rfl
        | some g =>
          have hcalls : Calls table name g :=
            ⟨r, hf, Routine.mem_calls.2 ⟨x, hx, Instruction.callee?_eq_some.1 hc⟩⟩
          show bodyDuration table depth' g = bodyDuration table depth g
          cases hg : Routine.find? table g with
          | none => rw [bodyDuration_of_find?_eq_none hg, bodyDuration_of_find?_eq_none hg]
          | some r' => exact ih (h.callee hcalls (by rw [hg]; rfl)) (Nat.le_of_succ_le_succ hle)
      simp only [bodyDuration, hf, total_eq_sum]
      exact congrArg List.sum (List.map_congr_left hcommand)

end Depth

/-! ## Estimates that are filled in -/

theorem Command.duration_resolve (known : String → Nat) (x : Command) :
    (x.resolve known).duration = (x.resolve known).durationWith known :=
  (x.durationWith_resolve known known).symm

theorem estimated_of_compile {callDepth : Nat} {source : String} {c : Compilation}
    (hc : compile callDepth source = .ok c) : Estimated callDepth c.program.routines := by
  obtain ⟨-, rfl, -⟩ := compile_eq_ok.1 hc
  have hnodup := Program.nodup_routines (tokenize source.toList).1
  rw [compileTokens_eq, Program.resolve_eq]
  generalize (Program.scanned (tokenize source.toList).1).1 = p at hnodup ⊢
  have hsame (known : String → Nat) := bodyDuration_resolve known p.routines callDepth
  constructor
  case nodup =>
    rw [List.map_map]
    exact hnodup
  case routine =>
    intro f hf
    obtain ⟨r, -, rfl⟩ := List.mem_map.1 hf
    rw [hsame]
    rfl
  case command =>
    intro f hf x hx
    obtain ⟨r, -, rfl⟩ := List.mem_map.1 hf
    obtain ⟨y, -, rfl⟩ := List.mem_map.1 hx
    rw [hsame]
    exact Command.duration_resolve _ y

namespace Estimated

variable {depth : Nat} {table : List Routine} {f : Routine}

theorem find?_eq_some (h : Estimated depth table) (hf : f ∈ table) :
    Routine.find? table f.name = some f :=
  (Routine.find?_eq_some h.nodup).2 ⟨hf, rfl⟩

theorem sum_eq (h : Estimated depth table) (hf : f ∈ table) :
    (f.commands.map (·.duration)).sum = bodyDuration table (depth + 1) f.name := by
  simp only [bodyDuration, h.find?_eq_some hf, total_eq_sum]
  exact congrArg List.sum (List.map_congr_left (h.command f hf))

theorem call_eq (h : Estimated depth table) (hf : f ∈ table) {x : Command} (hx : x ∈ f.commands)
    {name : String} (hcall : x.instruction = .call name) :
    x.duration = (Routine.find? table name).elim 0 (·.duration) := by
  have hduration : x.duration = bodyDuration table depth name := by
    rw [h.command f hf x hx, Command.durationWith, Instruction.callee?_eq_some.2 hcall]
  cases hg : Routine.find? table name with
  | none => rw [hduration, bodyDuration_of_find?_eq_none hg, Option.elim_none]
  | some g =>
    obtain ⟨hmem, rfl⟩ := (Routine.find?_eq_some h.nodup).1 hg
    rw [hduration, Option.elim_some, h.routine g hmem]

end Estimated

/-- **A routine is estimated to take what its body takes**, if calls from it do not lead deeper than
they are followed. -/
theorem compile_sumsBodies {callDepth : Nat} {source : String} {c : Compilation}
    (hc : compile callDepth source = .ok c) : SumsBodies callDepth c where
  sum_eq f hf hshallow := by
    have h := estimated_of_compile hc
    calc f.duration
        = bodyDuration c.program.routines callDepth f.name := h.routine f hf
      _ = bodyDuration c.program.routines (callDepth + 1) f.name :=
        (bodyDuration_of_shallow hshallow callDepth.le_succ).symm
      _ = (f.commands.map (·.duration)).sum := (h.sum_eq hf).symm
  call_eq _ hf _ hx _ hcall := (estimated_of_compile hc).call_eq hf hx hcall

/-- A routine that calls another one, and then one that is not defined. -/
def callsOne : String := "FUNC(A)\x7bCALL(B);CALL(C);WAIT\x7d\nFUNC(B)\x7bX(1)\x7d\nCALL(A)"

/-- What its compilation with two calls in one another is. -/
def callsOneCompiled : Compilation where
  program := {
    commands := [⟨.call "A", "CALL(A)", 3, 2000, []⟩]
    routines := [
      ⟨"A", [⟨.call "B", "CALL(B)", 1, 1000, []⟩, ⟨.call "C", "CALL(C)", 1, 0, []⟩,
        ⟨.wait, "WAIT", 1, 1000, []⟩], 1, 2000⟩,
      ⟨"B", [⟨.movement [⟨.x, [1], [], []⟩], "X(1)", 2, 1000, []⟩], 2, 1000⟩] }
  diagnostics := [.onLine 1 (.undefinedRoutine "C")]
  callDepth := 2

theorem compile_callsOne : compile 2 callsOne = .ok callsOneCompiled := by
  have hc : compileTokens 2 (tokenize callsOne.toList).1 (tokenize callsOne.toList).2 =
      callsOneCompiled := by
    rw [compileTokens_eq, Program.resolve_eq]
    decide +kernel
  refine compile_eq_ok.2 ⟨by decide, hc.symm, ?_⟩
  decide +kernel

theorem callsOne_shallow : Shallow callsOneCompiled.program.routines 2 "A" := by
  rintro names ⟨hchain, hdefined⟩
  match names with
  | [] | [_] => simp
  | g :: g' :: names =>
    simp only [List.isChain_cons_cons] at hchain
    obtain ⟨⟨r, hr, hg⟩, ⟨r', hr', hg'⟩, -⟩ := hchain
    obtain rfl : g = "B" := by
      obtain rfl : _ = r := Option.some.inj hr
      have hcalled : g = "B" ∨ g = "C" := by
        simpa [Routine.calls, Instruction.callee?, eq_comm] using hg
      refine hcalled.resolve_right ?_
      rintro rfl
      cases hdefined "C" List.mem_cons_self
    obtain rfl : _ = r' := Option.some.inj hr'
    cases hg'

/-- A takes what B takes, and the time of its own waiting. -/
theorem callsOne_sumsBodies : compile 2 callsOne = .ok callsOneCompiled ∧
    SumsBodies 2 callsOneCompiled ∧ Shallow callsOneCompiled.program.routines 2 "A" ∧
    (callsOneCompiled.routine? "A").map (·.duration) = some (1000 + 0 + 1000) :=
  ⟨compile_callsOne, compile_sumsBodies compile_callsOne, callsOne_shallow, rfl⟩

end MotionScript
