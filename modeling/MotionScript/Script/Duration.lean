import Std.Data.HashMap
import MotionScript.Command
import MotionScript.Word

/-!
# Estimated durations

Estimates are for display and planning.

* `Instruction.estimate`: the estimate for an instruction by itself; a call counts nothing.
  `Instruction.estimateWord` is what a 64-bit word holds of it.
* `estimateRoutine`: the estimate for a routine with its calls, down to a depth of calls. Estimates
  are kept in a memo by name and depth, so that each is made once.
* `routineEstimates`: the estimates for all routines, made in turn with one memo.
-/

namespace MotionScript

/-- Estimated milliseconds for an axis to reach a position. -/
def moveDuration : Nat := 1000

/-- Estimated milliseconds for a change of speed. -/
def speedDuration : Nat := 100

/-- Estimated milliseconds for a command to the machine as a whole. -/
def systemDuration : Nat := 500

/-- Estimated milliseconds for homing all axes. -/
def homingDuration : Nat := 10000

/-- Estimated milliseconds for setting the synchronization signal. -/
def signalDuration : Nat := 100

/-- Estimated milliseconds for an external signal to arrive. -/
def waitDuration : Nat := 1000

/-- Estimated milliseconds for starting the detection monitor. -/
def detectDuration : Nat := 500

/-- The sum of `f` over a list. -/
def total {α : Type} (f : α → Nat) (l : List α) : Nat := l.foldl (fun n a => n + f a) 0

/-- The greatest value of `f` on a list, or 0. -/
def greatest {α : Type} (f : α → Nat) (l : List α) : Nat := l.foldl (fun n a => max n (f a)) 0

/-- The estimate for a move by itself: all its positions and all its delays. -/
def Move.estimate (m : Move) : Nat := m.positions.length * moveDuration + total id m.delays

/-- The estimate for a move in a group: one position and its delay. -/
def Move.groupEstimate (m : Move) : Nat := moveDuration + m.delays.head?.getD 0

/-- The estimate for an instruction by itself. -/
def Instruction.estimate : Instruction → Nat
  | movement ms => total Move.estimate ms
  | group ms => greatest Move.groupEstimate ms
  | speed _ _ => speedDuration
  | system .zero => homingDuration
  | system _ => systemDuration
  | sync _ => signalDuration
  | wait => waitDuration
  | detect => detectDuration
  | call _ => 0

/-- The estimate for an instruction in a 64-bit word. There are never enough positions for their
part to leave it; the delays may. -/
def Instruction.estimateWord (i : Instruction) : Except Overflow Nat :=
  if i.estimate ≤ word64Max then .ok i.estimate else .error .addition

/-- The estimate for a command when the estimates of the routines it may call are known. -/
def Command.durationWith (known : String → Nat) (c : Command) : Nat :=
  match c.instruction.callee? with
  | some name => known name
  | none => c.duration

/-- Estimates made before, each for a name and the depth down to which calls count. -/
abbrev EstimateMemo := Std.HashMap (String × Nat) Nat

/-- Add the estimate for a command, with an estimate made for the routine that it may call. -/
def Command.addDuration (estimate : String → StateM EstimateMemo Nat) (n : Nat) (c : Command) :
    StateM EstimateMemo Nat :=
  match c.instruction.callee? with
  | some name => (n + ·) <$> estimate name
  | none => pure (n + c.duration)

/-- The estimate for the routine of a name, with its calls down to a depth. A name without a
routine counts nothing. An estimate is made once and then looked up. -/
def estimateRoutine (table : List Routine) : (depth : Nat) → String → StateM EstimateMemo Nat
  | 0, _ => return 0
  | depth + 1, name => do
    match (← get)[(name, depth + 1)]? with
    | some n => return n
    | none =>
      match Routine.find? table name with
      | none => return 0
      | some r =>
        let n ← r.commands.foldlM (Command.addDuration (estimateRoutine table depth)) 0
        modify (·.insert (name, depth + 1) n)
        return n

/-- The estimates for the routines of a table in turn, with calls down to a depth, by name. -/
def routineEstimates (table : List Routine) (depth : Nat) : Std.HashMap String Nat :=
  let estimates := table.foldlM
    (fun known r => known.insert r.name <$> estimateRoutine table depth r.name)
    (∅ : Std.HashMap String Nat)
  (estimates.run ∅).run.1

/-- Give a call the estimate of what it calls. -/
def Command.resolve (known : String → Nat) (c : Command) : Command :=
  { c with duration := c.durationWith known }

/-- Give a routine its estimate, and its calls theirs. -/
def Routine.resolve (known : String → Nat) (r : Routine) : Routine :=
  { r with commands := r.commands.map (Command.resolve known), duration := known r.name }

/-! ## Sums -/

theorem foldl_add_eq {α : Type} (f : α → Nat) (n : Nat) (l : List α) :
    l.foldl (fun n a => n + f a) n = n + total f l := by
  induction l generalizing n with
  | nil => rfl
  | cons a l ih => simp [total, ih (n + f a), ih (f a), Nat.add_assoc]

@[simp] theorem total_nil {α : Type} (f : α → Nat) : total f [] = 0 := rfl

@[simp] theorem total_cons {α : Type} (f : α → Nat) (a : α) (l : List α) :
    total f (a :: l) = f a + total f l := by
  rw [total, List.foldl_cons, foldl_add_eq, Nat.zero_add]

theorem total_append {α : Type} (f : α → Nat) (l k : List α) :
    total f (l ++ k) = total f l + total f k := by
  induction l with
  | nil => simp
  | cons a l ih => simp [ih, Nat.add_assoc]

end MotionScript
