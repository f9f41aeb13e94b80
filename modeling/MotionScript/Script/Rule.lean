import MotionScript.Command
import MotionScript.Script.Problem

/-!
# Rules for commands

* `Rule`: a named condition on instructions with the severity of its violations.
* `rules`: the rules every command is checked against, in order.
* `Instruction.violations`: all violations of an instruction, rule by rule.
-/

namespace MotionScript

/-- A condition on instructions. -/
structure Rule where
  name : String
  severity : Severity
  /-- The violations of an instruction. -/
  check : Instruction → List Problem

/-- Whether a speed is in range. -/
def speedOk (value : Nat) : Bool := speedMin ≤ value && value ≤ speedMax

/-- Whether a position is in range. -/
def positionOk (position : Int) : Bool := positionMin ≤ position && position ≤ positionMax

/-- Speeds and speed overrides out of range. -/
def speedViolations : Instruction → List Problem
  | .speed _ value => if speedOk value then [] else [.speedRange value]
  | i => i.moves.flatMap fun m =>
    (m.speeds.filter fun v => !speedOk v).map (.axisSpeedRange m.axis)

/-- Positions out of range. -/
def positionViolations (i : Instruction) : List Problem :=
  i.moves.flatMap fun m => (m.positions.filter fun p => !positionOk p).map (.positionRange m.axis)

/-- Signals other than 0 and 1. -/
def signalViolations : Instruction → List Problem
  | .sync value => if 1 < value then [.signalRange value] else []
  | _ => []

/-- The axes of a list that occur before, in the list or among those seen. -/
def repeats (seen : List Axis) : List Axis → List Axis
  | [] => []
  | a :: as => if a ∈ seen then a :: repeats seen as else repeats (a :: seen) as

/-- Axes that a group moves again. -/
def groupAxisViolations : Instruction → List Problem
  | .group ms => (repeats [] (ms.map (·.axis))).map .repeatedAxis
  | _ => []

/-- Axes that a group gives several targets. -/
def groupTargetViolations : Instruction → List Problem
  | .group ms => (ms.filter fun m => 1 < m.positions.length).map fun m => .furtherTargets m.axis
  | _ => []

/-- The rules every command is checked against. -/
def rules : List Rule := [
  ⟨"speed-range", .error, speedViolations⟩,
  ⟨"position-range", .warning, positionViolations⟩,
  ⟨"set-value", .error, signalViolations⟩,
  ⟨"group-unique-axis", .error, groupAxisViolations⟩,
  ⟨"group-single-position", .warning, groupTargetViolations⟩]

/-- All violations of an instruction. -/
def Instruction.violations (i : Instruction) : List Problem := rules.flatMap fun r => r.check i

/-- A violation has the severity of its rule. -/
theorem severity_of_mem_check {r : Rule} (hr : r ∈ rules) {i : Instruction} {p : Problem}
    (hp : p ∈ r.check i) : p.severity = r.severity := by
  simp only [rules, List.mem_cons, List.not_mem_nil, or_false] at hr
  rcases hr with rfl | rfl | rfl | rfl | rfl
  · cases i <;> simp only [speedViolations, Instruction.moves] at hp <;> grind [Problem.severity]
  · cases i <;> simp only [positionViolations, Instruction.moves] at hp <;> grind [Problem.severity]
  · cases i <;> simp only [signalViolations] at hp <;> grind [Problem.severity]
  · cases i <;> simp only [groupAxisViolations] at hp <;> grind [Problem.severity]
  · cases i <;> simp only [groupTargetViolations] at hp <;> grind [Problem.severity]

/-- Whether a problem is one that the rules look for. -/
def Problem.isViolation : Problem → Bool
  | speedRange _ | axisSpeedRange _ _ | positionRange _ _ | signalRange _ | repeatedAxis _
  | furtherTargets _ => true
  | _ => false

theorem isViolation_of_mem_violations {i : Instruction} {p : Problem} (h : p ∈ i.violations) :
    p.isViolation := by
  obtain ⟨r, hr, hp⟩ := List.mem_flatMap.1 h
  simp only [rules, List.mem_cons, List.not_mem_nil, or_false] at hr
  rcases hr with rfl | rfl | rfl | rfl | rfl
  · cases i <;> simp only [speedViolations, Instruction.moves] at hp <;>
      grind [Problem.isViolation]
  · cases i <;> simp only [positionViolations, Instruction.moves] at hp <;>
      grind [Problem.isViolation]
  · cases i <;> simp only [signalViolations] at hp <;> grind [Problem.isViolation]
  · cases i <;> simp only [groupAxisViolations] at hp <;> grind [Problem.isViolation]
  · cases i <;> simp only [groupTargetViolations] at hp <;> grind [Problem.isViolation]

end MotionScript
