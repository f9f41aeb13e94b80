import MotionScript.Script.Program
import MotionScript.Script.Rule

/-!
# Compilation

* `Program.diagnostics`: what is wrong with a program beyond its single statements: violated rules,
  calls without a routine, very many sync points, nothing to do.
* `Compilation`: a program with its estimates and everything found wrong with the script.
* `compile`: the compilation of a source. Problems are part of the result; a source is refused only
  for its size, or when an estimate does not fit a 64-bit word.
-/

namespace MotionScript

/-- Greatest accepted size of a source in bytes. -/
def sourceLimit : Nat := 1048576

/-- Nesting depth of calls beyond which calls are skipped, unless another one is asked for. -/
def defaultCallDepth : Nat := 10

/-- A source that is refused. -/
inductive SourceError where
  | tooLarge (size limit : Nat)
  /-- An estimate does not fit its word. -/
  | overflow (operation : Overflow)
  deriving DecidableEq

/-- The wording of a refusal. -/
def SourceError.message : SourceError → String
  | tooLarge size limit => s!"script of {size} bytes exceeds limit of {limit} bytes"
  | overflow operation => operation.message

namespace Program

/-- Number of sync points of a program. -/
def syncPoints (p : Program) : Nat := p.allCommands.countP (·.instruction.isSyncPoint)

/-- Number of groups of a program. -/
def groups (p : Program) : Nat := p.allCommands.countP (·.instruction.isGroup)

/-- A call that names no routine of the table. -/
def callProblems (table : List Routine) (i : Instruction) : List Problem :=
  match i.callee? with
  | some name =>
    if (Routine.find? table name).isSome then [] else [.undefinedRoutine name]
  | none => []

/-- What is wrong with a command of a program. -/
def commandDiagnostics (table : List Routine) (c : Command) : List Diagnostic :=
  (c.instruction.violations ++ callProblems table c.instruction).map (.onLine c.line)

/-- What is wrong with a program as a whole. -/
def wholeProblems (p : Program) : List Problem :=
  (if syncPointThreshold < p.syncPoints then [.manySyncPoints p.syncPoints] else []) ++
    (if p.commands.isEmpty then [.noCommands] else [])

/-- What is wrong with a program beyond its single statements. -/
def diagnostics (p : Program) : List Diagnostic :=
  p.allCommands.flatMap (commandDiagnostics p.routines) ++ p.wholeProblems.map .ofScript

/-- Estimate the routines and calls of a program, with calls down to a depth. -/
def resolve (depth : Nat) (p : Program) : Program :=
  let estimates := routineEstimates p.routines depth
  let known := fun name => estimates.getD name 0
  ⟨p.commands.map (Command.resolve known), p.routines.map (Routine.resolve known)⟩

end Program

/-- A program with its estimates and everything found wrong with the script. -/
structure Compilation where
  program : Program
  /-- Everything found wrong, in the order found. -/
  diagnostics : List Diagnostic
  /-- Nesting depth of calls beyond which calls are skipped. -/
  callDepth : Nat
  deriving DecidableEq

namespace Compilation

/-- The texts of the errors. -/
def errors (c : Compilation) : List String := Diagnostic.texts .error c.diagnostics

/-- The texts of the warnings. -/
def warnings (c : Compilation) : List String := Diagnostic.texts .warning c.diagnostics

/-- Whether nothing keeps the script from being run. -/
def isOk (c : Compilation) : Bool := !c.diagnostics.any Diagnostic.isError

/-- The routine of a name. -/
def routine? (c : Compilation) (name : String) : Option Routine :=
  Routine.find? c.program.routines name

/-- Number of commands, those in routines included. -/
def totalCommands (c : Compilation) : Nat := c.program.allCommands.length

/-- Estimated duration of the commands outside routines in milliseconds. -/
def totalDuration (c : Compilation) : Nat := total (·.duration) c.program.commands

/-- Number of sync points. -/
def syncPoints (c : Compilation) : Nat := c.program.syncPoints

/-- A measure of the size of the script: each command counts 1, each routine 2 more, each sync point
1.5 more and each group 1.2 more, rounded to the nearest whole number, halves up. -/
def complexity (c : Compilation) : Nat :=
  (10 * c.totalCommands + 20 * c.program.routines.length + 15 * c.syncPoints +
    12 * c.program.groups + 5) / 10

/-- A compilation as a line of text. -/
def summary (c : Compilation) : String :=
  s!"Commands: {c.totalCommands}; Functions: {c.program.routines.length}; " ++
  s!"Sync points: {c.syncPoints}; Duration: ~{c.totalDuration}ms; " ++
  s!"Complexity: {c.complexity}; Errors: {c.errors.length}; Warnings: {c.warnings.length}"

end Compilation

/-- The compilation of a program, with the problems found in reading it. -/
def Program.compiled (callDepth : Nat) (read : List Diagnostic) (p : Program) : Compilation :=
  ⟨p.resolve callDepth, read ++ p.diagnostics, callDepth⟩

/-- Whether the estimates that follow calls fit a 64-bit word: those for the routines and the one
for the whole. -/
def Compilation.fits (c : Compilation) : Bool :=
  c.program.routines.all (·.duration ≤ word64Max) && c.totalDuration ≤ word64Max

/-- The compilation of a source. -/
def compile (callDepth : Nat) (source : String) : Except SourceError Compilation :=
  if sourceLimit < source.utf8ByteSize then .error (.tooLarge source.utf8ByteSize sourceLimit)
  else
    let (tokens, lexical) := tokenize source.toList
    match Program.ofTokens tokens with
    | .error operation => .error (.overflow operation)
    | .ok (program, structural) =>
      let c := program.compiled callDepth (lexical ++ structural)
      if c.fits then .ok c else .error (.overflow .addition)

theorem Compilation.isError_eq_false {c : Compilation} (hok : c.isOk) {d : Diagnostic}
    (hd : d ∈ c.diagnostics) : d.isError = false := by
  have hany : c.diagnostics.any Diagnostic.isError = false := by
    simpa [Compilation.isOk] using hok
  exact Bool.eq_false_iff.2 (List.any_eq_false.1 hany d hd)

end MotionScript
