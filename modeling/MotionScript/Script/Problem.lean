import MotionScript.Axis

/-!
# Problems in a script

* `Problem`: what can be wrong with a script, with the texts and numbers its message names.
* `Problem.message`, `Problem.severity`: the wording, and whether the script can still be run.
* `Diagnostic`: a problem at a source line, or of the script as a whole.
-/

namespace MotionScript

/-- Whether a script with the problem can be run. -/
inductive Severity where
  /-- The script cannot be run. -/
  | error
  /-- The script can be run, but probably not as intended. -/
  | warning
  deriving DecidableEq

/-- The name of a severity. -/
def Severity.name : Severity → String
  | error => "Error"
  | warning => "Warning"

/-- What can be wrong with a script. -/
inductive Problem where
  /-- A parenthesis is closed that was not opened. -/
  | unexpectedClose
  /-- A parenthesis is left open at the end of the line. -/
  | missingClose (text : String)
  /-- A brace is opened outside a routine. -/
  | strayOpenBrace
  /-- A brace is closed outside a routine. -/
  | strayCloseBrace
  /-- A routine header has no body. -/
  | missingOpenBrace (name : String)
  /-- A routine body does not end. -/
  | missingCloseBrace (name : String)
  /-- A routine is defined inside another. -/
  | nestedRoutine (inner outer : String)
  /-- A routine name departs from the naming convention. -/
  | unconventionalName (name : String)
  /-- A routine has no commands. -/
  | emptyRoutine (name : String)
  /-- A routine is defined again. -/
  | repeatedRoutine (name : String) (firstLine : Nat)
  /-- The value of `SET` is no 8-bit number. -/
  | malformedSignal (text : String)
  /-- `CALL` names nothing. -/
  | missingCallee
  /-- `GROUP` holds something else than axis commands. -/
  | malformedGroup (text : String)
  /-- `SPEED` names no axis. -/
  | unknownSpeedAxis (text : String)
  /-- `SPEED` has too few or too many fields. -/
  | malformedSpeed (text : String)
  /-- The value of `SPEED` is no 32-bit number. -/
  | invalidSpeed (text : String)
  /-- An axis command names no axis. -/
  | unknownAxis (name : String)
  /-- An axis command has a parameter of no known form. -/
  | invalidParameter (text : String) (axis : Axis)
  /-- An axis command has no target. -/
  | missingTarget (axis : Axis)
  /-- A statement has no known form. -/
  | unrecognized (text : String)
  /-- A speed is out of range. -/
  | speedRange (value : Nat)
  /-- The speed override of an axis is out of range. -/
  | axisSpeedRange (axis : Axis) (value : Nat)
  /-- A target position is out of range. -/
  | positionRange (axis : Axis) (position : Int)
  /-- The value of `SET` is neither 0 nor 1. -/
  | signalRange (value : Nat)
  /-- A group moves an axis again. -/
  | repeatedAxis (axis : Axis)
  /-- A group gives an axis several targets. -/
  | furtherTargets (axis : Axis)
  /-- A call names no routine. -/
  | undefinedRoutine (name : String)
  /-- The script coordinates with external signals very often. -/
  | manySyncPoints (count : Nat)
  /-- The script does nothing. -/
  | noCommands
  /-- The expansion has more commands than it may have. -/
  | budgetExceeded
  /-- A call is nested too deeply. -/
  | depthExceeded (limit : Nat) (name : String) (chain : List String)
  deriving DecidableEq

/-- Lowest accepted speed. -/
def speedMin : Nat := 10

/-- Highest accepted speed. -/
def speedMax : Nat := 10000

/-- Lowest expected position. -/
def positionMin : Int := -50000

/-- Highest expected position. -/
def positionMax : Int := 50000

/-- Number of sync points above which a script is considered heavy. -/
def syncPointThreshold : Nat := 20

namespace Problem

/-- Whether a script with the problem can be run. -/
def severity : Problem → Severity
  | unconventionalName _ | emptyRoutine _ | unrecognized _ | positionRange _ _
  | furtherTargets _ | manySyncPoints _ | noCommands | depthExceeded _ _ _ => .warning
  | _ => .error

/-- The wording of a speed out of range. -/
def speedRangeMessage (value : Nat) : String :=
  s!"Speed {value} is out of range [{speedMin}, {speedMax}]"

/-- The wording of a problem. -/
def message : Problem → String
  | unexpectedClose => "Unbalanced parentheses: unexpected ')'"
  | missingClose text => s!"Unbalanced parentheses: missing ')' in '{text}'"
  | strayOpenBrace => "Unexpected '\x7b' outside of a function"
  | strayCloseBrace => "Unexpected '\x7d' outside of a function"
  | missingOpenBrace name => s!"Function '{name}' is missing an opening brace"
  | missingCloseBrace name => s!"Function '{name}' is missing a closing brace"
  | nestedRoutine inner outer =>
    s!"Function '{inner}' cannot be defined inside function '{outer}'"
  | unconventionalName name =>
    s!"Function name '{name}' should be uppercase letters, digits and underscores"
  | emptyRoutine name => s!"Function '{name}' is empty"
  | repeatedRoutine name firstLine =>
    s!"Function '{name}' is defined multiple times (first definition on line {firstLine})"
  | malformedSignal text => s!"Invalid SET value '{text}', expected 0 or 1"
  | missingCallee => "CALL requires a function name"
  | malformedGroup text => s!"GROUP expects axis commands, found '{text}'"
  | unknownSpeedAxis text => s!"Invalid axis '{text}' in SPEED"
  | malformedSpeed text =>
    s!"Malformed SPEED '{text}', expected SPEED;<value> or SPEED;<axis>;<value>"
  | invalidSpeed text => s!"Invalid speed value '{text}'"
  | unknownAxis name => s!"Invalid axis '{name}', expected one of X, Y, Z, T, G"
  | invalidParameter text axis => s!"Invalid parameter '{text}' for axis {axis.name}"
  | missingTarget axis => s!"Axis {axis.name} requires a target position"
  | unrecognized text => s!"Unrecognized command '{text}'"
  | speedRange value => speedRangeMessage value
  | axisSpeedRange axis value => s!"Axis {axis.name}: {speedRangeMessage value}"
  | positionRange axis position =>
    s!"Axis {axis.name} position {position} is outside [{positionMin}, {positionMax}]"
  | signalRange value => s!"Invalid SET value {value}, expected 0 or 1"
  | repeatedAxis axis => s!"Axis {axis.name} appears more than once in GROUP"
  | furtherTargets axis => s!"GROUP moves axis {axis.name} to its first position only"
  | undefinedRoutine name => s!"Function '{name}' is not defined"
  | manySyncPoints count =>
    s!"Script has {count} sync points (more than {syncPointThreshold}), which may slow down " ++
      "execution"
  | noCommands => "Script has no executable top-level commands"
  | budgetExceeded => "Expansion exceeds the command budget, script is truncated"
  | depthExceeded limit name chain =>
    let path := " -> ".intercalate chain
    s!"Maximum call depth of {limit} exceeded while expanding '{name}' ({path}), call skipped"

end Problem

/-- A problem at a source line, or of the script as a whole. -/
structure Diagnostic where
  line? : Option Nat
  problem : Problem
  deriving DecidableEq

namespace Diagnostic

/-- A problem at a source line. -/
def onLine (line : Nat) (problem : Problem) : Diagnostic := ⟨some line, problem⟩

/-- A problem of the script as a whole. -/
def ofScript (problem : Problem) : Diagnostic := ⟨none, problem⟩

/-- A diagnostic as a line of text. -/
def text (d : Diagnostic) : String :=
  match d.line? with
  | some line => s!"Line {line}: {d.problem.message}"
  | none => d.problem.message

/-- The texts of the diagnostics of a severity, in order. -/
def texts (severity : Severity) (l : List Diagnostic) : List String :=
  (l.filter fun d => d.problem.severity = severity).map text

/-- Whether a diagnostic keeps the script from being run. -/
def isError (d : Diagnostic) : Bool := d.problem.severity = .error

end Diagnostic

end MotionScript
