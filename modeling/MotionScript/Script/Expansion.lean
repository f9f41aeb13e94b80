import MotionScript.Script.Compilation

/-!
# Expansion

* `expandFrom`: the expansion loop. A command is copied, with the chain of routines it stands in; a
  call is replaced by the body of its routine. A call nested too deeply is skipped, with one warning
  for each source line and name. Each command or call met takes one unit of the budget, and the
  expansion ends with an error when something is left to do without budget.
* `Expansion`: the commands without any calls, with the diagnostics of the compilation and then
  those of the expansion.
-/

namespace MotionScript

/-- Greatest number of commands and calls met during an expansion. -/
def expansionBudget : Nat := 100000

/-- What an expansion has yielded so far. -/
structure ExpansionScan where
  /-- The commands, last one first. -/
  commands : List Command
  /-- Source line and name of the calls skipped. -/
  skipped : List (Nat × String)
  /-- The problems, last one first. -/
  diagnostics : List Diagnostic

namespace ExpansionScan

/-- Nothing yet. -/
def start : ExpansionScan := ⟨[], [], []⟩

/-- Add a command in a chain of routines. -/
def emit (st : ExpansionScan) (chain : List String) (c : Command) : ExpansionScan :=
  { st with commands := { c with callers := chain } :: st.commands }

/-- Skip a call that is nested too deeply. -/
def skip (st : ExpansionScan) (limit : Nat) (chain : List String) (line : Nat) (name : String) :
    ExpansionScan :=
  if (line, name) ∈ st.skipped then st
  else { st with
    skipped := (line, name) :: st.skipped
    diagnostics := .onLine line (.depthExceeded limit name chain) :: st.diagnostics }

/-- Give up for lack of budget. -/
def giveUp (st : ExpansionScan) (line : Nat) : ExpansionScan :=
  { st with diagnostics := .onLine line .budgetExceeded :: st.diagnostics }

end ExpansionScan

/-- A command to expand, with the chain of routines it stands in, outermost first. -/
abbrev Pending := List String × Command

/-- Expand the pending commands in order. -/
def expandFrom (table : List Routine) (limit : Nat) :
    (budget : Nat) → List Pending → ExpansionScan → ExpansionScan
  | _, [], st => st
  | 0, (_, c) :: _, st => st.giveUp c.line
  | budget + 1, (chain, c) :: rest, st =>
    match c.instruction.callee? with
    | none => expandFrom table limit budget rest (st.emit chain c)
    | some name =>
      if limit ≤ chain.length then
        expandFrom table limit budget rest (st.skip limit chain c.line name)
      else
        match Routine.find? table name with
        | none => expandFrom table limit budget rest st
        | some r =>
          expandFrom table limit budget (r.commands.map (chain ++ [r.name], ·) ++ rest) st

/-- The commands of a script without any calls. -/
structure Expansion where
  commands : List Command
  /-- Everything found wrong with the script, in the order found. -/
  diagnostics : List Diagnostic

namespace Expansion

/-- The texts of the errors. -/
def errors (e : Expansion) : List String := Diagnostic.texts .error e.diagnostics

/-- The texts of the warnings. -/
def warnings (e : Expansion) : List String := Diagnostic.texts .warning e.diagnostics

/-- Whether nothing keeps the script from being run. -/
def isOk (e : Expansion) : Bool := !e.diagnostics.any Diagnostic.isError

end Expansion

/-- The expansion of a program with a budget and a limit on the nesting of calls. -/
def Program.expand (budget limit : Nat) (p : Program) : ExpansionScan :=
  expandFrom p.routines limit budget (p.commands.map ([], ·)) .start

/-- The expansion of a compilation. -/
def Compilation.expand (c : Compilation) : Expansion :=
  let st := c.program.expand expansionBudget c.callDepth
  ⟨st.commands.reverse, c.diagnostics ++ st.diagnostics.reverse⟩

end MotionScript
