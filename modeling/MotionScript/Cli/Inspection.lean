import MotionScript.Cli.Output
import MotionScript.Json.Command
import MotionScript.Json.Printer
import MotionScript.Script.Expansion

/-!
# Inspecting a script

* `checkScript`: the routines of a script and its estimates, and what is wrong with it.
* `expandScript`: its commands without any calls.

A script with errors makes both fail, after everything is shown.
-/

namespace MotionScript.Cli

/-- The lines of errors and warnings. -/
def diagnosticLines (errors warnings : List String) : List String :=
  errors.map errorLine ++ warnings.map warningLine

/-- The wording of a failure because of errors in a script. -/
def errorCount (errors : List String) : String := s!"Script has {errors.length} error(s)"

/-- The lines of a routine. -/
def routineLines (r : Routine) : List Line :=
  .plain (Colour.purple.paint "function" ++
      s!" {r.name} ({r.commands.length} commands, ~{r.duration}ms)") ::
    if r.calls.isEmpty then [] else [.plain ("         calls " ++ ", ".intercalate r.calls)]

/-- Compile a script and show what is wrong. -/
def checkScript (file source : String) : Output :=
  match compile defaultCallDepth source with
  | .error e => .refused e
  | .ok c =>
    let report := c.program.routines.flatMap routineLines ++
      [.plain (Colour.blue.paintBold file ++ " " ++ c.summary)]
    let found := diagnosticLines c.errors c.warnings
    if c.isOk then .succeeded (report ++ [.plain (Colour.green.paint "Script is valid")]) found
    else .failed report found (errorCount c.errors) none

/-- `s` after blanks up to `width` characters. -/
def padLeft (width : Nat) (s : String) : String :=
  String.ofList (List.replicate (width - s.length) ' ') ++ s

/-- The line of a command at an index, with the routines it was inlined from. -/
def commandLine (index : Nat) (c : Command) : Line :=
  .plain (padLeft 5 (toString (index + 1)) ++ " " ++ c.text ++
    if c.callers.isEmpty then ""
    else " " ++ Colour.purple.paint ("[" ++ " > ".intercalate c.callers ++ "]"))

/-- The lines of a list of commands. -/
def commandLines (json : Bool) (cs : List Command) : List Line :=
  if json then
    ((Json.pretty (.arr (cs.map Command.toJson))).splitOn "\n").map .plain
  else cs.zipIdx.map fun (c, i) => commandLine i c

/-- Show the commands of a script without any calls. -/
def expandScript (json : Bool) (source : String) : Output :=
  match compile defaultCallDepth source with
  | .error e => .refused e
  | .ok c =>
    let e := c.expand
    let report := commandLines json e.commands
    let found := diagnosticLines e.errors e.warnings
    if e.isOk then .succeeded report found
    else .failed report found (errorCount e.errors) none

end MotionScript.Cli
