import MotionScript.Json.Command
import MotionScript.Script.Compilation

/-!
# Compilations as JSON
-/

namespace MotionScript

/-- The members of a compilation, with the commands outside routines given. -/
def Compilation.members (c : Compilation) (commands : List Command) : List (String × Json) :=
  [("commands", .arr (commands.map Command.toJson)),
    ("functions", .arr (c.program.routines.map Routine.toJson)),
    ("total_commands", .nat c.totalCommands),
    ("total_duration", .nat c.totalDuration),
    ("sync_points", .nat c.syncPoints),
    ("complexity_score", .nat c.complexity),
    ("errors", .strs c.errors),
    ("warnings", .strs c.warnings)]

end MotionScript
