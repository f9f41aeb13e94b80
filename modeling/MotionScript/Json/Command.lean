import MotionScript.Command
import MotionScript.Json.Basic

/-!
# Commands as JSON

A command is an object with its kind under `type` and what the kind carries under `data`; `data`
is left out where a kind carries nothing, and `call_stack` where the command was not inlined.
-/

namespace MotionScript

/-- A move as JSON. -/
def Move.toJson (m : Move) : Json :=
  .obj [("axis", .str m.axis.name), ("params", .obj [
    ("positions", .arr (m.positions.map .int)),
    ("delays", .arr (m.delays.map .nat)),
    ("speeds", .arr (m.speeds.map .nat))])]

/-- What an instruction carries besides its kind. -/
def Instruction.data? : Instruction → Option Json
  | movement ms | group ms => some (.arr (ms.map Move.toJson))
  | speed axis value =>
    some (.obj [("axis", .opt (fun a => .str a.name) axis), ("value", .nat value)])
  | system w => some (.str w.label)
  | sync value => some (.obj [("value", .nat value)])
  | call name => some (.str name)
  | wait | detect => none

/-- A command as JSON. -/
def Command.toJson (c : Command) : Json :=
  .obj ([("type", .str c.instruction.kind)] ++
    (c.instruction.data?.map fun d => ("data", d)).toList ++
    [("raw", .str c.raw), ("line", .nat c.line), ("estimated_duration", .nat c.duration)] ++
    (if c.callers.isEmpty then [] else [("call_stack", .strs c.callers)]))

/-- A routine as JSON. -/
def Routine.toJson (r : Routine) : Json :=
  .obj [("name", .str r.name), ("commands", .arr (r.commands.map Command.toJson)),
    ("line", .nat r.line), ("estimated_duration", .nat r.duration)]

end MotionScript
