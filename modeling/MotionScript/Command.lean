import MotionScript.Move

/-!
# Commands

* `Instruction`: what a statement asks for.
* `Command`: an instruction with its source text, source line, estimated duration and the
  routines it was inlined from.
* `Routine`: a named list of commands that a script defines with `FUNC` and runs with `CALL`.
-/

namespace MotionScript

/-- What a statement asks for. -/
inductive Instruction where
  /-- Move axes one after the other. -/
  | movement (moves : List Move)
  /-- Move axes together. -/
  | group (moves : List Move)
  /-- Set the speed of one axis, or of all. -/
  | speed (axis : Option Axis) (value : Nat)
  /-- A command to the machine as a whole. -/
  | system (word : SystemWord)
  /-- Set the synchronization signal. -/
  | sync (value : Nat)
  /-- Run a routine. -/
  | call (name : String)
  /-- Wait for the external signal. -/
  | wait
  /-- Start the detection monitor. -/
  | detect
  deriving DecidableEq

namespace Instruction

/-- The name of the kind of an instruction. -/
def kind : Instruction → String
  | movement _ => "MOVEMENT"
  | group _ => "GROUP"
  | speed _ _ => "SPEED"
  | system _ => "SYSTEM"
  | sync _ => "SYNC"
  | call _ => "CALL"
  | wait => "WAIT"
  | detect => "DETECT"

/-- Whether an instruction coordinates with an external signal. -/
def isSyncPoint : Instruction → Bool
  | sync _ | wait | detect => true
  | _ => false

/-- Whether an instruction moves axes together. -/
def isGroup : Instruction → Bool
  | group _ => true
  | _ => false

/-- The name of the routine an instruction runs. -/
def callee? : Instruction → Option String
  | call name => some name
  | _ => none

/-- The moves of an instruction. -/
def moves : Instruction → List Move
  | movement ms | group ms => ms
  | _ => []

end Instruction

/-- A compiled statement. -/
structure Command where
  instruction : Instruction
  /-- The text of the statement. -/
  raw : String
  /-- The source line, from 1 on. -/
  line : Nat
  /-- Estimated duration in milliseconds, for display and planning. -/
  duration : Nat
  /-- The routines the command was inlined from, outermost first. -/
  callers : List String
  deriving DecidableEq

/-- `s` followed by blanks up to `width` characters. -/
def padRight (width : Nat) (s : String) : String :=
  s ++ String.ofList (List.replicate (width - s.length) ' ')

/-- A command as a line of text: kind, statement and source line. -/
def Command.text (c : Command) : String :=
  padRight 8 c.instruction.kind ++ " " ++ c.raw ++ " (line " ++ toString c.line ++ ")"

/-- A named list of commands. -/
structure Routine where
  name : String
  /-- The body, in order. It may call routines itself. -/
  commands : List Command
  /-- The source line of the definition. -/
  line : Nat
  /-- Estimated duration of the body in milliseconds. -/
  duration : Nat
  deriving DecidableEq

namespace Routine

/-- The names of the routines called in the body, in order. -/
def calls (r : Routine) : List String := r.commands.filterMap (·.instruction.callee?)

/-- A routine as a line of text. -/
def text (r : Routine) : String :=
  "FUNC(" ++ r.name ++ ") " ++ toString r.commands.length ++ " command(s), ~" ++
    toString r.duration ++ "ms (line " ++ toString r.line ++ ")"

/-- The first routine of a table with the given name. -/
def find? (table : List Routine) (name : String) : Option Routine :=
  List.find? (fun r => r.name == name) table

theorem find?_cons (r : Routine) (table : List Routine) (name : String) :
    find? (r :: table) name = if r.name = name then some r else find? table name := by
  by_cases h : r.name = name <;> simp [find?, h]

theorem find?_map {f : Routine → Routine} (hf : ∀ r, (f r).name = r.name) (table : List Routine)
    (name : String) : find? (table.map f) name = (find? table name).map f := by
  induction table with
  | nil => rfl
  | cons r table ih =>
    rw [List.map_cons, find?_cons, find?_cons, hf, ih]
    split <;> rfl

theorem name_of_find? {table : List Routine} {name : String} {r : Routine}
    (h : find? table name = some r) : r.name = name := by
  simpa using List.find?_some h

theorem mem_of_find? {table : List Routine} {name : String} {r : Routine}
    (h : find? table name = some r) : r ∈ table :=
  List.mem_of_find?_eq_some h

end Routine

end MotionScript
