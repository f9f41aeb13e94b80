import MotionScript.Command
import MotionScript.Run.Failure

/-!
# Tasks

* `Step`: one interaction of a run with the world: send a text to the device, hold, or wait for the
  external signal.
* `plan`: the steps of a command. Moves are sent one position after the other, each with its speed
  before it and its delay after it; a group sends the first position of every move and then holds
  for the longest of the first delays. A call has no plan.
* `Task`: a command with its plan.
-/

namespace MotionScript

/-- One interaction of a run with the world. -/
inductive Step where
  /-- Send a text to the device. -/
  | send (text : String)
  /-- Hold for a number of milliseconds. -/
  | delay (milliseconds : Nat)
  /-- Wait for the external signal. -/
  | signal
  deriving DecidableEq

/-- The text that sends an axis to a position. -/
def targetText (axis : Axis) (target : Int) : String := s!"{axis.wire};1;{target}"

/-- The text that sets the speed of an axis. -/
def speedText (axis : Axis) (speed : Nat) : String := s!"SPEED;{axis.name};{speed}"

/-- A hold, unless it is for no time. -/
def hold (milliseconds : Nat) : List Step :=
  if milliseconds = 0 then [] else [.delay milliseconds]

/-- The steps of a leg of a move. -/
def Leg.steps (axis : Axis) (l : Leg) : List Step :=
  (l.speed?.map fun v => .send (speedText axis v)).toList ++
    .send (targetText axis l.target) :: hold (l.delay?.getD 0)

/-- The steps of a move by itself. -/
def Move.steps (m : Move) : List Step := m.legs.flatMap (Leg.steps m.axis)

/-- The step of a move in a group. -/
def Move.groupStep? (m : Move) : Option Step :=
  m.positions.head?.map fun p => .send (targetText m.axis p)

/-- The hold of a group: the longest of the first delays. -/
def groupDelay (ms : List Move) : Nat := ms.foldl (fun d m => max d (m.delays.head?.getD 0)) 0

/-- The steps of a command. -/
def plan (c : Command) : Except Failure (List Step) :=
  match c.instruction with
  | .movement ms => .ok (ms.flatMap Move.steps)
  | .group ms => .ok (ms.filterMap Move.groupStep? ++ hold (groupDelay ms))
  | .speed _ _ | .system _ | .sync _ | .detect => .ok [.send c.raw]
  | .wait => .ok [.signal]
  | .call _ => .error (.unsupported c.instruction.kind)

/-- A command with its plan. -/
structure Task where
  command : Command
  steps : List Step
  planned : plan command = .ok steps

/-- The task of a command. -/
def Task.ofCommand (c : Command) : Except Failure Task :=
  match h : plan c with
  | .ok steps => .ok ⟨c, steps, h⟩
  | .error e => .error e

/-- The tasks of a list of commands, refused at the first that has no plan. -/
def Task.ofCommands (cs : List Command) : Except Failure (List Task) := cs.mapM Task.ofCommand

/-- Whether a task sets the synchronization signal. -/
def Task.isSignal (t : Task) : Bool :=
  match t.command.instruction with
  | .sync _ => true
  | _ => false

end MotionScript
