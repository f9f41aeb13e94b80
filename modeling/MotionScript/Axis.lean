/-!
# The axes of the robot

* `Axis`: three linear axes, the turntable and the gripper.
* `Axis.letter`, `Axis.wire`: the name of an axis in a script and towards the controller.
* `SystemWord`: the commands that address the machine as a whole.
-/

namespace MotionScript

/-- An axis of the robot. -/
inductive Axis where
  /-- Horizontal axis. -/
  | x
  /-- Depth axis. -/
  | y
  /-- Vertical axis. -/
  | z
  /-- Turntable. -/
  | t
  /-- Gripper. -/
  | g
  deriving DecidableEq

namespace Axis

/-- The name of an axis in a script, one capital letter. -/
def letter : Axis → Char
  | x => 'X'
  | y => 'Y'
  | z => 'Z'
  | t => 'T'
  | g => 'G'

/-- The name of an axis in a script, as text. -/
def name (a : Axis) : String := String.singleton a.letter

/-- The name of an axis in commands to the controller. -/
def wire : Axis → String
  | x => "x"
  | y => "y"
  | z => "z"
  | t => "t"
  | g => "g"

/-- All axes. -/
def all : List Axis := [x, y, z, t, g]

/-- The axis of a name. Only the exact capital letter names an axis. -/
def ofName? (s : List Char) : Option Axis := all.find? fun a => s == [a.letter]

@[simp] theorem ofName?_letter (a : Axis) : ofName? [a.letter] = some a := by cases a <;> rfl

theorem ofName?_eq_some {s : List Char} {a : Axis} : ofName? s = some a ↔ s = [a.letter] := by
  constructor
  · intro h
    simpa using List.find?_some h
  · rintro rfl
    exact ofName?_letter a

end Axis

/-- A command to the machine as a whole. -/
inductive SystemWord where
  /-- Start the controller program. -/
  | play
  /-- Pause the controller program. -/
  | pause
  /-- Stop the controller program. -/
  | stop
  /-- Put the controller in idle. -/
  | idle
  /-- Home all axes. -/
  | zero
  deriving DecidableEq

namespace SystemWord

/-- The word in a script. -/
def text : SystemWord → String
  | play => "PLAY"
  | pause => "PAUSE"
  | stop => "STOP"
  | idle => "IDLE"
  | zero => "ZERO"

/-- The word in a serialized command. -/
def label : SystemWord → String
  | play => "Play"
  | pause => "Pause"
  | stop => "Stop"
  | idle => "Idle"
  | zero => "Zero"

/-- All system words. -/
def all : List SystemWord := [play, pause, stop, idle, zero]

/-- The system word of a text. -/
def ofText? (s : List Char) : Option SystemWord := all.find? fun w => s == w.text.toList

theorem ofText?_eq_some {s : List Char} {w : SystemWord} :
    ofText? s = some w ↔ s = w.text.toList := by
  constructor
  · intro h
    simpa using List.find?_some h
  · rintro rfl
    cases w <;> decide

end SystemWord

end MotionScript
