import MotionScript.Move
import MotionScript.Script.Keyword
import MotionScript.Script.Problem
import MotionScript.Text.Integer
import MotionScript.Text.Split

/-!
# Axis commands

* `Parameter.read?`: a parameter of an axis command: a target, `d` and a delay, or `s` and a speed.
* `axisCalls?`: a text as a list of axis commands, before their parameters are read.
* `readMove`, `readMoves`: the moves that axis commands ask for, or everything wrong with them.
-/

namespace MotionScript

/-- A parameter of an axis command. -/
inductive Parameter where
  | target (position : Int)
  | delay (milliseconds : Nat)
  | speed (value : Nat)
  deriving DecidableEq

namespace Parameter

/-- The parameter of a text. -/
def read? (s : List Char) : Option Parameter :=
  match readInt64 s with
  | some p => some (target p)
  | none =>
    match s with
    | 'd' :: r => (readNat word64Max r).map delay
    | 's' :: r => (readNat word32Max r).map speed
    | _ => none

/-- The position that a parameter gives. -/
def target? : Parameter → Option Int
  | target p => some p
  | _ => none

/-- The delay that a parameter gives. -/
def delay? : Parameter → Option Nat
  | delay d => some d
  | _ => none

/-- The speed that a parameter gives. -/
def speed? : Parameter → Option Nat
  | speed v => some v
  | _ => none

end Parameter

/-- The parameter texts between commas; blank ones are left out. -/
def parameterTexts (s : List Char) : List (List Char) :=
  ((splitOn ',' s).map trim).filter fun t => !t.isEmpty

/-- The move of an axis with the given parameters, or everything that is wrong with them. -/
def readMove (axis : Axis) (parameters : List Char) : Except (List Problem) Move :=
  let texts := parameterTexts parameters
  let invalid := texts.filter fun t => (Parameter.read? t).isNone
  let values := texts.filterMap Parameter.read?
  let positions := values.filterMap Parameter.target?
  if !invalid.isEmpty then
    .error (invalid.map fun t => .invalidParameter (String.ofList t) axis)
  else if positions.isEmpty then .error [.missingTarget axis]
  else .ok ⟨axis, positions, values.filterMap Parameter.delay?, values.filterMap Parameter.speed?⟩

/-- A character of a name. -/
def isNameChar (c : Char) : Bool := c.isAlphanum || c = '_'

/-- An axis command: a name and the text of its parameters. -/
structure AxisCall where
  name : List Char
  parameters : List Char
  deriving DecidableEq

/-- A text as an axis command. The name begins with a letter. -/
def AxisCall.ofText? (s : List Char) : Option AxisCall :=
  match s with
  | [] => none
  | c :: _ =>
    if c.isAlpha then
      (parenthesized? (s.dropWhile isNameChar)).map (⟨s.takeWhile isNameChar, ·⟩)
    else none

/-- A text as a list of axis commands, separated by the commas outside parentheses. -/
def axisCalls? (s : List Char) : Option (List AxisCall) :=
  ((splitOutside ',' s).map trim).mapM AxisCall.ofText?

/-- The move of an axis command, or everything that is wrong with it. -/
def AxisCall.move (call : AxisCall) : Except (List Problem) Move :=
  match Axis.ofName? call.name with
  | some axis => readMove axis call.parameters
  | none => .error [.unknownAxis (String.ofList call.name)]

/-- The problems of a result. -/
def problemsOf {α : Type} : Except (List Problem) α → List Problem
  | .error ps => ps
  | .ok _ => []

/-- The moves of a list of axis commands, or everything that is wrong with them. -/
def readMoves (calls : List AxisCall) : Except (List Problem) (List Move) :=
  let results := calls.map AxisCall.move
  let problems := results.flatMap problemsOf
  if problems.isEmpty then .ok (results.filterMap Except.toOption) else .error problems

end MotionScript
