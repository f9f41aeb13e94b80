import MotionScript.Command
import MotionScript.Script.AxisCall

/-!
# Statements

* `Instruction.read`: the instruction of a statement, or everything that is wrong with it.

The forms of a statement are tried in a fixed order, and the first that fits decides: group, speed,
system word, signal, wait, detection, call, moves.
-/

namespace MotionScript

/-- A group with the given text between its parentheses. -/
def readGroup (s : List Char) : Except (List Problem) Instruction :=
  match axisCalls? s with
  | some calls => (readMoves calls).map .group
  | none => .error [.malformedGroup (String.ofList (trim s))]

/-- The speed that a text gives. -/
def readSpeedValue (axis : Option Axis) (s : List Char) : Except (List Problem) Instruction :=
  match readNat word32Max s with
  | some value => .ok (.speed axis value)
  | none => .error [.invalidSpeed (String.ofList s)]

/-- A speed statement: a value, or an axis and a value. -/
def readSpeed (s : List Char) : Except (List Problem) Instruction :=
  match (splitOn ';' s).map trim with
  | [_, value] => readSpeedValue none value
  | [_, axis, value] =>
    match Axis.ofName? axis with
    | some a => readSpeedValue (some a) value
    | none => .error [.unknownSpeedAxis (String.ofList axis)]
  | _ => .error [.malformedSpeed (String.ofList s)]

/-- A signal with the given text between its parentheses. -/
def readSignal (s : List Char) : Except (List Problem) Instruction :=
  match readNat byteMax s with
  | some value => .ok (.sync value)
  | none => .error [.malformedSignal (String.ofList s)]

/-- A call with the given name. -/
def readCall (name : List Char) : Except (List Problem) Instruction :=
  if name.isEmpty then .error [.missingCallee] else .ok (.call (String.ofList name))

/-- Moves of axes one after the other. -/
def readMovement (s : List Char) : Except (List Problem) Instruction :=
  match axisCalls? s with
  | some calls => (readMoves calls).map .movement
  | none => .error [.unrecognized (String.ofList s)]

/-- Whether a statement is the speed keyword alone or with fields. -/
def isSpeedStatement (s : List Char) : Bool :=
  s = speedKeyword || (speedKeyword ++ [';']).isPrefixOf s

/-- The instruction of a statement, or everything that is wrong with it. -/
def Instruction.read (s : List Char) : Except (List Problem) Instruction :=
  match enclosed? groupKeyword s with
  | some inner => readGroup inner
  | none =>
    if isSpeedStatement s then readSpeed s
    else
      match SystemWord.ofText? s with
      | some w => .ok (.system w)
      | none =>
        match named? setKeyword s with
        | some value => readSignal value
        | none =>
          if s = waitWord then .ok .wait
          else if s = detectWord then .ok .detect
          else
            match named? callKeyword s with
            | some name => readCall name
            | none => readMovement s

end MotionScript
