import MotionScript.Decimal.Shortest
import MotionScript.Json.Basic

/-!
# Writing JSON

* `Json.quote`: a string literal. The quotation mark, the backslash and the control characters
  below `U+0020` are escaped, and nothing else.
* `Json.compact`: a value without any blanks.
* `Json.pretty`: a value with one item or member a line, indented by two blanks a level; empty
  arrays and objects stay closed.
-/

namespace MotionScript.Json

/-- A digit below sixteen. -/
def hexDigit (n : Nat) : Char :=
  if n < 10 then Char.ofNat ('0'.toNat + n) else Char.ofNat ('a'.toNat + (n - 10))

/-- The escaped form of a character of a string literal. -/
def escape (c : Char) : String :=
  if c = '"' then "\\\""
  else if c = '\\' then "\\\\"
  else if c = '\n' then "\\n"
  else if c = '\r' then "\\r"
  else if c = '\t' then "\\t"
  else if c = '\x08' then "\\b"
  else if c = '\x0c' then "\\f"
  else if c.toNat < 0x20 then
    "\\u00" ++ String.singleton (hexDigit (c.toNat / 16)) ++
      String.singleton (hexDigit (c.toNat % 16))
  else String.singleton c

/-- `out` followed by the string literal of `s`. -/
def quoteOnto (out s : String) : String :=
  (s.foldl (fun out c => if c = '"' ∨ c = '\\' ∨ c.toNat < 0x20 then out ++ escape c
    else out.push c) (out.push '"')).push '"'

/-- The string literal of `s`. -/
def quote (s : String) : String := quoteOnto "" s

/-- The text of a double; one that is not finite is written as nothing. -/
def floatText (x : Float) : String := (shortestText? x).getD "null"

mutual

/-- `out` followed by the compact text of a value. -/
def compactOnto (out : String) : Json → String
  | .null => out ++ "null"
  | .bool b => out ++ (if b then "true" else "false")
  | .int i => out ++ toString i
  | .float x => out ++ floatText x
  | .str s => quoteOnto out s
  | .arr [] => out ++ "[]"
  | .arr (j :: js) => (compactItems (compactOnto (out.push '[') j) js).push ']'
  | .obj [] => out ++ "\x7b\x7d"
  | .obj (m :: ms) => (compactMembers (compactMember (out.push '\x7b') m) ms).push '\x7d'

/-- `out` followed by further items. -/
def compactItems (out : String) : List Json → String
  | [] => out
  | j :: js => compactItems (compactOnto (out.push ',') j) js

/-- `out` followed by one member. -/
def compactMember (out : String) : String × Json → String
  | (k, j) => compactOnto ((quoteOnto out k).push ':') j

/-- `out` followed by further members. -/
def compactMembers (out : String) : List (String × Json) → String
  | [] => out
  | m :: ms => compactMembers (compactMember (out.push ',') m) ms

end

/-- A value without any blanks. -/
def compact (j : Json) : String := compactOnto "" j

/-- A new line at a level of indentation. -/
def freshLine (level : Nat) (out : String) : String :=
  out ++ "\n" ++ String.ofList (List.replicate (2 * level) ' ')

mutual

/-- `out` followed by the indented text of a value. -/
def prettyOnto (level : Nat) (out : String) : Json → String
  | .arr [] => out ++ "[]"
  | .arr (j :: js) =>
    (freshLine level (prettyItems (level + 1)
      (prettyOnto (level + 1) (freshLine (level + 1) (out.push '[')) j) js)).push ']'
  | .obj [] => out ++ "\x7b\x7d"
  | .obj (m :: ms) =>
    (freshLine level (prettyMembers (level + 1)
      (prettyMember (level + 1) (freshLine (level + 1) (out.push '\x7b')) m) ms)).push '\x7d'
  | .null => out ++ "null"
  | .bool b => out ++ (if b then "true" else "false")
  | .int i => out ++ toString i
  | .float x => out ++ floatText x
  | .str s => quoteOnto out s

/-- `out` followed by further items. -/
def prettyItems (level : Nat) (out : String) : List Json → String
  | [] => out
  | j :: js => prettyItems level (prettyOnto level (freshLine level (out.push ',')) j) js

/-- `out` followed by one member. -/
def prettyMember (level : Nat) (out : String) : String × Json → String
  | (k, j) => prettyOnto level ((quoteOnto out k) ++ ": ") j

/-- `out` followed by further members. -/
def prettyMembers (level : Nat) (out : String) : List (String × Json) → String
  | [] => out
  | m :: ms => prettyMembers level (prettyMember level (freshLine level (out.push ',')) m) ms

end

/-- A value over several lines. -/
def pretty (j : Json) : String := prettyOnto 0 "" j

end MotionScript.Json
