import MotionScript.Word

/-!
# Decimal integers

An integer is written as decimal digits, with an optional `+`, and with an optional `-` where it
is signed. It is refused when it exceeds the range of the word it is kept in, however many
leading zeros it has.

* `readDigits`: a run of digits with a value up to a bound.
* `readNat`, `readInt64`: the unsigned numbers up to a bound, and the signed 64-bit numbers.
-/

namespace MotionScript

/-- The value of a decimal digit. -/
def digitValue (c : Char) : Nat := c.toNat - '0'.toNat

/-- Append the digit `c` to the number `n`, unless it is no digit or the result exceeds `max`. -/
def pushDigit (max n : Nat) (c : Char) : Option Nat :=
  if c.isDigit ∧ 10 * n + digitValue c ≤ max then some (10 * n + digitValue c) else none

/-- The value of a non-empty run of digits, at most `max`. -/
def readDigits (max : Nat) : List Char → Option Nat
  | [] => none
  | c :: s => (c :: s).foldlM (pushDigit max) 0

/-- An unsigned number of at most `max`, with an optional `+`. -/
def readNat (max : Nat) : List Char → Option Nat
  | '+' :: s => readDigits max s
  | s => readDigits max s

/-- A signed 64-bit number, with an optional sign. -/
def readInt64 : List Char → Option Int
  | '-' :: s => (readDigits (int64Max + 1) s).map fun n => -(n : Int)
  | '+' :: s => (readDigits int64Max s).map Int.ofNat
  | s => (readDigits int64Max s).map Int.ofNat

end MotionScript
