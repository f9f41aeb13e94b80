/-!
# Machine words

* The largest numbers of the words that numbers are kept in.
* `Overflow`: an operation on words whose result is not one. `mulWord` and `subInt64` may be such.
-/

namespace MotionScript

/-- Largest 8-bit number. -/
def byteMax : Nat := 255

/-- Largest unsigned 32-bit number. -/
def word32Max : Nat := 4294967295

/-- Largest unsigned 64-bit number. -/
def word64Max : Nat := 18446744073709551615

/-- Largest signed 64-bit number. -/
def int64Max : Nat := 9223372036854775807

/-- An operation on words whose result is not one. -/
inductive Overflow where
  | addition
  | subtraction
  | multiplication
  deriving DecidableEq

/-- The wording of an overflow. -/
def Overflow.message : Overflow → String
  | addition => "attempt to add with overflow"
  | subtraction => "attempt to subtract with overflow"
  | multiplication => "attempt to multiply with overflow"

/-- A product in a 64-bit word. -/
def mulWord (a b : Nat) : Except Overflow Nat :=
  if word64Max < a * b then .error .multiplication else .ok (a * b)

/-- A difference in a signed 64-bit word. -/
def subInt64 (a b : Int) : Except Overflow Int :=
  if a - b < -(int64Max + 1) ∨ int64Max < a - b then .error .subtraction else .ok (a - b)

end MotionScript
