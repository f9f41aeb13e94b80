/-!
# Hexadecimal digits

* `hexValue?`: the value of a digit; letters may be small or capital.
* `readHex`: the value of a run of digits.
-/

namespace MotionScript

/-- The value of a hexadecimal digit. -/
def hexValue? (c : Char) : Option Nat :=
  if c.isDigit then some (c.toNat - '0'.toNat)
  else if 'a' ≤ c ∧ c ≤ 'f' then some (c.toNat - 'a'.toNat + 10)
  else if 'A' ≤ c ∧ c ≤ 'F' then some (c.toNat - 'A'.toNat + 10)
  else none

/-- The value of a run of digits; any other character counts as a zero. -/
def readHex (s : List Char) : Nat := s.foldl (fun n c => 16 * n + (hexValue? c).getD 0) 0

end MotionScript
