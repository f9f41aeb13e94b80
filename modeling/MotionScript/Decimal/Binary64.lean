/-!
# The exact value of a double

* `Magnitude`: a finite non-negative double, `mantissa · 2 ^ exponent`.
* `Double`: what the 64 bits of a double denote.
* `Double.ofBits`: one sign bit, eleven exponent bits and fifty-two fraction bits are decoded.
* `roundQuotient`: a quotient rounded to a natural number; a half goes to the even neighbour.
* `Magnitude.nearest`: a quotient rounded to a double. It has 53 binary digits, as if there were no
  bound on its exponent.
-/

namespace MotionScript

/-- The number `mantissa · 2 ^ exponent`. -/
structure Magnitude where
  mantissa : Nat
  exponent : Int
  deriving DecidableEq

/-- The meaning of 64 bits read as a double. -/
inductive Double where
  | nan
  | infinite (negative : Bool)
  | finite (negative : Bool) (value : Magnitude)
  deriving DecidableEq

/-- The least number of 53 binary digits. The leading bit of a mantissa that is not subnormal
counts as much; it is not among the bits of a double. -/
def hiddenBit : Nat := 0x10000000000000

/-- Decode the bits of a double. -/
def Double.ofBits (bits : Nat) : Double :=
  let negative := bits / hiddenBit / 2048 % 2 == 1
  let biased : Nat := bits / hiddenBit % 2048
  let fraction : Nat := bits % hiddenBit
  if biased = 2047 then
    if fraction = 0 then .infinite negative else .nan
  else if biased = 0 then .finite negative ⟨fraction, -1074⟩
  else .finite negative ⟨fraction + hiddenBit, (biased : Int) - 1075⟩

/-- The meaning of a double. -/
def Double.ofFloat (x : Float) : Double := .ofBits x.toBits.toNat

/-- The numerator of `x` as a fraction. -/
def Magnitude.num (x : Magnitude) : Nat := x.mantissa * Nat.pow 2 x.exponent.toNat

/-- The denominator of `x` as a fraction. -/
def Magnitude.den (x : Magnitude) : Nat := Nat.pow 2 (-x.exponent).toNat

/-- `a / b` rounded to the nearest natural number, a half to the even one. -/
def roundQuotient (a b : Nat) : Nat :=
  let q := a / b
  let r := a % b
  if 2 * r < b ∨ (2 * r = b ∧ q % 2 = 0) then q else q + 1

/-- The exponent `k` for which `a / b · 2 ^ k` has 53 binary digits before the point. -/
def quotientScale (a b : Nat) : Int :=
  let k : Int := 52 + b.log2 - a.log2
  if a * Nat.pow 2 k.toNat < b * Nat.pow 2 (-k).toNat * hiddenBit then k + 1 else k

/-- The double nearest to `a / b`; of two the one with the even mantissa. -/
def Magnitude.nearest (a b : Nat) : Magnitude :=
  let k := quotientScale a b
  ⟨roundQuotient (a * Nat.pow 2 k.toNat) (b * Nat.pow 2 (-k).toNat), -k⟩

/-- The double nearest to a natural number. -/
def Magnitude.ofNat (n : Nat) : Magnitude := .nearest n 1

/-- The double nearest to the quotient of two. -/
def Magnitude.div (x y : Magnitude) : Magnitude := .nearest (x.num * y.den) (x.den * y.num)

/-- The nearest natural number, halves up. -/
def Magnitude.rounded (x : Magnitude) : Nat := (2 * x.num + x.den) / (2 * x.den)

theorem Magnitude.den_pos (x : Magnitude) : 0 < x.den := Nat.two_pow_pos _

theorem roundQuotient_mul {a b : Nat} (hb : 0 < b) : roundQuotient (a * b) b = a := by
  simp [roundQuotient, Nat.mul_div_cancel a hb, hb]

theorem roundQuotient_within {a b : Nat} (hb : 0 < b) :
    2 * a ≤ (2 * roundQuotient a b + 1) * b ∧ 2 * roundQuotient a b * b ≤ 2 * a + b := by
  have h := Nat.div_add_mod a b
  have hr := Nat.mod_lt a hb
  simp only [roundQuotient]
  generalize a / b = q at *
  generalize a % b = r at *
  subst h
  split
  · constructor <;> grind
  · constructor <;> grind

end MotionScript
