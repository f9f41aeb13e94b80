import MotionScript.Json.Basic
import MotionScript.Text.Integer

/-!
# Reading JSON numbers

* `NumberText`: the parts of a number as written.
* `NumberText.scan`: the grammar of numbers: no leading zeros, no sign `+`, and at least one digit
  wherever digits may stand.
* `NumberText.value?`: a whole number that fits a signed or unsigned 64-bit word is exact. All
  others become doubles: as many leading digits as fit 64 bits form a significand, which is scaled
  once by a power of ten. Further whole digits count as powers of ten and further decimals are
  dropped. A number beyond the range of the doubles is refused.
-/

namespace MotionScript.Json

/-- The parts of a number as written. -/
structure NumberText where
  negative : Bool
  /-- Digits before the point. -/
  whole : List Char
  /-- Digits after the point, if there is one. -/
  fraction : Option (List Char)
  /-- Sign and digits of the exponent, if there is one. -/
  exponent : Option (Bool × List Char)

/-- The leading digits of a text, and the rest. -/
def spanDigits (s : List Char) : List Char × List Char :=
  (s.takeWhile Char.isDigit, s.dropWhile Char.isDigit)

/-- A leading minus sign. -/
def scanMinus : List Char → Bool × List Char
  | '-' :: s => (true, s)
  | s => (false, s)

/-- The digits after a point. -/
def scanFraction : List Char → Option (Option (List Char) × List Char)
  | '.' :: s =>
    let (ds, s) := spanDigits s
    if ds.isEmpty then none else some (some ds, s)
  | s => some (none, s)

/-- The sign of an exponent. -/
def scanSign : List Char → Bool × List Char
  | '-' :: s => (true, s)
  | '+' :: s => (false, s)
  | s => (false, s)

/-- An exponent. -/
def scanExponent : List Char → Option (Option (Bool × List Char) × List Char)
  | c :: s =>
    if c = 'e' ∨ c = 'E' then
      let (negative, s) := scanSign s
      let (ds, s) := spanDigits s
      if ds.isEmpty then none else some (some (negative, ds), s)
    else some (none, c :: s)
  | [] => some (none, [])

/-- Whether digits may stand before a point: at least one, and zero only alone. -/
def wholeDigits : List Char → Bool
  | [] => false
  | ['0'] => true
  | '0' :: _ => false
  | _ => true

/-- A number at the start of a text, and the rest. -/
def NumberText.scan (s : List Char) : Option (NumberText × List Char) := do
  let (negative, s) := scanMinus s
  let (whole, s) := spanDigits s
  if !wholeDigits whole then none
  let (fraction, s) ← scanFraction s
  let (exponent, s) ← scanExponent s
  return (⟨negative, whole, fraction, exponent⟩, s)

/-- Take digits into a significand while it fits 64 bits. What is left begins with the first digit
that does not. -/
def significand (n : Nat) : List Char → Nat × List Char
  | [] => (n, [])
  | c :: s =>
    match pushDigit word64Max n c with
    | some m => significand m s
    | none => (n, c :: s)

/-- Divide by a power of ten, in steps that stay within the range of the doubles. -/
def divPow10 (x : Float) (e : Nat) : Float :=
  if e ≤ 308 then x / Float.ofScientific 1 false e
  else if x == 0 then x
  else divPow10 (x / Float.ofScientific 1 false 308) (e - 308)
termination_by e

/-- The double `n · 10 ^ e`, unless it is out of range. -/
def scale10 (n : Nat) (e : Int) : Option Float :=
  let x := n.toUInt64.toFloat
  if e < 0 then some (divPow10 x (-e).toNat)
  else if e.toNat ≤ 308 then
    let y := x * Float.ofScientific 1 false e.toNat
    if y.isInf then none else some y
  else if x == 0 then some x else none

/-- The exponent as written; `none` if it is too large for a signed 32-bit number. -/
def exponentValue (ds : List Char) : Option Nat := readDigits 2147483647 ds

/-- The double a number denotes, without its sign. -/
def NumberText.magnitude? (t : NumberText) : Option Float :=
  let (n, rest) := significand 0 t.whole
  let decimals := t.fraction.getD []
  let (m, dropped) := significand n decimals
  let e : Int := (rest.length : Int) - ((decimals.length - dropped.length : Nat) : Int)
  match t.exponent with
  | none => scale10 m e
  | some (negative, ds) =>
    match exponentValue ds with
    | some k => scale10 m (if negative then e - k else e + k)
    | none => if m ≠ 0 ∧ !negative then none else some 0

/-- The value of a number. -/
def NumberText.value? (t : NumberText) : Option Json :=
  let (n, rest) := significand 0 t.whole
  if t.fraction.isNone ∧ t.exponent.isNone ∧ rest.isEmpty ∧
      (!t.negative ∨ (0 < n ∧ n ≤ int64Max + 1)) then
    some (.int (if t.negative then -(n : Int) else n))
  else t.magnitude?.map fun x => .float (if t.negative then -x else x)

end MotionScript.Json
