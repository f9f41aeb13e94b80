import MotionScript.Decimal.Fixed

/-!
# The shortest decimal of a double

* `Magnitude.shortest`: the fewest digits that read back as the same double. On the grid of
  decimals with `n` digits only the two neighbours of the value can do so; the first grid with a
  hit wins, and of two hits the nearer one, a tie going to the even one.
* `layout`: where the point and the exponent stand. Powers of ten from `10 ^ -5` up to `10 ^ 16`
  are written positionally, all others with an exponent.
-/

namespace MotionScript

/-- The decimal `digits · 10 ^ exponent`. -/
structure Decimal where
  digits : Nat
  exponent : Int
  deriving DecidableEq

/-- The number `d` as a fraction with a power of ten and a power of two over each other. -/
def Decimal.num (d : Decimal) : Nat := d.digits * Nat.pow 10 d.exponent.toNat

/-- The denominator of `d`. -/
def Decimal.den (d : Decimal) : Nat := Nat.pow 10 (-d.exponent).toNat

/-- Whether `a / b` is less than `c / d`, or also equal when `closed`. -/
def quotientLE (closed : Bool) (a b c d : Nat) : Bool :=
  a * d < c * b || (closed && a * d == c * b)

/-- Whether reading `d` gives `x`: it lies between the midpoints to the neighbours of `x`. The
midpoints themselves read as the double with the even mantissa. -/
def Magnitude.readsFrom (x : Magnitude) (d : Decimal) : Bool :=
  let even := x.mantissa % 2 == 0
  -- in quarters of the unit in the last place
  let quarter : Magnitude := ⟨1, x.exponent - 2⟩
  let below := if x.mantissa = hiddenBit ∧ x.exponent ≠ -1074 then 1 else 2
  let low := 4 * x.mantissa - below
  let high := 4 * x.mantissa + 2
  quotientLE even (low * quarter.num) quarter.den d.num d.den &&
    quotientLE even d.num d.den (high * quarter.num) quarter.den

/-- The exponent of the leading decimal digit of `x`. -/
def Magnitude.leading (x : Magnitude) : Int :=
  ((toString (x.num * Nat.pow 10 350 / x.den)).length : Int) - 351

/-- The neighbours of `x` among the multiples of `10 ^ e`, the nearer one first. -/
def Magnitude.neighbours (x : Magnitude) (e : Int) : List Decimal :=
  let num := x.num * Nat.pow 10 (-e).toNat
  let den := x.den * Nat.pow 10 e.toNat
  let near := roundQuotient num den
  let far := if near = num / den then near + 1 else num / den
  [⟨near, e⟩, ⟨far, e⟩]

/-- The shortest decimal that reads back as `x`, searched from `n` digits on. -/
def Magnitude.shortestFrom (x : Magnitude) (n : Nat) : Nat → Decimal
  | 0 => ⟨0, 0⟩
  | fuel + 1 =>
    match (x.neighbours (x.leading - n + 1)).find? x.readsFrom with
    | some d => d
    | none => x.shortestFrom (n + 1) fuel

/-- `d` without trailing zeros among its digits, at most `fuel` of them. -/
def Decimal.strip (d : Decimal) : Nat → Decimal
  | 0 => d
  | fuel + 1 =>
    if d.digits ≠ 0 ∧ d.digits % 10 = 0 then Decimal.strip ⟨d.digits / 10, d.exponent + 1⟩ fuel
    else d

/-- The fewest digits that read back as `x`. Seventeen always suffice. -/
def Magnitude.shortest (x : Magnitude) : Decimal := (x.shortestFrom 1 17).strip 17

/-- `n` zeros. -/
def zeros (n : Nat) : String := String.ofList (List.replicate n '0')

/-- The text of a positive decimal. -/
def Decimal.layout (d : Decimal) : String :=
  let digits := toString d.digits
  let count := digits.length
  let point : Int := d.exponent + count
  if 0 ≤ d.exponent ∧ point ≤ 16 then digits ++ zeros d.exponent.toNat ++ ".0"
  else if 0 < point ∧ point ≤ 16 then
    String.ofList (digits.toList.take point.toNat) ++ "." ++
      String.ofList (digits.toList.drop point.toNat)
  else if -5 < point ∧ point ≤ 0 then "0." ++ zeros (-point).toNat ++ digits
  else if count = 1 then digits ++ "e" ++ toString (point - 1)
  else String.ofList (digits.toList.take 1) ++ "." ++ String.ofList (digits.toList.drop 1) ++
    "e" ++ toString (point - 1)

/-- The shortest text of a finite double; there is none for the others. -/
def shortestText? (x : Float) : Option String :=
  match Double.ofFloat x with
  | .finite negative v =>
    some (signText negative ++ if v.mantissa = 0 then "0.0" else v.shortest.layout)
  | _ => none

end MotionScript
