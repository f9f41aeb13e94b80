import MotionScript.Decimal.Binary64

/-!
# Fixed decimal places

* `fixedPlaces`: a double with a given number of decimal places. The exact binary value is rounded
  once, a half to the even neighbour, and the sign of a negative zero is kept.
-/

namespace MotionScript

/-- `s` padded on the left with zeros to `width` characters. -/
def padZeros (width : Nat) (s : String) : String :=
  String.ofList (List.replicate (width - s.length) '0') ++ s

/-- The rounded number of units of `10 ^ -places` in `x`. -/
def Magnitude.scaled (places : Nat) (x : Magnitude) : Nat :=
  roundQuotient (x.num * Nat.pow 10 places) x.den

/-- A number of units of `10 ^ -places` as text. -/
def unitsText (places units : Nat) : String :=
  if places = 0 then toString units
  else toString (units / Nat.pow 10 places) ++ "." ++
    padZeros places (toString (units % Nat.pow 10 places))

/-- The sign of a number as text. -/
def signText (negative : Bool) : String := if negative then "-" else ""

/-- `x` with `places` decimal places. -/
def fixedPlaces (places : Nat) (x : Float) : String :=
  match Double.ofFloat x with
  | .nan => "NaN"
  | .infinite negative => signText negative ++ "inf"
  | .finite negative v => signText negative ++ unitsText places (v.scaled places)

end MotionScript
