import Kompositum.Decimal.Double

/-!
# A fixed number of places

* `fixed`: a number with so many digits after the point, the exact value rounded to the nearest
  such number and a half to the even one.
-/

namespace Kompositum.Decimal

/-- Digits with a point before the last `places` of them. -/
def pointed (places n : Nat) : Text :=
  let digits := Text.ofNat n
  let padded := List.replicate (places + 1 - digits.length) '0' ++ digits
  let whole := padded.length - places
  if places = 0 then padded else padded.take whole ++ ['.'] ++ padded.drop whole

/-- **A number with `places` digits after the point.** -/
def fixed (places : Nat) (x : Float) : Text :=
  match Double.ofFloat x with
  | .nan => "NaN"
  | .infinite negative => sign negative ++ "inf"
  | .finite negative m e =>
    let (num, den) := Double.fraction m e
    sign negative ++ pointed places (roundDiv (num * tens places) den)

end Kompositum.Decimal
