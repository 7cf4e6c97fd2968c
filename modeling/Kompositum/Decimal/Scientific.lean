import Kompositum.Decimal.Fixed

/-!
# Scientific notation

* `scientific`: a number with one digit before the point, so many after it, and the power of ten.
-/

namespace Kompositum.Decimal

/-- **A number with one digit before the point and `places` after it**, the exact value rounded
to so many digits and a half to the even one, followed by the power of ten. -/
def scientific (places : Nat) (x : Float) : Text :=
  match Double.ofFloat x with
  | .nan => "NaN"
  | .infinite negative => sign negative ++ "inf"
  | .finite negative m e =>
    if m = 0 then sign negative ++ pointed places 0 ++ "e0"
    else
      let (num, den) := Double.fraction m e
      let k := magnitude num den
      let (n, d) := inUnits num den (k - places)
      let digits := roundDiv n d
      let (digits, k) := if digits = tens (places + 1) then (tens places, k + 1) else (digits, k)
      sign negative ++ pointed places digits ++ ['e'] ++ ofInt k

end Kompositum.Decimal
