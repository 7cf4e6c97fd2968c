import Kompositum.Decimal.Double

/-!
# The fewest digits that read back

* `shortestDigits`: the fewest decimal digits that read back as the same double, of those the
  ones nearest to its value.
* `shortest?`: these digits as a number, positional for moderate sizes and with a power of ten
  for the others.
-/

namespace Kompositum.Decimal

/-- The numbers that read back as `m · 2 ^ e`, in quarters of `2 ^ e`: the least, the greatest,
and whether these two do. Below a power of two doubles are twice as dense. -/
def readBack (m : Nat) (e : Int) : Nat × Nat × Bool :=
  (if m = Double.leading && e > -1074 then 4 * m - 1 else 4 * m - 2, 4 * m + 2, m % 2 == 0)

/-- The number of `n` digits next to `m · 2 ^ e` that reads back as it, and the power of ten of
its last digit. -/
def withDigits? (m : Nat) (e : Int) (n : Nat) : Option (Nat × Int) :=
  let (num, den) := Double.fraction m e
  let k := magnitude num den - n + 1
  let (low, high, closed) := readBack m e
  let (un, ud) := inUnits 1 1 (-k)
  let (qn, qd) := Double.fraction 1 (e - 2)
  let below (a d : Nat) : Bool :=
    let l := a * qn * ud
    let r := d * un * qd
    if closed then l ≤ r else l < r
  let above (d a : Nat) : Bool :=
    let l := d * un * qd
    let r := a * qn * ud
    if closed then l ≤ r else l < r
  let (vn, vd) := inUnits num den k
  let d := vn / vd
  let near := roundDiv vn vd
  let far := if near = d then d + 1 else d
  let fits (d : Nat) : Bool := below low d && above d high
  if fits near then some (near, k) else if fits far then some (far, k) else none

/-- The fewest digits, at least `n` of them, that read back. -/
def fewestFrom (m : Nat) (e : Int) (n : Nat) : Nat → Nat × Int
  | 0 => let (num, den) := Double.fraction m e
    let k := magnitude num den - 16
    let (vn, vd) := inUnits num den k
    (roundDiv vn vd, k)
  | more + 1 => (withDigits? m e n).getD (fewestFrom m e (n + 1) more)

/-- A number without the zeros at its end, and their count. -/
def withoutZeros (digits : Text) : Text × Nat :=
  let stripped := (digits.reverse.dropWhile (· == '0')).reverse
  (stripped, digits.length - stripped.length)

/-- **The fewest decimal digits that read back as `m · 2 ^ e`**, with the power of ten of the last
one. -/
def shortestDigits (m : Nat) (e : Int) : Text × Int :=
  let (d, k) := fewestFrom m e 1 17
  let (digits, zeros) := withoutZeros (Text.ofNat d)
  (digits, k + zeros)

/-- Which sizes are written positionally: the power of ten above the first digit lies between
`lowest` and `highest`. -/
structure Layout where
  lowest : Int
  highest : Int

/-- Numbers in JSON have a point or a power of ten; the power stands for sizes from 10¹⁶ on and
below 10⁻⁵. -/
def jsonLayout : Layout := ⟨-4, 16⟩

/-- Digits whose last one has the power of ten `k`, laid out as a number. -/
def Layout.write (l : Layout) (digits : Text) (k : Int) : Text :=
  let point := digits.length + k
  if l.lowest ≤ point && point ≤ l.highest then
    if 0 ≤ k then digits ++ List.replicate k.toNat '0' ++ ".0"
    else if 0 < point then digits.take point.toNat ++ ['.'] ++ digits.drop point.toNat
    else "0." ++ List.replicate (-point).toNat '0' ++ digits
  else
    let mantissa := match digits with
      | [] => []
      | [d] => [d]
      | d :: rest => d :: '.' :: rest
    mantissa ++ ['e'] ++ ofInt (point - 1)

/-- **A finite number in the fewest digits that read back**; there is no text for the others. -/
def shortest? (l : Layout) (x : Float) : Option Text :=
  match Double.ofFloat x with
  | .nan | .infinite _ => none
  | .finite negative m e =>
    if m = 0 then some (sign negative ++ "0.0")
    else
      let (digits, k) := shortestDigits m e
      some (sign negative ++ l.write digits k)

end Kompositum.Decimal
