import Kompositum.Text.Basic

/-!
# The exact value of a double

A finite double is an integer times a power of two, so its decimal texts can be computed without
rounding errors.

* `Double.ofFloat`: sign, integer and power of two of a float.
* `Double.fraction`: the size of a finite double as a fraction.
* `roundDiv`: a quotient rounded to the nearest integer, a half to the even one.
-/

namespace Kompositum.Decimal

/-- A quotient rounded to the nearest integer, a half to the even one. -/
def roundDiv (num den : Nat) : Nat :=
  let q := num / den
  let r := num % den
  if 2 * r > den || 2 * r == den && q % 2 == 1 then q + 1 else q

/-- A double: no number, an infinity, or `± mantissa · 2 ^ exponent`. -/
inductive Double where
  | nan
  | infinite (negative : Bool)
  | finite (negative : Bool) (mantissa : Nat) (exponent : Int)
deriving DecidableEq, Repr

namespace Double

/-- The weight of the bit in front of the fraction, two to the power of 52. -/
def leading : Nat := 0x10000000000000

/-- **Sign, integer and power of two of a float**, from its eleven bits of exponent and
fifty-two bits of fraction. -/
def ofFloat (x : Float) : Double :=
  let bits : Nat := x.toBits.toNat
  let negative := bits / leading / 2048 == 1
  let e : Nat := bits / leading % 2048
  let f : Nat := bits % leading
  if e == 2047 then if f == 0 then .infinite negative else .nan
  else if e == 0 then .finite negative f (-1074)
  else .finite negative (leading + f) (e - 1075)

/-- `mantissa · 2 ^ exponent` as a numerator and a denominator. -/
def fraction (mantissa : Nat) (exponent : Int) : Nat × Nat :=
  if 0 ≤ exponent then (mantissa <<< exponent.toNat, 1) else (mantissa, 1 <<< (-exponent).toNat)

end Double

/-- Ten to the power of `k`. -/
def tens (k : Nat) : Nat := Nat.pow 10 k

/-- The size of `num / den` on the decimal scale: the `k` with `10 ^ k ≤ num / den < 10 ^ (k + 1)`,
for a positive fraction. -/
def magnitude (num den : Nat) : Int :=
  let guess : Int := (Nat.toDigits 10 num).length - (Nat.toDigits 10 den).length
  let reaches : Bool :=
    if 0 ≤ guess then den * tens guess.toNat ≤ num else den ≤ num * tens (-guess).toNat
  if reaches then guess else guess - 1

/-- `num / den` in units of `10 ^ k`, as a fraction. -/
def inUnits (num den : Nat) (k : Int) : Nat × Nat :=
  if 0 ≤ k then (num, den * tens k.toNat) else (num * tens (-k).toNat, den)

/-- An integer in decimal digits, after a minus sign if it is negative. -/
def ofInt (i : Int) : Text := if i < 0 then '-' :: Text.ofNat i.natAbs else Text.ofNat i.natAbs

/-- The sign of a number as text. -/
def sign (negative : Bool) : Text := if negative then ['-'] else []

end Kompositum.Decimal
