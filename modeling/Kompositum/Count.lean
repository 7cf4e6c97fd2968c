import Kompositum.Text.Basic

/-!
# Counts

Frequencies and totals are natural numbers below 2⁶⁴; sums stay at the largest count once they
reach it.

* `Count.add`: the sum of two counts, cut off at `Count.largest`.
* `Count.mul?`: the product of two counts, with the overflow that a program may meet.
* `Count.ofText?`: a count written in decimal digits.
-/

namespace Kompositum.Count

/-- The largest count. -/
def largest : Nat := 0xFFFFFFFFFFFFFFFF

/-- **The sum of two counts**, the largest count if the sum exceeds it. -/
def add (a b : Nat) : Nat := min (a + b) largest

/-- What becomes of a product above the largest count: it stops a program that checks for it, and
any other program goes on with the remainder. -/
inductive Overflow where
  | checked | wrapping
deriving DecidableEq, Repr

/-- **The product of two counts**, none if it stops the program. -/
def mul? (o : Overflow) (a b : Nat) : Option Nat :=
  if a * b ≤ largest then some (a * b)
  else match o with
    | .checked => none
    | .wrapping => some (a * b % (largest + 1))

/-- The value of an ASCII digit. -/
def digit? (c : Char) : Option Nat := if '0' ≤ c && c ≤ '9' then some (c.toNat - 48) else none

/-- The value of a row of decimal digits that continues the number `n`. -/
def continued? (n : Nat) : Text → Option Nat
  | [] => some n
  | c :: t => (digit? c).bind fun d => continued? (n * 10 + d) t

/-- The value of at least one decimal digit. -/
def ofDigits? : Text → Option Nat
  | [] => none
  | t => continued? 0 t

/-- **A count written in decimal digits**, which a plus sign may lead. -/
def ofText? (t : Text) : Option Nat :=
  (ofDigits? ((Text.stripPrefix? ['+'] t).getD t)).filter (· ≤ largest)

end Kompositum.Count
