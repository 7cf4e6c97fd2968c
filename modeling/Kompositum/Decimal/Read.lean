import Kompositum.Count
import Kompositum.Text.Blank

/-!
# Reading numbers

* `readFloat?`: the double nearest to a decimal number, with or without a point and a power of
  ten; infinities and the value that is no number have names.
* `scaled?`: the double for an integer and a power of ten, by one multiplication or division.
-/

namespace Kompositum.Decimal

/-- Leading digits and what follows them. -/
def spanDigits (t : Text) : Text × Text := t.span fun c => (Count.digit? c).isSome

/-- The power of ten after the mark `e`, which stands at the end of a number or not at all. -/
def readPower? : Text → Option Int
  | [] => some 0
  | c :: t =>
    if c == 'e' || c == 'E' then
      match t with
      | '-' :: d => (Count.ofDigits? d).map fun n => -(n : Int)
      | '+' :: d => (Count.ofDigits? d).map fun n => (n : Int)
      | d => (Count.ofDigits? d).map fun n => (n : Int)
    else none

/-- The double nearest to `digits · 10 ^ power`. Sizes beyond the range of doubles need not be
computed: they are infinite or zero. -/
def nearest (digits : Nat) (power : Int) : Float :=
  let size : Int := (Nat.toDigits 10 digits).length + power
  if digits = 0 || size < -400 then 0
  else if size > 400 then 1 / 0
  else if 0 ≤ power then Float.ofScientific digits false power.toNat
  else Float.ofScientific digits true (-power).toNat

/-- The size of a number, without its sign. -/
def readSize? (t : Text) : Option Float :=
  let name := t.map Char.toLower
  if name = "inf".toList || name = "infinity".toList then some (1 / 0)
  else if name = "nan".toList then some (0 / 0)
  else
    let (whole, rest) := spanDigits t
    let (part, rest) := match rest with
      | '.' :: r => spanDigits r
      | r => ([], r)
    if whole.isEmpty && part.isEmpty then none
    else do
      let power ← readPower? rest
      let digits ← Count.continued? 0 (whole ++ part)
      return nearest digits (power - part.length)

/-- **The double nearest to a decimal number.** -/
def readFloat? : Text → Option Float
  | '-' :: t => (readSize? t).map fun x => -x
  | '+' :: t => readSize? t
  | t => readSize? t

/-- A power of ten that a double can hold. -/
def tenTo (n : Nat) : Float := Float.ofScientific 1 false n

/-- **An integer scaled by a power of ten**, rounded once when it becomes a double and once when
it is scaled. Powers beyond the range are divided out in steps; a product beyond it has no
value. -/
def scaled? (x : Float) (power : Int) : Option Float :=
  if 0 ≤ power then
    if x == 0 then some x
    else if power ≤ 308 then
      let y := x * tenTo power.toNat
      if y.isFinite then some y else none
    else none
  else
    let n := (-power).toNat
    if n ≤ 308 then some (x / tenTo n)
    else if x == 0 then some x
    else
      let y := x / tenTo 308
      if n - 308 ≤ 308 then some (y / tenTo (n - 308))
      else some 0

end Kompositum.Decimal
