import Kompositum.Character.Runs

/-!
# Characters that map to a character at a fixed distance

* `Shift.derived?`: the image of a code point in the run, none outside it.
* `shifted`: the image under a table, the character itself where the table is silent.
* `unshifted`: all characters that a table sends to a given one.
-/

namespace Kompositum.Character

/-- Code points of a run, each sent to the one `distance` places further. -/
structure Shift where
  run : Run
  distance : Int
deriving DecidableEq, Repr

/-- The image of a code point, if it is in the run. -/
def Shift.derived? (s : Shift) (n : Nat) : Option Nat :=
  if s.run.contains n then some (n + s.distance).toNat else none

/-- The code point that is sent to `n`, if there is one. -/
def Shift.source? (s : Shift) (n : Nat) : Option Nat :=
  let m := (n - s.distance).toNat
  if s.run.contains m && s.derived? m == some n then some m else none

/-- **The image under a table** in ascending order of its runs. -/
def shifted : List Shift → Char → Char
  | [], c => c
  | s :: rest, c =>
    if c.toNat < s.run.first then c
    else match s.derived? c.toNat with
      | some m => Char.ofNat m
      | none => shifted rest c

/-- All characters that a table sends to `c`. -/
def unshifted (table : List Shift) (c : Char) : List Char :=
  table.filterMap fun s => (s.source? c.toNat).map Char.ofNat

end Kompositum.Character
