/-!
# Sets of code points given by runs

A run is every `step`-th code point from `first` to `last`; a set of code points is a list of
runs in ascending order. Steps of two serve alphabets in which capital and small letters
alternate.

* `Runs.contains`: membership, which stops at the first run that lies above the point.
-/

namespace Kompositum.Character

/-- Every `step`-th code point from `first` to `last`. -/
structure Run where
  first : Nat
  last : Nat
  step : Nat
deriving DecidableEq, Repr

/-- Runs in ascending order, none overlapping the next. -/
abbrev Runs := List Run

/-- The code points of a run. -/
def Run.contains (r : Run) (n : Nat) : Bool :=
  r.first ≤ n && n ≤ r.last && (n - r.first) % r.step == 0

/-- **Membership.** Runs are ascending, so the search ends at the first run above the point. -/
def Runs.contains : Runs → Nat → Bool
  | [], _ => false
  | r :: rest, n =>
    if n < r.first then false
    else if n ≤ r.last then r.contains n
    else contains rest n

end Kompositum.Character
