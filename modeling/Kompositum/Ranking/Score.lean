import Kompositum.Candidate.Basic
import Kompositum.Ranking.Frequency

/-!
# Scores

Two ways to tell from corpus frequencies how likely a candidate is. Linking morphemes have no
bearing on either.

* `geometricMean`: the geometric mean of the frequencies of the fragments.
* `mutualInformation`: how much more often neighbouring fragments occur together than chance
  suggests.
-/

namespace Kompositum.Ranking

variable {ε : Type}

/-- A count as a float, rounded to the nearest one. -/
def toFloat (n : Nat) : Float := n.toUInt64.toFloat

/-- The sum of the logarithms of some frequencies, from left to right and on top of `sum`; nothing
if one of them is 0, which ends the summation. -/
def logSum (f : Frequencies ε) (sum : Float) : List Text → Except ε (Option Float)
  | [] => .ok (some sum)
  | w :: ws => do
    let n ← f.freq w
    if n = 0 then return none
    else logSum f (sum + (toFloat n).log) ws

/-- **The geometric mean of the frequencies of the fragments**, 0 if one of them does not occur. -/
def geometricMean (f : Frequencies ε) (c : Candidate) : Except ε Float := do
  match ← logSum f 0 c.words with
  | none => return 0
  | some sum => return (sum / toFloat c.size).exp

/-- The mutual information of two neighbours, nothing unless both and their gram occur. -/
def pairScore (f : Frequencies ε) (total : Float) (v w : Text) : Except ε (Option Float) := do
  let fv ← f.freq v
  let fw ← f.freq w
  let both ← f.freq (v ++ [' '] ++ w)
  if fv = 0 || fw = 0 || both = 0 then return none
  else return some (toFloat both * total / (toFloat fv * toFloat fw)).log

/-- The sum of the mutual information of neighbours and the number of pairs that have any, on top
of `sum` and `pairs`. -/
def pairSum (f : Frequencies ε) (total sum : Float) (pairs : Nat) :
    List Text → Except ε (Float × Nat)
  | v :: w :: ws => do
    match ← pairScore f total v w with
    | none => pairSum f total sum pairs (w :: ws)
    | some s => pairSum f total (sum + s) (pairs + 1) (w :: ws)
  | _ => .ok (sum, pairs)

/-- **The mean mutual information of neighbouring fragments.** The unsplit candidate scores its
share of the entropy of the corpus; without a corpus, or where no pair has any information, the
score is 0. -/
def mutualInformation (f : Frequencies ε) (c : Candidate) : Except ε Float := do
  let n ← f.total
  if n = 0 then return 0
  let total := toFloat n
  match c.words with
  | [w] =>
    let p := toFloat (← f.freq w) / total
    return if 0 < p then -p * p.log else 0
  | ws =>
    let (sum, pairs) ← pairSum f total 0 0 ws
    return if pairs = 0 then 0 else sum / toFloat pairs

end Kompositum.Ranking
