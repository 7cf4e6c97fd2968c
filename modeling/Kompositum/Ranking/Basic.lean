import Kompositum.Candidate.Tree
import Kompositum.Ranking.Score

/-!
# Ranking candidates

A ranker scores single candidates; higher is better, and only finite positive scores count.

* `Ranker.rank`: candidates in descending order of their scores.
* `Ranker.bestInTree`: the candidate at which a walk down a tree ends.
-/

namespace Kompositum

/-- A way of scoring candidates, which may fail with an `ε`. -/
structure Ranker (ε : Type) where
  name : Text
  score : Candidate → Except ε Float

/-- A candidate and its score. -/
structure Ranked where
  candidate : Candidate
  score : Float

namespace Ranking

/-- Whether a score counts: it is finite and positive. -/
def isUsable (score : Float) : Bool := score.isFinite && 0 < score

variable {α : Type}

/-- What has a usable score, in descending order of the scores and otherwise as given. If nothing
has one, the first is left. -/
def order (scored : List (α × Float)) : List (α × Float) :=
  match scored.filter fun x => isUsable x.2 with
  | [] => scored.take 1
  | usable => usable.mergeSort fun x y => !decide (x.2 < y.2)

end Ranking

namespace Forest

/-- The candidates of the topmost nodes. -/
def values : Forest → List Candidate
  | nil => []
  | node _ c _ next => c :: next.values

/-- The topmost node at a position: its candidate and what is below it. -/
def root? : Nat → Forest → Option (Candidate × Forest)
  | _, nil => none
  | 0, node _ c below _ => some (c, below)
  | i + 1, node _ _ _ next => next.root? i

/-- What is below a topmost node is smaller than the forest. -/
theorem size_lt_of_root? {i : Nat} {f below : Forest} {c : Candidate}
    (h : f.root? i = some (c, below)) : below.size < f.size := by
  induction f generalizing i with
  | nil => simp [root?] at h
  | node id d b next _ ih =>
    cases i with
    | zero => simp only [root?, Option.some.injEq, Prod.mk.injEq] at h; simp [size, ← h.2]; omega
    | succ i => have := ih (i := i) h; simp only [size]; omega

end Forest

namespace Ranker

variable {ε : Type} (r : Ranker ε)

/-- Candidates with their scores; the first failure ends the scoring. -/
def scores (cs : List Candidate) : Except ε (List (Candidate × Float)) :=
  cs.mapM fun c => return (c, ← r.score c)

/-- **Candidates in descending order of their scores**, those without a usable score left out. If
none has one, the first candidate is left. -/
def rank (cs : List Candidate) : Except ε (List Ranked) := do
  return (Ranking.order (← r.scores cs)).map fun (c, s) => ⟨c, s⟩

/-- The first of the ranked candidates. -/
def best? (cs : List Candidate) : Except ε (Option Candidate) := do
  return (← r.rank cs).head?.map Ranked.candidate

/-- The position of the first of the ranked candidates. -/
def winner? (cs : List Candidate) : Except ε (Option Nat) := do
  let scored ← r.scores cs
  return (Ranking.order (scored.zipIdx.map fun (x, i) => (i, x.2))).head?.map Prod.fst

/-- Where the walk ends that has come to a candidate. It stays if the candidate is ranked first
among itself and its children, and goes to the child that is otherwise. -/
def walk (c : Candidate) (below : Forest) : Except ε Candidate :=
  match below.values with
  | [] => .ok c
  | children => do
    match ← r.winner? (c :: children) with
    | some (i + 1) =>
      match h : below.root? i with
      | some (d, deeper) =>
        have := Forest.size_lt_of_root? h
        walk d deeper
      | none => return c
    | _ => return c
termination_by below.size
decreasing_by assumption

/-- **The candidate at which a walk down a tree ends.** -/
def bestInTree (t : Tree) : Except ε Candidate := r.walk t.root t.below

end Ranker

/-- The ways of scoring candidates by corpus frequencies. -/
inductive RankerKind where
  | frequencyGeometricMean | mutualInformation
deriving DecidableEq, Repr

/-- The name of a way of scoring. -/
def RankerKind.name : RankerKind → Text
  | frequencyGeometricMean => "frequency_geometric_mean"
  | mutualInformation => "mutual_information"

/-- The ranker of a kind over some frequencies. -/
def Ranker.ofKind {ε : Type} (k : RankerKind) (f : Frequencies ε) : Ranker ε :=
  match k with
  | .frequencyGeometricMean => ⟨k.name, Ranking.geometricMean f⟩
  | .mutualInformation => ⟨k.name, Ranking.mutualInformation f⟩

end Kompositum
