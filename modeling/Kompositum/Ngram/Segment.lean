import Kompositum.Count
import Kompositum.Ngram.Gram
import Kompositum.Record.Field
import Kompositum.Text.Table

/-!
# Segments

A segment holds all grams of one order. Grams stand in ascending order, and every token is posted
with the positions of the grams that it occurs in, so that a query need only look at the grams of
its rarest token.

* `Segment.ofCounts`: the segment of some counts.
* `Segment.freq?`, `Segment.find`: the frequency of a gram, and the grams that contain a query.
-/

namespace Kompositum

/-- All grams of one order. -/
structure Segment where
  order : Nat
  grams : List (Text × Nat)
  /-- The positions of the grams that a token occurs in. -/
  postings : Text.Table (List Nat)
deriving DecidableEq, Repr

namespace Segment

/-- A token posted with one more position, unless that is already the last. -/
def post (id : Nat) (postings : Text.Table (List Nat)) (token : Text) : Text.Table (List Nat) :=
  postings.alter token fun known =>
    let ids := known.getD []
    some (if ids.getLast? = some id then ids else ids ++ [id])

/-- The postings of some grams, the first of which has position `id`. -/
def postingsFrom (id : Nat) (postings : Text.Table (List Nat)) :
    List (Text × Nat) → Text.Table (List Nat)
  | [] => postings
  | (gram, _) :: rest => postingsFrom (id + 1) ((Ngram.pieces gram).foldl (post id) postings) rest

/-- The greatest number of grams that positions can tell apart. -/
def maxGrams : Nat := Record.wordBound - 1

/-- **The segment of some counts.** -/
def ofCounts (order : Nat) (counts : Text.Table Nat) : Segment :=
  ⟨order, counts, postingsFrom 0 [] counts⟩

/-- The number of grams. -/
def size (s : Segment) : Nat := s.grams.length

/-- The number of different tokens. -/
def termCount (s : Segment) : Nat := s.postings.length

/-- The sum of all frequencies. -/
def totalFreq (s : Segment) : Nat := s.grams.foldl (fun n g => Count.add n g.2) 0

/-- The last entry that does not come after a key, by halving; the first entry if all do. -/
def narrow (key : Text) (l : List (Text × Nat)) : Option (Text × Nat) :=
  if _ : l.length ≤ 1 then l.head?
  else
    let half := l.length / 2
    if (l[half]?).any fun e => Text.before key e.1 then narrow key (l.take (l.length - half))
    else narrow key (l.drop half)
termination_by l.length
decreasing_by all_goals simp only [List.length_take, List.length_drop]; omega

/-- **The frequency of a gram**, as it is written in the segment. -/
def freq? (s : Segment) (gram : Text) : Option Nat :=
  match narrow gram s.grams with
  | some (g, n) => if g = gram then some n else none
  | none => none

/-- The shortest list, the first one of these. -/
def shortest : List Nat → List (List Nat) → List Nat
  | l, [] => l
  | l, m :: ms => shortest (if m.length < l.length then m else l) ms

/-- The positions of the grams that a query may be found in: those of its rarest token, none if
some token does not occur. -/
def candidates (s : Segment) (query : List Text) : List Nat :=
  match query.mapM s.postings.get? with
  | some (l :: ls) => shortest l ls
  | _ => []

/-- **The grams that contain the tokens of a query one after the other**, in ascending order. A
query with more tokens than the grams is found nowhere. -/
def find (s : Segment) (query : List Text) : List Gram :=
  if s.order < query.length then []
  else
    (((s.candidates query).filterMap fun id => s.grams[id]?).filter fun (gram, _) =>
      Ngram.containsRun (Ngram.pieces gram) query).map fun (gram, n) => ⟨gram, s.order, n⟩

end Segment

end Kompositum
