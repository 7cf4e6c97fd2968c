import Kompositum.Candidate.Format
import Kompositum.Candidate.Tree
import Kompositum.Lexicon.Dictionary
import Kompositum.Lexicon.Morphemes
import Kompositum.Text.Cluster

/-!
# Splitting from left to right

Every cut of the remainder of a word whose left side is a dictionary word, or such a word and a
linking morpheme, gives a candidate; the right side is then cut in the same way. The tree holds
every reading that comes about so, in depth-first order.

* `Exhaustive.heads`: what can be taken off the beginning of a remainder.
* `Exhaustive.refine`: the search below a candidate.
* `Exhaustive.split`: the tree of all readings of a word.
-/

namespace Kompositum

/-- What splitting from left to right needs to know. -/
structure Exhaustive where
  dictionary : Dictionary
  morphemes : Morphemes
  /-- Shorter words are no constituents. -/
  minWordLength : Nat
  /-- Where words may be cut. -/
  cuts : Text.Cuts := Text.clusters

/-- How far a search has come: the tree, and the texts of the candidates that it has met. -/
structure Search where
  tree : Tree
  seen : List Text
deriving DecidableEq, Repr

namespace Search

/-- The beginning of a search, where only the root has been met. -/
def start (root : Candidate) : Search := ⟨.single root, [root.render]⟩

/-- **A candidate offered to a node.** It becomes a child of the node, and its number is returned,
unless its text has been met before or the tree refuses it. -/
def offer (st : Search) (parent : Nat) (c : Candidate) : Option Nat × Search :=
  if st.seen.contains c.render then (none, st)
  else
    match st.tree.addChild parent c with
    | .ok tree => (some st.tree.size, ⟨tree, c.render :: st.seen⟩)
    | .error _ => (none, { st with seen := c.render :: st.seen })

end Search

namespace Exhaustive

variable (s : Exhaustive)

/-- Whether a text is a constituent. -/
def isWord (t : Text) : Bool := s.minWordLength ≤ t.length && s.dictionary.contains t

/-- The constituents that cover a text: the text itself, then a stem for every morpheme that the
text ends with. -/
def covering (left : Text) : List Fragment :=
  (if s.isWord left then [.plain left] else []) ++
    s.morphemes.toList.filterMap fun m =>
      (Text.stripSuffix? m left).bind fun stem =>
        if !stem.isEmpty && s.isWord stem then some (.linked stem m) else none

/-- **What can be taken off the beginning of a remainder**, with what is left then. -/
def heads (remainder : Text) : List (Fragment × Text) :=
  (s.cuts.positions remainder).flatMap fun i =>
    (s.covering (remainder.take i)).map fun head => (head, remainder.drop i)

/-- What is left is shorter, as cuts lie inside the remainder. -/
theorem length_lt_of_mem_heads {remainder : Text} {h : Fragment × Text}
    (hh : h ∈ s.heads remainder) : h.2.length < remainder.length := by
  simp only [heads, List.mem_flatMap, List.mem_map] at hh
  obtain ⟨i, hi, head, -, rfl⟩ := hh
  have := s.cuts.interior remainder i hi
  rw [List.length_drop]
  omega

/-- A candidate with its last fragment cut into a head and what is left. -/
def cutLast (c : Candidate) (h : Fragment × Text) : Candidate :=
  c.replaceLast [h.1, .plain h.2]

@[simp] theorem fragments_cutLast (c : Candidate) (h : Fragment × Text) :
    (cutLast c h).fragments = c.fragments.dropLast ++ [h.1, .plain h.2] := by
  unfold cutLast Candidate.replaceLast
  rw [Candidate.ofFragments_of_ne_nil (by simp)]

@[simp] theorem last_cutLast (c : Candidate) (h : Fragment × Text) :
    (cutLast c h).last = .plain h.2 := by
  simp [Candidate.last]

/-- **The search below a candidate**, which stands at the node `parent`: every way of cutting its
last fragment is offered to the node, and what is accepted is refined before the next one. -/
def refine (st : Search) (parent : Nat) (c : Candidate) : Search :=
  (s.heads c.last.word).attach.foldl (fun st h =>
    match st.offer parent (cutLast c h.1) with
    | (some child, st) => refine st child (cutLast c h.1)
    | (none, st) => st) st
termination_by c.last.word.length
decreasing_by
  rw [last_cutLast]
  exact s.length_lt_of_mem_heads h.2

/-- **The tree of all readings of a word.** -/
def split (w : Text) : Tree :=
  let root := Candidate.ofWord (s.dictionary.normalize w)
  (s.refine (.start root) 0 root).tree

end Exhaustive

end Kompositum
