import Kompositum.Candidate.Fragment

/-!
# Candidates

A candidate is one way to read a word as a compound: a list of fragments, never empty, whose
surfaces make up the word.

* `Candidate.surface`: the text that a candidate covers.
* `Candidate.Partitions`: a candidate reads a word if it covers the word up to case.
-/

namespace Kompositum

/-- One way to read a word as a compound. -/
@[ext] structure Candidate where
  fragments : List Fragment
  ne_nil : fragments ≠ []
deriving DecidableEq, Repr

namespace Candidate

/-- The unsplit candidate. -/
def ofWord (word : Text) : Candidate := ⟨[.plain word], List.cons_ne_nil _ _⟩

/-- The candidate with the given fragments; no fragments make the empty unsplit candidate. -/
def ofFragments (fs : List Fragment) : Candidate :=
  if h : fs = [] then ofWord [] else ⟨fs, h⟩

theorem ofFragments_of_ne_nil {fs : List Fragment} (h : fs ≠ []) : ofFragments fs = ⟨fs, h⟩ :=
  dif_neg h

/-- The words of the fragments, without morphemes. -/
def words (c : Candidate) : List Text := c.fragments.map Fragment.word

/-- The number of fragments. -/
def size (c : Candidate) : Nat := c.fragments.length

/-- Whether there is more than one fragment. -/
def isSplit (c : Candidate) : Bool := 1 < c.size

/-- The last fragment. -/
def last (c : Candidate) : Fragment := c.fragments.getLast c.ne_nil

/-- **The text that a candidate covers.** -/
def surface (c : Candidate) : Text := c.fragments.flatMap Fragment.surface

/-- A candidate with other fragments in place of the last one. -/
def replaceLast (c : Candidate) (replacement : List Fragment) : Candidate :=
  ofFragments (c.fragments.dropLast ++ replacement)

/-- A candidate in small letters, every fragment on its own. -/
def lower (c : Candidate) : Candidate :=
  ⟨c.fragments.map Fragment.lower, by simpa using c.ne_nil⟩

/-- **A candidate reads a word** if it covers the word up to case. -/
def Partitions (c : Candidate) (word : Text) : Prop := Text.lower c.surface = Text.lower word

instance (c : Candidate) (word : Text) : Decidable (c.Partitions word) :=
  inferInstanceAs (Decidable (_ = _))

end Candidate

end Kompositum
