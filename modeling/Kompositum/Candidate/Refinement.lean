import Kompositum.Candidate.Basic

/-!
# Finer and coarser candidates

* `Candidate.boundaries`: the positions in the surface at which fragments meet. They ascend
  (`boundaries_ascending`), so that a binary search among them finds just those that are there.
* `Candidate.Refines`: a candidate refines another one of the same word if it keeps every
  boundary and adds at least one.
-/

namespace Kompositum.Candidate

/-- The ends of fragments that begin at a position, but for the last one. -/
def endsFrom (start : Nat) : List Fragment → List Nat
  | [] | [_] => []
  | f :: fs => (start + f.size) :: endsFrom (start + f.size) fs

/-- **The positions in the surface at which fragments meet.** -/
def boundaries (c : Candidate) : List Nat := endsFrom 0 c.fragments

theorem endsFrom_cons (start : Nat) (f : Fragment) {fs : List Fragment} (h : fs ≠ []) :
    endsFrom start (f :: fs) = (start + f.size) :: endsFrom (start + f.size) fs := by
  cases fs with
  | nil => exact absurd rfl h
  | cons g fs => rfl

theorem le_of_mem_endsFrom {start e : Nat} {fs : List Fragment} (he : e ∈ endsFrom start fs) :
    start ≤ e := by
  induction fs generalizing start with
  | nil => cases he
  | cons f fs ih =>
    by_cases hfs : fs = []
    · subst hfs
      cases he
    · rw [endsFrom_cons start f hfs] at he
      rcases List.mem_cons.1 he with rfl | he
      · exact Nat.le_add_right start f.size
      · exact Nat.le_trans (Nat.le_add_right start f.size) (ih he)

theorem endsFrom_ascending (start : Nat) (fs : List Fragment) :
    (endsFrom start fs).Pairwise (· ≤ ·) := by
  induction fs generalizing start with
  | nil => exact .nil
  | cons f fs ih =>
    by_cases hfs : fs = []
    · subst hfs
      exact .nil
    · rw [endsFrom_cons start f hfs, List.pairwise_cons]
      exact ⟨fun e he => le_of_mem_endsFrom he, ih _⟩

/-- **Boundaries ascend.** -/
theorem boundaries_ascending (c : Candidate) : c.boundaries.Pairwise (· ≤ ·) :=
  endsFrom_ascending 0 c.fragments

/-- **A candidate refines another one** if it covers the same text up to case, keeps every
boundary and has more of them. As boundaries ascend, to look for one is to ask for membership. -/
def Refines (c parent : Candidate) : Prop :=
  parent.boundaries.length < c.boundaries.length ∧
    (∀ b ∈ parent.boundaries, b ∈ c.boundaries) ∧
    Text.lower c.surface = Text.lower parent.surface

instance (c parent : Candidate) : Decidable (c.Refines parent) :=
  inferInstanceAs (Decidable (_ ∧ _ ∧ _))

end Kompositum.Candidate
