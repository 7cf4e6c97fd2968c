import Kompositum.Candidate.Tree

/-!
# Refinement is a strict order

A finer candidate has more fragments, so that nothing refines itself, and what refines a finer
candidate refines the coarser one too. Every split reading of a word refines the unsplit word.

* `Refines.trans`, `Refines.irrefl`, `Refines.size_lt`: the order.
* `refines_ofWord_iff`: what refines an unsplit word.
* `Tree.UnderRoot`: the trees in which everything refines the root.
-/

namespace Kompositum

namespace Candidate

variable {b c d : Candidate}

@[simp] theorem surface_ofWord (w : Text) : (ofWord w).surface = w := by simp [surface, ofWord]

theorem length_endsFrom (start : Nat) {fs : List Fragment} (h : fs ≠ []) :
    (endsFrom start fs).length + 1 = fs.length := by
  induction fs generalizing start with
  | nil => exact absurd rfl h
  | cons f fs ih =>
    cases fs with
    | nil => rfl
    | cons g fs =>
      have hrest := ih (start + f.size) (List.cons_ne_nil g fs)
      rw [endsFrom_cons start f (List.cons_ne_nil g fs), List.length_cons, hrest,
        List.length_cons (a := f)]

/-- There is a boundary between any two fragments. -/
theorem length_boundaries (c : Candidate) : c.boundaries.length + 1 = c.size :=
  length_endsFrom 0 c.ne_nil

theorem Refines.size_lt (h : c.Refines d) : d.size < c.size := by
  have hc := length_boundaries c
  have hd := length_boundaries d
  have := h.1
  omega

theorem Refines.irrefl (c : Candidate) : ¬c.Refines c := fun h => Nat.lt_irrefl _ h.1

theorem Refines.trans (hbc : b.Refines c) (hcd : c.Refines d) : b.Refines d :=
  ⟨Nat.lt_trans hcd.1 hbc.1, fun x hx => hbc.2.1 x (hcd.2.1 x hx), hbc.2.2.trans hcd.2.2⟩

theorem isSplit_iff : c.isSplit = true ↔ 1 < c.size := by simp [isSplit]

/-- **What refines an unsplit word** are the split candidates that spell it. -/
theorem refines_ofWord_iff {w : Text} :
    c.Refines (ofWord w) ↔ c.isSplit = true ∧ c.Partitions w := by
  have hnone : (ofWord w).boundaries = [] := rfl
  have hlen := length_boundaries c
  rw [isSplit_iff]
  unfold Refines Partitions
  rw [surface_ofWord, hnone, List.length_nil]
  constructor
  · rintro ⟨hlt, -, hl⟩
    exact ⟨by omega, hl⟩
  · rintro ⟨hlt, hl⟩
    exact ⟨by omega, by simp, hl⟩

end Candidate

/-- **Everything refines the root** of a tree. -/
def Tree.UnderRoot (t : Tree) : Prop := ∀ c ∈ t.below.candidates, c.Refines t.root

end Kompositum
