import Kompositum.Proofs.Candidate.Refinement
import Kompositum.Proofs.Ranking.Walk

/-!
# What a usable score tells

A score of zero is not usable, and both ways of scoring give zero where the corpus has nothing to
say. So a usable score tells that something occurs.

* `Frequencies.Occurs`: a gram occurs.
* `Frequencies.Linked`: two neighbours occur, each of them and both together.
* `occurs_of_geometricMean`, `linked_of_mutualInformation`: what occurs.
* `RankerKind.Attests`: what a usable score of a split candidate tells of the corpus.
-/

namespace Kompositum

namespace Frequencies

variable {ε : Type}

/-- **A gram occurs** in the corpus. -/
def Occurs (f : Frequencies ε) (gram : Text) : Prop := ∃ n, f.freq gram = .ok n ∧ n ≠ 0

/-- **Two neighbours of a row occur**, each of them and both together. -/
def Linked (f : Frequencies ε) (ws : List Text) : Prop :=
  ∃ v w, [v, w] <:+: ws ∧ f.Occurs v ∧ f.Occurs w ∧ f.Occurs (v ++ [' '] ++ w)

theorem Linked.cons {f : Frequencies ε} {ws : List Text} (h : f.Linked ws) (v : Text) :
    f.Linked (v :: ws) := by
  obtain ⟨x, y, hxy, hoccur⟩ := h
  exact ⟨x, y, List.infix_cons hxy, hoccur⟩

end Frequencies

namespace Ranking

variable {ε : Type} {f : Frequencies ε}

theorem occurs_of_logSum {sum total : Float} {ws : List Text}
    (h : logSum f sum ws = .ok (some total)) : ∀ w ∈ ws, f.Occurs w := by
  induction ws generalizing sum with
  | nil => simp
  | cons v ws ih =>
    obtain ⟨n, hn, hrest⟩ := bind_eq_ok.1 h
    by_cases h0 : n = 0
    · rw [if_pos h0] at hrest
      cases hrest
    · rw [if_neg h0] at hrest
      intro w hw
      rcases List.mem_cons.1 hw with rfl | hw
      · exact ⟨n, hn, h0⟩
      · exact ih hrest w hw

/-- **All fragments occur** where the geometric mean is usable. -/
theorem occurs_of_geometricMean {c : Candidate} {score : Float}
    (h : geometricMean f c = .ok score) (husable : isUsable score = true) :
    ∀ w ∈ c.words, f.Occurs w := by
  obtain ⟨sum, hsum, hscore⟩ := bind_eq_ok.1 h
  cases sum with
  | none =>
    obtain rfl : 0 = score := Except.ok.inj hscore
    rw [isUsable_zero] at husable
    cases husable
  | some total => exact occurs_of_logSum hsum

theorem occurs_of_pairScore {total score : Float} {v w : Text}
    (h : pairScore f total v w = .ok (some score)) :
    f.Occurs v ∧ f.Occurs w ∧ f.Occurs (v ++ [' '] ++ w) := by
  obtain ⟨fv, hv, h⟩ := bind_eq_ok.1 h
  obtain ⟨fw, hw, h⟩ := bind_eq_ok.1 h
  obtain ⟨both, hboth, h⟩ := bind_eq_ok.1 h
  by_cases h0 : (decide (fv = 0) || decide (fw = 0) || decide (both = 0)) = true
  · rw [if_pos h0] at h
    cases h
  · simp only [Bool.or_eq_true, decide_eq_true_eq, not_or] at h0
    exact ⟨⟨fv, hv, h0.1.1⟩, ⟨fw, hw, h0.1.2⟩, ⟨both, hboth, h0.2⟩⟩

/-- A pair that is counted occurs. -/
theorem linked_of_pairSum {total sum last : Float} {pairs count : Nat} {ws : List Text}
    (h : pairSum f total sum pairs ws = .ok (last, count)) (hcount : count ≠ pairs) :
    f.Linked ws := by
  induction ws generalizing sum pairs with
  | nil =>
    obtain ⟨-, rfl⟩ := Prod.mk.inj (Except.ok.inj h)
    exact absurd rfl hcount
  | cons v ws ih =>
    cases ws with
    | nil =>
      obtain ⟨-, rfl⟩ := Prod.mk.inj (Except.ok.inj h)
      exact absurd rfl hcount
    | cons w ws =>
      obtain ⟨score, hscore, hrest⟩ := bind_eq_ok.1 h
      cases score with
      | none => exact (ih hrest hcount).cons v
      | some s =>
        have hpair : [v, w] <:+: v :: w :: ws := ⟨[], ws, rfl⟩
        exact ⟨v, w, hpair, occurs_of_pairScore hscore⟩

/-- **Two neighbours occur**, each of them and both together, where the mutual information of a
split candidate is usable; and the corpus is not empty. -/
theorem linked_of_mutualInformation {c : Candidate} {score : Float}
    (h : mutualInformation f c = .ok score) (husable : isUsable score = true)
    (hsplit : c.isSplit = true) : (∃ n, f.total = .ok n ∧ n ≠ 0) ∧ f.Linked c.words := by
  have hzero : score ≠ 0 := by
    rintro rfl
    rw [isUsable_zero] at husable
    cases husable
  obtain ⟨n, hn, h⟩ := bind_eq_ok.1 h
  by_cases h0 : n = 0
  · rw [if_pos h0] at h
    exact absurd (Except.ok.inj h).symm hzero
  · rw [if_neg h0] at h
    refine ⟨⟨n, hn, h0⟩, ?_⟩
    have hlen : 1 < c.words.length := by
      rw [Candidate.words, List.length_map]
      exact Candidate.isSplit_iff.1 hsplit
    generalize c.words = ws at h hlen
    match ws, hlen, h with
    | v :: w :: ws, _, h =>
      obtain ⟨⟨last, count⟩, hsum, hmean⟩ := bind_eq_ok.1 h
      refine linked_of_pairSum hsum ?_
      rintro rfl
      exact absurd (Except.ok.inj hmean).symm hzero

end Ranking

/-- **What a usable score of a split candidate tells** of the corpus: all fragments occur, or two
neighbours do, and both together, in a corpus that is not empty. -/
def RankerKind.Attests {ε : Type} (kind : RankerKind) (f : Frequencies ε) (c : Candidate) : Prop :=
  match kind with
  | .frequencyGeometricMean => ∀ w ∈ c.words, f.Occurs w
  | .mutualInformation => (∃ n, f.total = .ok n ∧ n ≠ 0) ∧ f.Linked c.words

theorem Ranker.Favours.attests {ε : Type} {kind : RankerKind} {f : Frequencies ε} {c : Candidate}
    (h : (Ranker.ofKind kind f).Favours c) (hsplit : c.isSplit = true) : kind.Attests f c := by
  obtain ⟨score, hscore, husable⟩ := h
  cases kind with
  | frequencyGeometricMean => exact Ranking.occurs_of_geometricMean hscore husable
  | mutualInformation => exact Ranking.linked_of_mutualInformation hscore husable hsplit

end Kompositum
