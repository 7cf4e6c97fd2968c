import Kompositum.Proofs.Outcome
import Kompositum.Ranking.Basic

/-!
# What ranking selects

Ranking leaves out what has no usable score, unless nothing has one and the first candidate is left.
A walk down a tree therefore leaves the root for candidates with usable scores only.

* `Ranker.Favours`: a candidate has a usable score.
* `Ranker.mem_of_rank`: the ranked candidates.
* `Ranker.walk_eq_or_favours`: where a walk ends.
-/

namespace Kompositum

namespace Ranking

variable {α : Type}

/-- Zero does not count as a score. -/
theorem isUsable_zero : isUsable 0 = false := by
  have hlt : ¬(0 : Float) < 0 := by decide
  unfold isUsable
  rw [decide_eq_false hlt, Bool.and_false]

/-- What is left in order has a usable score, or is the first of all. -/
theorem mem_order {scored : List (α × Float)} {x : α × Float} (h : x ∈ order scored) :
    x ∈ scored ∧ (isUsable x.2 = true ∨ scored.head? = some x) := by
  unfold order at h
  split at h
  case h_1 =>
    refine ⟨List.mem_of_mem_take h, .inr ?_⟩
    cases scored with
    | nil => simp at h
    | cons y ys =>
      rw [List.take_succ_cons, List.take_zero, List.mem_singleton] at h
      rw [h, List.head?_cons]
  case h_2 usable _ =>
    rw [List.mem_mergeSort, List.mem_filter] at h
    exact ⟨h.1, .inl h.2⟩

end Ranking

namespace Forest

/-- A candidate on top of a forest stands at its position with what is below it. -/
theorem root?_of_getElem?_values {i : Nat} {f : Forest} {c : Candidate}
    (h : f.values[i]? = some c) : ∃ below, f.root? i = some (c, below) := by
  induction f generalizing i with
  | nil => simp [values] at h
  | node id d b n _ ihn =>
    cases i with
    | zero =>
      obtain rfl : d = c := by simpa [values] using h
      exact ⟨b, rfl⟩
    | succ i => exact ihn (by simpa [values] using h)

theorem root?_subset {i : Nat} {f below : Forest} {c : Candidate}
    (h : f.root? i = some (c, below)) : c :: below.candidates ⊆ f.candidates := by
  induction f generalizing i with
  | nil => simp [root?] at h
  | node id d b n _ ihn =>
    intro x hx
    rw [candidates, List.mem_cons, List.mem_append]
    cases i with
    | zero =>
      obtain ⟨rfl, rfl⟩ : d = c ∧ b = below := by simpa [root?] using h
      rcases List.mem_cons.1 hx with rfl | hx
      · exact .inl rfl
      · exact .inr (.inl hx)
    | succ i => exact .inr (.inr (ihn h hx))

end Forest

namespace Ranker

variable {ε : Type} {r : Ranker ε}

/-- **A candidate has a usable score.** -/
def Favours (r : Ranker ε) (c : Candidate) : Prop :=
  ∃ score, r.score c = .ok score ∧ Ranking.isUsable score = true

/-- Scores stand at the positions of their candidates. -/
theorem getElem?_of_scores {cs : List Candidate} {xs : List (Candidate × Float)}
    (h : r.scores cs = .ok xs) {i : Nat} {x : Candidate × Float} (hx : xs[i]? = some x) :
    cs[i]? = some x.1 ∧ r.score x.1 = .ok x.2 := by
  have hmap := mapM_eq_ok_iff.1 h
  have hi := congrArg (·[i]?) hmap
  simp only [List.getElem?_map, hx, Option.map_some, Option.map_eq_some_iff] at hi
  obtain ⟨c, hc, hscore⟩ := hi
  obtain ⟨score, hs, hpair⟩ := bind_eq_ok.1 hscore
  obtain rfl : (c, score) = x := Except.ok.inj hpair
  exact ⟨hc, hs⟩

/-- **The ranked candidates** are among the given ones, and each has a usable score or is the first
of all. -/
theorem mem_of_rank {cs : List Candidate} {rs : List Ranked} (h : r.rank cs = .ok rs) {x : Ranked}
    (hx : x ∈ rs) : x.candidate ∈ cs ∧ (r.Favours x.candidate ∨ cs.head? = some x.candidate) := by
  obtain ⟨xs, hxs, hrs⟩ := bind_eq_ok.1 h
  obtain rfl := Except.ok.inj hrs
  obtain ⟨y, hy, rfl⟩ := List.mem_map.1 hx
  obtain ⟨hmem, husable⟩ := Ranking.mem_order hy
  obtain ⟨i, hi⟩ := List.getElem?_of_mem hmem
  obtain ⟨hc, hscore⟩ := getElem?_of_scores hxs hi
  refine ⟨List.mem_of_getElem? hc, husable.imp (fun hu => ⟨y.2, hscore, hu⟩) fun hhead => ?_⟩
  rw [List.head?_eq_getElem?] at hhead ⊢
  exact (getElem?_of_scores hxs hhead).1

/-- A winner that is not the first candidate has a usable score. -/
theorem favours_of_winner? {cs : List Candidate} {i : Nat}
    (h : r.winner? cs = .ok (some (i + 1))) : ∃ c, cs[i + 1]? = some c ∧ r.Favours c := by
  obtain ⟨xs, hxs, hwinner⟩ := bind_eq_ok.1 h
  obtain ⟨y, hy, hi⟩ := Option.map_eq_some_iff.1 (Except.ok.inj hwinner)
  obtain ⟨hmem, husable⟩ := Ranking.mem_order (List.mem_of_head? hy)
  obtain ⟨⟨x, j⟩, hxj, rfl⟩ := List.mem_map.1 hmem
  obtain rfl : j = i + 1 := hi
  obtain ⟨hc, hscore⟩ := getElem?_of_scores hxs (List.mem_zipIdx_iff_getElem?.1 hxj)
  refine ⟨x.1, hc, x.2, hscore, husable.resolve_right fun hhead => ?_⟩
  -- the first position is not a later one
  rw [List.head?_map, List.head?_eq_getElem?, List.getElem?_zipIdx] at hhead
  cases hx0 : xs[0]? with
  | none => simp [hx0] at hhead
  | some x0 => simp [hx0] at hhead

/-- **A walk ends** where it began, or at a candidate further down that has a usable score. -/
theorem walk_eq_or_favours {c d : Candidate} {below : Forest} (h : r.walk c below = .ok d) :
    d = c ∨ d ∈ below.candidates ∧ r.Favours d := by
  induction hn : below.size using Nat.strongRecOn generalizing c below with
  | ind n ih =>
    rw [walk] at h
    split at h
    case h_1 => exact .inl (Except.ok.inj h).symm
    case h_2 =>
      obtain ⟨winner, hwinner, h⟩ := bind_eq_ok.1 h
      split at h
      case h_2 => exact .inl (Except.ok.inj h).symm
      case h_1 i =>
        obtain ⟨e, he, hfavours⟩ := favours_of_winner? hwinner
        obtain ⟨deeper, hroot⟩ := Forest.root?_of_getElem?_values (List.getElem?_cons_succ ▸ he)
        have hsub := Forest.root?_subset hroot
        have hlt := Forest.size_lt_of_root? hroot
        split at h
        case h_2 hnone => rw [hroot] at hnone; cases hnone
        case h_1 e' deeper' hsome =>
          obtain ⟨rfl, rfl⟩ : e = e' ∧ deeper = deeper' := by simpa [hroot] using hsome
          right
          rcases ih _ (hn ▸ hlt) h rfl with rfl | ⟨hd, hfav⟩
          · exact ⟨hsub List.mem_cons_self, hfavours⟩
          · exact ⟨hsub (List.mem_cons_of_mem _ hd), hfav⟩

/-- **A walk down a tree** ends at its root, or at a candidate below that has a usable score. -/
theorem bestInTree_eq_or_favours {t : Tree} {c : Candidate} (h : r.bestInTree t = .ok c) :
    c = t.root ∨ c ∈ t.below.candidates ∧ r.Favours c :=
  walk_eq_or_favours h

end Ranker

end Kompositum
