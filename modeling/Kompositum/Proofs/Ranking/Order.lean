import Kompositum.Proofs.Ranking.Magnitude
import Kompositum.Proofs.Ranking.Walk
import Mathlib.Data.List.Forall2
import Mathlib.Data.List.Nodup

/-!
# Candidates in order of their scores

Ranking gives the candidates with usable scores, the better ones first and equally good ones as they
were given, or else the first candidate alone. It fails with the first failure of a score.

* `pairwise_mergeSort_key`: sorting by a key keeps the order of what has the same key.
* `Ranking.Ranks`: the positions of usable scores in order.
* `Ranking.order_order`: what has been put in order stays as it is.
* `Ranker.rank_inOrder`: what ranking gives, and what it gives for candidates that have been ranked.
-/

namespace Kompositum

/-- **Sorting by a key**, the greatest first, keeps the order of what has the same key. -/
theorem pairwise_mergeSort_key {α κ : Type} [LinearOrder κ] (key : α → κ) {R : α → α → Prop}
    {l : List α} (h : l.Pairwise R) :
    (l.mergeSort fun x y => decide (key y ≤ key x)).Pairwise fun x y =>
      key y < key x ∨ key x = key y ∧ R x y := by
  have htrans : ∀ x y z, decide (key y ≤ key x) = true → decide (key z ≤ key y) = true →
      decide (key z ≤ key x) = true := by
    intro x y z hxy hyz
    rw [decide_eq_true_eq] at hxy hyz ⊢
    exact hyz.trans hxy
  have htotal : ∀ x y, (decide (key y ≤ key x) || decide (key x ≤ key y)) = true := by
    intro x y
    rw [Bool.or_eq_true, decide_eq_true_eq, decide_eq_true_eq]
    exact le_total _ _
  induction l with
  | nil =>
    rw [List.mergeSort_nil]
    exact .nil
  | cons a l ih =>
    obtain ⟨ha, hl⟩ := List.pairwise_cons.1 h
    -- the first element comes before the others but for those that have a greater key
    obtain ⟨l₁, l₂, hcons, hrest, hahead⟩ := List.mergeSort_cons htrans htotal a l
    have hsorted := List.pairwise_mergeSort htrans htotal (a :: l)
    have ihl := ih hl
    rw [hcons, List.pairwise_append, List.pairwise_cons] at hsorted
    obtain ⟨-, ⟨hbehind, -⟩, -⟩ := hsorted
    rw [hrest, List.pairwise_append] at ihl
    obtain ⟨ih₁, ih₂, ih₁₂⟩ := ihl
    rw [hcons, List.pairwise_append, List.pairwise_cons]
    refine ⟨ih₁, ⟨fun x hx => ?_, ih₂⟩, fun x hx y hy => ?_⟩
    · have hle : key x ≤ key a := of_decide_eq_true (hbehind x hx)
      have hmem : x ∈ l := by
        have hsame := (List.mergeSort_perm l fun x y => decide (key y ≤ key x)).mem_iff (a := x)
        rw [← hsame, hrest]
        exact List.mem_append_right _ hx
      rcases hle.lt_or_eq with hlt | heq
      · exact .inl hlt
      · exact .inr ⟨heq.symm, ha x hmem⟩
    · rcases List.mem_cons.1 hy with rfl | hy
      · have hnot := hahead x hx
        rw [Bool.not_eq_true', decide_eq_false_iff_not, not_le] at hnot
        exact .inl hnot
      · exact ih₁₂ x hx y hy

namespace Ranking

variable {α β : Type} {l : List (α × Float)} {ss : List Float} {i j : Nat}

/-! ## What is put in order -/

/-- Usable scores are sorted by their magnitudes. -/
theorem order_cases (l : List (α × Float)) :
    ((∀ x ∈ l, isUsable x.2 = false) ∧ order l = l.take 1) ∨
      (∃ x ∈ l, isUsable x.2 = true) ∧
        order l = (l.filter fun x => isUsable x.2).mergeSort fun x y =>
          decide (magnitude y.2 ≤ magnitude x.2) := by
  unfold order
  split
  case h_1 hnone =>
    left
    refine ⟨fun x hx => ?_, rfl⟩
    have hnot := List.filter_eq_nil_iff.1 hnone x hx
    exact Bool.eq_false_iff.2 hnot
  case h_2 us hsome =>
    right
    refine ⟨?_, ?_⟩
    · by_contra hnone
      have hnil : (l.filter fun x => isUsable x.2) = [] :=
        List.filter_eq_nil_iff.2 fun x hx hu => hnone ⟨x, hx, hu⟩
      exact hsome hnil
    · have hcompare : ∀ x ∈ l.filter fun x => isUsable x.2,
          ∀ y ∈ l.filter fun x => isUsable x.2,
          (!decide (x.2 < y.2)) = decide (magnitude y.2 ≤ magnitude x.2) := by
        intro x hx y hy
        have hux : isUsable x.2 = true := (List.mem_filter.1 hx).2
        have huy : isUsable y.2 = true := (List.mem_filter.1 hy).2
        rw [decide_eq_decide.2 (lt_iff_magnitude_lt hux huy), ← decide_not]
        exact decide_eq_decide.2 not_lt
      have hsort := List.map_mergeSort (f := id) (s := fun x y : α × Float =>
        decide (magnitude y.2 ≤ magnitude x.2)) hcompare
      rwa [List.map_id, List.map_id] at hsort

/-- Putting things in order has no regard to what they are. -/
theorem order_map (f : α → β) (l : List (α × Float)) :
    order (l.map fun x => (f x.1, x.2)) = (order l).map fun x => (f x.1, x.2) := by
  have hfilter : ((l.map fun x => (f x.1, x.2)).filter fun x => isUsable x.2) =
      (l.filter fun x => isUsable x.2).map fun x => (f x.1, x.2) := List.filter_map
  rcases order_cases l with ⟨hnone, hl⟩ | ⟨⟨x, hx, hu⟩, hl⟩
  · rcases order_cases (l.map fun x => (f x.1, x.2)) with ⟨-, hm⟩ | ⟨⟨y, hy, hu⟩, -⟩
    · rw [hl, hm, List.map_take]
    · obtain ⟨x, hx, rfl⟩ := List.mem_map.1 hy
      rw [hnone x hx] at hu
      cases hu
  · rcases order_cases (l.map fun x => (f x.1, x.2)) with ⟨hnone, -⟩ | ⟨-, hm⟩
    · have hfalse := hnone _ (List.mem_map_of_mem hx)
      rw [hu] at hfalse
      cases hfalse
    · rw [hl, hm, hfilter]
      refine (List.map_mergeSort (f := fun x : α × Float => (f x.1, x.2)) ?_).symm
      exact fun _ _ _ _ => rfl

/-- **What has been put in order** stays as it is. -/
theorem order_order (l : List (α × Float)) : order (order l) = order l := by
  rcases order_cases l with ⟨hnone, hl⟩ | ⟨⟨x, hx, hu⟩, hl⟩
  · rcases order_cases (order l) with ⟨-, ho⟩ | ⟨⟨y, hy, hu⟩, -⟩
    · rw [ho, hl, List.take_take, Nat.min_self]
    · rw [hnone y (mem_order hy).1] at hu
      cases hu
  · have husable : ∀ y ∈ order l, isUsable y.2 = true := by
      intro y hy
      rw [hl, List.mem_mergeSort] at hy
      exact (List.mem_filter.1 hy).2
    have hmem : x ∈ order l := by
      rw [hl, List.mem_mergeSort]
      exact List.mem_filter.2 ⟨hx, hu⟩
    rcases order_cases (order l) with ⟨hnone, -⟩ | ⟨-, ho⟩
    · have hfalse := hnone x hmem
      rw [hu] at hfalse
      cases hfalse
    · have hsorted : (order l).Pairwise fun x y =>
          decide (magnitude y.2 ≤ magnitude x.2) = true := by
        rw [hl]
        have hkey := pairwise_mergeSort_key (fun x : α × Float => magnitude x.2)
          (List.pairwise_of_forall (R := fun _ _ => True) (l := l.filter fun x => isUsable x.2)
            fun _ _ => trivial)
        refine hkey.imp fun h => decide_eq_true ?_
        exact h.elim le_of_lt fun h => h.1.ge
      rw [ho, List.filter_eq_self.2 husable, List.mergeSort_of_pairwise hsorted]

/-! ## Positions -/

/-- **A position comes before another one** if its score is greater, or if it is the earlier of two
with equal scores. -/
def Ahead (ss : List Float) (i j : Nat) : Prop :=
  ∃ s t, ss[i]? = some s ∧ ss[j]? = some t ∧ (t < s ∨ (s == t) = true ∧ i < j)

/-- **The positions of usable scores in order**, each once. If there are none, the first position is
left, if there is one. -/
structure Ranks (ss : List Float) (is : List Nat) : Prop where
  once : is.Nodup
  inOrder : is.Pairwise (Ahead ss)
  usable : (∃ s ∈ ss, isUsable s = true) →
    ∀ i, i ∈ is ↔ ∃ s, ss[i]? = some s ∧ isUsable s = true
  fallback : (∀ s ∈ ss, isUsable s = false) → is = (List.range ss.length).take 1

/-- The positions of some scores with the scores. -/
def places (ss : List Float) : List (Nat × Float) := ss.zipIdx.map fun x => (x.2, x.1)

theorem mem_places {x : Nat × Float} : x ∈ places ss ↔ ss[x.1]? = some x.2 := by
  unfold places
  rw [List.mem_map]
  constructor
  · rintro ⟨y, hy, rfl⟩
    exact List.mem_zipIdx_iff_getElem?.1 hy
  · intro h
    exact ⟨(x.2, x.1), List.mem_zipIdx_iff_getElem?.2 h, rfl⟩

theorem map_fst_places (ss : List Float) : (places ss).map Prod.fst = List.range ss.length := by
  have hsnd : ss.zipIdx.map Prod.snd = List.range ss.length := by
    rw [List.zipIdx_map_snd, List.range_eq_range']
  unfold places
  rw [List.map_map]
  exact hsnd

theorem pairwise_places (ss : List Float) :
    (places ss).Pairwise fun x y => x.1 < y.1 := by
  have hrange : (List.range ss.length).Pairwise (· < ·) := List.pairwise_lt_range
  rw [← map_fst_places, List.pairwise_map] at hrange
  exact hrange

theorem exists_usable_places_iff :
    (∃ x ∈ places ss, isUsable x.2 = true) ↔ ∃ s ∈ ss, isUsable s = true := by
  constructor
  · rintro ⟨x, hx, hu⟩
    exact ⟨x.2, List.mem_of_getElem? (mem_places.1 hx), hu⟩
  · rintro ⟨s, hs, hu⟩
    obtain ⟨i, hi⟩ := List.getElem?_of_mem hs
    exact ⟨(i, s), mem_places.2 hi, hu⟩

/-- **Positions put in order** of their scores. -/
theorem ranks_order (ss : List Float) : Ranks ss ((order (places ss)).map Prod.fst) := by
  rcases order_cases (places ss) with ⟨hnone, horder⟩ | ⟨hsome, horder⟩
  · have hfirst : (order (places ss)).map Prod.fst = (List.range ss.length).take 1 := by
      rw [horder, List.map_take, map_fst_places]
    have hfalse : ¬∃ s ∈ ss, isUsable s = true := by
      rw [← exists_usable_places_iff]
      rintro ⟨x, hx, hu⟩
      rw [hnone x hx] at hu
      cases hu
    refine ⟨?_, ?_, fun h => absurd h hfalse, fun _ => hfirst⟩
    · rw [hfirst]
      exact List.nodup_range.sublist (List.take_sublist 1 _)
    · rw [hfirst]
      cases ss.length with
      | zero => exact .nil
      | succ n =>
        rw [List.range_succ_eq_map, List.take_succ_cons, List.take_zero]
        exact List.pairwise_singleton _ _
  · -- the places with usable scores are sorted, and those with the same score keep their order
    have hmem : ∀ x, x ∈ order (places ss) ↔ ss[x.1]? = some x.2 ∧ isUsable x.2 = true := by
      intro x
      rw [horder, List.mem_mergeSort, List.mem_filter, mem_places]
    have hsorted : (order (places ss)).Pairwise fun x y =>
        magnitude y.2 < magnitude x.2 ∨ magnitude x.2 = magnitude y.2 ∧ x.1 < y.1 := by
      rw [horder]
      exact pairwise_mergeSort_key (fun x : Nat × Float => magnitude x.2)
        ((pairwise_places ss).filter _)
    have hahead : (order (places ss)).Pairwise fun x y => Ahead ss x.1 y.1 := by
      refine hsorted.imp_of_mem fun {x y} hx hy h => ?_
      obtain ⟨hsx, hux⟩ := (hmem x).1 hx
      obtain ⟨hsy, huy⟩ := (hmem y).1 hy
      refine ⟨x.2, y.2, hsx, hsy, ?_⟩
      rwa [lt_iff_magnitude_lt huy hux, beq_iff_magnitude_eq hux huy]
    refine ⟨?_, List.pairwise_map.2 hahead, fun _ i => ?_, fun h => ?_⟩
    · have hperm : (order (places ss)).Perm ((places ss).filter fun x => isUsable x.2) := by
        rw [horder]
        exact List.mergeSort_perm _ _
      have hsub : (((places ss).filter fun x => isUsable x.2).map Prod.fst).Sublist
          (List.range ss.length) := by
        rw [← map_fst_places]
        exact List.filter_sublist.map Prod.fst
      exact (hperm.map Prod.fst).nodup_iff.2 (List.nodup_range.sublist hsub)
    · rw [List.mem_map]
      constructor
      · rintro ⟨x, hx, rfl⟩
        exact ⟨x.2, (hmem x).1 hx⟩
      · rintro ⟨s, hs⟩
        exact ⟨(i, s), (hmem (i, s)).2 hs, rfl⟩
    · obtain ⟨s, hs, hu⟩ := exists_usable_places_iff.1 hsome
      rw [h s hs] at hu
      cases hu

end Ranking

namespace Ranker

variable {ε : Type} {r : Ranker ε} {cs : List Candidate} {scored : List (Candidate × Float)}

/-- **The first failure** of scoring some candidates. -/
def firstFailure? (r : Ranker ε) (cs : List Candidate) : Option ε :=
  cs.findSome? fun c => failure? (r.score c)

theorem firstFailure?_append (cs ds : List Candidate) :
    r.firstFailure? (cs ++ ds) = (r.firstFailure? cs).or (r.firstFailure? ds) := by
  unfold firstFailure?
  rw [List.findSome?_append]

theorem scores_eq_error_iff {e : ε} : r.scores cs = .error e ↔ r.firstFailure? cs = some e := by
  have hstep : ∀ c, failure? (do return (c, ← r.score c) : Except ε (Candidate × Float)) =
      failure? (r.score c) := by
    intro c
    cases r.score c <;> rfl
  unfold scores firstFailure?
  rw [mapM_eq_error_iff]
  simp only [hstep]

/-- Candidates are scored where nothing fails. -/
theorem exists_scores (h : r.firstFailure? cs = none) : ∃ scored, r.scores cs = .ok scored := by
  cases hs : r.scores cs with
  | error e =>
    rw [scores_eq_error_iff, h] at hs
    cases hs
  | ok scored => exact ⟨scored, rfl⟩

theorem map_score_of_scores (h : r.scores cs = .ok scored) :
    cs.map r.score = (scored.map Prod.snd).map .ok := by
  have hlength := congrArg List.length (mapM_eq_ok_iff.1 h)
  rw [List.length_map, List.length_map] at hlength
  refine List.ext_getElem (by simpa using hlength) fun i hi hi' => ?_
  rw [List.length_map, List.length_map] at hi'
  obtain ⟨hc, hscore⟩ := getElem?_of_scores h (List.getElem?_eq_getElem hi')
  rw [List.length_map] at hi
  rw [List.getElem?_eq_getElem hi, Option.some.injEq] at hc
  simp only [List.getElem_map]
  rw [hc, hscore]

/-- **Scores stand where their candidates do.** -/
theorem getElem?_scores_iff (h : r.scores cs = .ok scored) {i : Nat} {s : Float} :
    (scored.map Prod.snd)[i]? = some s ↔ ∃ c, cs[i]? = some c ∧ r.score c = .ok s := by
  constructor
  · intro hs
    rw [List.getElem?_map, Option.map_eq_some_iff] at hs
    obtain ⟨x, hx, rfl⟩ := hs
    exact ⟨x.1, getElem?_of_scores h hx⟩
  · rintro ⟨c, hc, hs⟩
    have hmap := congrArg (·[i]?) (map_score_of_scores h)
    simp only [List.getElem?_map, hc, Option.map_some, hs] at hmap
    rw [List.getElem?_map]
    obtain ⟨t, ht, heq⟩ := Option.map_eq_some_iff.1 hmap.symm
    rw [ht, Except.ok.inj heq]

/-- The positions of candidates in order of their scores. -/
def positions (scored : List (Candidate × Float)) : List Nat :=
  (Ranking.order (Ranking.places (scored.map Prod.snd))).map Prod.fst

/-- **Candidates put in order** stand in the order of their positions. -/
theorem forall₂_positions (h : r.scores cs = .ok scored) :
    List.Forall₂ (fun i (x : Ranked) => cs[i]? = some x.candidate ∧
      (scored.map Prod.snd)[i]? = some x.score) (positions scored)
      ((Ranking.order scored).map fun x => ⟨x.1, x.2⟩) := by
  -- candidates and positions are put in order together
  let both : List ((Candidate × Nat) × Float) := scored.zipIdx.map fun x => ((x.1.1, x.2), x.1.2)
  have hcandidates : scored = both.map fun x => (x.1.1, x.2) := by
    have hfst : scored.zipIdx.map Prod.fst = scored := List.zipIdx_map_fst 0 scored
    rw [List.map_map]
    exact hfst.symm
  have hpositions : Ranking.places (scored.map Prod.snd) = both.map fun x => (x.1.2, x.2) := by
    unfold Ranking.places
    rw [List.zipIdx_map, List.map_map, List.map_map]
    rfl
  have horder : Ranking.order scored = (Ranking.order both).map fun x => (x.1.1, x.2) := by
    rw [← Ranking.order_map, ← hcandidates]
  rw [positions, hpositions, Ranking.order_map, horder, List.map_map, List.map_map,
    List.forall₂_map_left_iff, List.forall₂_map_right_iff, List.forall₂_same]
  intro x hx
  obtain ⟨y, hy, rfl⟩ := List.mem_map.1 (Ranking.mem_order hx).1
  have hplace : scored[y.2]? = some y.1 := List.mem_zipIdx_iff_getElem?.1 hy
  refine ⟨(getElem?_of_scores h hplace).1, ?_⟩
  show (scored.map Prod.snd)[y.2]? = some y.1.2
  rw [List.getElem?_map, hplace, Option.map_some]

theorem rank_of_scores (h : r.scores cs = .ok scored) :
    r.rank cs = .ok ((Ranking.order scored).map fun x => ⟨x.1, x.2⟩) := by
  unfold rank
  rw [h]
  rfl

theorem rank_eq_error_iff {e : ε} : r.rank cs = .error e ↔ r.firstFailure? cs = some e := by
  rw [← scores_eq_error_iff]
  unfold rank
  rw [bind_eq_error]
  exact or_iff_left fun ⟨_, _, h⟩ => nomatch h

/-- **Candidates that have been ranked** are ranked as they stand. -/
theorem rank_candidates {rs : List Ranked} (h : r.rank cs = .ok rs) :
    r.rank (rs.map Ranked.candidate) = .ok rs := by
  obtain ⟨scored, hscored, hrs⟩ := bind_eq_ok.1 h
  obtain rfl := Except.ok.inj hrs
  have hsame : r.scores (((Ranking.order scored).map fun x => (⟨x.1, x.2⟩ : Ranked)).map
      Ranked.candidate) = .ok (Ranking.order scored) := by
    have hstep : ∀ x ∈ Ranking.order scored,
        (do return (x.1, ← r.score x.1) : Except ε (Candidate × Float)) = .ok x := by
      intro x hx
      obtain ⟨i, hi⟩ := List.getElem?_of_mem (Ranking.mem_order hx).1
      rw [(getElem?_of_scores hscored hi).2]
      rfl
    rw [List.map_map]
    unfold scores
    rw [mapM_eq_ok_iff, List.map_map]
    exact List.map_congr_left hstep
  rw [rank_of_scores hsame, Ranking.order_order]

/-- **Ranking** gives the candidates at the positions of usable scores in order, or fails with the
first failure. The first of them is the best, and ranked candidates are ranked as they stand. -/
theorem rank_inOrder (r : Ranker ε) (cs : List Candidate) :
    (∀ e, r.rank cs = .error e ↔ r.firstFailure? cs = some e) ∧
    (r.firstFailure? cs = none → ∃ ss is rs, cs.map r.score = ss.map .ok ∧ Ranking.Ranks ss is ∧
      List.Forall₂ (fun i x => cs[i]? = some x.candidate ∧ ss[i]? = some x.score) is rs ∧
      r.rank cs = .ok rs) ∧
    r.best? cs = (r.rank cs).map (fun rs => rs.head?.map Ranked.candidate) ∧
    ∀ rs, r.rank cs = .ok rs → r.rank (rs.map Ranked.candidate) = .ok rs := by
  refine ⟨fun e => rank_eq_error_iff, fun h => ?_, ?_, fun rs => rank_candidates⟩
  · obtain ⟨scored, hscored⟩ := exists_scores h
    exact ⟨_, positions scored, _, map_score_of_scores hscored, Ranking.ranks_order _,
      forall₂_positions hscored, rank_of_scores hscored⟩
  · unfold best?
    cases r.rank cs <;> rfl

end Ranker

end Kompositum
