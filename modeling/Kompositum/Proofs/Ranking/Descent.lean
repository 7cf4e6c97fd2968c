import Kompositum.Proofs.Ranking.Order
import Mathlib.Data.List.Chain

/-!
# The way down a tree

A walk down a tree goes from a candidate to the first of its best children, as long as that child is
better than the candidate itself. It scores the candidates that it comes to and their children, and
no others.

* `Ranker.FirstBest`: the first of the best children.
* `Ranker.StepsTo`, `Ranker.StopsAt`: where a walk goes on, and where it ends.
* `Ranker.GoesDown`: a way down with what comes of it.
* `Ranker.bestInTree_descends`: every walk goes such a way, and what it comes to depends on nothing
  but the scores along it.
-/

namespace Kompositum

namespace Forest

/-- The topmost nodes, each with its candidate and what is below it. -/
def trees : Forest → List (Candidate × Forest)
  | nil => []
  | node _ c below next => (c, below) :: next.trees

theorem map_fst_trees (f : Forest) : f.trees.map Prod.fst = f.values := by
  induction f with
  | nil => rfl
  | node i c b n _ ihn => rw [trees, values, List.map_cons, ihn]

theorem getElem?_values (f : Forest) (i : Nat) : f.values[i]? = (f.trees[i]?).map Prod.fst := by
  rw [← map_fst_trees, List.getElem?_map]

theorem root?_eq (f : Forest) (i : Nat) : f.root? i = f.trees[i]? := by
  induction f generalizing i with
  | nil => simp [root?, trees]
  | node j c b n _ ihn =>
    cases i with
    | zero => rfl
    | succ i => exact ihn i

theorem size_lt_of_mem_trees {f : Forest} {x : Candidate × Forest} (hx : x ∈ f.trees) :
    x.2.size < f.size := by
  obtain ⟨i, hi⟩ := List.getElem?_of_mem hx
  rw [← root?_eq] at hi
  exact size_lt_of_root? hi

end Forest

namespace Ranking

variable {ss : List Float} {is : List Nat}

/-- A usable score is not less than one that is less or the same. -/
theorem not_lt_of_lt_or_beq {s t : Float} (hs : isUsable s = true) (ht : isUsable t = true)
    (h : t < s ∨ (s == t) = true) : ¬s < t := by
  rw [lt_iff_magnitude_lt ht hs, beq_iff_magnitude_eq hs ht] at h
  rw [lt_iff_magnitude_lt hs ht, not_lt]
  exact h.elim le_of_lt fun h => h.ge

/-- **The first position in order** has the greatest of the usable scores, and no position before it
has the same. -/
theorem Ranks.first (h : Ranks ss is) (hsome : ∃ s ∈ ss, isUsable s = true) :
    ∃ i s, is.head? = some i ∧ ss[i]? = some s ∧ isUsable s = true ∧
      ∀ j t, ss[j]? = some t → isUsable t = true → ¬s < t ∧ (j < i → t < s) := by
  have hmem := h.usable hsome
  obtain ⟨s₀, hs₀, hu₀⟩ := hsome
  obtain ⟨i₀, hi₀⟩ := List.getElem?_of_mem hs₀
  have hne : is ≠ [] := List.ne_nil_of_mem ((hmem i₀).2 ⟨s₀, hi₀, hu₀⟩)
  obtain ⟨i, js, rfl⟩ := List.exists_cons_of_ne_nil hne
  obtain ⟨s, hi, hu⟩ := (hmem i).1 List.mem_cons_self
  refine ⟨i, s, rfl, hi, hu, fun j t hj ht => ?_⟩
  rcases List.mem_cons.1 ((hmem j).2 ⟨t, hj, ht⟩) with rfl | hlater
  · obtain rfl : s = t := Option.some.inj (hi.symm.trans hj)
    refine ⟨?_, fun hlt => absurd hlt (Nat.lt_irrefl _)⟩
    rw [lt_iff_magnitude_lt hu hu]
    exact lt_irrefl _
  · obtain ⟨s', t', hi', hj', hahead⟩ := List.rel_of_pairwise_cons h.inOrder hlater
    obtain rfl : s = s' := Option.some.inj (hi.symm.trans hi')
    obtain rfl : t = t' := Option.some.inj (hj.symm.trans hj')
    refine ⟨not_lt_of_lt_or_beq hu ht (hahead.imp_right And.left), fun hlt => ?_⟩
    rcases hahead with hless | ⟨-, hij⟩
    · exact hless
    · omega

end Ranking

namespace Ranker

variable {ε : Type} {r : Ranker ε} {x y : Candidate × Forest}

/-! ## One step -/

/-- **A child is the first of the best**: no child has a greater score, none before it has the same,
and the score of the candidate itself is less, as far as these scores are usable. -/
structure FirstBest (r : Ranker ε) (x : Candidate × Forest) (i : Nat) (y : Candidate × Forest)
    (s : Float) : Prop where
  place : x.2.trees[i]? = some y
  scored : r.score y.1 = .ok s
  usable : Ranking.isUsable s = true
  siblings : ∀ j z t, x.2.trees[j]? = some z → r.score z.1 = .ok t → Ranking.isUsable t = true →
    ¬s < t ∧ (j < i → t < s)
  above : ∀ t, r.score x.1 = .ok t → Ranking.isUsable t = true → t < s

/-- The candidates that are scored at a node: its own and its children, if it has any. -/
def consulted (x : Candidate × Forest) : List Candidate :=
  match x.2.values with
  | [] => []
  | children => x.1 :: children

theorem consulted_of_nil (h : x.2.values = []) : consulted x = [] := by
  unfold consulted
  rw [h]

theorem consulted_of_ne_nil (h : x.2.values ≠ []) : consulted x = x.1 :: x.2.values := by
  unfold consulted
  split
  case h_1 hnil => exact absurd hnil h
  case h_2 => rfl

/-- **A walk goes on** to the first of the best children, where no score fails. -/
def StepsTo (r : Ranker ε) (x y : Candidate × Forest) : Prop :=
  r.firstFailure? (consulted x) = none ∧ ∃ i s, r.FirstBest x i y s

/-- **A walk ends** where no child has a usable score above that of the candidate, or any usable
score if that of the candidate is not. -/
def StopsAt (r : Ranker ε) (x : Candidate × Forest) : Prop :=
  ∀ z ∈ x.2.trees, ∀ s, r.score z.1 = .ok s → Ranking.isUsable s = true →
    ∃ t, r.score x.1 = .ok t ∧ Ranking.isUsable t = true ∧ ¬t < s

theorem StepsTo.favours (h : r.StepsTo x y) : r.Favours y.1 := by
  obtain ⟨-, i, s, hbest⟩ := h
  exact ⟨s, hbest.scored, hbest.usable⟩

theorem winner?_of_scores {cs : List Candidate} {scored : List (Candidate × Float)}
    (h : r.scores cs = .ok scored) : r.winner? cs = .ok (positions scored).head? := by
  have hplaces : (scored.zipIdx.map fun x => (x.2, x.1.2)) =
      Ranking.places (scored.map Prod.snd) := by
    unfold Ranking.places
    rw [List.zipIdx_map, List.map_map]
    rfl
  unfold winner? positions
  rw [h, ok_bind, ← hplaces, List.head?_map]
  rfl

theorem winner?_of_failure {cs : List Candidate} {e : ε} (h : r.firstFailure? cs = some e) :
    r.winner? cs = .error e := by
  unfold winner?
  rw [scores_eq_error_iff.2 h, error_bind]

/-- **The first in order** is the candidate itself where the walk ends, or else the first of the best
children. -/
theorem winner?_cases (h : r.firstFailure? (x.1 :: x.2.values) = none) :
    (r.StopsAt x ∧ r.winner? (x.1 :: x.2.values) = .ok (some 0)) ∨
      ∃ i y s, r.FirstBest x i y s ∧ r.winner? (x.1 :: x.2.values) = .ok (some (i + 1)) := by
  obtain ⟨scored, hscored⟩ := exists_scores h
  have hranks : Ranking.Ranks (scored.map Prod.snd) (positions scored) := Ranking.ranks_order _
  have hwinner := winner?_of_scores hscored
  -- the score of the candidate stands first, and those of its children after it
  have hown : ∀ {t}, r.score x.1 = .ok t → (scored.map Prod.snd)[0]? = some t :=
    fun ht => (getElem?_scores_iff hscored).2 ⟨x.1, rfl, ht⟩
  have hchild : ∀ {j z t}, x.2.trees[j]? = some z → r.score z.1 = .ok t →
      (scored.map Prod.snd)[j + 1]? = some t := by
    intro j z t hz ht
    refine (getElem?_scores_iff hscored).2 ⟨z.1, ?_, ht⟩
    rw [List.getElem?_cons_succ, Forest.getElem?_values, hz, Option.map_some]
  by_cases hsome : ∃ s ∈ scored.map Prod.snd, Ranking.isUsable s = true
  case neg =>
    left
    have hnone : ∀ s ∈ scored.map Prod.snd, Ranking.isUsable s = false := by
      intro s hs
      exact Bool.eq_false_iff.2 fun hu => hsome ⟨s, hs, hu⟩
    refine ⟨fun z hz s hs hu => ?_, ?_⟩
    · obtain ⟨j, hj⟩ := List.getElem?_of_mem hz
      exact absurd ⟨s, List.mem_of_getElem? (hchild hj hs), hu⟩ hsome
    · have hlength : (scored.map Prod.snd).length = x.2.values.length + 1 := by
        have hmaps := congrArg List.length (map_score_of_scores hscored)
        rw [List.length_map, List.length_map, List.length_cons] at hmaps
        exact hmaps.symm
      rw [hwinner, hranks.fallback hnone, hlength, List.range_succ_eq_map]
      rfl
  case pos =>
    obtain ⟨i, s, hhead, hi, hu, hmax⟩ := hranks.first hsome
    obtain ⟨c, hc, hcs⟩ := (getElem?_scores_iff hscored).1 hi
    rw [hwinner, hhead]
    cases i with
    | zero =>
      left
      obtain rfl : x.1 = c := Option.some.inj hc
      refine ⟨fun z hz t ht hut => ?_, rfl⟩
      obtain ⟨j, hj⟩ := List.getElem?_of_mem hz
      exact ⟨s, hcs, hu, (hmax (j + 1) t (hchild hj ht) hut).1⟩
    | succ i =>
      right
      rw [List.getElem?_cons_succ, Forest.getElem?_values, Option.map_eq_some_iff] at hc
      obtain ⟨y, hy, rfl⟩ := hc
      refine ⟨i, y, s, ⟨hy, hcs, hu, fun j z t hz ht hut => ?_, fun t ht hut => ?_⟩, rfl⟩
      · obtain ⟨hle, hbefore⟩ := hmax (j + 1) t (hchild hz ht) hut
        exact ⟨hle, fun hji => hbefore (by omega)⟩
      · exact (hmax 0 t (hown ht) hut).2 (Nat.succ_pos i)

/-! ## The whole way -/

/-- **A way down** with what comes of it: each node is the first of the best children of the one
before it. It is broken off by the first score that fails, and ends at its last node if none does. -/
structure GoesDown (r : Ranker ε) (path : List (Candidate × Forest))
    (result : Except ε Candidate) : Prop where
  steps : path.IsChain r.StepsTo
  usable : ∀ y ∈ path.tail, r.Favours y.1
  failed : ∀ e, r.firstFailure? (path.flatMap consulted) = some e → result = .error e
  ended : r.firstFailure? (path.flatMap consulted) = none →
    ∃ x, path.getLast? = some x ∧ r.StopsAt x ∧ result = .ok x.1

theorem GoesDown.of_failure {e : ε} (h : r.firstFailure? (consulted x) = some e) :
    r.GoesDown [x] (.error e) := by
  refine ⟨.singleton x, fun y hy => (by cases hy), fun e' he' => ?_, fun hnone => ?_⟩
  · rw [List.flatMap_singleton, h] at he'
    exact congrArg Except.error (Option.some.inj he')
  · rw [List.flatMap_singleton, h] at hnone
    cases hnone

theorem GoesDown.of_stops (hsome : r.firstFailure? (consulted x) = none) (h : r.StopsAt x) :
    r.GoesDown [x] (.ok x.1) := by
  refine ⟨.singleton x, fun y hy => (by cases hy), fun e he => ?_, fun _ => ⟨x, rfl, h, rfl⟩⟩
  rw [List.flatMap_singleton, hsome] at he
  cases he

theorem GoesDown.cons {path : List (Candidate × Forest)} {result : Except ε Candidate}
    (h : r.GoesDown (y :: path) result) (hstep : r.StepsTo x y) :
    r.GoesDown (x :: y :: path) result := by
  have hfailure : r.firstFailure? ((x :: y :: path).flatMap consulted) =
      r.firstFailure? ((y :: path).flatMap consulted) := by
    rw [List.flatMap_cons, firstFailure?_append, hstep.1, Option.none_or]
  refine ⟨.cons_cons hstep h.steps, fun z hz => ?_, fun e he => ?_, fun hnone => ?_⟩
  · rcases List.mem_cons.1 hz with rfl | hz
    · exact hstep.favours
    · exact h.usable z hz
  · exact h.failed e (hfailure ▸ he)
  · obtain ⟨z, hz, hstops, hresult⟩ := h.ended (hfailure ▸ hnone)
    exact ⟨z, by rw [List.getLast?_cons_cons, hz], hstops, hresult⟩

theorem walk_of_leaf (h : x.2.values = []) : r.walk x.1 x.2 = .ok x.1 := by
  rw [walk, h]

theorem walk_of_failure {e : ε} (hne : x.2.values ≠ [])
    (h : r.winner? (x.1 :: x.2.values) = .error e) : r.walk x.1 x.2 = .error e := by
  rw [walk]
  split
  case h_1 hnil => exact absurd hnil hne
  case h_2 => rw [h, error_bind]

theorem walk_of_stops (hne : x.2.values ≠ [])
    (h : r.winner? (x.1 :: x.2.values) = .ok (some 0)) : r.walk x.1 x.2 = .ok x.1 := by
  rw [walk]
  split
  case h_1 hnil => exact absurd hnil hne
  case h_2 =>
    rw [h]
    rfl

theorem walk_of_steps {i : Nat} (hy : x.2.trees[i]? = some y)
    (h : r.winner? (x.1 :: x.2.values) = .ok (some (i + 1))) :
    r.walk x.1 x.2 = r.walk y.1 y.2 := by
  have hroot : x.2.root? i = some (y.1, y.2) := by
    rw [Forest.root?_eq]
    exact hy
  rw [walk]
  split
  case h_1 hnil =>
    rw [← Forest.map_fst_trees, List.map_eq_nil_iff] at hnil
    rw [hnil] at hy
    cases hy
  case h_2 =>
    rw [h, ok_bind]
    dsimp only
    split
    case h_1 d deeper hsome =>
      obtain rfl : y = (d, deeper) := Option.some.inj (hroot.symm.trans hsome)
      rfl
    case h_2 hnone =>
      rw [hroot] at hnone
      cases hnone

theorem winner?_congr {r' : Ranker ε} {cs : List Candidate}
    (h : ∀ c ∈ cs, r'.score c = r.score c) : r'.winner? cs = r.winner? cs := by
  have hscores : r'.scores cs = r.scores cs := by
    unfold scores
    refine mapM_congr fun c hc => ?_
    rw [h c hc]
  unfold winner?
  rw [hscores]

/-- **One step**: a walk breaks off or ends where it is, or it goes on from the first of the best
children. It is the same for all rankers that score the candidates there alike. -/
theorem walk_cases (r : Ranker ε) (x : Candidate × Forest) :
    (r.GoesDown [x] (r.walk x.1 x.2) ∧ ∀ r' : Ranker ε,
        (∀ c ∈ consulted x, r'.score c = r.score c) → r'.walk x.1 x.2 = r.walk x.1 x.2) ∨
      ∃ y ∈ x.2.trees, r.StepsTo x y ∧ r.walk x.1 x.2 = r.walk y.1 y.2 ∧ ∀ r' : Ranker ε,
        (∀ c ∈ consulted x, r'.score c = r.score c) → r'.walk x.1 x.2 = r'.walk y.1 y.2 := by
  by_cases hnil : x.2.values = []
  · left
    have hnone : r.firstFailure? (consulted x) = none := by rw [consulted_of_nil hnil]; rfl
    have htrees : x.2.trees = [] := by
      rw [← List.map_eq_nil_iff (f := Prod.fst), Forest.map_fst_trees, hnil]
    refine ⟨?_, fun r' _ => ?_⟩
    · rw [walk_of_leaf hnil]
      refine .of_stops hnone fun z hz => ?_
      rw [htrees] at hz
      cases hz
    · rw [walk_of_leaf hnil, walk_of_leaf hnil]
  · have hconsulted := consulted_of_ne_nil hnil
    have hwinner : ∀ r' : Ranker ε, (∀ c ∈ consulted x, r'.score c = r.score c) →
        r'.winner? (x.1 :: x.2.values) = r.winner? (x.1 :: x.2.values) :=
      fun r' hr' => winner?_congr (hconsulted ▸ hr')
    cases hfailure : r.firstFailure? (consulted x) with
    | some e =>
      left
      have herror := winner?_of_failure (hconsulted ▸ hfailure)
      refine ⟨?_, fun r' hr' => ?_⟩
      · rw [walk_of_failure hnil herror]
        exact .of_failure hfailure
      · rw [walk_of_failure hnil herror, walk_of_failure hnil ((hwinner r' hr').trans herror)]
    | none =>
      rcases winner?_cases (hconsulted ▸ hfailure) with ⟨hstops, hzero⟩ | ⟨i, y, s, hbest, hsucc⟩
      · left
        refine ⟨?_, fun r' hr' => ?_⟩
        · rw [walk_of_stops hnil hzero]
          exact .of_stops hfailure hstops
        · rw [walk_of_stops hnil hzero, walk_of_stops hnil ((hwinner r' hr').trans hzero)]
      · right
        refine ⟨y, List.mem_of_getElem? hbest.place, ⟨hfailure, i, s, hbest⟩,
          walk_of_steps hbest.place hsucc, fun r' hr' => ?_⟩
        exact walk_of_steps hbest.place ((hwinner r' hr').trans hsucc)

/-- **The way of a walk**, which depends on the scores along it alone. -/
theorem exists_goesDown (r : Ranker ε) (x : Candidate × Forest) :
    ∃ path, r.GoesDown (x :: path) (r.walk x.1 x.2) ∧ ∀ r' : Ranker ε,
      (∀ c ∈ (x :: path).flatMap consulted, r'.score c = r.score c) →
        r'.walk x.1 x.2 = r.walk x.1 x.2 := by
  induction hn : x.2.size using Nat.strongRecOn generalizing x with
  | ind n ih =>
    rcases walk_cases r x with ⟨hgoes, hsame⟩ | ⟨y, hy, hstep, hwalk, hsame⟩
    · refine ⟨[], hgoes, fun r' hr' => hsame r' fun c hc => hr' c ?_⟩
      rwa [List.flatMap_singleton]
    · obtain ⟨path, hgoes, hrest⟩ := ih _ (hn ▸ Forest.size_lt_of_mem_trees hy) y rfl
      refine ⟨y :: path, hwalk ▸ hgoes.cons hstep, fun r' hr' => ?_⟩
      rw [List.flatMap_cons] at hr'
      have hx := hsame r' fun c hc => hr' c (List.mem_append_left _ hc)
      have hy := hrest r' fun c hc => hr' c (List.mem_append_right _ hc)
      rw [hx, hy, hwalk]

/-- **A walk down a tree** goes from its root to the first of the best children as long as that one
is better. It fails with the first score that fails on its way, and it ends where no child is
better. What it comes to depends on the scores of the nodes on its way and of their children. -/
theorem bestInTree_descends (r : Ranker ε) (t : Tree) :
    ∃ path, r.GoesDown ((t.root, t.below) :: path) (r.bestInTree t) ∧ ∀ r' : Ranker ε,
      (∀ c ∈ ((t.root, t.below) :: path).flatMap consulted, r'.score c = r.score c) →
        r'.bestInTree t = r.bestInTree t :=
  exists_goesDown r (t.root, t.below)

end Ranker

end Kompositum
