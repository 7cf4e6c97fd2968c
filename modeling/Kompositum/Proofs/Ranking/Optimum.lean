import Kompositum.Pipeline.Basic
import Kompositum.Proofs.Candidate.Additions
import Kompositum.Proofs.Ranking.Descent
import Kompositum.Proofs.Splitter.HeadTail

/-!
# The way down and the best of all candidates

A walk down a tree sees a node and its children at a time, ranking sees all candidates at once. So
the walk ends at no better candidate than the first of all, and it may miss that one below a child
that is not better than the root. Where there is nothing below the children it finds it, with the
same choice among equals.

* `Tree.IsFlat`: every node but the root is a child of the root.
* `Ranker.exists_best`: the first of all candidates.
* `Ranker.walk_of_flat`: where a walk down a flat tree ends.
* `Tree.isFlat_iff_finds_best`: in no other trees does every walk find the first of all.
* `Pipeline.decompound_firstRanked`: the two compared, and what comes of it for words that are split
  into head and tail.
-/

namespace Kompositum

namespace Forest

variable {f : Forest}

theorem roots_sublist (f : Forest) : f.roots.Sublist f.ids := by
  induction f with
  | nil => exact .slnil
  | node i c b n _ ihn =>
    rw [roots, ids_node]
    exact (ihn.trans (List.sublist_append_right b.ids n.ids)).cons_cons i

/-- All nodes are on top where nothing is below any of these. -/
theorem ids_eq_roots_iff : f.ids = f.roots ↔ ∀ x ∈ f.trees, x.2 = nil := by
  induction f with
  | nil => simp [roots, trees]
  | node i c b n _ ihn =>
    rw [ids_node, roots, trees, List.cons_inj_right, List.forall_mem_cons, ← ihn]
    constructor
    · intro heq
      have hle := (roots_sublist n).length_le
      have hsum : b.ids.length + n.ids.length = n.roots.length := by
        rw [← List.length_append, heq]
      have hnone : b.ids = [] := List.eq_nil_of_length_eq_zero (by omega)
      rw [hnone, List.nil_append] at heq
      cases b with
      | nil => exact ⟨rfl, heq⟩
      | node j d b' n' => cases hnone
    · rintro ⟨rfl, heq⟩
      exact heq

theorem values_subset (f : Forest) : f.values ⊆ f.candidates := by
  intro c hc
  obtain ⟨i, hi⟩ := List.getElem?_of_mem hc
  obtain ⟨below, hbelow⟩ := root?_of_getElem?_values hi
  exact root?_subset hbelow List.mem_cons_self

theorem candidates_subset {x : Candidate × Forest} (hx : x ∈ f.trees) :
    x.1 :: x.2.candidates ⊆ f.candidates := by
  obtain ⟨i, hi⟩ := List.getElem?_of_mem hx
  rw [← root?_eq] at hi
  exact root?_subset hi

theorem candidates_eq_values (h : ∀ x ∈ f.trees, x.2 = nil) : f.candidates = f.values := by
  induction f with
  | nil => rfl
  | node i c b n _ ihn =>
    obtain ⟨rfl, hn⟩ := List.forall_mem_cons.1 h
    rw [candidates, values, candidates, List.nil_append, ihn hn]

/-- Without repetitions, no candidate stands both on top and below. -/
theorem notMem_values (h : f.candidates.Nodup) {x : Candidate × Forest} (hx : x ∈ f.trees)
    {c : Candidate} (hc : c ∈ x.2.candidates) : c ∉ f.values := by
  induction f with
  | nil => cases hx
  | node i d b n _ ihn =>
    rw [candidates, List.nodup_cons, List.nodup_append, List.mem_append] at h
    obtain ⟨hd, -, hnodup, hdisjoint⟩ := h
    rw [values, List.mem_cons, not_or]
    rcases List.mem_cons.1 hx with rfl | hlater
    · refine ⟨?_, fun hmem => ?_⟩
      · rintro rfl
        exact hd (.inl hc)
      · exact hdisjoint c hc c (values_subset n hmem) rfl
    · refine ⟨?_, ihn hnodup hlater⟩
      rintro rfl
      exact hd (.inr (candidates_subset hlater (List.mem_cons_of_mem _ hc)))

end Forest

namespace Tree

variable {t : Tree}

/-- **Every node but the root is a child of the root.** -/
def IsFlat (t : Tree) : Prop := t.below.ids = t.below.roots

end Tree

namespace Ranker

variable {ε : Type} {r : Ranker ε} {cs : List Candidate} {score : Candidate → Float}
variable {x : Candidate × Forest}

/-! ## The first of all -/

theorem firstFailure?_eq_none (h : ∀ c ∈ cs, ∃ s, r.score c = .ok s) :
    r.firstFailure? cs = none := by
  unfold firstFailure?
  rw [List.findSome?_eq_none_iff]
  intro c hc
  obtain ⟨s, hs⟩ := h c hc
  rw [hs, failure?]

/-- **The first of some candidates** is the one at the first position in order. No usable score is
greater than its score, if that is usable. -/
theorem exists_best (hne : cs ≠ []) (h : ∀ c ∈ cs, r.score c = .ok (score c)) :
    ∃ i x xs, cs[i]? = some x.candidate ∧ r.winner? cs = .ok (some i) ∧
      r.rank cs = .ok (x :: xs) ∧ (Ranking.isUsable (score x.candidate) = true →
        ∀ c ∈ cs, Ranking.isUsable (score c) = true → score c ≤ score x.candidate) := by
  obtain ⟨scored, hscored⟩ := exists_scores (firstFailure?_eq_none fun c hc => ⟨_, h c hc⟩)
  have hranks : Ranking.Ranks (scored.map Prod.snd) (positions scored) := Ranking.ranks_order _
  have hplaces := forall₂_positions hscored
  have hscore : ∀ {i : Nat} {c}, cs[i]? = some c → (scored.map Prod.snd)[i]? = some (score c) := by
    intro i c hc
    exact (getElem?_scores_iff hscored).2 ⟨c, hc, h c (List.mem_of_getElem? hc)⟩
  -- some position comes first
  have hsome : positions scored ≠ [] := by
    obtain ⟨c, hc⟩ := List.exists_mem_of_ne_nil cs hne
    obtain ⟨j, hj⟩ := List.getElem?_of_mem hc
    by_cases husable : ∃ s ∈ scored.map Prod.snd, Ranking.isUsable s = true
    · obtain ⟨i, s, hi, -⟩ := hranks.first husable
      exact List.ne_nil_of_mem (List.mem_of_head? hi)
    · have hnone : ∀ s ∈ scored.map Prod.snd, Ranking.isUsable s = false := by
        intro s hs
        exact Bool.eq_false_iff.2 fun hu => husable ⟨s, hs, hu⟩
      have hlt : 0 < (scored.map Prod.snd).length :=
        List.length_pos_of_mem (List.mem_of_getElem? (hscore hj))
      rw [hranks.fallback hnone]
      exact List.ne_nil_of_length_pos (by rw [List.length_take, List.length_range]; omega)
  have hwinner := winner?_of_scores hscored
  have hrank := rank_of_scores hscored
  obtain ⟨i, is, his⟩ := List.exists_cons_of_ne_nil hsome
  rw [his, List.head?_cons] at hwinner
  rw [his] at hplaces hranks
  cases hranked : ((Ranking.order scored).map fun x => (⟨x.1, x.2⟩ : Ranked)) with
  | nil =>
    rw [hranked] at hplaces
    cases hplaces
  | cons y ys =>
    rw [hranked] at hplaces hrank
    obtain ⟨⟨hi, -⟩, -⟩ := List.forall₂_cons.1 hplaces
    refine ⟨i, y, ys, hi, hwinner, hrank, fun hy c hc hcu => ?_⟩
    obtain ⟨j, hj⟩ := List.getElem?_of_mem hc
    -- the first position has the greatest usable score
    obtain ⟨k, s, hk, hks, hsu, hmax⟩ :=
      hranks.first ⟨_, List.mem_of_getElem? (hscore hi), hy⟩
    obtain rfl : i = k := Option.some.inj hk
    obtain rfl : score y.candidate = s := Option.some.inj ((hscore hi).symm.trans hks)
    have hnot := (hmax j (score c) (hscore hj) hcu).1
    rwa [Ranking.lt_iff_magnitude_lt hsu hcu, not_lt,
      ← Ranking.le_iff_magnitude_le hcu hsu] at hnot

theorem best?_of_rank {x : Ranked} {xs : List Ranked} (h : r.rank cs = .ok (x :: xs)) :
    r.best? cs = .ok (some x.candidate) := by
  unfold best?
  rw [h]
  rfl

/-! ## Walks -/

/-- **A walk ends** where no score fails, at one of the candidates. -/
theorem exists_walk (h : ∀ c ∈ x.1 :: x.2.candidates, ∃ s, r.score c = .ok s) :
    ∃ b ∈ x.1 :: x.2.candidates, r.walk x.1 x.2 = .ok b := by
  induction hn : x.2.size using Nat.strongRecOn generalizing x with
  | ind n ih =>
    rcases walk_cases r x with ⟨hgoes, -⟩ | ⟨y, hy, -, hwalk, -⟩
    · have hconsulted : consulted x ⊆ x.1 :: x.2.candidates := by
        unfold consulted
        split
        case h_1 => exact List.nil_subset _
        case h_2 => exact List.cons_subset_cons _ (Forest.values_subset x.2)
      have hnone : r.firstFailure? ([x].flatMap consulted) = none := by
        rw [List.flatMap_singleton]
        exact firstFailure?_eq_none fun c hc => h c (hconsulted hc)
      obtain ⟨z, hz, -, hend⟩ := hgoes.ended hnone
      obtain rfl : x = z := Option.some.inj hz
      exact ⟨x.1, List.mem_cons_self, hend⟩
    · have hsub := Forest.candidates_subset hy
      obtain ⟨b, hb, hend⟩ := ih _ (hn ▸ Forest.size_lt_of_mem_trees hy)
        (fun c hc => h c (List.mem_cons_of_mem _ (hsub hc))) rfl
      exact ⟨b, List.mem_cons_of_mem _ (hsub hb), hwalk.trans hend⟩

/-- A walk stays at a candidate that wins against its children, or has none. -/
theorem walk_of_wins (h : r.winner? (x.1 :: x.2.values) = .ok (some 0)) :
    r.walk x.1 x.2 = .ok x.1 := by
  by_cases hnil : x.2.values = []
  · exact walk_of_leaf hnil
  · exact walk_of_stops hnil h

/-- **A walk ends at the winner** where there is nothing below the children. -/
theorem walk_of_flat (hflat : ∀ y ∈ x.2.trees, y.2 = .nil) {i : Nat} {g : Candidate}
    (hi : (x.1 :: x.2.values)[i]? = some g)
    (hwinner : r.winner? (x.1 :: x.2.values) = .ok (some i)) : r.walk x.1 x.2 = .ok g := by
  cases i with
  | zero =>
    obtain rfl : x.1 = g := Option.some.inj hi
    exact walk_of_wins hwinner
  | succ i =>
    rw [List.getElem?_cons_succ, Forest.getElem?_values, Option.map_eq_some_iff] at hi
    obtain ⟨y, hy, rfl⟩ := hi
    have hleaf : y.2.values = [] := by
      rw [hflat y (List.mem_of_getElem? hy)]
      rfl
    rw [walk_of_steps hy hwinner]
    exact walk_of_leaf hleaf

end Ranker

/-! ## Flat trees -/

namespace Tree

variable {ε : Type} {t : Tree}

theorem candidates_ne_nil (t : Tree) : t.candidates ≠ [] := List.cons_ne_nil _ _

theorem IsFlat.candidates_eq (h : t.IsFlat) : t.candidates = t.root :: t.below.values := by
  unfold candidates
  rw [Forest.candidates_eq_values (Forest.ids_eq_roots_iff.1 h)]

/-- **Walking down a flat tree** comes to the first of all candidates. -/
theorem IsFlat.bestInTree_eq (h : t.IsFlat) {r : Ranker ε} {i : Nat} {g : Candidate}
    (hi : t.candidates[i]? = some g) (hwinner : r.winner? t.candidates = .ok (some i)) :
    r.bestInTree t = .ok g := by
  rw [h.candidates_eq] at hi hwinner
  exact Ranker.walk_of_flat (x := (t.root, t.below)) (Forest.ids_eq_roots_iff.1 h) hi hwinner

/-- Scores that put one candidate first, another one second, and all others behind. -/
def preference (first second c : Candidate) : Float :=
  if c = first then 3 else if c = second then 2 else 1

theorem isUsable_preference (first second c : Candidate) :
    Ranking.isUsable (preference first second c) = true := by
  unfold preference
  split
  · decide
  · split <;> decide

theorem eq_first_of_le_preference {first second c : Candidate}
    (h : (3 : Float) ≤ preference first second c) : c = first := by
  unfold preference at h
  split at h
  · assumption
  · split at h
    · exact absurd h (by decide)
    · exact absurd h (by decide)

/-- **Only in flat trees** does every walk find the first of all candidates, unless some of them are
the same. -/
theorem isFlat_iff_finds_best (hnodup : t.candidates.Nodup) :
    t.IsFlat ↔ ∀ (r : Ranker ε) (score : Candidate → Float),
      (∀ c ∈ t.candidates, r.score c = .ok (score c)) →
        ∃ b, r.bestInTree t = .ok b ∧ r.best? t.candidates = .ok (some b) := by
  constructor
  · intro hflat r score hscore
    obtain ⟨i, x, xs, hi, hwinner, hrank, -⟩ := Ranker.exists_best t.candidates_ne_nil hscore
    exact ⟨x.candidate, hflat.bestInTree_eq hi hwinner, Ranker.best?_of_rank hrank⟩
  · intro hfinds
    refine Forest.ids_eq_roots_iff.2 fun x hx => ?_
    by_contra hdeep
    -- what is below a child shall be the best, and the root better than all else
    obtain ⟨z, hz⟩ : ∃ z, z ∈ x.2.candidates := by
      cases hbelow : x.2 with
      | nil => exact absurd hbelow hdeep
      | node i c b n => exact ⟨c, List.mem_cons_self⟩
    obtain ⟨hroot, hbelow⟩ := List.nodup_cons.1 hnodup
    have hzbelow : z ∈ t.below.candidates :=
      Forest.candidates_subset hx (List.mem_cons_of_mem _ hz)
    have hztop : z ∉ t.below.values := Forest.notMem_values hbelow hx hz
    have hne : t.root ≠ z := fun heq => hroot (heq ▸ hzbelow)
    let r : Ranker ε := ⟨[], fun c => .ok (preference z t.root c)⟩
    have hscore : ∀ c ∈ t.candidates, r.score c = .ok (preference z t.root c) := fun _ _ => rfl
    obtain ⟨b, hwalk, hbest⟩ := hfinds r _ hscore
    obtain ⟨i, y, ys, -, -, hrank, hmax⟩ := Ranker.exists_best t.candidates_ne_nil hscore
    have hfirst : y.candidate = z := by
      have hle := hmax (isUsable_preference _ _ _) z (List.mem_cons_of_mem _ hzbelow)
        (isUsable_preference _ _ _)
      rw [preference, if_pos rfl] at hle
      exact eq_first_of_le_preference hle
    have hb : b = z := by
      have hsame := hbest.symm.trans (Ranker.best?_of_rank hrank)
      rw [← hfirst]
      exact Option.some.inj (Except.ok.inj hsame)
    -- no child is better than the root, so that the walk stays there
    have hstay : r.bestInTree t = .ok t.root := by
      have hnone : r.firstFailure? (t.root :: t.below.values) = none :=
        Ranker.firstFailure?_eq_none fun c _ => ⟨_, rfl⟩
      rcases Ranker.winner?_cases (x := (t.root, t.below)) hnone with ⟨-, hzero⟩ |
        ⟨j, u, s, hfirstBest, -⟩
      · exact Ranker.walk_of_wins hzero
      · have hu : u.1 ∈ t.below.values := by
          rw [← Forest.map_fst_trees]
          exact List.mem_map_of_mem (List.mem_of_getElem? hfirstBest.place)
        have huz : u.1 ≠ z := fun heq => hztop (heq ▸ hu)
        have huroot : u.1 ≠ t.root := fun heq =>
          hroot (heq ▸ Forest.values_subset t.below hu)
        have hs : preference z t.root u.1 = s := Except.ok.inj hfirstBest.scored
        have hlt := hfirstBest.above _ rfl (isUsable_preference _ _ _)
        rw [← hs] at hlt
        simp only [preference, if_neg hne, if_pos, if_neg huz, if_neg huroot] at hlt
        exact absurd hlt (by decide)
    have hrootb : t.root = b := Except.ok.inj (hstay.symm.trans hwalk)
    exact hne (hrootb.trans hb)

end Tree

/-! ## Words split into head and tail -/

/-- The tree of a word that is split into head and tail has at most one node below its root. -/
theorem HeadTail.isFlat_split (s : HeadTail) (w : Text) : (s.split w).IsFlat := by
  rcases split_cases s w with heq | ⟨c, -, heq⟩
  · rw [heq]
    rfl
  · rw [heq]
    rfl

namespace Pipeline

variable {s : HeadTail} {scoring : Scoring} {w : Text}

/-- Where nothing fails, a word split into head and tail is decompounded into the first of its
candidates. -/
theorem decompound_of_scores
    (h : ∀ c ∈ (s.split w).candidates, ∃ score, scoring.toRanker.score c = .ok score) :
    ∃ x xs, rank ⟨.headTail s, scoring⟩ w = .ok (x :: xs) ∧
      decompound ⟨.headTail s, scoring⟩ w = .ok x.candidate := by
  -- the scores as a function of the candidates
  let score : Candidate → Float := fun c => (scoring.toRanker.score c).toOption.getD 0
  have hscore : ∀ c ∈ (s.split w).candidates, scoring.toRanker.score c = .ok (score c) := by
    intro c hc
    obtain ⟨x, hx⟩ := h c hc
    simp only [score, hx]
    rfl
  obtain ⟨i, x, xs, hi, hwinner, hrank, -⟩ :=
    Ranker.exists_best (s.split w).candidates_ne_nil hscore
  exact ⟨x, xs, hrank, (s.isFlat_split w).bestInTree_eq hi hwinner⟩

/-- Where a score fails, decompounding fails like ranking, unless there is nothing to choose
from. -/
theorem decompound_of_failure {e : Error} (h : rank ⟨.headTail s, scoring⟩ w = .error e) :
    decompound ⟨.headTail s, scoring⟩ w = .error e ∨
      (s.split w).candidates = [.ofWord w] ∧
        decompound ⟨.headTail s, scoring⟩ w = .ok (.ofWord w) := by
  have hfailure : scoring.toRanker.firstFailure? (s.split w).candidates = some e :=
    Ranker.rank_eq_error_iff.1 h
  rcases HeadTail.split_cases s w with heq | ⟨c, -, heq⟩
  · right
    have hwalk := Ranker.walk_of_leaf (r := scoring.toRanker) (x := (.ofWord w, .nil)) rfl
    refine ⟨by rw [heq]; rfl, ?_⟩
    show scoring.toRanker.bestInTree (s.split w) = _
    rw [heq]
    exact hwalk
  · left
    rw [heq] at hfailure
    show scoring.toRanker.bestInTree (s.split w) = _
    rw [heq]
    exact Ranker.walk_of_failure (x := (.ofWord w, .node 1 c .nil .nil)) (List.cons_ne_nil _ _)
      (Ranker.winner?_of_failure hfailure)

/-- **A walk down a tree and the first of all its candidates.** Where no score fails there are both,
and the walk does not end at a better candidate; they are the same if every node but the root is a
child of the root, and for other trees, unless some of their candidates are the same, there are
scores by which they are not. So a word that is split into head and tail is decompounded into the
first of its ranked candidates. -/
theorem decompound_firstRanked :
    (∀ {ε : Type} (r : Ranker ε) (t : Tree) (score : Candidate → Float),
      (∀ c ∈ t.candidates, r.score c = .ok (score c)) →
        ∃ b g, r.bestInTree t = .ok b ∧ r.best? t.candidates = .ok (some g) ∧
          b ∈ t.candidates ∧ g ∈ t.candidates ∧
          (Ranking.isUsable (score g) = true →
            Ranking.isUsable (score b) = false ∨ score b ≤ score g) ∧
          (t.IsFlat → b = g)) ∧
    (∀ {ε : Type} (t : Tree), t.candidates.Nodup →
      (t.IsFlat ↔ ∀ (r : Ranker ε) (score : Candidate → Float),
        (∀ c ∈ t.candidates, r.score c = .ok (score c)) →
          ∃ b, r.bestInTree t = .ok b ∧ r.best? t.candidates = .ok (some b))) ∧
    ∀ (s : HeadTail) (scoring : Scoring) (w : Text),
      let p : Pipeline := ⟨.headTail s, scoring⟩
      ((∀ c ∈ (p.split w).candidates, ∃ score, p.ranker.score c = .ok score) →
        ∃ x xs, p.rank w = .ok (x :: xs) ∧ p.decompound w = .ok x.candidate) ∧
      ∀ e, p.rank w = .error e → p.decompound w = .error e ∨
        (p.split w).candidates = [.ofWord w] ∧ p.decompound w = .ok (.ofWord w) := by
  refine ⟨fun r t score hscore => ?_, fun t => Tree.isFlat_iff_finds_best, fun s scoring w =>
    ⟨decompound_of_scores, fun e => decompound_of_failure⟩⟩
  obtain ⟨b, hb, hwalk⟩ := Ranker.exists_walk (x := (t.root, t.below)) fun c hc => ⟨_, hscore c hc⟩
  obtain ⟨i, x, xs, hi, hwinner, hrank, hmax⟩ := Ranker.exists_best t.candidates_ne_nil hscore
  refine ⟨b, x.candidate, hwalk, Ranker.best?_of_rank hrank, hb, List.mem_of_getElem? hi,
    fun hg => ?_, fun hflat => ?_⟩
  · by_cases hu : Ranking.isUsable (score b) = true
    · exact .inr (hmax hg b hb hu)
    · exact .inl (Bool.eq_false_iff.2 hu)
  · exact Except.ok.inj (hwalk.symm.trans (hflat.bestInTree_eq hi hwinner))

end Pipeline

end Kompositum
