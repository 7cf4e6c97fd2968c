import Kompositum.Lexicon.Trie

/-!
# What a trie counts

The count at a node is the number of added keys that go on after its beginning. It does not depend
on the order in which the keys were added.

* `Branches.step?_add`: what one more key does to the nodes.
* `Branches.count_add`: one more key counts at its proper beginnings.
* `Branches.count_foldl_add`: the counts after some more keys.
-/

namespace Kompositum

namespace Branches

/-- The count at the node of a beginning, 0 where there is none. -/
def count (b : Branches) (start : Text) : Nat := ((b.find? 0 start).map Prod.fst).getD 0

/-- The node for a letter, an empty one where there is none. -/
def step (b : Branches) (c : Char) : Nat × Branches := (b.step? c).getD (0, nil)

theorem step_nil (c : Char) : nil.step c = (0, nil) := rfl

theorem step_branch (d c : Char) (n : Nat) (below next : Branches) :
    (branch d n below next).step c = if c = d then (n, below) else next.step c := by
  unfold step
  rw [step?]
  split <;> rfl

theorem count_cons (b : Branches) (c : Char) (t : Text) :
    b.count (c :: t) = if t = [] then (b.step c).1 else (b.step c).2.count t := by
  unfold count step
  rw [find?]
  cases b.step? c with
  | none =>
    cases t with
    | nil => rfl
    | cons d t => rfl
  | some node =>
    cases t with
    | nil => rfl
    | cons d t => rfl

/-- Nothing counts where there are no nodes. -/
theorem nil_count (t : Text) : nil.count t = 0 := by
  cases t with
  | nil => rfl
  | cons c t => rfl

/-- A new chain of nodes is what a key adds to nothing. -/
theorem chain_eq_add (t : Text) : chain t = add t nil := by
  cases t with
  | nil => rfl
  | cons c t => rfl

/-- One more key changes the node of its first letter, or adds it. -/
theorem step?_add (b : Branches) (c : Char) (k : Text) (d : Char) :
    (add (c :: k) b).step? d =
      if d = c then some ((b.step c).1 + continues k, add k (b.step c).2) else b.step? d := by
  induction b with
  | nil =>
    have hchain : add (c :: k) nil = branch c (continues k) (chain k) nil := rfl
    rw [hchain, step?, step_nil, chain_eq_add, Nat.zero_add]
    rfl
  | branch e n below next _ ih =>
    rw [add]
    by_cases hce : c = e
    · subst hce
      rw [if_pos rfl, step?, step?, step_branch, if_pos rfl]
      split <;> rfl
    · rw [if_neg hce, step?, step?, step_branch, if_neg hce, ih]
      by_cases hde : d = e
      · have hdc : d ≠ c := fun h => hce (h ▸ hde)
        rw [if_pos hde, if_pos hde, if_neg hdc]
      · rw [if_neg hde, if_neg hde]

theorem step_add (b : Branches) (c : Char) (k : Text) (d : Char) :
    (add (c :: k) b).step d =
      if d = c then ((b.step c).1 + continues k, add k (b.step c).2) else b.step d := by
  unfold step
  rw [step?_add]
  split <;> rfl

/-- **One more key** counts at its proper beginnings. -/
theorem count_add {start : Text} (hstart : start ≠ []) (b : Branches) (k : Text) :
    (add k b).count start = b.count start + if start <+: k ∧ start ≠ k then 1 else 0 := by
  induction start generalizing b k with
  | nil => exact absurd rfl hstart
  | cons c t ih =>
    cases k with
    | nil => simp [add]
    | cons d k =>
      rw [count_cons, count_cons, step_add]
      by_cases hcd : c = d
      · subst hcd
        rw [if_pos rfl]
        by_cases ht : t = []
        · subst ht
          rw [if_pos rfl, if_pos rfl]
          cases k with
          | nil => simp [continues]
          | cons e k => simp [continues]
        · rw [if_neg ht, if_neg ht, ih ht]
          simp [List.cons_prefix_cons]
      · simp [List.cons_prefix_cons, hcd]

/-- **Some more keys**, in whatever order. -/
theorem count_foldl_add {start : Text} (hstart : start ≠ []) (ks : List Text) (b : Branches) :
    (ks.foldl (fun b k => add k b) b).count start =
      b.count start + ks.countP fun k => decide (start <+: k ∧ start ≠ k) := by
  induction ks generalizing b with
  | nil => rfl
  | cons k ks ih =>
    rw [List.foldl_cons, ih, count_add hstart, List.countP_cons]
    simp only [decide_eq_true_eq]
    omega

end Branches

end Kompositum
