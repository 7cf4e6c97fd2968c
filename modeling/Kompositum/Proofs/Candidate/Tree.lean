import Kompositum.Candidate.Tree
import Kompositum.Proofs.Lookup

/-!
# How trees grow

A candidate added below a node leaves all other nodes as they are. Seen as a whole, a tree is the
row of its nodes in depth-first order, and adding a candidate grafts a forest of one node.

* `Tree.Numbered`: the nodes have the numbers from 0 on, each once. Adding a candidate keeps this
  (`Numbered.graft`).
* `Tree.addChild_eq_graft`: what the tree is after a candidate that refines the one above it.
* `Tree.Numbered.find?_eq_some_iff`: in such a tree a number finds its node.
-/

namespace Kompositum

namespace Forest

/-- One forest after another. -/
def append : Forest → Forest → Forest
  | nil, g => g
  | node i c below next, g => node i c below (next.append g)

/-- More trees below a node, after its children. -/
def graft : Forest → Nat → Forest → Forest
  | nil, _, _ => nil
  | node i c below next, p, g =>
    node i c (if i = p then below.append g else below.graft p g) (next.graft p g)

/-- The nodes in depth-first order: their numbers, candidates and what is below them. -/
def nodes : Forest → List (Nat × Candidate × Forest)
  | nil => []
  | node i c below next => (i, c, below) :: (below.nodes ++ next.nodes)

/-- The numbers of the nodes in depth-first order. -/
def ids (f : Forest) : List Nat := f.nodes.map Prod.fst

/-- The numbers and the candidates of the nodes in depth-first order. -/
def entries (f : Forest) : List (Nat × Candidate) := f.nodes.map fun n => (n.1, n.2.1)

/-- The topmost nodes with their candidates. -/
def tops : Forest → List (Nat × Candidate)
  | nil => []
  | node i c _ next => (i, c) :: next.tops

@[simp] theorem nodes_nil : nil.nodes = [] := rfl

@[simp] theorem ids_nil : nil.ids = [] := rfl

@[simp] theorem ids_node (i : Nat) (c : Candidate) (b n : Forest) :
    (node i c b n).ids = i :: (b.ids ++ n.ids) := by
  simp [ids, nodes]

@[simp] theorem entries_nil : nil.entries = [] := rfl

@[simp] theorem entries_node (i : Nat) (c : Candidate) (b n : Forest) :
    (node i c b n).entries = (i, c) :: (b.entries ++ n.entries) := by
  simp [entries, nodes]

theorem map_fst_entries (f : Forest) : f.entries.map Prod.fst = f.ids := by
  simp [entries, ids, Function.comp_def]

theorem map_snd_entries (f : Forest) : f.entries.map Prod.snd = f.candidates := by
  induction f with
  | nil => rfl
  | node i c b n ihb ihn => simp [candidates, ihb, ihn]

theorem map_fst_tops (f : Forest) : f.tops.map Prod.fst = f.roots := by
  induction f with
  | nil => rfl
  | node i c b n _ ihn => simp [tops, roots, ihn]

theorem tops_subset_entries (f : Forest) : f.tops ⊆ f.entries := by
  induction f with
  | nil => exact fun x hx => hx
  | node i c b n _ ihn =>
    intro x hx
    rw [entries_node, List.mem_cons, List.mem_append]
    rcases List.mem_cons.1 hx with rfl | hx
    · exact .inl rfl
    · exact .inr (.inr (ihn hx))

/-- What is below a node of a forest belongs to the forest. -/
theorem entries_below_subset {f : Forest} {x : Nat × Candidate × Forest} (hx : x ∈ f.nodes) :
    x.2.2.entries ⊆ f.entries := by
  induction f with
  | nil => simp at hx
  | node i c b n ihb ihn =>
    intro y hy
    rw [entries_node, List.mem_cons, List.mem_append]
    rw [nodes, List.mem_cons, List.mem_append] at hx
    rcases hx with rfl | hx | hx
    · exact .inr (.inl hy)
    · exact .inr (.inl (ihb hx hy))
    · exact .inr (.inr (ihn hx hy))

theorem length_ids (f : Forest) : f.ids.length = f.size := by
  induction f with
  | nil => rfl
  | node i c b n ihb ihn =>
    rw [ids_node, List.length_cons, List.length_append, ihb, ihn, size]
    omega

@[simp] theorem append_nil (f : Forest) : f.append nil = f := by
  induction f with
  | nil => rfl
  | node i c b n _ ihn => rw [append, ihn]

@[simp] theorem nil_append (f : Forest) : nil.append f = f := rfl

theorem append_assoc (f g h : Forest) : (f.append g).append h = f.append (g.append h) := by
  induction f with
  | nil => rfl
  | node i c b n _ ihn => simp [append, ihn]

@[simp] theorem nodes_append (f g : Forest) : (f.append g).nodes = f.nodes ++ g.nodes := by
  induction f with
  | nil => rfl
  | node i c b n _ ihn => simp [append, nodes, ihn]

@[simp] theorem entries_append (f g : Forest) : (f.append g).entries = f.entries ++ g.entries := by
  simp [entries]

theorem snoc_eq_append (f : Forest) (i : Nat) (c : Candidate) :
    f.snoc i c = f.append (node i c nil nil) := by
  induction f with
  | nil => rfl
  | node j d b n _ ihn => rw [snoc, ihn, append]

theorem addBelow_eq_graft (f : Forest) (p i : Nat) (c : Candidate) :
    f.addBelow p i c = f.graft p (node i c nil nil) := by
  induction f with
  | nil => rfl
  | node j d b n ihb ihn => rw [addBelow, ihb, ihn, graft, snoc_eq_append]

theorem graft_append (f g h : Forest) (p : Nat) :
    (f.append g).graft p h = (f.graft p h).append (g.graft p h) := by
  induction f with
  | nil => rfl
  | node i c b n _ ihn => simp [append, graft, ihn]

/-- Nothing is grafted below a node that is not there. -/
theorem graft_of_notMem {f : Forest} {p : Nat} (h : p ∉ f.ids) (g : Forest) : f.graft p g = f := by
  induction f with
  | nil => rfl
  | node i c b n ihb ihn =>
    simp only [ids_node, List.mem_cons, List.mem_append, not_or] at h
    rw [graft, if_neg (Ne.symm h.1), ihb h.2.1, ihn h.2.2]

theorem graft_nil (f : Forest) (p : Nat) : f.graft p nil = f := by
  induction f with
  | nil => rfl
  | node i c b n ihb ihn => simp [graft, ihb, ihn]

/-- **What grows below the last child of a node** stands in the forest grafted there. -/
theorem graft_graft_last {f g : Forest} {p i : Nat} (hf : i ∉ f.ids) (hg : i ∉ g.ids)
    (c : Candidate) (h : Forest) :
    (f.graft p (g.append (node i c nil nil))).graft i h =
      f.graft p (g.append (node i c h nil)) := by
  induction f with
  | nil => rfl
  | node j d b n ihb ihn =>
    simp only [ids_node, List.mem_cons, List.mem_append, not_or] at hf
    obtain ⟨hij, hb, hn⟩ := hf
    simp only [graft, if_neg (Ne.symm hij), ihn hn]
    congr 1
    -- below `p` the new child stands last, elsewhere nothing of it is met
    by_cases hjp : j = p
    · rw [if_pos hjp, if_pos hjp, graft_append, graft_append, graft_of_notMem hb,
        graft_of_notMem hg]
      simp [graft]
    · rw [if_neg hjp, if_neg hjp, ihb hb]

theorem graft_graft_self (f g h : Forest) (p : Nat) :
    (f.graft p g).graft p h = f.graft p (g.append h) := by
  induction f with
  | nil => rfl
  | node i c b n ihb ihn =>
    simp only [graft, ihn]
    congr 1
    by_cases hip : i = p
    · rw [if_pos hip, if_pos hip, if_pos hip, append_assoc]
    · rw [if_neg hip, if_neg hip, if_neg hip, ihb]

/-- **Grafting adds the nodes of the grafted forest** and leaves the others. -/
theorem perm_entries_graft {f : Forest} {p : Nat} (hp : p ∈ f.ids) (hf : f.ids.Nodup)
    (g : Forest) : (f.graft p g).entries.Perm (f.entries ++ g.entries) := by
  induction f with
  | nil => simp at hp
  | node i c b n ihb ihn =>
    rw [ids_node, List.nodup_cons, List.mem_append, not_or, List.nodup_append] at hf
    obtain ⟨⟨hib, hin⟩, hb, hn, hbn⟩ := hf
    simp only [graft, entries_node, List.cons_append, List.append_assoc]
    refine List.Perm.cons _ ?_
    by_cases hip : i = p
    · subst hip
      rw [if_pos rfl, graft_of_notMem hin, entries_append, List.append_assoc]
      exact List.Perm.append_left _ List.perm_append_comm
    · rw [if_neg hip]
      simp only [ids_node, List.mem_cons, Ne.symm hip, List.mem_append, false_or] at hp
      -- the number is in one of the two parts only, and nothing is grafted in the other
      rcases hp with hp | hp
      · rw [graft_of_notMem (fun h => hbn p hp p h rfl)]
        refine (List.Perm.append_right _ (ihb hp hb)).trans ?_
        rw [List.append_assoc]
        exact List.Perm.append_left _ List.perm_append_comm
      · rw [graft_of_notMem (fun h => hbn p h p hp rfl)]
        exact List.Perm.append_left _ (ihn hp hn)

theorem find?_eq_lookup (f : Forest) (i : Nat) : f.find? i = f.nodes.lookup i := by
  induction f with
  | nil => rfl
  | node j c b n ihb ihn =>
    rw [find?, nodes, List.lookup_cons, List.lookup_append, ihb, ihn]
    by_cases h : j = i
    · simp [h]
    · rw [if_neg h, beq_false_of_ne (Ne.symm h)]
      cases List.lookup i b.nodes <;> rfl

end Forest

namespace Tree

/-- More trees below a node, after its children. -/
def graft (t : Tree) (p : Nat) (g : Forest) : Tree :=
  { t with below := if p = 0 then t.below.append g else t.below.graft p g }

/-- The nodes in depth-first order, the root first. -/
def nodes (t : Tree) : List (Nat × Candidate × Forest) := (0, t.root, t.below) :: t.below.nodes

/-- The numbers of the nodes in depth-first order. -/
def ids (t : Tree) : List Nat := 0 :: t.below.ids

/-- The numbers and the candidates of the nodes in depth-first order. -/
def entries (t : Tree) : List (Nat × Candidate) := (0, t.root) :: t.below.entries

/-- **The nodes have the numbers from 0 on**, each once. -/
def Numbered (t : Tree) : Prop := t.ids.Perm (List.range t.size)

/-- What is below a node belongs to the tree. -/
theorem entries_below_subset {t : Tree} {i : Nat} {c : Candidate} {b : Forest}
    (h : (i, c, b) ∈ t.nodes) : b.entries ⊆ t.entries := by
  intro x hx
  refine List.mem_cons_of_mem _ ?_
  rcases List.mem_cons.1 h with heq | h
  · obtain rfl : b = t.below := (Prod.mk.inj (Prod.mk.inj heq).2).2
    exact hx
  · exact Forest.entries_below_subset h hx

theorem map_fst_nodes (t : Tree) : t.nodes.map Prod.fst = t.ids := rfl

theorem map_fst_entries (t : Tree) : t.entries.map Prod.fst = t.ids := by
  simp [entries, ids, Forest.map_fst_entries]

theorem map_snd_entries (t : Tree) : t.entries.map Prod.snd = t.candidates := by
  simp [entries, candidates, Forest.map_snd_entries]

/-- A candidate is in the tree when it stands at a node. -/
theorem mem_candidates_iff (t : Tree) {c : Candidate} :
    c ∈ t.candidates ↔ ∃ i b, (i, c, b) ∈ t.nodes := by
  have hmap : t.entries = t.nodes.map fun n => (n.1, n.2.1) := rfl
  rw [← map_snd_entries, hmap, List.map_map, List.mem_map]
  constructor
  · rintro ⟨⟨i, d, b⟩, hn, rfl⟩
    exact ⟨i, b, hn⟩
  · rintro ⟨i, b, hn⟩
    exact ⟨_, hn, rfl⟩

theorem find?_eq_lookup (t : Tree) (i : Nat) : t.find? i = t.nodes.lookup i := by
  rw [find?, nodes, List.lookup_cons, Forest.find?_eq_lookup]
  by_cases h : i = 0
  · simp [h]
  · rw [if_neg h, beq_false_of_ne h]

theorem value?_eq_lookup (t : Tree) (i : Nat) : t.value? i = t.entries.lookup i := by
  have hmap : ∀ l : List (Nat × Candidate × Forest),
      (l.lookup i).map Prod.fst = (l.map fun n => (n.1, n.2.1)).lookup i := by
    intro l
    induction l with
    | nil => rfl
    | cons n l ih =>
      obtain ⟨j, c, b⟩ := n
      rw [List.map_cons, List.lookup_cons, List.lookup_cons, ← ih]
      cases i == j <;> rfl
  rw [value?, find?_eq_lookup, hmap]
  rfl

theorem Numbered.nodup {t : Tree} (h : t.Numbered) : t.ids.Nodup :=
  h.nodup_iff.2 List.nodup_range

theorem Numbered.mem_ids_iff {t : Tree} (h : t.Numbered) {i : Nat} : i ∈ t.ids ↔ i < t.size := by
  rw [h.mem_iff, List.mem_range]

theorem Numbered.size_notMem {t : Tree} (h : t.Numbered) : t.size ∉ t.ids := fun hm =>
  absurd (h.mem_ids_iff.1 hm) (Nat.lt_irrefl _)

/-- In a numbered tree a number finds its node. -/
theorem Numbered.find?_eq_some_iff {t : Tree} (h : t.Numbered) {i : Nat} {n : Candidate × Forest} :
    t.find? i = some n ↔ (i, n) ∈ t.nodes := by
  rw [find?_eq_lookup]
  exact lookup_eq_some_iff_mem (t.map_fst_nodes ▸ h.nodup)

theorem Numbered.value?_eq_some_iff {t : Tree} (h : t.Numbered) {i : Nat} {c : Candidate} :
    t.value? i = some c ↔ (i, c) ∈ t.entries := by
  rw [value?_eq_lookup]
  exact lookup_eq_some_iff_mem (t.map_fst_entries ▸ h.nodup)

theorem numbered_single (c : Candidate) : (single c).Numbered := .refl _

/-- A candidate stands directly below another one. -/
def HasChild (t : Tree) (p c : Candidate) : Prop :=
  ∃ i js j, t.value? i = some p ∧ t.children? i = some js ∧ j ∈ js ∧ t.value? j = some c

/-- **Children in a numbered tree** are what stands on top below the node. -/
theorem Numbered.hasChild_iff {t : Tree} (h : t.Numbered) {p c : Candidate} :
    t.HasChild p c ↔ ∃ i b j, (i, p, b) ∈ t.nodes ∧ (j, c) ∈ b.tops := by
  have hval : ∀ {i d b}, (i, d, b) ∈ t.nodes → t.find? i = some (d, b) :=
    fun hm => h.find?_eq_some_iff.2 hm
  constructor
  · rintro ⟨i, js, j, hi, hjs, hj, hc⟩
    obtain ⟨⟨d, b⟩, hf, rfl⟩ := Option.map_eq_some_iff.1 hi
    have hb : js = b.roots := by
      rw [children?, hf] at hjs
      exact (Option.some.inj hjs).symm
    have hm := h.find?_eq_some_iff.1 hf
    rw [hb, ← Forest.map_fst_tops] at hj
    obtain ⟨⟨j', c'⟩, hjc, rfl⟩ := List.mem_map.1 hj
    have hc' := h.value?_eq_some_iff.2 (entries_below_subset hm (Forest.tops_subset_entries b hjc))
    rw [hc'] at hc
    obtain rfl := Option.some.inj hc
    exact ⟨i, b, j', hm, hjc⟩
  · rintro ⟨i, b, j, hm, hj⟩
    refine ⟨i, b.roots, j, ?_, ?_, ?_, ?_⟩
    · rw [value?, hval hm]; rfl
    · rw [children?, hval hm]; rfl
    · rw [← Forest.map_fst_tops]; exact List.mem_map_of_mem (f := Prod.fst) hj
    · exact h.value?_eq_some_iff.2 (entries_below_subset hm (Forest.tops_subset_entries b hj))

/-- **Adding a candidate** that refines the one above it grafts one node. -/
theorem addChild_eq_graft {t : Tree} {p : Nat} {c d : Candidate} (hp : t.value? p = some d)
    (hc : c.Refines d) : t.addChild p c = .ok (t.graft p (.node t.size c .nil .nil)) := by
  unfold addChild graft
  rw [hp]
  simp only [if_pos hc, Forest.snoc_eq_append, Forest.addBelow_eq_graft]

theorem perm_entries_graft {t : Tree} {p : Nat} (ht : t.Numbered) (hp : p ∈ t.ids) (g : Forest) :
    (t.graft p g).entries.Perm (t.entries ++ g.entries) := by
  unfold graft entries
  refine List.Perm.cons _ ?_
  by_cases h0 : p = 0
  · simp [h0]
  · rw [if_neg h0]
    have hp' : p ∈ t.below.ids := (List.mem_cons.1 hp).resolve_left h0
    exact Forest.perm_entries_graft hp' (List.nodup_cons.1 ht.nodup).2 g

theorem perm_ids_graft {t : Tree} {p : Nat} (ht : t.Numbered) (hp : p ∈ t.ids) (g : Forest) :
    (t.graft p g).ids.Perm (t.ids ++ g.ids) := by
  have := (perm_entries_graft ht hp g).map Prod.fst
  rwa [List.map_append, map_fst_entries, map_fst_entries, Forest.map_fst_entries] at this

theorem length_ids (t : Tree) : t.ids.length = t.size := by
  rw [ids, List.length_cons, Forest.length_ids, size]
  omega

theorem size_graft {t : Tree} {p : Nat} (ht : t.Numbered) (hp : p ∈ t.ids) (g : Forest) :
    (t.graft p g).size = t.size + g.size := by
  rw [← length_ids, (perm_ids_graft ht hp g).length_eq, List.length_append, length_ids,
    Forest.length_ids]

/-- **A tree stays numbered** when a forest with the next numbers is grafted. -/
theorem Numbered.graft {t : Tree} {p : Nat} (ht : t.Numbered) (hp : p ∈ t.ids) {g : Forest}
    (hg : g.ids.Perm (List.range' t.size g.size)) : (t.graft p g).Numbered := by
  unfold Numbered
  rw [size_graft ht hp, List.range_eq_range', ← List.range'_append_1, ← List.range_eq_range',
    Nat.zero_add]
  exact (perm_ids_graft ht hp g).trans (ht.append hg)

/-- A node of the grafted forest, or of the tree before, is found in the tree. -/
theorem Numbered.value?_graft {t : Tree} {p i : Nat} {c : Candidate} (ht : t.Numbered)
    (hp : p ∈ t.ids) {g : Forest} (hg : g.ids.Perm (List.range' t.size g.size))
    (hi : t.value? i = some c ∨ (i, c) ∈ g.entries) : (t.graft p g).value? i = some c := by
  refine (ht.graft hp hg).value?_eq_some_iff.2 ((perm_entries_graft ht hp g).mem_iff.2 ?_)
  exact List.mem_append.2 (hi.imp_left ht.value?_eq_some_iff.1)

theorem Numbered.mem_ids_of_value? {t : Tree} (ht : t.Numbered) {i : Nat} {c : Candidate}
    (hi : t.value? i = some c) : i ∈ t.ids := by
  rw [← map_fst_entries]
  exact List.mem_map.2 ⟨_, ht.value?_eq_some_iff.1 hi, rfl⟩

/-- **What grows below the last child of a node** stands in the forest grafted there. -/
theorem Numbered.graft_graft_last {t : Tree} (ht : t.Numbered) (p : Nat) (c : Candidate)
    (g : Forest) :
    (t.graft p (.node t.size c .nil .nil)).graft t.size g = t.graft p (.node t.size c g .nil) := by
  -- the number of the new node is not in use yet
  have hsize : t.size ≠ 0 := by unfold size; omega
  have hnot : t.size ∉ t.below.ids := fun h => ht.size_notMem (List.mem_cons_of_mem _ h)
  unfold Tree.graft
  simp only [if_neg hsize]
  by_cases hp : p = 0
  · simp only [if_pos hp, Forest.graft_append, Forest.graft_of_notMem hnot]
    simp [Forest.graft]
  · simp only [if_neg hp]
    congr 1
    exact Forest.graft_graft_last (g := .nil) hnot (by simp) c g

theorem graft_nil (t : Tree) (p : Nat) : t.graft p .nil = t := by
  unfold graft
  rw [Forest.append_nil, Forest.graft_nil, ite_self]

theorem graft_graft_self (t : Tree) (p : Nat) (g h : Forest) :
    (t.graft p g).graft p h = t.graft p (g.append h) := by
  unfold graft
  by_cases hp : p = 0
  · simp only [if_pos hp, Forest.append_assoc]
  · simp only [if_neg hp, Forest.graft_graft_self]

end Tree

end Kompositum
