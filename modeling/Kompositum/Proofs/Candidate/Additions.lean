import Kompositum.Proofs.Candidate.Preorder
import Kompositum.Proofs.Candidate.Refinement
import Mathlib.Data.List.Nodup
import Mathlib.Data.List.Pairwise

/-!
# Trees after any row of additions

Whatever is tried to be added to a new tree, and wherever, the tree stays in order: every node but
the root is the child of exactly one node, which was there before it, candidates become finer on the
way down, and the tree lists each of its nodes once in depth-first order.

* `Forest.Descending`: numbers and candidates on the way down from a node.
* `Tree.Grown`: what one more node keeps (`Grown.addChild`), and with it any row of attempts
  (`grown_additions`).
* `Tree.Added`: what one more node changes.
* `Tree.InOrder`: what holds of the tree as it is known by the numbers of its nodes.
* `Tree.additions_inOrder`: it holds after any row of attempts.
-/

namespace Kompositum

namespace Forest

variable {f g : Forest} {c d : Candidate} {i j k p : Nat}

/-- **Numbers and candidates on the way down** from a node: those below it have greater numbers and
refine it, and siblings stand in the order of their numbers. -/
def Descending (p : Nat) (d : Candidate) : Forest → Prop
  | nil => True
  | node i c below next =>
    p < i ∧ c.Refines d ∧ (∀ j ∈ next.roots, i < j) ∧ below.Descending i c ∧ next.Descending p d

theorem roots_append (f g : Forest) : (f.append g).roots = f.roots ++ g.roots := by
  rw [← map_fst_tops]
  induction f with
  | nil => simp [append, roots, map_fst_tops]
  | node i c b n _ ihn => simp [append, tops, roots, ihn]

theorem roots_graft (f g : Forest) (p : Nat) : (f.graft p g).roots = f.roots := by
  induction f with
  | nil => rfl
  | node i c b n _ ihn => rw [graft, roots, roots, ihn]

/-- The candidates on top refine the one above. -/
theorem Descending.of_mem_tops (hf : f.Descending p d) (hj : (j, c) ∈ f.tops) :
    p < j ∧ c.Refines d := by
  induction f with
  | nil => simp [tops] at hj
  | node i e b n _ ihn =>
    obtain ⟨hlt, href, -, -, hn⟩ := hf
    rcases List.mem_cons.1 hj with heq | hj
    · obtain ⟨rfl, rfl⟩ := Prod.mk.inj heq
      exact ⟨hlt, href⟩
    · exact ihn hn hj

theorem Descending.ascending (hf : f.Descending p d) : f.roots.Pairwise (· < ·) := by
  induction f with
  | nil => exact .nil
  | node i c b n _ ihn =>
    obtain ⟨-, -, hlater, -, hn⟩ := hf
    exact .cons hlater (ihn hn)

/-- What is below a node descends from it. -/
theorem Descending.below (hf : f.Descending p d) {b : Forest} (hi : (i, c, b) ∈ f.nodes) :
    b.Descending i c := by
  induction f generalizing p d with
  | nil => simp at hi
  | node j e below next ihb ihn =>
    obtain ⟨-, -, -, hb, hn⟩ := hf
    rw [nodes, List.mem_cons, List.mem_append] at hi
    rcases hi with heq | hi | hi
    · obtain ⟨rfl, rfl, rfl⟩ : i = j ∧ c = e ∧ b = below := by simpa using heq
      exact hb
    · exact ihb hb hi
    · exact ihn hn hi

/-- **One more node** after the others, with a greater number. -/
theorem Descending.append_node (hf : f.Descending p d) (hp : p < k) (hc : c.Refines d)
    (hk : ∀ j ∈ f.ids, j < k) : (f.append (node k c nil nil)).Descending p d := by
  induction f with
  | nil => exact ⟨hp, hc, by simp [roots], trivial, trivial⟩
  | node i e b n _ ihn =>
    obtain ⟨hlt, href, hlater, hb, hn⟩ := hf
    simp only [ids_node, List.mem_cons, List.mem_append] at hk
    refine ⟨hlt, href, fun j hj => ?_, hb, ihn hn fun j hj => hk j (.inr (.inr hj))⟩
    rw [roots_append, List.mem_append] at hj
    rcases hj with hj | hj
    · exact hlater j hj
    · obtain rfl := List.mem_singleton.1 hj
      exact hk i (.inl rfl)

/-- **One more node** below a node that it refines, with a number greater than all others. -/
theorem Descending.graft_node (hf : f.Descending p d) (hk : ∀ j ∈ f.ids, j < k)
    (hc : ∀ e b, (i, e, b) ∈ f.nodes → c.Refines e) :
    (f.graft i (node k c nil nil)).Descending p d := by
  induction f generalizing p d with
  | nil => trivial
  | node j e b n ihb ihn =>
    obtain ⟨hlt, href, hlater, hb, hn⟩ := hf
    simp only [ids_node, List.mem_cons, List.mem_append] at hk
    simp only [nodes, List.mem_cons, List.mem_append] at hc
    have hkb : ∀ x ∈ b.ids, x < k := fun x hx => hk x (.inr (.inl hx))
    have hkn : ∀ x ∈ n.ids, x < k := fun x hx => hk x (.inr (.inr hx))
    rw [graft]
    refine ⟨hlt, href, by rwa [roots_graft], ?_, ihn hn hkn fun x y h => hc x y (.inr (.inr h))⟩
    by_cases hji : j = i
    · subst hji
      rw [if_pos rfl]
      exact hb.append_node (hk j (.inl rfl)) (hc e b (.inl rfl)) hkb
    · rw [if_neg hji]
      exact ihb hb hkb fun x y h => hc x y (.inr (.inl h))

/-- **Grafting keeps the nodes**; only the one that is grafted to gets more children. -/
theorem exists_mem_nodes_graft {b : Forest} (hf : f.ids.Nodup) (h : (i, c, b) ∈ f.nodes)
    (p : Nat) (g : Forest) : ∃ b', (i, c, b') ∈ (f.graft p g).nodes ∧
      b'.roots = if i = p then b.roots ++ g.roots else b.roots := by
  induction f with
  | nil => simp at h
  | node j e below next ihb ihn =>
    rw [ids_node, List.nodup_cons, List.mem_append, not_or, List.nodup_append] at hf
    obtain ⟨⟨hjb, -⟩, hb, hn, -⟩ := hf
    rw [nodes, List.mem_cons, List.mem_append] at h
    rw [graft]
    rcases h with heq | h | h
    · obtain ⟨rfl, rfl, rfl⟩ : i = j ∧ c = e ∧ b = below := by simpa using heq
      refine ⟨_, List.mem_cons_self, ?_⟩
      by_cases hip : i = p
      · rw [if_pos hip, if_pos hip, roots_append]
      · rw [if_neg hip, if_neg hip, roots_graft]
    · by_cases hjp : j = p
      · -- the node grafted to stands above, and not here
        subst hjp
        have hij : i ≠ j := by
          rintro rfl
          exact hjb (List.mem_map.2 ⟨_, h, rfl⟩)
        refine ⟨b, List.mem_cons_of_mem _ (List.mem_append_left _ ?_), (if_neg hij).symm⟩
        rw [if_pos rfl, nodes_append]
        exact List.mem_append_left _ h
      · obtain ⟨b', hb', hroots⟩ := ihb hb h
        refine ⟨b', List.mem_cons_of_mem _ (List.mem_append_left _ ?_), hroots⟩
        rwa [if_neg hjp]
    · obtain ⟨b', hb', hroots⟩ := ihn hn h
      exact ⟨b', List.mem_cons_of_mem _ (List.mem_append_right _ hb'), hroots⟩

/-- **Every number stands in one child list**: those on top, and those below the nodes. -/
theorem perm_roots (f : Forest) :
    (f.roots ++ f.nodes.flatMap fun n => n.2.2.roots).Perm f.ids := by
  induction f with
  | nil => exact .refl _
  | node i c b n ihb ihn =>
    rw [roots, nodes, List.flatMap_cons, List.flatMap_append, ids_node, List.cons_append]
    refine List.Perm.cons i ?_
    -- the topmost numbers of the later trees move past what is below the node
    have hmove : (n.roots ++ (b.roots ++ ((b.nodes.flatMap fun x => x.2.2.roots) ++
        n.nodes.flatMap fun x => x.2.2.roots))).Perm
        ((b.roots ++ b.nodes.flatMap fun x => x.2.2.roots) ++
          (n.roots ++ n.nodes.flatMap fun x => x.2.2.roots)) := by
      rw [← List.append_assoc b.roots, ← List.append_assoc, ← List.append_assoc _ n.roots]
      exact List.perm_append_comm.append_right _
    exact hmove.trans (ihb.append ihn)

end Forest

namespace Tree

variable {t u : Tree} {c d : Candidate} {i j n p : Nat}

/-! ## Additions -/

/-- A new tree after a row of attempts, each with the number of a node and a candidate. -/
def additions (root : Candidate) (row : List (Nat × Candidate)) : Tree :=
  row.foldl (fun t x => (t.attempt x.1 x.2).2) (single root)

theorem addChild_eq_ok_iff :
    t.addChild p c = .ok u ↔
      ∃ d, t.value? p = some d ∧ c.Refines d ∧ u = t.graft p (.node t.size c .nil .nil) := by
  constructor
  · intro h
    cases hp : t.value? p with
    | none =>
      unfold addChild at h
      rw [hp] at h
      cases h
    | some d =>
      by_cases hc : c.Refines d
      · rw [addChild_eq_graft hp hc] at h
        exact ⟨d, rfl, hc, (Except.ok.inj h).symm⟩
      · unfold addChild at h
        rw [hp] at h
        simp only [if_neg hc] at h
        cases h
  · rintro ⟨d, hp, hc, rfl⟩
    exact addChild_eq_graft hp hc

/-- **What additions keep**: the nodes are numbered, and numbers and candidates descend from the
root. -/
structure Grown (t : Tree) : Prop where
  numbered : t.Numbered
  descending : t.below.Descending 0 t.root

theorem grown_single (root : Candidate) : (single root).Grown :=
  ⟨numbered_single root, trivial⟩

/-- **One more node** with the next number keeps this. -/
theorem Grown.addChild (ht : t.Grown) (h : t.addChild p c = .ok u) : u.Grown := by
  obtain ⟨d, hp, hc, rfl⟩ := addChild_eq_ok_iff.1 h
  have hsize : ∀ j ∈ t.below.ids, j < t.size := fun j hj =>
    ht.numbered.mem_ids_iff.1 (List.mem_cons_of_mem _ hj)
  refine ⟨ht.numbered.graft (ht.numbered.mem_ids_of_value? hp) (.refl _), ?_⟩
  unfold graft
  by_cases h0 : p = 0
  · subst h0
    obtain rfl : t.root = d := Option.some.inj hp
    have hpos : 0 < t.size := ht.numbered.mem_ids_iff.1 List.mem_cons_self
    rw [if_pos rfl]
    exact ht.descending.append_node hpos hc hsize
  · rw [if_neg h0]
    refine ht.descending.graft_node hsize fun e b he => ?_
    -- the number leads to one node only
    have hval : t.value? p = some e := ht.numbered.value?_of_mem (t.nodes_below_subset he)
    rw [hp] at hval
    exact Option.some.inj hval ▸ hc

/-- An attempt succeeds with the next number, or leaves the tree as it is. -/
theorem attempt_cases (t : Tree) (p : Nat) (c : Candidate) :
    (∃ u, t.addChild p c = .ok u ∧ t.attempt p c = (.ok t.size, u)) ∨
      ∃ fault, t.addChild p c = .error fault ∧ t.attempt p c = (.error fault, t) := by
  unfold attempt
  cases t.addChild p c with
  | ok u => exact .inl ⟨u, rfl, rfl⟩
  | error fault => exact .inr ⟨fault, rfl, rfl⟩

theorem Grown.attempt (ht : t.Grown) (p : Nat) (c : Candidate) :
    (t.attempt p c).2.Grown := by
  rcases t.attempt_cases p c with ⟨u, hu, heq⟩ | ⟨fault, -, heq⟩
  · rw [heq]
    exact ht.addChild hu
  · rw [heq]
    exact ht

theorem grown_additions (root : Candidate) (row : List (Nat × Candidate)) :
    (additions root row).Grown := by
  have hrun : ∀ {t : Tree}, t.Grown →
      (row.foldl (fun t x => (t.attempt x.1 x.2).2) t).Grown := by
    induction row with
    | nil => exact id
    | cons x row ih => exact fun ht => ih (ht.attempt x.1 x.2)
  exact hrun (grown_single root)

/-! ## Parents and children -/

/-- A node is listed as a child of another one. -/
def IsChild (t : Tree) (p j : Nat) : Prop := ∃ js, t.children? p = some js ∧ j ∈ js

/-- **The way down** from a node to another one, in so many steps. -/
inductive Leads (t : Tree) (i : Nat) : Nat → Nat → Prop
  | here : Leads t i 0 i
  | down {n p j : Nat} : Leads t i n p → t.IsChild p j → Leads t i (n + 1) j

theorem find?_eq_some_of_children? {js : List Nat} (h : t.children? p = some js) :
    ∃ d b, t.find? p = some (d, b) ∧ js = b.roots := by
  obtain ⟨⟨d, b⟩, hfind, rfl⟩ := Option.map_eq_some_iff.1 h
  exact ⟨d, b, hfind, rfl⟩

theorem Numbered.isChild_iff (ht : t.Numbered) :
    t.IsChild p j ↔ ∃ d b, (p, d, b) ∈ t.nodes ∧ j ∈ b.roots := by
  constructor
  · rintro ⟨js, hjs, hj⟩
    obtain ⟨d, b, hfind, rfl⟩ := find?_eq_some_of_children? hjs
    exact ⟨d, b, ht.find?_eq_some_iff.1 hfind, hj⟩
  · rintro ⟨d, b, hp, hj⟩
    exact ⟨b.roots, ht.children?_of_mem hp, hj⟩

theorem Grown.below (ht : t.Grown) {b : Forest} (hp : (p, d, b) ∈ t.nodes) :
    b.Descending p d := by
  rcases List.mem_cons.1 hp with heq | hp
  · obtain ⟨rfl, rfl, rfl⟩ : p = 0 ∧ d = t.root ∧ b = t.below := by simpa using heq
    exact ht.descending
  · exact ht.descending.below hp

/-- **A child** has a greater number than its parent, and refines it. -/
theorem Grown.child (ht : t.Grown) (h : t.IsChild p j) :
    p < j ∧ ∃ d c, t.value? p = some d ∧ t.value? j = some c ∧ c.Refines d := by
  obtain ⟨d, b, hp, hj⟩ := ht.numbered.isChild_iff.1 h
  rw [← Forest.map_fst_tops] at hj
  obtain ⟨⟨k, c⟩, hk, rfl⟩ := List.mem_map.1 hj
  obtain ⟨hlt, href⟩ := (ht.below hp).of_mem_tops hk
  have hkc : t.value? k = some c :=
    ht.numbered.value?_eq_some_iff.2 (entries_below_subset hp (Forest.tops_subset_entries b hk))
  exact ⟨hlt, d, c, ht.numbered.value?_of_mem hp, hkc, href⟩

theorem Numbered.isSome_value?_iff (ht : t.Numbered) :
    (t.value? i).isSome = true ↔ i < t.size := by
  rw [← ht.mem_ids_iff, ← map_fst_entries, Option.isSome_iff_exists, List.mem_map]
  constructor
  · rintro ⟨c, hc⟩
    exact ⟨(i, c), ht.value?_eq_some_iff.1 hc, rfl⟩
  · rintro ⟨⟨j, c⟩, hc, rfl⟩
    exact ⟨c, ht.value?_eq_some_iff.2 hc⟩

theorem Numbered.lt_size (ht : t.Numbered) (hi : t.value? i = some c) : i < t.size :=
  ht.isSome_value?_iff.1 (by rw [hi]; rfl)

/-- All child lists together hold every number but that of the root. -/
theorem perm_children (t : Tree) : (t.nodes.flatMap fun n => n.2.2.roots).Perm t.below.ids :=
  t.below.perm_roots

theorem Numbered.exists_parent (ht : t.Numbered) (h0 : j ≠ 0) (hj : j < t.size) :
    ∃ p, t.IsChild p j := by
  have hids : j ∈ t.below.ids := (List.mem_cons.1 (ht.mem_ids_iff.2 hj)).resolve_left h0
  obtain ⟨⟨p, d, b⟩, hp, hjb⟩ := List.mem_flatMap.1 (t.perm_children.mem_iff.2 hids)
  exact ⟨p, ht.isChild_iff.2 ⟨d, b, hp, hjb⟩⟩

theorem Numbered.parent_unique (ht : t.Numbered) {q : Nat} (hp : t.IsChild p j)
    (hq : t.IsChild q j) : p = q := by
  obtain ⟨d, b, hp, hjb⟩ := ht.isChild_iff.1 hp
  obtain ⟨e, b', hq, hjb'⟩ := ht.isChild_iff.1 hq
  have hnodup := t.perm_children.nodup_iff.2 (List.nodup_cons.1 ht.nodup).2
  have hdisjoint := (List.nodup_flatMap.1 hnodup).2
  have hsymm : Std.Symm (Function.onFun List.Disjoint fun n : Nat × Candidate × Forest =>
      n.2.2.roots) := ⟨fun _ _ h => List.disjoint_symm h⟩
  by_contra hne
  have hnodes : (p, d, b) ≠ (q, e, b') := fun heq => hne (Prod.mk.inj heq).1
  exact hdisjoint.forall hp hq hnodes hjb hjb'

/-- **Candidates become finer on the way down**, by a fragment at least with every step. -/
theorem Grown.leads (ht : t.Grown) (h : t.Leads i n j) (hi : t.value? i = some d) :
    ∃ c, t.value? j = some c ∧ d.size + n ≤ c.size ∧ (c = d ∨ c.Refines d) := by
  induction h with
  | here => exact ⟨d, hi, Nat.le_refl _, .inl rfl⟩
  | down _ hchild ih =>
    obtain ⟨e, he, hsize, hed⟩ := ih
    obtain ⟨-, e', c, he', hc, hce⟩ := ht.child hchild
    obtain rfl : e = e' := Option.some.inj (he.symm.trans he')
    have hlt := hce.size_lt
    refine ⟨c, hc, by omega, .inr ?_⟩
    rcases hed with rfl | hed
    · exact hce
    · exact hce.trans hed

/-- Numbers grow on the way down. -/
theorem Grown.leads_le (ht : t.Grown) (h : t.Leads i n j) : i + n ≤ j := by
  induction h with
  | here => exact Nat.le_refl i
  | down _ hchild ih =>
    have hlt := (ht.child hchild).1
    omega

/-- Every node is reached from the root. -/
theorem Grown.exists_leads (ht : t.Grown) (hj : j < t.size) : ∃ n, t.Leads 0 n j := by
  induction j using Nat.strongRecOn with
  | ind j ih =>
    rcases Nat.eq_zero_or_pos j with rfl | h0
    · exact ⟨0, .here⟩
    · obtain ⟨p, hp⟩ := ht.numbered.exists_parent (Nat.ne_of_gt h0) hj
      have hlt := (ht.child hp).1
      obtain ⟨n, hn⟩ := ih p hlt (Nat.lt_trans hlt hj)
      exact ⟨n + 1, .down hn hp⟩

/-! ## One more node -/

/-- The child lists after grafting. -/
theorem Numbered.children?_graft (ht : t.Numbered) (hp : p ∈ t.ids) {g : Forest}
    (hg : g.ids.Perm (List.range' t.size g.size)) {js : List Nat} (h : t.children? i = some js) :
    (t.graft p g).children? i = some (if i = p then js ++ g.roots else js) := by
  obtain ⟨d, b, hfind, rfl⟩ := find?_eq_some_of_children? h
  suffices ∃ b', (i, d, b') ∈ (t.graft p g).nodes ∧
      b'.roots = if i = p then b.roots ++ g.roots else b.roots by
    obtain ⟨b', hb', hroots⟩ := this
    rw [(ht.graft hp hg).children?_of_mem hb', hroots]
  obtain ⟨h0, hbelow⟩ := List.nodup_cons.1 ht.nodup
  unfold Tree.graft
  rcases List.mem_cons.1 (ht.find?_eq_some_iff.1 hfind) with heq | hi
  · obtain ⟨rfl, rfl, rfl⟩ : i = 0 ∧ d = t.root ∧ b = t.below := by simpa using heq
    refine ⟨_, List.mem_cons_self, ?_⟩
    by_cases hp0 : p = 0
    · rw [if_pos hp0, if_pos hp0.symm, Forest.roots_append]
    · rw [if_neg hp0, if_neg (Ne.symm hp0), Forest.roots_graft]
  · by_cases hp0 : p = 0
    · have hip : i ≠ p := by
        rintro rfl
        exact h0 (hp0 ▸ List.mem_map.2 ⟨_, hi, rfl⟩)
      refine ⟨b, List.mem_cons_of_mem _ ?_, (if_neg hip).symm⟩
      rw [if_pos hp0, Forest.nodes_append]
      exact List.mem_append_left _ hi
    · obtain ⟨b', hb', hroots⟩ := Forest.exists_mem_nodes_graft hbelow hi p g
      refine ⟨b', List.mem_cons_of_mem _ ?_, hroots⟩
      rwa [if_neg hp0]

theorem children?_eq_none_iff : t.children? i = none ↔ t.value? i = none := by
  rw [children?, value?, Option.map_eq_none_iff, Option.map_eq_none_iff]

/-- **What one more node changes.** -/
structure Added (t : Tree) (p : Nat) (c : Candidate) (u : Tree) : Prop where
  size : u.size = t.size + 1
  /-- The candidate has the next number. -/
  value : u.value? t.size = some c
  /-- It is the last child of its parent. -/
  children : ∃ js, t.children? p = some js ∧ u.children? p = some (js ++ [t.size])
  /-- The other nodes keep their candidates. -/
  values : ∀ i, i ≠ t.size → u.value? i = t.value? i
  /-- The other nodes keep their children. -/
  others : ∀ i, i ≠ t.size → i ≠ p → u.children? i = t.children? i

theorem Numbered.added (ht : t.Numbered) (h : t.addChild p c = .ok u) : t.Added p c u := by
  obtain ⟨d, hd, -, rfl⟩ := addChild_eq_ok_iff.1 h
  have hp := ht.mem_ids_of_value? hd
  have hnode : (Forest.node t.size c .nil .nil).ids.Perm
      (List.range' t.size (Forest.node t.size c .nil .nil).size) := .refl _
  have hu := ht.graft hp hnode
  have hsize : (t.graft p (.node t.size c .nil .nil)).size = t.size + 1 := size_graft ht hp _
  -- the numbers that are not in use before and are not that of the new node are not in use after
  have hnone : ∀ i, i ≠ t.size → t.value? i = none →
      (t.graft p (.node t.size c .nil .nil)).value? i = none := by
    intro i hi hvalue
    have hlt := ht.isSome_value?_iff (i := i)
    have hlt' := hu.isSome_value?_iff (i := i)
    rw [hvalue] at hlt
    rw [← Option.not_isSome_iff_eq_none, hlt', hsize]
    simp at hlt
    omega
  refine
    { size := hsize
      value := ht.value?_graft hp hnode (.inr List.mem_cons_self)
      children := ?_, values := ?_, others := ?_ }
  · cases hjs : t.children? p with
    | none =>
      rw [children?_eq_none_iff.1 hjs] at hd
      cases hd
    | some js =>
      refine ⟨js, rfl, ?_⟩
      rw [ht.children?_graft hp hnode hjs, if_pos rfl]
      rfl
  · intro i hi
    cases hvalue : t.value? i with
    | none => exact hnone i hi hvalue
    | some e => exact ht.value?_graft hp hnode (.inl hvalue)
  · intro i hi hip
    cases hjs : t.children? i with
    | none => exact children?_eq_none_iff.2 (hnone i hi (children?_eq_none_iff.1 hjs))
    | some js => rw [ht.children?_graft hp hnode hjs, if_neg hip]

/-! ## The tree in order -/

/-- **A tree in order**, as it is known by the numbers of its nodes. -/
structure InOrder (t : Tree) : Prop where
  /-- The nodes have the numbers below the size. -/
  numbers : ∀ i, (t.value? i).isSome = true ↔ i < t.size
  /-- Every node but the root is the child of exactly one node. -/
  one_parent : ∀ j, 0 < j → j < t.size → ∃! p, t.IsChild p j
  /-- Children are listed once, in the order of their addition. -/
  siblings : ∀ p js, t.children? p = some js → js.Pairwise (· < ·)
  /-- Parents were there before their children. -/
  parent_first : ∀ p j, t.IsChild p j → p < j ∧ j < t.size
  /-- A node strictly refines everything that it is below. -/
  refines_above : ∀ i n j, t.Leads i n j → 0 < n →
    ∃ d c, t.value? i = some d ∧ t.value? j = some c ∧ c.Refines d
  /-- Every node is below the root, at a depth less than the number of its fragments. -/
  depth_lt : ∀ j c, t.value? j = some c →
    (∃ n, t.Leads 0 n j) ∧ ∀ n, t.Leads 0 n j → n < c.size
  /-- The candidates are those of the nodes in depth-first order, with every node once. -/
  preorder : ∃ order, (∀ l, t.Preorder [0] l ↔ l = order) ∧ order.Perm (List.range t.size) ∧
    t.candidates.map some = order.map t.value?
  /-- A walk with a stack finds them in this order and ends. -/
  visit : (Visit.step t)^[t.size] ⟨[0], []⟩ = ⟨[], t.candidates⟩
  length_candidates : t.candidates.length = t.size

theorem Numbered.map_value?_ids (ht : t.Numbered) :
    t.candidates.map some = t.ids.map t.value? := by
  rw [← map_snd_entries, ← map_fst_entries, List.map_map, List.map_map]
  refine List.map_congr_left fun x hx => ?_
  exact (ht.value?_eq_some_iff.2 hx).symm

/-- Where depth-first order is that of the numbers, a node has the place of its number. -/
theorem Numbered.value?_eq_getElem? (ht : t.Numbered) (hids : t.ids = List.range t.size)
    (i : Nat) : t.value? i = t.candidates[i]? := by
  have hplace : (t.candidates.map some)[i]? = ((List.range t.size).map t.value?)[i]? := by
    rw [ht.map_value?_ids, hids]
  rw [List.getElem?_map, List.getElem?_map] at hplace
  by_cases hi : i < t.size
  · rw [List.getElem?_range hi] at hplace
    obtain ⟨c, hc, hvalue⟩ := Option.map_eq_some_iff.1 hplace
    rw [hc, ← hvalue]
  · have hrange : (List.range t.size)[i]? = none := List.getElem?_eq_none (by simpa using hi)
    have hnone : t.value? i = none := by simpa [hi] using ht.isSome_value?_iff (i := i)
    rw [hrange, Option.map_none, Option.map_eq_none_iff] at hplace
    rw [hplace, hnone]

theorem Grown.refines_above (ht : t.Grown) (h : t.Leads i n j) (hn : 0 < n) :
    ∃ d c, t.value? i = some d ∧ t.value? j = some c ∧ c.Refines d := by
  obtain ⟨m, rfl⟩ : ∃ m, n = m + 1 := ⟨n - 1, by omega⟩
  obtain ⟨p, hchild⟩ : ∃ p, t.IsChild p j := by
    cases h with
    | down _ hchild => exact ⟨_, hchild⟩
  -- the number above is in use, as it is smaller than that of a child
  obtain ⟨-, -, c, -, hc, -⟩ := ht.child hchild
  have hj : j < t.size := ht.numbered.lt_size hc
  have hle := ht.leads_le h
  obtain ⟨d, hd⟩ := Option.isSome_iff_exists.1
    (ht.numbered.isSome_value?_iff.2 (show i < t.size by omega))
  obtain ⟨c, hc, hsize, heq | href⟩ := ht.leads h hd
  · rw [heq] at hsize
    omega
  · exact ⟨d, c, hd, hc, href⟩

theorem Grown.inOrder (ht : t.Grown) : t.InOrder where
  numbers _ := ht.numbered.isSome_value?_iff
  one_parent j h0 hj := by
    obtain ⟨p, hp⟩ := ht.numbered.exists_parent (Nat.ne_of_gt h0) hj
    exact ⟨p, hp, fun q hq => ht.numbered.parent_unique hq hp⟩
  siblings p js hjs := by
    obtain ⟨d, b, hfind, rfl⟩ := find?_eq_some_of_children? hjs
    exact (ht.below (ht.numbered.find?_eq_some_iff.1 hfind)).ascending
  parent_first p j h := by
    obtain ⟨hlt, -, c, -, hc, -⟩ := ht.child h
    exact ⟨hlt, ht.numbered.lt_size hc⟩
  refines_above i n j h hn := ht.refines_above h hn
  depth_lt j c hc := by
    refine ⟨ht.exists_leads (ht.numbered.lt_size hc), fun n hn => ?_⟩
    obtain ⟨c', hc', hsize, -⟩ := ht.leads hn (d := t.root) rfl
    obtain rfl : c = c' := Option.some.inj (hc.symm.trans hc')
    have hroot : 0 < t.root.size := List.length_pos_of_ne_nil t.root.ne_nil
    omega
  preorder :=
    ⟨t.ids, fun _ => ht.numbered.preorder_iff, ht.numbered, ht.numbered.map_value?_ids⟩
  visit := ht.numbered.visit_all
  length_candidates := by
    rw [← map_snd_entries, List.length_map, ← length_ids, ← map_fst_entries, List.length_map]

/-- **Trees after any row of additions are in order.** One more attempt adds a node with the next
number exactly if the candidate refines the one above it, and leaves the tree as it is otherwise. -/
theorem additions_inOrder (root : Candidate) (row : List (Nat × Candidate)) :
    let t := additions root row
    t.InOrder ∧
      (∀ p c, (t.attempt p c).1 = .ok t.size ↔ ∃ d, t.value? p = some d ∧ c.Refines d) ∧
      (∀ p c id, (t.attempt p c).1 = .ok id → id = t.size ∧ t.Added p c (t.attempt p c).2) ∧
      ∀ p c fault, (t.attempt p c).1 = .error fault → (t.attempt p c).2 = t := by
  intro t
  have ht : t.Grown := grown_additions root row
  refine ⟨ht.inOrder, fun p c => ?_, fun p c id h => ?_, fun p c fault h => ?_⟩
  · constructor
    · intro h
      rcases t.attempt_cases p c with ⟨u, hu, -⟩ | ⟨fault, -, heq⟩
      · obtain ⟨d, hd, hc, -⟩ := addChild_eq_ok_iff.1 hu
        exact ⟨d, hd, hc⟩
      · rw [heq] at h
        cases h
    · rintro ⟨d, hd, hc⟩
      unfold attempt
      rw [addChild_eq_graft hd hc]
  · rcases t.attempt_cases p c with ⟨u, hu, heq⟩ | ⟨fault, -, heq⟩
    · rw [heq] at h ⊢
      exact ⟨(Except.ok.inj h).symm, ht.numbered.added hu⟩
    · rw [heq] at h
      cases h
  · rcases t.attempt_cases p c with ⟨u, -, heq⟩ | ⟨fault, -, heq⟩
    · rw [heq] at h
      cases h
    · rw [heq]

end Tree

end Kompositum
