import Kompositum.Proofs.Candidate.Tree
import Mathlib.Logic.Function.Iterate

/-!
# Depth-first order by numbers

Whoever knows a tree by the numbers of its nodes goes through it in one of two ways: by recursion,
a node before everything below it and siblings one after the other, or with a stack of the numbers
that are still to be visited. Both give the candidates in the order in which the tree lists them.

* `Tree.Preorder`: the recursive order of the nodes from some numbers on. In a numbered tree it is
  that of the numbers in the tree (`Numbered.preorder_iff`).
* `Tree.Visit`: a walk with a stack. It ends, after as many steps as there are nodes
  (`Numbered.visit_all`), and comes to the nodes in depth-first order (`Numbered.visited_all`).
-/

namespace Kompositum.Tree

variable {t : Tree}

/-- **Depth-first order**: a node stands directly before what is below it, and siblings stand in the
order in which their parent lists them. -/
inductive Preorder (t : Tree) : List Nat → List Nat → Prop
  | nil : Preorder t [] []
  | cons {i : Nat} {is children below rest : List Nat} :
      t.children? i = some children → Preorder t children below → Preorder t is rest →
        Preorder t (i :: is) (i :: (below ++ rest))

/-- There is at most one such order. -/
theorem Preorder.unique {is l m : List Nat} (hl : t.Preorder is l) (hm : t.Preorder is m) :
    l = m := by
  induction hl generalizing m with
  | nil =>
    cases hm
    rfl
  | cons hchildren _ _ ihbelow ihrest =>
    cases hm with
    | cons hchildren' hbelow' hrest' =>
      rw [hchildren] at hchildren'
      obtain rfl := Option.some.inj hchildren'
      rw [ihbelow hbelow', ihrest hrest']

theorem Numbered.value?_of_mem (ht : t.Numbered) {i : Nat} {c : Candidate} {b : Forest}
    (h : (i, c, b) ∈ t.nodes) : t.value? i = some c := by
  rw [value?, ht.find?_eq_some_iff.2 h]
  rfl

theorem Numbered.children?_of_mem (ht : t.Numbered) {i : Nat} {c : Candidate} {b : Forest}
    (h : (i, c, b) ∈ t.nodes) : t.children? i = some b.roots := by
  rw [children?, ht.find?_eq_some_iff.2 h]
  rfl

theorem nodes_below_subset (t : Tree) : t.below.nodes ⊆ t.nodes := fun _ h =>
  List.mem_cons_of_mem _ h

/-- A part of a numbered tree, from its topmost nodes on. -/
theorem Numbered.preorder_part (ht : t.Numbered) {f : Forest} (hf : f.nodes ⊆ t.nodes) :
    t.Preorder f.roots f.ids := by
  induction f with
  | nil => exact .nil
  | node i c b n ihb ihn =>
    obtain ⟨hi, hrest⟩ := List.cons_subset.1 hf
    obtain ⟨hb, hn⟩ := List.append_subset.1 hrest
    rw [Forest.ids_node]
    exact .cons (ht.children?_of_mem hi) (ihb hb) (ihn hn)

/-- **The depth-first order** of a numbered tree. -/
theorem Numbered.preorder_iff (ht : t.Numbered) {l : List Nat} :
    t.Preorder [0] l ↔ l = t.ids := by
  have hroot : t.Preorder [0] (0 :: (t.below.ids ++ [])) :=
    .cons (ht.children?_of_mem List.mem_cons_self) (ht.preorder_part t.nodes_below_subset) .nil
  rw [List.append_nil] at hroot
  constructor
  · exact fun hl => hl.unique hroot
  · rintro rfl
    exact hroot

/-- **A walk with a stack**: the numbers still to be visited, the next one last, and the candidates
visited so far. -/
structure Visit where
  stack : List Nat
  visited : List Candidate

/-- One step: the node on top of the stack is visited and gives way to its children, the first one
on top. A walk is at its end with an empty stack, and stands still at a number that is no node. -/
def Visit.step (t : Tree) (v : Visit) : Visit :=
  match v.stack.getLast?.bind t.find? with
  | none => v
  | some (c, below) => ⟨v.stack.dropLast ++ below.roots.reverse, v.visited ++ [c]⟩

/-- A step at a node of the tree. -/
theorem Numbered.step_eq (ht : t.Numbered) {i : Nat} {c : Candidate} {b : Forest}
    (hi : (i, c, b) ∈ t.nodes) (stack : List Nat) (visited : List Candidate) :
    Visit.step t ⟨stack ++ [i], visited⟩ = ⟨stack ++ b.roots.reverse, visited ++ [c]⟩ := by
  unfold Visit.step
  rw [List.getLast?_concat, Option.bind_some, ht.find?_eq_some_iff.2 hi, List.dropLast_concat]

/-- **A part of the tree on top of the stack** is visited before what is deeper in the stack. -/
theorem Numbered.visit_part (ht : t.Numbered) {f : Forest} (hf : f.nodes ⊆ t.nodes)
    (stack : List Nat) (visited : List Candidate) :
    (Visit.step t)^[f.size] ⟨stack ++ f.roots.reverse, visited⟩ =
      ⟨stack, visited ++ f.candidates⟩ := by
  induction f generalizing stack visited with
  | nil => simp [Forest.size, Forest.roots, Forest.candidates]
  | node i c b n ihb ihn =>
    obtain ⟨hi, hrest⟩ := List.cons_subset.1 hf
    obtain ⟨hb, hn⟩ := List.append_subset.1 hrest
    -- first the node, then what is below it, then the later trees
    have hsize : (Forest.node i c b n).size = n.size + (b.size + 1) := by
      rw [Forest.size]
      omega
    have hstack : stack ++ (Forest.node i c b n).roots.reverse =
        (stack ++ n.roots.reverse) ++ [i] := by
      rw [Forest.roots, List.reverse_cons, List.append_assoc]
    rw [hsize, hstack, Function.iterate_add_apply, Function.iterate_succ_apply,
      ht.step_eq hi, ihb hb, ihn hn]
    simp [Forest.candidates]

/-- **The walk with a stack** visits all candidates in depth-first order and ends. -/
theorem Numbered.visit_all (ht : t.Numbered) :
    (Visit.step t)^[t.size] ⟨[0], []⟩ = ⟨[], t.candidates⟩ := by
  have hroot : Visit.step t ⟨[] ++ [0], []⟩ = _ := ht.step_eq List.mem_cons_self [] []
  have hsize : t.size = t.below.size + 1 := Nat.add_comm 1 _
  rw [List.nil_append] at hroot
  rw [hsize, Function.iterate_succ_apply, hroot, ht.visit_part t.nodes_below_subset]
  rfl

/-- The numbers that a walk comes to in so many steps. -/
def Visit.numbers (t : Tree) (v : Visit) : Nat → List Nat
  | 0 => []
  | n + 1 => v.stack.getLast?.toList ++ numbers t (v.step t) n

theorem Visit.numbers_add (v : Visit) (m n : Nat) :
    v.numbers t (m + n) = v.numbers t m ++ ((step t)^[m] v).numbers t n := by
  induction m generalizing v with
  | zero => rw [Nat.zero_add]; rfl
  | succ m ih =>
    rw [Nat.add_right_comm, numbers, numbers, ih, List.append_assoc, Function.iterate_succ_apply]

/-- **A part of the tree on top of the stack** is come to in depth-first order. -/
theorem Numbered.visited_part (ht : t.Numbered) {f : Forest} (hf : f.nodes ⊆ t.nodes)
    (stack : List Nat) (visited : List Candidate) :
    Visit.numbers t ⟨stack ++ f.roots.reverse, visited⟩ f.size = f.ids := by
  induction f generalizing stack visited with
  | nil => rfl
  | node i c b n ihb ihn =>
    obtain ⟨hi, hrest⟩ := List.cons_subset.1 hf
    obtain ⟨hb, hn⟩ := List.append_subset.1 hrest
    have hsize : (Forest.node i c b n).size = (b.size + n.size) + 1 := by
      rw [Forest.size]
      omega
    have hstack : stack ++ (Forest.node i c b n).roots.reverse =
        (stack ++ n.roots.reverse) ++ [i] := by
      rw [Forest.roots, List.reverse_cons, List.append_assoc]
    rw [hsize, hstack, Visit.numbers, ht.step_eq hi, Visit.numbers_add, ihb hb,
      ht.visit_part hb, ihn hn, List.getLast?_concat, Forest.ids_node]
    rfl

/-- **The walk with a stack** comes to the nodes in depth-first order. -/
theorem Numbered.visited_all (ht : t.Numbered) :
    Visit.numbers t ⟨[0], []⟩ t.size = t.ids := by
  have hroot : Visit.step t ⟨[] ++ [0], []⟩ = _ := ht.step_eq List.mem_cons_self [] []
  have hsize : t.size = t.below.size + 1 := Nat.add_comm 1 _
  rw [List.nil_append] at hroot
  rw [hsize, Visit.numbers, hroot, ht.visited_part t.nodes_below_subset]
  rfl

end Kompositum.Tree
