import Kompositum.Candidate.Refinement

/-!
# Trees of candidates

A tree holds the readings of one word. The root is the coarsest; every other candidate refines
the one above it. Nodes are numbered in the order in which they were added, the root being 0.

* `Tree.addChild`: a tree with one more candidate, refused unless it refines its parent.
* `Tree.attempt`: the same with the number of the new node.
* `Tree.candidates`: all candidates in depth-first order, every node before what is below it.
-/

namespace Kompositum

/-- The nodes below one node: the first child with what is below it, and its later siblings. -/
inductive Forest where
  | nil
  | node (id : Nat) (value : Candidate) (below next : Forest)
deriving DecidableEq, Repr

namespace Forest

/-- The number of nodes. -/
def size : Forest → Nat
  | nil => 0
  | node _ _ below next => 1 + below.size + next.size

/-- The numbers of the topmost nodes. -/
def roots : Forest → List Nat
  | nil => []
  | node id _ _ next => id :: next.roots

/-- The candidates in depth-first order. -/
def candidates : Forest → List Candidate
  | nil => []
  | node _ c below next => c :: (below.candidates ++ next.candidates)

/-- The candidates in depth-first order, each with its depth. -/
def outline (depth : Nat) : Forest → List (Nat × Candidate)
  | nil => []
  | node _ c below next => (depth, c) :: (below.outline (depth + 1) ++ next.outline depth)

/-- A node with the given number: its candidate and what is below it. -/
def find? (id : Nat) : Forest → Option (Candidate × Forest)
  | nil => none
  | node i c below next =>
    if i = id then some (c, below) else (below.find? id).orElse fun _ => next.find? id

/-- One more tree after the last one. -/
def snoc (id : Nat) (c : Candidate) : Forest → Forest
  | nil => node id c nil nil
  | node i d below next => node i d below (next.snoc id c)

/-- One more child, after the others, below the node numbered `parent`. -/
def addBelow (parent id : Nat) (c : Candidate) : Forest → Forest
  | nil => nil
  | node i d below next =>
    node i d (if i = parent then below.snoc id c else below.addBelow parent id c)
      (next.addBelow parent id c)

end Forest

/-- The readings of one word. -/
structure Tree where
  root : Candidate
  below : Forest
deriving DecidableEq, Repr

/-- Why a candidate cannot be added to a tree. -/
inductive TreeFault where
  /-- The tree has no node of this number. -/
  | foreignNode (id : Nat)
  /-- The candidate does not refine the one above it. -/
  | notRefining (child parent : Candidate)
deriving DecidableEq, Repr

namespace Tree

/-- The tree that holds one candidate. -/
def single (root : Candidate) : Tree := ⟨root, .nil⟩

/-- The number of candidates, the number that the next node gets. -/
def size (t : Tree) : Nat := 1 + t.below.size

/-- The candidate of a node and what is below it. -/
def find? (t : Tree) (id : Nat) : Option (Candidate × Forest) :=
  if id = 0 then some (t.root, t.below) else t.below.find? id

/-- The candidate of a node. -/
def value? (t : Tree) (id : Nat) : Option Candidate := (t.find? id).map Prod.fst

/-- The numbers of the children of a node, in the order of their addition. -/
def children? (t : Tree) (id : Nat) : Option (List Nat) := (t.find? id).map fun n => n.2.roots

/-- **One more candidate below a node**, refused unless it refines the candidate there. -/
def addChild (t : Tree) (parent : Nat) (c : Candidate) : Except TreeFault Tree :=
  match t.value? parent with
  | none => .error (.foreignNode parent)
  | some p =>
    if c.Refines p then
      .ok { t with
        below := if parent = 0 then t.below.snoc t.size c else t.below.addBelow parent t.size c }
    else .error (.notRefining c p)

/-- **An addition that may be refused**: the number of the new node or the fault, and the tree after
it. -/
def attempt (t : Tree) (parent : Nat) (c : Candidate) : Except TreeFault Nat × Tree :=
  match t.addChild parent c with
  | .ok u => (.ok t.size, u)
  | .error fault => (.error fault, t)

/-- **All candidates in depth-first order**, the root first. -/
def candidates (t : Tree) : List Candidate := t.root :: t.below.candidates

/-- All candidates in depth-first order, each with its depth. -/
def outline (t : Tree) : List (Nat × Candidate) := (0, t.root) :: t.below.outline 1

end Tree

end Kompositum
