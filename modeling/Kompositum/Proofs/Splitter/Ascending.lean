import Kompositum.Proofs.Candidate.Additions
import Kompositum.Proofs.Splitter.Exhaustive
import Mathlib.Data.List.Lex
import Mathlib.Data.List.Pairwise

/-!
# Readings in ascending order

Splitting from left to right lists the readings of a word in an order that can be told from the
readings alone: by how much each fragment covers, less before more, and among fragments that cover
the same text by the morpheme, none before the first of the set, the first before the second. A
reading stands before those that come from it.

* `place`: how much a fragment covers, and its morpheme by its position in the set.
* `key`: the places of all fragments but the last.
* `pairwise_heads`: heads are taken off in ascending order of their places.
* `split_ascending`: the keys of the readings ascend, and the nodes have been added in the order in
  which they are listed.
-/

namespace Kompositum.Exhaustive

/-- Without a morpheme 0, and with one 1 and the position of the morpheme in the set. -/
def variant (s : Exhaustive) (f : Fragment) : Nat :=
  match f.morpheme with
  | none => 0
  | some m => 1 + s.morphemes.toList.idxOf m

/-- **The place of a fragment** among all that a remainder can begin with. -/
def place (s : Exhaustive) (f : Fragment) : Nat × Nat := (f.size, s.variant f)

/-- **The key of a candidate**: the places of its fragments but for the last one. -/
def key (s : Exhaustive) (c : Candidate) : List (Nat × Nat) := c.fragments.dropLast.map s.place

/-- Places by how much is covered, then by the morpheme. -/
def PlaceBefore : Nat × Nat → Nat × Nat → Prop := Prod.Lex (· < ·) (· < ·)

/-- **The order of keys**: by the first places that differ, a proper beginning before its
continuations. -/
def KeyBefore : List (Nat × Nat) → List (Nat × Nat) → Prop := List.Lex PlaceBefore

variable {s : Exhaustive} {c d : Candidate}

theorem keyBefore_append (k : List (Nat × Nat)) (p : Nat × Nat) (ps : List (Nat × Nat)) :
    KeyBefore k (k ++ p :: ps) := by
  have h : KeyBefore (k ++ []) (k ++ p :: ps) := List.Lex.append_left _ .nil k
  rwa [List.append_nil] at h

theorem keyBefore_of_placeBefore (k : List (Nat × Nat)) {p q : Nat × Nat} (h : PlaceBefore p q)
    (ps qs : List (Nat × Nat)) : KeyBefore (k ++ p :: ps) (k ++ q :: qs) :=
  List.Lex.append_left _ (.rel h) k

/-! ## Heads -/

/-- Morphemes stand in the set in the order of their positions. -/
theorem pairwise_idxOf (ms : Morphemes) :
    ms.toList.Pairwise fun m n => ms.toList.idxOf m < ms.toList.idxOf n := by
  rw [List.pairwise_iff_getElem]
  intro i j hi hj hij
  rw [ms.nodup.idxOf_getElem i hi, ms.nodup.idxOf_getElem j hj]
  exact hij

theorem place_linked (s : Exhaustive) {stem m : Text} (hm : m ≠ []) :
    s.place (.linked stem m) = ((stem ++ m).length, 1 + s.morphemes.toList.idxOf m) := by
  have hmorpheme : (Fragment.linked stem m).morpheme = some m := by
    simp [Fragment.linked, hm]
  unfold place variant Fragment.size Fragment.surface
  rw [hmorpheme]
  rfl

/-- **The constituents that cover a text** are found in ascending order of their places. -/
theorem pairwise_covering (s : Exhaustive) (left : Text) :
    (s.covering left).Pairwise fun f g => PlaceBefore (s.place f) (s.place g) := by
  unfold covering
  rw [List.pairwise_append]
  refine ⟨by split <;> simp, ?_, ?_⟩
  · rw [List.pairwise_filterMap]
    refine (pairwise_idxOf s.morphemes).imp_of_mem ?_
    intro m n hm hn hmn f hf g hg
    simp only [Option.bind_eq_some_iff, Option.ite_none_right_eq_some, Option.some.injEq,
      Text.stripSuffix?_eq_some_iff] at hf hg
    obtain ⟨stem, hleft, -, rfl⟩ := hf
    obtain ⟨stem', hleft', -, rfl⟩ := hg
    rw [place_linked s (s.morphemes.ne_nil m hm), place_linked s (s.morphemes.ne_nil n hn),
      ← hleft, ← hleft']
    apply Prod.Lex.right
    omega
  · intro f hf g hg
    -- the text itself has no morpheme, all others have one
    simp only [List.mem_filterMap, Option.bind_eq_some_iff, Option.ite_none_right_eq_some,
      Option.some.injEq, Text.stripSuffix?_eq_some_iff] at hg
    obtain ⟨m, hm, stem, hleft, -, rfl⟩ := hg
    have hplain : f = .plain left := by
      split at hf
      · exact List.mem_singleton.1 hf
      · simp at hf
    have hplace : s.place f = ((stem ++ m).length, 0) := by
      rw [hplain, ← hleft]
      unfold place Fragment.size
      rw [Fragment.surface_plain]
      rfl
    rw [hplace, place_linked s (s.morphemes.ne_nil m hm)]
    apply Prod.Lex.right
    omega

/-- **Heads are taken off a remainder in ascending order** of their places. -/
theorem pairwise_heads (s : Exhaustive) (r : Text) :
    (s.heads r).Pairwise fun g h => PlaceBefore (s.place g.1) (s.place h.1) := by
  unfold heads
  rw [List.pairwise_flatMap]
  constructor
  · intro i _
    rw [List.pairwise_map]
    exact pairwise_covering s _
  · refine (s.cuts.ascending r).imp_of_mem ?_
    intro i j hi hj hij g hg h hh
    obtain ⟨f, hf, rfl⟩ := List.mem_map.1 hg
    obtain ⟨f', hf', rfl⟩ := List.mem_map.1 hh
    -- a head covers the text before its cut
    have hsize : f.size < f'.size := by
      have hsurface := (mem_covering_iff.1 hf).surface
      have hsurface' := (mem_covering_iff.1 hf').surface
      have := s.cuts.interior r i hi
      have := s.cuts.interior r j hj
      unfold Fragment.size
      rw [hsurface, hsurface', List.length_take, List.length_take]
      omega
    exact Prod.Lex.left _ _ hsize

/-! ## What grows below a candidate -/

theorem key_cutLast (s : Exhaustive) (c : Candidate) (h : Fragment × Text) :
    s.key (cutLast c h) = s.key c ++ [s.place h.1] := by
  unfold key
  rw [dropLast_fragments_cutLast, List.map_append]
  rfl

/-- The key of what grows from some heads goes on with the place of one of them. -/
theorem key_of_mem_plant {id : Nat} {hs : List {h // h ∈ s.heads c.last.word}}
    (hgrow : ∀ h ∈ hs, ∀ id, ∀ d ∈ (s.grow id (cutLast c h.1)).candidates,
      ∃ p ps, s.key d = s.key (cutLast c h.1) ++ p :: ps)
    (hd : d ∈ (s.plant id c hs).candidates) :
    ∃ h ∈ hs, ∃ ps, s.key d = s.key c ++ s.place h.1.1 :: ps := by
  induction hs generalizing id with
  | nil =>
    rw [plant_nil] at hd
    simp [Forest.candidates] at hd
  | cons h hs ih =>
    rw [plant_cons, Forest.candidates, List.mem_cons, List.mem_append] at hd
    rcases hd with rfl | hd | hd
    · exact ⟨h, List.mem_cons_self, [], key_cutLast s c h.1⟩
    · obtain ⟨p, ps, hkey⟩ := hgrow h List.mem_cons_self _ d hd
      refine ⟨h, List.mem_cons_self, p :: ps, ?_⟩
      rw [hkey, key_cutLast, List.append_assoc]
      rfl
    · obtain ⟨g, hg, hkey⟩ := ih (fun g hg => hgrow g (List.mem_cons_of_mem h hg)) hd
      exact ⟨g, List.mem_cons_of_mem h hg, hkey⟩

/-- **The key of what grows below a candidate** goes on where the key of the candidate ends. -/
theorem key_of_mem_grow {id : Nat} (hd : d ∈ (s.grow id c).candidates) :
    ∃ p ps, s.key d = s.key c ++ p :: ps := by
  induction c using cutLast_induction (s := s) generalizing id d with
  | step c ih =>
    rw [grow] at hd
    obtain ⟨h, -, ps, hkey⟩ := key_of_mem_plant (fun h _ id d hd => ih h.1 h.2 hd) hd
    exact ⟨_, ps, hkey⟩

/-- Whatever comes from a head stands before all that comes from later ones. -/
theorem keyBefore_of_mem_plant {id : Nat} {hs : List {h // h ∈ s.heads c.last.word}}
    {p : Nat × Nat} (hfirst : ∀ g ∈ hs, PlaceBefore p (s.place g.1.1)) (ps : List (Nat × Nat))
    (hd : d ∈ (s.plant id c hs).candidates) : KeyBefore (s.key c ++ p :: ps) (s.key d) := by
  obtain ⟨g, hg, qs, hkey⟩ := key_of_mem_plant (fun h _ id d hd => key_of_mem_grow hd) hd
  rw [hkey]
  exact keyBefore_of_placeBefore _ (hfirst g hg) ps qs

/-- What grows from heads is listed in ascending order if the heads are in this order and what grows
from each one is listed so. -/
theorem pairwise_plant {hs : List {h // h ∈ s.heads c.last.word}}
    (hgrow : ∀ h ∈ hs, ∀ id, (s.grow id (cutLast c h.1)).candidates.Pairwise fun d e =>
      KeyBefore (s.key d) (s.key e))
    (hheads : hs.Pairwise fun g h => PlaceBefore (s.place g.1.1) (s.place h.1.1)) (id : Nat) :
    (s.plant id c hs).candidates.Pairwise fun d e => KeyBefore (s.key d) (s.key e) := by
  induction hs generalizing id with
  | nil =>
    rw [plant_nil]
    exact .nil
  | cons h hs ih =>
    obtain ⟨hfirst, hrest⟩ := List.pairwise_cons.1 hheads
    have hbelow := hgrow h List.mem_cons_self
    have hlater := ih (fun g hg => hgrow g (List.mem_cons_of_mem h hg)) hrest
    rw [plant_cons, Forest.candidates, List.pairwise_cons, List.pairwise_append]
    refine ⟨?_, hbelow _, hlater _, ?_⟩
    · intro e he
      rw [key_cutLast]
      rcases List.mem_append.1 he with he | he
      · obtain ⟨p, ps, hkey⟩ := key_of_mem_grow he
        rw [hkey, key_cutLast]
        exact keyBefore_append _ p ps
      · exact keyBefore_of_mem_plant hfirst [] he
    · intro d hd e he
      obtain ⟨p, ps, hkey⟩ := key_of_mem_grow hd
      rw [hkey, key_cutLast, List.append_assoc]
      exact keyBefore_of_mem_plant hfirst (p :: ps) he

/-- **What grows below a candidate** is listed in ascending order of the keys. -/
theorem pairwise_grow (s : Exhaustive) (id : Nat) (c : Candidate) :
    (s.grow id c).candidates.Pairwise fun d e => KeyBefore (s.key d) (s.key e) := by
  induction c using cutLast_induction (s := s) generalizing id with
  | step c ih =>
    rw [grow]
    apply pairwise_plant
    · intro h _ id
      exact ih h.1 h.2 id
    · have hheads := pairwise_heads s c.last.word
      rwa [← List.attach_map_subtype_val (s.heads c.last.word), List.pairwise_map] at hheads

/-! ## The readings of a word -/

/-- **The readings of a word ascend.** Their keys are strictly ascending in the order in which the
tree lists them. The nodes have been added in this order too: it is that of their numbers, a walk
through the tree comes to the numbers 0, 1, 2 and so on, and the candidate of each number stands at
that place of the list. -/
theorem split_ascending (s : Exhaustive) (w : Text) :
    (s.split w).candidates.Pairwise (fun c d => KeyBefore (s.key c) (s.key d)) ∧
    (s.split w).Preorder [0] (List.range (s.split w).size) ∧
    Tree.Visit.numbers (s.split w) ⟨[0], []⟩ (s.split w).size = List.range (s.split w).size ∧
    ∀ i, (s.split w).value? i = (s.split w).candidates[i]? := by
  rw [split_eq_growth]
  have hnumbered := numbered_growth (s := s) w
  have hids := ids_growth (s := s) w
  refine ⟨?_, ?_, ?_, ?_⟩
  · rw [Tree.candidates, List.pairwise_cons]
    refine ⟨?_, pairwise_grow s _ _⟩
    intro d hd
    obtain ⟨p, ps, hkey⟩ := key_of_mem_grow (s := s) hd
    rw [hkey]
    exact keyBefore_append _ p ps
  · rw [hnumbered.preorder_iff, hids]
  · rw [hnumbered.visited_all, hids]
  · intro i
    exact hnumbered.value?_eq_getElem? hids i

end Kompositum.Exhaustive
