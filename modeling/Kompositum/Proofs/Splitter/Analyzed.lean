import Kompositum.Proofs.Candidate.Format
import Kompositum.Proofs.Candidate.Refinement
import Kompositum.Proofs.Candidate.Tree
import Kompositum.Splitter.Analyzed
import Mathlib.Data.List.Nodup

/-!
# Readings of an analyzer, nested as finely as possible

A reading goes below the deepest node that it refines, on a path that always takes the first such
child. As coarse readings come first, no reading that comes later fits between a node and the one
above it, whichever way it took.

* `Forest.place`: the descent as an insertion that follows the forest (`nest_eq_place`).
* `Forest.Arranged`: what is below a node refines it, and what is in later trees is neither finer
  nor coarser. Insertion keeps this (`Arranged.place`), and nothing lies between a node and its
  children in such a forest (`Arranged.mem_below`, `Arranged.not_refines_of_mem_tops`).
* `Analyzed.Nested`: what a tree is after some readings; one more keeps it (`Nested.nest`).
* `Analyzed.split_finest`: the tree holds the readings, each once, as finely nested as possible.
-/

namespace Kompositum

namespace Forest

variable {c : Candidate} {f : Forest}

/-- A candidate at a new node, below the deepest one that it refines. -/
def place (c : Candidate) (id : Nat) : Forest → Forest
  | nil => node id c nil nil
  | node i d below next =>
    if c.Refines d then node i d (below.place c id) next else node i d below (next.place c id)

/-- **A forest is arranged** if everything below a node refines it, and no tree after a node holds
what refines the node or is refined by it. -/
def Arranged : Forest → Prop
  | nil => True
  | node _ d below next =>
    (∀ x ∈ below.candidates, x.Refines d) ∧
      (∀ x ∈ next.candidates, ¬x.Refines d ∧ ¬d.Refines x) ∧ below.Arranged ∧ next.Arranged

theorem mem_candidates_of_mem_nodes {i : Nat} {p : Candidate} {b : Forest}
    (h : (i, p, b) ∈ f.nodes) : p ∈ f.candidates := by
  rw [← map_snd_entries]
  exact List.mem_map.2 ⟨(i, p), List.mem_map.2 ⟨_, h, rfl⟩, rfl⟩

theorem candidates_below_subset {i : Nat} {p : Candidate} {b : Forest} (h : (i, p, b) ∈ f.nodes) :
    b.candidates ⊆ f.candidates := by
  rw [← map_snd_entries, ← map_snd_entries]
  exact List.map_subset Prod.snd (entries_below_subset h)

theorem mem_candidates_of_mem_tops {j : Nat} (h : (j, c) ∈ f.tops) : c ∈ f.candidates := by
  rw [← map_snd_entries]
  exact List.mem_map.2 ⟨_, tops_subset_entries f h, rfl⟩

/-! ## The descent -/

/-- The descent stays above the forest, or ends at a node that the candidate refines. -/
theorem deepest_cases (c : Candidate) (above : Nat) (f : Forest) :
    f.deepest c above = above ∨ ∃ d, (f.deepest c above, d) ∈ f.entries ∧ c.Refines d := by
  induction f generalizing above with
  | nil => exact .inl rfl
  | node i d b n ihb ihn =>
    rw [deepest, entries_node]
    by_cases hd : c.Refines d
    · rw [if_pos hd]
      right
      rcases ihb i with heq | ⟨e, he, hce⟩
      · rw [heq]
        exact ⟨d, List.mem_cons_self, hd⟩
      · exact ⟨e, List.mem_cons_of_mem _ (List.mem_append_left _ he), hce⟩
    · rw [if_neg hd]
      rcases ihn above with heq | ⟨e, he, hce⟩
      · exact .inl heq
      · exact .inr ⟨e, List.mem_cons_of_mem _ (List.mem_append_right _ he), hce⟩

theorem deepest_mem_ids (c : Candidate) {above : Nat} (h : f.deepest c above ≠ above) :
    f.deepest c above ∈ f.ids := by
  obtain ⟨d, hd, -⟩ := (deepest_cases c above f).resolve_left h
  rw [← map_fst_entries]
  exact List.mem_map.2 ⟨_, hd, rfl⟩

/-- **Grafting where the descent ends** is insertion. -/
theorem graft_deepest {above : Nat} (hf : f.ids.Nodup) (habove : above ∉ f.ids) (id : Nat) :
    (if f.deepest c above = above then f.append (node id c nil nil)
      else f.graft (f.deepest c above) (node id c nil nil)) = f.place c id := by
  induction f generalizing above with
  | nil =>
    rw [deepest, if_pos rfl]
    rfl
  | node i d b n ihb ihn =>
    rw [ids_node, List.nodup_cons, List.mem_append, not_or, List.nodup_append] at hf
    obtain ⟨⟨hib, hin⟩, hb, hn, hbn⟩ := hf
    simp only [ids_node, List.mem_cons, List.mem_append, not_or] at habove
    obtain ⟨hai, hab, han⟩ := habove
    rw [deepest, place]
    by_cases hd : c.Refines d
    · rw [if_pos hd, if_pos hd]
      have hbelow := ihb hb hib
      by_cases hstop : b.deepest c i = i
      · rw [if_pos hstop] at hbelow
        rw [hstop, if_neg (Ne.symm hai), graft, if_pos rfl, graft_of_notMem hin, hbelow]
      · -- the descent goes on below the node, and nothing is grafted beside it
        have hmem := deepest_mem_ids c hstop
        have hne : b.deepest c i ≠ above := fun h => hab (h ▸ hmem)
        have hnot : b.deepest c i ∉ n.ids := fun h => hbn _ hmem _ h rfl
        rw [if_neg hstop] at hbelow
        rw [if_neg hne, graft, if_neg (Ne.symm hstop), graft_of_notMem hnot, hbelow]
    · rw [if_neg hd, if_neg hd]
      have hnext := ihn hn han
      by_cases hstop : n.deepest c above = above
      · rw [if_pos hstop] at hnext ⊢
        rw [append, hnext]
      · have hmem := deepest_mem_ids c hstop
        have hne : i ≠ n.deepest c above := fun h => hin (h ▸ hmem)
        have hnot : n.deepest c above ∉ b.ids := fun h => hbn _ h _ hmem rfl
        rw [if_neg hstop] at hnext ⊢
        rw [graft, if_neg hne, graft_of_notMem hnot, hnext]

theorem perm_candidates_place (c : Candidate) (id : Nat) (f : Forest) :
    (f.place c id).candidates.Perm (c :: f.candidates) := by
  induction f with
  | nil => exact .refl _
  | node i d b n ihb ihn =>
    rw [place]
    split
    · rw [candidates, candidates]
      exact ((ihb.append_right _).cons d).trans (.swap c d _)
    · rw [candidates, candidates]
      have hmove : (d :: (b.candidates ++ c :: n.candidates)).Perm
          (c :: d :: (b.candidates ++ n.candidates)) :=
        (List.perm_middle.cons d).trans (.swap c d _)
      exact ((ihn.append_left _).cons d).trans hmove

/-! ## Arranged forests -/

/-- **Insertion keeps a forest arranged** if nothing in it refines what is inserted. -/
theorem Arranged.place (hf : f.Arranged) (hc : ∀ d ∈ f.candidates, ¬d.Refines c) (id : Nat) :
    (f.place c id).Arranged := by
  induction f with
  | nil => exact ⟨by simp [candidates], by simp [candidates], trivial, trivial⟩
  | node i d b n ihb ihn =>
    obtain ⟨hbelow, hlater, hb, hn⟩ := hf
    simp only [candidates, List.mem_cons, List.mem_append] at hc
    rw [Forest.place]
    by_cases hd : c.Refines d
    · rw [if_pos hd]
      refine ⟨fun x hx => ?_, hlater, ihb hb fun e he => hc e (.inr (.inl he)), hn⟩
      rcases List.mem_cons.1 ((perm_candidates_place c id b).mem_iff.1 hx) with rfl | hx
      · exact hd
      · exact hbelow x hx
    · rw [if_neg hd]
      refine ⟨hbelow, fun x hx => ?_, hb, ihn hn fun e he => hc e (.inr (.inr he))⟩
      rcases List.mem_cons.1 ((perm_candidates_place c id n).mem_iff.1 hx) with rfl | hx
      · exact ⟨hd, hc d (.inl rfl)⟩
      · exact hlater x hx

theorem Arranged.below (hf : f.Arranged) {i : Nat} {p : Candidate} {b : Forest}
    (hp : (i, p, b) ∈ f.nodes) : b.Arranged := by
  induction f with
  | nil => simp at hp
  | node j d below next ihb ihn =>
    obtain ⟨-, -, hb, hn⟩ := hf
    rw [nodes, List.mem_cons, List.mem_append] at hp
    rcases hp with heq | hp | hp
    · obtain ⟨rfl, rfl, rfl⟩ : i = j ∧ p = d ∧ b = below := by simpa using heq
      exact hb
    · exact ihb hb hp
    · exact ihn hn hp

/-- **What lies between a node and something below it** is below the node. -/
theorem Arranged.mem_below (hf : f.Arranged) {i : Nat} {p x : Candidate} {b : Forest}
    (hp : (i, p, b) ∈ f.nodes) (hc : c ∈ b.candidates) (hx : x ∈ f.candidates)
    (hcx : c.Refines x) (hxp : x.Refines p) : x ∈ b.candidates := by
  induction f with
  | nil => simp at hp
  | node j d below next ihb ihn =>
    obtain ⟨hbelow, hlater, hb, hn⟩ := hf
    rw [nodes, List.mem_cons, List.mem_append] at hp
    rw [candidates, List.mem_cons, List.mem_append] at hx
    rcases hp with heq | hp | hp
    · obtain ⟨rfl, rfl, rfl⟩ : i = j ∧ p = d ∧ b = below := by simpa using heq
      rcases hx with rfl | hx | hx
      · exact absurd hxp (Candidate.Refines.irrefl x)
      · exact hx
      · exact absurd hxp (hlater x hx).1
    · have hpd := hbelow p (mem_candidates_of_mem_nodes hp)
      rcases hx with rfl | hx | hx
      · exact absurd (hxp.trans hpd) (Candidate.Refines.irrefl x)
      · exact ihb hb hp hx
      · exact absurd (hxp.trans hpd) (hlater x hx).1
    · -- the other trees before the node hold nothing that `c` refines
      have hcd := (hlater c (candidates_below_subset hp hc)).1
      rcases hx with rfl | hx | hx
      · exact absurd hcx hcd
      · exact absurd (hcx.trans (hbelow x hx)) hcd
      · exact ihn hn hp hx

/-- **A topmost node refines nothing** in the forest. -/
theorem Arranged.not_refines_of_mem_tops (hf : f.Arranged) {j : Nat} {x : Candidate}
    (hc : (j, c) ∈ f.tops) (hx : x ∈ f.candidates) : ¬c.Refines x := by
  induction f with
  | nil => simp [tops] at hc
  | node i d below next _ ihn =>
    obtain ⟨hbelow, hlater, -, hn⟩ := hf
    rw [tops, List.mem_cons] at hc
    rw [candidates, List.mem_cons, List.mem_append] at hx
    intro hcx
    rcases hc with heq | hc
    · obtain ⟨rfl, rfl⟩ := Prod.mk.inj heq
      rcases hx with rfl | hx | hx
      · exact Candidate.Refines.irrefl x hcx
      · exact Candidate.Refines.irrefl c (hcx.trans (hbelow x hx))
      · exact (hlater x hx).2 hcx
    · have hcd := (hlater c (mem_candidates_of_mem_tops hc)).1
      rcases hx with rfl | hx | hx
      · exact hcd hcx
      · exact hcd (hcx.trans (hbelow x hx))
      · exact ihn hn hc hx hcx

end Forest

namespace Tree

/-- **Nothing lies between a candidate and the one above it** in an arranged tree. -/
theorem Numbered.finest {t : Tree} (ht : t.Numbered) (hroot : t.UnderRoot)
    (harr : t.below.Arranged) {p c x : Candidate} (hpc : t.HasChild p c) (hx : x ∈ t.candidates) :
    ¬(c.Refines x ∧ x.Refines p) := by
  rintro ⟨hcx, hxp⟩
  obtain ⟨i, b, j, hp, hc⟩ := ht.hasChild_iff.1 hpc
  rcases List.mem_cons.1 hp with heq | hp
  · obtain ⟨rfl, rfl, rfl⟩ : i = 0 ∧ p = t.root ∧ b = t.below := by simpa using heq
    rcases List.mem_cons.1 hx with rfl | hx
    · exact Candidate.Refines.irrefl _ hxp
    · exact harr.not_refines_of_mem_tops hc hx hcx
  · have hproot := hroot p (Forest.mem_candidates_of_mem_nodes hp)
    rcases List.mem_cons.1 hx with rfl | hx
    · exact Candidate.Refines.irrefl _ (hproot.trans hxp)
    · have hxb := harr.mem_below hp (Forest.mem_candidates_of_mem_tops hc) hx hcx hxp
      exact (harr.below hp).not_refines_of_mem_tops hc hxb hcx

end Tree

namespace Analyzed

/-! ## The tree after some readings -/

/-- **A tree that holds some readings of a word**, each once and arranged. -/
structure Nested (w : Text) (t : Tree) (cs : List Candidate) : Prop where
  root_eq : t.root = .ofWord w
  numbered : t.Numbered
  perm : t.below.candidates.Perm cs
  arranged : t.below.Arranged

theorem nested_single (w : Text) : Nested w (.single (.ofWord w)) [] :=
  ⟨rfl, Tree.numbered_single _, .refl _, trivial⟩

/-- No reading is refused: it goes where the insertion puts it. -/
theorem nest_eq_place {t : Tree} (ht : t.Numbered) {c : Candidate} (hc : c.Refines t.root) :
    nest t c = { t with below := t.below.place c t.size } ∧ (nest t c).Numbered := by
  obtain ⟨h0, hnd⟩ := List.nodup_cons.1 ht.nodup
  obtain ⟨d, hval, hcd⟩ : ∃ d, t.value? (t.below.deepest c 0) = some d ∧ c.Refines d := by
    rcases Forest.deepest_cases c 0 t.below with heq | ⟨d, hd, hcd⟩
    · rw [heq]
      exact ⟨t.root, rfl, hc⟩
    · exact ⟨d, ht.value?_eq_some_iff.2 (List.mem_cons_of_mem _ hd), hcd⟩
  have hone : (Forest.node t.size c .nil .nil).ids.Perm
      (List.range' t.size (Forest.node t.size c .nil .nil).size) := .refl _
  have hgraft : nest t c = t.graft (t.below.deepest c 0) (.node t.size c .nil .nil) := by
    unfold nest
    rw [Tree.addChild_eq_graft hval hcd]
    rfl
  refine ⟨?_, ?_⟩
  · rw [hgraft, Tree.graft, Forest.graft_deepest hnd h0]
  · rw [hgraft]
    exact ht.graft (ht.mem_ids_of_value? hval) hone

/-- **One more reading**, no coarser than those in the tree, keeps it arranged. -/
theorem Nested.nest {w : Text} {t : Tree} {cs : List Candidate} (ht : Nested w t cs)
    {c : Candidate} (hc : c.Refines (.ofWord w)) (hsize : ∀ d ∈ cs, d.size ≤ c.size) :
    Nested w (nest t c) (c :: cs) := by
  obtain ⟨hplace, hnumbered⟩ := nest_eq_place ht.numbered (c := c) (by rw [ht.root_eq]; exact hc)
  have hcoarse : ∀ d ∈ t.below.candidates, ¬d.Refines c := by
    intro d hd hdc
    have := hsize d (ht.perm.mem_iff.1 hd)
    have := hdc.size_lt
    omega
  refine ⟨?_, hnumbered, ?_, ?_⟩
  · rw [hplace]
    exact ht.root_eq
  · rw [hplace]
    exact (Forest.perm_candidates_place c t.size t.below).trans (ht.perm.cons c)
  · rw [hplace]
    exact ht.arranged.place hcoarse t.size

/-- **Readings in ascending order of their sizes**, one after the other. -/
theorem Nested.foldl {w : Text} {cs : List Candidate} (hcs : ∀ c ∈ cs, c.Refines (.ofWord w))
    (hsorted : cs.Pairwise fun c d => c.size ≤ d.size) {t : Tree} {done : List Candidate}
    (ht : Nested w t done) (hdone : ∀ c ∈ cs, ∀ d ∈ done, d.size ≤ c.size) :
    Nested w (cs.foldl Analyzed.nest t) (cs.reverse ++ done) := by
  induction cs generalizing t done with
  | nil => exact ht
  | cons c cs ih =>
    obtain ⟨hfirst, hrest⟩ := List.pairwise_cons.1 hsorted
    have hstep := ht.nest (hcs c List.mem_cons_self) (hdone c List.mem_cons_self)
    have hnext : ∀ e ∈ cs, ∀ d ∈ c :: done, d.size ≤ e.size := by
      intro e he d hd
      rcases List.mem_cons.1 hd with rfl | hd
      · exact hfirst e he
      · exact hdone e (List.mem_cons_of_mem c he) d hd
    have := ih (fun e he => hcs e (List.mem_cons_of_mem c he)) hrest hstep hnext
    rwa [List.reverse_cons, List.append_assoc]

/-! ## The readings of a word -/

theorem nodup_eraseDups {α : Type} [DecidableEq α] (l : List α) : l.eraseDups.Nodup := by
  induction hn : l.length using Nat.strongRecOn generalizing l with
  | ind n ih =>
    cases l with
    | nil => exact .nil
    | cons a l =>
      have hlt : (l.filter fun b => !b == a).length < n := by
        have := List.length_filter_le (fun b => !b == a) l
        rw [← hn, List.length_cons]
        omega
      rw [List.eraseDups_cons, List.nodup_cons, List.mem_eraseDups]
      exact ⟨by simp, ih _ hlt _ rfl⟩

variable {s : Analyzed}

/-- To have been met is to be the same candidate, as no two have one text. -/
theorem readings_eq (s : Analyzed) (w : Text) (analyses : List (List Text)) :
    s.readings w analyses =
      ((analyses.map s.candidate).filter fun c => decide (c.Partitions w) && c.isSplit).eraseDups := by
  have hsame : (fun c d : Candidate => c.render == d.render) = fun c d => c == d := by
    funext c d
    rw [Bool.eq_iff_iff, beq_iff_eq, beq_iff_eq]
    exact ⟨Candidate.render_injective, fun h => h ▸ rfl⟩
  unfold readings
  rw [hsame]
  rfl

theorem mem_readings_iff {w : Text} {analyses : List (List Text)} {c : Candidate} :
    c ∈ s.readings w analyses ↔
      (∃ parts ∈ analyses, s.candidate parts = c) ∧ c.isSplit = true ∧ c.Partitions w := by
  rw [readings_eq, List.mem_eraseDups, List.mem_filter, List.mem_map, Bool.and_eq_true,
    decide_eq_true_eq, and_comm (a := c.Partitions w)]

theorem nodup_readings (s : Analyzed) (w : Text) (analyses : List (List Text)) :
    (s.readings w analyses).Nodup := by
  rw [readings_eq]
  exact nodup_eraseDups _

/-- The tree of a word holds its readings. -/
theorem nested_split (s : Analyzed) {w : Text} (hw : w ≠ []) :
    ∃ cs, cs.Perm (s.readings w ((s.analyze w).getD [])) ∧ Nested w (s.split w) cs := by
  set found := s.readings w ((s.analyze w).getD []) with hfound
  set sorted := found.mergeSort fun c d => c.size ≤ d.size with hsorted
  have hperm : sorted.Perm found := List.mergeSort_perm _ _
  have hrefines : ∀ c ∈ sorted, c.Refines (.ofWord w) := by
    intro c hc
    have := (mem_readings_iff.1 (hperm.mem_iff.1 hc)).2
    exact Candidate.refines_ofWord_iff.2 this
  have hascending : sorted.Pairwise fun c d => c.size ≤ d.size := by
    have htrans : ∀ a b c : Candidate, decide (a.size ≤ b.size) = true →
        decide (b.size ≤ c.size) = true → decide (a.size ≤ c.size) = true := by
      intro a b c hab hbc
      rw [decide_eq_true_eq] at hab hbc ⊢
      exact Nat.le_trans hab hbc
    have htotal : ∀ a b : Candidate,
        (decide (a.size ≤ b.size) || decide (b.size ≤ a.size)) = true := by
      intro a b
      rw [Bool.or_eq_true, decide_eq_true_eq, decide_eq_true_eq]
      exact Nat.le_total _ _
    exact (List.pairwise_mergeSort htrans htotal found).imp of_decide_eq_true
  have hrun := (nested_single w).foldl hrefines hascending (by simp)
  have hsplit : s.split w = sorted.foldl nest (.single (.ofWord w)) := by
    unfold split
    rw [if_neg (by simpa using hw)]
  rw [List.append_nil] at hrun
  exact ⟨sorted.reverse, (List.reverse_perm _).trans hperm, hsplit ▸ hrun⟩

/-- **The tree holds the readings of a word, each once**: the split candidates of the analyses that
spell the word. The nesting is as fine as possible: nothing lies between a candidate and the one
above it. -/
theorem split_finest (s : Analyzed) {w : Text} (hw : w ≠ []) {analyses : List (List Text)}
    (ha : s.analyze w = some analyses) :
    (s.split w).root = .ofWord w ∧
    (∀ c, c ∈ (s.split w).below.candidates ↔
      (∃ parts ∈ analyses, s.candidate parts = c) ∧ c.isSplit = true ∧ c.Partitions w) ∧
    (s.split w).below.candidates.Nodup ∧
    ∀ p c, (s.split w).HasChild p c →
      ¬∃ x ∈ (s.split w).candidates, c.Refines x ∧ x.Refines p := by
  obtain ⟨cs, hperm, hnested⟩ := s.nested_split hw
  rw [ha, Option.getD_some] at hperm
  have hcs := hnested.perm.trans hperm
  have hunder : (s.split w).UnderRoot := by
    intro c hc
    rw [hnested.root_eq]
    exact Candidate.refines_ofWord_iff.2 (mem_readings_iff.1 (hcs.mem_iff.1 hc)).2
  refine ⟨hnested.root_eq, fun c => ?_, ?_, ?_⟩
  · rw [hcs.mem_iff]
    exact mem_readings_iff
  · exact hcs.nodup_iff.2 (nodup_readings s w analyses)
  · rintro p c hpc ⟨x, hx, hbetween⟩
    exact hnested.numbered.finest hunder hnested.arranged hpc hx hbetween

/-- An analyzer that gives the finest reading of *Aktionsplan* first and one reading twice; the last
two lists of parts are no split readings of the word. -/
def aktionsplan : Analyzed where
  morphemes := .german
  analyze _ := some [["Akt", "ion", "s", "Plan"], ["Aktion", "s", "Plan"], ["Akt", "ionsplan"],
    ["Aktion", "s", "Plan"], ["Akt", "ion", "Plan"], ["Aktionsplan"]]

/-- Both coarser readings of *Aktionsplan* are in its tree with the finest one, whose parent is then
one of them. -/
theorem split_finest_aktionsplan :
    ("Aktionsplan" : Text) ≠ [] ∧ (∃ analyses, aktionsplan.analyze "Aktionsplan" = some analyses) ∧
      (∀ c ∈ ([.ofFragments [.plain "akt", .linked "ion" "s", .plain "plan"],
          .ofFragments [.linked "aktion" "s", .plain "plan"],
          .ofFragments [.plain "akt", .plain "ionsplan"]] : List Candidate),
        c ∈ (aktionsplan.split "Aktionsplan").below.candidates) ∧
      ¬(aktionsplan.split "Aktionsplan").HasChild (.ofWord "Aktionsplan")
        (.ofFragments [.plain "akt", .linked "ion" "s", .plain "plan"]) := by
  have hw : ("Aktionsplan" : Text) ≠ [] := by decide
  obtain ⟨-, hmem, -, hfinest⟩ := aktionsplan.split_finest hw rfl
  have hall : ∀ c ∈ ([.ofFragments [.plain "akt", .linked "ion" "s", .plain "plan"],
      .ofFragments [.linked "aktion" "s", .plain "plan"],
      .ofFragments [.plain "akt", .plain "ionsplan"]] : List Candidate),
      c ∈ (aktionsplan.split "Aktionsplan").below.candidates := by
    simp only [hmem]
    decide +kernel
  refine ⟨hw, ⟨_, rfl⟩, hall, fun hchild => hfinest _ _ hchild ?_⟩
  -- the reading in two parts lies between
  refine ⟨.ofFragments [.plain "akt", .plain "ionsplan"], List.mem_cons_of_mem _ (hall _ ?_), ?_⟩
  · exact List.mem_cons_of_mem _ (List.mem_cons_of_mem _ List.mem_cons_self)
  · decide +kernel

end Analyzed

end Kompositum
