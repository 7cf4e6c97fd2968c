import Kompositum.Proofs.Candidate.Format
import Kompositum.Proofs.Candidate.Refinement
import Kompositum.Proofs.Candidate.Tree
import Kompositum.Splitter.Exhaustive
import Mathlib.Data.List.Nodup
import Mathlib.Logic.Relation

/-!
# All readings, each once

Splitting from left to right asks of every candidate whether its text has been met and whether it
refines the one above it. Neither question is ever answered in the negative: the tree is the one
that grows without asking.

* `Cut`: the rule by which one reading comes from another.
* `grow`: the tree that grows without asking, and what it holds (`mem_candidates_grow_iff`).
* `grafts`: the search grafts what grows without asking.
* `split_complete`: the tree holds the readings of a word, each once and below the one that it
  comes from.
-/

namespace Kompositum

namespace Candidate

/-- A candidate whose last fragment can be cut, as no morpheme follows it. -/
def IsOpen (c : Candidate) : Prop := c.last.morpheme = none

theorem isOpen_ofWord (w : Text) : (ofWord w).IsOpen := rfl

theorem IsOpen.fragments_eq {c : Candidate} (h : c.IsOpen) :
    c.fragments = c.fragments.dropLast ++ [.plain c.last.word] := by
  have hlast : Fragment.plain c.last.word = c.last := by
    unfold IsOpen at h
    rw [Fragment.plain, ← h]
  rw [hlast]
  exact (List.dropLast_concat_getLast c.ne_nil).symm

/-- A further fragment at the end adds one boundary. -/
theorem endsFrom_append (start : Nat) (fs : List Fragment) (e f g : Fragment) :
    ∃ b, endsFrom start (fs ++ [f, g]) = endsFrom start (fs ++ [e]) ++ [b] := by
  induction fs generalizing start with
  | nil => exact ⟨start + f.size, rfl⟩
  | cons a fs ih =>
    obtain ⟨b, hb⟩ := ih (start + a.size)
    refine ⟨b, ?_⟩
    rw [List.cons_append, List.cons_append, endsFrom_cons _ _ (by simp),
      endsFrom_cons _ _ (by simp), hb, List.cons_append]

end Candidate

namespace Exhaustive

variable (s : Exhaustive)

/-- **The constituents that cover a text**: a word of the dictionary that is long enough, or such a
word and a linking morpheme. -/
inductive Covers : Text → Fragment → Prop
  | plain {left : Text} : s.minWordLength ≤ left.length → s.dictionary.contains left = true →
      Covers left (.plain left)
  | linked {stem m : Text} : m ∈ s.morphemes.toList → stem ≠ [] →
      s.minWordLength ≤ stem.length → s.dictionary.contains stem = true →
      Covers (stem ++ m) (.linked stem m)

/-- **One reading comes from another** by cutting the remainder of the word in two, where the left
side is covered by a constituent. -/
inductive Cut : Candidate → Candidate → Prop
  | cut {fs : List Fragment} {left right : Text} {head : Fragment} :
      left.length ∈ s.cuts.positions (left ++ right) → s.Covers left head →
      Cut (.ofFragments (fs ++ [.plain (left ++ right)]))
        (.ofFragments (fs ++ [head, .plain right]))

/-- **The readings of a word**: the word itself in the form in which the dictionary keeps words, and
all that comes from it. -/
inductive Reading (w : Text) : Candidate → Prop
  | whole : Reading w (.ofWord (s.dictionary.normalize w))
  | cut {c d : Candidate} : Reading w c → s.Cut c d → Reading w d

variable {s}

theorem isWord_iff {t : Text} :
    s.isWord t = true ↔ s.minWordLength ≤ t.length ∧ s.dictionary.contains t = true := by
  simp [isWord]

theorem Covers.surface {left : Text} {head : Fragment} (h : s.Covers left head) :
    head.surface = left := by
  cases h with
  | plain _ _ => exact Fragment.surface_plain left
  | linked hm _ _ _ =>
    have := s.morphemes.ne_nil _ hm
    simp [Fragment.surface, Fragment.linked, this]

theorem mem_covering_iff {left : Text} {head : Fragment} :
    head ∈ s.covering left ↔ s.Covers left head := by
  simp only [covering, List.mem_append, List.mem_filterMap, Option.bind_eq_some_iff,
    Text.stripSuffix?_eq_some_iff]
  constructor
  · rintro (h | ⟨m, hm, stem, rfl, h⟩)
    · split at h
      · rename_i hw
        obtain rfl := List.mem_singleton.1 h
        exact .plain (isWord_iff.1 hw).1 (isWord_iff.1 hw).2
      · simp at h
    · split at h
      · rename_i hw
        obtain rfl := Option.some.inj h
        simp only [Bool.and_eq_true, Bool.not_eq_true', List.isEmpty_eq_false_iff, isWord_iff] at hw
        exact .linked hm hw.1 hw.2.1 hw.2.2
      · simp at h
  · intro h
    cases h with
    | plain hl hd => exact .inl (by rw [if_pos (isWord_iff.2 ⟨hl, hd⟩)]; simp)
    | @linked stem m hm hne hl hd =>
      refine .inr ⟨m, hm, stem, rfl, ?_⟩
      have := isWord_iff.2 ⟨hl, hd⟩
      simp [hne, this]

theorem mem_heads_iff {r : Text} {head : Fragment} {rest : Text} :
    (head, rest) ∈ s.heads r ↔
      ∃ left, r = left ++ rest ∧ left.length ∈ s.cuts.positions r ∧ s.Covers left head := by
  simp only [heads, List.mem_flatMap, List.mem_map, mem_covering_iff]
  constructor
  · rintro ⟨i, hi, head', hc, heq⟩
    obtain ⟨rfl, rfl⟩ := Prod.mk.inj heq
    have := s.cuts.interior r i hi
    refine ⟨r.take i, (List.take_append_drop i r).symm, ?_, hc⟩
    rwa [List.length_take, Nat.min_eq_left (by omega)]
  · rintro ⟨left, rfl, hi, hc⟩
    exact ⟨left.length, hi, head, by simpa using hc, by simp⟩

/-- A text is covered in each way once. -/
theorem nodup_covering (left : Text) : (s.covering left).Nodup := by
  unfold covering
  rw [List.nodup_append]
  refine ⟨by split <;> simp, ?_, ?_⟩
  · refine s.morphemes.nodup.filterMap fun m m' f hf hf' => ?_
    simp only [Option.mem_def, Option.bind_eq_some_iff, Option.ite_none_right_eq_some,
      Option.some.injEq, Text.stripSuffix?_eq_some_iff] at hf hf'
    obtain ⟨stem, hs, -, rfl⟩ := hf
    obtain ⟨stem', hs', -, hl⟩ := hf'
    have hword : stem' = stem := congrArg Fragment.word hl
    rw [hword, hs] at hs'
    exact List.append_cancel_left hs'
  · intro f hf g hg hfg
    subst hfg
    simp only [List.mem_filterMap, Option.bind_eq_some_iff, Option.ite_none_right_eq_some,
      Option.some.injEq] at hg
    obtain ⟨m, hm, stem, -, -, rfl⟩ := hg
    split at hf
    · have hne := s.morphemes.ne_nil m hm
      have := congrArg Fragment.morpheme (List.mem_singleton.1 hf)
      simp [Fragment.linked, Fragment.plain, hne] at this
    · simp at hf

/-- **No head is taken off twice**: it shows the cut that it comes from. -/
theorem nodup_map_fst_heads (r : Text) : ((s.heads r).map Prod.fst).Nodup := by
  have hmap : (s.heads r).map Prod.fst =
      (s.cuts.positions r).flatMap fun i => s.covering (r.take i) := by
    simp [heads, List.map_flatMap, Function.comp_def]
  rw [hmap, List.nodup_flatMap]
  refine ⟨fun i _ => nodup_covering _, (s.cuts.ascending r).imp_of_mem fun {i j} hi hj hij => ?_⟩
  intro f hfi hfj
  have hsi := (mem_covering_iff.1 hfi).surface
  have hsj := (mem_covering_iff.1 hfj).surface
  have hlen := congrArg List.length (hsi.symm.trans hsj)
  have := s.cuts.interior r i hi
  have := s.cuts.interior r j hj
  rw [List.length_take, List.length_take] at hlen
  omega

/-! ## One cut -/

theorem isOpen_cutLast (c : Candidate) (h : Fragment × Text) : (cutLast c h).IsOpen := by
  unfold Candidate.IsOpen
  rw [last_cutLast, Fragment.plain]

theorem dropLast_fragments_cutLast (c : Candidate) (h : Fragment × Text) :
    (cutLast c h).fragments.dropLast = c.fragments.dropLast ++ [h.1] := by
  simp

theorem size_cutLast (c : Candidate) (h : Fragment × Text) : (cutLast c h).size = c.size + 1 := by
  have := List.length_pos_of_ne_nil c.ne_nil
  simp [Candidate.size]
  omega

theorem surface_cutLast {c : Candidate} (hc : c.IsOpen) {h : Fragment × Text}
    (hh : h ∈ s.heads c.last.word) : (cutLast c h).surface = c.surface := by
  obtain ⟨head, rest⟩ := h
  obtain ⟨left, hl, -, hcov⟩ := mem_heads_iff.1 hh
  unfold Candidate.surface
  rw [fragments_cutLast, hc.fragments_eq]
  simp [hcov.surface, hl]

/-- A cut keeps all boundaries and adds one. -/
theorem refines_cutLast {c : Candidate} (hc : c.IsOpen) {h : Fragment × Text}
    (hh : h ∈ s.heads c.last.word) : (cutLast c h).Refines c := by
  obtain ⟨b, hb⟩ := Candidate.endsFrom_append 0 c.fragments.dropLast (.plain c.last.word) h.1
    (.plain h.2)
  have hbound : (cutLast c h).boundaries = c.boundaries ++ [b] := by
    unfold Candidate.boundaries
    rw [fragments_cutLast, hb, ← hc.fragments_eq]
  refine ⟨?_, fun x hx => ?_, ?_⟩
  · simp [hbound]
  · simp [hbound, hx]
  · rw [surface_cutLast hc hh]

/-- **The cuts of a candidate** are those of its last fragment. -/
theorem cut_iff {c d : Candidate} :
    s.Cut c d ↔ c.IsOpen ∧ ∃ h ∈ s.heads c.last.word, d = cutLast c h := by
  constructor
  · intro hcut
    cases hcut with
    | @cut fs left right head hi hcov =>
      have hne : ∀ f : Fragment, fs ++ [f] ≠ [] := fun f => by simp
      rw [Candidate.ofFragments_of_ne_nil (hne _)]
      have hlast :
          (⟨_, hne (.plain (left ++ right))⟩ : Candidate).last = .plain (left ++ right) := by
        simp [Candidate.last]
      refine ⟨by rw [Candidate.IsOpen, hlast, Fragment.plain], (head, right), ?_, ?_⟩
      · rw [hlast]
        exact mem_heads_iff.2 ⟨left, rfl, hi, hcov⟩
      · ext1
        rw [fragments_cutLast, Candidate.ofFragments_of_ne_nil (by simp)]
        simp
  · rintro ⟨hc, ⟨head, rest⟩, hh, rfl⟩
    obtain ⟨left, hl, hi, hcov⟩ := mem_heads_iff.1 hh
    have hcut : s.Cut (.ofFragments (c.fragments.dropLast ++ [.plain (left ++ rest)]))
        (.ofFragments (c.fragments.dropLast ++ [head, .plain rest])) := .cut (hl ▸ hi) hcov
    rw [← hl, ← hc.fragments_eq, Candidate.ofFragments_of_ne_nil c.ne_nil] at hcut
    exact hcut

/-- Induction on what is left of the word after the fragments of a candidate. -/
theorem cutLast_induction {P : Candidate → Prop}
    (step : ∀ c, (∀ h ∈ s.heads c.last.word, P (cutLast c h)) → P c) (c : Candidate) : P c := by
  induction hn : c.last.word.length using Nat.strongRecOn generalizing c with
  | ind n ih =>
    refine step c fun h hh => ih _ ?_ _ rfl
    rw [last_cutLast, ← hn]
    exact s.length_lt_of_mem_heads hh

/-! ## What grows without asking -/

variable (s)

mutual

/-- **What grows below a candidate** when every cut is planted without asking; the nodes are
numbered from `id` on. -/
def grow (id : Nat) (c : Candidate) : Forest := plant id c (s.heads c.last.word).attach
termination_by (c.last.word.length, 1, 0)

/-- The candidates for some heads, each above what grows below it. -/
def plant (id : Nat) (c : Candidate) (hs : List {h // h ∈ s.heads c.last.word}) : Forest :=
  match hs with
  | [] => .nil
  | h :: hs =>
    let below := grow (id + 1) (cutLast c h.1)
    .node id (cutLast c h.1) below (plant (id + 1 + below.size) c hs)
termination_by (c.last.word.length, 0, hs.length)
decreasing_by
  · rw [last_cutLast]
    exact Prod.Lex.left _ _ (s.length_lt_of_mem_heads h.2)
  · exact Prod.Lex.right _ (Prod.Lex.right _ (Nat.lt_succ_self _))

end

/-- **The tree that grows without asking** whether a candidate has been met or refines the one above
it. -/
def growth (w : Text) : Tree :=
  ⟨.ofWord (s.dictionary.normalize w), s.grow 1 (.ofWord (s.dictionary.normalize w))⟩

variable {s}

theorem plant_nil (id : Nat) (c : Candidate) : s.plant id c [] = .nil := by
  rw [plant]

theorem plant_cons (id : Nat) (c : Candidate) (h : {h // h ∈ s.heads c.last.word})
    (hs : List {h // h ∈ s.heads c.last.word}) :
    s.plant id c (h :: hs) = .node id (cutLast c h.1) (s.grow (id + 1) (cutLast c h.1))
      (s.plant (id + 1 + (s.grow (id + 1) (cutLast c h.1)).size) c hs) := by
  rw [plant]

/-- The nodes are numbered one after the other. -/
theorem ids_grow (id : Nat) (c : Candidate) :
    (s.grow id c).ids = List.range' id (s.grow id c).size := by
  induction c using cutLast_induction (s := s) generalizing id with
  | step c ih =>
    have key : ∀ (hs : List {h // h ∈ s.heads c.last.word}) (id : Nat),
        (s.plant id c hs).ids = List.range' id (s.plant id c hs).size := by
      intro hs
      induction hs with
      | nil => intro id; rw [plant_nil]; rfl
      | cons h hs ihs =>
        intro id
        rw [plant_cons, Forest.ids_node, ih h.1 h.2, ihs, Forest.size, Nat.add_assoc 1,
          Nat.add_comm 1, List.range'_succ, List.range'_append_1]
    rw [grow]
    exact key _ id

/-- What is below a node has grown from its candidate. -/
theorem below_grow {id : Nat} {c : Candidate} {x : Nat × Candidate × Forest}
    (hx : x ∈ (s.grow id c).nodes) : x.2.2 = s.grow (x.1 + 1) x.2.1 := by
  induction c using cutLast_induction (s := s) generalizing id with
  | step c ih =>
    have key : ∀ (hs : List {h // h ∈ s.heads c.last.word}) (id : Nat),
        x ∈ (s.plant id c hs).nodes → x.2.2 = s.grow (x.1 + 1) x.2.1 := by
      intro hs
      induction hs with
      | nil => intro id hx; rw [plant_nil] at hx; simp at hx
      | cons h hs ihs =>
        intro id hx
        rw [plant_cons, Forest.nodes, List.mem_cons, List.mem_append] at hx
        rcases hx with rfl | hx | hx
        · rfl
        · exact ih h.1 h.2 hx
        · exact ihs _ hx
    rw [grow] at hx
    exact key _ id hx

/-- What grows on top are the cuts of the candidate. -/
theorem exists_mem_tops_grow_iff {id : Nat} {c d : Candidate} :
    (∃ j, (j, d) ∈ (s.grow id c).tops) ↔ ∃ h ∈ s.heads c.last.word, d = cutLast c h := by
  have key : ∀ (hs : List {h // h ∈ s.heads c.last.word}) (id : Nat),
      (∃ j, (j, d) ∈ (s.plant id c hs).tops) ↔ ∃ h ∈ hs, d = cutLast c h.1 := by
    intro hs
    induction hs with
    | nil => intro id; simp [plant_nil, Forest.tops]
    | cons h hs ihs =>
      intro id
      simp only [plant_cons, Forest.tops, List.mem_cons, Prod.mk.injEq, exists_or, ihs,
        exists_eq_left, exists_eq_or_imp]
  rw [grow, key]
  simp

theorem mem_candidates_plant_iff {id : Nat} {c d : Candidate}
    (hgrow : ∀ (h : {h // h ∈ s.heads c.last.word}) {id : Nat},
      d ∈ (s.grow id (cutLast c h.1)).candidates ↔ Relation.TransGen s.Cut (cutLast c h.1) d)
    {hs : List {h // h ∈ s.heads c.last.word}} :
    d ∈ (s.plant id c hs).candidates ↔
      ∃ h ∈ hs, Relation.ReflTransGen s.Cut (cutLast c h.1) d := by
  induction hs generalizing id with
  | nil => simp [plant_nil, Forest.candidates]
  | cons h hs ihs =>
    rw [plant_cons, Forest.candidates, List.mem_cons, List.mem_append, hgrow, ihs, ← or_assoc,
      ← Relation.reflTransGen_iff_eq_or_transGen]
    simp only [List.mem_cons, exists_eq_or_imp]

/-- **What grows below a candidate** is all that comes from it by cuts. -/
theorem mem_candidates_grow_iff {id : Nat} {c d : Candidate} (hc : c.IsOpen) :
    d ∈ (s.grow id c).candidates ↔ Relation.TransGen s.Cut c d := by
  induction c using cutLast_induction (s := s) generalizing id with
  | step c ih =>
    rw [grow, mem_candidates_plant_iff fun h => ih h.1 h.2 (isOpen_cutLast c h.1),
      Relation.TransGen.head'_iff]
    constructor
    · rintro ⟨h, -, hd⟩
      exact ⟨_, cut_iff.2 ⟨hc, h.1, h.2, rfl⟩, hd⟩
    · rintro ⟨e, hce, hd⟩
      obtain ⟨-, h, hh, rfl⟩ := cut_iff.1 hce
      exact ⟨⟨h, hh⟩, List.mem_attach _ _, hd⟩

/-- What comes from a candidate keeps its fragments but the last, and has more of them. -/
theorem prefix_of_transGen {c d : Candidate} (h : Relation.TransGen s.Cut c d) :
    c.fragments.dropLast <+: d.fragments ∧ c.size < d.size := by
  have hstep : ∀ {a b : Candidate}, s.Cut a b →
      a.fragments.dropLast <+: b.fragments.dropLast ∧ a.size < b.size := by
    intro a b hab
    obtain ⟨-, h, -, rfl⟩ := cut_iff.1 hab
    rw [dropLast_fragments_cutLast, size_cutLast]
    exact ⟨List.prefix_append _ _, Nat.lt_succ_self _⟩
  have hrun : c.fragments.dropLast <+: d.fragments.dropLast ∧ c.size < d.size := by
    induction h with
    | single hcd => exact hstep hcd
    | tail _ hbd ih =>
      exact ⟨ih.1.trans (hstep hbd).1, Nat.lt_trans ih.2 (hstep hbd).2⟩
  exact ⟨hrun.1.trans (List.dropLast_prefix _), hrun.2⟩

/-- The head that was taken off shows in all that comes from it. -/
theorem head_unique {c d : Candidate} {g h : Fragment × Text}
    (hg : Relation.ReflTransGen s.Cut (cutLast c g) d)
    (hh : Relation.ReflTransGen s.Cut (cutLast c h) d) : g.1 = h.1 := by
  have hpre : ∀ {h : Fragment × Text}, Relation.ReflTransGen s.Cut (cutLast c h) d →
      c.fragments.dropLast ++ [h.1] <+: d.fragments := by
    intro h hd
    rw [← dropLast_fragments_cutLast]
    rcases Relation.reflTransGen_iff_eq_or_transGen.1 hd with rfl | hd
    · exact List.dropLast_prefix _
    · exact (prefix_of_transGen hd).1
  have heq := (List.prefix_of_prefix_length_le (hpre hg) (hpre hh) (by simp)).eq_of_length
    (by simp)
  exact List.singleton_inj.1 (List.append_cancel_left heq)

theorem nodup_map_attach_heads (c : Candidate) :
    ((s.heads c.last.word).attach.map fun h => h.1.1).Nodup := by
  have := nodup_map_fst_heads (s := s) c.last.word
  rwa [← List.attach_map_subtype_val (s.heads c.last.word), List.map_map] at this

/-- **Nothing grows twice.** -/
theorem nodup_candidates_grow (id : Nat) (c : Candidate) : (s.grow id c).candidates.Nodup := by
  induction c using cutLast_induction (s := s) generalizing id with
  | step c ih =>
    have key : ∀ (hs : List {h // h ∈ s.heads c.last.word}) (id : Nat),
        (hs.map fun h => h.1.1).Nodup → (s.plant id c hs).candidates.Nodup := by
      intro hs
      induction hs with
      | nil => intro id _; rw [plant_nil]; exact List.nodup_nil
      | cons h hs ihs =>
        intro id hnd
        rw [List.map_cons, List.nodup_cons] at hnd
        -- whatever grows from this head differs from what grows from a later one
        have hlater : ∀ d, Relation.ReflTransGen s.Cut (cutLast c h.1) d →
            ∀ id, d ∉ (s.plant id c hs).candidates := by
          intro d hd id hmem
          obtain ⟨g, hg, hgd⟩ := (mem_candidates_plant_iff fun h =>
            mem_candidates_grow_iff (isOpen_cutLast c h.1)).1 hmem
          exact hnd.1 (List.mem_map.2 ⟨g, hg, head_unique hgd hd⟩)
        rw [plant_cons, Forest.candidates, List.nodup_cons, List.mem_append, not_or,
          List.nodup_append]
        refine ⟨⟨?_, hlater _ .refl _⟩, ih h.1 h.2 _, ihs _ hnd.2, ?_⟩
        · rw [mem_candidates_grow_iff (isOpen_cutLast c h.1)]
          exact fun hd => Nat.lt_irrefl _ (prefix_of_transGen hd).2
        · intro d hd e he hde
          subst hde
          rw [mem_candidates_grow_iff (isOpen_cutLast c h.1)] at hd
          exact hlater d hd.to_reflTransGen _ he
    rw [grow]
    exact key _ id (nodup_map_attach_heads c)

/-! ## The search -/

/-- One step of the search below a node. -/
def refineStep (s : Exhaustive) (parent : Nat) (c : Candidate) (st : Search) (h : Fragment × Text) :
    Search :=
  match st.offer parent (cutLast c h) with
  | (some child, st) => s.refine st child (cutLast c h)
  | (none, st) => st

theorem refine_eq (st : Search) (parent : Nat) (c : Candidate) :
    s.refine st parent c =
      (s.heads c.last.word).attach.foldl (fun st h => s.refineStep parent c st h.1) st := by
  rw [refine]
  rfl

/-- A candidate that is new and refines the one above it is accepted. -/
theorem offer_eq {t : Tree} {seen : List Text} {p : Nat} {c d : Candidate}
    (hseen : d.render ∉ seen) (hp : t.value? p = some c) (hd : d.Refines c) :
    Search.offer ⟨t, seen⟩ p d =
      (some t.size, ⟨t.graft p (.node t.size d .nil .nil), d.render :: seen⟩) := by
  unfold Search.offer
  rw [if_neg (by simpa using hseen), Tree.addChild_eq_graft hp hd]

/-- The search below a candidate, wherever it stands, grafts what grows there without asking, as
long as nothing of it has been met; afterwards no more than that has been met in addition. -/
def Grafts (s : Exhaustive) (c : Candidate) : Prop :=
  ∀ (t : Tree) (seen : List Text) (p : Nat), t.Numbered → t.value? p = some c →
    (∀ d, Relation.TransGen s.Cut c d → d.render ∉ seen) →
    ∃ seen', s.refine ⟨t, seen⟩ p c = ⟨t.graft p (s.grow t.size c), seen'⟩ ∧
      ∀ x ∈ seen', x ∈ seen ∨ ∃ d, Relation.TransGen s.Cut c d ∧ x = d.render

/-- One head: its candidate is accepted, and what grows below it is grafted. -/
theorem refineStep_eq_graft {c : Candidate} (hc : c.IsOpen) {h : Fragment × Text}
    (hh : h ∈ s.heads c.last.word) (hgrafts : s.Grafts (cutLast c h)) {t : Tree}
    {seen : List Text} {p : Nat} (ht : t.Numbered) (hp : t.value? p = some c)
    (hfresh : ∀ d, Relation.ReflTransGen s.Cut (cutLast c h) d → d.render ∉ seen) :
    ∃ seen', s.refineStep p c ⟨t, seen⟩ h =
        ⟨t.graft p (.node t.size (cutLast c h) (s.grow (t.size + 1) (cutLast c h)) .nil), seen'⟩ ∧
      ∀ x ∈ seen', x ∈ seen ∨
        ∃ d, Relation.ReflTransGen s.Cut (cutLast c h) d ∧ x = d.render := by
  set d := cutLast c h with hd
  have hpid := ht.mem_ids_of_value? hp
  have hone : (Forest.node t.size d .nil .nil).ids.Perm
      (List.range' t.size (Forest.node t.size d .nil .nil).size) := .refl _
  have hoffer := offer_eq (hfresh d .refl) hp (refines_cutLast hc hh)
  obtain ⟨seen', hrefine, hseen'⟩ := hgrafts (t.graft p (.node t.size d .nil .nil))
    (d.render :: seen) t.size (ht.graft hpid hone) (ht.value?_graft hpid hone (.inr (by simp)))
    (fun e he hmem => by
      rcases List.mem_cons.1 hmem with heq | hmem
      · -- a text that has just been met would be that of a shorter candidate
        rw [Candidate.render_injective heq] at he
        exact Nat.lt_irrefl _ (prefix_of_transGen he).2
      · exact hfresh e he.to_reflTransGen hmem)
  refine ⟨seen', ?_, fun x hx => ?_⟩
  · unfold refineStep
    rw [← hd, hoffer]
    simp only
    rw [hrefine, ht.graft_graft_last, Tree.size_graft ht hpid]
    rfl
  · rcases hseen' x hx with hx | ⟨e, he, rfl⟩
    · rcases List.mem_cons.1 hx with rfl | hx
      · exact .inr ⟨d, .refl, rfl⟩
      · exact .inl hx
    · exact .inr ⟨e, he.to_reflTransGen, rfl⟩

/-- Some heads, one after the other. -/
theorem foldl_refineStep {c : Candidate} (hc : c.IsOpen)
    (hgrafts : ∀ h ∈ s.heads c.last.word, s.Grafts (cutLast c h))
    (hs : List {h // h ∈ s.heads c.last.word}) : ∀ (t : Tree) (seen : List Text) (p : Nat),
    t.Numbered → t.value? p = some c → (hs.map fun h => h.1.1).Nodup →
    (∀ h ∈ hs, ∀ d, Relation.ReflTransGen s.Cut (cutLast c h.1) d → d.render ∉ seen) →
    ∃ seen', hs.foldl (fun st h => s.refineStep p c st h.1) ⟨t, seen⟩ =
        ⟨t.graft p (s.plant t.size c hs), seen'⟩ ∧
      ∀ x ∈ seen', x ∈ seen ∨
        ∃ h ∈ hs, ∃ d, Relation.ReflTransGen s.Cut (cutLast c h.1) d ∧ x = d.render := by
  induction hs with
  | nil =>
    intro t seen p _ _ _ _
    exact ⟨seen, by rw [plant_nil, Tree.graft_nil]; rfl, fun x hx => .inl hx⟩
  | cons h hs ih =>
    intro t seen p ht hp hnd hfresh
    rw [List.map_cons, List.nodup_cons] at hnd
    have hpid := ht.mem_ids_of_value? hp
    obtain ⟨seen₁, hstep, hseen₁⟩ := refineStep_eq_graft hc h.2 (hgrafts h.1 h.2) ht hp
      (hfresh h List.mem_cons_self)
    set g := Forest.node t.size (cutLast c h.1) (s.grow (t.size + 1) (cutLast c h.1)) .nil with hg
    have hids : g.ids.Perm (List.range' t.size g.size) := by
      rw [hg, Forest.ids_node, ids_grow, Forest.ids_nil, List.append_nil, Forest.size, Forest.size,
        Nat.add_zero, Nat.add_comm 1, List.range'_succ]
    obtain ⟨seen₂, hrest, hseen₂⟩ := ih (t.graft p g) seen₁ p (ht.graft hpid hids)
      (ht.value?_graft hpid hids (.inl hp)) hnd.2 (fun h' hh' d hd hmem => by
        rcases hseen₁ _ hmem with hmem | ⟨e, he, heq⟩
        · exact hfresh h' (List.mem_cons_of_mem h hh') d hd hmem
        · rw [Candidate.render_injective heq] at hd
          exact hnd.1 (List.mem_map.2 ⟨h', hh', head_unique hd he⟩))
    refine ⟨seen₂, ?_, fun x hx => ?_⟩
    · have hsize : t.size + g.size = t.size + 1 + (s.grow (t.size + 1) (cutLast c h.1)).size := by
        rw [hg, Forest.size, Forest.size]
        omega
      rw [List.foldl_cons, hstep, hrest, Tree.graft_graft_self, Tree.size_graft ht hpid, hsize,
        plant_cons, hg, Forest.append, Forest.nil_append]
    · rcases hseen₂ x hx with hx | ⟨h', hh', hd⟩
      · exact (hseen₁ x hx).imp_right fun hd => ⟨h, List.mem_cons_self, hd⟩
      · exact .inr ⟨h', List.mem_cons_of_mem h hh', hd⟩

/-- **The search grafts what grows without asking**: no candidate that it offers has been met, and
none is refused. -/
theorem grafts {c : Candidate} (hc : c.IsOpen) : s.Grafts c := by
  induction c using cutLast_induction (s := s) with
  | step c ih =>
    intro t seen p ht hp hfresh
    have hcut : ∀ h : {h // h ∈ s.heads c.last.word}, s.Cut c (cutLast c h.1) :=
      fun h => cut_iff.2 ⟨hc, h.1, h.2, rfl⟩
    obtain ⟨seen', hfold, hseen'⟩ := foldl_refineStep hc
      (fun h hh => ih h hh (isOpen_cutLast c h)) (s.heads c.last.word).attach t seen p ht hp
      (nodup_map_attach_heads c) (fun h _ d hd => hfresh d (.head' (hcut h) hd))
    refine ⟨seen', ?_, fun x hx => ?_⟩
    · rw [refine_eq, hfold, grow]
    · rcases hseen' x hx with hx | ⟨h, -, d, hd, rfl⟩
      · exact .inl hx
      · exact .inr ⟨d, .head' (hcut h) hd, rfl⟩

/-! ## The readings of a word -/

theorem reading_iff {w : Text} {c : Candidate} :
    s.Reading w c ↔ Relation.ReflTransGen s.Cut (.ofWord (s.dictionary.normalize w)) c := by
  constructor
  · intro h
    induction h with
    | whole => exact .refl
    | cut _ hcd ih => exact ih.tail hcd
  · intro h
    induction h with
    | refl => exact .whole
    | tail _ hcd ih => exact .cut ih hcd

theorem Reading.isOpen {w : Text} {c : Candidate} (h : s.Reading w c) : c.IsOpen := by
  cases h with
  | whole => rfl
  | cut _ hcd =>
    obtain ⟨-, h, -, rfl⟩ := cut_iff.1 hcd
    exact isOpen_cutLast _ h

/-- A reading spells the word. -/
theorem Reading.surface {w : Text} {c : Candidate} (h : s.Reading w c) :
    c.surface = s.dictionary.normalize w := by
  induction h with
  | whole => simp [Candidate.surface, Candidate.ofWord]
  | cut _ hcd ih =>
    obtain ⟨hc, h, hh, rfl⟩ := cut_iff.1 hcd
    rw [surface_cutLast hc hh, ih]

/-- The search over a word plants every cut. -/
theorem split_eq_growth (w : Text) : s.split w = s.growth w := by
  set root := Candidate.ofWord (s.dictionary.normalize w) with hroot
  -- only the root has been met, and what comes from it is longer
  have hnew : ∀ d, Relation.TransGen s.Cut root d → d.render ∉ [root.render] := by
    intro d hd hmem
    have heq := Candidate.render_injective (List.mem_singleton.1 hmem)
    exact absurd (prefix_of_transGen hd).2 (by rw [heq]; exact Nat.lt_irrefl _)
  obtain ⟨seen', hrefine, -⟩ := grafts (Candidate.isOpen_ofWord _) (.single root) [root.render] 0
    (Tree.numbered_single root) rfl hnew
  have hsplit : s.split w = (s.refine (.start root) 0 root).tree := rfl
  rw [hsplit, Search.start, hrefine]
  rfl

/-- The nodes are numbered in depth-first order. -/
theorem ids_growth (w : Text) : (s.growth w).ids = List.range (s.growth w).size := by
  rw [Tree.ids, growth, ids_grow, Tree.size, List.range_eq_range', Nat.add_comm 1,
    List.range'_succ]

theorem numbered_growth (w : Text) : (s.growth w).Numbered := by
  unfold Tree.Numbered
  rw [ids_growth]

theorem mem_candidates_growth_iff {w : Text} {c : Candidate} :
    c ∈ (s.growth w).candidates ↔ s.Reading w c := by
  rw [reading_iff, Relation.reflTransGen_iff_eq_or_transGen, Tree.candidates, List.mem_cons, growth,
    mem_candidates_grow_iff (Candidate.isOpen_ofWord _)]

theorem nodup_candidates_growth (w : Text) : (s.growth w).candidates.Nodup := by
  rw [Tree.candidates, List.nodup_cons]
  refine ⟨fun h => ?_, nodup_candidates_grow _ _⟩
  have hroot := (mem_candidates_grow_iff (Candidate.isOpen_ofWord _)).1 h
  exact Nat.lt_irrefl _ (prefix_of_transGen hroot).2

/-- What stands directly below a reading is what comes from it by one cut. -/
theorem hasChild_growth_iff {w : Text} {p c : Candidate} :
    (s.growth w).HasChild p c ↔ s.Reading w p ∧ s.Cut p c := by
  -- below every node stands what grows from its candidate
  have hbelow : ∀ {x : Nat × Candidate × Forest}, x ∈ (s.growth w).nodes →
      x.2.2 = s.grow (x.1 + 1) x.2.1 := by
    intro x hx
    rcases List.mem_cons.1 hx with rfl | hx
    · rfl
    · exact below_grow hx
  rw [(numbered_growth w).hasChild_iff]
  constructor
  · rintro ⟨i, b, j, hp, hc⟩
    have hread := mem_candidates_growth_iff.1 ((Tree.mem_candidates_iff _).2 ⟨i, b, hp⟩)
    obtain rfl : b = s.grow (i + 1) p := hbelow hp
    obtain ⟨h, hh, rfl⟩ := exists_mem_tops_grow_iff.1 ⟨j, hc⟩
    exact ⟨hread, cut_iff.2 ⟨hread.isOpen, h, hh, rfl⟩⟩
  · rintro ⟨hread, hcut⟩
    obtain ⟨i, b, hp⟩ := (Tree.mem_candidates_iff _).1 (mem_candidates_growth_iff.2 hread)
    obtain ⟨-, hcut⟩ := cut_iff.1 hcut
    obtain rfl : b = s.grow (i + 1) p := hbelow hp
    obtain ⟨j, hc⟩ := exists_mem_tops_grow_iff.2 hcut
    exact ⟨i, _, j, hp, hc⟩

/-- **The tree holds the readings of a word**, each of them once and below the one that it comes
from, and every reading spells the word. No cut is lost: the tree is the one that grows without
asking. -/
theorem split_complete (s : Exhaustive) (w : Text) :
    s.split w = s.growth w ∧
    (∀ c, c ∈ (s.split w).candidates ↔ s.Reading w c) ∧
    (s.split w).candidates.Nodup ∧
    (∀ p c, (s.split w).HasChild p c ↔ s.Reading w p ∧ s.Cut p c) ∧
    ∀ c ∈ (s.split w).candidates, c.surface = s.dictionary.normalize w := by
  rw [split_eq_growth]
  refine ⟨rfl, fun c => mem_candidates_growth_iff, nodup_candidates_growth w,
    fun p c => hasChild_growth_iff, fun c hc => ?_⟩
  exact (mem_candidates_growth_iff.1 hc).surface

end Exhaustive

end Kompositum
