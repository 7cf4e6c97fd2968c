import Kompositum.Proofs.Candidate.Refinement
import Kompositum.Proofs.Candidate.Tree
import Kompositum.Proofs.Lexicon.Directions
import Kompositum.Splitter.HeadTail
import Mathlib.Data.Prod.Lex

/-!
# The preferred head and tail

Heads and tails are told by where they are cut. Of the admissible pairs exactly one comes first when
the length of the gap, the number of words that continue the head or the tail, and the lengths of
tail and head are compared in this order, so that the search may go through them in any order.

* `HeadTail.Admissible`: where a head may end and a tail begin.
* `HeadTail.cost`: what pairs are compared by; no two admissible pairs have the same
  (`cost_inj`), and `better` compares by it (`better_edges_iff`).
* `HeadTail.preferred?_eq_some_iff`: the preferred reading is the one of least cost.
* `HeadTail.run_wrapping`: overflow that is not checked for does no harm.
* `HeadTail.split_preferred`: the tree of a word, and what a program makes of it.
-/

namespace Kompositum

theorem Fragment.surface_linked (word morpheme : Text) :
    (linked word morpheme).surface = word ++ morpheme := by
  unfold linked surface
  cases morpheme with
  | nil => rfl
  | cons c t => rfl

namespace HeadTail

variable {s : HeadTail} {v w : Text} {h t : Nat}

/-! ## The reading of a pair -/

/-- What lies between the first `h` characters of a text and those from `t` on. -/
def between (v : Text) (h t : Nat) : Text := (v.take t).drop h

theorem take_between_drop (v : Text) (hht : h ≤ t) :
    v.take h ++ between v h t ++ v.drop t = v := by
  have hhead : v.take h = (v.take t).take h := by rw [List.take_take, Nat.min_eq_left hht]
  rw [between, hhead, List.take_append_drop, List.take_append_drop]

/-- The reading with given cuts has two fragments and spells the text. -/
theorem reading_spells {p : Edge × Edge} (hp : p.1.position ≤ p.2.position) :
    (reading v p).isSplit = true ∧ (reading v p).surface = v := by
  unfold reading
  rw [Candidate.ofFragments_of_ne_nil (List.cons_ne_nil _ _)]
  refine ⟨rfl, ?_⟩
  unfold Candidate.surface
  rw [List.flatMap_cons, List.flatMap_cons, List.flatMap_nil, List.append_nil,
    Fragment.surface_linked, Fragment.surface_plain]
  exact take_between_drop v hp

theorem mem_of_best? {ps : List (Edge × Edge)} {p : Edge × Edge} (hp : best? ps = some p) :
    p ∈ ps := by
  induction ps generalizing p with
  | nil => cases hp
  | cons q ps ih =>
    rw [best?] at hp
    cases hbest : best? ps with
    | none =>
      rw [hbest] at hp
      obtain rfl := Option.some.inj hp
      exact List.mem_cons_self
    | some r =>
      rw [hbest] at hp
      dsimp only at hp
      split at hp
      case isTrue =>
        obtain rfl := Option.some.inj hp
        exact List.mem_cons_of_mem _ (ih hbest)
      case isFalse =>
        obtain rfl := Option.some.inj hp
        exact List.mem_cons_self

theorem mem_pairs {p : Edge × Edge} :
    p ∈ s.pairs v ↔ p.1 ∈ s.heads v ∧ p.2 ∈ s.tails v ∧ p.1.position ≤ p.2.position ∧
      s.acceptsGap (between v p.1.position p.2.position) = true := by
  obtain ⟨a, b⟩ := p
  simp only [pairs, List.mem_flatMap, List.mem_map, List.mem_filter, Bool.and_eq_true,
    decide_eq_true_eq, Prod.mk.injEq]
  constructor
  · rintro ⟨x, hx, y, ⟨hy, hle, hgap⟩, rfl, rfl⟩
    exact ⟨hx, hy, hle, hgap⟩
  · rintro ⟨hx, hy, hle, hgap⟩
    exact ⟨a, hx, b, ⟨hy, hle, hgap⟩, rfl, rfl⟩

/-- **The preferred reading** has two fragments and spells the text. -/
theorem preferred?_spells {c : Candidate} (hc : s.preferred? v = some c) :
    c.isSplit = true ∧ c.surface = v := by
  obtain ⟨p, hp, rfl⟩ := Option.map_eq_some_iff.1 hc
  exact reading_spells (mem_pairs.1 (mem_of_best? hp)).2.2.1

/-! ## The tree of a word -/

/-- What spells the form of a word in the dictionary is never refused by the word's tree. -/
theorem addChild_single {c : Candidate} (hsplit : c.isSplit = true)
    (hc : c.surface = s.dictionary.normalize w) :
    (Tree.single (.ofWord w)).addChild 0 c = .ok ⟨.ofWord w, .node 1 c .nil .nil⟩ := by
  have hrefines : c.Refines (.ofWord w) := by
    refine Candidate.refines_ofWord_iff.2 ⟨hsplit, ?_⟩
    unfold Candidate.Partitions
    rw [hc, Dictionary.lower_normalize]
  exact Tree.addChild_eq_graft rfl hrefines

theorem attached_of_preferred {c : Candidate}
    (hc : s.preferred? (s.dictionary.normalize w) = some c) :
    s.attached w = ⟨.ofWord w, .node 1 c .nil .nil⟩ := by
  obtain ⟨hsplit, hsurface⟩ := preferred?_spells hc
  unfold attached
  rw [hc]
  dsimp only
  rw [addChild_single hsplit hsurface]
  rfl

theorem attached_of_none (hnone : s.preferred? (s.dictionary.normalize w) = none) :
    s.attached w = .single (.ofWord w) := by
  unfold attached
  rw [hnone]

theorem split_of_preferred {c : Candidate} (hopen : s.isOpen w = true)
    (hc : s.preferred? (s.dictionary.normalize w) = some c) :
    s.split w = ⟨.ofWord w, .node 1 c .nil .nil⟩ := by
  rw [split, if_pos hopen, attached_of_preferred hc]

theorem split_of_none
    (hnone : s.isOpen w = true → s.preferred? (s.dictionary.normalize w) = none) :
    s.split w = .single (.ofWord w) := by
  unfold split
  by_cases hopen : s.isOpen w = true
  · rw [if_pos hopen, attached_of_none (hnone hopen)]
  · rw [if_neg hopen]

/-- The word alone, or with the preferred reading below it. -/
theorem split_cases (s : HeadTail) (w : Text) :
    s.split w = .single (.ofWord w) ∨
      ∃ c, s.preferred? (s.dictionary.normalize w) = some c ∧
        s.split w = ⟨.ofWord w, .node 1 c .nil .nil⟩ := by
  by_cases hopen : s.isOpen w = true
  · cases hc : s.preferred? (s.dictionary.normalize w) with
    | none => exact .inl (split_of_none fun _ => hc)
    | some c => exact .inr ⟨c, rfl, split_of_preferred hopen hc⟩
  · exact .inl (split_of_none fun hyes => absurd hyes hopen)

theorem root_split (s : HeadTail) (w : Text) : (s.split w).root = .ofWord w := by
  rcases split_cases s w with heq | ⟨c, -, heq⟩
  · rw [heq, Tree.single]
  · rw [heq]

theorem size_below_split_le (s : HeadTail) (w : Text) : (s.split w).below.size ≤ 1 := by
  rcases split_cases s w with heq | ⟨c, -, heq⟩
  · rw [heq]
    exact Nat.zero_le 1
  · rw [heq]
    exact le_refl 1

/-- What is below the root is the preferred reading, unless the word is not to be split. -/
theorem mem_below_split_iff (s : HeadTail) (w : Text) (c : Candidate) :
    c ∈ (s.split w).below.candidates ↔
      s.isOpen w = true ∧ s.preferred? (s.dictionary.normalize w) = some c := by
  by_cases hopen : s.isOpen w = true
  · cases hp : s.preferred? (s.dictionary.normalize w) with
    | none => simp [split_of_none fun _ => hp, Tree.single, Forest.candidates]
    | some d => simp [split_of_preferred hopen hp, Forest.candidates, hopen, eq_comm]
  · simp [split_of_none fun hyes => absurd hyes hopen, Tree.single, Forest.candidates, hopen]

theorem size_below_split_eq_one_iff (s : HeadTail) (w : Text) :
    (s.split w).below.size = 1 ↔ ∃ c, c ∈ (s.split w).below.candidates := by
  rcases split_cases s w with heq | ⟨c, -, heq⟩
  · simp [heq, Tree.single, Forest.size, Forest.candidates]
  · simp [heq, Forest.size, Forest.candidates]

/-! ## Admissible pairs -/

/-- **Where a head may end and a tail begin** in a text: two cuts, a long enough word of the
dictionary on either side, and an acceptable gap. -/
structure Admissible (s : HeadTail) (v : Text) (h t : Nat) : Prop where
  head_cut : h ∈ s.cuts.positions v
  tail_cut : t ∈ s.cuts.positions v
  le : h ≤ t
  head_word : v.take h ∈ s.dictionary.words
  head_long : s.options.minFragmentLength ≤ (v.take h).length
  tail_word : v.drop t ∈ s.dictionary.words
  tail_long : s.options.minFragmentLength ≤ (v.drop t).length
  gap_short : (between v h t).length ≤ s.options.maxMorphemeLength
  gap_known : s.options.requireMorpheme = true →
    between v h t = [] ∨ s.morphemes.contains (between v h t) = true

/-- **What pairs are compared by**: the length of the gap, the number of words that continue the head
or lead to the tail, and the lengths of tail and head, of which longer ones come first. -/
def cost (s : HeadTail) (v : Text) (h t : Nat) : ℕ ×ₗ ℕ ×ₗ ℤ ×ₗ ℤ :=
  toLex ((between v h t).length,
    toLex ((s.dictionary.continuing (v.take h)).card + (s.dictionary.leading (v.drop t)).card,
      toLex (-((v.drop t).length : ℤ), -((v.take h).length : ℤ))))

/-- The tries are those of the dictionary, whose words are in order. -/
structure Counted (s : HeadTail) : Prop where
  kept : s.dictionary.Kept
  forward_eq : s.forward = .ofDictionary .forward s.dictionary
  reverse_eq : s.reverse = .ofDictionary .reverse s.dictionary

/-- A head and a tail with the numbers of words that continue them. -/
def edges (s : HeadTail) (v : Text) (h t : Nat) : Edge × Edge :=
  (⟨h, (s.dictionary.continuing (v.take h)).card⟩, ⟨t, (s.dictionary.leading (v.drop t)).card⟩)

theorem isConstituent_iff {u : Text} (hu : s.dictionary.IsNormal u) :
    s.isConstituent u = true ↔
      s.options.minFragmentLength ≤ u.length ∧ u ∈ s.dictionary.words := by
  rw [isConstituent, Bool.and_eq_true, decide_eq_true_eq, hu.contains_iff]

theorem acceptsGap_iff {gap : Text} :
    s.acceptsGap gap = true ↔ gap.length ≤ s.options.maxMorphemeLength ∧
      (s.options.requireMorpheme = true → gap = [] ∨ s.morphemes.contains gap = true) := by
  rw [acceptsGap, Bool.and_eq_true, decide_eq_true_eq, Bool.or_eq_true, Bool.or_eq_true,
    List.isEmpty_iff, or_assoc, Bool.not_eq_true', ← Bool.not_eq_true, imp_iff_not_or]

theorem mem_heads_iff (hs : s.Counted) (hv : s.dictionary.IsNormal v) {e : Edge} :
    e ∈ s.heads v ↔ e.position ∈ s.cuts.positions v ∧
      s.options.minFragmentLength ≤ (v.take e.position).length ∧
      v.take e.position ∈ s.dictionary.words ∧
      e.successors = (s.dictionary.continuing (v.take e.position)).card := by
  have hnormal : ∀ i, s.dictionary.IsNormal (v.take i) := fun i => hv.of_subset (List.take_subset i v)
  have hcount : ∀ i ∈ s.cuts.positions v,
      s.forward.successors (v.take i) = (s.dictionary.continuing (v.take i)).card := by
    intro i hi
    have := s.cuts.interior v i hi
    have hne : v.take i ≠ [] := List.ne_nil_of_length_pos (by rw [List.length_take]; omega)
    rw [hs.forward_eq, hs.kept.successors_forward hne (hnormal i)]
  simp only [heads, List.mem_filterMap, Option.ite_none_right_eq_some, Option.some.injEq,
    isConstituent_iff (hnormal _)]
  constructor
  · rintro ⟨i, hi, hword, rfl⟩
    exact ⟨hi, hword.1, hword.2, hcount i hi⟩
  · rintro ⟨hi, hlong, hword, hsucc⟩
    refine ⟨e.position, hi, ⟨hlong, hword⟩, ?_⟩
    rw [hcount _ hi, ← hsucc]

theorem mem_tails_iff (hs : s.Counted) (hv : s.dictionary.IsNormal v) {e : Edge} :
    e ∈ s.tails v ↔ e.position ∈ s.cuts.positions v ∧
      s.options.minFragmentLength ≤ (v.drop e.position).length ∧
      v.drop e.position ∈ s.dictionary.words ∧
      e.successors = (s.dictionary.leading (v.drop e.position)).card := by
  have hnormal : ∀ i, s.dictionary.IsNormal (v.drop i) := fun i => hv.of_subset (List.drop_subset i v)
  have hkey : ∀ u : Text, s.reverse.key u = u.reverse := by
    intro u
    rw [hs.reverse_eq, Trie.key_ofDictionary]
    rfl
  have hcount : ∀ i ∈ s.cuts.positions v,
      s.reverse.successors (s.reverse.key (v.drop i)) =
        (s.dictionary.leading (v.drop i)).card := by
    intro i hi
    have := s.cuts.interior v i hi
    have hne : v.drop i ≠ [] := List.ne_nil_of_length_pos (by rw [List.length_drop]; omega)
    rw [hkey, hs.reverse_eq, hs.kept.successors_reverse hne (hnormal i)]
  simp only [tails, List.mem_filterMap, Option.ite_none_right_eq_some, Option.some.injEq,
    isConstituent_iff (hnormal _)]
  constructor
  · rintro ⟨i, hi, hword, rfl⟩
    exact ⟨hi, hword.1, hword.2, hcount i hi⟩
  · rintro ⟨hi, hlong, hword, hsucc⟩
    refine ⟨e.position, hi, ⟨hlong, hword⟩, ?_⟩
    rw [hcount _ hi, ← hsucc]

/-- **The pairs that are searched** are the admissible ones. -/
theorem mem_pairs_iff (hs : s.Counted) (hv : s.dictionary.IsNormal v) {p : Edge × Edge} :
    p ∈ s.pairs v ↔ ∃ h t, s.Admissible v h t ∧ p = s.edges v h t := by
  rw [mem_pairs, mem_heads_iff hs hv, mem_tails_iff hs hv, acceptsGap_iff]
  constructor
  · rintro ⟨⟨hcut, hlong, hword, hsucc⟩, ⟨tcut, tlong, tword, tsucc⟩, hle, hshort, hknown⟩
    refine ⟨p.1.position, p.2.position,
      ⟨hcut, tcut, hle, hword, hlong, tword, tlong, hshort, hknown⟩, ?_⟩
    rw [edges, ← hsucc, ← tsucc]
  · rintro ⟨h, t, ha, rfl⟩
    exact ⟨⟨ha.head_cut, ha.head_long, ha.head_word, rfl⟩,
      ⟨ha.tail_cut, ha.tail_long, ha.tail_word, rfl⟩, ha.le, ha.gap_short, ha.gap_known⟩

/-! ## The pair of least cost -/

theorem Admissible.lengths (ha : s.Admissible v h t) :
    (between v h t).length = t - h ∧ (v.take h).length = h ∧ (v.drop t).length = v.length - t ∧
      h < v.length ∧ t < v.length := by
  have hh := s.cuts.interior v h ha.head_cut
  have ht := s.cuts.interior v t ha.tail_cut
  rw [between, List.length_drop, List.length_take, List.length_take, List.length_drop]
  omega

/-- **No two admissible pairs cost the same.** -/
theorem Admissible.cost_inj {h' t' : Nat} (ha : s.Admissible v h t) (ha' : s.Admissible v h' t')
    (heq : s.cost v h t = s.cost v h' t') : h = h' ∧ t = t' := by
  obtain ⟨-, htake, hdrop, -, tlt⟩ := ha.lengths
  obtain ⟨-, htake', hdrop', -, tlt'⟩ := ha'.lengths
  obtain ⟨-, hrest⟩ := Prod.mk.inj (toLex_inj.1 heq)
  obtain ⟨-, hrest⟩ := Prod.mk.inj (toLex_inj.1 hrest)
  obtain ⟨htails, hheads⟩ := Prod.mk.inj (toLex_inj.1 hrest)
  omega

/-- **The comparison of pairs** is the one of their costs. -/
theorem better_edges_iff {h' t' : Nat} (ha : s.Admissible v h t) (ha' : s.Admissible v h' t') :
    better (s.edges v h t) (s.edges v h' t') = true ↔ s.cost v h t < s.cost v h' t' := by
  obtain ⟨hgap, htake, hdrop, hlt, tlt⟩ := ha.lengths
  obtain ⟨hgap', htake', hdrop', hlt', tlt'⟩ := ha'.lengths
  simp only [cost, Prod.Lex.toLex_lt_toLex, hgap, htake, hdrop, hgap', htake', hdrop']
  unfold better gapLength continuations edges
  simp only
  split
  case isTrue hne =>
    rw [decide_eq_true_eq]
    omega
  case isFalse heq =>
    split
    case isTrue hne =>
      rw [decide_eq_true_eq]
      omega
    case isFalse heq' =>
      split
      case isTrue hne =>
        rw [decide_eq_true_eq]
        omega
      case isFalse heq'' =>
        rw [decide_eq_true_eq]
        omega

/-- A search by a comparison of keys finds a pair with the least one. -/
theorem key_le_of_best? {β : Type} [LinearOrder β] {key : Edge × Edge → β}
    {ps : List (Edge × Edge)} (hkey : ∀ p ∈ ps, ∀ q ∈ ps, better p q = true ↔ key p < key q)
    {p : Edge × Edge} (hp : best? ps = some p) : ∀ q ∈ ps, key p ≤ key q := by
  induction ps generalizing p with
  | nil => cases hp
  | cons a ps ih =>
    have hrest : ∀ x ∈ ps, ∀ y ∈ ps, better x y = true ↔ key x < key y := fun x hx y hy =>
      hkey x (List.mem_cons_of_mem a hx) y (List.mem_cons_of_mem a hy)
    rw [best?] at hp
    intro q hq
    cases hbest : best? ps with
    | none =>
      -- nothing is found in an empty list only
      rw [hbest] at hp
      obtain rfl := Option.some.inj hp
      cases ps with
      | nil => exact le_of_eq (congrArg key (List.mem_singleton.1 hq).symm)
      | cons b ps =>
        rw [best?] at hbest
        cases hnext : best? ps <;> simp [hnext] at hbest
    | some r =>
      have hr := mem_of_best? hbest
      have hle := ih hrest hbest
      have hra := hkey r (List.mem_cons_of_mem a hr) a List.mem_cons_self
      rw [hbest] at hp
      dsimp only at hp
      split at hp
      case isTrue hbetter =>
        obtain rfl := Option.some.inj hp
        rcases List.mem_cons.1 hq with rfl | hq
        · exact le_of_lt (hra.1 hbetter)
        · exact hle q hq
      case isFalse hworse =>
        obtain rfl := Option.some.inj hp
        have har : key a ≤ key r := not_lt.1 fun hlt => hworse (hra.2 hlt)
        rcases List.mem_cons.1 hq with rfl | hq
        · exact le_refl _
        · exact le_trans har (hle q hq)

theorem exists_best? {p : Edge × Edge} {ps : List (Edge × Edge)} (hp : p ∈ ps) :
    ∃ q, best? ps = some q := by
  cases ps with
  | nil => simp at hp
  | cons a ps =>
    rw [best?]
    cases best? ps with
    | none => exact ⟨a, rfl⟩
    | some q => exact ⟨_, rfl⟩

/-- **A pair of cuts is preferred** if it is admissible and no admissible pair costs less. -/
def Preferred (s : HeadTail) (v : Text) (h t : Nat) : Prop :=
  s.Admissible v h t ∧ ∀ h' t', s.Admissible v h' t' → s.cost v h t ≤ s.cost v h' t'

/-- **The preferred reading** is the one with the preferred cuts. -/
theorem preferred?_eq_some_iff (hs : s.Counted) (hv : s.dictionary.IsNormal v) {c : Candidate} :
    s.preferred? v = some c ↔ ∃ h t, s.Preferred v h t ∧
      c = .ofFragments [.linked (v.take h) (between v h t), .plain (v.drop t)] := by
  have hkey : ∀ p ∈ s.pairs v, ∀ q ∈ s.pairs v, better p q = true ↔
      s.cost v p.1.position p.2.position < s.cost v q.1.position q.2.position := by
    intro p hp q hq
    obtain ⟨h, t, ha, rfl⟩ := (mem_pairs_iff hs hv).1 hp
    obtain ⟨h', t', ha', rfl⟩ := (mem_pairs_iff hs hv).1 hq
    exact better_edges_iff ha ha'
  have hleast : ∀ {p}, best? (s.pairs v) = some p →
      ∃ h t, s.Preferred v h t ∧ p = s.edges v h t := by
    intro p hp
    obtain ⟨h, t, ha, rfl⟩ := (mem_pairs_iff hs hv).1 (mem_of_best? hp)
    refine ⟨h, t, ⟨ha, fun h' t' ha' => ?_⟩, rfl⟩
    exact key_le_of_best? hkey hp _ ((mem_pairs_iff hs hv).2 ⟨h', t', ha', rfl⟩)
  rw [preferred?, Option.map_eq_some_iff]
  constructor
  · rintro ⟨p, hp, rfl⟩
    obtain ⟨h, t, hpref, rfl⟩ := hleast hp
    exact ⟨h, t, hpref, rfl⟩
  · rintro ⟨h, t, hpref, rfl⟩
    obtain ⟨p, hp⟩ := exists_best? ((mem_pairs_iff hs hv).2 ⟨h, t, hpref.1, rfl⟩)
    obtain ⟨h', t', hpref', rfl⟩ := hleast hp
    -- both cost the least, and so they are the same
    have heq := le_antisymm (hpref'.2 h t hpref.1) (hpref.2 h' t' hpref'.1)
    obtain ⟨rfl, rfl⟩ := hpref'.1.cost_inj hpref.1 heq
    exact ⟨_, hp, rfl⟩

-- no gap is preferred to an *n* between *Garage* and *Einfahrt*
example : (ofDictionary (.ofList {} ["Garage", "Garagen", "Einfahrt"]) .german {}).preferred?
    "garageneinfahrt" = some (.ofFragments [.plain "garagen", .plain "einfahrt"]) := by
  decide +kernel

/-- Where there is an admissible pair there is a preferred reading. -/
theorem exists_preferred? (hs : s.Counted) (hv : s.dictionary.IsNormal v)
    (ha : s.Admissible v h t) : ∃ c, s.preferred? v = some c := by
  obtain ⟨p, hp⟩ := exists_best? ((mem_pairs_iff hs hv).2 ⟨h, t, ha, rfl⟩)
  exact ⟨_, Option.map_eq_some_iff.2 ⟨p, hp, rfl⟩⟩

/-- There is no preferred reading where no pair of cuts is admissible. -/
theorem preferred?_eq_none_iff (hs : s.Counted) (hv : s.dictionary.IsNormal v) :
    s.preferred? v = none ↔ ¬∃ h t, s.Admissible v h t := by
  constructor
  · rintro hnone ⟨h, t, ha⟩
    obtain ⟨c, hc⟩ := exists_preferred? hs hv ha
    rw [hnone] at hc
    cases hc
  · intro hnone
    cases hc : s.preferred? v with
    | none => rfl
    | some c =>
      obtain ⟨h, t, hpref, -⟩ := (preferred?_eq_some_iff hs hv).1 hc
      exact absurd ⟨h, t, hpref.1⟩ hnone

theorem isOpen_iff : s.isOpen w = true ↔
    s.dictionary.normalize w ∉ s.dictionary.words ∧ s.options.leastLength ≤ w.length := by
  rw [isOpen, Bool.and_eq_true, decide_eq_true_eq, Bool.not_eq_true', ← Bool.not_eq_true,
    Dictionary.contains_iff]

theorem counted_ofList (o : DictionaryOptions) (ws : List Text) (ms : Morphemes)
    (options : HeadTailOptions) (cuts : Text.Cuts) :
    (ofDictionary (.ofList o ws) ms options cuts).Counted :=
  ⟨Dictionary.kept_ofList o ws, rfl, rfl⟩

/-! ## Lengths that overflow -/

variable {o : Count.Overflow}

theorem run_of_mem (hw : s.dictionary.normalize w ∈ s.dictionary.words) :
    s.run o w = .ok (s.split w) := by
  have hcontains : s.dictionary.contains w = true := Dictionary.contains_iff.2 hw
  have hsingle : s.split w = .single (.ofWord w) :=
    split_of_none fun hopen => absurd hw (isOpen_iff.1 hopen).1
  rw [run, if_pos hcontains, hsingle]

theorem run_of_some {least : Nat} (hw : s.dictionary.normalize w ∉ s.dictionary.words)
    (hleast : Count.mul? o 2 (max s.options.minFragmentLength 1) = some least) :
    s.run o w = .ok (if least ≤ w.length then s.attached w else .single (.ofWord w)) := by
  have hcontains : ¬ s.dictionary.contains w = true := fun h => hw (Dictionary.contains_iff.1 h)
  rw [run, if_neg hcontains, hleast]

theorem run_of_none (hw : s.dictionary.normalize w ∉ s.dictionary.words)
    (hleast : Count.mul? o 2 (max s.options.minFragmentLength 1) = none) :
    s.run o w = .error (.lengthOverflow s.options.leastLength) := by
  have hcontains : ¬ s.dictionary.contains w = true := fun h => hw (Dictionary.contains_iff.1 h)
  rw [run, if_neg hcontains, hleast]

/-- Without overflow programs compute the tree. -/
theorem run_of_le (hle : s.options.leastLength ≤ Count.largest) : s.run o w = .ok (s.split w) := by
  by_cases hw : s.dictionary.normalize w ∈ s.dictionary.words
  · exact run_of_mem hw
  · have hleast : Count.mul? o 2 (max s.options.minFragmentLength 1) =
        some s.options.leastLength := if_pos hle
    rw [run_of_some hw hleast, split]
    refine congrArg Except.ok (if_congr ?_ rfl rfl)
    rw [isOpen_iff, and_iff_right hw]

/-- A program that checks for overflow is stopped by it. -/
theorem run_checked_of_lt (hlt : Count.largest < s.options.leastLength)
    (hw : s.dictionary.normalize w ∉ s.dictionary.words) :
    s.run .checked w = .error (.lengthOverflow s.options.leastLength) :=
  run_of_none hw (if_neg (Nat.not_le.2 hlt))

/-- A word is not split if no head can be long enough. -/
theorem attached_of_length_lt (hs : s.Counted)
    (hlt : (s.dictionary.normalize w).length < s.options.minFragmentLength) :
    s.attached w = .single (.ofWord w) := by
  refine attached_of_none
    ((preferred?_eq_none_iff hs (s.dictionary.isNormal_normalize w)).2 ?_)
  rintro ⟨h, t, ha⟩
  have hlong := ha.head_long
  rw [List.length_take] at hlong
  omega

/-- **Overflow that is not checked for does no harm**: no word in memory has a head so long that
the least length overflows. -/
theorem run_wrapping (hs : s.Counted)
    (hmemory : (s.dictionary.normalize w).length ≤ Count.largest / 2) :
    s.run .wrapping w = .ok (s.split w) := by
  by_cases hle : s.options.leastLength ≤ Count.largest
  · exact run_of_le hle
  by_cases hw : s.dictionary.normalize w ∈ s.dictionary.words
  · exact run_of_mem hw
  have hlong : (s.dictionary.normalize w).length < s.options.minFragmentLength := by
    unfold HeadTailOptions.leastLength Count.largest at hle
    unfold Count.largest at hmemory
    omega
  have hleast : Count.mul? .wrapping 2 (max s.options.minFragmentLength 1) =
      some (s.options.leastLength % (Count.largest + 1)) := if_neg hle
  rw [run_of_some hw hleast, split, attached_of_length_lt hs hlong, ite_self, ite_self]

/-! ## What becomes of a word -/

/-- **What becomes of a word.** -/
structure SplitAsPreferred (s : HeadTail) (w : Text) : Prop where
  /-- The root of its tree is the word as it is written. -/
  root : (s.split w).root = .ofWord w
  /-- At most one candidate is below it. -/
  size_le : (s.split w).below.size ≤ 1
  /-- There is one exactly if the dictionary lacks the word, the word is long enough and a pair of
  cuts is admissible. -/
  size_eq_one_iff : (s.split w).below.size = 1 ↔
    (s.dictionary.normalize w ∉ s.dictionary.words ∧ s.options.leastLength ≤ w.length) ∧
      ∃ h t, s.Admissible (s.dictionary.normalize w) h t
  /-- It is the reading of the preferred pair. -/
  mem_below_iff : ∀ c, c ∈ (s.split w).below.candidates ↔
    (s.dictionary.normalize w ∉ s.dictionary.words ∧ s.options.leastLength ≤ w.length) ∧
      ∃ h t, s.Preferred (s.dictionary.normalize w) h t ∧
        c = .ofFragments [.linked ((s.dictionary.normalize w).take h)
          (between (s.dictionary.normalize w) h t), .plain ((s.dictionary.normalize w).drop t)]
  /-- There is no other pair of the same cost. -/
  unique : ∀ h t h' t', s.Admissible (s.dictionary.normalize w) h t →
    s.Admissible (s.dictionary.normalize w) h' t' →
    s.cost (s.dictionary.normalize w) h t = s.cost (s.dictionary.normalize w) h' t' →
    h = h' ∧ t = t'
  /-- The reading spells the form of the word in the dictionary, and the tree does not refuse it. -/
  accepted : ∀ c, s.preferred? (s.dictionary.normalize w) = some c →
    c.surface = s.dictionary.normalize w ∧ ∃ t, (Tree.single (.ofWord w)).addChild 0 c = .ok t
  /-- A program that checks for overflow computes the tree, unless the least length exceeds the
  largest count. -/
  checked_iff : s.run .checked w = .ok (s.split w) ↔
    s.dictionary.normalize w ∈ s.dictionary.words ∨ s.options.leastLength ≤ Count.largest
  /-- Then it is stopped by every word that the dictionary lacks. -/
  stopped_iff : s.run .checked w = .error (.lengthOverflow s.options.leastLength) ↔
    s.dictionary.normalize w ∉ s.dictionary.words ∧ Count.largest < s.options.leastLength
  /-- Other programs compute the tree of every word that fits into memory. -/
  wrapping : (s.dictionary.normalize w).length ≤ Count.largest / 2 →
    s.run .wrapping w = .ok (s.split w)

/-- **The tree of a word** holds the word as it is written, and below it the preferred reading if
there is one. A program that checks for overflow computes it as long as twice the least length of a
head is no more than the largest count. -/
theorem split_preferred (o : DictionaryOptions) (ws : List Text) (ms : Morphemes)
    (options : HeadTailOptions) (cuts : Text.Cuts) (w : Text) :
    SplitAsPreferred (ofDictionary (.ofList o ws) ms options cuts) w := by
  generalize hsplitter : ofDictionary (.ofList o ws) ms options cuts = s
  have hs : s.Counted := hsplitter ▸ counted_ofList o ws ms options cuts
  have hv : s.dictionary.IsNormal (s.dictionary.normalize w) := s.dictionary.isNormal_normalize w
  have hchild : ∀ c, c ∈ (s.split w).below.candidates ↔
      s.isOpen w = true ∧ s.preferred? (s.dictionary.normalize w) = some c :=
    mem_below_split_iff s w
  refine
    { root := root_split s w
      size_le := size_below_split_le s w
      size_eq_one_iff := ?_, mem_below_iff := ?_, unique := ?_, accepted := ?_
      checked_iff := ?_, stopped_iff := ?_
      wrapping := run_wrapping hs }
  · rw [size_below_split_eq_one_iff s w, ← isOpen_iff]
    constructor
    · rintro ⟨c, hc⟩
      obtain ⟨hyes, hc⟩ := (hchild c).1 hc
      obtain ⟨h, t, hpref, -⟩ := (preferred?_eq_some_iff hs hv).1 hc
      exact ⟨hyes, h, t, hpref.1⟩
    · rintro ⟨hyes, h, t, ha⟩
      obtain ⟨c, hc⟩ := exists_preferred? hs hv ha
      exact ⟨c, (hchild c).2 ⟨hyes, hc⟩⟩
  · intro c
    rw [hchild, isOpen_iff, preferred?_eq_some_iff hs hv]
  · intro h t h' t' ha ha' heq
    exact ha.cost_inj ha' heq
  · intro c hc
    obtain ⟨hsplit, hsurface⟩ := preferred?_spells hc
    exact ⟨hsurface, _, addChild_single hsplit hsurface⟩
  · constructor
    · intro hrun
      by_contra hneither
      obtain ⟨hw, hlt⟩ := not_or.1 hneither
      rw [run_checked_of_lt (Nat.not_le.1 hlt) hw] at hrun
      cases hrun
    · rintro (hw | hle)
      · exact run_of_mem hw
      · exact run_of_le hle
  · constructor
    · intro hrun
      constructor
      · intro hw
        rw [run_of_mem hw] at hrun
        cases hrun
      · by_contra hle
        rw [run_of_le (Nat.not_lt.1 hle)] at hrun
        cases hrun
    · rintro ⟨hw, hlt⟩
      exact run_checked_of_lt hlt hw

/-- Heads and tails of 2⁶³ characters or more. -/
def endless : HeadTail :=
  ofDictionary (.ofList {} ["ab"]) (.ofList ["s"]) { minFragmentLength := 0x8000000000000000 }

/-- The least length of a word with a head and a tail is 2⁶⁴, which stops a program that checks for
overflow. -/
theorem endless_stopped :
    endless.run .checked "abab" = .error (.lengthOverflow 0x10000000000000000) ∧
      endless.run .wrapping "abab" = .ok (endless.split "abab") ∧
      (endless.split "abab").below.size = 0 := by
  have hsplit : SplitAsPreferred endless "abab" := split_preferred {} ["ab"] (.ofList ["s"])
    { minFragmentLength := 0x8000000000000000 } Text.clusters "abab"
  have hunknown : endless.dictionary.normalize "abab" ∉ endless.dictionary.words := by
    decide +kernel
  have hshort : (endless.dictionary.normalize "abab").length ≤ Count.largest / 2 := by
    decide +kernel
  have hnone : ¬ (endless.split "abab").below.size = 1 := fun hone =>
    absurd (hsplit.size_eq_one_iff.1 hone).1.2 (by decide)
  refine ⟨hsplit.stopped_iff.2 ⟨hunknown, by decide⟩, hsplit.wrapping hshort, ?_⟩
  have hsize := hsplit.size_le
  omega

end HeadTail

end Kompositum
