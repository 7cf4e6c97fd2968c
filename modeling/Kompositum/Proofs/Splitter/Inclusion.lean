import Kompositum.Proofs.Lexicon.Morphemes
import Kompositum.Proofs.Splitter.Exhaustive
import Kompositum.Proofs.Splitter.HeadTail

/-!
# The preferred reading among all readings

Where only linking morphemes may stand between head and tail, and heads are no shorter than the
constituents that are looked for from left to right, the preferred reading of a word is one of all
its readings if its morpheme is in small letters. A dictionary that does not fold case leaves
capital morphemes in its words: they are known when they are looked up, but no word ends with them
when morphemes are taken off its end.

* `Exhaustive.reading_pair_iff`: when a head and a tail are found from left to right.
* `HeadTail.preferred_linked`: what the preferred reading is made of.
* `HeadTail.split_found_iff`: when the preferred reading is one of all readings.
-/

namespace Kompositum

namespace Exhaustive

variable {s : Exhaustive} {w : Text}

/-- **The tree of a word** holds its readings and nothing else. -/
theorem mem_candidates_split_iff {c : Candidate} :
    c ∈ (s.split w).candidates ↔ s.Reading w c := by
  rw [split_eq_growth, mem_candidates_growth_iff]

/-- What a cut leaves behind: a constituent and the rest. -/
theorem Cut.exists_covers {c d : Candidate} (h : s.Cut c d) :
    ∃ fs left head right, d.fragments = fs ++ [head, .plain right] ∧ s.Covers left head := by
  cases h with
  | @cut fs left right head _ hcov =>
    refine ⟨fs, left, head, right, ?_, hcov⟩
    rw [Candidate.ofFragments_of_ne_nil (by simp)]

/-- **A head and a tail are found** from left to right exactly if the head is a constituent. -/
theorem reading_pair_iff {head : Fragment} {tail : Text}
    (hw : s.dictionary.normalize w = head.surface ++ tail)
    (hcut : head.surface.length ∈ s.cuts.positions (head.surface ++ tail)) :
    s.Reading w (.ofFragments [head, .plain tail]) ↔ s.Covers head.surface head := by
  have hpair : (Candidate.ofFragments [head, .plain tail]).fragments = [head, .plain tail] := by
    rw [Candidate.ofFragments_of_ne_nil (List.cons_ne_nil _ _)]
  constructor
  · intro h
    generalize hc : Candidate.ofFragments [head, .plain tail] = c at h hpair
    cases h with
    | whole => cases hpair
    | cut _ hcut =>
      -- of two fragments, the last is the rest and the one before it is what was cut off
      obtain ⟨fs, left, head', tail', hfs, hcov⟩ := hcut.exists_covers
      have hends : [] ++ [head, .plain tail] = fs ++ [head', .plain tail'] := hpair.symm.trans hfs
      obtain ⟨-, hlast⟩ := List.append_inj' hends rfl
      obtain ⟨rfl, -⟩ := List.cons.inj hlast
      rwa [hcov.surface]
  · intro hcov
    have hroot : Candidate.ofWord (s.dictionary.normalize w) =
        .ofFragments ([] ++ [.plain (head.surface ++ tail)]) := by
      rw [hw, List.nil_append, Candidate.ofFragments_of_ne_nil (List.cons_ne_nil _ _)]
      rfl
    have hwhole : s.Reading w (.ofWord (s.dictionary.normalize w)) := .whole
    rw [hroot] at hwhole
    exact .cut hwhole (.cut hcut hcov)

/-- A word of the dictionary with something after it is a constituent if that is nothing or a
member of the morphemes. -/
theorem covers_linked_iff {stem m : Text} (hne : stem ≠ [])
    (hlong : s.minWordLength ≤ stem.length) (hword : s.dictionary.contains stem = true) :
    s.Covers (stem ++ m) (.linked stem m) ↔ m = [] ∨ m ∈ s.morphemes.toList := by
  constructor
  · intro h
    refine or_iff_not_imp_left.2 fun hm => ?_
    generalize stem ++ m = left at h
    generalize hf : Fragment.linked stem m = f at h
    have hmorpheme : f.morpheme = some m := by
      rw [← hf]
      simp [Fragment.linked, hm]
    cases h with
    | plain => cases hmorpheme
    | @linked stem' m' hmem =>
      have hm' := s.morphemes.ne_nil m' hmem
      obtain rfl : m' = m := by simpa [Fragment.linked, hm'] using hmorpheme
      exact hmem
  · rintro (rfl | hmem)
    · rw [List.append_nil]
      exact .plain hlong hword
    · exact .linked hmem hne hlong hword

end Exhaustive

namespace HeadTail

variable {s : HeadTail} {v w : Text}

/-- **Splitting from left to right** with the same dictionary, morphemes and cuts. -/
def exhaustive (s : HeadTail) (minWordLength : Nat) : Exhaustive where
  dictionary := s.dictionary
  morphemes := s.morphemes
  minWordLength := minWordLength
  cuts := s.cuts

/-- **The preferred reading** has a word of the dictionary as its head, and its tail begins at a
cut behind an acceptable gap. -/
theorem preferred_linked {c : Candidate} (hc : s.preferred? v = some c) :
    ∃ head gap tail, c = .ofFragments [.linked head gap, .plain tail] ∧
      v = head ++ gap ++ tail ∧ (head ++ gap).length ∈ s.cuts.positions v ∧
      head ≠ [] ∧ s.isConstituent head = true ∧ s.acceptsGap gap = true := by
  obtain ⟨⟨h, t⟩, hp, rfl⟩ := Option.map_eq_some_iff.1 hc
  obtain ⟨hhead, htail, hle, hgap⟩ := mem_pairs.1 (mem_of_best? hp)
  simp only [heads, List.mem_filterMap, Option.ite_none_right_eq_some, Option.some.injEq] at hhead
  obtain ⟨i, hi, hword, rfl⟩ := hhead
  simp only [tails, List.mem_filterMap, Option.ite_none_right_eq_some, Option.some.injEq] at htail
  obtain ⟨j, hj, -, rfl⟩ := htail
  have hinside := s.cuts.interior v i hi
  have hend := s.cuts.interior v j hj
  have hfront : v.take i ++ between v i j = v.take j := by
    have htake : v.take i = (v.take j).take i := by rw [List.take_take, Nat.min_eq_left hle]
    rw [between, htake, List.take_append_drop]
  refine ⟨v.take i, between v i j, v.drop j, rfl, (take_between_drop v hle).symm, ?_, ?_, hword,
    hgap⟩
  · rwa [hfront, List.length_take, Nat.min_eq_left (by omega)]
  · exact List.ne_nil_of_length_pos (by rw [List.length_take]; omega)

/-- A head and a tail have no morpheme in capitals if what is between them is in small letters. -/
theorem forall_morpheme_pair_iff {head gap tail : Text} :
    (∀ f ∈ (Candidate.ofFragments [.linked head gap, .plain tail]).fragments,
      ∀ m ∈ f.morpheme, Text.lower m = m) ↔ Text.lower gap = gap := by
  rw [Candidate.ofFragments_of_ne_nil (List.cons_ne_nil _ _)]
  by_cases hgap : gap = []
  · subst hgap
    simp [Fragment.linked, Fragment.plain, Text.lower, Text.lowerAfter]
  · simp [Fragment.linked, Fragment.plain, hgap]

/-- **The preferred reading** of a word, if only linking morphemes may stand between head and tail,
is one of the readings that are found from left to right exactly if its morpheme is in small
letters. This is always so if the dictionary folds case. -/
theorem split_found_iff (d : Dictionary) (ts : List Text) (o : HeadTailOptions) {n : Nat}
    (cuts : Text.Cuts) (ho : o.requireMorpheme = true) (hn : n ≤ o.minFragmentLength) (w : Text) :
    let s := ofDictionary d (.ofList ts) o cuts
    ∀ c ∈ (s.split w).below.candidates,
      (c ∈ ((s.exhaustive n).split w).candidates ↔
        ∀ f ∈ c.fragments, ∀ m ∈ f.morpheme, Text.lower m = m) ∧
      (d.foldsCase = true → c ∈ ((s.exhaustive n).split w).candidates) := by
  intro s c hc
  obtain ⟨-, hpreferred⟩ := (mem_below_split_iff s w c).1 hc
  obtain ⟨head, gap, tail, rfl, hw, hcut, hne, hword, hgap⟩ := preferred_linked hpreferred
  rw [isConstituent, Bool.and_eq_true, decide_eq_true_eq] at hword
  -- between head and tail the set is asked, in whatever case; from left to right a member is taken
  -- off the end as it is
  have hknown : gap = [] ∨ Text.lower gap ∈ (Morphemes.ofList ts).toList := by
    rw [← Morphemes.contains_iff]
    exact (acceptsGap_iff.1 hgap).2 ho
  have hfound : .ofFragments [.linked head gap, .plain tail] ∈
      ((s.exhaustive n).split w).candidates ↔ gap = [] ∨ gap ∈ (Morphemes.ofList ts).toList := by
    have hsurface := Fragment.surface_linked head gap
    rw [Exhaustive.mem_candidates_split_iff, Exhaustive.reading_pair_iff
      (by rw [hsurface]; exact hw) (by rw [hsurface, ← hw]; exact hcut), hsurface]
    exact Exhaustive.covers_linked_iff hne (Nat.le_trans hn hword.1) hword.2
  have hsmall : gap = [] ∨ gap ∈ (Morphemes.ofList ts).toList ↔ Text.lower gap = gap := by
    constructor
    · rintro (rfl | hmem)
      · rfl
      · exact Morphemes.lower_of_mem_ofList hmem
    · intro heq
      rwa [heq] at hknown
  rw [forall_morpheme_pair_iff, hfound, hsmall]
  refine ⟨Iff.rfl, fun hfold => ?_⟩
  -- what lies between head and tail is a part of the word in small letters
  have hnormal : d.IsNormal (d.normalize w) := d.isNormal_normalize w
  have hpart : gap ⊆ d.normalize w := by
    intro x hx
    rw [show d.normalize w = head ++ gap ++ tail from hw]
    exact List.mem_append_left _ (List.mem_append_right _ hx)
  exact ((hnormal.of_subset hpart) hfold).lower_eq

/-- Splitting by a dictionary that keeps *Aktion* and *Plan* as they are written. -/
def keepingCase : HeadTail :=
  ofDictionary (.ofList { foldsCase := false } ["Aktion", "Plan"]) (.ofList ["s"])
    { requireMorpheme := true }

/-- In *AktionSPlan* the capital morpheme is known between head and tail, but not found from left to
right. -/
theorem capitalMorpheme_not_found :
    keepingCase.options.requireMorpheme = true ∧ 2 ≤ keepingCase.options.minFragmentLength ∧
      ∃ c ∈ (keepingCase.split "AktionSPlan").below.candidates,
        c ∉ ((keepingCase.exhaustive 2).split "AktionSPlan").candidates := by
  have hmem : .ofFragments [.linked "Aktion" "S", .plain "Plan"] ∈
      (keepingCase.split "AktionSPlan").below.candidates := by decide +kernel
  refine ⟨rfl, le_refl 2, _, hmem, fun hfound => ?_⟩
  have hiff := (split_found_iff (.ofList { foldsCase := false } ["Aktion", "Plan"]) ["s"]
    { requireMorpheme := true } Text.clusters rfl (le_refl 2) "AktionSPlan" _ hmem).1
  exact absurd (hiff.1 hfound) (by decide +kernel)

end HeadTail

end Kompositum
