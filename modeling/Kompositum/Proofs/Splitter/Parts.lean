import Kompositum.Proofs.Splitter.Analyzed
import Kompositum.Proofs.Text.Apart

/-!
# What becomes of the parts of an analysis

The candidate of an analysis holds its parts in small letters, each once and in order, as the words
and morphemes of its fragments. Nothing is merged or lost, so that a part without characters
becomes a fragment without a word, and the candidate covers the small letters of the parts, which
are not always those of the parts together.

* `Analyzed.pieces_candidate`: the words and morphemes of a candidate are the parts.
* `Analyzed.read_back_iff`: when all candidates of a tree can be read back from their text.
* `Analyzed.mem_split_iff_apart`: which analyses that spell a word are in its tree.
-/

namespace Kompositum

/-- **What a fragment is made of**: its word and its morpheme, if it has one. -/
def Fragment.pieces (f : Fragment) : List Text := f.word :: f.morpheme.toList

theorem Fragment.flatten_pieces (f : Fragment) : f.pieces.flatten = f.surface := by
  unfold pieces surface
  cases f.morpheme <;> simp

theorem Fragment.Made.nil_mem_pieces_iff {f : Fragment} (hf : f.Made) :
    [] ∈ f.pieces ↔ f.word = [] := by
  have hm := hf.morpheme_ne
  unfold pieces
  rw [List.mem_cons, Option.mem_toList, eq_comm, or_iff_left hm]

theorem Candidate.surface_eq_flatten (c : Candidate) :
    c.surface = (c.fragments.flatMap Fragment.pieces).flatten := by
  have hpieces : List.flatten ∘ Fragment.pieces = Fragment.surface :=
    funext Fragment.flatten_pieces
  rw [List.flatMap_def, List.flatten_flatten, List.map_map, hpieces]
  rfl

namespace Analyzed

variable {s : Analyzed} {w : Text} {parts : List Text}

/-! ## One more part -/

/-- **One more part** that is a morpheme joins a last fragment that has none. Every other part is a
fragment of its own. -/
theorem attach_concat (s : Analyzed) (done : List Fragment) (f : Fragment) (part : Text) :
    s.attach (done ++ [f]) part =
      if f.morpheme = none ∧ s.morphemes.contains part = true then done ++ [.linked f.word part]
      else done ++ [f] ++ [.plain part] := by
  unfold attach
  rw [List.getLast?_concat]
  simp only [Bool.and_eq_true, Option.isNone_iff_eq_none, List.dropLast_concat]

theorem pieces_attach (s : Analyzed) (done : List Fragment) (part : Text) :
    (s.attach done part).flatMap Fragment.pieces = done.flatMap Fragment.pieces ++ [part] := by
  rcases List.eq_nil_or_concat done with rfl | ⟨done, f, rfl⟩
  · rfl
  · rw [List.concat_eq_append, attach_concat]
    split
    case isTrue h =>
      obtain ⟨hplain, hmorpheme⟩ := h
      -- the empty part is no morpheme, so that the fragment has one now
      have hne : part ≠ [] := by
        rintro rfl
        cases hmorpheme
      simp [Fragment.pieces, Fragment.linked, hplain, hne]
    case isFalse => simp [Fragment.pieces, Fragment.plain]

theorem made_attach {done : List Fragment} (h : ∀ f ∈ done, f.Made) (part : Text) :
    ∀ f ∈ s.attach done part, f.Made := by
  rcases List.eq_nil_or_concat done with rfl | ⟨done, g, rfl⟩
  · intro f hf
    obtain rfl := List.mem_singleton.1 hf
    exact .plain part
  · rw [List.concat_eq_append] at h ⊢
    rw [attach_concat]
    intro f hf
    split at hf
    case isTrue =>
      rcases List.mem_append.1 hf with hf | hf
      · exact h f (List.mem_append_left _ hf)
      · obtain rfl := List.mem_singleton.1 hf
        exact .linked _ _
    case isFalse =>
      rcases List.mem_append.1 hf with hf | hf
      · exact h f hf
      · obtain rfl := List.mem_singleton.1 hf
        exact .plain part

/-! ## All parts -/

theorem pieces_foldl_attach (s : Analyzed) (done : List Fragment) (parts : List Text) :
    (parts.foldl s.attach done).flatMap Fragment.pieces =
      done.flatMap Fragment.pieces ++ parts := by
  induction parts generalizing done with
  | nil => simp
  | cons p parts ih =>
    rw [List.foldl_cons, ih, pieces_attach, List.append_assoc, List.singleton_append]

theorem made_foldl_attach {done : List Fragment} (h : ∀ f ∈ done, f.Made) (parts : List Text) :
    ∀ f ∈ parts.foldl s.attach done, f.Made := by
  induction parts generalizing done with
  | nil => exact h
  | cons p parts ih => exact ih (made_attach h p)

theorem made_candidate (s : Analyzed) (parts : List Text) : (s.candidate parts).Made :=
  .fragments _ (made_foldl_attach (fun _ hf => absurd hf List.not_mem_nil) _)

/-- **The words and morphemes of a candidate** are the small letters of the parts. -/
theorem pieces_candidate (s : Analyzed) (h : parts ≠ []) :
    (s.candidate parts).fragments.flatMap Fragment.pieces = parts.map Text.lower := by
  have hpieces := s.pieces_foldl_attach [] (parts.map Text.lower)
  rw [List.flatMap_nil, List.nil_append] at hpieces
  have hne : (parts.map Text.lower).foldl s.attach [] ≠ [] := by
    intro hnil
    rw [hnil, List.flatMap_nil] at hpieces
    exact h (List.map_eq_nil_iff.1 hpieces.symm)
  unfold candidate
  rw [Candidate.ofFragments_of_ne_nil hne]
  exact hpieces

/-- **A candidate covers** the small letters of its parts. -/
theorem surface_candidate (s : Analyzed) (parts : List Text) :
    (s.candidate parts).surface = (parts.map Text.lower).flatten := by
  by_cases h : parts = []
  · subst h
    rfl
  · rw [Candidate.surface_eq_flatten, pieces_candidate s h]

theorem partitions_candidate_iff :
    (s.candidate parts).Partitions w ↔ (parts.map Text.lower).flatten = Text.lower w := by
  have hsmall : Text.IsSmall (parts.map Text.lower).flatten := by
    intro c hc
    obtain ⟨t, ht, hct⟩ := List.mem_flatten.1 hc
    obtain ⟨p, -, rfl⟩ := List.mem_map.1 ht
    exact Text.isSmall_lower p c hct
  rw [Candidate.Partitions, surface_candidate, hsmall.lower_eq]

/-- A fragment has no word exactly if a part has no characters. -/
theorem exists_word_nil_iff (s : Analyzed) (h : parts ≠ []) :
    (∃ f ∈ (s.candidate parts).fragments, f.word = []) ↔ [] ∈ parts := by
  have hmade := (s.made_candidate parts).fragments_made
  have hpiece : (∃ f ∈ (s.candidate parts).fragments, f.word = []) ↔
      [] ∈ (s.candidate parts).fragments.flatMap Fragment.pieces := by
    rw [List.mem_flatMap]
    exact exists_congr fun f => and_congr_right fun hf => ((hmade f hf).nil_mem_pieces_iff).symm
  rw [hpiece, pieces_candidate s h, List.mem_map]
  constructor
  · rintro ⟨p, hp, hnil⟩
    have hempty : p = [] := by
      by_contra hne
      exact Text.lower_ne_nil hne hnil
    rwa [← hempty]
  · exact fun hp => ⟨[], hp, rfl⟩

/-! ## The tree of a word -/

/-- **The analyses that a word is split by.** The empty word is not shown to the analyzer, and a
word on which it fails has none. -/
def analysesOf (s : Analyzed) (w : Text) : List (List Text) :=
  if w = [] then [] else (s.analyze w).getD []

theorem mem_candidates_split_iff {c : Candidate} :
    c ∈ (s.split w).candidates ↔ c = .ofWord w ∨
      (∃ parts ∈ s.analysesOf w, s.candidate parts = c) ∧ c.isSplit = true ∧ c.Partitions w := by
  unfold analysesOf
  by_cases hw : w = []
  · have hsingle : (s.split w).candidates = [.ofWord w] := by
      rw [hw]
      rfl
    rw [hsingle, if_pos hw]
    simp
  · obtain ⟨cs, hperm, hnested⟩ := s.nested_split hw
    rw [if_neg hw, ← mem_readings_iff, ← (hnested.perm.trans hperm).mem_iff, Tree.candidates,
      List.mem_cons, hnested.root_eq]

theorem candidate_mem_split_iff (hparts : parts ∈ s.analysesOf w)
    (hsplit : (s.candidate parts).isSplit = true) :
    s.candidate parts ∈ (s.split w).candidates ↔ (s.candidate parts).Partitions w := by
  have hne : s.candidate parts ≠ .ofWord w := by
    intro heq
    rw [heq] at hsplit
    cases hsplit
  rw [mem_candidates_split_iff, or_iff_right hne]
  exact ⟨fun h => h.2.2, fun h => ⟨⟨parts, hparts, rfl⟩, hsplit, h⟩⟩

theorem made_of_mem_split {c : Candidate} (hc : c ∈ (s.split w).candidates) : c.Made := by
  rcases mem_candidates_split_iff.1 hc with rfl | ⟨⟨parts, -, rfl⟩, -, -⟩
  · exact .word w
  · exact s.made_candidate parts

/-- The candidate of several fragments is read back if no part is empty. -/
theorem parse_render_candidate_iff (hsplit : (s.candidate parts).isSplit = true) :
    Candidate.parse (s.candidate parts).render = .ok (s.candidate parts) ↔ [] ∉ parts := by
  have hne : s.candidate parts ≠ .ofWord [] := by
    intro heq
    rw [heq] at hsplit
    cases hsplit
  have hparts : parts ≠ [] := by
    rintro rfl
    cases hsplit
  rw [Candidate.parse_render_eq_ok_iff (s.made_candidate parts), or_iff_left hne,
    ← not_iff_not, not_not, ← exists_word_nil_iff s hparts]
  simp only [not_forall, not_not, exists_prop]

/-- The unsplit word is always read back. -/
theorem parse_render_ofWord (w : Text) :
    Candidate.parse (Candidate.ofWord w).render = .ok (.ofWord w) := by
  rw [Candidate.parse_render_eq_ok_iff (.word w)]
  by_cases hw : w = []
  · exact .inr (by rw [hw])
  · refine .inl fun f hf => ?_
    obtain rfl := List.mem_singleton.1 hf
    exact hw

/-- **All candidates of a tree are read back from their text** exactly if no analysis that is in
the tree has an empty part. What cannot be read back is refused: no text is read as another
candidate. -/
theorem read_back_iff (s : Analyzed) (w : Text) :
    ((∀ c ∈ (s.split w).candidates, Candidate.parse c.render = .ok c) ↔
      ∀ parts ∈ s.analysesOf w, (s.candidate parts).isSplit = true →
        (s.candidate parts).Partitions w → [] ∉ parts) ∧
    ∀ c ∈ (s.split w).candidates, ∀ d, Candidate.parse c.render = .ok d → d = c := by
  refine ⟨⟨fun hall parts hparts hsplit hspells => ?_, fun hall c hc => ?_⟩, fun c hc d hd => ?_⟩
  · have hmem := (candidate_mem_split_iff hparts hsplit).2 hspells
    exact (parse_render_candidate_iff hsplit).1 (hall _ hmem)
  · rcases mem_candidates_split_iff.1 hc with rfl | ⟨⟨parts, hparts, rfl⟩, hsplit, hspells⟩
    · exact parse_render_ofWord w
    · exact (parse_render_candidate_iff hsplit).2 (hall parts hparts hsplit hspells)
  · exact Candidate.eq_of_parse_render (made_of_mem_split hc) hd

/-- An analyzer that gives *a* an empty part. -/
def emptyPart : Analyzed where
  morphemes := .german
  analyze _ := some [["", "a"]]

/-- The reading of *a* behind an empty part is written `+a`, which cannot be read back. -/
theorem emptyPart_not_read_back :
    ¬∀ c ∈ (emptyPart.split "a").candidates, Candidate.parse c.render = .ok c := by
  intro hall
  have hparts := (emptyPart.read_back_iff "a").1.1 hall _ List.mem_cons_self
  exact hparts (by decide +kernel) (by decide +kernel) List.mem_cons_self

/-- **An analysis that spells a word up to case** is in its tree, if its candidate is split, exactly
if every capital sigma is in its part what it is in the parts together. -/
theorem mem_split_iff_apart (hparts : parts ∈ s.analysesOf w)
    (hsplit : (s.candidate parts).isSplit = true)
    (hspells : Text.lower parts.flatten = Text.lower w) :
    s.candidate parts ∈ (s.split w).candidates ↔ Text.Apart parts := by
  rw [candidate_mem_split_iff hparts hsplit, partitions_candidate_iff, ← hspells,
    Text.flatten_map_lower_eq_iff]

/-- *ΑΣΑ* cut behind its sigma. -/
def sigmaParts : List Text := ["ΑΣ", "Α"]

/-- An analyzer that cuts *ΑΣΑ* so. -/
def sigmaFirst : Analyzed where
  morphemes := .german
  analyze _ := some [sigmaParts]

/-- A sigma that ends the first part does not end the word: the parts spell the word, and their
candidate is not in its tree. -/
theorem sigmaFirst_dropped :
    sigmaParts ∈ sigmaFirst.analysesOf "ΑΣΑ" ∧ (sigmaFirst.candidate sigmaParts).isSplit = true ∧
      Text.lower sigmaParts.flatten = Text.lower "ΑΣΑ" ∧
      sigmaFirst.candidate sigmaParts ∉ (sigmaFirst.split "ΑΣΑ").candidates := by
  have hparts : sigmaParts ∈ sigmaFirst.analysesOf "ΑΣΑ" := List.mem_cons_self
  have hsplit : (sigmaFirst.candidate sigmaParts).isSplit = true := by decide +kernel
  have hspells : Text.lower sigmaParts.flatten = Text.lower "ΑΣΑ" := by decide +kernel
  refine ⟨hparts, hsplit, hspells, fun hmem => ?_⟩
  have hapart := (mem_split_iff_apart hparts hsplit hspells).1 hmem
  exact absurd (hapart [] "ΑΣ" ["Α"] rfl "Α" [] rfl) (by decide +kernel)

end Analyzed

end Kompositum
