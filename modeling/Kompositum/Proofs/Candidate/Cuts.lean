import Kompositum.Proofs.Candidate.Refinement

/-!
# Boundaries as cuts

The boundaries of a candidate are the lengths of what its beginnings cover, and cut its surface into
what its fragments cover. A finer candidate has its fragments in blocks, each of which covers what a
fragment of the coarser one covers.

* `covered`: what fragments cover together.
* `InBlocks`: a row cut into blocks.
* `exists_inBlocks_iff`: blocks of given sizes, and beginnings of given sizes.
* `Candidate.mem_boundaries_iff`: boundaries and beginnings.
* `Candidate.refines_inBlocks`: the order of candidates, their boundaries, and what refinement means
  for their fragments.
-/

namespace Kompositum

/-- What fragments cover together. -/
def covered (fs : List Fragment) : Text := fs.flatMap Fragment.surface

@[simp] theorem covered_nil : covered [] = [] := rfl

@[simp] theorem covered_cons (f : Fragment) (fs : List Fragment) :
    covered (f :: fs) = f.surface ++ covered fs := List.flatMap_cons

@[simp] theorem covered_append (fs gs : List Fragment) :
    covered (fs ++ gs) = covered fs ++ covered gs := List.flatMap_append

theorem covered_flatten (blocks : List (List Fragment)) :
    covered blocks.flatten = (blocks.map covered).flatten := by
  induction blocks with
  | nil => rfl
  | cons b blocks ih =>
    rw [List.flatten_cons, covered_append, ih, List.map_cons, List.flatten_cons]

theorem covered_ne_nil {fs : List Fragment} (hfs : fs ≠ []) (h : ∀ f ∈ fs, f.surface ≠ []) :
    covered fs ≠ [] := by
  obtain ⟨f, gs, rfl⟩ := List.exists_cons_of_ne_nil hfs
  have hf := h f List.mem_cons_self
  rw [covered_cons]
  exact List.append_ne_nil_of_left_ne_nil hf _

/-! ## Blocks -/

/-- **A row in blocks**: consecutive pieces of it, none of them empty. -/
structure InBlocks {α : Type} (row : List α) (blocks : List (List α)) : Prop where
  flatten_eq : blocks.flatten = row
  ne_nil : ∀ b ∈ blocks, b ≠ []

namespace InBlocks

variable {α β : Type} {row b : List α} {blocks : List (List α)}

theorem cons (h : InBlocks row blocks) (hb : b ≠ []) : InBlocks (b ++ row) (b :: blocks) := by
  refine ⟨?_, fun x hx => ?_⟩
  · rw [List.flatten_cons, h.flatten_eq]
  · rcases List.mem_cons.1 hx with rfl | hx
    · exact hb
    · exact h.ne_nil x hx

/-- **There are fewer blocks than there is in them** exactly if one has two or more. -/
theorem length_lt_iff (h : InBlocks row blocks) :
    blocks.length < row.length ↔ ∃ b ∈ blocks, 2 ≤ b.length := by
  obtain ⟨rfl, hne⟩ := h
  -- with it, there are never more
  suffices hboth : blocks.length ≤ blocks.flatten.length ∧
      (blocks.length < blocks.flatten.length ↔ ∃ b ∈ blocks, 2 ≤ b.length) from hboth.2
  induction blocks with
  | nil => simp
  | cons b blocks ih =>
    obtain ⟨hle, hlt⟩ := ih fun x hx => hne x (List.mem_cons_of_mem b hx)
    have hb : 0 < b.length := List.length_pos_iff.2 (hne b List.mem_cons_self)
    have hexists : (∃ x ∈ b :: blocks, 2 ≤ x.length) ↔
        2 ≤ b.length ∨ ∃ x ∈ blocks, 2 ≤ x.length := by simp
    rw [hexists, ← hlt, List.flatten_cons, List.length_append, List.length_cons]
    omega

theorem map (h : InBlocks row blocks) (f : α → β) :
    InBlocks (row.map f) (blocks.map (List.map f)) := by
  refine ⟨?_, fun x hx => ?_⟩
  · rw [← List.map_flatten, h.flatten_eq]
  · obtain ⟨b, hb, rfl⟩ := List.mem_map.1 hx
    exact fun hnil => h.ne_nil b hb (List.map_eq_nil_iff.1 hnil)

theorem of_map {f : α → β} {blocks : List (List β)} (h : InBlocks (row.map f) blocks) :
    ∃ own, InBlocks row own ∧ own.map (List.map f) = blocks := by
  obtain ⟨hrow, hne⟩ := h
  induction blocks generalizing row with
  | nil =>
    have hnil : row = [] := List.map_eq_nil_iff.1 hrow.symm
    exact ⟨[], ⟨hnil.symm, by simp⟩, rfl⟩
  | cons b blocks ih =>
    rw [List.flatten_cons] at hrow
    obtain ⟨first, rest, rfl, rfl, hrest⟩ := List.map_eq_append_iff.1 hrow.symm
    obtain ⟨own, hown, rfl⟩ := ih hrest.symm fun x hx => hne x (List.mem_cons_of_mem _ hx)
    have hfirst : first ≠ [] := by
      rintro rfl
      exact hne _ List.mem_cons_self rfl
    exact ⟨first :: own, hown.cons hfirst, List.map_cons⟩

end InBlocks

variable {fs gs : List Fragment}

/-- A beginning of some blocks covers as much as the blocks have been given. -/
theorem InBlocks.exists_beginning {blocks : List (List Fragment)} (h : InBlocks fs blocks)
    (hsizes : blocks.map (fun b => (covered b).length) = gs.map Fragment.size)
    {gs₁ gs₂ : List Fragment} (hgs : gs = gs₁ ++ gs₂) :
    ∃ fs₁ fs₂, fs = fs₁ ++ fs₂ ∧ (covered fs₁).length = (covered gs₁).length := by
  rw [hgs, List.map_append] at hsizes
  obtain ⟨b₁, b₂, rfl, h₁, -⟩ := List.map_eq_append_iff.1 hsizes
  refine ⟨b₁.flatten, b₂.flatten, by rw [← h.flatten_eq, List.flatten_append], ?_⟩
  clear hsizes hgs h
  induction b₁ generalizing gs₁ with
  | nil =>
    rw [List.map_eq_nil_iff.1 h₁.symm]
    rfl
  | cons b bs ih =>
    cases gs₁ with
    | nil => cases h₁
    | cons g gs =>
      obtain ⟨hb, hbs⟩ := List.cons.inj h₁
      have hrest := ih hbs
      have hfirst : (covered b).length = g.surface.length := hb
      rw [List.flatten_cons, covered_append, covered_cons, List.length_append, List.length_append,
        hfirst, hrest]

/-- **Blocks of given sizes** there are exactly if there are beginnings of the sizes that they have
together. -/
theorem exists_inBlocks_iff (hf : ∀ f ∈ fs, f.surface ≠ []) (hg : ∀ g ∈ gs, g.surface ≠ [])
    (hlength : (covered fs).length = (covered gs).length) :
    (∃ blocks, InBlocks fs blocks ∧
      blocks.map (fun b => (covered b).length) = gs.map Fragment.size) ↔
    ∀ gs₁ gs₂, gs = gs₁ ++ gs₂ →
      ∃ fs₁ fs₂, fs = fs₁ ++ fs₂ ∧ (covered fs₁).length = (covered gs₁).length := by
  constructor
  · rintro ⟨blocks, hblocks, hsizes⟩ gs₁ gs₂ hgs
    exact hblocks.exists_beginning hsizes hgs
  · intro h
    induction gs generalizing fs with
    | nil =>
      have hnil : fs = [] := by
        have hcovered : covered fs = [] := List.length_eq_zero_iff.1 hlength
        exact Decidable.byContradiction fun hne => covered_ne_nil hne hf hcovered
      exact ⟨[], ⟨hnil.symm, by simp⟩, rfl⟩
    | cons g gs ih =>
      -- the first block is the beginning that covers as much as the first fragment
      obtain ⟨b, rest, rfl, hb⟩ := h [g] gs rfl
      rw [covered_cons, covered_nil, List.append_nil] at hb
      have hgpos := List.length_pos_iff.2 (hg g List.mem_cons_self)
      have hbne : b ≠ [] := by
        rintro rfl
        rw [covered_nil, List.length_nil] at hb
        omega
      rw [covered_append, covered_cons, List.length_append, List.length_append] at hlength
      have hbeginnings : ∀ gs₁ gs₂, gs = gs₁ ++ gs₂ →
          ∃ fs₁ fs₂, rest = fs₁ ++ fs₂ ∧ (covered fs₁).length = (covered gs₁).length := by
        intro gs₁ gs₂ hgs
        obtain ⟨fs₁, fs₂, hfs, hsize⟩ := h (g :: gs₁) gs₂ (by rw [hgs, List.cons_append])
        rw [covered_cons, List.length_append] at hsize
        rcases List.append_eq_append_iff.1 hfs with ⟨m, rfl, hrest⟩ | ⟨m, rfl, -⟩
        · rw [covered_append, List.length_append] at hsize
          exact ⟨m, fs₂, hrest, by omega⟩
        · -- a beginning that ends in the first block covers no more than the block
          rw [covered_append, List.length_append] at hb
          have hnil : (covered gs₁).length = 0 := by omega
          exact ⟨[], rest, rfl, hnil.symm⟩
      obtain ⟨blocks, hblocks, hsizes⟩ := ih (fun f hf' => hf f (List.mem_append_right b hf'))
        (fun g' hg' => hg g' (List.mem_cons_of_mem g hg')) (by omega) hbeginnings
      refine ⟨b :: blocks, hblocks.cons hbne, ?_⟩
      rw [List.map_cons, List.map_cons, hsizes, hb, Fragment.size]

/-! ## Boundaries -/

/-- A text cut at ascending positions, which are counted from `start`. -/
def Text.cutAt (start : Nat) : List Nat → Text → List Text
  | [], t => [t]
  | p :: ps, t => t.take (p - start) :: cutAt p ps (t.drop (p - start))

namespace Candidate

variable {a b c d : Candidate} {start e : Nat}

theorem surface_eq_covered (c : Candidate) : c.surface = covered c.fragments := rfl

theorem flatten_surfaces (d : Candidate) :
    (d.fragments.map Fragment.surface).flatten = d.surface := List.flatMap_def.symm

theorem flatten_covered {blocks : List (List Fragment)} (h : InBlocks c.fragments blocks) :
    (blocks.map covered).flatten = c.surface := by
  rw [← covered_flatten, h.flatten_eq, surface_eq_covered]

theorem mem_endsFrom_iff :
    e ∈ endsFrom start fs ↔ ∃ fs₁ fs₂, fs = fs₁ ++ fs₂ ∧ fs₁ ≠ [] ∧ fs₂ ≠ [] ∧
      e = start + (covered fs₁).length := by
  induction fs generalizing start with
  | nil =>
    have hnil : endsFrom start [] = [] := rfl
    simp [hnil]
  | cons f fs ih =>
    by_cases hfs : fs = []
    · subst hfs
      have hnil : endsFrom start [f] = [] := rfl
      rw [hnil]
      refine iff_of_false List.not_mem_nil ?_
      rintro ⟨fs₁, fs₂, hsplit, h₁, h₂, -⟩
      rcases List.singleton_eq_append_iff.1 hsplit with ⟨h, -⟩ | ⟨-, h⟩
      · exact h₁ h
      · exact h₂ h
    · rw [endsFrom_cons start f hfs, List.mem_cons, ih, Fragment.size]
      constructor
      · rintro (rfl | ⟨fs₁, fs₂, rfl, h₁, h₂, rfl⟩)
        · exact ⟨[f], fs, rfl, List.cons_ne_nil f [], hfs, by simp⟩
        · refine ⟨f :: fs₁, fs₂, rfl, List.cons_ne_nil f fs₁, h₂, ?_⟩
          rw [covered_cons, List.length_append]
          omega
      · rintro ⟨fs₁, fs₂, hsplit, h₁, h₂, rfl⟩
        rcases List.cons_eq_append_iff.1 hsplit with ⟨h, -⟩ | ⟨fs₁, rfl, rfl⟩
        · exact absurd h h₁
        · rw [covered_cons, List.length_append]
          by_cases hfs₁ : fs₁ = []
          · left
            subst hfs₁
            rw [covered_nil, List.length_nil, Nat.add_zero]
          · right
            exact ⟨fs₁, fs₂, rfl, hfs₁, h₂, by omega⟩

/-- **The boundaries** are the sizes of the beginnings, but for none and all of a candidate. -/
theorem mem_boundaries_iff :
    e ∈ c.boundaries ↔ ∃ fs₁ fs₂, c.fragments = fs₁ ++ fs₂ ∧ fs₁ ≠ [] ∧ fs₂ ≠ [] ∧
      e = (covered fs₁).length := by
  unfold boundaries
  rw [mem_endsFrom_iff]
  simp only [Nat.zero_add]

theorem pairwise_lt_endsFrom (h : ∀ f ∈ fs, f.surface ≠ []) :
    (endsFrom start fs).Pairwise (· < ·) := by
  induction fs generalizing start with
  | nil => exact .nil
  | cons f fs ih =>
    have hrest : ∀ g ∈ fs, g.surface ≠ [] := fun g hg => h g (List.mem_cons_of_mem f hg)
    by_cases hfs : fs = []
    · subst hfs
      exact .nil
    · rw [endsFrom_cons start f hfs, List.pairwise_cons]
      refine ⟨fun e he => ?_, ih hrest⟩
      obtain ⟨fs₁, fs₂, hsplit, h₁, -, rfl⟩ := mem_endsFrom_iff.1 he
      have hne : covered fs₁ ≠ [] :=
        covered_ne_nil h₁ fun g hg => hrest g (hsplit ▸ List.mem_append_left fs₂ hg)
      have := List.length_pos_iff.2 hne
      omega

theorem cutAt_endsFrom (start : Nat) (h : fs ≠ []) :
    Text.cutAt start (endsFrom start fs) (covered fs) = fs.map Fragment.surface := by
  induction fs generalizing start with
  | nil => exact absurd rfl h
  | cons f fs ih =>
    by_cases hfs : fs = []
    · subst hfs
      show [covered [f]] = [f.surface]
      rw [covered_cons, covered_nil, List.append_nil]
    · have hsize : start + f.size - start = f.surface.length := Nat.add_sub_cancel_left _ _
      rw [endsFrom_cons start f hfs, Text.cutAt, hsize, covered_cons, List.take_left,
        List.drop_left, ih _ hfs, List.map_cons]

/-- **Every fragment has a word.** -/
def Worded (c : Candidate) : Prop := ∀ f ∈ c.fragments, f.word ≠ []

theorem Worded.surface_ne_nil (h : c.Worded) : ∀ f ∈ c.fragments, f.surface ≠ [] := by
  intro f hf
  unfold Fragment.surface
  exact List.append_ne_nil_of_left_ne_nil (h f hf) _

theorem Worded.mem_boundaries (h : c.Worded) (he : e ∈ c.boundaries) :
    0 < e ∧ e < c.surface.length := by
  obtain ⟨fs₁, fs₂, hsplit, h₁, h₂, rfl⟩ := mem_boundaries_iff.1 he
  have hmem := h.surface_ne_nil
  rw [hsplit] at hmem
  have hpos₁ := List.length_pos_iff.2
    (covered_ne_nil h₁ fun f hf => hmem f (List.mem_append_left fs₂ hf))
  have hpos₂ := List.length_pos_iff.2
    (covered_ne_nil h₂ fun f hf => hmem f (List.mem_append_right fs₁ hf))
  rw [surface_eq_covered, hsplit, covered_append, List.length_append]
  omega

/-- **A candidate keeps the boundaries of another one** of the same length exactly if its fragments
stand in blocks that are as long as the fragments of the other. -/
theorem boundaries_subset_iff (hc : c.Worded) (hd : d.Worded)
    (h : c.surface.length = d.surface.length) :
    (∀ e ∈ d.boundaries, e ∈ c.boundaries) ↔ ∃ blocks, InBlocks c.fragments blocks ∧
      blocks.map (fun b => (covered b).length) = d.fragments.map Fragment.size := by
  rw [exists_inBlocks_iff hc.surface_ne_nil hd.surface_ne_nil h]
  constructor
  · intro hsub gs₁ gs₂ hgs
    by_cases h₁ : gs₁ = []
    · exact ⟨[], c.fragments, rfl, by rw [h₁]⟩
    by_cases h₂ : gs₂ = []
    · refine ⟨c.fragments, [], (List.append_nil _).symm, ?_⟩
      rw [h₂, List.append_nil] at hgs
      rw [← hgs]
      exact h
    obtain ⟨fs₁, fs₂, hfs, -, -, he⟩ :=
      mem_boundaries_iff.1 (hsub _ (mem_boundaries_iff.2 ⟨gs₁, gs₂, hgs, h₁, h₂, rfl⟩))
    exact ⟨fs₁, fs₂, hfs, he.symm⟩
  · intro hbeginnings e he
    obtain ⟨gs₁, gs₂, hgs, -, -, rfl⟩ := mem_boundaries_iff.1 he
    obtain ⟨fs₁, fs₂, hfs, hlength⟩ := hbeginnings gs₁ gs₂ hgs
    obtain ⟨hpos, hlt⟩ := hd.mem_boundaries he
    rw [← hlength] at hpos hlt ⊢
    refine mem_boundaries_iff.2 ⟨fs₁, fs₂, hfs, ?_, ?_, rfl⟩
    · rintro rfl
      exact Nat.lt_irrefl 0 hpos
    · rintro rfl
      rw [← h, surface_eq_covered, hfs, List.append_nil] at hlt
      exact Nat.lt_irrefl _ hlt

/-- **Refinement in terms of fragments.** -/
theorem refines_iff_inBlocks (ha : a.Worded) (hb : b.Worded) (h : a.surface = b.surface) :
    b.Refines a ↔ ∃ blocks, InBlocks b.fragments blocks ∧
      blocks.map covered = a.fragments.map Fragment.surface ∧ ∃ x ∈ blocks, 2 ≤ x.length := by
  have hlength : b.surface.length = a.surface.length := by rw [h]
  have ha' := length_boundaries a
  have hb' := length_boundaries b
  -- blocks that make up the same text are what they should be if they are as long
  have htexts : ∀ {blocks : List (List Fragment)}, InBlocks b.fragments blocks →
      (blocks.map covered = a.fragments.map Fragment.surface ↔
        blocks.map (fun b => (covered b).length) = a.fragments.map Fragment.size) := by
    intro blocks hblocks
    have hflatten : (blocks.map covered).flatten = (a.fragments.map Fragment.surface).flatten := by
      rw [flatten_covered hblocks, flatten_surfaces, h]
    rw [List.eq_iff_flatten_eq, List.map_map, List.map_map]
    exact and_iff_right hflatten
  have hcount : ∀ {blocks : List (List Fragment)}, InBlocks b.fragments blocks →
      blocks.map covered = a.fragments.map Fragment.surface →
      (a.boundaries.length < b.boundaries.length ↔ ∃ x ∈ blocks, 2 ≤ x.length) := by
    intro blocks hblocks hsame
    have hsize : blocks.length = a.size := by
      have hmaps := congrArg List.length hsame
      rwa [List.length_map, List.length_map] at hmaps
    rw [← hblocks.length_lt_iff, hsize]
    show _ ↔ a.size < b.size
    omega
  unfold Refines
  rw [boundaries_subset_iff hb ha hlength]
  constructor
  · rintro ⟨hlt, ⟨blocks, hblocks, hsizes⟩, -⟩
    have hsame := (htexts hblocks).2 hsizes
    exact ⟨blocks, hblocks, hsame, (hcount hblocks hsame).1 hlt⟩
  · rintro ⟨blocks, hblocks, hsame, hlong⟩
    exact ⟨(hcount hblocks hsame).2 hlong, ⟨blocks, hblocks, (htexts hblocks).1 hsame⟩,
      congrArg Text.lower h.symm⟩

/-- **The order of candidates**: nothing refines itself, and what refines a finer candidate refines
the coarser one. Boundaries ascend. Where every fragment has a word they lie strictly within the
surface, each after the other, and cut it into what the fragments cover, and refinement is to stand
in blocks that cover what the fragments of the coarser candidate cover. -/
theorem refines_inBlocks :
    (∀ c : Candidate, ¬c.Refines c) ∧
    (∀ b c d : Candidate, b.Refines c → c.Refines d → b.Refines d) ∧
    (∀ c : Candidate, c.boundaries.Pairwise (· ≤ ·)) ∧
    (∀ c : Candidate, c.Worded → c.boundaries.Pairwise (· < ·) ∧
      (∀ e ∈ c.boundaries, 0 < e ∧ e < c.surface.length) ∧
      Text.cutAt 0 c.boundaries c.surface = c.fragments.map Fragment.surface) ∧
    ∀ a b : Candidate, a.Worded → b.Worded → a.surface = b.surface →
      (b.Refines a ↔ ∃ blocks, InBlocks b.fragments blocks ∧
        blocks.map covered = a.fragments.map Fragment.surface ∧ ∃ x ∈ blocks, 2 ≤ x.length) := by
  refine ⟨Refines.irrefl, fun b c d => Refines.trans, boundaries_ascending,
    fun c hc => ⟨pairwise_lt_endsFrom hc.surface_ne_nil, fun e => hc.mem_boundaries, ?_⟩,
    fun a b => refines_iff_inBlocks⟩
  exact cutAt_endsFrom 0 c.ne_nil

theorem refines_inBlocks_aktionsplan :
    ∃ blocks, InBlocks [.plain "akt", .linked "ion" "s", .plain "plan"] blocks ∧
      blocks.map covered = (["akt", "ionsplan"] : List Text) ∧ ∃ x ∈ blocks, 2 ≤ x.length := by
  have hcoarse : ∀ f ∈ [Fragment.plain "akt", .plain "ionsplan"], f.word ≠ [] := by decide
  have hfine : ∀ f ∈ [Fragment.plain "akt", .linked "ion" "s", .plain "plan"], f.word ≠ [] := by
    decide
  obtain ⟨-, -, -, -, hiff⟩ := refines_inBlocks
  have hblocks := hiff ⟨[.plain "akt", .plain "ionsplan"], List.cons_ne_nil _ _⟩
    ⟨[.plain "akt", .linked "ion" "s", .plain "plan"], List.cons_ne_nil _ _⟩ hcoarse hfine
    (by decide)
  exact hblocks.1 (by decide +kernel)

end Candidate

end Kompositum
