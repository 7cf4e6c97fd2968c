import Kompositum.Candidate.Format
import Kompositum.Proofs.Candidate.Additions
import Kompositum.Proofs.Candidate.Cuts
import Kompositum.Proofs.Text.Strays

/-!
# Boundaries in another letter case

A refinement covers the text of the coarser candidate up to case, but its boundaries are counted in
its own letters, and `İ` has two small ones. So a refinement need not keep the cuts of the coarser
candidate where the two are written in different letter case. It does exactly if it keeps them in
small letters and the same capital sigmas are cut from what they see.

* `Candidate.KeepsUpToCase`: what the fragments of the coarser candidate cover is kept, up to case.
* `Candidate.EvenBlocks`: blocks with as many small letters as the fragments of another candidate.
* `Tree.addChild_keepsUpToCase_iff`: when a child keeps the cuts of its parent.
-/

namespace Kompositum

theorem Fragment.length_surface_lower (f : Fragment) :
    f.lower.surface.length = (Text.lower f.surface).length := by
  unfold Fragment.surface Fragment.lower
  rw [Text.length_lower_append, List.length_append]
  cases f.morpheme <;> rfl

theorem length_covered_lower (fs : List Fragment) :
    (covered (fs.map Fragment.lower)).length = (Text.lower (covered fs)).length := by
  induction fs with
  | nil => rfl
  | cons f fs ih =>
    rw [List.map_cons, covered_cons, covered_cons, List.length_append, ih,
      Fragment.length_surface_lower, Text.length_lower_append]

namespace Candidate

variable {c d : Candidate} {blocks : List (List Fragment)}

theorem Worded.lower (h : c.Worded) : c.lower.Worded := by
  intro f hf
  obtain ⟨g, hg, rfl⟩ := List.mem_map.1 hf
  exact Text.lower_ne_nil (h g hg)

theorem length_surface_lower (c : Candidate) :
    c.lower.surface.length = (Text.lower c.surface).length := length_covered_lower c.fragments

/-- **A candidate keeps the cuts of another one up to case** if its fragments stand in blocks that
cover what the fragments of the other cover, each up to case. -/
def KeepsUpToCase (c d : Candidate) : Prop :=
  ∃ blocks, InBlocks c.fragments blocks ∧
    (blocks.map covered).map Text.lower = (d.fragments.map Fragment.surface).map Text.lower

/-- **Blocks of a candidate** with as many small letters as the fragments of another one. -/
structure EvenBlocks (c d : Candidate) (blocks : List (List Fragment)) : Prop where
  inBlocks : InBlocks c.fragments blocks
  sizes : (blocks.map covered).map (fun t => (Text.lower t).length) =
    (d.fragments.map Fragment.surface).map fun t => (Text.lower t).length

/-- **Blocks with as many small letters** there are exactly if the candidate in small letters keeps
the boundaries of the other one. -/
theorem exists_evenBlocks_iff (hc : c.Worded) (hd : d.Worded)
    (h : Text.lower c.surface = Text.lower d.surface) :
    (∃ blocks, c.EvenBlocks d blocks) ↔
      ∀ e ∈ d.lower.boundaries, e ∈ c.lower.boundaries := by
  have hlength : c.lower.surface.length = d.lower.surface.length := by
    rw [length_surface_lower, length_surface_lower, h]
  -- the sizes of the fragments in small letters are the numbers of small letters
  have hsizes : d.lower.fragments.map Fragment.size =
      (d.fragments.map Fragment.surface).map fun t => (Text.lower t).length := by
    show (d.fragments.map Fragment.lower).map Fragment.size = _
    rw [List.map_map, List.map_map]
    exact List.map_congr_left fun f _ => f.length_surface_lower
  have hblocks : ∀ blocks : List (List Fragment),
      (blocks.map (List.map Fragment.lower)).map (fun b => (covered b).length) =
        (blocks.map covered).map fun t => (Text.lower t).length := by
    intro blocks
    rw [List.map_map, List.map_map]
    exact List.map_congr_left fun b _ => length_covered_lower b
  rw [boundaries_subset_iff hc.lower hd.lower hlength, hsizes]
  constructor
  · rintro ⟨blocks, hin, hsame⟩
    exact ⟨blocks.map (List.map Fragment.lower), hin.map Fragment.lower, by rw [hblocks, hsame]⟩
  · rintro ⟨small, hin, hsame⟩
    obtain ⟨blocks, hown, rfl⟩ := InBlocks.of_map hin
    exact ⟨blocks, hown, by rw [← hblocks, hsame]⟩

/-- **The cuts are kept up to case** by blocks with as many small letters in which the same ones are
stray. -/
theorem keepsUpToCase_iff (h : Text.lower c.surface = Text.lower d.surface) :
    c.KeepsUpToCase d ↔ ∃ blocks, c.EvenBlocks d blocks ∧
      ∀ n, Text.Stray (blocks.map covered) n ↔ Text.Stray (d.fragments.map Fragment.surface) n := by
  have hparts : ∀ {blocks : List (List Fragment)}, InBlocks c.fragments blocks →
      ((blocks.map covered).map Text.lower =
          (d.fragments.map Fragment.surface).map Text.lower ↔
        c.EvenBlocks d blocks ∧ ∀ n, Text.Stray (blocks.map covered) n ↔
          Text.Stray (d.fragments.map Fragment.surface) n) := by
    intro blocks hin
    have hwhole : Text.lower (blocks.map covered).flatten =
        Text.lower (d.fragments.map Fragment.surface).flatten := by
      rw [flatten_covered hin, flatten_surfaces, h]
    have hlengths : ∀ ts : List Text, (ts.map Text.lower).map List.length =
        ts.map fun t => (Text.lower t).length := fun ts => List.map_map
    rw [List.eq_iff_flatten_eq, Text.flatten_map_lower_congr_iff hwhole, hlengths, hlengths]
    exact ⟨fun ⟨hstray, hsizes⟩ => ⟨⟨hin, hsizes⟩, hstray⟩,
      fun ⟨heven, hstray⟩ => ⟨hstray, heven.sizes⟩⟩
  constructor
  · rintro ⟨blocks, hin, hsame⟩
    exact ⟨blocks, (hparts hin).1 hsame⟩
  · rintro ⟨blocks, heven, hstray⟩
    exact ⟨blocks, heven.inBlocks, (hparts heven.inBlocks).2 ⟨heven, hstray⟩⟩

/-- Where there is neither `İ` nor a capital sigma, the cuts are kept. -/
theorem Refines.keepsUpToCase (h : c.Refines d) (hc : c.Worded) (hd : d.Worded)
    (hdot : '\u0130' ∉ c.surface ∧ '\u0130' ∉ d.surface)
    (hsigma : 'Σ' ∉ c.surface ∧ 'Σ' ∉ d.surface) : c.KeepsUpToCase d := by
  have hlower : ∀ {t : Text}, '\u0130' ∉ t → (Text.lower t).length = t.length := by
    intro t ht
    rw [Text.length_lower, List.count_eq_zero_of_not_mem ht, Nat.add_zero]
  have hlength : c.surface.length = d.surface.length := by
    rw [← hlower hdot.1, ← hlower hdot.2, h.2.2]
  obtain ⟨blocks, hin, hsizes⟩ := (boundaries_subset_iff hc hd hlength).1 h.2.1
  have heven : c.EvenBlocks d blocks := by
    refine ⟨hin, ?_⟩
    rw [List.map_map, List.map_map]
    calc blocks.map (fun b => (Text.lower (covered b)).length)
      _ = blocks.map fun b => (covered b).length := by
        refine List.map_congr_left fun b hb => hlower fun hmem => hdot.1 ?_
        rw [← flatten_covered hin]
        exact List.mem_flatten.2 ⟨covered b, List.mem_map_of_mem hb, hmem⟩
      _ = d.fragments.map Fragment.size := hsizes
      _ = d.fragments.map fun f => (Text.lower f.surface).length := by
        refine List.map_congr_left fun f hf => (hlower fun hmem => hdot.2 ?_).symm
        rw [← flatten_surfaces]
        exact List.mem_flatten.2 ⟨f.surface, List.mem_map_of_mem hf, hmem⟩
  refine (keepsUpToCase_iff h.2.2).2 ⟨blocks, heven, fun n => iff_of_false ?_ ?_⟩
  · exact Text.not_stray (by rw [flatten_covered hin]; exact hsigma.1) n
  · exact Text.not_stray (by rw [flatten_surfaces]; exact hsigma.2) n

end Candidate

namespace Tree

open Candidate

/-- **A child keeps the cuts of its parent up to case** exactly if it keeps them in small letters and
the same small letters are stray. It does where there is neither `İ` nor a capital sigma. -/
theorem addChild_keepsUpToCase_iff {t u : Tree} {p : Nat} {c d : Candidate}
    (hadd : t.addChild p c = .ok u) (hp : t.value? p = some d) (hc : c.Worded) (hd : d.Worded) :
    (c.KeepsUpToCase d ↔ ∃ blocks, c.EvenBlocks d blocks ∧ ∀ n,
      Text.Stray (blocks.map covered) n ↔ Text.Stray (d.fragments.map Fragment.surface) n) ∧
    ((∃ blocks, c.EvenBlocks d blocks) ↔ ∀ e ∈ d.lower.boundaries, e ∈ c.lower.boundaries) ∧
    ('\u0130' ∉ c.surface ∧ '\u0130' ∉ d.surface → 'Σ' ∉ c.surface ∧ 'Σ' ∉ d.surface →
      c.KeepsUpToCase d) := by
  obtain ⟨d', hp', hrefines, -⟩ := addChild_eq_ok_iff.1 hadd
  obtain rfl : d' = d := Option.some.inj (hp'.symm.trans hp)
  exact ⟨keepsUpToCase_iff hrefines.2.2, exists_evenBlocks_iff hc hd hrefines.2.2,
    hrefines.keepsUpToCase hc hd⟩

/-- A candidate that is cut behind its first letter. -/
def dottedCapital : Candidate := ⟨[.plain "\u0130", .plain "ab"], List.cons_ne_nil _ _⟩

/-- The same text in small letters, cut behind the `i` and not behind its dot. -/
def dottedSmall : Candidate :=
  ⟨[.plain "i", .plain "\u0307a", .plain "b"], List.cons_ne_nil _ _⟩

/-- The capital letter and its two small ones are cut at the same position, but not alike. -/
theorem dotted_not_kept :
    Candidate.parse "\u0130+ab" = .ok dottedCapital ∧
    Candidate.parse "i+\u0307a+b" = .ok dottedSmall ∧
    (∃ u, (⟨.ofWord "\u0130ab", .node 1 dottedCapital .nil .nil⟩ : Tree).addChild 1 dottedSmall =
      .ok u) ∧
    ¬dottedSmall.KeepsUpToCase dottedCapital := by
  have hrefines : dottedSmall.Refines dottedCapital := by decide +kernel
  have hadd := addChild_eq_graft
    (t := ⟨.ofWord "\u0130ab", .node 1 dottedCapital .nil .nil⟩) (p := 1) rfl hrefines
  refine ⟨by decide, by decide, ⟨_, hadd⟩, fun hkept => ?_⟩
  have hsmallWorded : ∀ f ∈ dottedSmall.fragments, f.word ≠ [] := by decide
  have hcapitalWorded : ∀ f ∈ dottedCapital.fragments, f.word ≠ [] := by decide
  obtain ⟨hkeeps, hsmall, -⟩ := addChild_keepsUpToCase_iff hadd rfl hsmallWorded hcapitalWorded
  obtain ⟨blocks, heven, -⟩ := hkeeps.1 hkept
  exact absurd (hsmall.1 ⟨blocks, heven⟩) (by decide +kernel)

end Tree

end Kompositum
