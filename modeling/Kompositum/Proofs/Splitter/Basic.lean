import Kompositum.Proofs.Splitter.Analyzed
import Kompositum.Proofs.Splitter.Exhaustive
import Kompositum.Proofs.Splitter.HeadTail
import Kompositum.Splitter.Basic

/-!
# Every tree reads its word

However a word is split, no character is lost, doubled or moved: the root of the tree is the word in
one fragment, and everything below spells the word in several.

* `Tree.Reads`: the trees of readings of a word.
* `Splitter.reads_split`: every splitter gives such a tree.
-/

namespace Kompositum

namespace Tree

/-- **A tree of readings of a word**: one fragment that spells it is the root, and everything below
is split and spells it too. -/
structure Reads (t : Tree) (w : Text) : Prop where
  root_whole : t.root.size = 1
  root_spells : t.root.Partitions w
  below_reads : ∀ c ∈ t.below.candidates, c.isSplit = true ∧ c.Partitions w

variable {t : Tree} {v w : Text}

/-- A root that is the word in some case is the word in one fragment. -/
theorem reads_of_root (hroot : t.root = .ofWord v) (hcase : Text.lower v = Text.lower w)
    (hbelow : ∀ c ∈ t.below.candidates, c.isSplit = true ∧ c.Partitions w) : t.Reads w := by
  refine ⟨?_, ?_, hbelow⟩
  · rw [hroot]
    rfl
  · rw [hroot, Candidate.Partitions, Candidate.surface_ofWord, hcase]

/-- All candidates of such a tree spell the word. -/
theorem Reads.partitions (ht : t.Reads w) : ∀ c ∈ t.candidates, c.Partitions w := by
  intro c hc
  rcases List.mem_cons.1 hc with rfl | hc
  · exact ht.root_spells
  · exact (ht.below_reads c hc).2

theorem Reads.root_isSplit (ht : t.Reads w) : ¬t.root.isSplit = true := by
  rw [Candidate.isSplit_iff, ht.root_whole]
  exact Nat.lt_irrefl 1

end Tree

/-! ## The three ways of splitting -/

theorem Exhaustive.reads_split (s : Exhaustive) (w : Text) : (s.split w).Reads w := by
  have hcase : Text.lower (s.dictionary.normalize w) = Text.lower w :=
    s.dictionary.lower_normalize w
  rw [split_eq_growth]
  refine Tree.reads_of_root rfl hcase fun c hc => ?_
  -- below the root stands what comes from it by cuts, each of which adds a fragment
  have hcuts := (mem_candidates_grow_iff (Candidate.isOpen_ofWord _)).1 hc
  have hreading : s.Reading w c := reading_iff.2 hcuts.to_reflTransGen
  have hlonger := (prefix_of_transGen hcuts).2
  refine ⟨Candidate.isSplit_iff.2 hlonger, ?_⟩
  rw [Candidate.Partitions, hreading.surface, hcase]

theorem HeadTail.reads_split (s : HeadTail) (w : Text) : (s.split w).Reads w := by
  refine Tree.reads_of_root (root_split s w) rfl fun c hc => ?_
  obtain ⟨-, hpreferred⟩ := (mem_below_split_iff s w c).1 hc
  obtain ⟨hsplit, hsurface⟩ := preferred?_spells hpreferred
  refine ⟨hsplit, ?_⟩
  rw [Candidate.Partitions, hsurface, s.dictionary.lower_normalize]

theorem Analyzed.reads_split (s : Analyzed) (w : Text) : (s.split w).Reads w := by
  by_cases hw : w = []
  · -- the empty word has no readings but itself
    have hsingle : s.split w = .single (.ofWord w) := by
      rw [hw]
      rfl
    rw [hsingle]
    exact Tree.reads_of_root rfl rfl fun c hc => absurd hc List.not_mem_nil
  · obtain ⟨cs, hperm, hnested⟩ := s.nested_split hw
    refine Tree.reads_of_root hnested.root_eq rfl fun c hc => ?_
    have hreading := (hnested.perm.trans hperm).mem_iff.1 hc
    exact (mem_readings_iff.1 hreading).2

/-- **Every splitter** gives a tree of readings of the word. -/
theorem Splitter.reads_split (s : Splitter) (w : Text) : (s.split w).Reads w := by
  cases s with
  | exhaustive s => exact s.reads_split w
  | headTail s => exact s.reads_split w
  | analyzed s => exact s.reads_split w

end Kompositum
