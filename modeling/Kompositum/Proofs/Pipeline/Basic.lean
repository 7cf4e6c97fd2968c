import Kompositum.Pipeline.Basic
import Kompositum.Proofs.Ranking.Score
import Kompositum.Proofs.Splitter.Basic

/-!
# What a pipeline selects

Whatever the splitter and the ranker, a pipeline selects readings of the word. Where the ranker
counts in a corpus, it leaves the unsplit word only for readings that the corpus attests.

* `Pipeline.selects_readings`: what is ranked and what a walk ends at spell the word.
* `Pipeline.SelectsAttested`: if it is split, the corpus attests it. This holds of all pipelines that
  count in a corpus (`selects_attested`).
-/

namespace Kompositum.Pipeline

/-- **Everything that a pipeline selects is a reading of the word**: the root of its tree is the
word in one fragment, all candidates of the tree spell the word, and both ranking and the walk down
the tree give candidates of the tree. -/
theorem selects_readings (p : Pipeline) (w : Text) :
    (p.split w).root.size = 1 ∧
    (∀ c ∈ (p.split w).candidates, c.Partitions w) ∧
    (∀ rs, p.rank w = .ok rs → ∀ x ∈ rs, x.candidate ∈ (p.split w).candidates) ∧
    ∀ c, p.decompound w = .ok c → c ∈ (p.split w).candidates ∧ c.Partitions w := by
  have hreads : (p.split w).Reads w := p.splitter.reads_split w
  refine ⟨hreads.root_whole, hreads.partitions, fun rs hrs x hx => ?_, fun c hc => ?_⟩
  · exact (Ranker.mem_of_rank hrs hx).1
  · have hmem : c ∈ (p.split w).candidates := by
      rcases Ranker.bestInTree_eq_or_favours hc with rfl | ⟨hbelow, -⟩
      · exact List.mem_cons_self
      · exact List.mem_cons_of_mem _ hbelow
    exact ⟨hmem, hreads.partitions c hmem⟩

/-- **What a pipeline selects is attested** for a word: the corpus attests every candidate that a
walk down the tree ends at, unless it is the root, and every split candidate that is ranked. -/
def SelectsAttested (p : Pipeline) (kind : RankerKind) (f : Frequencies Error) (w : Text) : Prop :=
  (∀ c, p.decompound w = .ok c → c ≠ (p.split w).root → kind.Attests f c) ∧
  ∀ rs, p.rank w = .ok rs → ∀ x ∈ rs, x.candidate.isSplit = true → kind.Attests f x.candidate

theorem selectsAttested_of_ranker {p : Pipeline} {kind : RankerKind} {f : Frequencies Error}
    (hp : p.ranker = .ofKind kind f) (w : Text) : p.SelectsAttested kind f w := by
  have hreads : (p.split w).Reads w := p.splitter.reads_split w
  have hattests : ∀ {c}, p.ranker.Favours c → c.isSplit = true → kind.Attests f c := by
    intro c hfavours hsplit
    rw [hp] at hfavours
    exact hfavours.attests hsplit
  refine ⟨fun c hc hroot => ?_, fun rs hrs x hx hsplit => ?_⟩
  · obtain ⟨hbelow, hfavours⟩ := (Ranker.bestInTree_eq_or_favours hc).resolve_left hroot
    exact hattests hfavours (hreads.below_reads c hbelow).1
  · -- the first candidate alone is left without a usable score, and it is the unsplit word
    have hnothead : ¬(p.split w).candidates.head? = some x.candidate := by
      intro hhead
      have heq : (p.split w).root = x.candidate := Option.some.inj hhead
      exact hreads.root_isSplit (heq ▸ hsplit)
    have hfavours := (Ranker.mem_of_rank hrs hx).2.resolve_right hnothead
    exact hattests hfavours hsplit

/-- **The corpus attests every split reading that a pipeline selects**, whatever the splitter,
whether the frequencies come from any source or from an index. -/
theorem selects_attested (splitter : Splitter) (kind : RankerKind) (w : Text) :
    (∀ f, (⟨splitter, .ranker (.ofKind kind f)⟩ : Pipeline).SelectsAttested kind f w) ∧
    ∀ finder, (⟨splitter, .corpus kind finder⟩ : Pipeline).SelectsAttested kind
      finder.frequencies w :=
  ⟨fun _ => selectsAttested_of_ranker rfl w, fun _ => selectsAttested_of_ranker rfl w⟩

end Kompositum.Pipeline
