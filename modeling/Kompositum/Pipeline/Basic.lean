import Kompositum.Ngram.Finder
import Kompositum.Pipeline.Resource

/-!
# Decompounding

A pipeline splits a word and picks the best of its candidates.

* `Pipeline.rank`: all candidates of a word, best first.
* `Pipeline.decompound`: the best candidate, found by walking down the tree.
* `Pipeline.ofConfig`: the pipeline of a configuration.
-/

namespace Kompositum

/-- Where scores come from. -/
inductive Scoring where
  | ranker (r : Ranker Error)
  /-- Frequencies that an index gives, as long as it is open. -/
  | corpus (kind : RankerKind) (finder : Finder)

namespace Scoring

/-- The ranker that gives the scores. -/
def toRanker : Scoring → Ranker Error
  | ranker r => r
  | corpus kind finder => .ofKind kind finder.frequencies

/-- The index in use. -/
def finder? : Scoring → Option Finder
  | ranker _ => none
  | corpus _ finder => some finder

/-- Scores whose index is closed. -/
def close : Scoring → Scoring
  | ranker r => ranker r
  | corpus kind finder => corpus kind finder.close

end Scoring

/-- A splitter and a way of scoring its candidates. -/
structure Pipeline where
  splitter : Splitter
  scoring : Scoring

namespace Pipeline

/-- The ranker of a pipeline. -/
def ranker (p : Pipeline) : Ranker Error := p.scoring.toRanker

/-- The tree of the candidates of a word. -/
def split (p : Pipeline) (w : Text) : Tree := p.splitter.split w

/-- **All candidates of a word, best first.** -/
def rank (p : Pipeline) (w : Text) : Except Error (List Ranked) :=
  p.ranker.rank (p.split w).candidates

/-- **The best candidate of a word**, found by walking down its tree. -/
def decompound (p : Pipeline) (w : Text) : Except Error Candidate :=
  p.ranker.bestInTree (p.split w)

/-- The best candidate of every word. -/
def decompoundAll (p : Pipeline) (ws : List Text) : List (Except Error Candidate) :=
  ws.map p.decompound

/-- A pipeline whose index is closed. -/
def close (p : Pipeline) : Pipeline := { p with scoring := p.scoring.close }

/-- **The pipeline of a configuration**, whose lexicon has rules with patterns of a language `P`. -/
def ofConfig (P : Type) [PatternLanguage P] (c : PipelineConfig) (files : Files) :
    Except Error Pipeline := do
  let splitter ← c.loadSplitter P files
  let finder ← Finder.ofFolder files c.indexDir
  return ⟨splitter, .corpus c.ranker finder⟩

end Pipeline

end Kompositum
