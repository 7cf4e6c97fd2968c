import Kompositum.Json.Parser
import Kompositum.Json.Printer
import Kompositum.Json.Record
import Kompositum.Ngram.Indexer
import Kompositum.Ranking.Basic
import Kompositum.Splitter.Basic

/-!
# Configuration

A configuration names the resources of a pipeline and says how they are used. It is kept in JSON;
what is not given has a default.

* `PipelineConfig.load`, `PipelineConfig.save`: the configuration in a file.
* `PipelineConfig.toJson`, `PipelineConfig.ofJson?`: the configuration in JSON.
-/

namespace Kompositum

/-- Where a dictionary comes from. -/
structure DictionarySource where
  /-- A word list, or a lexicon if there are affix rules. -/
  path : Text := []
  /-- The affix rules. -/
  affix : Option Text := none
  options : DictionaryOptions := {}
deriving DecidableEq, Repr

/-- The resources of a pipeline and how they are used. -/
structure PipelineConfig where
  dictionary : DictionarySource := {}
  /-- The linking morphemes, the German ones if no file is named. -/
  morphemes : Option Text := none
  analyses : Option Text := none
  splitter : SplitterOptions := {}
  ranker : RankerKind := .frequencyGeometricMean
  indexDir : Text := []
  /-- How many words are treated at the same time. -/
  threads : Option Nat := none
deriving DecidableEq, Repr

namespace DictionaryOptions

/-- Options in JSON. -/
def toJson (o : DictionaryOptions) : Json :=
  .object [("lowercase", .truth o.foldsCase), ("min_word_length", .ofNat o.minLength)]

/-- Options from JSON. -/
def ofJson? (j : Json) : Option DictionaryOptions := do
  let d : DictionaryOptions := {}
  match ← j.slots? ["lowercase", "min_word_length"] with
  | [foldsCase, minLength] =>
    return ⟨← foldsCase.orElse? Json.truth? d.foldsCase, ← minLength.orElse? Json.nat? d.minLength⟩
  | _ => none

end DictionaryOptions

namespace SplitterKind

/-- All ways of splitting. -/
def all : List SplitterKind := [leftToRight, banana, external]

/-- A way of splitting in JSON. -/
def toJson (k : SplitterKind) : Json := .text k.name

/-- A way of splitting from JSON. -/
def ofJson? (j : Json) : Option SplitterKind := j.choice? name all

end SplitterKind

namespace RankerKind

/-- All ways of scoring. -/
def all : List RankerKind := [frequencyGeometricMean, mutualInformation]

/-- A way of scoring in JSON. -/
def toJson (k : RankerKind) : Json := .text k.name

/-- A way of scoring from JSON. -/
def ofJson? (j : Json) : Option RankerKind := j.choice? name all

end RankerKind

/-- The options of splitting from left to right in JSON. -/
def lengthToJson (minWordLength : Nat) : Json := .object [("min_word_length", .ofNat minWordLength)]

/-- The options of splitting from left to right from JSON. -/
def lengthOfJson? (j : Json) : Option Nat := do
  match ← j.slots? ["min_word_length"] with
  | [minWordLength] => minWordLength.orElse? Json.nat? ({} : SplitterOptions).minWordLength
  | _ => none

namespace HeadTailOptions

/-- Options in JSON. -/
def toJson (o : HeadTailOptions) : Json :=
  .object [("min_fragment_length", .ofNat o.minFragmentLength),
    ("max_morpheme_length", .ofNat o.maxMorphemeLength),
    ("require_linking_morpheme", .truth o.requireMorpheme)]

/-- Options from JSON. -/
def ofJson? (j : Json) : Option HeadTailOptions := do
  let d : HeadTailOptions := {}
  match ← j.slots? ["min_fragment_length", "max_morpheme_length", "require_linking_morpheme"] with
  | [minFragmentLength, maxMorphemeLength, requireMorpheme] =>
    return ⟨← minFragmentLength.orElse? Json.nat? d.minFragmentLength,
      ← maxMorphemeLength.orElse? Json.nat? d.maxMorphemeLength,
      ← requireMorpheme.orElse? Json.truth? d.requireMorpheme⟩
  | _ => none

end HeadTailOptions

namespace SplitterOptions

/-- Options in JSON. -/
def toJson (o : SplitterOptions) : Json :=
  .object [("kind", o.kind.toJson), ("left_to_right", lengthToJson o.minWordLength),
    ("banana", o.headTail.toJson)]

/-- Options from JSON. -/
def ofJson? (j : Json) : Option SplitterOptions := do
  let d : SplitterOptions := {}
  match ← j.slots? ["kind", "left_to_right", "banana"] with
  | [kind, minWordLength, headTail] =>
    return ⟨← kind.orElse? SplitterKind.ofJson? d.kind,
      ← minWordLength.orElse? lengthOfJson? d.minWordLength,
      ← headTail.orElse? HeadTailOptions.ofJson? d.headTail⟩
  | _ => none

end SplitterOptions

namespace DictionarySource

/-- A source in JSON. -/
def toJson (s : DictionarySource) : Json :=
  .object [("path", .text s.path), ("affix", .ofOption .text s.affix),
    ("options", s.options.toJson)]

/-- A source from JSON. -/
def ofJson? (j : Json) : Option DictionarySource := do
  let d : DictionarySource := {}
  match ← j.slots? ["path", "affix", "options"] with
  | [path, affix, options] =>
    return ⟨← path.orElse? Json.text? d.path, ← affix.orElse? (Json.nullable? Json.text?) d.affix,
      ← options.orElse? DictionaryOptions.ofJson? d.options⟩
  | _ => none

end DictionarySource

namespace IndexOptions

/-- Options in JSON. -/
def toJson (o : IndexOptions) : Json :=
  .object [("source_dir", .text o.sourceDir), ("index_dir", .text o.indexDir),
    ("min_order", .ofNat o.minOrder), ("max_order", .ofNat o.maxOrder),
    ("lowercase", .truth o.foldsCase)]

/-- Options from JSON. -/
def ofJson? (j : Json) : Option IndexOptions := do
  let d : IndexOptions := {}
  match ← j.slots? ["source_dir", "index_dir", "min_order", "max_order", "lowercase"] with
  | [sourceDir, indexDir, minOrder, maxOrder, foldsCase] =>
    return ⟨← sourceDir.orElse? Json.text? d.sourceDir, ← indexDir.orElse? Json.text? d.indexDir,
      ← minOrder.orElse? Json.nat? d.minOrder, ← maxOrder.orElse? Json.nat? d.maxOrder,
      ← foldsCase.orElse? Json.truth? d.foldsCase⟩
  | _ => none

end IndexOptions

namespace PipelineConfig

/-- **A configuration in JSON**, with everything that has a default written out. -/
def toJson (c : PipelineConfig) : Json :=
  .object [("dictionary", c.dictionary.toJson), ("morphemes", .ofOption .text c.morphemes),
    ("analyses", .ofOption .text c.analyses), ("splitter", c.splitter.toJson),
    ("ranker", c.ranker.toJson), ("index_dir", .text c.indexDir),
    ("threads", .ofOption .ofNat c.threads)]

/-- **A configuration from JSON.** -/
def ofJson? (j : Json) : Option PipelineConfig := do
  let d : PipelineConfig := {}
  match ← j.slots? ["dictionary", "morphemes", "analyses", "splitter", "ranker", "index_dir",
      "threads"] with
  | [dictionary, morphemes, analyses, splitter, ranker, indexDir, threads] =>
    return {
      dictionary := ← dictionary.orElse? DictionarySource.ofJson? d.dictionary
      morphemes := ← morphemes.orElse? (Json.nullable? Json.text?) d.morphemes
      analyses := ← analyses.orElse? (Json.nullable? Json.text?) d.analyses
      splitter := ← splitter.orElse? SplitterOptions.ofJson? d.splitter
      ranker := ← ranker.orElse? RankerKind.ofJson? d.ranker
      indexDir := ← indexDir.orElse? Json.text? d.indexDir
      threads := ← threads.orElse? (Json.nullable? Json.nat?) d.threads }
  | _ => none

/-- **The configuration in a file.** -/
def load (files : Files) (path : Text) : Except Error PipelineConfig := do
  let t ← (files.readText path).mapError (.load path)
  match (Json.parse? (Utf8.encode t)).bind ofJson? with
  | some c => return c
  | none => .error .json

/-- **Files with the configuration in one of them.** -/
def save (c : PipelineConfig) (files : Files) (path : Text) : Except Error Files :=
  (files.write path (Utf8.encode c.toJson.pretty)).mapError .io

end PipelineConfig

end Kompositum
