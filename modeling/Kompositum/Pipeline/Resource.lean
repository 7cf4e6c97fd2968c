import Kompositum.Pipeline.Config

/-!
# Resources

What a configuration names is read from files. A file that is needed has to be there, to hold text,
and to have something in it. The patterns of affix rules are those of a language `P`.

* `Dictionary.ofSource`: the dictionary of a source.
* `PipelineConfig.loadSplitter`: the splitter of a configuration.
-/

namespace Kompositum

variable (P : Type) [PatternLanguage P]

/-- The text in a file that is needed. -/
def Files.load (files : Files) (path : Text) : Except Error Text :=
  (files.readText path).mapError (.load path)

/-- The affix rules in a file. -/
def AffixFile.load (files : Files) (path : Text) : Except Error (AffixFile P) := do
  (AffixFile.parse P (← files.load path)).mapError .affix

namespace Dictionary

/-- A dictionary that has words. -/
def nonempty (path : Text) (d : Dictionary) : Except Error Dictionary :=
  if d.words.isEmpty then .error (.resource path .noWords) else .ok d

/-- The dictionary of a word list. -/
def loadWordList (options : DictionaryOptions) (files : Files) (path : Text) :
    Except Error Dictionary := do
  nonempty path (ofWordList options (← files.load path))

/-- The dictionary of a lexicon with affix rules. -/
def loadLexicon (options : DictionaryOptions) (files : Files) (path affix : Text) :
    Except Error Dictionary := do
  let affixes ← AffixFile.load P files affix
  nonempty path (ofLexicon options affixes (← files.load path))

/-- **The dictionary of a source.** -/
def ofSource (files : Files) (s : DictionarySource) : Except Error Dictionary :=
  match s.affix with
  | some affix => loadLexicon P s.options files s.path affix
  | none => loadWordList s.options files s.path

end Dictionary

/-- The linking morphemes in a file. -/
def Morphemes.load (files : Files) (path : Text) : Except Error Morphemes := do
  let ms := Morphemes.ofLines (← files.load path)
  if ms.toList.isEmpty then .error (.resource path .noMorphemes) else return ms

/-- The analyses in a file. -/
def Analyses.load (files : Files) (path : Text) : Except Error Analyses :=
  return Analyses.ofLines (← files.load path)

namespace PipelineConfig

/-- The linking morphemes of a configuration. -/
def loadMorphemes (c : PipelineConfig) (files : Files) : Except Error Morphemes :=
  match c.morphemes with
  | some path => Morphemes.load files path
  | none => .ok .german

/-- The dictionary of a configuration. -/
def loadDictionary (c : PipelineConfig) (files : Files) : Except Error Dictionary :=
  Dictionary.ofSource P files c.dictionary

/-- **The splitter of a configuration.** An analyzer takes its analyses from a file, the other ways
of splitting go by a dictionary. -/
def loadSplitter (c : PipelineConfig) (files : Files) : Except Error Splitter := do
  let morphemes ← c.loadMorphemes files
  match c.splitter.kind with
  | .external =>
    match c.analyses with
    | none => .error (.options .noAnalyses)
    | some path =>
      let analyses ← Analyses.load files path
      return .analyzed ⟨morphemes, fun w => some (analyses.ofWord w)⟩
  | .leftToRight =>
    return .exhaustive { dictionary := ← c.loadDictionary P files, morphemes
                         minWordLength := c.splitter.minWordLength }
  | .banana =>
    return .headTail (.ofDictionary (← c.loadDictionary P files) morphemes c.splitter.headTail)

end PipelineConfig

end Kompositum
