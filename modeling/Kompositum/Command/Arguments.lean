import Kompositum.Command.Scan
import Kompositum.Pipeline.Config

/-!
# The command line

There are five commands: to build an index, to split, rank or decompound words, and to describe an
index. Some options go with all of them and may stand before or after the name of the command.

* `Command`: what can be asked for.
* `Arguments.parse?`: what a command line asks for.
-/

namespace Kompositum

/-- How results are written. -/
inductive OutputFormat where
  | human | json
deriving DecidableEq, Repr

/-- The name of a format. -/
def OutputFormat.name : OutputFormat → Text
  | human => "human"
  | json => "json"

/-- What can be asked for. -/
inductive Command where
  /-- Build an index. -/
  | index (options : IndexOptions)
  /-- Show the candidates of words. -/
  | split (words : List Text) (config : PipelineConfig)
  /-- Rank the candidates of words. -/
  | rank (words : List Text) (config : PipelineConfig)
  /-- Decompound words, by default those of the input, with the configuration in a file. -/
  | decompound (config : Text) (words : List Text) (threads : Option Nat)
  /-- Describe an index. -/
  | stats (indexDir : Text)
deriving DecidableEq, Repr

/-- A command and how its result is to be written. -/
structure Arguments where
  verbose : Nat
  quiet : Bool
  format : OutputFormat
  /-- Whether JSON is spread over several lines. -/
  pretty : Bool
  command : Command
deriving DecidableEq, Repr

namespace Arguments

/-- **How much is told**: nothing more than the result at 0, more at greater numbers. -/
def verbosity (a : Arguments) : Nat := if a.quiet then 0 else max a.verbose 1

end Arguments

namespace Command

/-- An option without a value. -/
def flag (name : String) (letter : Option Char) : OptionSpec := ⟨name.toList, letter, false⟩

/-- An option with a value. -/
def setting (name : String) (letter : Option Char) : OptionSpec := ⟨name.toList, letter, true⟩

/-- The options of all commands. -/
def commonSpecs : List OptionSpec :=
  [flag "verbose" 'v', flag "quiet" 'q', setting "format" 'f', flag "pretty" none]

/-- The options for building an index. -/
def indexSpecs : List OptionSpec :=
  [setting "min-order" none, setting "max-order" none, flag "keep-case" none]

/-- The options for splitting. -/
def splitSpecs : List OptionSpec :=
  [setting "dictionary" 'd', setting "affix" none, setting "morphemes" none, flag "keep-case" none,
    setting "splitter" 's', setting "analyses" none, setting "min-word-length" none,
    setting "max-morpheme-length" none]

/-- The options for ranking. -/
def rankSpecs : List OptionSpec := splitSpecs ++ [setting "index" 'i', setting "ranker" 'r']

/-- The options for decompounding. -/
def decompoundSpecs : List OptionSpec := [setting "config" 'c', setting "threads" 't']

/-- The names of the commands, with their options. -/
def commands : List (Text × List OptionSpec) :=
  [("index", indexSpecs), ("split", splitSpecs), ("rank", rankSpecs),
    ("decompound", decompoundSpecs), ("stats", [])]

end Command

namespace Command.Scanned

variable (s : Scanned)

/-- The values given to an option. -/
def given (name : String) : List Text :=
  (s.options.filter fun o => o.name == name.toList).map Occurrence.value

/-- The value of an option, refused if it is given twice or if `f` refuses it. -/
def setting? {α : Type} (name : String) (f : Text → Option α) : Option (Option α) :=
  match s.given name with
  | [] => some none
  | [v] => (f v).map some
  | _ => none

/-- Whether a flag is set, refused if it is given twice. -/
def flag? (name : String) : Option Bool :=
  match s.given name with
  | [] => some false
  | [_] => some true
  | _ => none

end Command.Scanned

namespace Command

/-- A path; the empty one is refused. -/
def path? (v : Text) : Option Text := if v.isEmpty then none else some v

/-- A way of splitting by its name with dashes. -/
def splitterKind? (v : Text) : Option SplitterKind :=
  SplitterKind.all.find? fun k => (k.name.map fun c => if c == '_' then '-' else c) == v

/-- A way of scoring by its name with dashes. -/
def rankerKind? (v : Text) : Option RankerKind :=
  RankerKind.all.find? fun k => (k.name.map fun c => if c == '_' then '-' else c) == v

/-- A format by its name. -/
def format? (v : Text) : Option OutputFormat :=
  [OutputFormat.human, .json].find? fun f => f.name == v

/-- The configuration that the options for splitting make up. -/
def splitConfig? (s : Scanned) : Option PipelineConfig := do
  let d : SplitterOptions := {}
  let path ← s.setting? "dictionary" path?
  let affix ← s.setting? "affix" path?
  let morphemes ← s.setting? "morphemes" path?
  let keepsCase ← s.flag? "keep-case"
  let kind ← s.setting? "splitter" splitterKind?
  let analyses ← s.setting? "analyses" path?
  let minWordLength ← s.setting? "min-word-length" Count.ofText?
  let maxMorphemeLength ← s.setting? "max-morpheme-length" Count.ofText?
  return {
    dictionary := { path := path.getD [], affix, options := { foldsCase := !keepsCase } }
    morphemes, analyses
    splitter := {
      kind := kind.getD d.kind
      minWordLength := minWordLength.getD d.minWordLength
      headTail := { d.headTail with
        maxMorphemeLength := maxMorphemeLength.getD d.headTail.maxMorphemeLength } } }

/-- Words, of which there has to be one. -/
def words? (s : Scanned) : Option (List Text) := if s.values.isEmpty then none else some s.values

/-- The command of a name with its options and values. -/
def ofScanned? (name : Text) (s : Scanned) : Option Command :=
  if name == "index".toList then do
    let d : IndexOptions := {}
    match s.values with
    | [sourceDir, indexDir] =>
      let minOrder ← s.setting? "min-order" Count.ofText?
      let maxOrder ← s.setting? "max-order" Count.ofText?
      let keepsCase ← s.flag? "keep-case"
      return .index {
        sourceDir := ← path? sourceDir, indexDir := ← path? indexDir
        minOrder := minOrder.getD d.minOrder, maxOrder := maxOrder.getD d.maxOrder
        foldsCase := !keepsCase }
    | _ => none
  else if name == "split".toList then do
    return .split (← words? s) (← splitConfig? s)
  else if name == "rank".toList then do
    let config ← splitConfig? s
    let indexDir ← (← s.setting? "index" path?)
    let ranker ← s.setting? "ranker" rankerKind?
    return .rank (← words? s) { config with indexDir, ranker := ranker.getD config.ranker }
  else if name == "decompound".toList then do
    return .decompound (← (← s.setting? "config" path?)) s.values
      (← s.setting? "threads" Count.ofText?)
  else if name == "stats".toList then do
    match s.values with
    | [indexDir] => return .stats (← path? indexDir)
    | _ => none
  else none

end Command

namespace Arguments

open Command

/-- The greatest number of times that an option counts. -/
def mostVerbose : Nat := 255

/-- How often the option for more output is given, if it is. -/
def verbose? (s : Scanned) : Option Nat :=
  match s.given "verbose" with
  | [] => none
  | vs => some (min vs.length mostVerbose)

/-- **What a command line asks for**, its first word being the name of the program. Where an option
of all commands is given on both sides of the command, what follows the command counts. -/
def parse? (words : List Text) : Option Arguments := do
  let front ← scan commonSpecs (fun w => (commands.lookup w).isSome) (words.drop 1)
  match front.command with
  | [] => none
  | name :: rest =>
    let back ← scan ((← commands.lookup name) ++ commonSpecs) (fun _ => false) rest
    let formatBefore ← front.setting? "format" format?
    let formatAfter ← back.setting? "format" format?
    let quietBefore ← front.flag? "quiet"
    let quietAfter ← back.flag? "quiet"
    let prettyBefore ← front.flag? "pretty"
    let prettyAfter ← back.flag? "pretty"
    if !front.values.isEmpty then none
    else return {
      verbose := ((verbose? back).orElse fun _ => verbose? front).getD 0
      quiet := quietBefore || quietAfter
      format := (formatAfter.orElse fun _ => formatBefore).getD .human
      pretty := prettyBefore || prettyAfter
      command := ← ofScanned? name back }

end Arguments

end Kompositum
