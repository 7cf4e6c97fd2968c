import Kompositum.Command.Arguments
import Kompositum.Decimal.Fixed
import Kompositum.Json.Candidate
import Kompositum.Ngram.Index

/-!
# Reports

A report is what a command has found out. It is written for a human reader or in JSON.

* `Report.render`: the text of a report.
-/

namespace Kompositum

/-- The candidates of a word. -/
structure SplitReport where
  word : Text
  splitter : Text
  candidates : List Candidate
deriving DecidableEq, Repr

/-- The ranked candidates of a word. -/
structure RankReport where
  word : Text
  ranker : Text
  ranked : List Ranked

/-- The best candidate of a word, or the error that prevented it. -/
structure BestReport where
  word : Text
  best : Option Candidate
  error : Option Text
deriving DecidableEq, Repr

/-- What a command has found out. -/
inductive Report where
  | index (indexDir : Text) (stats : IndexStats)
  | split (words : List SplitReport)
  | rank (words : List RankReport)
  | best (words : List BestReport)
  /-- The description of an index and the size of its files. -/
  | stats (indexDir : Text) (size : Nat) (about : IndexMeta)

namespace SplitReport

/-- The candidates of a word in JSON. -/
def toJson (r : SplitReport) : Json :=
  .object [("word", .text r.word), ("splitter", .text r.splitter),
    ("candidates", .list (r.candidates.map Candidate.toJson))]

/-- The candidates of a word from JSON. -/
def ofJson? (j : Json) : Option SplitReport := do
  match ← j.slots? ["word", "splitter", "candidates"] with
  | [word, splitter, candidates] =>
    return ⟨← word.required? Json.text?, ← splitter.required? Json.text?,
      ← candidates.required? (Json.list? Candidate.ofJson?)⟩
  | _ => none

/-- The lines about a word. -/
def lines (verbosity : Nat) (r : SplitReport) : List Text :=
  let name : Text := if 1 < verbosity then " (" ++ r.splitter ++ ")" else []
  (r.word ++ name ++ [':']) :: r.candidates.map fun c => "  " ++ c.render

end SplitReport

namespace RankReport

/-- The ranked candidates of a word in JSON. -/
def toJson (r : RankReport) : Json :=
  .object [("word", .text r.word), ("ranker", .text r.ranker),
    ("ranked", .list (r.ranked.map Ranked.toJson))]

/-- The lines about a word. -/
def lines (verbosity : Nat) (r : RankReport) : List Text :=
  let name : Text := if 1 < verbosity then " (" ++ r.ranker ++ ")" else []
  (r.word ++ name ++ [':']) :: r.ranked.mapIdx fun i c =>
    "  " ++ Text.ofNat (i + 1) ++ ". " ++ c.candidate.render ++ " (Score: " ++
      Decimal.fixed 3 c.score ++ ")"

end RankReport

namespace BestReport

/-- The best candidate of a word in JSON. What there is not is left out. -/
def toJson (r : BestReport) : Json :=
  .object ((("word", .text r.word) : Text × Json) ::
    ((r.best.map fun c => (("best" : Text), c.toJson)).toList ++
      (r.error.map fun e => (("error" : Text), Json.text e)).toList))

/-- The best candidate of a word from JSON. -/
def ofJson? (j : Json) : Option BestReport := do
  match ← j.slots? ["word", "best", "error"] with
  | [word, best, error] =>
    return ⟨← word.required? Json.text?, ← best.optional? Candidate.ofJson?,
      ← error.optional? Json.text?⟩
  | _ => none

/-- The line about a word. -/
def line (r : BestReport) : Text :=
  match r.best, r.error with
  | some c, _ => r.word ++ ['\t'] ++ c.render
  | none, some e => r.word ++ ['\t'] ++ "error: " ++ e
  | none, none => r.word

end BestReport

namespace Report

/-- A number in the greatest of some units of which there is at least one, with one place; each unit
is 1024 of the one before. -/
def scaled (x : Float) (unit : Text) : List Text → Text
  | [] => Decimal.fixed 1 x ++ [' '] ++ unit
  | next :: units =>
    if 1024 ≤ x then scaled (x / 1024) next units else Decimal.fixed 1 x ++ [' '] ++ unit

/-- The size of a file in bytes, or in the greatest unit of which there is at least one. -/
def sizeText (bytes : Nat) : Text :=
  if bytes < 1024 then Text.ofNat bytes ++ " B"
  else scaled (bytes.toUInt64.toFloat / 1024) "KB" ["MB", "GB", "TB"]

/-- The line below a heading. -/
def rule (n : Nat) : Text := List.replicate n '═'

/-- What is said of an order after it has been indexed. -/
def orderLine (s : OrderStats) : Text :=
  "order " ++ Text.ofNat s.order ++ ": " ++ Text.ofNat s.grams ++ " grams, total frequency " ++
    Text.ofNat s.totalFreq ++ ", " ++ Text.ofNat s.malformedLines ++ " lines skipped"

/-- The lines about a new index. -/
def indexLines (verbosity : Nat) (indexDir : Text) (s : IndexStats) : List Text :=
  (if 0 < verbosity then ["Index written to " ++ indexDir, rule 18] else []) ++
    s.orders.map orderLine ++
    ["Total unigrams: " ++ Text.ofNat s.totalUnigrams,
      "Indexing time: " ++ Text.ofNat s.elapsed ++ "ms"]

/-- The lines that describe an index. -/
def statsLines (indexDir : Text) (size : Nat) (m : IndexMeta) : List Text :=
  [("Index Statistics:" : Text), rule 16,
    "Index directory: " ++ indexDir,
    "Source directory: " ++ m.sourceDir,
    "Created: " ++ m.createdAt.render "+00:00",
    "Indexed orders: " ++ Text.ofNat m.minOrder ++ "..=" ++ Text.ofNat m.maxOrder,
    "Case folded: " ++ (if m.foldsCase then "true" else "false"),
    "Total unigrams: " ++ Text.ofNat m.totalUnigrams,
    "Index size: " ++ sizeText size] ++
  m.orders.map fun s =>
    "  order " ++ Text.ofNat s.order ++ ": " ++ Text.ofNat s.grams ++ " grams"

/-- The lines of a report for a human reader. -/
def lines (verbosity : Nat) : Report → List Text
  | index indexDir s => indexLines verbosity indexDir s
  | split words => words.flatMap (SplitReport.lines verbosity)
  | rank words => words.flatMap (RankReport.lines verbosity)
  | best words => words.map BestReport.line
  | stats indexDir size m => statsLines indexDir size m

/-- A report in JSON. -/
def toJson : Report → Json
  | index indexDir s => .object [("index_dir", .text indexDir), ("stats", s.toJson)]
  | split words => .list (words.map SplitReport.toJson)
  | rank words => .list (words.map RankReport.toJson)
  | best words => .list (words.map BestReport.toJson)
  | stats indexDir size m =>
    .object [("index_dir", .text indexDir), ("index_size_bytes", .ofNat size), ("meta", m.toJson)]

/-- A report of a command that has taken so many milliseconds. -/
def taking (elapsed : Nat) : Report → Report
  | index indexDir s => index indexDir { s with elapsed }
  | r => r

/-- **The text of a report**, in the form that the arguments ask for. -/
def render (a : Arguments) (r : Report) : Text :=
  let lines := match a.format with
    | .human => r.lines a.verbosity
    | .json => [if a.pretty then r.toJson.pretty else r.toJson.compact]
  lines.flatMap (· ++ ['\n'])

end Report

end Kompositum
