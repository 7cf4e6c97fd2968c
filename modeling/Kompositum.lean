import Kompositum.Decimal.Scientific
import Kompositum.Main
import Kompositum.Proofs.Candidate.Format
import Kompositum.Proofs.Candidate.Tree
import Kompositum.Proofs.Splitter.Exhaustive
import Kompositum.Proofs.Lookup
import Kompositum.Proofs.Outcome
import Kompositum.Proofs.Text.Pieces
import Kompositum.Proofs.Text.Table
import Kompositum.Proofs.Text.Utf8
import Kompositum.Proofs.Text.Digits
import Kompositum.Proofs.Json.Text
import Kompositum.Proofs.Json.RoundTrip
import Kompositum.Proofs.Time.Calendar
import Kompositum.Proofs.Time.Moment
import Kompositum.Proofs.Record.Reader
import Kompositum.Proofs.Record.Row
import Kompositum.Proofs.Record.Damage
import Kompositum.Proofs.Ngram.Segment.Codec
import Kompositum.Proofs.Ngram.Segment.Search
import Kompositum.Proofs.Ngram.Segment.Storage
import Kompositum.Proofs.Ngram.Counts
import Kompositum.Proofs.Files.Path
import Kompositum.Proofs.Files.Folder
import Kompositum.Proofs.Storage.Directory
import Kompositum.Proofs.Storage.Tabular
import Kompositum.Proofs.Storage.Outputs
import Kompositum.Proofs.Storage.Agreement
import Kompositum.Proofs.Ngram.Indexer
import Kompositum.Proofs.Ngram.Rebuilding
import Kompositum.Proofs.Ngram.Sizes
import Kompositum.Proofs.Ngram.Sources
import Kompositum.Proofs.Ngram.Answers
import Kompositum.Proofs.Ngram.Totals
import Kompositum.Proofs.Ngram.Reordering
import Kompositum.Proofs.Ngram.Frequencies
import Kompositum.Proofs.Ngram.Segment.Damage
import Kompositum.Proofs.Ngram.Segment.Overflow
import Kompositum.Proofs.Candidate.Refinement
import Kompositum.Proofs.Splitter.Analyzed
import Kompositum.Proofs.Text.Small
import Kompositum.Proofs.Ranking.Walk
import Kompositum.Proofs.Lexicon.Dictionary
import Kompositum.Proofs.Ranking.Score
import Kompositum.Proofs.Ranking.Table
import Kompositum.Proofs.Lexicon.Trie
import Kompositum.Proofs.Pipeline.Basic
import Kompositum.Proofs.Candidate.Additions
import Kompositum.Proofs.Lexicon.Beginnings
import Kompositum.Proofs.Text.Reverse
import Kompositum.Proofs.Lexicon.Directions
import Kompositum.Proofs.Lexicon.Affix
import Kompositum.Proofs.Lexicon.Entries
import Kompositum.Proofs.Ngram.Description
import Kompositum.Proofs.Splitter.Parts
import Kompositum.Proofs.Lexicon.Morphemes
import Kompositum.Proofs.Splitter.Inclusion
import Kompositum.Proofs.Splitter.Capitals
import Kompositum.Proofs.Splitter.Ascending
import Kompositum.Proofs.Storage.History
import Kompositum.Proofs.Storage.Visibility
import Kompositum.Proofs.Candidate.Grammar
import Kompositum.Proofs.Lexicon.AffixLines
import Kompositum.Proofs.Ranking.Magnitude
import Kompositum.Proofs.Ranking.Order
import Kompositum.Proofs.Ranking.Descent
import Kompositum.Proofs.Candidate.Cuts
import Kompositum.Proofs.Text.Strays
import Kompositum.Proofs.Candidate.LetterCase
import Kompositum.Proofs.Ranking.Optimum
import Kompositum.Proofs.Ngram.Segment.Scan
import Kompositum.Proofs.Record.Spelling
import Kompositum.Proofs.Ngram.Segment.Contents
import Kompositum.Proofs.Ngram.Segment.Soundness
import Kompositum.Proofs.Ngram.Accounts
import Kompositum.Proofs.Record.Groups
import Kompositum.Proofs.Record.Lookahead
import Kompositum.Proofs.Record.Verification
import Kompositum.Proofs.Ngram.Queries
import Kompositum.Proofs.Text.Trim
import Kompositum.Proofs.Splitter.Roles
import Kompositum.Proofs.Splitter.AnalysisLines
