import Kompositum.Candidate.Format
import Kompositum.Candidate.Tree
import Kompositum.Lexicon.Morphemes
import Kompositum.Text.Blank
import Kompositum.Text.Table

/-!
# Readings from a morphological analysis

An analyzer gives every reading of a word as a flat list of parts. Parts that are linking
morphemes join the constituent before them, and coarse readings are put above finer ones.

* `Analyses.ofLines`: the analyses of a file.
* `Analyzed.candidate`: the candidate of a list of parts.
* `Analyzed.split`: the tree of all readings that spell the word.
-/

namespace Kompositum

/-- Lists of parts for every word, in the order in which they were given. -/
structure Analyses where
  table : Text.Table (List (List Text))
deriving DecidableEq, Repr

namespace Analyses

/-- No analyses. -/
def empty : Analyses := ⟨[]⟩

/-- One more analysis of a word, in whatever case. -/
def insert (a : Analyses) (word : Text) (parts : List Text) : Analyses :=
  ⟨a.table.alter (Text.lower word) fun known => some (known.getD [] ++ [parts])⟩

/-- The analyses of a word, in whatever case. -/
def ofWord (a : Analyses) (word : Text) : List (List Text) :=
  (a.table.get? (Text.lower word)).getD []

/-- The word and the parts of a line: a tab ends the word, plus signs end the parts, and neither
the word nor a part is blank. -/
def entry? (line : Text) : Option (Text × List Text) := do
  let (word, rest) ← Text.cutAt? '\t' line
  let parts := (Text.splitOn '+' (Text.trim rest)).map Text.trim
  if (Text.trim word).isEmpty || parts.any (·.isEmpty) then none
  else some (Text.trim word, parts)

/-- Whether a line is blank or a comment. -/
def isSilent (line : Text) : Bool := Text.isBlankText line || line.head? == some '#'

/-- **The analyses of a file**, one to a line; malformed lines have none. -/
def ofLines (t : Text) : Analyses :=
  let ls := ((Text.lines t).map Text.dropReturns).filter (!isSilent ·)
  (ls.filterMap entry?).foldl (fun a e => a.insert e.1 e.2) empty

/-- The number of words that have an analysis. -/
def size (a : Analyses) : Nat := a.table.length

end Analyses

/-- What splitting by an analyzer needs to know. The analyzer may fail on a word. -/
structure Analyzed where
  morphemes : Morphemes
  analyze : Text → Option (List (List Text))

namespace Forest

/-- The number of the deepest node that a candidate refines, on the path that always goes to the
first such child; `above` is the node above the forest. -/
def deepest (c : Candidate) (above : Nat) : Forest → Nat
  | nil => above
  | node id value below next =>
    if c.Refines value then below.deepest c id else next.deepest c above

end Forest

namespace Analyzed

variable (s : Analyzed)

/-- One more part: a morpheme of the fragment before it, or a fragment. -/
def attach (done : List Fragment) (part : Text) : List Fragment :=
  match done.getLast? with
  | some last =>
    if last.morpheme.isNone && s.morphemes.contains part then
      done.dropLast ++ [.linked last.word part]
    else done ++ [.plain part]
  | none => [.plain part]

/-- **The candidate of a list of parts.** A linking morpheme joins the fragment before it, if that
has none yet. -/
def candidate (parts : List Text) : Candidate :=
  .ofFragments ((parts.map Text.lower).foldl s.attach [])

/-- The readings among some analyses: the split candidates that spell the word, in the order of
the analyses, without those whose text has been met before. -/
def readings (w : Text) (analyses : List (List Text)) : List Candidate :=
  ((analyses.map s.candidate).filter fun c => decide (c.Partitions w) && c.isSplit).eraseDupsBy
    fun c d => c.render == d.render

/-- A tree with one more reading, below the deepest one that it refines. -/
def nest (t : Tree) (c : Candidate) : Tree := (t.addChild (t.below.deepest c 0) c).toOption.getD t

/-- **The tree of all readings that spell the word**, coarse ones above finer ones. The empty word
has none, nor has a word on which the analyzer fails. -/
def split (w : Text) : Tree :=
  let t := Tree.single (.ofWord w)
  if w.isEmpty then t
  else
    let found := s.readings w ((s.analyze w).getD [])
    (found.mergeSort fun c d => c.size ≤ d.size).foldl nest t

end Analyzed

end Kompositum
