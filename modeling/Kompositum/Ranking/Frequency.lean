import Kompositum.Count
import Kompositum.Ngram.Gram
import Kompositum.Text.Table

/-!
# Corpus frequencies

Scores are computed from how often grams occur in a corpus. The frequencies may come from an
index, which can fail, or from a table.

* `Frequencies`: a source of frequencies, failing with an `ε`.
* `FrequencyTable.add`: a table with more occurrences of a gram.
-/

namespace Kompositum

/-- Where frequencies come from. -/
structure Frequencies (ε : Type) where
  /-- How often a gram occurs, 0 if it does not. -/
  freq : Text → Except ε Nat
  /-- How many tokens the corpus has. -/
  total : Except ε Nat

/-- Frequencies by the text of the gram in small letters, and the sum of those of single tokens. -/
structure FrequencyTable where
  counts : Text.Table Nat
  total : Nat
deriving DecidableEq, Repr

namespace FrequencyTable

/-- No occurrences. -/
def empty : FrequencyTable := ⟨[], 0⟩

/-- The text under which a table keeps a gram. -/
def key (gram : Text) : Text := Ngram.unwords (Ngram.tokenize true gram)

/-- **More occurrences of a gram.** Those of a single token count towards the total, and text
without tokens is no gram. -/
def add (t : FrequencyTable) (gram : Text) (count : Nat) : FrequencyTable :=
  match Ngram.tokenize true gram with
  | [] => t
  | tokens =>
    { counts := t.counts.alter (Ngram.unwords tokens) fun n => some (Count.add (n.getD 0) count)
      total := if tokens.length = 1 then Count.add t.total count else t.total }

/-- How often a gram occurs. -/
def freq (t : FrequencyTable) (gram : Text) : Nat := (t.counts.get? (key gram)).getD 0

/-- A table as a source of frequencies, which never fails. -/
def frequencies {ε : Type} (t : FrequencyTable) : Frequencies ε :=
  ⟨fun gram => .ok (t.freq gram), .ok t.total⟩

end FrequencyTable

end Kompositum
