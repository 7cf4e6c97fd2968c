import Kompositum.Candidate.Format
import Kompositum.Json.Record
import Kompositum.Ngram.Gram
import Kompositum.Ranking.Basic

/-!
# Candidates and grams in JSON

A candidate is a text in JSON, the one that `Candidate.render` gives.
-/

namespace Kompositum

namespace Candidate

/-- A candidate in JSON. -/
def toJson (c : Candidate) : Json := .text c.render

/-- A candidate from JSON. -/
def ofJson? (j : Json) : Option Candidate := j.text?.bind fun t => (parse t).toOption

end Candidate

namespace Fragment

/-- A fragment in JSON. -/
def toJson (f : Fragment) : Json :=
  .object ((("word", .text f.word) : Text × Json) ::
    (f.morpheme.map fun m => (("morpheme" : Text), Json.text m)).toList)

/-- A fragment from JSON. -/
def ofJson? (j : Json) : Option Fragment := do
  match ← j.slots? ["word", "morpheme"] with
  | [word, morpheme] =>
    return ⟨← word.required? Json.text?, ← morpheme.orElse? (Json.nullable? Json.text?) none⟩
  | _ => none

end Fragment

namespace Gram

/-- A gram in JSON. -/
def toJson (g : Gram) : Json :=
  .object [("gram", .text g.text), ("n", .ofNat g.order), ("freq", .ofNat g.freq)]

/-- A gram from JSON. -/
def ofJson? (j : Json) : Option Gram := do
  match ← j.slots? ["gram", "n", "freq"] with
  | [text, order, freq] =>
    return ⟨← text.required? Json.text?, ← order.required? Json.nat?, ← freq.required? Json.nat?⟩
  | _ => none

end Gram

namespace Ranked

/-- A ranked candidate in JSON. -/
def toJson (r : Ranked) : Json :=
  .object [("candidate", r.candidate.toJson), ("score", .ofFloat r.score)]

/-- A ranked candidate from JSON. -/
def ofJson? (j : Json) : Option Ranked := do
  match ← j.slots? ["candidate", "score"] with
  | [candidate, score] =>
    return ⟨← candidate.required? Candidate.ofJson?, ← score.required? Json.float?⟩
  | _ => none

end Ranked

end Kompositum
