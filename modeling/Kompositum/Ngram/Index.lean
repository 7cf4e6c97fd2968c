import Kompositum.Json.Parser
import Kompositum.Json.Printer
import Kompositum.Json.Record
import Kompositum.Ngram.CountFile
import Kompositum.Time.Moment

/-!
# What an index says of itself

An index is a segment for every order in a range, and a file that describes them.

* `IndexMeta`: the description of an index.
* `IndexMeta.load`, `IndexMeta.save`: the description in a storage.
-/

namespace Kompositum

/-- How an order was indexed. -/
structure OrderStats where
  order : Nat
  /-- The number of different grams. -/
  grams : Nat
  /-- The sum of all counts. -/
  totalFreq : Nat
  /-- The number of lines left out. -/
  malformedLines : Nat
deriving DecidableEq, Repr

/-- How an index was built. -/
structure IndexStats where
  orders : List OrderStats
  totalUnigrams : Nat
  /-- The time that it took, in milliseconds. -/
  elapsed : Nat
deriving DecidableEq, Repr

/-- The description of an index. -/
structure IndexMeta where
  version : Nat
  minOrder : Nat
  maxOrder : Nat
  foldsCase : Bool
  orders : List OrderStats
  totalUnigrams : Nat
  createdAt : Moment
  /-- The folder with the counts of the corpus. -/
  sourceDir : Text
deriving DecidableEq, Repr

namespace OrderStats

/-- The statistics of an order in JSON. -/
def toJson (s : OrderStats) : Json :=
  .object [("order", .ofNat s.order), ("grams", .ofNat s.grams), ("total_freq", .ofNat s.totalFreq),
    ("malformed_lines", .ofNat s.malformedLines)]

/-- The statistics of an order from JSON. -/
def ofJson? (j : Json) : Option OrderStats := do
  match ← j.slots? ["order", "grams", "total_freq", "malformed_lines"] with
  | [order, grams, totalFreq, malformedLines] =>
    return ⟨← order.required? Json.nat?, ← grams.required? Json.nat?,
      ← totalFreq.required? Json.nat?, ← malformedLines.required? Json.nat?⟩
  | _ => none

end OrderStats

namespace IndexStats

/-- The number of grams of all orders. -/
def totalGrams (s : IndexStats) : Nat := (s.orders.map OrderStats.grams).foldl (· + ·) 0

/-- The number of lines left out of all orders. -/
def malformedLines (s : IndexStats) : Nat := (s.orders.map OrderStats.malformedLines).foldl (· + ·) 0

/-- The statistics of an index in JSON. -/
def toJson (s : IndexStats) : Json :=
  .object [("orders", .list (s.orders.map OrderStats.toJson)),
    ("total_unigrams", .ofNat s.totalUnigrams), ("elapsed_ms", .ofNat s.elapsed)]

/-- The statistics of an index from JSON. -/
def ofJson? (j : Json) : Option IndexStats := do
  match ← j.slots? ["orders", "total_unigrams", "elapsed_ms"] with
  | [orders, totalUnigrams, elapsed] =>
    return ⟨← orders.required? (Json.list? OrderStats.ofJson?), ← totalUnigrams.required? Json.nat?,
      ← elapsed.required? Json.nat?⟩
  | _ => none

end IndexStats

namespace IndexMeta

/-- The name of the file with the description. -/
def fileName : Text := "meta.json"

/-- Whether there is a segment of an order. -/
def isIndexed (m : IndexMeta) (order : Nat) : Bool := m.orders.any fun s => s.order == order

/-- The description of an index in JSON. -/
def toJson (m : IndexMeta) : Json :=
  .object [("version", .ofNat m.version), ("min_order", .ofNat m.minOrder),
    ("max_order", .ofNat m.maxOrder), ("lowercase", .truth m.foldsCase),
    ("orders", .list (m.orders.map OrderStats.toJson)), ("total_unigrams", .ofNat m.totalUnigrams),
    ("created_at", .text (m.createdAt.render ['Z'])), ("source_dir", .text m.sourceDir)]

/-- A version from JSON, a number below 2³². -/
def version? (j : Json) : Option Nat := j.nat?.filter (· < Record.wordBound)

/-- The description of an index from JSON. -/
def ofJson? (j : Json) : Option IndexMeta := do
  match ← j.slots? ["version", "min_order", "max_order", "lowercase", "orders", "total_unigrams",
      "created_at", "source_dir"] with
  | [version, minOrder, maxOrder, foldsCase, orders, totalUnigrams, createdAt, sourceDir] =>
    return {
      version := ← version.required? version?
      minOrder := ← minOrder.required? Json.nat?
      maxOrder := ← maxOrder.required? Json.nat?
      foldsCase := ← foldsCase.required? Json.truth?
      orders := ← orders.required? (Json.list? OrderStats.ofJson?)
      totalUnigrams := ← totalUnigrams.required? Json.nat?
      createdAt := ← createdAt.required? fun j => j.text?.bind Moment.ofText?
      sourceDir := ← sourceDir.required? Json.text? }
  | _ => none

/-- **The description of the index in a storage.** -/
def load {σ : Type} [Store σ] (s : σ) : Except Error IndexMeta :=
  match Store.read s fileName with
  | .ok bytes =>
    match (Json.parse? bytes).bind ofJson? with
    | some m => .ok m
    | none => .error .json
  | .error (.unreadable _) => .error .json
  | .error fault => .error (.store fault)

/-- **A storage with the description of an index.** -/
def save {σ : Type} [Store σ] (m : IndexMeta) (s : σ) : Except Error σ :=
  (Store.write s fileName (Utf8.encode m.toJson.pretty)).mapError .store

end IndexMeta

end Kompositum
