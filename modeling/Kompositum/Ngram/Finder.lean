import Kompositum.Ngram.Indexer
import Kompositum.Ranking.Frequency

/-!
# Looking up grams

A finder answers from the segments of an index; for the orders below those it scans the count
files. It answers until it is closed.

* `Finder.find`: the grams that contain a query.
* `Finder.freq`: how often a gram occurs.
* `Finder.closing`: work with a finder that is closed at the end.
-/

namespace Kompositum

/-- Where the grams of an order are found. -/
inductive GramSource where
  | segment (s : Segment)
  | counts (f : CountFile)
deriving DecidableEq, Repr

/-- An index that is ready for use: its description and the sources of its orders. -/
structure Index where
  about : IndexMeta
  sources : List (Nat × GramSource)
deriving DecidableEq, Repr

namespace CountFile

/-- The grams of an order that contain the tokens of a query one after the other, and their counts
added up, in ascending order. -/
def find (f : CountFile) (order : Nat) (query : List Text) (foldsCase : Bool) : List Gram :=
  if order < query.length then []
  else
    let found := (Indexer.counts foldsCase order f).filter fun e =>
      Ngram.containsRun (Ngram.pieces e.1) query
    found.map fun (gram, n) => ⟨gram, order, n⟩

/-- The sum of the counts of a gram. -/
def freq (f : CountFile) (gram : Text) (foldsCase : Bool) : Nat :=
  ((f.entries foldsCase).filter fun e => e.1 == gram).foldl (fun n e => Count.add n e.2) 0

end CountFile

namespace GramSource

/-- The grams of an order that contain the tokens of a query one after the other. -/
def find (foldsCase : Bool) (query : List Text) (order : Nat) : GramSource → List Gram
  | segment s => s.find query
  | counts f => f.find order query foldsCase

/-- How often a gram occurs. -/
def freq (foldsCase : Bool) (gram : Text) : GramSource → Nat
  | segment s => (s.freq? gram).getD 0
  | counts f => f.freq gram foldsCase

end GramSource

namespace Index

/-- The segment of an order, as it is described. -/
def segment {σ : Type} [Store σ] (s : σ) (stats : OrderStats) :
    Except Error (Nat × GramSource) := do
  let segment ← Segment.load stats.order s
  if segment.size ≠ stats.grams then
    .error (.index (.otherCount stats.order segment.size stats.grams))
  else return (stats.order, .segment segment)

/-- **The index in a storage.** The count files of the orders that it leaves out have to be
there. -/
def load {σ : Type} [Store σ] (files : Files) (s : σ) : Except Error Index := do
  let about ← IndexMeta.load s
  let left ← CountFile.ofOrders? files about.sourceDir 1 (about.minOrder - 1)
  let segments ← about.orders.mapM (segment s)
  return ⟨about, left.map (fun (order, f) => (order, .counts f)) ++ segments⟩

/-- **The grams that contain the tokens of a query one after the other**, order by order. -/
def find (i : Index) (query : Text) : List Gram :=
  let tokens := Ngram.tokenize i.about.foldsCase query
  if tokens.isEmpty then []
  else i.sources.flatMap fun (order, source) => source.find i.about.foldsCase tokens order

/-- **How often a gram occurs**, 0 if the index does not have its order. -/
def freq (i : Index) (gram : Text) : Nat :=
  let tokens := Ngram.tokenize i.about.foldsCase gram
  if tokens.isEmpty then 0
  else match i.sources.lookup tokens.length with
    | some source => source.freq i.about.foldsCase (Ngram.unwords tokens)
    | none => 0

end Index

/-- Access to an index. The index is given up when the finder is closed. -/
structure Finder where
  location : Text
  index : Option Index
deriving DecidableEq, Repr

namespace Finder

/-- The finder for the index in a storage. -/
def ofStore {σ : Type} [Store σ] (files : Files) (s : σ) (location : Text) : Except Error Finder :=
  return ⟨location, ← Index.load files s⟩

/-- The finder for the index in a folder. -/
def ofFolder (files : Files) (path : Text) : Except Error Finder := do
  ofStore files (← (Directory.open? files path).mapError .store) path

/-- The index, unless the finder is closed. -/
def opened (f : Finder) : Except Error Index :=
  match f.index with
  | some i => .ok i
  | none => .error (.closed f.location)

/-- Whether the finder answers. -/
def isOpen (f : Finder) : Bool := f.index.isSome

/-- A finder that answers no more. -/
def close (f : Finder) : Finder := { f with index := none }

/-- **The grams that contain the tokens of a query one after the other**, order by order. -/
def find (f : Finder) (query : Text) : Except Error (List Gram) := f.opened.map (·.find query)

/-- **How often a gram occurs.** -/
def freq (f : Finder) (gram : Text) : Except Error Nat := f.opened.map (·.freq gram)

/-- How many tokens the corpus has. -/
def totalUnigrams (f : Finder) : Except Error Nat := f.opened.map (·.about.totalUnigrams)

/-- The description of the index. -/
def about (f : Finder) : Except Error IndexMeta := f.opened.map Index.about

/-- The orders that can be looked up. -/
def orders (f : Finder) : Except Error (List Nat) :=
  f.opened.map fun i => i.sources.map Prod.fst

/-- A finder as a source of frequencies. -/
def frequencies (f : Finder) : Frequencies Error := ⟨f.freq, f.totalUnigrams⟩

/-- **Work with a finder that is closed at the end**, whether the work fails or not: its result,
and the finder as it is left behind. -/
def closing {α : Type} (found : Except Error Finder) (work : Finder → Except Error α) :
    Except Error α × Option Finder :=
  match found with
  | .error e => (.error e, none)
  | .ok f => (work f, some f.close)

end Finder

end Kompositum
