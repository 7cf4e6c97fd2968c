import Kompositum.Ngram.Index
import Kompositum.Ngram.Segment.Storage
import Kompositum.Storage.Directory
import Kompositum.Storage.Memory

/-!
# Building an index

The counts of every order in a range become a segment. Lower orders are left to their count files,
which then have to be there whenever the index is used.

* `Indexer.counts`: the counts of a file, those of one gram added up.
* `Indexer.into`: the index of a corpus, put into a storage.
* `Indexer.intoFolder`: the index of a corpus, put into a folder.
-/

namespace Kompositum

/-- Which counts are indexed, and where the index goes. -/
structure IndexOptions where
  sourceDir : Text := "ngrams"
  indexDir : Text := "index"
  minOrder : Nat := 1
  maxOrder : Nat := 5
  foldsCase : Bool := true
deriving DecidableEq, Repr

/-- Whether there are orders to be indexed. -/
def IndexOptions.validate (o : IndexOptions) : Except Error Unit :=
  if o.minOrder = 0 then .error (.options .lowestOrderZero)
  else if o.maxOrder < o.minOrder then .error (.options (.ordersReversed o.minOrder o.maxOrder))
  else .ok ()

namespace Indexer

/-- Whether a gram has as many tokens as its order says. -/
def hasOrder (order : Nat) (e : Text × Nat) : Bool := (Ngram.pieces e.1).length == order

/-- Counts with those of one more entry. -/
def merge (counts : Text.Table Nat) (e : Text × Nat) : Text.Table Nat :=
  counts.alter e.1 fun n => some (Count.add (n.getD 0) e.2)

/-- **The counts of a file**, those of one gram added up; grams of other orders are left out. -/
def counts (foldsCase : Bool) (order : Nat) (f : CountFile) : Text.Table Nat :=
  ((f.entries foldsCase).filter (hasOrder order)).foldl merge []

/-- The number of lines of a file that are malformed or have grams of other orders. -/
def skipped (foldsCase : Bool) (order : Nat) (f : CountFile) : Nat :=
  f.malformed foldsCase + (f.entries foldsCase).countP (!hasOrder order ·)

/-- The segment of some counts, unless they are too many. -/
def segment (order : Nat) (counts : Text.Table Nat) : Except Error Segment :=
  if Segment.maxGrams < counts.length then .error (.index (.tooManyGrams order counts.length))
  else .ok (.ofCounts order counts)

/-- What is said of an order. -/
def stats (s : Segment) (skipped : Nat) : OrderStats := ⟨s.order, s.size, s.totalFreq, skipped⟩

/-- Working with a storage, whose changes stay when an error ends the work. -/
abbrev Work (σ : Type) := ExceptT Error (StateM σ)

variable {σ : Type} [Store σ]

/-- A change of the storage. -/
def change (f : σ → Except Error σ) : Work σ Unit := do
  set (← f (← get))

/-- The segments of an earlier index deleted. -/
def clear : List Text → Work σ Unit
  | [] => return
  | name :: names => do
    if Segment.isFileName name then change fun s => (Store.delete s name).mapError .store
    clear names

/-- The segment of an order, put into the storage. -/
def indexOrder (foldsCase : Bool) (order : Nat) (f : CountFile) : Work σ OrderStats := do
  let s ← segment order (counts foldsCase order f)
  change s.save
  return stats s (skipped foldsCase order f)

/-- The segments of some orders, put into the storage one after the other. -/
def indexOrders (foldsCase : Bool) : List (Nat × CountFile) → Work σ (List OrderStats)
  | [] => return []
  | (order, f) :: rest => do
    let s ← indexOrder foldsCase order f
    return s :: (← indexOrders foldsCase rest)

/-- The number of tokens of the corpus: the sum in the count file of the first order, or in its
segment if it has one. -/
def totalUnigrams (left : List (Nat × CountFile)) (orders : List OrderStats) : Nat :=
  match left, orders with
  | (_, f) :: _, _ => f.total
  | [], s :: _ => s.totalFreq
  | [], [] => 0

/-- What an index that has been built says of itself. -/
def about (o : IndexOptions) (now : Moment) (files : Files) (s : IndexStats) : IndexMeta where
  version := Segment.version
  minOrder := o.minOrder
  maxOrder := o.maxOrder
  foldsCase := o.foldsCase
  orders := s.orders
  totalUnigrams := s.totalUnigrams
  createdAt := now
  sourceDir := Path.absolute files.homePath o.sourceDir

/-- **The index of a corpus, put into a storage**, which takes `elapsed` milliseconds. Nothing is
changed unless all count files are there. -/
def into (o : IndexOptions) (now : Moment) (elapsed : Nat) (files : Files) :
    Work σ IndexStats := do
  let left ← CountFile.ofOrders? files o.sourceDir 1 (o.minOrder - 1)
  let sources ← CountFile.ofOrders? files o.sourceDir o.minOrder (o.maxOrder + 1 - o.minOrder)
  clear (Store.names (← get))
  let orders ← indexOrders o.foldsCase sources
  let stats : IndexStats := ⟨orders, totalUnigrams left orders, elapsed⟩
  change (about o now files stats).save
  return stats

/-- **The index of a corpus, put into a folder**, which is made if it is missing. -/
def intoFolder (o : IndexOptions) (now : Moment) (elapsed : Nat) (files : Files) :
    Except Error IndexStats × Files :=
  match o.validate with
  | .error e => (.error e, files)
  | .ok _ =>
    let made := if files.holds o.indexDir then .ok files else files.makeFolders o.indexDir
    match made with
    | .error cause => (.error (.load o.indexDir cause), files)
    | .ok files =>
      match Directory.open? files o.indexDir with
      | .error fault => (.error (.store fault), files)
      | .ok d =>
        let (r, d) := (into o now elapsed files).run d
        (r, d.files)

end Indexer

end Kompositum
