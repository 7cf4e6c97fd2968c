import Kompositum.Candidate.Tree
import Kompositum.Count
import Kompositum.Lexicon.Morphemes
import Kompositum.Lexicon.Trie
import Kompositum.Text.Cluster

/-!
# Splitting into one head and one tail

Dictionary words that begin a word are heads, dictionary words that end it are tails, and what
lies between the two is the linking morpheme. A head that few longer words begin with, and a tail
that few longer words end with, are likely constituents; tries over the dictionary count these.

* `HeadTail.pairs`: the admissible heads and tails.
* `HeadTail.better`: which of two pairs is preferred.
* `HeadTail.split`: the word and the preferred reading.
* `HeadTail.run`: the same with lengths that may overflow.
-/

namespace Kompositum

/-- Which heads and tails are admissible. -/
structure HeadTailOptions where
  /-- The least length of a head or tail. -/
  minFragmentLength : Nat := 2
  /-- The greatest length of what lies between. -/
  maxMorphemeLength : Nat := 2
  /-- Whether what lies between has to be a known linking morpheme. -/
  requireMorpheme : Bool := false
deriving DecidableEq, Repr

/-- The least length of a word with a head and a tail. -/
def HeadTailOptions.leastLength (o : HeadTailOptions) : Nat := 2 * max o.minFragmentLength 1

/-- What stops a program that splits a word. -/
inductive SplitFault where
  /-- The least length of a word with a head and a tail exceeds the largest count. -/
  | lengthOverflow (least : Nat)
deriving DecidableEq, Repr

/-- What splitting into head and tail needs to know. -/
structure HeadTail where
  dictionary : Dictionary
  morphemes : Morphemes
  options : HeadTailOptions
  forward : Trie
  reverse : Trie
  /-- Where words may be cut. -/
  cuts : Text.Cuts := Text.clusters

/-- The end of a head or the beginning of a tail, and the number of dictionary words that continue
it. -/
structure Edge where
  position : Nat
  successors : Nat
deriving DecidableEq, Repr

namespace HeadTail

/-- The splitter over a dictionary. -/
def ofDictionary (d : Dictionary) (ms : Morphemes) (o : HeadTailOptions)
    (cuts : Text.Cuts := Text.clusters) : HeadTail :=
  { dictionary := d, morphemes := ms, options := o, cuts
    forward := .ofDictionary .forward d, reverse := .ofDictionary .reverse d }

variable (s : HeadTail)

/-- Whether a text can be a head or a tail. -/
def isConstituent (t : Text) : Bool :=
  s.options.minFragmentLength ≤ t.length && s.dictionary.contains t

/-- The ends of heads. -/
def heads (w : Text) : List Edge :=
  (s.cuts.positions w).filterMap fun i =>
    let head := w.take i
    if s.isConstituent head then some ⟨i, s.forward.successors head⟩ else none

/-- The beginnings of tails. -/
def tails (w : Text) : List Edge :=
  (s.cuts.positions w).filterMap fun i =>
    let tail := w.drop i
    if s.isConstituent tail then some ⟨i, s.reverse.successors (s.reverse.key tail)⟩ else none

/-- Whether a text may lie between a head and a tail. -/
def acceptsGap (gap : Text) : Bool :=
  gap.length ≤ s.options.maxMorphemeLength &&
    (!s.options.requireMorpheme || gap.isEmpty || s.morphemes.contains gap)

/-- What lies between the end of a head and the beginning of a tail. -/
def gap (w : Text) (head tail : Edge) : Text :=
  (w.take tail.position).drop head.position

/-- **The admissible heads and tails** of a word. -/
def pairs (w : Text) : List (Edge × Edge) :=
  (s.heads w).flatMap fun head =>
    ((s.tails w).filter fun tail =>
      head.position ≤ tail.position && s.acceptsGap (gap w head tail)).map fun tail => (head, tail)

/-- The number of words that continue the head or the tail. -/
def continuations (p : Edge × Edge) : Nat := p.1.successors + p.2.successors

/-- The length of what lies between. -/
def gapLength (p : Edge × Edge) : Nat := p.2.position - p.1.position

/-- **Which of two pairs is preferred**: the one with the shorter gap, of these the one with fewer
continuations, then the one with the longer tail, then the one with the longer head. -/
def better (p q : Edge × Edge) : Bool :=
  if gapLength p ≠ gapLength q then gapLength p < gapLength q
  else if continuations p ≠ continuations q then continuations p < continuations q
  else if p.2.position ≠ q.2.position then p.2.position < q.2.position
  else q.1.position < p.1.position

/-- The first pair to which no later one is preferred. -/
def best? : List (Edge × Edge) → Option (Edge × Edge)
  | [] => none
  | p :: ps =>
    match best? ps with
    | none => some p
    | some q => some (if better q p then q else p)

/-- The reading with a given head and tail. -/
def reading (w : Text) (p : Edge × Edge) : Candidate :=
  .ofFragments [.linked (w.take p.1.position) (gap w p.1 p.2), .plain (w.drop p.2.position)]

/-- The preferred reading of a word in the form in which the dictionary keeps words. -/
def preferred? (w : Text) : Option Candidate := (best? (s.pairs w)).map (reading w)

/-- A word as it is written, and below it the preferred reading, if there is one. -/
def attached (w : Text) : Tree :=
  let t := Tree.single (.ofWord w)
  match s.preferred? (s.dictionary.normalize w) with
  | some c => (t.addChild 0 c).toOption.getD t
  | none => t

/-- Whether a word is to be split at all: the dictionary lacks it, and it is long enough for a
head and a tail. -/
def isOpen (w : Text) : Bool := !s.dictionary.contains w && s.options.leastLength ≤ w.length

/-- **The word as it is written, and below it the preferred reading**, if the word is to be
split. -/
def split (w : Text) : Tree := if s.isOpen w then s.attached w else .single (.ofWord w)

/-- **The tree that a program computes.** It doubles the least length of a head or tail for words
that the dictionary lacks, and the product may overflow. -/
def run (o : Count.Overflow) (w : Text) : Except SplitFault Tree :=
  if s.dictionary.contains w then .ok (.single (.ofWord w))
  else match Count.mul? o 2 (max s.options.minFragmentLength 1) with
    | none => .error (.lengthOverflow s.options.leastLength)
    | some least => .ok (if least ≤ w.length then s.attached w else .single (.ofWord w))

end HeadTail

end Kompositum
