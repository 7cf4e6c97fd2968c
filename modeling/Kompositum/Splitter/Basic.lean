import Kompositum.Splitter.Analyzed
import Kompositum.Splitter.Exhaustive
import Kompositum.Splitter.HeadTail

/-!
# Splitters

A splitter turns a word into a tree of candidates. It never fails: a word that it cannot split
gives the tree of the unsplit word. That a length may overflow on the way is left to
`HeadTail.run`.

* `Splitter.split`: the tree of a word.
-/

namespace Kompositum

/-- The ways of splitting a word. -/
inductive SplitterKind where
  | leftToRight | banana | external
deriving DecidableEq, Repr

/-- A way of splitting a word, and how it is to be done. -/
structure SplitterOptions where
  kind : SplitterKind := .leftToRight
  /-- The least length of a constituent when splitting from left to right. -/
  minWordLength : Nat := 2
  headTail : HeadTailOptions := {}
deriving DecidableEq, Repr

/-- The name of a way of splitting. -/
def SplitterKind.name : SplitterKind → Text
  | leftToRight => "left_to_right"
  | banana => "banana"
  | external => "external"

/-- A way of splitting words with all that it needs to know. -/
inductive Splitter where
  | exhaustive (s : Exhaustive)
  | headTail (s : HeadTail)
  | analyzed (s : Analyzed)

namespace Splitter

/-- The kind of a splitter. -/
def kind : Splitter → SplitterKind
  | exhaustive _ => .leftToRight
  | headTail _ => .banana
  | analyzed _ => .external

/-- The name of a splitter. -/
def name (s : Splitter) : Text := s.kind.name

/-- **The tree of a word.** -/
def split : Splitter → Text → Tree
  | exhaustive s, w => s.split w
  | headTail s, w => s.split w
  | analyzed s, w => s.split w

/-- The splitter of the chosen kind over a dictionary; an analyzer does not work with one. -/
def ofDictionary? (o : SplitterOptions) (d : Dictionary) (ms : Morphemes) : Option Splitter :=
  match o.kind with
  | .leftToRight => some (.exhaustive
      { dictionary := d, morphemes := ms, minWordLength := o.minWordLength })
  | .banana => some (.headTail (.ofDictionary d ms o.headTail))
  | .external => none

end Splitter

end Kompositum
