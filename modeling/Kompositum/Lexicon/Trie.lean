import Kompositum.Lexicon.Dictionary

/-!
# Tries that count continuations

A trie shares the beginnings of its keys. Every node stands for one beginning and counts how many
added keys go on after it. The count is small where words branch and zero where a word is no
beginning of another, which hints at a boundary between constituents.

* `Trie.add`: a trie with one more key.
* `Trie.find?`: the node of a beginning, with its count and the number of its branches.
* `Trie.ofDictionary`: the words of a dictionary, or the words read from their ends.
-/

namespace Kompositum

/-- The continuations of one beginning: the first with its own continuations, and the others. -/
inductive Branches where
  | nil
  | branch (letter : Char) (extended : Nat) (below next : Branches)
deriving DecidableEq, Repr

namespace Branches

/-- The number of branches. -/
def width : Branches → Nat
  | nil => 0
  | branch _ _ _ next => 1 + next.width

/-- The number of nodes. -/
def size : Branches → Nat
  | nil => 0
  | branch _ _ below next => 1 + below.size + next.size

/-- The node for a letter after the beginning. -/
def step? (c : Char) : Branches → Option (Nat × Branches)
  | nil => none
  | branch d n below next => if c = d then some (n, below) else next.step? c

/-- Whether a key with this rest goes on, as a number. -/
def continues (rest : Text) : Nat := if rest.isEmpty then 0 else 1

/-- The nodes of one key. -/
def chain : Text → Branches
  | [] => nil
  | c :: t => branch c (continues t) (chain t) nil

/-- One more key. -/
def add : Text → Branches → Branches
  | [], b => b
  | c :: t, nil => chain (c :: t)
  | c :: t, branch d n below next =>
    if c = d then branch d (n + continues t) (add t below) next
    else branch d n below (add (c :: t) next)

/-- The node of the beginning that the letters lead to, with its count. -/
def find? (n : Nat) (b : Branches) : Text → Option (Nat × Branches)
  | [] => some (n, b)
  | c :: t => (b.step? c).bind fun (m, below) => find? m below t

end Branches

/-- The end of the words from which keys are read. -/
inductive Direction where
  | forward | reverse
deriving DecidableEq, Repr

/-- A node of a trie. -/
structure TrieNode where
  /-- The number of added keys that go on after the node. -/
  successors : Nat
  /-- The number of different letters that follow it. -/
  branching : Nat
deriving DecidableEq, Repr

/-- Keys that share their beginnings, in small letters if the trie folds case. -/
structure Trie where
  direction : Direction
  foldsCase : Bool
  branches : Branches
deriving DecidableEq, Repr

namespace Trie

/-- A trie without keys. -/
def empty (direction : Direction) (foldsCase : Bool) : Trie := ⟨direction, foldsCase, .nil⟩

/-- The form in which a trie keeps a key. -/
def fold (t : Trie) (key : Text) : Text := if t.foldsCase then Text.lower key else key

/-- The key of a word: the word, or the word read from its end. -/
def key (t : Trie) (w : Text) : Text :=
  match t.direction with
  | .forward => w
  | .reverse => w.reverse

/-- **A trie with one more key.** -/
def add (t : Trie) (key : Text) : Trie := { t with branches := t.branches.add (t.fold key) }

/-- **The node of a beginning**, none if no key has it. The empty beginning has no node. -/
def find? (t : Trie) (start : Text) : Option TrieNode :=
  if start.isEmpty then none
  else (t.branches.find? 0 (t.fold start)).map fun (n, b) => ⟨n, b.width⟩

/-- The number of added keys that go on after a beginning. -/
def successors (t : Trie) (start : Text) : Nat := ((t.find? start).map TrieNode.successors).getD 0

/-- The number of nodes, one for every beginning of a key. -/
def size (t : Trie) : Nat := t.branches.size

/-- **The words of a dictionary**, read in the given direction. -/
def ofDictionary (direction : Direction) (d : Dictionary) : Trie :=
  let t := empty direction d.foldsCase
  d.words.foldl (fun t w => t.add (t.key w)) t

end Trie

end Kompositum
