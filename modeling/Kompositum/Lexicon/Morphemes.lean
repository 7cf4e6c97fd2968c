import Kompositum.Text.Blank
import Kompositum.Text.Lower
import Kompositum.Text.Table

/-!
# Linking morphemes

German puts short morphemes between the constituents of a compound: *Aktion-s-plan*,
*Garage-n-einfahrt*. A set of them is kept in the order in which they were given, in small
letters and without repetitions, and a second time in a table, where they are looked up. The empty
text is never a member: no morpheme is the absence of one.

* `Morphemes.insert`: a set with one more morpheme.
* `Morphemes.german`: the usual German ones.
* `Morphemes.ofLines`: the morphemes of a file, one to a line.
-/

namespace Kompositum

/-- Linking morphemes in the order in which they were given, and the same ones for looking up. -/
structure Morphemes where
  toList : List Text
  /-- The morphemes in ascending order. -/
  members : Text.Table Unit
  nodup : toList.Nodup
  ne_nil : ∀ m ∈ toList, m ≠ []
  mem_members : ∀ m, members.contains m = true ↔ m ∈ toList
deriving DecidableEq, Repr

namespace Morphemes

/-- No morphemes. -/
def empty : Morphemes where
  toList := []
  members := []
  nodup := .nil
  ne_nil := nofun
  mem_members _ := by simp [Text.Table.contains, Text.Table.get?]

/-- Whether a text is a morpheme, in whatever case. -/
def contains (ms : Morphemes) (m : Text) : Bool :=
  !m.isEmpty && ms.members.contains (Text.lower m)

/-- Whether a text would be new to a set. -/
def isNew (ms : Morphemes) (m : Text) : Bool :=
  !(Text.lower m).isEmpty && !ms.members.contains (Text.lower m)

theorem isNew_iff {ms : Morphemes} {m : Text} :
    ms.isNew m = true ↔ Text.lower m ≠ [] ∧ Text.lower m ∉ ms.toList := by
  simp [isNew, ← ms.mem_members]

/-- **A set with one more morpheme**, unchanged if the morpheme is empty or known. -/
def insert (ms : Morphemes) (m : Text) : Morphemes :=
  if h : ms.isNew m then
    { toList := ms.toList ++ [Text.lower m]
      members := ms.members.insert (Text.lower m) ()
      nodup := by
        have := (isNew_iff.1 h).2
        exact List.nodup_append.2 ⟨ms.nodup, by simp, fun a ha b hb => by
          obtain rfl := List.mem_singleton.1 hb
          exact fun hab => this (hab ▸ ha)⟩
      ne_nil := fun a ha => (List.mem_append.1 ha).elim (ms.ne_nil a) fun ha => by
        obtain rfl := List.mem_singleton.1 ha
        exact (isNew_iff.1 h).1
      mem_members := fun a => by
        rw [Text.Table.contains_insert_iff, ms.mem_members, List.mem_append, List.mem_singleton,
          or_comm] }
  else ms

/-- The morphemes of a list, in order. -/
def ofList (ts : List Text) : Morphemes := ts.foldl insert empty

/-- The usual German morphemes. -/
def german : Morphemes := ofList ["s", "es", "n", "en", "e", "er", "ens", "nen"]

/-- The morphemes of a file, one to a line. White space around a line has no meaning, and lines
that begin with `#` are comments. -/
def ofLines (t : Text) : Morphemes :=
  ofList (((Text.lines t).map Text.trim).filter fun line => line.head? != some '#')

/-- The number of morphemes. -/
def size (ms : Morphemes) : Nat := ms.toList.length

/-- The length of the longest morpheme. -/
def longest (ms : Morphemes) : Nat := (ms.toList.map List.length).foldl max 0

end Morphemes

end Kompositum
