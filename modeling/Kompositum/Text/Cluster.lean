import Kompositum.Character.ClusterClass
import Kompositum.Text.Basic

/-!
# Where a text may be cut

A text may be cut between two characters unless a reader sees one sign across the cut: a
carriage return with its line feed, a syllable of jamo, a base with its marks, two consonants
joined by a virama, emoji joined by a joiner, or the two halves of a flag.

* `joins`: whether the next character continues the sign before it.
* `Cuts`: a way of cutting texts.
* `clusters`: the cuts between signs.
-/

namespace Kompositum.Text

open Character

/-- How far the consonants before a position lead to a conjunct. -/
inductive Conjunct where
  | none | consonant | linked
deriving DecidableEq, Repr

/-- What has been read of the sign before a position. -/
structure SignState where
  last : ClusterClass
  /-- The number of regional indicators that end here is odd. -/
  oddRegional : Bool
  /-- An emoji and marks that extend it end here. -/
  emoji : Bool
  conjunct : Conjunct
deriving DecidableEq, Repr

/-- The state after the first character of a text. -/
def SignState.start (c : Char) : SignState :=
  let k := clusterClass c
  ⟨k, k = .regional, k = .pictograph, if k = .consonant then .consonant else .none⟩

/-- The state after one more character. One joiner after its marks keeps the emoji; joiners and
marks, but not the non-joiner, keep the conjunct. -/
def SignState.next (s : SignState) (c : Char) : SignState :=
  let k := clusterClass c
  { last := k
    oddRegional := k = .regional && !(s.last = .regional && s.oddRegional)
    emoji := k = .pictograph ||
      s.emoji && s.last ≠ .joiner && (k = .extending || k = .joiner)
    conjunct :=
      if k = .consonant then .consonant
      else if (k = .extending || k = .joiner) && c ≠ '\u200C' then
        if s.conjunct ≠ .none && isConjunctLinker c then .linked else s.conjunct
      else .none }

/-- **Whether the next character continues the sign before it.** -/
def SignState.joins (s : SignState) (c : Char) : Bool :=
  match s.last, clusterClass c with
  | .carriageReturn, .lineFeed => true
  | .carriageReturn, _ | .lineFeed, _ | .control, _ => false
  | _, .carriageReturn | _, .lineFeed | _, .control => false
  | .leading, .leading | .leading, .vowel | .leading, .openSyllable
  | .leading, .closedSyllable => true
  | .openSyllable, .vowel | .openSyllable, .trailing | .vowel, .vowel | .vowel, .trailing => true
  | .closedSyllable, .trailing | .trailing, .trailing => true
  | _, .extending | _, .joiner | _, .spacing => true
  | .prepending, _ => true
  | .joiner, .pictograph => s.emoji
  | .regional, .regional => s.oddRegional
  | _, .consonant => s.conjunct = .linked
  | _, _ => false

/-- The positions in the rest of a text before which it may be cut. -/
def cutsFrom (s : SignState) (i : Nat) : Text → List Nat
  | [] => []
  | c :: t =>
    let rest := cutsFrom (s.next c) (i + 1) t
    if s.joins c then rest else i :: rest

theorem mem_cutsFrom {s : SignState} {i j : Nat} {t : Text} (h : j ∈ cutsFrom s i t) :
    i ≤ j ∧ j < i + t.length := by
  induction t generalizing s i with
  | nil => simp [cutsFrom] at h
  | cons c t ih =>
    rw [List.length_cons]
    rw [cutsFrom] at h
    split at h
    · have := ih h
      omega
    · rcases List.mem_cons.1 h with rfl | h
      · omega
      · have := ih h
        omega

theorem pairwise_cutsFrom (s : SignState) (i : Nat) (t : Text) :
    (cutsFrom s i t).Pairwise (· < ·) := by
  induction t generalizing s i with
  | nil => exact .nil
  | cons c t ih =>
    rw [cutsFrom]
    split
    · exact ih _ _
    · exact .cons (fun j hj => (mem_cutsFrom hj).1) (ih _ _)

/-- The positions inside a text where no sign stands across the cut. -/
def clusterCuts : Text → List Nat
  | [] => []
  | c :: t => cutsFrom (.start c) 1 t

/-- **A way of cutting texts**: the positions inside a text where it may be cut, in ascending
order. -/
structure Cuts where
  positions : Text → List Nat
  interior : ∀ t, ∀ i ∈ positions t, 0 < i ∧ i < t.length
  ascending : ∀ t, (positions t).Pairwise (· < ·)

/-- **The cuts between signs.** -/
def clusters : Cuts where
  positions := clusterCuts
  interior
    | [], i, h => by simp [clusterCuts] at h
    | c :: t, i, h => by
      have := mem_cutsFrom h
      rw [List.length_cons]
      omega
  ascending
    | [] => .nil
    | c :: t => pairwise_cutsFrom (.start c) 1 t

end Kompositum.Text
