import Kompositum.Text.Lower

/-!
# Fragments of a compound

A fragment is a constituent with the linking morpheme that may follow it, as the `s` in
*Aktion-s-plan*.

* `Fragment.surface`: the text that a fragment covers in the compound.
-/

namespace Kompositum

/-- A constituent and the linking morpheme after it. -/
structure Fragment where
  word : Text
  morpheme : Option Text
deriving DecidableEq, Repr

namespace Fragment

/-- A constituent without a linking morpheme. -/
def plain (word : Text) : Fragment := ⟨word, none⟩

/-- A constituent with a linking morpheme; an empty one is none. -/
def linked (word morpheme : Text) : Fragment :=
  ⟨word, if morpheme.isEmpty then none else some morpheme⟩

/-- **The text that a fragment covers.** -/
def surface (f : Fragment) : Text := f.word ++ f.morpheme.getD []

@[simp] theorem surface_plain (word : Text) : (plain word).surface = word := by
  simp [surface, plain]

/-- The number of characters that a fragment covers. -/
def size (f : Fragment) : Nat := f.surface.length

/-- A fragment in small letters, word and morpheme each on its own. -/
def lower (f : Fragment) : Fragment := ⟨Text.lower f.word, f.morpheme.map Text.lower⟩

end Fragment

end Kompositum
