import Kompositum.Character.Case
import Kompositum.Character.Lower
import Kompositum.Text.Basic

/-!
# Text in small letters

Every character is replaced by its small letters. A capital sigma becomes `ς` at the end of a
word and `σ` elsewhere: it ends a word if the nearest character before it that is not
case-ignorable is cased, and the nearest one after it is not.

* `lower`: a text in small letters.
-/

namespace Kompositum.Text

open Character

/-- Whether the first character that is not case-ignorable is cased. -/
def leadsToCased (t : Text) : Bool := (t.dropWhile isCaseIgnorable).head?.any isCased

/-- A text in small letters, given what stands before it, nearest character first. -/
def lowerAfter (ahead : Text) : Text → Text
  | [] => []
  | c :: t =>
    (if c == 'Σ' then [if leadsToCased ahead && !leadsToCased t then 'ς' else 'σ']
      else toLower c) ++ lowerAfter (c :: ahead) t

/-- **A text in small letters.** -/
def lower (t : Text) : Text := lowerAfter [] t

end Kompositum.Text
