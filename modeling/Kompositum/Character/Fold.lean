import Kompositum.Character.Fold.Table

/-!
# Characters that differ in case only

* `fold`: one representative for all case variants of a character.
* `caseVariants`: all characters with the same representative, the character among them.
-/

namespace Kompositum.Character

/-- The representative of the case variants of a character. -/
def fold (c : Char) : Char := shifted foldShifts c

/-- All characters that fold as `c` does. -/
def caseVariants (c : Char) : List Char := fold c :: unshifted foldShifts (fold c)

end Kompositum.Character
