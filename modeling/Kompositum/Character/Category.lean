import Kompositum.Character.Category.Letter
import Kompositum.Character.Category.Mark
import Kompositum.Character.Category.Number
import Kompositum.Character.Category.Punctuation
import Kompositum.Character.Category.Symbol
import Kompositum.Character.Category.Other

/-!
# General categories

Every character has one of thirty categories, told by the tables of this folder; what no table
holds is unassigned.

* `Category.contains`: the characters of a category.
* `isPrintable`: characters that stand for themselves in quoted text.
-/

namespace Kompositum.Character

/-- The general categories, in the order of the tables. -/
inductive Category where
  | uppercaseLetter | lowercaseLetter | titlecaseLetter | modifierLetter | otherLetter
  | nonspacingMark | spacingMark | enclosingMark
  | decimalNumber | letterNumber | otherNumber
  | connectorPunctuation | dashPunctuation | openPunctuation | closePunctuation
  | initialPunctuation | finalPunctuation | otherPunctuation
  | mathSymbol | currencySymbol | modifierSymbol | otherSymbol
  | spaceSeparator | lineSeparator | paragraphSeparator
  | control | format | surrogate | privateUse
  | unassigned
deriving DecidableEq, Repr

namespace Category

/-- The categories that have a table. -/
def assigned : List Category :=
  [.uppercaseLetter, .lowercaseLetter, .titlecaseLetter, .modifierLetter, .otherLetter,
    .nonspacingMark, .spacingMark, .enclosingMark, .decimalNumber, .letterNumber, .otherNumber,
    .connectorPunctuation, .dashPunctuation, .openPunctuation, .closePunctuation,
    .initialPunctuation, .finalPunctuation, .otherPunctuation, .mathSymbol, .currencySymbol,
    .modifierSymbol, .otherSymbol, .spaceSeparator, .lineSeparator, .paragraphSeparator,
    .control, .format, .surrogate, .privateUse]

end Category

/-- The code points of a category; the unassigned ones have no table. -/
def Category.runs : Category → Runs
  | .uppercaseLetter => Category.uppercaseLetterRuns
  | .lowercaseLetter => Category.lowercaseLetterRuns
  | .titlecaseLetter => Category.titlecaseLetterRuns
  | .modifierLetter => Category.modifierLetterRuns
  | .otherLetter => Category.otherLetterRuns
  | .nonspacingMark => Category.nonspacingMarkRuns
  | .spacingMark => Category.spacingMarkRuns
  | .enclosingMark => Category.enclosingMarkRuns
  | .decimalNumber => Category.decimalNumberRuns
  | .letterNumber => Category.letterNumberRuns
  | .otherNumber => Category.otherNumberRuns
  | .connectorPunctuation => Category.connectorPunctuationRuns
  | .dashPunctuation => Category.dashPunctuationRuns
  | .openPunctuation => Category.openPunctuationRuns
  | .closePunctuation => Category.closePunctuationRuns
  | .initialPunctuation => Category.initialPunctuationRuns
  | .finalPunctuation => Category.finalPunctuationRuns
  | .otherPunctuation => Category.otherPunctuationRuns
  | .mathSymbol => Category.mathSymbolRuns
  | .currencySymbol => Category.currencySymbolRuns
  | .modifierSymbol => Category.modifierSymbolRuns
  | .otherSymbol => Category.otherSymbolRuns
  | .spaceSeparator => Category.spaceSeparatorRuns
  | .lineSeparator => Category.lineSeparatorRuns
  | .paragraphSeparator => Category.paragraphSeparatorRuns
  | .control => Category.controlRuns
  | .format => Category.formatRuns
  | .surrogate => Category.surrogateRuns
  | .privateUse => Category.privateUseRuns
  | .unassigned => []

/-- **The characters of a category.** -/
def Category.contains (k : Category) (c : Char) : Bool :=
  match k with
  | .unassigned => Category.assigned.all fun a => !a.runs.contains c.toNat
  | k => k.runs.contains c.toNat

/-- Letters, marks, numbers, punctuation and symbols have a glyph of their own. -/
def Category.isGraphic : Category → Bool
  | .spaceSeparator | .lineSeparator | .paragraphSeparator | .control | .format | .surrogate
  | .privateUse | .unassigned => false
  | _ => true

/-- The space and every character with a glyph of its own. -/
def isPrintable (c : Char) : Bool :=
  if c.toNat < 0x7F then 0x20 ≤ c.toNat
  else (Category.assigned.filter Category.isGraphic).any (·.contains c)

end Kompositum.Character
