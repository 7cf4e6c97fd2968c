import Kompositum.Character.Category

/-!
# Cased characters

Whether a sigma ends a word is seen from the nearest characters around it that are not
case-ignorable: `isCased` and `isCaseIgnorable` are the two properties this needs.
-/

namespace Kompositum.Character

/-- Capital forms outside the category of capital letters: Roman numerals and enclosed letters. -/
def otherUppercase : Runs :=
  [⟨0x2160, 0x216F, 1⟩, ⟨0x24B6, 0x24CF, 1⟩, ⟨0x1F130, 0x1F149, 1⟩, ⟨0x1F150, 0x1F169, 1⟩,
    ⟨0x1F170, 0x1F189, 1⟩]

/-- Small forms outside the category of small letters: ordinals, modifiers, numerals. -/
def otherLowercase : Runs :=
  [⟨0xAA, 0xAA, 1⟩, ⟨0xBA, 0xBA, 1⟩, ⟨0x2B0, 0x2B8, 1⟩, ⟨0x2C0, 0x2C1, 1⟩, ⟨0x2E0, 0x2E4, 1⟩,
    ⟨0x345, 0x345, 1⟩, ⟨0x37A, 0x37A, 1⟩, ⟨0x10FC, 0x10FC, 1⟩, ⟨0x1D2C, 0x1D6A, 1⟩,
    ⟨0x1D78, 0x1D78, 1⟩, ⟨0x1D9B, 0x1DBF, 1⟩, ⟨0x2071, 0x2071, 1⟩, ⟨0x207F, 0x207F, 1⟩,
    ⟨0x2090, 0x209C, 1⟩, ⟨0x2170, 0x217F, 1⟩, ⟨0x24D0, 0x24E9, 1⟩, ⟨0x2C7C, 0x2C7D, 1⟩,
    ⟨0xA69C, 0xA69D, 1⟩, ⟨0xA770, 0xA770, 1⟩, ⟨0xA7F2, 0xA7F4, 1⟩, ⟨0xA7F8, 0xA7F9, 1⟩,
    ⟨0xAB5C, 0xAB5F, 1⟩, ⟨0xAB69, 0xAB69, 1⟩, ⟨0x10780, 0x10780, 1⟩, ⟨0x10783, 0x10785, 1⟩,
    ⟨0x10787, 0x107B0, 1⟩, ⟨0x107B2, 0x107BA, 1⟩, ⟨0x1E030, 0x1E06D, 1⟩]

/-- Capital letters and capital forms. -/
def isUppercase (c : Char) : Bool :=
  Category.uppercaseLetter.contains c || otherUppercase.contains c.toNat

/-- Small letters and small forms. -/
def isLowercase (c : Char) : Bool :=
  Category.lowercaseLetter.contains c || otherLowercase.contains c.toNat

/-- Characters that are capital, small or both at once. -/
def isCased (c : Char) : Bool :=
  isUppercase c || isLowercase c || Category.titlecaseLetter.contains c

/-- Punctuation that may stand inside a word. -/
def wordInner : Runs :=
  [⟨0x27, 0x27, 1⟩, ⟨0x2E, 0x2E, 1⟩, ⟨0x3A, 0x3A, 1⟩, ⟨0xB7, 0xB7, 1⟩, ⟨0x387, 0x387, 1⟩,
    ⟨0x55F, 0x55F, 1⟩, ⟨0x5F4, 0x5F4, 1⟩, ⟨0x2018, 0x2019, 1⟩, ⟨0x2024, 0x2024, 1⟩,
    ⟨0x2027, 0x2027, 1⟩, ⟨0xFE13, 0xFE13, 1⟩, ⟨0xFE52, 0xFE52, 1⟩, ⟨0xFE55, 0xFE55, 1⟩,
    ⟨0xFF07, 0xFF07, 1⟩, ⟨0xFF0E, 0xFF0E, 1⟩, ⟨0xFF1A, 0xFF1A, 1⟩]

/-- Characters that are passed over in the search for a cased neighbour: marks, format controls,
modifiers and punctuation inside words. -/
def isCaseIgnorable (c : Char) : Bool :=
  wordInner.contains c.toNat ||
    [Category.nonspacingMark, .enclosingMark, .format, .modifierLetter, .modifierSymbol].any
      (·.contains c)

end Kompositum.Character
