import Kompositum.Character.Alphabetic
import Kompositum.Character.Blank
import Kompositum.Character.Case
import Kompositum.Character.Fold
import Kompositum.Text.Basic

/-!
# Sets of characters

The sets that a bracket expression or an escape of a pattern denotes.

* `CharSet.contains`: membership.
* `CharSet.named?`: the sets that have a name of their own, as `Lu` for the capital letters.
-/

namespace Kompositum.Pattern

open Character

/-- A property of single characters. -/
inductive Property where
  | category (k : Category)
  | alphabetic | uppercase | lowercase | blank | word
deriving DecidableEq, Repr

/-- Whether a character has a property. -/
def Property.holds : Property → Char → Bool
  | category k, c => k.contains c
  | alphabetic, c => isAlphabetic c
  | uppercase, c => isUppercase c
  | lowercase, c => isLowercase c
  | blank, c => isBlank c
  | word, c => isWordChar c

/-- Sets of characters. -/
inductive CharSet where
  | empty
  | range (first last : Nat)
  | property (p : Property)
  /-- The case variants of a set, of all letters or of those below U+0080. -/
  | caseless (s : CharSet)
  | asciiCaseless (s : CharSet)
  | compl (s : CharSet)
  | union (s t : CharSet)
  | inter (s t : CharSet)
deriving DecidableEq, Repr

namespace CharSet

/-- **Membership.** -/
def contains : CharSet → Char → Bool
  | empty, _ => false
  | range first last, c => first ≤ c.toNat && c.toNat ≤ last
  | property p, c => p.holds c
  | caseless s, c => (caseVariants c).any s.contains
  | asciiCaseless s, c => [c, c.toUpper, c.toLower].any s.contains
  | compl s, c => !s.contains c
  | union s t, c => s.contains c || t.contains c
  | inter s t, c => s.contains c && t.contains c

/-- The set of one character. -/
def single (c : Char) : CharSet := range c.toNat c.toNat

/-- The union of some sets. -/
def unions (ss : List CharSet) : CharSet := ss.foldr union empty

/-- The characters of the first set that the second one lacks. -/
def diff (s t : CharSet) : CharSet := inter s (compl t)

/-- The characters of one of two sets, but not of both. -/
def symmDiff (s t : CharSet) : CharSet := union (diff s t) (diff t s)

/-- The union of some categories. -/
def ofCategories (ks : List Category) : CharSet := unions (ks.map fun k => property (.category k))

/-- The characters below U+0080. -/
def ascii : CharSet := range 0 0x7F

/-- The letters `A` to `Z` and `a` to `z`. -/
def asciiLetters : CharSet := union (range 0x41 0x5A) (range 0x61 0x7A)

/-- The digits `0` to `9`. -/
def asciiDigits : CharSet := range 0x30 0x39

/-- The white space below U+0080. -/
def asciiBlanks : CharSet := union (range 0x09 0x0D) (range 0x20 0x20)

/-- Letters, digits and the underscore below U+0080. -/
def asciiWord : CharSet := unions [asciiLetters, asciiDigits, single '_']

/-- The classes that are written between `[:` and `:]`. -/
def asciiClasses : List (Text × CharSet) :=
  [("alnum", union asciiLetters asciiDigits), ("alpha", asciiLetters), ("ascii", ascii),
    ("blank", union (single '\t') (single ' ')), ("cntrl", union (range 0 0x1F) (range 0x7F 0x7F)),
    ("digit", asciiDigits), ("graph", range 0x21 0x7E), ("lower", range 0x61 0x7A),
    ("print", range 0x20 0x7E),
    ("punct", unions [range 0x21 0x2F, range 0x3A 0x40, range 0x5B 0x60, range 0x7B 0x7E]),
    ("space", asciiBlanks), ("upper", range 0x41 0x5A), ("word", asciiWord),
    ("xdigit", unions [asciiDigits, range 0x41 0x46, range 0x61 0x66])]

/-- The short and the long name of every category. -/
def categoryNames : List (Text × Text × Category) :=
  [("lu", "uppercaseletter", .uppercaseLetter), ("ll", "lowercaseletter", .lowercaseLetter),
    ("lt", "titlecaseletter", .titlecaseLetter), ("lm", "modifierletter", .modifierLetter),
    ("lo", "otherletter", .otherLetter), ("mn", "nonspacingmark", .nonspacingMark),
    ("mc", "spacingmark", .spacingMark), ("me", "enclosingmark", .enclosingMark),
    ("nd", "decimalnumber", .decimalNumber), ("nl", "letternumber", .letterNumber),
    ("no", "othernumber", .otherNumber), ("pc", "connectorpunctuation", .connectorPunctuation),
    ("pd", "dashpunctuation", .dashPunctuation), ("ps", "openpunctuation", .openPunctuation),
    ("pe", "closepunctuation", .closePunctuation),
    ("pi", "initialpunctuation", .initialPunctuation),
    ("pf", "finalpunctuation", .finalPunctuation),
    ("po", "otherpunctuation", .otherPunctuation), ("sm", "mathsymbol", .mathSymbol),
    ("sc", "currencysymbol", .currencySymbol), ("sk", "modifiersymbol", .modifierSymbol),
    ("so", "othersymbol", .otherSymbol), ("zs", "spaceseparator", .spaceSeparator),
    ("zl", "lineseparator", .lineSeparator), ("zp", "paragraphseparator", .paragraphSeparator),
    ("cc", "control", .control), ("cf", "format", .format), ("co", "privateuse", .privateUse),
    ("cn", "unassigned", .unassigned)]

/-- The sets that are named for several categories at once. -/
def categoryGroups : List (Text × CharSet) :=
  let letters := [.uppercaseLetter, .lowercaseLetter, .titlecaseLetter]
  let allLetters := ofCategories (letters ++ [.modifierLetter, .otherLetter])
  let marks := ofCategories [.nonspacingMark, .spacingMark, .enclosingMark]
  let numbers := ofCategories [.decimalNumber, .letterNumber, .otherNumber]
  let punctuation := ofCategories [.connectorPunctuation, .dashPunctuation, .openPunctuation,
    .closePunctuation, .initialPunctuation, .finalPunctuation, .otherPunctuation]
  let symbols := ofCategories [.mathSymbol, .currencySymbol, .modifierSymbol, .otherSymbol]
  let separators := ofCategories [.spaceSeparator, .lineSeparator, .paragraphSeparator]
  let others := ofCategories [.control, .format, .privateUse, .unassigned]
  [("l", allLetters), ("letter", allLetters), ("lc", ofCategories letters),
    ("casedletter", ofCategories letters), ("m", marks), ("mark", marks),
    ("combiningmark", marks), ("n", numbers), ("number", numbers),
    ("digit", ofCategories [.decimalNumber]), ("p", punctuation), ("punctuation", punctuation),
    ("punct", punctuation), ("s", symbols), ("symbol", symbols), ("z", separators),
    ("separator", separators), ("c", others), ("other", others), ("cntrl", ofCategories [.control]),
    ("any", range 0 0x10FFFF), ("assigned", compl (ofCategories [.unassigned])), ("ascii", ascii)]

/-- The sets that are named for another property of their characters. -/
def propertyNames : List (Text × CharSet) :=
  [("alphabetic", property .alphabetic), ("alpha", property .alphabetic),
    ("uppercase", property .uppercase), ("upper", property .uppercase),
    ("lowercase", property .lowercase), ("lower", property .lowercase),
    ("whitespace", property .blank), ("wspace", property .blank), ("space", property .blank)]

/-- The value of a key in a list of pairs. -/
def valueOf? (key : Text) (pairs : List (Text × CharSet)) : Option CharSet :=
  (pairs.find? fun p => p.1 == key).map Prod.snd

/-- A name in small letters, without the marks between its words and without a leading `is`. -/
def looseName (name : Text) : Text :=
  let t := (name.filter fun c => !(c == ' ' || c == '_' || c == '-')).map Char.toLower
  match t with
  | ['i', 's', 'c'] => t
  | 'i' :: 's' :: rest => rest
  | t => t

/-- The set of a category or of several categories. -/
def category? (name : Text) : Option CharSet :=
  let key := looseName name
  (valueOf? key categoryGroups).orElse fun _ =>
    (categoryNames.find? fun n => n.1 == key || n.2.1 == key).map fun n =>
      property (.category n.2.2)

/-- **The sets that have a name.** Scripts and ages have none here. -/
def named? (name : Text) : Option CharSet :=
  (category? name).orElse fun _ => valueOf? (looseName name) propertyNames

/-- The sets that are named as a value of a kind of property. -/
def valued? (kind name : Text) : Option CharSet :=
  if ["gc".toList, "generalcategory".toList].contains (looseName kind) then category? name
  else none

end CharSet

end Kompositum.Pattern
