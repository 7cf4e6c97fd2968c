import Kompositum.Character.Alphabetic
import Kompositum.Lexicon.Affix
import Kompositum.Text.Blank
import Kompositum.Text.Lower

/-!
# Dictionaries

A dictionary is a set of words. Most fold case: words are kept and looked up in small letters.

* `Dictionary.insert`: a dictionary with one more word.
* `Dictionary.ofWordList`: the words of a file, one to a line.
* `Dictionary.ofLexicon`: the words of a lexicon whose entries carry affix flags.
-/

namespace Kompositum

/-- How words are taken into a dictionary. -/
structure DictionaryOptions where
  foldsCase : Bool := true
  /-- Shorter words are left out. -/
  minLength : Nat := 1
deriving DecidableEq, Repr

/-- Words in ascending order, none twice. -/
structure Dictionary where
  words : List Text
  foldsCase : Bool
deriving DecidableEq, Repr

namespace Dictionary

/-- No words. -/
def empty (foldsCase : Bool) : Dictionary := ⟨[], foldsCase⟩

/-- **The form in which a dictionary keeps a word.** -/
def normalize (d : Dictionary) (w : Text) : Text := if d.foldsCase then Text.lower w else w

/-- Whether a word is in the dictionary, in the form in which it keeps words. -/
def contains (d : Dictionary) (w : Text) : Bool := d.words.contains (d.normalize w)

/-- Words in ascending order with one more in its place, unless it is there. -/
def insertWord (w : Text) : List Text → List Text
  | [] => [w]
  | v :: vs => if v = w then v :: vs else if Text.before w v then w :: v :: vs
    else v :: insertWord w vs

/-- **A dictionary with one more word**, without the white space around it; a word that is empty or
too short changes nothing. -/
def insert (options : DictionaryOptions) (d : Dictionary) (w : Text) : Dictionary :=
  let w := Text.trim w
  if w.isEmpty || w.length < options.minLength then d
  else { d with words := insertWord (d.normalize w) d.words }

/-- The dictionary of a list of words. -/
def ofList (options : DictionaryOptions) (ws : List Text) : Dictionary :=
  ws.foldl (insert options) (empty options.foldsCase)

/-- The words of a file, one to a line. Blank lines and lines that begin with `#` have none. -/
def ofWordList (options : DictionaryOptions) (t : Text) : Dictionary :=
  ofList options (((Text.lines t).map Text.trim).filter fun line =>
    !line.isEmpty && line.head? != some '#')

/-- Whether a line is made of decimal digits only, as the count at the head of a lexicon is. -/
def isCount (line : Text) : Bool := !line.isEmpty && line.all Character.isDecimalDigit

/-- The entry of a lexicon line: its first field, cut into the word and the flags after the first
slash. -/
def entry (line : Text) : Text × Text :=
  let field := (Text.words line).head?.getD []
  (Text.cutAt? '/' field).getD (field, [])

/-- The entries of a lexicon. Blank lines have none, nor has a first line that is a count. -/
def entries (t : Text) : List (Text × Text) :=
  let ls := (Text.lines t).map Text.trim
  let body := match ls with
    | first :: rest => if isCount first then rest else first :: rest
    | [] => []
  (body.filter fun line => !line.isEmpty).map entry

/-- **The words of a lexicon**: the forms that the affix rules derive from its entries. -/
def ofLexicon {P : Type} [PatternLanguage P] (options : DictionaryOptions) (affixes : AffixFile P)
    (t : Text) : Dictionary :=
  ofList options ((entries t).flatMap fun (word, flags) => affixes.expand word flags)

/-- The number of words. -/
def size (d : Dictionary) : Nat := d.words.length

end Dictionary

end Kompositum
