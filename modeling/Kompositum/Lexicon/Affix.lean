import Kompositum.Count
import Kompositum.Pattern.Language
import Kompositum.Text.Blank
import Kompositum.Text.Quoted

/-!
# Affix rules

A compact lexicon names with each word the flags of the prefixes and suffixes that it takes. A
rule of a flag says which end of the word it strips, what it puts there, and on which words: those
in which a pattern occurs, of whatever language the patterns are.

* `AffixRule.derived?`: the form that a rule derives from a word.
* `AffixFile.parse`: the rules of a file, or its first malformed line.
* `AffixFile.expand`: all forms of a word with flags.
-/

namespace Kompositum

/-- The end of the word to which a rule applies. -/
inductive AffixKind where
  | pre | suf
deriving DecidableEq, Repr

/-- The keyword of the lines about affixes of a kind. -/
def AffixKind.keyword : AffixKind → Text
  | pre => "PFX"
  | suf => "SFX"

/-- The kind of affix that a keyword announces. -/
def AffixKind.ofKeyword? (t : Text) : Option AffixKind :=
  [AffixKind.pre, .suf].find? fun k => k.keyword == t

/-- One rule of a flag. -/
structure AffixRule (P : Type) where
  kind : AffixKind
  flag : Char
  stripped : Text
  affix : Text
  /-- The condition as it was written. -/
  condition : Text
  pattern : P
deriving DecidableEq, Repr

namespace AffixRule

/-- A condition tied to the end of the word to which the rule applies. -/
def anchored (kind : AffixKind) (condition : Text) : Text :=
  match kind with
  | .pre => "^(?:" ++ condition ++ ")"
  | .suf => "(?:" ++ condition ++ ")$"

/-- A field in which `0` stands for nothing. -/
def orNothing (field : Text) : Text := if field = ['0'] then [] else field

variable {P : Type}

/-- The word with the stripped text replaced by the affix, if it has that text at its end. -/
def replaced? (r : AffixRule P) (w : Text) : Option Text :=
  match r.kind with
  | .suf => (Text.stripSuffix? r.stripped w).map (· ++ r.affix)
  | .pre => (Text.stripPrefix? r.stripped w).map (r.affix ++ ·)

variable [PatternLanguage P]

/-- The rule of the fields of a line, if the condition is a pattern. What follows a slash in the
affix has no meaning here. -/
def ofFields? (kind : AffixKind) (flag : Char) (stripped affix condition : Text) :
    Option (AffixRule P) :=
  (PatternLanguage.parse? (anchored kind condition)).map fun pattern =>
    { kind, flag, condition, pattern
      stripped := orNothing stripped
      affix := orNothing (affix.takeWhile (· != '/')) }

/-- Whether the condition holds of a word. -/
def holds (r : AffixRule P) (w : Text) : Bool := PatternLanguage.occursIn r.pattern w

/-- **The form that a rule derives from a word.** There is none if the condition fails, if the text
to strip is not there, or if nothing would be left. -/
def derived? (r : AffixRule P) (w : Text) : Option Text :=
  if r.holds w then (r.replaced? w).filter (!·.isEmpty) else none

end AffixRule

/-- The rules of a file, and which flags allow a suffix and a prefix together. The last header of a
flag stands first. -/
structure AffixFile (P : Type) where
  rules : List (AffixRule P)
  headers : List ((AffixKind × Char) × Bool)
deriving DecidableEq, Repr

/-- The first malformed line of an affix file, and its number from 1 on. -/
structure AffixFault where
  line : Nat
  text : Text
deriving DecidableEq, Repr

/-- The wording of a fault. -/
def AffixFault.message (f : AffixFault) : Text :=
  "Malformed affix rule at line " ++ Text.ofNat f.line ++ ": " ++ Text.quoted f.text

namespace AffixFile

variable {P : Type}

/-- No rules. -/
def empty : AffixFile P := ⟨[], []⟩

/-- What the last header of a flag says of cross products, if there is a header. -/
def header? (a : AffixFile P) (kind : AffixKind) (flag : Char) : Option Bool :=
  (a.headers.find? fun h => h.1 == (kind, flag)).map Prod.snd

/-- Whether affixes of a flag go together with affixes at the other end. -/
def crosses (a : AffixFile P) (kind : AffixKind) (flag : Char) : Bool :=
  (a.header? kind flag).getD false

/-- The rules of a kind whose flag is among the flags of a word, in file order. -/
def applicable (a : AffixFile P) (kind : AffixKind) (flags : Text) : List (AffixRule P) :=
  a.rules.filter fun r => r.kind = kind && flags.contains r.flag

variable [PatternLanguage P]

/-- A line about a flag, given its fields after the keyword: a header with the permission for
cross products and a count, or a rule of a flag that has a header. -/
def addFields? (a : AffixFile P) (kind : AffixKind) : List Text → Option (AffixFile P)
  | [[flag], cross, count] =>
    if (cross = ['Y'] || cross = ['N']) && (Count.ofText? count).isSome then
      some { a with headers := ((kind, flag), cross == ['Y']) :: a.headers }
    else none
  | [[flag], stripped, affix, condition] =>
    if (a.header? kind flag).isSome then
      (AffixRule.ofFields? kind flag stripped affix condition).map fun r =>
        { a with rules := a.rules ++ [r] }
    else none
  | _ => none

/-- One more line; comments, blank lines and lines with another keyword have no meaning. -/
def addLine? (a : AffixFile P) (line : Text) : Option (AffixFile P) :=
  match Text.words line with
  | [] => some a
  | keyword :: fields =>
    if keyword.head? = some '#' then some a
    else match AffixKind.ofKeyword? keyword with
      | none => some a
      | some kind => a.addFields? kind fields

/-- The lines from a given number on. -/
def addLines (a : AffixFile P) (number : Nat) : List Text → Except AffixFault (AffixFile P)
  | [] => .ok a
  | line :: rest =>
    match a.addLine? line with
    | some a => a.addLines (number + 1) rest
    | none => .error ⟨number, line⟩

/-- **The rules of a file**, or its first malformed line. -/
def parse (P : Type) [PatternLanguage P] (t : Text) : Except AffixFault (AffixFile P) :=
  empty.addLines 1 (Text.lines t)

/-- The forms that the suffix rules derive, each with whether a prefix may join it. -/
def suffixed (a : AffixFile P) (word flags : Text) : List (Text × Bool) :=
  (a.applicable .suf flags).filterMap fun r =>
    (r.derived? word).map fun form => (form, a.crosses .suf r.flag)

/-- The forms that one prefix rule derives: from the word, and from the given suffixed forms if
the flag allows it. -/
def prefixed (a : AffixFile P) (word : Text) (bases : List Text) (r : AffixRule P) : List Text :=
  (r.derived? word).toList ++ if a.crosses .pre r.flag then bases.filterMap r.derived? else []

/-- **All forms of a word with flags**: the word itself, its forms with a suffix, and those with a
prefix, where a prefix also joins suffixed forms if both flags allow it. -/
def expand (a : AffixFile P) (word flags : Text) : List Text :=
  let suffixed := a.suffixed word flags
  let bases := (suffixed.filter Prod.snd).map Prod.fst
  word :: (suffixed.map Prod.fst ++ (a.applicable .pre flags).flatMap (a.prefixed word bases))

end AffixFile

end Kompositum
