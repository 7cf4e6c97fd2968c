import Kompositum.Text.Basic

/-!
# Pattern languages

The conditions of affix rules are patterns. How patterns are written and what they match is up to
the language they come from: only whether a text is a pattern, and whether a pattern occurs in a
word, is asked of it.
-/

namespace Kompositum

/-- A language of patterns. -/
class PatternLanguage (P : Type) where
  /-- The pattern that a text writes, none if the text is not well formed. -/
  parse? : Text → Option P
  /-- Whether some piece of a text matches a pattern. -/
  occursIn : P → Text → Bool

end Kompositum
