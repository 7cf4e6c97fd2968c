import Kompositum.Text.Blank
import Kompositum.Text.Lower

/-!
# Grams

A gram is a row of tokens, written with one space between them; its order is the number of its
tokens.

* `tokenize`: the tokens of free text.
* `containsRun`: whether some tokens stand one after the other among others.
-/

namespace Kompositum

/-- A gram with its frequency in a corpus. -/
structure Gram where
  text : Text
  order : Nat
  freq : Nat
deriving DecidableEq, Repr

namespace Gram

/-- The tokens of a gram. -/
def tokens (g : Gram) : List Text := Text.words g.text

/-- The gram of a text, of the order that its tokens give. -/
def ofText (text : Text) (freq : Nat) : Gram := ⟨text, (Text.words text).length, freq⟩

end Gram

namespace Ngram

/-- **The tokens of free text**, in small letters if case is folded. -/
def tokenize (foldsCase : Bool) (t : Text) : List Text :=
  if foldsCase then (Text.words t).map Text.lower else Text.words t

/-- Tokens with one space between them. -/
def unwords (tokens : List Text) : Text := Text.join [' '] tokens

/-- The pieces of a gram between its spaces. -/
def pieces (gram : Text) : List Text := Text.splitOn ' ' gram

/-- Whether the first list begins the second. -/
def leads : List Text → List Text → Bool
  | [], _ => true
  | _ :: _, [] => false
  | q :: qs, t :: ts => decide (q = t) && leads qs ts

/-- Whether the first list stands somewhere in the second. -/
def standsIn (query : List Text) : List Text → Bool
  | [] => query.isEmpty
  | t :: ts => leads query (t :: ts) || standsIn query ts

/-- **Whether the tokens of a query stand one after the other** among the given tokens. An empty
query stands nowhere. -/
def containsRun (tokens query : List Text) : Bool := !query.isEmpty && standsIn query tokens

end Ngram

end Kompositum
