import Kompositum.Pattern.CharSet

/-!
# Patterns

A pattern describes pieces of text. A place in a text is given by what stands before it, nearest
character first, and what stands after it; the meaning of a pattern is the set of places where a
piece of text that begins at a given place may end.

* `Pattern.ends`: the places where a piece that matches may end.
* `Pattern.occursIn`: whether some piece of a text matches.
-/

namespace Kompositum.Pattern

/-- A place in a text: the characters before it, nearest first, and those after it. -/
structure Place where
  ahead : Text
  rest : Text
deriving DecidableEq, Repr

/-- A place found by looking at the characters on both sides of it. -/
inductive Look where
  | textStart | textEnd
  | lineStart | lineEnd
  /-- Line ends at which a carriage return counts too. -/
  | crlfLineStart | crlfLineEnd
  | wordBoundary (ascii : Bool) | noWordBoundary (ascii : Bool)
  | wordStart (ascii : Bool) | wordEnd (ascii : Bool)
  | wordStartHalf (ascii : Bool) | wordEndHalf (ascii : Bool)
deriving DecidableEq, Repr

/-- Whether a neighbour is there and part of a word. -/
def inWord (ascii : Bool) (c : Option Char) : Bool :=
  c.any (if ascii then CharSet.asciiWord else .property .word).contains

/-- Whether a place is of a given kind. -/
def Look.holds (l : Look) (p : Place) : Bool :=
  let prev := p.ahead.head?
  let next := p.rest.head?
  match l with
  | textStart => prev.isNone
  | textEnd => next.isNone
  | lineStart => prev.all (· == '\n')
  | lineEnd => next.all (· == '\n')
  | crlfLineStart => prev.all fun c => c == '\n' || c == '\r' && next != some '\n'
  | crlfLineEnd => next.all fun c => c == '\r' || c == '\n' && prev != some '\r'
  | wordBoundary ascii => inWord ascii prev != inWord ascii next
  | noWordBoundary ascii => inWord ascii prev == inWord ascii next
  | wordStart ascii => !inWord ascii prev && inWord ascii next
  | wordEnd ascii => inWord ascii prev && !inWord ascii next
  | wordStartHalf ascii => !inWord ascii prev
  | wordEndHalf ascii => !inWord ascii next

end Kompositum.Pattern

namespace Kompositum

/-- A description of pieces of text. -/
inductive Pattern where
  | empty
  | set (s : Pattern.CharSet)
  | look (l : Pattern.Look)
  | seq (p q : Pattern)
  | alt (p q : Pattern)
  /-- At least `least` pieces one after the other, at most `most` of them if that is given. -/
  | times (p : Pattern) (least : Nat) (most : Option Nat)
deriving DecidableEq, Repr

namespace Pattern

/-- Places of one text without repetitions; they differ in what stands after them. -/
def distinct : List Place → List Place
  | [] => []
  | p :: ps =>
    let rest := distinct ps
    if rest.any fun q => q.rest.length == p.rest.length then rest else p :: rest

/-- A step taken `n` times; it ends early where no place is left. -/
def iterate (step : List Place → List Place) : Nat → List Place → List Place
  | 0, ps => ps
  | n + 1, ps => if ps.isEmpty then [] else iterate step n (step ps)

/-- The places reached by at most `n` steps. -/
def reached (step : List Place → List Place) : Nat → List Place → List Place
  | 0, ps => ps
  | n + 1, ps => distinct (ps ++ reached step n (step ps))

/-- **The places where a piece that begins here and matches may end.** Pieces repeated without a
bound need not be more than the characters that are left, an empty one apart. -/
def ends : Pattern → Place → List Place
  | empty, p => [p]
  | set s, p =>
    match p.rest with
    | [] => []
    | c :: t => if s.contains c then [⟨c :: p.ahead, t⟩] else []
  | look l, p => if l.holds p then [p] else []
  | seq a b, p => distinct ((a.ends p).flatMap b.ends)
  | alt a b, p => distinct (a.ends p ++ b.ends p)
  | times a least most, p =>
    let step := fun ps : List Place => distinct (ps.flatMap a.ends)
    let first := iterate step least [p]
    let bound := p.rest.length + 1
    reached step (match most with
      | some m => min (m - least) bound
      | none => bound) first

/-- Whether a piece that matches begins at this place or at a later one. -/
def occursFrom (a : Pattern) (ahead : Text) : Text → Bool
  | [] => !(a.ends ⟨ahead, []⟩).isEmpty
  | c :: t => !(a.ends ⟨ahead, c :: t⟩).isEmpty || occursFrom a (c :: ahead) t

/-- **Whether some piece of a text matches.** -/
def occursIn (a : Pattern) (t : Text) : Bool := occursFrom a [] t

end Pattern

end Kompositum
