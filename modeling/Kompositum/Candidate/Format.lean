import Kompositum.Candidate.Basic
import Kompositum.Text.Quoted

/-!
# Candidates as text

A candidate is written as its fragments with a plus sign between them, each as its word and, in
parentheses, its morpheme: `akt+ion(s)+plan`. A backslash makes the character after it literal.

* `Candidate.render`: the text of a candidate.
* `Candidate.parse`: the candidate of a text, or the first fault in it.
-/

namespace Kompositum

/-- The characters that have a meaning between fragments. -/
def isReserved (c : Char) : Bool := c == '\\' || c == '+' || c == '(' || c == ')'

/-- A text with a backslash before every reserved character. -/
def escaped (t : Text) : Text := t.flatMap fun c => if isReserved c then ['\\', c] else [c]

/-- A fragment as its word and, in parentheses, its morpheme. -/
def Fragment.render (f : Fragment) : Text :=
  escaped f.word ++
    match f.morpheme with
    | some m => ['('] ++ escaped m ++ [')']
    | none => []

/-- **A candidate as its fragments with a plus sign between them.** -/
def Candidate.render (c : Candidate) : Text := Text.join ['+'] (c.fragments.map Fragment.render)

/-- What can be wrong with the text of a candidate. -/
inductive FormatFault where
  | danglingEscape | textAfterMorpheme | unbalancedParenthesis
  | morphemeWithoutWord | emptyMorpheme | emptyFragment
deriving DecidableEq, Repr

/-- The wording of a fault. -/
def FormatFault.message : FormatFault → Text
  | .danglingEscape => "dangling escape"
  | .textAfterMorpheme => "text after morpheme"
  | .unbalancedParenthesis => "unbalanced parenthesis"
  | .morphemeWithoutWord => "morpheme without word"
  | .emptyMorpheme => "empty morpheme"
  | .emptyFragment => "empty fragment"

/-- What has been read of a fragment: a beginning of its word, its word and a beginning of its
morpheme, or all of it. -/
inductive OpenFragment where
  | word (w : Text)
  | morpheme (w m : Text)
  | closed (w m : Text)
deriving DecidableEq, Repr

namespace OpenFragment

/-- One more character of the word or the morpheme. -/
def push (c : Char) : OpenFragment → Except FormatFault OpenFragment
  | word w => .ok (word (w ++ [c]))
  | morpheme w m => .ok (morpheme w (m ++ [c]))
  | closed _ _ => .error .textAfterMorpheme

/-- The parenthesis before a morpheme. -/
def openMorpheme : OpenFragment → Except FormatFault OpenFragment
  | word [] => .error .morphemeWithoutWord
  | word w => .ok (morpheme w [])
  | _ => .error .unbalancedParenthesis

/-- The parenthesis after a morpheme. -/
def closeMorpheme : OpenFragment → Except FormatFault OpenFragment
  | morpheme _ [] => .error .emptyMorpheme
  | morpheme w m => .ok (closed w m)
  | _ => .error .unbalancedParenthesis

/-- The fragment, where its text ends. -/
def finish : OpenFragment → Except FormatFault Fragment
  | word [] => .error .emptyFragment
  | word w => .ok (.plain w)
  | morpheme _ _ => .error .unbalancedParenthesis
  | closed w m => .ok (.linked w m)

end OpenFragment

/-- The fragments of a text, the first of which has been read so far. -/
def parseFragments (f : OpenFragment) : Text → Except FormatFault (List Fragment)
  | [] => do return [← f.finish]
  | '\\' :: t =>
    match t with
    | [] => .error .danglingEscape
    | c :: t => do parseFragments (← f.push c) t
  | '+' :: t => do
    let first ← f.finish
    return first :: (← parseFragments (.word []) t)
  | '(' :: t => do parseFragments (← f.openMorpheme) t
  | ')' :: t => do parseFragments (← f.closeMorpheme) t
  | c :: t => do parseFragments (← f.push c) t

/-- **The candidate of a text**; the empty text is the empty unsplit candidate. -/
def Candidate.parse (t : Text) : Except FormatFault Candidate :=
  if t.isEmpty then .ok (ofWord [])
  else (parseFragments (.word []) t).map ofFragments

end Kompositum
