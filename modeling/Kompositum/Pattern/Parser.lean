import Kompositum.Pattern.Basic
import Kompositum.Pattern.Language
import Kompositum.Text.Blank

/-!
# Patterns as text

The written form of patterns: characters, `.`, bracket expressions with ranges, classes and set
operations, escapes, groups with and without flags, alternatives, and repetitions.

* `Pattern.parse?`: the pattern of a text, none if the text is not well formed.
-/

namespace Kompositum.Pattern

/-- How the text after a point is to be read. -/
structure Flags where
  ignoreCase : Bool := false
  multiLine : Bool := false
  dotAll : Bool := false
  crlf : Bool := false
  unicode : Bool := true
  verbose : Bool := false
deriving DecidableEq, Repr

/-- Text after a comment: what follows the first line feed. -/
def afterLine : Text → Text
  | [] => []
  | '\n' :: t => t
  | _ :: t => afterLine t

/-- Text without the white space and comments at its beginning, which verbose patterns may hold. -/
def skipBlanks : Nat → Text → Text
  | 0, t => t
  | n + 1, t =>
    match t with
    | [] => []
    | c :: r =>
      if Character.isBlank c then skipBlanks n r
      else if c == '#' then skipBlanks n (afterLine r)
      else t

/-- Text without what has no meaning at its beginning. -/
def Flags.skip (f : Flags) (t : Text) : Text := if f.verbose then skipBlanks t.length t else t

/-- What an escape or a single character stands for. -/
inductive Atom where
  | literal (c : Char)
  | set (s : CharSet)
  | look (l : Look)

/-- The set of a literal, with its case variants if case is to be ignored. -/
def Flags.cased (f : Flags) (s : CharSet) : CharSet :=
  if !f.ignoreCase then s else if f.unicode then .caseless s else .asciiCaseless s

/-- The complement of a set. Patterns over single bytes have none, since it would hold bytes that
are no characters. -/
def Flags.compl? (f : Flags) (s : CharSet) : Option CharSet :=
  if f.unicode then some (.compl s) else none

/-- The value of a hexadecimal digit. -/
def hexDigit? (c : Char) : Option Nat :=
  if '0' ≤ c && c ≤ '9' then some (c.toNat - 48)
  else if 'a' ≤ c && c ≤ 'f' then some (c.toNat - 87)
  else if 'A' ≤ c && c ≤ 'F' then some (c.toNat - 55)
  else none

/-- The character of a code point, unless it is a surrogate or too large. -/
def scalar? (n : Nat) : Option Char :=
  if n < 0xD800 || 0xDFFF < n && n ≤ 0x10FFFF then some (Char.ofNat n) else none

/-- The value of a row of hexadecimal digits. -/
def hexValue? (digits : Text) : Option Nat :=
  digits.foldl (fun n c => n.bind fun n => (hexDigit? c).map fun d => n * 16 + d) (some 0)

/-- The character of a code point in hexadecimal digits: `n` of them, or as many as stand between
braces. -/
def hexChar? (n : Nat) : Text → Option (Char × Text)
  | '\x7b' :: t => do
    let (digits, rest) ← Text.cutAt? '\x7d' t
    if digits.isEmpty then none
    else return (← scalar? (← hexValue? digits), rest)
  | t =>
    let digits := t.take n
    if digits.length < n then none
    else do return (← scalar? (← hexValue? digits), t.drop n)

/-- The set that `\p` and a name denote; a circumflex in the braces takes the complement. -/
def propertySet? (f : Flags) (negated : Bool) : Text → Option (CharSet × Text)
  | '\x7b' :: t => do
    let (name, rest) ← Text.cutAt? '\x7d' t
    let (negated, name) := match name with
      | '^' :: n => (!negated, n)
      | n => (negated, n)
    let (negated, s) ← match Text.cutAt? '=' name with
      | some (k, v) => match Text.stripSuffix? ['!'] k with
        | some k => (CharSet.valued? k v).map (!negated, ·)
        | none => (CharSet.valued? k v).map (negated, ·)
      | none => match Text.cutAt? ':' name with
        | some (k, v) => (CharSet.valued? k v).map (negated, ·)
        | none => (CharSet.named? name).map (negated, ·)
    let s := f.cased s
    return (← if negated then f.compl? s else some s, rest)
  | c :: t => do
    let s := f.cased (← CharSet.named? [c])
    return (← if negated then f.compl? s else some s, t)
  | [] => none

/-- Whether a character is part of the syntax of patterns, in or outside brackets. -/
def isMeta (c : Char) : Bool :=
  ("\\.+*?()|[]^$#&-~".toList ++ ['\x7b', '\x7d']).contains c

/-- Whether a backslash makes a character stand for itself. -/
def isEscapable (c : Char) : Bool :=
  isMeta c || c.toNat < 0x80 && !c.isAlphanum && c != '<' && c != '>'

/-- The kind of word boundary that braces after `\b` name. -/
def boundaryKind? (ascii : Bool) (name : Text) : Option Look :=
  if name = "start".toList then some (.wordStart ascii)
  else if name = "end".toList then some (.wordEnd ascii)
  else if name = "start-half".toList then some (.wordStartHalf ascii)
  else if name = "end-half".toList then some (.wordEndHalf ascii)
  else none

/-- A word boundary. Braces that begin with a letter name its kind; other braces are a count. -/
def wordBoundary? (ascii : Bool) (t : Text) : Option (Atom × Text) :=
  match t with
  | '\x7b' :: c :: r =>
    if c.isAlpha || c == '-' then do
      let (name, rest) ← Text.cutAt? '\x7d' (c :: r)
      return (.look (← boundaryKind? ascii name), rest)
    else some (.look (.wordBoundary ascii), t)
  | t => some (.look (.wordBoundary ascii), t)

/-- A set of the Unicode standard, or its part below U+0080. -/
def Flags.either (f : Flags) (wide narrow : CharSet) : CharSet := if f.unicode then wide else narrow

/-- What the text after a backslash stands for. -/
def escape? (f : Flags) : Text → Option (Atom × Text)
  | [] => none
  | c :: t =>
    let digits := f.either (.property (.category .decimalNumber)) .asciiDigits
    let blanks := f.either (.property .blank) .asciiBlanks
    let word := f.either (.property .word) .asciiWord
    let set (s : CharSet) : Option (Atom × Text) := some (.set s, t)
    let literal (c : Char) : Option (Atom × Text) := some (.literal c, t)
    let look (l : Look) : Option (Atom × Text) := some (.look l, t)
    match c with
    | 'x' => (hexChar? 2 t).map fun (c, r) => (.literal c, r)
    | 'u' => (hexChar? 4 t).map fun (c, r) => (.literal c, r)
    | 'U' => (hexChar? 8 t).map fun (c, r) => (.literal c, r)
    | 'p' => if f.unicode then (propertySet? f false t).map fun (s, r) => (.set s, r) else none
    | 'P' => if f.unicode then (propertySet? f true t).map fun (s, r) => (.set s, r) else none
    | 'd' => set digits
    | 's' => set blanks
    | 'w' => set word
    | 'D' => (f.compl? digits).bind set
    | 'S' => (f.compl? blanks).bind set
    | 'W' => (f.compl? word).bind set
    | 'a' => literal '\x07'
    | 'f' => literal '\x0c'
    | 't' => literal '\t'
    | 'n' => literal '\n'
    | 'r' => literal '\r'
    | 'v' => literal '\x0b'
    | 'A' => look .textStart
    | 'z' => look .textEnd
    | 'b' => wordBoundary? (!f.unicode) t
    | 'B' => look (.noWordBoundary (!f.unicode))
    | '<' => look (.wordStart (!f.unicode))
    | '>' => look (.wordEnd (!f.unicode))
    | c => if isEscapable c then literal c else none

/-- An operation between the parts of a bracket expression. -/
inductive SetOp where
  | inter | diff | symmDiff

/-- Two parts of a bracket expression combined. -/
def SetOp.apply : SetOp → CharSet → CharSet → CharSet
  | inter, s, t => .inter s t
  | diff, s, t => .diff s t
  | symmDiff, s, t => .symmDiff s t

/-- What stands before an operation combined with what stands after it. -/
def combine (f : Flags) (left : Option (SetOp × CharSet)) (right : CharSet) : CharSet :=
  match left with
  | none => right
  | some (op, s) => op.apply (f.cased s) (f.cased right)

/-- A class such as `[:alpha:]`, after its first bracket. -/
def asciiClass? (f : Flags) : Text → Option (CharSet × Text)
  | ':' :: t => do
    let (negated, t) := match t with
      | '^' :: r => (true, r)
      | r => (false, r)
    let (name, rest) ← Text.cutAt? ':' t
    let s ← CharSet.valueOf? name CharSet.asciiClasses
    match rest with
    | ']' :: rest => return (← if negated then f.compl? (f.cased s) else some (f.cased s), rest)
    | _ => none
  | _ => none

/-- The literal hyphens at the beginning of a bracket expression. -/
def leadingHyphens (f : Flags) : Nat → CharSet → Text → CharSet × Text
  | 0, s, t => (s, t)
  | n + 1, s, t =>
    match t with
    | '-' :: r => leadingHyphens f n (.union s (.single '-')) (f.skip r)
    | t => (s, t)

/-- The beginning of a bracket expression: whether it is a complement, and the hyphens or the
closing bracket that stand for themselves there. -/
def openBracket (f : Flags) (t : Text) : Bool × CharSet × Text :=
  let t := f.skip t
  let (negated, t) := match t with
    | '^' :: r => (true, f.skip r)
    | t => (false, t)
  match t with
  | ']' :: r => (negated, .single ']', f.skip r)
  | t => (negated, leadingHyphens f t.length .empty t)

/-- One character or escape in a bracket expression. A bracket expression over single bytes has no
characters of several bytes. -/
def bracketAtom? (f : Flags) : Text → Option (Atom × Text)
  | [] => none
  | '\\' :: t => escape? f t
  | c :: t => if f.unicode || c.toNat < 0x80 then some (.literal c, t) else none

/-- Whether the text, from a hyphen on, continues a range. -/
def continuesRange (f : Flags) : Text → Bool
  | '-' :: t =>
    match f.skip t with
    | ']' :: _ | '-' :: _ => false
    | _ => true
  | _ => false

/-- A literal, a class or a range in a bracket expression. -/
def bracketItem? (f : Flags) (t : Text) : Option (CharSet × Text) := do
  let (first, t) ← bracketAtom? f t
  let t := f.skip t
  if t.isEmpty then none
  else if continuesRange f t then
    match first, ← bracketAtom? f (f.skip (t.drop 1)) with
    | .literal a, (.literal b, t) =>
      if a.toNat ≤ b.toNat then some (.range a.toNat b.toNat, t) else none
    | _, _ => none
  else match first with
    | .literal c => some (.single c, t)
    | .set s => some (s, t)
    | .look _ => none

/-- A finished bracket expression: case variants first, then the complement. -/
def closeBracket? (f : Flags) (negated : Bool) (s : CharSet) : Option CharSet :=
  if negated then f.compl? (f.cased s) else some (f.cased s)

/-- The rest of a bracket expression, after the items in `s`. -/
def bracketRest? (f : Flags) : Nat → Option (SetOp × CharSet) → CharSet → Text →
    Option (CharSet × Text)
  | 0, _, _, _ => none
  | n + 1, left, s, t =>
    match f.skip t with
    | [] => none
    | ']' :: r => some (combine f left s, r)
    | '[' :: r =>
      match asciiClass? f r with
      | some (c, r) => bracketRest? f n left (.union s c) r
      | none => do
        let (negated, first, r) := openBracket f r
        let (inner, r) ← bracketRest? f n none first r
        bracketRest? f n left (.union s (← closeBracket? f negated inner)) r
    | '&' :: '&' :: r => bracketRest? f n (some (.inter, combine f left s)) .empty r
    | '-' :: '-' :: r => bracketRest? f n (some (.diff, combine f left s)) .empty r
    | '~' :: '~' :: r => bracketRest? f n (some (.symmDiff, combine f left s)) .empty r
    | t => do
      let (item, r) ← bracketItem? f t
      bracketRest? f n left (.union s item) r

/-- A bracket expression, after its first bracket. -/
def bracket? (f : Flags) (t : Text) : Option (CharSet × Text) := do
  let (negated, first, r) := openBracket f t
  let (s, r) ← bracketRest? f (t.length + 1) none first r
  return (← closeBracket? f negated s, r)

/-- A number in decimal digits, with white space around it, and what follows. -/
def number? (t : Text) : Option Nat × Text :=
  let t := t.dropWhile Character.isBlank
  let digits := t.takeWhile Char.isDigit
  let value := if digits.isEmpty then none else
    (digits.foldl (fun n c => n * 10 + (c.toNat - 48)) 0 : Nat)
  (value, (t.drop digits.length).dropWhile Character.isBlank)

/-- The most pieces that a repetition may ask for. -/
def countLimit : Nat := 100000

/-- The bounds between braces, after the first one. -/
def bounds? (f : Flags) (t : Text) : Option ((Nat × Option Nat) × Text) :=
  match number? t with
  | (some least, '\x7d' :: t) => some ((least, some least), t)
  | (some least, ',' :: t) =>
    match f.skip t with
    | '\x7d' :: t => some ((least, none), t)
    | t =>
      match number? t with
      | (some most, '\x7d' :: t) => if least ≤ most then some ((least, some most), t) else none
      | _ => none
  | _ => none

/-- The letters of flags up to the colon or parenthesis that ends them, applied in order. Every
flag may be given once, and one minus sign turns off what follows it. -/
def flags? (f : Flags) (seen : Text) (on : Bool) : Text → Option (Flags × Bool × Text)
  | [] => none
  | ':' :: t => if seen.head? = some '-' then none else some (f, true, t)
  | ')' :: t => if seen.head? = some '-' || seen.isEmpty then none else some (f, false, t)
  | c :: t =>
    if seen.contains c then none
    else
      let next (g : Flags) := flags? g (c :: seen) on t
      match c with
      | '-' => flags? f ('-' :: seen) false t
      | 'i' => next { f with ignoreCase := on }
      | 'm' => next { f with multiLine := on }
      | 's' => next { f with dotAll := on }
      | 'U' => next f
      | 'u' => next { f with unicode := on }
      | 'R' => next { f with crlf := on }
      | 'x' => next { f with verbose := on }
      | _ => none

/-- Whether a character may stand in the name of a group. -/
def isNameChar (first : Bool) (c : Char) : Bool :=
  c == '_' || Character.isAlphabetic c ||
    !first && (c == '.' || c == '[' || c == ']' ||
      [Character.Category.decimalNumber, .letterNumber, .otherNumber].any (·.contains c))

/-- The name of a group up to its closing bracket. -/
def groupName? (t : Text) : Option (Text × Text) := do
  let (name, rest) ← Text.cutAt? '>' t
  match name with
  | [] => none
  | c :: r => if isNameChar true c && r.all (isNameChar false) then some (name, rest) else none

/-- What is known of an open group: its alternatives, latest first, and the items of the last
one, latest first. A change of flags is an item that cannot be repeated. -/
structure Group where
  alternatives : List Pattern := []
  items : List (Option Pattern) := []

/-- The items of a group one after the other. -/
def Group.sequence (g : Group) : Pattern :=
  g.items.foldl (fun p item => match item with
    | none => p
    | some q => match p with
      | .empty => q
      | p => .seq q p) .empty

/-- The pattern of a finished group. -/
def Group.close (g : Group) : Pattern := g.alternatives.foldl (fun p q => .alt q p) g.sequence

/-- A group with one more item. -/
def Group.push (g : Group) (p : Pattern) : Group := { g with items := some p :: g.items }

/-- What has been read of a pattern: the flags, the names of groups, the innermost group and the
groups around it with their flags. -/
structure Reader where
  flags : Flags := {}
  names : List Text := []
  group : Group := {}
  outer : List (Flags × Group) := []

namespace Reader

/-- One more item in the innermost group. -/
def push (r : Reader) (p : Pattern) : Reader := { r with group := r.group.push p }

/-- A group inside the innermost one. -/
def openGroup (r : Reader) (f : Flags) : Reader :=
  { r with flags := f, group := {}, outer := (r.flags, r.group) :: r.outer }

/-- The innermost group closed. -/
def closeGroup? (r : Reader) : Option Reader :=
  match r.outer with
  | [] => none
  | (f, g) :: outer => some { r with flags := f, group := g.push r.group.close, outer := outer }

/-- The last item of the innermost group repeated. -/
def repeat? (r : Reader) (least : Nat) (most : Option Nat) : Option Reader :=
  match r.group.items with
  | some p :: items =>
    if least ≤ countLimit && most.all (· ≤ countLimit) then
      some { r with group := { r.group with items := some (.times p least most) :: items } }
    else none
  | _ => none

/-- The text after an opening parenthesis. -/
def readGroup? (r : Reader) (t : Text) : Option (Reader × Text) :=
  match r.flags.skip t with
  | '?' :: '=' :: _ | '?' :: '!' :: _ | '?' :: '<' :: '=' :: _ | '?' :: '<' :: '!' :: _ => none
  | '?' :: 'P' :: '<' :: t | '?' :: '<' :: t => do
    let (name, t) ← groupName? t
    if r.names.contains name then none
    else some ({ r with names := name :: r.names }.openGroup r.flags, t)
  | '?' :: t => do
    let (f, isGroup, t) ← flags? r.flags [] true t
    if isGroup then some (r.openGroup f, t)
    else some ({ r with flags := f, group := { r.group with items := none :: r.group.items } }, t)
  | t => some (r.openGroup r.flags, t)

/-- A repetition without its mark for the fewest pieces, which has no bearing on what matches. -/
def afterLazy (f : Flags) (t : Text) : Text :=
  match f.skip t with
  | '?' :: t => t
  | _ => t

/-- The item that an escape or a character stands for. -/
def pushAtom (r : Reader) : Atom → Reader
  | .literal c => r.push (.set (r.flags.cased (.single c)))
  | .set s => r.push (.set s)
  | .look l => r.push (.look l)

/-- The set of all characters that `.` stands for. -/
def dot? (f : Flags) : Option CharSet :=
  if !f.unicode then none
  else if f.dotAll then some (.range 0 0x10FFFF)
  else if f.crlf then some (.compl (.union (.single '\n') (.single '\r')))
  else some (.compl (.single '\n'))

/-- One item or sign of a pattern. -/
def step? (r : Reader) : Text → Option (Reader × Text)
  | [] => none
  | c :: t =>
    let f := r.flags
    match c with
    | '(' => r.readGroup? t
    | ')' => r.closeGroup?.map (·, t)
    | '|' =>
      let g : Group := { alternatives := r.group.sequence :: r.group.alternatives }
      some ({ r with group := g }, t)
    | '[' => (bracket? f t).map fun (s, t) => (r.push (.set s), t)
    | '*' => (r.repeat? 0 none).map (·, afterLazy f t)
    | '+' => (r.repeat? 1 none).map (·, afterLazy f t)
    | '?' => (r.repeat? 0 (some 1)).map (·, afterLazy f t)
    | '\x7b' => do
      let ((least, most), t) ← bounds? f t
      return (← r.repeat? least most, afterLazy f t)
    | '\\' => (escape? f t).map fun (a, t) => (r.pushAtom a, t)
    | '.' => (dot? f).map fun s => (r.push (.set s), t)
    | '^' =>
      some (r.push (.look (if !f.multiLine then .textStart
        else if f.crlf then .crlfLineStart else .lineStart)), t)
    | '$' =>
      some (r.push (.look (if !f.multiLine then .textEnd
        else if f.crlf then .crlfLineEnd else .lineEnd)), t)
    | c => some (r.pushAtom (.literal c), t)

/-- The pattern of a text, read in at most `n` steps. -/
def run? : Nat → Reader → Text → Option Pattern
  | 0, _, _ => none
  | n + 1, r, t =>
    match r.flags.skip t with
    | [] => if r.outer.isEmpty then some r.group.close else none
    | t => (r.step? t).bind fun (r, t) => run? n r t

end Reader

/-- **The pattern of a text**, none if the text is not well formed. -/
def parse? (t : Text) : Option Pattern := Reader.run? (t.length + 1) {} t

/-- The language in which programs read patterns. -/
instance : PatternLanguage Pattern where
  parse? := parse?
  occursIn := occursIn

end Kompositum.Pattern
