import Kompositum.Json.Value
import Kompositum.Text.Utf8

/-!
# Reading JSON

* `Json.parse?`: the value of a document.
-/

namespace Kompositum.Json

/-- The byte of an ASCII character. -/
def code (c : Char) : UInt8 := c.toNat.toUInt8

/-- What follows the blanks at the beginning of some bytes. -/
def skipBlanks (bytes : Bytes) : Bytes :=
  bytes.dropWhile fun b => b == code ' ' || b == code '\n' || b == code '\t' || b == code '\r'

/-- The character that an escape of one letter stands for. -/
def letterEscape? (b : UInt8) : Option Char :=
  if b == code '"' then some '"'
  else if b == code '\\' then some '\\'
  else if b == code '/' then some '/'
  else if b == code 'b' then some '\x08'
  else if b == code 'f' then some '\x0c'
  else if b == code 'n' then some '\n'
  else if b == code 'r' then some '\r'
  else if b == code 't' then some '\t'
  else none

/-- The value of a hexadecimal digit. -/
def hexDigit? (b : UInt8) : Option Nat :=
  if code '0' ≤ b && b ≤ code '9' then some (b.toNat - 48)
  else if code 'a' ≤ b && b ≤ code 'f' then some (b.toNat - 87)
  else if code 'A' ≤ b && b ≤ code 'F' then some (b.toNat - 55)
  else none

/-- The number that hexadecimal digits make up. -/
def hexNumber? (digits : Bytes) : Option Nat :=
  digits.foldlM (fun n b => (hexDigit? b).map (n * 16 + ·)) 0

/-- Whether a number is the first half of a character beyond U+FFFF. -/
def isHighHalf (n : Nat) : Bool := 0xD800 ≤ n && n ≤ 0xDBFF

/-- Whether a number is the second half of a character beyond U+FFFF. -/
def isLowHalf (n : Nat) : Bool := 0xDC00 ≤ n && n ≤ 0xDFFF

/-- The character of two halves. -/
def ofHalves (high low : Nat) : Char :=
  Char.ofNat (0x10000 + (high - 0xD800) * 0x400 + (low - 0xDC00))

/-- The number that four hexadecimal digits make up, and what follows. -/
def hexUnit? : Bytes → Option (Nat × Bytes)
  | h₁ :: h₂ :: h₃ :: h₄ :: rest => (hexNumber? [h₁, h₂, h₃, h₄]).map fun n => (n, rest)
  | _ => none

/-- The character of two halves, the first of which is `high`, and what follows the second; none
if there is no second half. -/
def secondHalf? (high : Nat) (bytes : Bytes) : Option (Option Char × Bytes) :=
  match bytes with
  | s :: u :: more =>
    if s == code '\\' && u == code 'u' && 4 ≤ more.length then
      (hexUnit? more).map fun (low, rest) =>
        if isLowHalf low then (some (ofHalves high low), rest) else (none, bytes)
    else some (none, bytes)
  | _ => some (none, bytes)

/-- The character that the bytes after a backslash stand for, none if they stand for half of a
character only, and what follows. -/
def escape? : Bytes → Option (Option Char × Bytes)
  | [] => none
  | b :: rest =>
    match letterEscape? b with
    | some c => some (some c, rest)
    | none => do
      if b != code 'u' then none
      else
        let (n, rest) ← hexUnit? rest
        if isHighHalf n then secondHalf? n rest
        else some (if isLowHalf n then none else some (Char.ofNat n), rest)

/-- A row of four digits takes a byte at least. -/
theorem length_of_hexUnit? {bytes rest : Bytes} {n : Nat} (h : hexUnit? bytes = some (n, rest)) :
    rest.length < bytes.length := by
  match bytes with
  | [] | [_] | [_, _] | [_, _, _] => simp [hexUnit?] at h
  | _ :: _ :: _ :: _ :: r =>
    obtain ⟨m, -, hm⟩ := Option.map_eq_some_iff.1 h
    simp only [Prod.mk.injEq] at hm
    simp only [← hm.2, List.length_cons]
    omega

/-- What follows a second half is not longer than what follows the first one. -/
theorem length_of_secondHalf? {high : Nat} {bytes rest : Bytes} {c : Option Char}
    (h : secondHalf? high bytes = some (c, rest)) : rest.length ≤ bytes.length := by
  unfold secondHalf? at h
  split at h
  · split at h
    · obtain ⟨⟨low, r⟩, hr, he⟩ := Option.map_eq_some_iff.1 h
      have := length_of_hexUnit? hr
      dsimp only at he
      split at he
      · simp only [← (Prod.mk.inj he).2, List.length_cons]; omega
      · simp only [← (Prod.mk.inj he).2, Nat.le_refl]
    · simp only [Option.some.injEq, Prod.mk.injEq] at h
      simp [← h.2]
  · simp only [Option.some.injEq, Prod.mk.injEq] at h
    simp [← h.2]

/-- An escape takes a byte at least. -/
theorem length_of_escape? {bytes rest : Bytes} {c : Option Char}
    (h : escape? bytes = some (c, rest)) : rest.length < bytes.length := by
  match bytes with
  | [] => simp [escape?] at h
  | b :: r =>
    simp only [escape?] at h
    split at h
    · simp only [Option.some.injEq, Prod.mk.injEq] at h
      simp [← h.2]
    · split at h
      · simp at h
      · obtain ⟨⟨n, r'⟩, hn, h⟩ := Option.bind_eq_some_iff.1 h
        have := length_of_hexUnit? hn
        dsimp only at h
        split at h
        · have := length_of_secondHalf? h
          simp only [List.length_cons]; omega
        · simp only [Option.some.injEq, Prod.mk.injEq] at h
          simp only [← h.2, List.length_cons]; omega

/-- The bytes of a character in front of others, last byte first. -/
def pushChar (c : Char) (done : Bytes) : Bytes := (Utf8.encodeChar c).reverse ++ done

/-- The rest of a text whose first bytes are `done`, last byte first, and what follows its closing
mark. The text is none if half of a character stands alone or if its bytes are no text; `whole`
says that there was no such half so far. -/
def textBody (done : Bytes) (whole : Bool) : Bytes → Option (Option Text × Bytes)
  | [] => none
  | b :: rest =>
    if b == code '"' then
      some (if whole then (Utf8.decode done.reverse).toOption else none, rest)
    else if b == code '\\' then
      match _found : escape? rest with
      | none => none
      | some (some c, more) => textBody (pushChar c done) whole more
      | some (none, more) => textBody done false more
    else if b < 32 then none
    else textBody (b :: done) whole rest
termination_by bytes => bytes.length
decreasing_by
  all_goals simp only [List.length_cons]
  · have := length_of_escape? _found; omega
  · have := length_of_escape? _found; omega
  · omega

/-- Whether a byte is a decimal digit. -/
def isDigit (b : UInt8) : Bool := code '0' ≤ b && b ≤ code '9'

/-- The characters of ASCII bytes. -/
def ascii (bytes : Bytes) : Text := bytes.map fun b => Char.ofNat b.toNat

/-- At least one digit, and what follows. -/
def digits? (bytes : Bytes) : Option (Bytes × Bytes) :=
  let (ds, rest) := bytes.span isDigit
  if ds.isEmpty then none else some (ds, rest)

/-- The digits before the point, of which only a single one may be zero, and what follows. -/
def wholeDigits? (bytes : Bytes) : Option (Bytes × Bytes) := do
  let (ds, rest) ← digits? bytes
  if ds.head? == some (code '0') && 1 < ds.length then none else some (ds, rest)

/-- The point and the digits after it, if there is a point. -/
def fraction? : Bytes → Option (Bytes × Bytes)
  | b :: rest =>
    if b == code '.' then (digits? rest).map fun (ds, rest) => (b :: ds, rest)
    else some ([], b :: rest)
  | [] => some ([], [])

/-- The power of ten with its mark, if there is one. -/
def power? : Bytes → Option (Bytes × Bytes)
  | b :: rest =>
    if b == code 'e' || b == code 'E' then
      match rest with
      | s :: more =>
        if s == code '+' || s == code '-' then
          (digits? more).map fun (ds, rest) => (b :: s :: ds, rest)
        else (digits? rest).map fun (ds, rest) => (b :: ds, rest)
      | [] => none
    else some ([], b :: rest)
  | [] => some ([], [])

/-- The number at the beginning of some bytes. -/
def number? (bytes : Bytes) : Option (Json × Bytes) := do
  let (sign, rest) := match bytes with
    | b :: rest => if b == code '-' then ([b], rest) else ([], b :: rest)
    | [] => ([], [])
  let (whole, rest) ← wholeDigits? rest
  let (part, rest) ← fraction? rest
  let (power, rest) ← power? rest
  return (number (ascii (sign ++ whole ++ part ++ power)), rest)

/-- What follows a given word. -/
def word? (word : String) (bytes : Bytes) : Option Bytes :=
  let w := word.toList.map code
  if w.isPrefixOf bytes then some (bytes.drop w.length) else none

/-- What follows a given byte. -/
def mark? (c : Char) : Bytes → Option Bytes
  | b :: rest => if b == code c then some rest else none
  | [] => none

/-- An object of some fields, garbled if a key is no text. -/
def ofFields (fields : List (Option Text × Json)) : Json :=
  match fields.mapM fun (k, j) => k.map fun k => (k, j) with
  | some fields => object fields
  | none => garbled

/-- A text, garbled if it is none. -/
def ofText? : Option Text → Json
  | some t => text t
  | none => garbled

mutual

/-- The value at the beginning of some bytes, nested at most `n` levels deep. -/
def value? : Nat → Bytes → Option (Json × Bytes)
  | 0, _ => none
  | n + 1, bytes =>
    match skipBlanks bytes with
    | [] => none
    | b :: rest =>
      if b == code '"' then (textBody [] true rest).map fun (t, rest) => (ofText? t, rest)
      else if b == code '[' then
        match mark? ']' (skipBlanks rest) with
        | some rest => some (list [], rest)
        | none => (items? n rest).map fun (js, rest) => (list js, rest)
      else if b == code '\x7b' then
        match mark? '\x7d' (skipBlanks rest) with
        | some rest => some (object [], rest)
        | none => (fields? n rest).map fun (fs, rest) => (ofFields fs, rest)
      else if b == code 'n' then (word? "null" (b :: rest)).map fun rest => (null, rest)
      else if b == code 't' then (word? "true" (b :: rest)).map fun rest => (truth true, rest)
      else if b == code 'f' then (word? "false" (b :: rest)).map fun rest => (truth false, rest)
      else number? (b :: rest)

/-- The items of a list and what follows the list. -/
def items? : Nat → Bytes → Option (List Json × Bytes)
  | 0, _ => none
  | n + 1, bytes => do
    let (j, rest) ← value? n bytes
    let rest := skipBlanks rest
    match mark? ',' rest with
    | some rest =>
      let (js, rest) ← items? n rest
      return (j :: js, rest)
    | none => return ([j], ← mark? ']' rest)

/-- The fields of an object and what follows the object. -/
def fields? : Nat → Bytes → Option (List (Option Text × Json) × Bytes)
  | 0, _ => none
  | n + 1, bytes => do
    let (k, rest) ← textBody [] true (← mark? '"' (skipBlanks bytes))
    let (j, rest) ← value? n (← mark? ':' (skipBlanks rest))
    let rest := skipBlanks rest
    match mark? ',' rest with
    | some rest =>
      let (fs, rest) ← fields? n rest
      return ((k, j) :: fs, rest)
    | none => return ([(k, j)], ← mark? '\x7d' rest)

end

/-- **The value of a document.** Every level of nesting and every item takes a byte at least. -/
def parse? (bytes : Bytes) : Option Json :=
  match value? (2 * bytes.length + 2) bytes with
  | some (j, rest) => if (skipBlanks rest).isEmpty then some j else none
  | none => none

end Kompositum.Json
