import Kompositum.Json.Value

/-!
# JSON as text

* `Json.compact`: a value on one line, without blanks.
* `Json.pretty`: a value with an item or a field to a line, two spaces deeper than its list or
  object.
-/

namespace Kompositum.Json

/-- A character of a text in JSON. -/
def escapedChar (c : Char) : Text :=
  match c with
  | '"' => ['\\', '"']
  | '\\' => ['\\', '\\']
  | '\x08' => ['\\', 'b']
  | '\x0c' => ['\\', 'f']
  | '\n' => ['\\', 'n']
  | '\r' => ['\\', 'r']
  | '\t' => ['\\', 't']
  | c =>
    if c.toNat < 32 then
      ['\\', 'u', '0', '0', Nat.digitChar (c.toNat / 16), Nat.digitChar (c.toNat % 16)]
    else [c]

/-- A text between quotation marks. -/
def quoted (t : Text) : Text := ['"'] ++ t.flatMap escapedChar ++ ['"']

/-- What separates the items of a list at a depth. -/
def gap (lined : Bool) (depth : Nat) : Text :=
  if lined then '\n' :: List.replicate (2 * depth) ' ' else []

/-- What separates a key from its value. -/
def colon (lined : Bool) : Text := if lined then [':', ' '] else [':']

mutual

/-- A value at a depth, with line breaks or without. -/
def write (lined : Bool) (depth : Nat) : Json → Text
  | null | garbled => "null"
  | truth b => if b then "true" else "false"
  | number digits => digits
  | text t => quoted t
  | list [] => "[]"
  | list items =>
    ['['] ++ writeItems lined (depth + 1) items ++ gap lined depth ++ [']']
  | object [] => ['\x7b', '\x7d']
  | object fields =>
    ['\x7b'] ++ writeFields lined (depth + 1) fields ++ gap lined depth ++ ['\x7d']

/-- The items of a list. -/
def writeItems (lined : Bool) (depth : Nat) : List Json → Text
  | [] => []
  | [j] => gap lined depth ++ write lined depth j
  | j :: js => gap lined depth ++ write lined depth j ++ [','] ++ writeItems lined depth js

/-- The fields of an object. -/
def writeFields (lined : Bool) (depth : Nat) : List (Text × Json) → Text
  | [] => []
  | [(k, j)] => gap lined depth ++ quoted k ++ colon lined ++ write lined depth j
  | (k, j) :: fs =>
    gap lined depth ++ quoted k ++ colon lined ++ write lined depth j ++ [','] ++
      writeFields lined depth fs

end

/-- **A value on one line.** -/
def compact (j : Json) : Text := write false 0 j

/-- **A value with an item or a field to a line.** -/
def pretty (j : Json) : Text := write true 0 j

end Kompositum.Json
