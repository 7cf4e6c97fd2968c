import Kompositum.Character.ClusterClass
import Kompositum.Text.Basic

/-!
# Text in quotation marks

Messages that show input put it between quotation marks and write what a reader could not see as
an escape.

* `quoted`: a text in quotation marks.
-/

namespace Kompositum.Text

open Character

/-- One character of quoted text. Marks that extend the character before them and characters
without a glyph are written by their code point. -/
def quotedChar (c : Char) : Text :=
  match c with
  | '\x00' => ['\\', '0']
  | '\t' => ['\\', 't']
  | '\n' => ['\\', 'n']
  | '\r' => ['\\', 'r']
  | '"' => ['\\', '"']
  | '\\' => ['\\', '\\']
  | c =>
    if isExtending c || !isPrintable c then
      ['\\', 'u', '\x7b'] ++ Nat.toDigits 16 c.toNat ++ ['\x7d']
    else [c]

/-- **A text in quotation marks.** -/
def quoted (t : Text) : Text := ['"'] ++ t.flatMap quotedChar ++ ['"']

end Kompositum.Text
