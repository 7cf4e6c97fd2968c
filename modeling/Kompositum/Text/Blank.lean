import Kompositum.Character.Blank
import Kompositum.Text.Basic

/-!
# Words and lines

* `trim`: a text without the white space around it.
* `words`: the pieces between white space, none of them empty.
* `lines`: the pieces that line feeds end, without their line ends.
-/

namespace Kompositum.Text

open Character (isBlank)

/-- A text without the white space at its end. -/
def trimEnd (t : Text) : Text := (t.reverse.dropWhile isBlank).reverse

/-- **A text without the white space around it.** -/
def trim (t : Text) : Text := trimEnd (t.dropWhile isBlank)

/-- Whether a text holds nothing but white space. -/
def isBlankText (t : Text) : Bool := t.all isBlank

/-- **The pieces between white space**, none of them empty. -/
def words (t : Text) : List Text := (splitWhen isBlank t).filter (!·.isEmpty)

/-- A line without the carriage return that a line feed may follow. -/
def dropReturn (line : Text) : Text := (stripSuffix? ['\r'] line).getD line

/-- **The lines of a text.** A line feed ends a line together with a carriage return before it;
nothing follows the last line feed but a line that is not empty. -/
def lines (t : Text) : List Text :=
  match (splitOn '\n' t).reverse with
  | [] => []
  | last :: ended =>
    ended.reverse.map dropReturn ++ if last.isEmpty then [] else [last]

/-- A line without any of the carriage returns at its end. -/
def dropReturns (line : Text) : Text := (line.reverse.dropWhile (· == '\r')).reverse

end Kompositum.Text
