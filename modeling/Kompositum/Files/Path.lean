import Kompositum.Text.Basic

/-!
# Paths

A path names a file by the folders on the way to it, with a slash between the names. A path
without a slash at its beginning starts at the folder in which the program runs.

* `Path.join`: a path followed by another one.
* `Path.absolute`: a path from the root on.
-/

namespace Kompositum.Path

/-- Whether a path starts at the root. -/
def isAbsolute (p : Text) : Bool := p.head? == some '/'

/-- The names of a path, with an empty name for every slash that does not stand between two. -/
def names (p : Text) : List Text := Text.splitOn '/' p

/-- **A path followed by another one**, which counts alone if it starts at the root. -/
def join (p name : Text) : Text :=
  if isAbsolute name then name
  else if p.isEmpty || p.getLast? == some '/' then p ++ name
  else p ++ ['/'] ++ name

/-- The path of the folder that a path lies in. -/
def parent (p : Text) : Text := Text.join ['/'] (names p).dropLast

/-- Where the absolute form of a path begins. Two slashes, not more, differ from one. -/
def base (current p : Text) : Text :=
  if !isAbsolute p then current
  else if Text.startsWith "//" p && !Text.startsWith "///" p then "//"
  else ['/']

/-- **A path from the root on**, where `current` is the folder in which the program runs. Names
that stand for the folder itself are left out; a slash at the end stays. -/
def absolute (current p : Text) : Text :=
  if p.isEmpty then p
  else
    let steps := (names p).filter fun n => !n.isEmpty && n != ['.']
    let path := steps.foldl join (base current p)
    if p.getLast? == some '/' then join path [] else path

end Kompositum.Path
