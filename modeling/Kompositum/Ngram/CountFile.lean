import Kompositum.Error
import Kompositum.Ngram.Gram

/-!
# Count files

The counts of a corpus come in one file for every order, a line for every gram: its tokens and
then its count, between white space.

* `parseCount?`: the gram and the count of a line.
* `CountFile.entries`: the grams and counts of a file.
* `CountFile.total`: the sum of its counts.
-/

namespace Kompositum

/-- **The gram and the count of a line**, if it has tokens and its last field is a count. -/
def parseCount? (foldsCase : Bool) (line : Text) : Option (Text × Nat) := do
  let fields := Text.words line
  let count ← Count.ofText? (← fields.getLast?)
  let tokens := fields.dropLast
  let gram := Ngram.unwords tokens
  if tokens.isEmpty then none else some (if foldsCase then Text.lower gram else gram, count)

/-- What a line of a count file holds. -/
inductive CountLine where
  | blank
  | malformed
  | entry (gram : Text) (count : Nat)
deriving DecidableEq, Repr

/-- **What a line holds.** Its bytes have to be text. -/
def CountLine.ofBytes (foldsCase : Bool) (bytes : Bytes) : CountLine :=
  match Utf8.decode bytes with
  | .error _ => .malformed
  | .ok line =>
    let line := Text.dropReturns line
    if Text.isBlankText line then .blank
    else match parseCount? foldsCase line with
      | some (gram, count) => .entry gram count
      | none => .malformed

/-- The counts of one order. -/
structure CountFile where
  path : Text
  content : Bytes
deriving DecidableEq, Repr

namespace CountFile

/-- The name of the file with the counts of an order. -/
def fileName (order : Nat) : Text := Text.ofNat order ++ "gms.txt"

/-- The file at a path. -/
def open? (files : Files) (path : Text) : Except Error CountFile :=
  match files.map path with
  | .ok content => .ok ⟨path, content⟩
  | .error cause => .error (.load path cause)

/-- The file with the counts of an order, in a folder. -/
def ofOrder? (files : Files) (folder : Text) (order : Nat) : Except Error CountFile :=
  open? files (Path.join folder (fileName order))

/-- The files of `n` orders from a given one on, if all are there. -/
def ofOrders? (files : Files) (folder : Text) (first : Nat) :
    Nat → Except Error (List (Nat × CountFile))
  | 0 => .ok []
  | n + 1 => do
    let f ← ofOrder? files folder first
    return (first, f) :: (← ofOrders? files folder (first + 1) n)

/-- The bytes of the lines, line feeds left out. -/
def rawLines (f : CountFile) : List Bytes := Text.splitWhen (· == 10) f.content

/-- What the lines hold. -/
def lines (f : CountFile) (foldsCase : Bool) : List CountLine :=
  f.rawLines.map (CountLine.ofBytes foldsCase)

/-- **The grams and counts of a file**, in file order. -/
def entries (f : CountFile) (foldsCase : Bool) : List (Text × Nat) :=
  (f.lines foldsCase).filterMap fun
    | .entry gram count => some (gram, count)
    | _ => none

/-- The number of malformed lines. -/
def malformed (f : CountFile) (foldsCase : Bool) : Nat := (f.lines foldsCase).count .malformed

/-- **The sum of the counts.** -/
def total (f : CountFile) : Nat := (f.entries false).foldl (fun n e => Count.add n e.2) 0

end CountFile

end Kompositum
