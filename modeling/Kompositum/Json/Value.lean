import Kompositum.Count
import Kompositum.Decimal.Read
import Kompositum.Decimal.Shortest

/-!
# JSON values

* `Json.nat?`, `Json.float?`: what a number stands for.
* `Json.ofNat`, `Json.ofFloat`: a number as it is written.
-/

namespace Kompositum

/-- A JSON value. Numbers are kept as they are written. -/
inductive Json where
  | null
  | truth (b : Bool)
  | number (digits : Text)
  | text (t : Text)
  /-- A value that cannot be told, since a text or a key in it holds half of a character. -/
  | garbled
  | list (items : List Json)
  | object (fields : List (Text × Json))
deriving Repr

namespace Json

/-- A number below 2⁶⁴. -/
def ofNat (n : Nat) : Json := number (Text.ofNat n)

/-- A number; infinities and the value that is no number have no form of their own. -/
def ofFloat (x : Float) : Json :=
  match Decimal.shortest? Decimal.jsonLayout x with
  | some t => number t
  | none => null

/-- A list of texts. -/
def ofTexts (ts : List Text) : Json := list (ts.map text)

/-- A value that may be missing. -/
def ofOption {α : Type} (f : α → Json) : Option α → Json
  | some a => f a
  | none => null

/-- **The natural number that is written without a sign, a point or a power of ten**, if it is below
2⁶⁴. -/
def nat? : Json → Option Nat
  | number digits => (Count.ofDigits? digits).filter (· ≤ Count.largest)
  | _ => none

/-- The number of leading digits that make up a number below 2⁶⁴ when they continue `n`, with that
number. -/
def fitting (n : Nat) : Text → Nat × Nat
  | [] => (n, 0)
  | c :: t =>
    let m := n * 10 + (Count.digit? c).getD 0
    if m ≤ Count.largest then
      let (k, taken) := fitting m t
      (k, taken + 1)
    else (n, 0)

/-- The size of a number: its first digits, as many as make up a number below 2⁶⁴, scaled by a power
of ten. -/
def size? (t : Text) : Option Float := do
  let (whole, rest) := Decimal.spanDigits t
  let (part, rest) := match rest with
    | '.' :: r => Decimal.spanDigits r
    | r => ([], r)
  let (n, taken) := fitting 0 whole
  let (digits, more) := fitting n part
  let power ← Decimal.readPower? rest
  Decimal.scaled? digits.toUInt64.toFloat (power + (whole.length - taken : Nat) - more)

/-- **The double that a number stands for**, if it is not too large. -/
def float? : Json → Option Float
  | number ('-' :: digits) => (size? digits).map fun x => -x
  | number digits => size? digits
  | _ => none

/-- The truth value. -/
def truth? : Json → Option Bool
  | truth b => some b
  | _ => none

/-- The text. -/
def text? : Json → Option Text
  | text t => some t
  | _ => none

/-- The values of a list. -/
def list? {α : Type} (f : Json → Option α) : Json → Option (List α)
  | list items => items.mapM f
  | _ => none

/-- A value that may be null. -/
def nullable? {α : Type} (f : Json → Option α) : Json → Option (Option α)
  | null => some none
  | j => (f j).map some

end Json

end Kompositum
