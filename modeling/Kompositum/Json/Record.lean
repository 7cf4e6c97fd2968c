import Kompositum.Json.Value

/-!
# Records in JSON

A record is an object with certain fields, or a list of their values in order. Other fields of an
object have no meaning, but a field must not come twice.

* `Json.slots?`: what a value says about every field of a record.
* `Json.choice?`: one of several names.
-/

namespace Kompositum

/-- What a JSON value says about a field. -/
inductive Slot where
  | given (value : Json)
  /-- The object does not have the field. -/
  | absent
  /-- The list ends before the field. -/
  | cut

namespace Slot

variable {α : Type} (f : Json → Option α)

/-- The value of a field that has to be given. -/
def required? : Slot → Option α
  | given j => f j
  | _ => none

/-- The value of a field that an object need not have; null stands for none. -/
def optional? : Slot → Option (Option α)
  | given j => j.nullable? f
  | absent => some none
  | cut => none

/-- The value of a field, `a` if it is not given. -/
def orElse? (a : α) : Slot → Option α
  | given j => f j
  | _ => some a

end Slot

namespace Json

/-- What an object says about a field; it must not do so twice. -/
def slot? (fields : List (Text × Json)) (name : Text) : Option Slot :=
  match fields.filter fun f => f.1 == name with
  | [] => some .absent
  | [(_, j)] => some (.given j)
  | _ => none

/-- What a list says about fields in order; it must not be longer. -/
def listed? : List Text → List Json → Option (List Slot)
  | [], [] => some []
  | [], _ :: _ => none
  | names, [] => some (names.map fun _ => .cut)
  | _ :: names, j :: js => (listed? names js).map (.given j :: ·)

/-- **What a value says about every field of a record.** -/
def slots? (names : List Text) : Json → Option (List Slot)
  | object fields => names.mapM (slot? fields)
  | list items => listed? names items
  | _ => none

/-- **One of several names**, as a text or as the only field of an object with nothing in it. -/
def choice? {α : Type} (name : α → Text) (choices : List α) : Json → Option α
  | text t => choices.find? fun a => name a == t
  | object [(t, null)] => choices.find? fun a => name a == t
  | _ => none

end Json

end Kompositum
