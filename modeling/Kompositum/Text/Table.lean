import Kompositum.Text.Basic

/-!
# Tables keyed by text

Pairs of a text and a value in ascending order of the texts, no text twice.

* `get?`: the value of a text.
* `alter`: the value of a text replaced, added or taken out.
* `insert`, `erase`: the two common cases of `alter`.
-/

namespace Kompositum.Text

/-- Pairs in ascending order of their texts. -/
abbrev Table (α : Type) := List (Text × α)

namespace Table

variable {α : Type}

/-- The value of a text. -/
def get? (key : Text) : Table α → Option α
  | [] => none
  | (k, a) :: rest => if k = key then some a else get? key rest

/-- Whether a text has a value. -/
def contains (key : Text) (t : Table α) : Bool := (get? key t).isSome

/-- **The value of a text replaced by its image**, where having none is a value too. -/
def alter (key : Text) (f : Option α → Option α) : Table α → Table α
  | [] => ((f none).map fun a => (key, a)).toList
  | (k, a) :: rest =>
    if k = key then ((f (some a)).map fun b => (k, b)).toList ++ rest
    else if before key k then ((f none).map fun b => (key, b)).toList ++ (k, a) :: rest
    else (k, a) :: alter key f rest

/-- A text given a value, in place of the one it may have. -/
def insert (key : Text) (a : α) (t : Table α) : Table α := alter key (fun _ => some a) t

/-- A text without its value. -/
def erase (key : Text) (t : Table α) : Table α := alter key (fun _ => none) t

/-- The texts that have a value, in ascending order. -/
def keys (t : Table α) : List Text := t.map Prod.fst

/-- What is put into a table is found there, whatever the table holds. -/
theorem get?_insert_self (t : Table α) (key : Text) (a : α) :
    get? key (t.insert key a) = some a := by
  unfold insert
  induction t with
  | nil => simp [alter, get?]
  | cons x t ih =>
    obtain ⟨k, b⟩ := x
    rw [alter]
    split
    · rename_i hk
      simp [get?, hk]
    · split
      · simp [get?]
      · rename_i hk _
        rw [get?, if_neg hk, ih]

theorem get?_insert_of_ne (t : Table α) {key k : Text} (a : α) (h : k ≠ key) :
    get? k (t.insert key a) = get? k t := by
  unfold insert
  induction t with
  | nil => simp [alter, get?, Ne.symm h]
  | cons x t ih =>
    obtain ⟨k', b⟩ := x
    rw [alter]
    split
    · rename_i hk
      simp [get?, hk, Ne.symm h]
    · split
      · simp [get?, Ne.symm h]
      · rw [get?, get?, ih]

/-- A text has a value once it is put in; the others have one if they had it. -/
theorem contains_insert_iff {t : Table α} {key k : Text} {a : α} :
    (t.insert key a).contains k = true ↔ k = key ∨ t.contains k = true := by
  unfold contains
  by_cases h : k = key
  · rw [h, get?_insert_self]
    simp
  · rw [get?_insert_of_ne t a h]
    simp [h]

end Table

end Kompositum.Text
