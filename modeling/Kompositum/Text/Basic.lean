/-!
# Text

Words, lines and files are lists of characters, so that cutting, joining and counting are those
of lists. A string literal stands for its characters wherever a text is wanted.

* `before`: the order of texts, by code points.
* `splitOn`, `cutAt?`: a text cut at every separator, or at the first one.
* `stripPrefix?`, `stripSuffix?`: a text without a given beginning or end.
-/

namespace Kompositum

/-- A text is the list of its characters. -/
abbrev Text := List Char

/-- The content of a file. -/
abbrev Bytes := List UInt8

instance : Coe String Text := ⟨String.toList⟩

namespace Text

/-- **The order of texts**: by the code points of the first characters that differ, a proper
beginning before its continuations. -/
def before : Text → Text → Bool
  | _, [] => false
  | [], _ :: _ => true
  | a :: s, b :: t => a.toNat < b.toNat || a == b && before s t

/-- A list of texts in ascending order, equal ones in the order given. -/
def sort (ts : List Text) : List Text := ts.mergeSort fun s t => !before t s

/-- The pieces of a list between the elements that satisfy `p`; there is always at least one. -/
def splitWhen {α : Type} (p : α → Bool) : List α → List (List α)
  | [] => [[]]
  | c :: t =>
    match splitWhen p t with
    | [] => [[c]]
    | w :: ws => if p c then [] :: w :: ws else (c :: w) :: ws

/-- The pieces between the occurrences of `c`. -/
def splitOn (c : Char) : Text → List Text := splitWhen (· == c)

/-- What stands before and after the first `c`. -/
def cutAt? (c : Char) : Text → Option (Text × Text)
  | [] => none
  | d :: t => if d == c then some ([], t) else (cutAt? c t).map fun (s, r) => (d :: s, r)

/-- The texts one after the other with `sep` between them. -/
def join (sep : Text) : List Text → Text
  | [] => []
  | [t] => t
  | t :: ts => t ++ sep ++ join sep ts

/-- What is left of a text that begins with the first argument. -/
def stripPrefix? : Text → Text → Option Text
  | [], t => some t
  | _ :: _, [] => none
  | a :: s, b :: t => if a == b then stripPrefix? s t else none

theorem stripPrefix?_eq_some_iff {s t r : Text} : stripPrefix? s t = some r ↔ t = s ++ r := by
  induction s generalizing t with
  | nil => simp [stripPrefix?]
  | cons a s ih =>
    cases t with
    | nil => simp [stripPrefix?]
    | cons b t =>
      by_cases h : a = b
      · simp [stripPrefix?, h, ih]
      · simp [stripPrefix?, h, Ne.symm h]

/-- What is left of a text that ends with the first argument. -/
def stripSuffix? (s t : Text) : Option Text :=
  (stripPrefix? s.reverse t.reverse).map List.reverse

theorem stripSuffix?_eq_some_iff {s t r : Text} : stripSuffix? s t = some r ↔ t = r ++ s := by
  simp only [stripSuffix?, Option.map_eq_some_iff, stripPrefix?_eq_some_iff]
  constructor
  · rintro ⟨u, hu, rfl⟩
    rw [← List.reverse_reverse t, hu]
    simp
  · rintro rfl
    exact ⟨r.reverse, by simp⟩

/-- Whether the second text begins with the first. -/
def startsWith (s t : Text) : Bool := (stripPrefix? s t).isSome

/-- Whether the second text ends with the first. -/
def endsWith (s t : Text) : Bool := (stripSuffix? s t).isSome

/-- The decimal digits of a number. -/
def ofNat (n : Nat) : Text := Nat.toDigits 10 n

end Text

end Kompositum
