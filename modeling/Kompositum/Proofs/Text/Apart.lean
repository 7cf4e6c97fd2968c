import Kompositum.Proofs.Text.Reverse

/-!
# Small letters of a text in parts

A text can be put in small letters part by part, but for its capital sigmas: they look beyond the
part in which they stand, and may end a word there that goes on in the next part.

* `length_lower`: small letters are as many as the characters of the text, and one more for every
  `İ`.
* `lowerBetween_eq_iff`: what surrounds a text makes no difference to its small letters if no
  capital sigma sees it.
* `Apart`: the parts in which every capital sigma is what it is in the whole.
* `flatten_map_lower_eq_iff`: these are the parts that can be put in small letters one by one.
-/

namespace Kompositum.Text

open Character

variable {t x y x' y' : Text}

/-! ## The number of small letters -/

theorem length_toLower (c : Char) : (toLower c).length = if c = '\u0130' then 2 else 1 := by
  unfold toLower
  split
  case isTrue hc =>
    have hne : c ≠ '\u0130' := by
      rintro rfl
      exact absurd hc (by decide)
    rw [if_neg hne, List.length_singleton]
  case isFalse =>
    by_cases hc : c = '\u0130'
    · rw [if_pos (by simpa using hc), if_pos hc]
      rfl
    · rw [if_neg (by simpa using hc), if_neg hc, List.length_singleton]

theorem length_smallLetters_eq (a : Text) (c : Char) (b : Text) :
    (smallLetters a c b).length = if c = '\u0130' then 2 else 1 := by
  unfold smallLetters
  split
  case isTrue hc =>
    obtain rfl := eq_of_beq hc
    rfl
  case isFalse => exact length_toLower c

theorem length_lowerBetween (a t b : Text) :
    (lowerBetween a t b).length = t.length + t.count '\u0130' := by
  induction t generalizing a with
  | nil => rfl
  | cons c t ih =>
    rw [lowerBetween, List.length_append, length_smallLetters_eq, ih, List.length_cons,
      List.count_cons]
    by_cases hc : c = '\u0130'
    · rw [if_pos hc, if_pos (by simpa using hc)]
      omega
    · rw [if_neg hc, if_neg (by simpa using hc)]
      omega

/-- **Only `İ` has more than one small letter.** -/
theorem length_lower (t : Text) : (lower t).length = t.length + t.count '\u0130' := by
  unfold lower
  rw [lowerAfter_eq, length_lowerBetween]

/-! ## What a sigma sees -/

theorem lowerBetween_append (a s t b : Text) :
    lowerBetween a (s ++ t) b =
      lowerBetween a s (t ++ b) ++ lowerBetween (s.reverse ++ a) t b := by
  induction s generalizing a with
  | nil => rfl
  | cons c s ih =>
    rw [List.cons_append, lowerBetween, lowerBetween, ih, List.append_assoc, List.append_assoc,
      List.reverse_cons, List.append_assoc, List.singleton_append]

/-- Whether a capital sigma between two texts ends a word: a cased letter leads to it, and none
comes after it. -/
def endsWord (before after : Text) : Bool := leadsToCased before.reverse && !leadsToCased after

/-- The small letter of a capital sigma, given whether it ends a word. -/
def smallSigma (ends : Bool) : Char := if ends then 'ς' else 'σ'

theorem smallSigma_inj {x y : Bool} : smallSigma x = smallSigma y ↔ x = y := by
  revert x y
  decide

theorem smallLetters_sigma (a b : Text) :
    smallLetters a.reverse 'Σ' b = [smallSigma (endsWord a b)] := rfl

theorem smallLetters_eq_iff {c : Char} :
    smallLetters x.reverse c y = smallLetters x'.reverse c y' ↔
      (c = 'Σ' → endsWord x y = endsWord x' y') := by
  by_cases hc : c = 'Σ'
  · subst hc
    rw [smallLetters_sigma, smallLetters_sigma, forall_prop_of_true rfl, List.singleton_inj,
      smallSigma_inj]
  · unfold smallLetters
    rw [beq_false_of_ne hc]
    simp [hc]

/-- The places of a list are its first element and the places of the rest. -/
theorem forall_cons_eq_append_iff {α : Type} {c : α} {t : List α}
    {P : List α → α → List α → Prop} :
    (∀ a d b, c :: t = a ++ d :: b → P a d b) ↔
      P [] c t ∧ ∀ a d b, t = a ++ d :: b → P (c :: a) d b := by
  constructor
  · intro h
    exact ⟨h [] c t rfl, fun a d b ht => h (c :: a) d b (by rw [ht, List.cons_append])⟩
  · rintro ⟨hfirst, hrest⟩ a d b hsplit
    cases a with
    | nil =>
      obtain ⟨rfl, rfl⟩ := List.cons.inj hsplit
      exact hfirst
    | cons e a =>
      obtain ⟨rfl, ht⟩ := List.cons.inj hsplit
      exact hrest a d b ht

/-- **What surrounds a text** makes no difference to its small letters exactly if no capital sigma
in it ends a word in one surrounding and not in the other. -/
theorem lowerBetween_eq_iff :
    lowerBetween x.reverse t y = lowerBetween x'.reverse t y' ↔
      ∀ a c b, t = a ++ c :: b → c = 'Σ' →
        endsWord (x ++ a) (b ++ y) = endsWord (x' ++ a) (b ++ y') := by
  -- the first letter of the text is then the last one of what comes before it
  induction t generalizing x x' with
  | nil => simp [lowerBetween]
  | cons c t ih =>
    have hlength : (smallLetters x.reverse c (t ++ y)).length =
        (smallLetters x'.reverse c (t ++ y')).length := length_smallLetters _ _ _ _ c
    have hahead : ∀ z : Text, c :: z.reverse = (z ++ [c]).reverse := fun z => by simp
    rw [forall_cons_eq_append_iff, lowerBetween, lowerBetween,
      List.append_eq_append_iff_of_size_eq_left hlength, smallLetters_eq_iff, hahead, hahead, ih]
    simp only [List.append_nil, List.append_assoc, List.singleton_append]

/-! ## Parts -/

/-- **Parts that can be taken apart**: every capital sigma ends a word in its part exactly if it
does in all parts together. -/
def Apart (parts : List Text) : Prop :=
  ∀ before p after, parts = before ++ p :: after → ∀ a b, p = a ++ 'Σ' :: b →
    endsWord a b = endsWord (before.flatten ++ a) (b ++ after.flatten)

theorem flatten_map_lower_eq_between_iff {parts : List Text} :
    (parts.map lower).flatten = lowerBetween x.reverse parts.flatten [] ↔
      ∀ before p after, parts = before ++ p :: after → ∀ a c b, p = a ++ c :: b → c = 'Σ' →
        endsWord a b = endsWord (x ++ before.flatten ++ a) (b ++ after.flatten) := by
  -- the first part is compared alone with what it is in its place, and then belongs to what comes
  -- before the other parts
  induction parts generalizing x with
  | nil => simp [lowerBetween]
  | cons p parts ih =>
    have hsmall : lower p = lowerBetween ([] : Text).reverse p [] := lowerAfter_eq [] p
    have hlength : (lower p).length = (lowerBetween x.reverse p (parts.flatten ++ [])).length := by
      rw [length_lower, length_lowerBetween]
    rw [forall_cons_eq_append_iff, List.map_cons, List.flatten_cons, List.flatten_cons,
      lowerBetween_append, List.append_eq_append_iff_of_size_eq_left hlength, hsmall,
      lowerBetween_eq_iff, ← List.reverse_append, ih]
    simp only [List.append_nil, List.nil_append, List.flatten_nil, List.flatten_cons,
      List.append_assoc]

/-- **Parts can be put in small letters one by one** exactly if every capital sigma is in its part
what it is in the whole. -/
theorem flatten_map_lower_eq_iff {parts : List Text} :
    (parts.map lower).flatten = lower parts.flatten ↔ Apart parts := by
  have hsmall : lower parts.flatten = lowerBetween ([] : Text).reverse parts.flatten [] :=
    lowerAfter_eq [] _
  rw [hsmall, flatten_map_lower_eq_between_iff]
  unfold Apart
  constructor
  · intro h before p after hparts a b hp
    exact h before p after hparts a 'Σ' b hp rfl
  · rintro h before p after hparts a c b hp rfl
    exact h before p after hparts a b hp

end Kompositum.Text
