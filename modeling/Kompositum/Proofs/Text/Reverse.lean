import Kompositum.Proofs.Text.Small

/-!
# Small letters read from the end

A text in small letters read from its end is not always the small letters of the text read from its
end: a capital sigma looks at what stands before it and after it, and the two letters that stand for
`İ` change their places.

* `Text.lowerBetween`: small letters between what stands before and after.
* `Text.Symmetric`: the texts without `İ` in which every capital sigma has cased letters on both
  sides or on neither.
* `Text.lower_reverse_iff`: these are the texts whose small letters can be read from the end.
-/

namespace Kompositum.Text

open Character

variable {c : Char} {a b t : Text}

/-- The small letters of a character, given what stands before it, nearest character first, and
what stands after it. -/
def smallLetters (ahead : Text) (c : Char) (behind : Text) : Text :=
  if c == 'Σ' then [if leadsToCased ahead && !leadsToCased behind then 'ς' else 'σ'] else toLower c

/-- **Small letters between** what stands before a text, nearest character first, and what stands
after it. -/
def lowerBetween (ahead : Text) : Text → Text → Text
  | [], _ => []
  | c :: t, behind => smallLetters ahead c (t ++ behind) ++ lowerBetween (c :: ahead) t behind

theorem lowerAfter_eq (ahead t : Text) : lowerAfter ahead t = lowerBetween ahead t [] := by
  induction t generalizing ahead with
  | nil => rfl
  | cons c t ih =>
    rw [lowerAfter, lowerBetween, ih, List.append_nil]
    rfl

theorem lowerBetween_concat (ahead t : Text) (c : Char) (behind : Text) :
    lowerBetween ahead (t ++ [c]) behind =
      lowerBetween ahead t (c :: behind) ++ smallLetters (t.reverse ++ ahead) c behind := by
  induction t generalizing ahead with
  | nil => simp [lowerBetween]
  | cons d t ih =>
    rw [List.cons_append, lowerBetween, lowerBetween, ih]
    simp

/-- How many small letters a character has does not depend on what surrounds it. -/
theorem length_smallLetters (a b a' b' : Text) (c : Char) :
    (smallLetters a c b).length = (smallLetters a' c b').length := by
  unfold smallLetters
  split <;> rfl

theorem length_lowerBetween_reverse (ahead t behind : Text) :
    (lowerBetween behind t.reverse ahead).length = (lowerBetween ahead t behind).length := by
  induction t generalizing ahead with
  | nil => rfl
  | cons c t ih =>
    rw [List.reverse_cons, lowerBetween_concat, lowerBetween, List.length_append, ih,
      List.length_append, Nat.add_comm, length_smallLetters]

theorem length_lower_reverse (t : Text) : (lower t.reverse).length = (lower t).length := by
  unfold lower
  rw [lowerAfter_eq, lowerAfter_eq, length_lowerBetween_reverse]

/-- **Small letters read from the end** are compared character by character. -/
theorem lowerBetween_reverse_iff (ahead t behind : Text) :
    lowerBetween behind t.reverse ahead = (lowerBetween ahead t behind).reverse ↔
      ∀ a c b, t = a ++ c :: b → smallLetters (b ++ behind) c (a.reverse ++ ahead) =
        (smallLetters (a.reverse ++ ahead) c (b ++ behind)).reverse := by
  induction t generalizing ahead with
  | nil => simp [lowerBetween]
  | cons c t ih =>
    rw [List.reverse_cons, lowerBetween_concat, List.reverse_reverse, lowerBetween,
      List.reverse_append]
    constructor
    · intro h a d b hsplit
      -- the last letters are those of the first character, the others those of the rest
      have hlength : (smallLetters (t ++ behind) c ahead).length =
          (smallLetters ahead c (t ++ behind)).reverse.length := by
        rw [List.length_reverse, length_smallLetters]
      obtain ⟨hrest, hfirst⟩ := List.append_inj' h hlength
      cases a with
      | nil =>
        obtain ⟨rfl, rfl⟩ := List.cons.inj hsplit
        exact hfirst
      | cons e a =>
        obtain ⟨rfl, htail⟩ := List.cons.inj hsplit
        have hletters := (ih (c :: ahead)).1 hrest a d b htail
        rwa [List.reverse_cons, List.append_assoc]
    · intro h
      have hrest : lowerBetween behind t.reverse (c :: ahead) =
          (lowerBetween (c :: ahead) t behind).reverse := by
        refine (ih (c :: ahead)).2 fun a d b hsplit => ?_
        have hletters := h (c :: a) d b (by rw [hsplit, List.cons_append])
        rwa [List.reverse_cons, List.append_assoc] at hletters
      have hfirst : smallLetters (t ++ behind) c ahead =
          (smallLetters ahead c (t ++ behind)).reverse := h [] c t rfl
      rw [hrest, hfirst]

theorem toLower_reverse_iff : toLower c = (toLower c).reverse ↔ c ≠ '\u0130' := by
  unfold toLower
  split
  case isTrue hc =>
    simp only [List.reverse_singleton, true_iff]
    rintro rfl
    exact absurd hc (by decide)
  case isFalse =>
    split
    case isTrue hdot => simp [eq_of_beq hdot]
    case isFalse hdot => simpa using hdot

/-- A sigma has the same small letter from both ends if cased letters stand on both sides of it or
on neither. -/
theorem smallLetters_reverse_iff :
    smallLetters b c a = (smallLetters a c b).reverse ↔
      c ≠ '\u0130' ∧ (c = 'Σ' → leadsToCased a = leadsToCased b) := by
  unfold smallLetters
  by_cases hc : c = 'Σ'
  · subst hc
    have hdot : 'Σ' ≠ '\u0130' := by decide
    simp only [beq_self_eq_true, if_pos, List.reverse_singleton, List.cons.injEq, and_true,
      forall_const]
    rw [and_iff_right hdot]
    cases leadsToCased a <;> cases leadsToCased b <;> decide
  · rw [beq_false_of_ne hc, if_neg Bool.false_ne_true, if_neg Bool.false_ne_true,
      toLower_reverse_iff]
    simp [hc]

/-- **A text that reads the same in small letters from both ends**: there is no `İ` in it, and every
capital sigma has cased letters on both sides or on neither. -/
def Symmetric (t : Text) : Prop :=
  '\u0130' ∉ t ∧ ∀ a b, t = a ++ 'Σ' :: b → leadsToCased a.reverse = leadsToCased b

/-- **Reading a text from its end** and putting it in small letters can change places exactly if the
text is symmetric. -/
theorem lower_reverse_iff : lower t.reverse = (lower t).reverse ↔ t.Symmetric := by
  unfold lower
  rw [lowerAfter_eq, lowerAfter_eq, lowerBetween_reverse_iff]
  simp only [List.append_nil, smallLetters_reverse_iff]
  constructor
  · intro h
    refine ⟨fun hdot => ?_, fun a b hsplit => (h a 'Σ' b hsplit).2 rfl⟩
    obtain ⟨a, b, hsplit⟩ := List.append_of_mem hdot
    exact (h a _ b hsplit).1 rfl
  · rintro ⟨hdot, hsigma⟩ a c b rfl
    refine ⟨?_, ?_⟩
    · rintro rfl
      exact hdot (by simp)
    · rintro rfl
      exact hsigma a b rfl

end Kompositum.Text
