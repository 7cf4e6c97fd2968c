import Kompositum.Proofs.Text.Apart

/-!
# Stray sigmas

Where a text is put in small letters part by part, a capital sigma is stray if it ends a word in its
part and not in the whole, or the other way round. Its small letter is then the other one, and all
other letters are the same.

* `Stray`: the small letters that differ.
* `stray_iff`: no others do.
* `flatten_map_lower_congr_iff`: two ways to part a text have the same small letters exactly if the
  same ones are stray.
-/

namespace Kompositum.Text

open Character

variable {parts parts' : List Text} {a b t : Text} {c : Char} {k n : Nat}

/-! ## Where small letters stand -/

theorem length_lower_append (s t : Text) :
    (lower (s ++ t)).length = (lower s).length + (lower t).length := by
  rw [length_lower, length_lower, length_lower, List.length_append, List.count_append]
  omega

theorem length_flatten_map_lower (parts : List Text) :
    (parts.map lower).flatten.length = (lower parts.flatten).length := by
  induction parts with
  | nil => rfl
  | cons p parts ih =>
    rw [List.map_cons, List.flatten_cons, List.flatten_cons, List.length_append, ih,
      length_lower_append]

theorem lower_singleton (c : Char) : lower [c] = smallLetters [] c [] := by
  unfold lower
  rw [lowerAfter_eq, lowerBetween, lowerBetween, List.append_nil, List.append_nil]

/-- The small letters of a character stand after those of what comes before it. -/
theorem getElem?_lower (hk : k < (smallLetters a.reverse c b).length) :
    (lower (a ++ c :: b))[(lower a).length + k]? = (smallLetters a.reverse c b)[k]? := by
  have hlower : lower (a ++ c :: b) = lowerBetween [] a (c :: b) ++
      (smallLetters a.reverse c b ++ lowerBetween (c :: a.reverse) b []) := by
    unfold lower
    rw [lowerAfter_eq, lowerBetween_append, lowerBetween, List.append_nil, List.append_nil,
      List.append_nil]
  have hlength : (lowerBetween [] a (c :: b)).length = (lower a).length := by
    rw [length_lowerBetween, length_lower]
  rw [hlower, ← hlength, List.getElem?_append_right (Nat.le_add_right _ _), Nat.add_sub_cancel_left,
    List.getElem?_append_left hk]

theorem getElem?_flatten_map_lower (before after : List Text)
    (hk : k < (smallLetters a.reverse c b).length) :
    ((before ++ (a ++ c :: b) :: after).map lower).flatten[
      (lower (before.flatten ++ a)).length + k]? = (smallLetters a.reverse c b)[k]? := by
  have hpart : (lower a).length + k < (lower (a ++ c :: b)).length := by
    have hcons : (lower (c :: b)).length = (lower [c]).length + (lower b).length :=
      length_lower_append [c] b
    have hsame : (lower [c]).length = (smallLetters a.reverse c b).length := by
      rw [lower_singleton]
      exact length_smallLetters _ _ _ _ c
    rw [length_lower_append]
    omega
  rw [length_lower_append, List.map_append, List.map_cons, List.flatten_append, List.flatten_cons,
    ← length_flatten_map_lower, Nat.add_assoc, List.getElem?_append_right (Nat.le_add_right _ _),
    Nat.add_sub_cancel_left, List.getElem?_append_left hpart, getElem?_lower hk]

/-- Every small letter is one of a character. -/
theorem exists_place (hn : n < (lower t).length) :
    ∃ a c b k, t = a ++ c :: b ∧ n = (lower a).length + k ∧ k < (smallLetters [] c []).length := by
  induction t generalizing n with
  | nil => exact absurd hn (Nat.not_lt_zero n)
  | cons c t ih =>
    have hcons : (lower (c :: t)).length = (lower [c]).length + (lower t).length :=
      length_lower_append [c] t
    by_cases hfirst : n < (lower [c]).length
    · refine ⟨[], c, t, n, rfl, (Nat.zero_add n).symm, ?_⟩
      rwa [← lower_singleton]
    · obtain ⟨a, d, b, k, rfl, hk, hlt⟩ := ih (n := n - (lower [c]).length) (by omega)
      refine ⟨c :: a, d, b, k, rfl, ?_, hlt⟩
      have hahead : (lower (c :: a)).length = (lower [c]).length + (lower a).length :=
        length_lower_append [c] a
      omega

/-- Every small letter is one of a character in one of the parts. -/
theorem exists_place_flatten (hn : n < (lower parts.flatten).length) :
    ∃ before a c b after k, parts = before ++ (a ++ c :: b) :: after ∧
      n = (lower (before.flatten ++ a)).length + k ∧ k < (smallLetters [] c []).length := by
  induction parts generalizing n with
  | nil => exact absurd hn (Nat.not_lt_zero n)
  | cons p parts ih =>
    rw [List.flatten_cons, length_lower_append] at hn
    by_cases hfirst : n < (lower p).length
    · obtain ⟨a, c, b, k, rfl, hk, hlt⟩ := exists_place hfirst
      exact ⟨[], a, c, b, parts, k, rfl, hk, hlt⟩
    · obtain ⟨before, a, c, b, after, k, rfl, hk, hlt⟩ := ih (n := n - (lower p).length) (by omega)
      refine ⟨p :: before, a, c, b, after, k, rfl, ?_, hlt⟩
      rw [List.flatten_cons, List.append_assoc, length_lower_append]
      omega

/-! ## Strays -/

/-- **A small letter is stray** if it is that of a capital sigma which ends a word in its part and
not in the whole, or the other way round. -/
def Stray (parts : List Text) (n : Nat) : Prop :=
  ∃ before a b after, parts = before ++ (a ++ 'Σ' :: b) :: after ∧
    n = (lower (before.flatten ++ a)).length ∧
    endsWord a b ≠ endsWord (before.flatten ++ a) (b ++ after.flatten)

/-- **A stray letter** is one sigma in its part and the other one in the whole. -/
theorem Stray.letters (h : Stray parts n) :
    ∃ x y, x ≠ y ∧ (parts.map lower).flatten[n]? = some (smallSigma x) ∧
      (lower parts.flatten)[n]? = some (smallSigma y) := by
  obtain ⟨before, a, b, after, rfl, rfl, hne⟩ := h
  refine ⟨_, _, hne, ?_, ?_⟩
  · have hk : 0 < (smallLetters a.reverse 'Σ' b).length := Nat.zero_lt_one
    have hletter := getElem?_flatten_map_lower before after hk
    rw [smallLetters_sigma, List.getElem?_cons_zero] at hletter
    exact hletter
  · have hflatten : (before ++ (a ++ 'Σ' :: b) :: after).flatten =
        (before.flatten ++ a) ++ 'Σ' :: (b ++ after.flatten) := by simp
    have hk : 0 < (smallLetters (before.flatten ++ a).reverse 'Σ' (b ++ after.flatten)).length :=
      Nat.zero_lt_one
    have hletter := getElem?_lower hk
    rw [smallLetters_sigma, List.getElem?_cons_zero] at hletter
    rw [hflatten]
    exact hletter

theorem not_stray (h : 'Σ' ∉ parts.flatten) (n : Nat) : ¬Stray parts n := by
  rintro ⟨before, a, b, after, rfl, -⟩
  exact h (by simp)

/-- **Stray letters** are those that are others in the whole. -/
theorem stray_iff :
    Stray parts n ↔ (parts.map lower).flatten[n]? ≠ (lower parts.flatten)[n]? := by
  constructor
  · intro h heq
    obtain ⟨x, y, hne, hx, hy⟩ := h.letters
    rw [hx, hy, Option.some.injEq, smallSigma_inj] at heq
    exact hne heq
  · intro hne
    by_cases hn : n < (lower parts.flatten).length
    case neg =>
      have hlength := length_flatten_map_lower parts
      rw [List.getElem?_eq_none (by omega), List.getElem?_eq_none (by omega)] at hne
      exact absurd rfl hne
    case pos =>
      obtain ⟨before, a, c, b, after, k, rfl, rfl, hk⟩ := exists_place_flatten hn
      have hflatten : (before ++ (a ++ c :: b) :: after).flatten =
          (before.flatten ++ a) ++ c :: (b ++ after.flatten) := by simp
      have hpart : k < (smallLetters a.reverse c b).length := by
        rwa [length_smallLetters _ _ [] [] c]
      have hwhole : k < (smallLetters (before.flatten ++ a).reverse c
          (b ++ after.flatten)).length := by
        rwa [length_smallLetters _ _ [] [] c]
      rw [getElem?_flatten_map_lower before after hpart, hflatten, getElem?_lower hwhole] at hne
      have hends : ¬(c = 'Σ' → endsWord a b =
          endsWord (before.flatten ++ a) (b ++ after.flatten)) := by
        rw [← smallLetters_eq_iff]
        intro heq
        rw [heq] at hne
        exact hne rfl
      obtain ⟨rfl, hdiffers⟩ := Classical.not_imp.1 hends
      have hzero : k = 0 := by
        have : k < 1 := hk
        omega
      exact ⟨before, a, b, after, rfl, by rw [hzero, Nat.add_zero], hdiffers⟩

/-- **Two ways to part a text** have the same small letters exactly if the same ones are stray. -/
theorem flatten_map_lower_congr_iff (h : lower parts.flatten = lower parts'.flatten) :
    (parts.map lower).flatten = (parts'.map lower).flatten ↔
      ∀ n, Stray parts n ↔ Stray parts' n := by
  constructor
  · intro hsame n
    rw [stray_iff, stray_iff, hsame, h]
  · intro hstray
    refine List.ext_getElem? fun n => ?_
    by_cases hn : Stray parts n
    · -- both parts show the sigma that the whole does not
      obtain ⟨x, y, hne, hx, hy⟩ := hn.letters
      obtain ⟨x', y', hne', hx', hy'⟩ := ((hstray n).1 hn).letters
      rw [h, hy', Option.some.injEq, smallSigma_inj] at hy
      obtain rfl := hy
      have hxx : x = x' := by
        rw [Bool.eq_not_of_ne hne, Bool.eq_not_of_ne hne']
      rw [hx, hx', hxx]
    · have hparts := Decidable.of_not_not (mt stray_iff.2 hn)
      have hparts' := Decidable.of_not_not (mt stray_iff.2 (mt (hstray n).2 hn))
      rw [hparts, hparts', h]

end Kompositum.Text
