import Kompositum.Count
import Kompositum.Time.Moment
import Mathlib.Algebra.Group.Nat.Defs

/-!
# Decimal digits

A number that is written in decimal digits is read as this number, also with zeros in front.

* `Count.ofDigits?_eq`: the number of some digits.
* `Count.ofDigits?_ofNat`, `Moment.ofDigits?_padded`: a number there and back.
-/

namespace Kompositum

namespace Count

theorem digit?_of_isDigit {c : Char} (h : c.isDigit = true) : digit? c = some (c.toNat - 48) := by
  unfold digit?
  rw [if_pos]
  simpa [Char.isDigit, Char.le_def] using h

theorem isDigit_of_digit? {c : Char} (h : (digit? c).isSome = true) : c.isDigit = true := by
  unfold digit? at h
  split at h
  · rename_i hc
    simpa [Char.isDigit, Char.le_def] using hc
  · cases h

theorem continued?_eq {t : Text} (h : ∀ c ∈ t, c.isDigit = true) (n : Nat) :
    continued? n t = some (Nat.ofDigitChars 10 t n) := by
  induction t generalizing n with
  | nil => rfl
  | cons c t ih =>
    have hrest := ih (fun d hd => h d (List.mem_cons_of_mem c hd)) (n * 10 + (c.toNat - 48))
    rw [continued?, digit?_of_isDigit (h c List.mem_cons_self), Option.bind_some, hrest,
      Nat.ofDigitChars_cons, Nat.mul_comm n 10]
    rfl

/-- **The number of some digits.** -/
theorem ofDigits?_eq {t : Text} (hne : t ≠ []) (h : ∀ c ∈ t, c.isDigit = true) :
    ofDigits? t = some (Nat.ofDigitChars 10 t 0) := by
  obtain ⟨c, u, rfl⟩ := List.exists_cons_of_ne_nil hne
  exact continued?_eq h 0

end Count

namespace Text

theorem toNat_bounds_of_isDigit {c : Char} (h : c.isDigit = true) :
    48 ≤ c.toNat ∧ c.toNat ≤ 57 := by
  simpa [Char.isDigit, Char.le_def, UInt32.le_iff_toNat_le] using h

theorem isDigit_of_mem_ofNat {n : Nat} {c : Char} (h : c ∈ ofNat n) : c.isDigit = true :=
  Nat.isDigit_of_mem_toDigits (by decide) (by decide) h

/-- Digits hold no other characters. -/
theorem not_mem_ofNat {c : Char} (h : c.isDigit = false) (n : Nat) : c ∉ ofNat n := by
  intro hc
  rw [isDigit_of_mem_ofNat hc] at h
  cases h

theorem ofNat_ne_nil (n : Nat) : ofNat n ≠ [] := Nat.toDigits_ne_nil

/-- Only the number 0 begins with a zero. -/
theorem head?_ofNat_ne {n : Nat} (h : n ≠ 0) : (ofNat n).head? ≠ some '0' := by
  unfold ofNat
  induction n using Nat.strongRecOn with
  | _ n ih =>
    by_cases hn : n < 10
    · rw [Nat.toDigits_of_lt_base hn, List.head?_cons, Ne, Option.some.injEq,
        Nat.digitChar_eq_zero]
      exact h
    · rw [Nat.toDigits_of_base_le (by decide) (by omega), List.head?_append]
      have hfirst := ih (n / 10) (by omega) (by omega)
      cases hhead : (Nat.toDigits 10 (n / 10)).head? with
      | none => exact absurd (List.head?_eq_none_iff.1 hhead) Nat.toDigits_ne_nil
      | some c =>
        rw [hhead] at hfirst
        exact hfirst

end Text

namespace Count

/-- **A number** is read as it is written. -/
theorem ofDigits?_ofNat (n : Nat) : ofDigits? (Text.ofNat n) = some n := by
  rw [ofDigits?_eq (Text.ofNat_ne_nil n) fun c hc => Text.isDigit_of_mem_ofNat hc]
  exact congrArg some Nat.ofDigitChars_ten_toDigits

end Count

namespace Moment

theorem isDigit_of_mem_padded {width n : Nat} {c : Char} (h : c ∈ padded width n) :
    c.isDigit = true := by
  rcases List.mem_append.1 h with h | h
  · rw [List.eq_of_mem_replicate h]
    rfl
  · exact Text.isDigit_of_mem_ofNat h

theorem padded_ne_nil (width n : Nat) : padded width n ≠ [] := by
  unfold padded
  exact List.append_ne_nil_of_right_ne_nil _ (Text.ofNat_ne_nil n)

/-- A number that has room takes all of it. -/
theorem length_padded {width n : Nat} (hpos : 0 < width) (h : n < 10 ^ width) :
    (padded width n).length = width := by
  have hlen : (Text.ofNat n).length ≤ width :=
    (Nat.length_toDigits_le_iff (by decide) hpos).2 h
  unfold padded
  rw [List.length_append, List.length_replicate]
  omega

/-- **A number with zeros in front** is read as this number. -/
theorem ofDigits?_padded (width n : Nat) : Count.ofDigits? (padded width n) = some n := by
  rw [Count.ofDigits?_eq (padded_ne_nil width n) fun c hc => isDigit_of_mem_padded hc]
  unfold padded
  rw [Nat.ofDigitChars_append, Nat.ofDigitChars_replicate_zero, Nat.mul_zero]
  exact congrArg some Nat.ofDigitChars_ten_toDigits

end Moment

end Kompositum
