import Kompositum.Ranking.Basic
import Mathlib.Data.Int.Order.Basic
import Mathlib.Data.Prod.Lex
import Mathlib.Order.Nat

/-!
# The order of usable scores

Floats are not ordered by `<`: nothing is known of a score that is no number, and the two zeros are
different and equal. The scores that count are ordered, for each of them is a mantissa and an
exponent in the one form that its format has for it.

* `magnitude`: the exponent and the mantissa of a score, the exponent first.
* `lt_iff_magnitude_lt`, `le_iff_magnitude_le`, `beq_iff_magnitude_eq`: usable scores are compared by
  it, so that they are in a linear order.
-/

namespace Kompositum.Ranking

open Float.Model (UnpackedFloat)

variable {s t : Float}

/-- **The exponent and the mantissa** of a score, of which the exponent is compared first. -/
def magnitude (score : Float) : ℤ ×ₗ ℕ :=
  match score.toModel.unpack with
  | .finite _ m e _ => toLex (e, m)
  | _ => toLex (0, 0)

theorem magnitude_of_unpack {sign : UnpackedFloat.Sign} {m : ℕ} {e : ℤ} {hm : 0 < m}
    (h : s.toModel.unpack = .finite sign m e hm) : magnitude s = toLex (e, m) := by
  unfold magnitude
  rw [h]

/-- A usable score is a positive number. -/
theorem unpack_of_isUsable (h : isUsable s = true) :
    ∃ m e hm, s.toModel.unpack = .finite .positive m e hm := by
  unfold isUsable at h
  rw [Bool.and_eq_true, decide_eq_true_eq] at h
  have hfinite : s.toModel.unpack.isFinite = true := h.1
  have hlt : decide ((0 : Float).toModel < s.toModel) = true := h.2
  have hpositive : UnpackedFloat.lt (0 : Float).toModel.unpack s.toModel.unpack = true :=
    of_decide_eq_true hlt
  have hzero : (0 : Float).toModel.unpack = .zero .positive := rfl
  rw [hzero] at hpositive
  cases hs : s.toModel.unpack with
  | infinity sign =>
    rw [hs] at hfinite
    cases hfinite
  | notANumber =>
    rw [hs] at hfinite
    cases hfinite
  | zero sign =>
    rw [hs] at hpositive
    cases hpositive
  | finite sign m e hm =>
    cases sign with
    | negative =>
      rw [hs] at hpositive
      cases hpositive
    | positive => exact ⟨m, e, hm, rfl⟩

/-- **Usable scores are compared** by their exponents, and with the same exponent by their
mantissas. -/
theorem lt_iff_magnitude_lt (hs : isUsable s = true) (ht : isUsable t = true) :
    s < t ↔ magnitude s < magnitude t := by
  obtain ⟨m, e, hm, hsu⟩ := unpack_of_isUsable hs
  obtain ⟨n, f, hn, htu⟩ := unpack_of_isUsable ht
  have hlt : s < t ↔ UnpackedFloat.lt s.toModel.unpack t.toModel.unpack = true := by
    show decide (s.toModel < t.toModel) = true ↔ _
    rw [decide_eq_true_eq]
    exact Iff.rfl
  rw [hlt, hsu, htu, magnitude_of_unpack hsu, magnitude_of_unpack htu, Prod.Lex.toLex_lt_toLex]
  unfold UnpackedFloat.lt UnpackedFloat.compare
  rw [beq_iff_eq, Option.some.injEq, Ordering.then_eq_lt, Int.compare_eq_lt, Int.compare_eq_eq,
    Nat.compare_eq_lt]

theorem le_iff_magnitude_le (hs : isUsable s = true) (ht : isUsable t = true) :
    s ≤ t ↔ magnitude s ≤ magnitude t := by
  obtain ⟨m, e, hm, hsu⟩ := unpack_of_isUsable hs
  obtain ⟨n, f, hn, htu⟩ := unpack_of_isUsable ht
  have hle : s ≤ t ↔ UnpackedFloat.le s.toModel.unpack t.toModel.unpack = true := by
    show decide (s.toModel ≤ t.toModel) = true ↔ _
    rw [decide_eq_true_eq]
    exact Iff.rfl
  rw [hle, hsu, htu, magnitude_of_unpack hsu, magnitude_of_unpack htu, Prod.Lex.toLex_le_toLex]
  unfold UnpackedFloat.le UnpackedFloat.compare
  rw [Option.any_some, Ordering.isLE_then_iff_or, Int.compare_eq_lt, Int.compare_eq_eq,
    Nat.isLE_compare]

theorem beq_iff_magnitude_eq (hs : isUsable s = true) (ht : isUsable t = true) :
    (s == t) = true ↔ magnitude s = magnitude t := by
  obtain ⟨m, e, hm, hsu⟩ := unpack_of_isUsable hs
  obtain ⟨n, f, hn, htu⟩ := unpack_of_isUsable ht
  have hbeq : (s == t) = UnpackedFloat.beq s.toModel.unpack t.toModel.unpack := rfl
  rw [hbeq, hsu, htu, magnitude_of_unpack hsu, magnitude_of_unpack htu,
    EmbeddingLike.apply_eq_iff_eq, Prod.mk.injEq]
  unfold UnpackedFloat.beq UnpackedFloat.compare
  rw [beq_iff_eq, Option.some.injEq, Ordering.then_eq_eq, Int.compare_eq_eq, Nat.compare_eq_eq]

end Kompositum.Ranking
