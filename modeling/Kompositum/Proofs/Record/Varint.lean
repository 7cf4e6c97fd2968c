import Kompositum.Count
import Kompositum.Record.Varint

/-!
# Numbers of variable length there and back

* `decode_encode`: the bytes of a number, and whatever follows them, are read as this number.
* `length_encode_le`: a number below 2⁶⁴ takes at most ten bytes.
-/

namespace Kompositum.Varint

/-- A number of one group is its own byte. -/
theorem encode_of_lt {n : Nat} (h : n < 128) : encode n = [n.toUInt8] := by
  rw [encode, if_pos h]

/-- The lowest group comes first. -/
theorem encode_of_le {n : Nat} (h : 128 ≤ n) :
    encode n = (128 + n % 128).toUInt8 :: encode (n / 128) := by
  rw [encode, if_neg (Nat.not_lt.2 h)]

/-- Induction on the groups of a number. -/
theorem groups_induction {P : Nat → Prop} (last : ∀ n, n < 128 → P n)
    (more : ∀ n, 128 ≤ n → P (n / 128) → P n) (n : Nat) : P n := by
  induction n using Nat.strongRecOn with
  | ind n ih =>
    rcases Nat.lt_or_ge n 128 with h | h
    · exact last n h
    · exact more n h (ih _ (by omega))

theorem toNat_last {n : Nat} (h : n < 128) : n.toUInt8.toNat = n := by
  rw [Nat.toUInt8, UInt8.toNat_ofNat']
  omega

theorem toNat_more (n : Nat) : (128 + n % 128).toUInt8.toNat = 128 + n % 128 := by
  rw [Nat.toUInt8, UInt8.toNat_ofNat']
  omega

theorem last_lt {n : Nat} (h : n < 128) : n.toUInt8 < 128 := by
  rw [UInt8.lt_iff_toNat_lt, toNat_last h]
  exact h

theorem not_more_lt (n : Nat) : ¬(128 + n % 128).toUInt8 < 128 := by
  rw [UInt8.lt_iff_toNat_lt, toNat_more]
  exact Nat.not_lt.2 (Nat.le_add_right 128 _)

/-- What the groups after the first weigh is part of what all weigh. -/
theorem weight_div_le (n i : Nat) :
    n / 128 * Nat.pow 128 (i + 1) ≤ n * Nat.pow 128 i ∧
      n * Nat.pow 128 i = n % 128 * Nat.pow 128 i + n / 128 * Nat.pow 128 (i + 1) := by
  have hpow : Nat.pow 128 (i + 1) = Nat.pow 128 i * 128 := rfl
  have hsum : n * Nat.pow 128 i = n % 128 * Nat.pow 128 i + n / 128 * Nat.pow 128 (i + 1) := by
    calc n * Nat.pow 128 i = (n % 128 + 128 * (n / 128)) * Nat.pow 128 i := by
          rw [Nat.mod_add_div]
      _ = n % 128 * Nat.pow 128 i + n / 128 * Nat.pow 128 (i + 1) := by
          rw [hpow, Nat.add_mul, Nat.mul_comm (Nat.pow 128 i), ← Nat.mul_assoc,
            Nat.mul_comm 128]
  exact ⟨by omega, hsum⟩

/-- A number that has at least two groups does not begin with the tenth. -/
theorem lt_nine {n i : Nat} (hi : i ≤ 9) (h : 128 ≤ n) (hn : n * Nat.pow 128 i ≤ Count.largest) :
    i < 9 := by
  rcases Nat.lt_or_ge i 9 with hlt | hge
  · exact hlt
  · obtain rfl : i = 9 := by omega
    have hpow : Nat.pow 128 9 = 0x8000000000000000 := by decide
    rw [hpow, Count.largest] at hn
    omega

/-- From the `i`-th group on, what weighs less than 2⁶⁴ ends with the tenth group. -/
theorem add_length_encode_le {n i : Nat} (hi : i ≤ 9)
    (hn : n * Nat.pow 128 i ≤ Count.largest) : i + (encode n).length ≤ maxLength := by
  induction n using groups_induction generalizing i with
  | last n h =>
    rw [encode_of_lt h, maxLength, List.length_singleton]
    omega
  | more n h ih =>
    have hlt := lt_nine hi h hn
    have hrest := ih (i := i + 1) (by omega) (Nat.le_trans (weight_div_le n i).1 hn)
    rw [encode_of_le h, List.length_cons]
    omega

/-- **A number below 2⁶⁴ takes at most ten bytes.** -/
theorem length_encode_le {n : Nat} (h : n ≤ Count.largest) : (encode n).length ≤ maxLength := by
  have hn : n * Nat.pow 128 0 = n := Nat.mul_one n
  have := add_length_encode_le (n := n) (i := 0) (Nat.zero_le 9) (by rwa [hn])
  omega

/-- Reading the groups from the `i`-th on. -/
theorem decodeFrom_encode {n i : Nat} (value : Nat) (rest : Bytes) (hi : i ≤ 9)
    (hn : n * Nat.pow 128 i ≤ Count.largest) :
    decodeFrom i value (encode n ++ rest) =
      .ok (value + n * Nat.pow 128 i, i + (encode n).length) := by
  induction n using groups_induction generalizing i value with
  | last n h =>
    have hgroup : n.toUInt8.toNat % 128 = n := by rw [toNat_last h, Nat.mod_eq_of_lt h]
    -- the tenth group is the last, and only its lowest bit is free
    have htenth : ¬(i + 1 = maxLength ∧ 1 < n) := by
      rintro ⟨hten, hn1⟩
      obtain rfl : i = 9 := by simpa [maxLength] using hten
      have hpow : Nat.pow 128 9 = 0x8000000000000000 := by decide
      rw [hpow, Count.largest] at hn
      omega
    have hfits : ¬maxLength ≤ i := by rw [maxLength]; omega
    rw [encode_of_lt h, List.singleton_append, decodeFrom]
    simp only [hgroup, Bool.or_eq_true, Bool.and_eq_true, decide_eq_true_eq, beq_iff_eq, hfits,
      htenth, or_self, if_false, if_pos (last_lt h), List.length_singleton]
  | more n h ih =>
    have hlt := lt_nine hi h hn
    obtain ⟨hle, hsum⟩ := weight_div_le n i
    have hgroup : (128 + n % 128).toUInt8.toNat % 128 = n % 128 := by
      rw [toNat_more]
      omega
    -- a further group follows, so this is not the tenth
    have htenth : ¬(i + 1 = maxLength ∧ 1 < n % 128) := by
      rw [maxLength]
      omega
    have hfits : ¬maxLength ≤ i := by rw [maxLength]; omega
    rw [encode_of_le h, List.cons_append, decodeFrom]
    simp only [hgroup, Bool.or_eq_true, Bool.and_eq_true, decide_eq_true_eq, beq_iff_eq, hfits,
      htenth, or_self, if_false, if_neg (not_more_lt n), List.length_cons]
    rw [ih _ (by omega) (Nat.le_trans hle hn), hsum]
    simp only [Nat.add_assoc, Nat.add_comm 1]

/-- **The bytes of a number**, and whatever follows them, are read as this number. -/
theorem decode_encode {n : Nat} (h : n ≤ Count.largest) (rest : Bytes) :
    decode (encode n ++ rest) = .ok (n, (encode n).length) := by
  have hn : n * Nat.pow 128 0 = n := Nat.mul_one n
  have hread := decodeFrom_encode 0 rest (Nat.zero_le 9) (n := n) (by rwa [hn])
  rwa [hn, Nat.zero_add, Nat.zero_add] at hread

end Kompositum.Varint
