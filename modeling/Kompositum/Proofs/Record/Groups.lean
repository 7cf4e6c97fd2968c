import Mathlib.Data.Nat.Digits.Defs
import Kompositum.Proofs.Record.Spelling

/-!
# Numbers by their groups

The bytes of a number carry its digits in base 128, lowest first, and every byte but the last has
its high bit set. There may be more digits than the number needs. A reader takes them as long as
there are no more than ten and the number stays below 2⁶⁴; a writer writes the fewest.

* `ofGroups`: the number whose digits some bytes carry.
* `Whole`: the bytes of one number.
* `decode_eq_ok_iff`: which number is read, and how many bytes it takes.
* `decode_eq_truncated_iff`: when the bytes end inside the number.
* `Spells.eq_encode_or_longer`: no number is spelled by fewer bytes than it is written with.
* `decode_exactly`: what is written and what is read.
-/

namespace Kompositum.Varint

/-! ## The digits of a number -/

/-- **The number whose digits some bytes carry**: in base 128 and lowest first, each digit in the
seven low bits of a byte. -/
def ofGroups (bytes : Bytes) : Nat := Nat.ofDigits 128 (bytes.map fun b => b.toNat % 128)

theorem ofGroups_cons (b : UInt8) (bytes : Bytes) :
    ofGroups (b :: bytes) = b.toNat % 128 + 128 * ofGroups bytes := by
  rw [ofGroups, List.map_cons, Nat.ofDigits_cons]
  rfl

theorem ofGroups_single {b : UInt8} (hb : b < 128) : ofGroups [b] = b.toNat := by
  have hlow : b.toNat % 128 = b.toNat := Nat.mod_eq_of_lt (UInt8.lt_iff_toNat_lt.1 hb)
  rw [ofGroups, List.map_singleton, Nat.ofDigits_singleton, hlow]

theorem ofGroups_concat (bytes : Bytes) (b : UInt8) :
    ofGroups (bytes ++ [b]) = ofGroups bytes + 128 ^ bytes.length * (b.toNat % 128) := by
  rw [ofGroups, List.map_append, Nat.ofDigits_append, List.map_singleton, Nat.ofDigits_singleton,
    List.length_map]
  rfl

theorem ofGroups_lt (bytes : Bytes) : ofGroups bytes < 128 ^ bytes.length := by
  have hdigit : ∀ d ∈ bytes.map fun b => b.toNat % 128, d < 128 := by
    intro d hd
    obtain ⟨b, -, rfl⟩ := List.mem_map.1 hd
    exact Nat.mod_lt _ (by decide)
  have hlt := Nat.ofDigits_lt_base_pow_length (by decide) hdigit
  rwa [List.length_map] at hlt

/-- **The bytes of one number**, `front` and then `last`, where `i` bytes stand before them: all
but the last have their high bit set, the last is the tenth at most, and the tenth holds a single
bit. -/
structure Whole (i : Nat) (front : Bytes) (last : UInt8) : Prop where
  high : ∀ b ∈ front, 128 ≤ b
  low : last < 128
  few : i + front.length + 1 ≤ maxLength
  tenth : i + front.length + 1 = maxLength → last ≤ 1

variable {i : Nat} {b : UInt8} {front : Bytes} {last : UInt8}

/-- A byte before the others has its high bit set. -/
theorem whole_cons_iff : Whole i (b :: front) last ↔ 128 ≤ b ∧ Whole (i + 1) front last := by
  have hlen : i + (b :: front).length + 1 = i + 1 + front.length + 1 := by
    rw [List.length_cons]
    omega
  constructor
  · intro h
    obtain ⟨hb, hfront⟩ := List.forall_mem_cons.1 h.high
    refine ⟨hb, hfront, h.low, ?_, ?_⟩
    · rw [← hlen]
      exact h.few
    · rw [← hlen]
      exact h.tenth
  · rintro ⟨hb, h⟩
    refine ⟨List.forall_mem_cons.2 ⟨hb, h.high⟩, h.low, ?_, ?_⟩
    · rw [hlen]
      exact h.few
    · rw [hlen]
      exact h.tenth

/-- **The bytes of one number spell it.** -/
theorem Whole.spells (h : Whole i front last) :
    Spells (front ++ [last]) (ofGroups (front ++ [last])) := by
  induction front generalizing i with
  | nil =>
    rw [List.nil_append, ofGroups_single h.low]
    exact .last h.low
  | cons b front ih =>
    obtain ⟨hb, hrest⟩ := whole_cons_iff.1 h
    rw [List.cons_append, ofGroups_cons]
    exact .more (UInt8.not_lt.2 hb) (ih hrest)

/-- **There is room for the number**: it is below 2⁶⁴. -/
theorem Whole.le_largest (h : Whole 0 front last) :
    ofGroups (front ++ [last]) ≤ Count.largest := by
  have hfew : 0 + front.length + 1 ≤ 10 := h.few
  have hfront := ofGroups_lt front
  rw [ofGroups_concat, Count.largest]
  rcases Nat.lt_or_ge front.length 9 with hlt | hge
  · -- nine digits stay far below
    have hpow : 128 ^ front.length ≤ 128 ^ 8 := Nat.pow_le_pow_right (by decide) (by omega)
    have hlast : last.toNat % 128 ≤ 127 := by omega
    have hmul := Nat.mul_le_mul hpow hlast
    omega
  · -- of the tenth digit there is one bit
    have hlen : front.length = 9 := by omega
    have hten : 0 + front.length + 1 = maxLength := by rw [hlen, maxLength]
    have hone : last.toNat ≤ 1 := UInt8.le_iff_toNat_le.1 (h.tenth hten)
    rw [hlen] at hfront ⊢
    omega

/-! ## One byte more -/

theorem decodeFrom_of_le (hi : maxLength ≤ i) (value : Nat) (bytes : Bytes) :
    decodeFrom i value bytes = .error .overflow := by
  have hnot : ¬i < maxLength := Nat.not_lt.2 hi
  cases bytes with
  | nil => rw [decodeFrom, if_neg hnot]
  | cons b rest => simp only [decodeFrom, hi, decide_true, Bool.true_or, if_true]

/-- A byte without its high bit ends the number. -/
theorem decodeFrom_last (hb : b < 128) (i value : Nat) (rest : Bytes) :
    decodeFrom i value (b :: rest) =
      if i + 1 < maxLength ∨ i + 1 = maxLength ∧ b ≤ 1 then
        .ok (value + b.toNat * Nat.pow 128 i, i + 1)
      else .error .overflow := by
  have hlow : b.toNat % 128 = b.toNat := Nat.mod_eq_of_lt (UInt8.lt_iff_toNat_lt.1 hb)
  have hone : b ≤ 1 ↔ ¬1 < b.toNat := by
    rw [UInt8.le_iff_toNat_le, Nat.not_lt]
    rfl
  have hfits : (maxLength ≤ i ∨ i + 1 = maxLength ∧ 1 < b.toNat) ↔
      ¬(i + 1 < maxLength ∨ i + 1 = maxLength ∧ b ≤ 1) := by
    rw [hone]
    omega
  simp only [decodeFrom, hlow, Bool.or_eq_true, Bool.and_eq_true, decide_eq_true_eq, beq_iff_eq,
    hfits, ite_not, if_pos hb]

/-- A byte with its high bit is followed by another one, unless it is the tenth. -/
theorem decodeFrom_more (hb : 128 ≤ b) (i value : Nat) (rest : Bytes) :
    decodeFrom i value (b :: rest) =
      if i + 1 < maxLength then
        decodeFrom (i + 1) (value + b.toNat % 128 * Nat.pow 128 i) rest
      else .error .overflow := by
  have hnot : ¬b < 128 := UInt8.not_lt.2 hb
  by_cases hi : i + 1 < maxLength
  · have hfits : ¬(maxLength ≤ i ∨ i + 1 = maxLength ∧ 1 < b.toNat % 128) := by omega
    simp only [decodeFrom, Bool.or_eq_true, Bool.and_eq_true, decide_eq_true_eq, beq_iff_eq, hfits,
      if_false, if_neg hnot, if_pos hi]
  · -- the tenth byte is refused at once, or what should follow it is
    have hnext := decodeFrom_of_le (Nat.not_lt.1 hi) (value + b.toNat % 128 * Nat.pow 128 i) rest
    rw [if_neg hi, decodeFrom]
    simp only [if_neg hnot, hnext, ite_self]

/-! ## What is read -/

/-- **The bytes of one number are read as this number**, whatever follows them. -/
theorem decodeFrom_whole (h : Whole i front last) (value : Nat) (rest : Bytes) :
    decodeFrom i value (front ++ last :: rest) =
      .ok (value + ofGroups (front ++ [last]) * Nat.pow 128 i, i + front.length + 1) := by
  induction front generalizing i value with
  | nil =>
    have hfits : i + 1 < maxLength ∨ i + 1 = maxLength ∧ last ≤ 1 := by
      have hfew : i + 1 ≤ maxLength := h.few
      rcases Nat.lt_or_eq_of_le hfew with hlt | heq
      · exact .inl hlt
      · exact .inr ⟨heq, h.tenth heq⟩
    rw [List.nil_append, decodeFrom_last h.low, if_pos hfits, List.nil_append,
      ofGroups_single h.low]
    rfl
  | cons b front ih =>
    obtain ⟨hb, hrest⟩ := whole_cons_iff.1 h
    have hroom : i + 1 < maxLength := by
      have hfew := hrest.few
      omega
    have hpow : Nat.pow 128 (i + 1) = 128 * Nat.pow 128 i := Nat.pow_succ'
    have hsum : value + b.toNat % 128 * Nat.pow 128 i +
        ofGroups (front ++ [last]) * Nat.pow 128 (i + 1) =
          value + ofGroups (b :: front ++ [last]) * Nat.pow 128 i := by
      rw [List.cons_append, ofGroups_cons, hpow, Nat.add_mul, Nat.add_assoc, Nat.mul_left_comm,
        Nat.mul_assoc]
    have hlen : i + 1 + front.length + 1 = i + (b :: front).length + 1 := by
      rw [List.length_cons]
      omega
    rw [List.cons_append, decodeFrom_more hb, if_pos hroom, ih hrest, hsum, hlen]

/-- Where a number is read, there are the bytes of one. -/
theorem exists_whole_of_decodeFrom {i value n k : Nat} {bytes : Bytes}
    (h : decodeFrom i value bytes = .ok (n, k)) :
    ∃ front last rest, bytes = front ++ last :: rest ∧ Whole i front last := by
  induction bytes generalizing i value with
  | nil =>
    rw [decodeFrom] at h
    cases h
  | cons b bytes ih =>
    by_cases hb : b < 128
    · rw [decodeFrom_last hb] at h
      split at h
      · rename_i hfits
        refine ⟨[], b, bytes, rfl, by simp, hb, ?_, fun heq => ?_⟩
        · rw [List.length_nil]
          omega
        · rw [List.length_nil] at heq
          rcases hfits with hlt | ⟨-, hone⟩
          · omega
          · exact hone
      · cases h
    · have hhigh : 128 ≤ b := UInt8.not_lt.1 hb
      rw [decodeFrom_more hhigh] at h
      split at h
      · obtain ⟨front, last, rest, rfl, hwhole⟩ := ih h
        exact ⟨b :: front, last, rest, rfl, whole_cons_iff.2 ⟨hhigh, hwhole⟩⟩
      · cases h

/-- **What is read** is the number whose bytes stand at the beginning. -/
theorem decode_eq_ok_iff {bytes : Bytes} {n k : Nat} :
    decode bytes = .ok (n, k) ↔
      ∃ front last rest, bytes = front ++ last :: rest ∧ Whole 0 front last ∧
        n = ofGroups (front ++ [last]) ∧ k = front.length + 1 := by
  have hread : ∀ front last rest, Whole 0 front last →
      decode (front ++ last :: rest) = .ok (ofGroups (front ++ [last]), front.length + 1) := by
    intro front last rest hwhole
    have h := decodeFrom_whole hwhole 0 rest
    have hone : Nat.pow 128 0 = 1 := rfl
    rwa [hone, Nat.mul_one, Nat.zero_add, Nat.zero_add] at h
  constructor
  · intro h
    obtain ⟨front, last, rest, rfl, hwhole⟩ := exists_whole_of_decodeFrom h
    rw [hread front last rest hwhole] at h
    obtain ⟨rfl, rfl⟩ := Prod.mk.inj (Except.ok.inj h)
    exact ⟨front, last, rest, rfl, hwhole, rfl, rfl⟩
  · rintro ⟨front, last, rest, rfl, hwhole, rfl, rfl⟩
    exact hread front last rest hwhole

/-- A number takes no more bytes than there are, and no more than ten. -/
theorem length_le_of_decode {bytes : Bytes} {n k : Nat} (h : decode bytes = .ok (n, k)) :
    k ≤ bytes.length ∧ k ≤ maxLength := by
  obtain ⟨front, last, rest, rfl, hwhole, -, rfl⟩ := decode_eq_ok_iff.1 h
  have hfew := hwhole.few
  rw [List.length_append, List.length_cons]
  omega

theorem decodeFrom_eq_truncated_iff {i value : Nat} {bytes : Bytes} :
    decodeFrom i value bytes = .error .truncated ↔
      i + bytes.length < maxLength ∧ ∀ b ∈ bytes, 128 ≤ b := by
  induction bytes generalizing i value with
  | nil =>
    rw [decodeFrom]
    by_cases hi : i < maxLength
    · simp [hi]
    · simp [hi]
  | cons b bytes ih =>
    rw [List.forall_mem_cons, List.length_cons]
    by_cases hb : b < 128
    · -- the number ends here, or is too large
      have hnot : ¬128 ≤ b := UInt8.not_le.2 hb
      rw [decodeFrom_last hb]
      split
      · simp [hnot]
      · simp [hnot]
    · have hhigh : 128 ≤ b := UInt8.not_lt.1 hb
      rw [decodeFrom_more hhigh]
      split
      · have hlen : i + 1 + bytes.length = i + (bytes.length + 1) := by omega
        rw [ih, and_iff_right hhigh, hlen]
      · have hlong : ¬i + (bytes.length + 1) < maxLength := by omega
        simp [hlong]

/-- **The bytes end inside the number** if there are fewer than ten and all of them have their high
bit set. -/
theorem decode_eq_truncated_iff {bytes : Bytes} :
    decode bytes = .error .truncated ↔ bytes.length < maxLength ∧ ∀ b ∈ bytes, 128 ≤ b := by
  have h : decodeFrom 0 0 bytes = .error .truncated ↔
      0 + bytes.length < maxLength ∧ ∀ b ∈ bytes, 128 ≤ b := decodeFrom_eq_truncated_iff
  rwa [Nat.zero_add] at h

/-! ## The fewest bytes -/

theorem length_encode_pos (n : Nat) : 0 < (encode n).length := by
  rw [encode]
  split
  · exact Nat.one_pos
  · exact Nat.succ_pos _

/-- **No number is spelled by fewer bytes than it is written with**, and by as many only in the way
it is written. -/
theorem Spells.eq_encode_or_longer {bytes : Bytes} {n : Nat} (h : Spells bytes n) :
    bytes = encode n ∨ (encode n).length < bytes.length := by
  induction h with
  | @last b hb =>
    have hlt : b.toNat < 128 := UInt8.lt_iff_toNat_lt.1 hb
    have hbyte : b.toNat.toUInt8 = b := by rw [← UInt8.toNat_inj, toNat_last hlt]
    left
    rw [encode_of_lt hlt, hbyte]
  | @more b rest n hb hrest ih =>
    have hhigh : 128 ≤ b.toNat := UInt8.le_iff_toNat_le.1 (UInt8.not_lt.1 hb)
    have hbound : b.toNat < 256 := b.toNat_lt
    rcases Nat.lt_or_ge (b.toNat % 128 + 128 * n) 128 with hlt | hge
    · -- one byte would do, and here are two at least
      have hpos := length_encode_pos n
      right
      rw [encode_of_lt hlt, List.length_singleton, List.length_cons]
      rcases ih with rfl | hlonger
      · omega
      · omega
    · -- the lowest digit is the same, and the others are those of the rest
      have hdiv : (b.toNat % 128 + 128 * n) / 128 = n := by omega
      have hmod : 128 + (b.toNat % 128 + 128 * n) % 128 = b.toNat := by omega
      have hbyte : (128 + (b.toNat % 128 + 128 * n) % 128).toUInt8 = b := by
        rw [← UInt8.toNat_inj, toNat_more, hmod]
      rw [encode_of_le hge, hdiv, hbyte, List.length_cons, List.length_cons]
      rcases ih with rfl | hlonger
      · exact .inl rfl
      · exact .inr (Nat.succ_lt_succ hlonger)

/-- **Bytes that are read as a number and nothing more** are longer than what is written for it, or
just that. -/
theorem eq_encode_or_longer_of_decode {bytes : Bytes} {n : Nat}
    (h : decode bytes = .ok (n, bytes.length)) :
    bytes = encode n ∨ (encode n).length < bytes.length := by
  obtain ⟨front, last, rest, rfl, hwhole, rfl, hlen⟩ := decode_eq_ok_iff.1 h
  have hrest : rest = [] := by
    rw [List.length_append, List.length_cons] at hlen
    exact List.eq_nil_of_length_eq_zero (by omega)
  subst hrest
  exact hwhole.spells.eq_encode_or_longer

/-- **What is written and what is read.** A number below 2⁶⁴ is written in one to ten bytes, is read
from them whatever follows, and is spelled by no other bytes that are as few. What is read is the
number whose bytes stand at the beginning, if there are such bytes; if not, the bytes end inside a
number, or the number is too large. -/
theorem decode_exactly :
    (∀ n, n ≤ Count.largest →
      (∀ rest, decode (encode n ++ rest) = .ok (n, (encode n).length)) ∧
        1 ≤ (encode n).length ∧ (encode n).length ≤ maxLength ∧
        ∀ bytes, decode bytes = .ok (n, bytes.length) → bytes ≠ encode n →
          (encode n).length < bytes.length) ∧
    ∀ bytes,
      (∀ n k, decode bytes = .ok (n, k) ↔
        ∃ front last rest, bytes = front ++ last :: rest ∧ Whole 0 front last ∧
          n = ofGroups (front ++ [last]) ∧ k = front.length + 1) ∧
      (∀ n k, decode bytes = .ok (n, k) → n ≤ Count.largest) ∧
      (decode bytes = .error .truncated ↔
        bytes.length < maxLength ∧ ∀ b ∈ bytes, 128 ≤ b) ∧
      (decode bytes = .error .overflow ↔
        (¬∃ front last rest, bytes = front ++ last :: rest ∧ Whole 0 front last) ∧
          ¬(bytes.length < maxLength ∧ ∀ b ∈ bytes, 128 ≤ b)) := by
  constructor
  · intro n hn
    refine ⟨decode_encode hn, length_encode_pos n, length_encode_le hn, fun bytes hread hne => ?_⟩
    rcases eq_encode_or_longer_of_decode hread with heq | hlonger
    · exact absurd heq hne
    · exact hlonger
  · intro bytes
    have hok : (∃ front last rest, bytes = front ++ last :: rest ∧ Whole 0 front last) ↔
        ∃ p, decode bytes = .ok p := by
      constructor
      · rintro ⟨front, last, rest, hbytes, hwhole⟩
        exact ⟨_, decode_eq_ok_iff.2 ⟨front, last, rest, hbytes, hwhole, rfl, rfl⟩⟩
      · rintro ⟨⟨n, k⟩, hread⟩
        obtain ⟨front, last, rest, hbytes, hwhole, -, -⟩ := decode_eq_ok_iff.1 hread
        exact ⟨front, last, rest, hbytes, hwhole⟩
    refine ⟨fun n k => decode_eq_ok_iff, fun n k hread => ?_, decode_eq_truncated_iff, ?_⟩
    · obtain ⟨front, last, rest, -, hwhole, rfl, -⟩ := decode_eq_ok_iff.1 hread
      exact hwhole.le_largest
    · -- there are no other results
      rw [hok, ← decode_eq_truncated_iff]
      cases decode bytes with
      | ok p => simp
      | error fault => cases fault <;> simp

/-- The highest digit may be zero, but then there is a byte more than is written. -/
theorem decode_exactly_longer :
    300 ≤ Count.largest ∧ decode (encode 300) = .ok (300, 2) ∧
      decode [0xAC, 0x82, 0x00] = .ok (300, 3) ∧ [0xAC, 0x82, 0x00] ≠ encode 300 ∧
      (encode 300).length < [0xAC, 0x82, 0x00].length := by
  have hn : 300 ≤ Count.largest := by decide
  have hread : decode [0xAC, 0x82, 0x00] = .ok (300, 3) := by decide
  have hencode : encode 300 = [0xAC, 0x02] := by
    rw [encode_of_le (by decide), encode_of_lt (by decide)]
    decide
  have hne : [0xAC, 0x82, 0x00] ≠ encode 300 := by
    rw [hencode]
    decide
  obtain ⟨hback, -, -, hfewest⟩ := decode_exactly.1 300 hn
  refine ⟨hn, ?_, hread, hne, hfewest _ hread hne⟩
  have hall := hback []
  rw [List.append_nil] at hall
  rw [hall, hencode]
  rfl

end Kompositum.Varint
