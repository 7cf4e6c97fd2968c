import Kompositum.Proofs.Outcome
import Kompositum.Text.Utf8

/-!
# UTF-8 there and back

* `decode_encode`: the bytes of a text are read as this text.
* `size_le_of_decode`: a text takes no more bytes than it was read from.
-/

namespace Kompositum.Utf8

/-! ## One character -/

theorem toNat_toUInt8 {n : Nat} (h : n < 256) : n.toUInt8.toNat = n := by
  rw [Nat.toUInt8, UInt8.toNat_ofNat', Nat.mod_eq_of_lt h]

/-- The byte that continues a character with its last six bits. -/
def tail (m : Nat) : UInt8 := (0x80 + m % 64).toUInt8

theorem toNat_tail (m : Nat) : (tail m).toNat = 0x80 + m % 64 := toNat_toUInt8 (by omega)

theorem isTail_tail (m : Nat) : isTail (tail m) = true := by
  simp only [isTail, Bool.and_eq_true, decide_eq_true_eq, UInt8.le_iff_toNat_le, toNat_tail]
  exact ⟨Nat.le_add_right _ _, by simp; omega⟩

/-- The bytes of a character, by the size of its code point. -/
theorem encodeChar_eq (c : Char) :
    encodeChar c =
      if c.toNat < 0x80 then [c.toNat.toUInt8]
      else if c.toNat < 0x800 then [(0xC0 + c.toNat / 0x40).toUInt8, tail c.toNat]
      else if c.toNat < 0x10000 then
        [(0xE0 + c.toNat / 0x1000).toUInt8, tail (c.toNat / 0x40), tail c.toNat]
      else
        [(0xF0 + c.toNat / 0x40000).toUInt8, tail (c.toNat / 0x1000), tail (c.toNat / 0x40),
          tail c.toNat] := rfl

/-- A number that is no code point stands for the first character. -/
theorem toNat_ofNat (n : Nat) : (Char.ofNat n).toNat = n ∨ (Char.ofNat n).toNat = 0 := by
  unfold Char.ofNat
  by_cases hvalid : n.isValidChar
  · rw [dif_pos hvalid]
    exact .inl rfl
  · rw [dif_neg hvalid]
    exact .inr rfl

/-- A code point lies below the surrogates, or above them and below U+110000. -/
theorem toNat_lt (c : Char) : c.toNat < 0xD800 ∨ 0xDFFF < c.toNat ∧ c.toNat < 0x110000 := c.valid

variable {a b c d : UInt8} {i : Nat} {rest : Bytes}

theorem decodeFrom_one (ha : a.toNat < 0x80) :
    decodeFrom i (a :: rest) = (decodeFrom (i + 1) rest).map (Char.ofNat a.toNat :: ·) := by
  have h1 : a < 0x80 := UInt8.lt_iff_toNat_lt.2 ha
  rw [decodeFrom.eq_def]
  simp only [if_pos h1]
  rfl

theorem decodeFrom_two (ha : 0xC2 ≤ a.toNat) (ha' : a.toNat ≤ 0xDF) (hb : isTail b = true) :
    decodeFrom i (a :: b :: rest) =
      (decodeFrom (i + 2) rest).map (assemble (a.toNat - 0xC0) [b] :: ·) := by
  have h1 : ¬a < 0x80 := UInt8.not_lt.2 (UInt8.le_iff_toNat_le.2 (Nat.le_trans (by decide) ha))
  have h2 : 0xC2 ≤ a ∧ a ≤ 0xDF := ⟨UInt8.le_iff_toNat_le.2 ha, UInt8.le_iff_toNat_le.2 ha'⟩
  rw [decodeFrom.eq_def]
  simp only [if_neg h1, Bool.and_eq_true, decide_eq_true_eq, if_pos h2, if_pos hb]
  rfl

theorem decodeFrom_three (ha : 0xE0 ≤ a.toNat) (ha' : a.toNat ≤ 0xEF)
    (hb : begins3 a b = true) (hc : isTail c = true) :
    decodeFrom i (a :: b :: c :: rest) =
      (decodeFrom (i + 3) rest).map (assemble (a.toNat - 0xE0) [b, c] :: ·) := by
  have h1 : ¬a < 0x80 := UInt8.not_lt.2 (UInt8.le_iff_toNat_le.2 (Nat.le_trans (by decide) ha))
  have h2 : ¬(0xC2 ≤ a ∧ a ≤ 0xDF) := fun h =>
    absurd (Nat.le_trans ha (UInt8.le_iff_toNat_le.1 h.2)) (by decide)
  have h3 : 0xE0 ≤ a ∧ a ≤ 0xEF := ⟨UInt8.le_iff_toNat_le.2 ha, UInt8.le_iff_toNat_le.2 ha'⟩
  rw [decodeFrom.eq_def]
  simp only [if_neg h1, Bool.and_eq_true, decide_eq_true_eq, if_neg h2, if_pos h3, hb, hc]
  rfl

theorem decodeFrom_four (ha : 0xF0 ≤ a.toNat) (ha' : a.toNat ≤ 0xF4)
    (hb : begins4 a b = true) (hc : isTail c = true) (hd : isTail d = true) :
    decodeFrom i (a :: b :: c :: d :: rest) =
      (decodeFrom (i + 4) rest).map (assemble (a.toNat - 0xF0) [b, c, d] :: ·) := by
  have h1 : ¬a < 0x80 := UInt8.not_lt.2 (UInt8.le_iff_toNat_le.2 (Nat.le_trans (by decide) ha))
  have h2 : ¬(0xC2 ≤ a ∧ a ≤ 0xDF) := fun h =>
    absurd (Nat.le_trans ha (UInt8.le_iff_toNat_le.1 h.2)) (by decide)
  have h3 : ¬(0xE0 ≤ a ∧ a ≤ 0xEF) := fun h =>
    absurd (Nat.le_trans ha (UInt8.le_iff_toNat_le.1 h.2)) (by decide)
  have h4 : 0xF0 ≤ a ∧ a ≤ 0xF4 := ⟨UInt8.le_iff_toNat_le.2 ha, UInt8.le_iff_toNat_le.2 ha'⟩
  rw [decodeFrom.eq_def]
  simp only [if_neg h1, Bool.and_eq_true, decide_eq_true_eq, if_neg h2, if_neg h3, if_pos h4, hb,
    hc, hd]
  rfl

theorem begins3_tail {m : Nat} (ha : a.toNat = 0xE0 + m / 0x40) (hlow : 0x20 ≤ m)
    (hm : m < 0x360 ∨ 0x37F < m ∧ m < 0x400) : begins3 a (tail m) = true := by
  have ht := toNat_tail m
  simp only [begins3, beq_iff_eq, ← UInt8.toNat_inj]
  split
  · rename_i h
    simp only [Bool.and_eq_true, decide_eq_true_eq, UInt8.le_iff_toNat_le, ht]
    simp at h ⊢
    omega
  · split
    · rename_i h
      simp only [Bool.and_eq_true, decide_eq_true_eq, UInt8.le_iff_toNat_le, ht]
      simp at h ⊢
      omega
    · exact isTail_tail m

theorem begins4_tail {m : Nat} (ha : a.toNat = 0xF0 + m / 0x40) (hlow : 0x10 ≤ m)
    (hm : m < 0x110) : begins4 a (tail m) = true := by
  have ht := toNat_tail m
  simp only [begins4, beq_iff_eq, ← UInt8.toNat_inj]
  split
  · rename_i h
    simp only [Bool.and_eq_true, decide_eq_true_eq, UInt8.le_iff_toNat_le, ht]
    simp at h ⊢
    omega
  · split
    · rename_i h
      simp only [Bool.and_eq_true, decide_eq_true_eq, UInt8.le_iff_toNat_le, ht]
      simp at h ⊢
      omega
    · exact isTail_tail m

/-- **The bytes of a character begin with this character.** -/
theorem decodeFrom_encodeChar (c : Char) (i : Nat) (rest : Bytes) :
    ∃ j, decodeFrom i (encodeChar c ++ rest) = (decodeFrom j rest).map (c :: ·) := by
  have hc := toNat_lt c
  have hchar := Char.ofNat_toNat c
  rw [encodeChar_eq]
  generalize c.toNat = n at hc hchar
  split
  · have hlead := toNat_toUInt8 (n := n) (by omega)
    refine ⟨i + 1, ?_⟩
    rw [List.singleton_append, decodeFrom_one (by omega), hlead, hchar]
  · split
    · have hlead := toNat_toUInt8 (n := 0xC0 + n / 0x40) (by omega)
      have hval : assemble (0xC0 + n / 0x40 - 0xC0) [tail n] = c := by
        rw [← hchar]
        refine congrArg Char.ofNat ?_
        simp only [List.foldl_cons, List.foldl_nil, toNat_tail]
        omega
      refine ⟨i + 2, ?_⟩
      rw [List.cons_append, List.singleton_append,
        decodeFrom_two (by omega) (by omega) (isTail_tail n), hlead, hval]
    · split
      · have hlead := toNat_toUInt8 (n := 0xE0 + n / 0x1000) (by omega)
        have hval : assemble (0xE0 + n / 0x1000 - 0xE0) [tail (n / 0x40), tail n] = c := by
          rw [← hchar]
          refine congrArg Char.ofNat ?_
          simp only [List.foldl_cons, List.foldl_nil, toNat_tail]
          omega
        have hbegins := begins3_tail (a := (0xE0 + n / 0x1000).toUInt8) (m := n / 0x40)
          (by omega) (by omega) (by omega)
        refine ⟨i + 3, ?_⟩
        rw [List.cons_append, List.cons_append, List.singleton_append,
          decodeFrom_three (by omega) (by omega) hbegins (isTail_tail n), hlead, hval]
      · have hlead := toNat_toUInt8 (n := 0xF0 + n / 0x40000) (by omega)
        have hval : assemble (0xF0 + n / 0x40000 - 0xF0)
            [tail (n / 0x1000), tail (n / 0x40), tail n] = c := by
          rw [← hchar]
          refine congrArg Char.ofNat ?_
          simp only [List.foldl_cons, List.foldl_nil, toNat_tail]
          omega
        have hbegins := begins4_tail (a := (0xF0 + n / 0x40000).toUInt8) (m := n / 0x1000)
          (by omega) (by omega) (by omega)
        refine ⟨i + 4, ?_⟩
        rw [List.cons_append, List.cons_append, List.cons_append, List.singleton_append,
          decodeFrom_four (by omega) (by omega) hbegins (isTail_tail _) (isTail_tail n), hlead,
          hval]

theorem encode_cons (c : Char) (t : Text) : encode (c :: t) = encodeChar c ++ encode t := rfl

theorem encode_append (s t : Text) : encode (s ++ t) = encode s ++ encode t :=
  List.flatMap_append

/-- **The bytes of a text are read as this text.** -/
theorem decode_encode (t : Text) : decode (encode t) = .ok t := by
  have hfrom : ∀ i, decodeFrom i (encode t) = .ok t := by
    induction t with
    | nil => intro i; rfl
    | cons c t ih =>
      intro i
      obtain ⟨j, hj⟩ := decodeFrom_encodeChar c i (encode t)
      rw [encode_cons, hj, ih]
      rfl
  exact hfrom 0

/-! ## Sizes -/

/-- The number of bytes that a text takes. -/
def size (t : Text) : Nat := (encode t).length

@[simp] theorem size_nil : size [] = 0 := rfl

@[simp] theorem size_cons (c : Char) (t : Text) :
    size (c :: t) = (encodeChar c).length + size t := by
  rw [size, encode_cons, List.length_append, size]

@[simp] theorem size_append (s t : Text) : size (s ++ t) = size s + size t := by
  rw [size, encode_append, List.length_append, size, size]

theorem length_encodeChar_pos (c : Char) : 0 < (encodeChar c).length := by
  rw [encodeChar_eq]
  split
  · exact Nat.zero_lt_one
  · split
    · exact Nat.zero_lt_two
    · split <;> exact Nat.zero_lt_succ _

theorem length_encodeChar_le (c : Char) : (encodeChar c).length ≤ 4 := by
  rw [encodeChar_eq]
  split
  · simp
  · split
    · simp
    · split <;> simp

/-- A smaller code point takes no more bytes. -/
theorem length_encodeChar_ofNat_le (n : Nat) :
    (n < 0x80 → (encodeChar (Char.ofNat n)).length ≤ 1) ∧
      (n < 0x800 → (encodeChar (Char.ofNat n)).length ≤ 2) ∧
      (n < 0x10000 → (encodeChar (Char.ofNat n)).length ≤ 3) := by
  have hle : (Char.ofNat n).toNat ≤ n := by
    rcases toNat_ofNat n with hn | hn <;> omega
  rw [encodeChar_eq]
  refine ⟨fun h => ?_, fun h => ?_, fun h => ?_⟩
  · rw [if_pos (by omega)]
    simp
  · split
    · simp
    · rw [if_pos (by omega)]
      simp
  · split
    · simp
    · split
      · simp
      · rw [if_pos (by omega)]
        simp

theorem toNat_le_of_isTail (h : isTail b = true) : b.toNat ≤ 0xBF := by
  simp only [isTail, Bool.and_eq_true, decide_eq_true_eq] at h
  exact UInt8.le_iff_toNat_le.1 h.2

theorem toNat_le_of_begins3 (h : begins3 a b = true) : b.toNat ≤ 0xBF := by
  unfold begins3 at h
  split at h
  · simp only [Bool.and_eq_true, decide_eq_true_eq] at h
    exact UInt8.le_iff_toNat_le.1 h.2
  · split at h
    · simp only [Bool.and_eq_true, decide_eq_true_eq] at h
      exact Nat.le_trans (UInt8.le_iff_toNat_le.1 h.2) (by decide)
    · exact toNat_le_of_isTail h

/-- **A text takes no more bytes than it was read from.** -/
theorem size_le_of_decodeFrom {bytes : Bytes} {i : Nat} {t : Text}
    (h : decodeFrom i bytes = .ok t) : size t ≤ bytes.length := by
  -- a character and the text after it, read from so many bytes each
  have hstep : ∀ {x : Except Fault Text} {n k m : Nat} {t : Text},
      (∀ {u}, x = .ok u → size u ≤ m) → (encodeChar (Char.ofNat n)).length ≤ k →
      (x >>= fun u => pure (Char.ofNat n :: u)) = .ok t → size t ≤ m + k := by
    intro x n k m t hx hn h
    obtain ⟨u, hu, h⟩ := bind_eq_ok.1 h
    obtain rfl := Except.ok.inj h
    have := hx hu
    rw [size_cons]
    omega
  fun_induction decodeFrom i bytes generalizing t with
  | case1 => obtain rfl := Except.ok.inj h; exact Nat.le_refl _
  | case2 i a r1 ha ih =>
    refine hstep ih ((length_encodeChar_ofNat_le _).1 ?_) h
    exact UInt8.lt_iff_toNat_lt.1 ha
  | case4 i a ha hlead b r2 hb ih =>
    have hlead := UInt8.le_iff_toNat_le.1 (of_decide_eq_true (Bool.and_eq_true_iff.1 hlead).2)
    have hb := toNat_le_of_isTail hb
    refine hstep (k := 2) ih ((length_encodeChar_ofNat_le _).2.1 ?_) h
    simp only [List.foldl_cons, List.foldl_nil, UInt8.reduceToNat] at hlead ⊢
    omega
  | case9 i a ha _ hlead b hb c r3 hc ih =>
    have hlead := UInt8.le_iff_toNat_le.1 (of_decide_eq_true (Bool.and_eq_true_iff.1 hlead).2)
    have hb := toNat_le_of_begins3 (by simpa using hb)
    have hc := toNat_le_of_isTail hc
    refine hstep (k := 3) ih ((length_encodeChar_ofNat_le _).2.2 ?_) h
    simp only [List.foldl_cons, List.foldl_nil, UInt8.reduceToNat] at hlead ⊢
    omega
  | case16 i a ha hlead hlead' hlead'' b hb c hc d r4 hd ih =>
    exact hstep (k := 4) ih (length_encodeChar_le _) h
  | _ => exact Except.noConfusion rfl rfl (heq_of_eq h)

theorem size_le_of_decode {bytes : Bytes} {t : Text} (h : decode bytes = .ok t) :
    size t ≤ bytes.length := size_le_of_decodeFrom h

end Kompositum.Utf8
