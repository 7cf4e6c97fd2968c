import Kompositum.Proofs.Text.Pieces
import Kompositum.Proofs.Text.Utf8
import Kompositum.Text.Lower

/-!
# Small letters and spaces

White space separates words in any letter case: it is its own small letter, nothing else becomes
white space, and no sigma looks across it. Hence tokens are put in small letters one by one.

* `lower_append_space`: the small letters of words with a space between them.
* `isBlank_of_mem_lower`: no white space is made.
* `size_lower_le`: small letters take at most twice as many bytes.
-/

namespace Kompositum.Character

/-- The white space characters. -/
def blanks : List Nat :=
  [0x09, 0x0A, 0x0B, 0x0C, 0x0D, 0x20, 0x85, 0xA0, 0x1680, 0x2000, 0x2001, 0x2002, 0x2003, 0x2004,
    0x2005, 0x2006, 0x2007, 0x2008, 0x2009, 0x200A, 0x2028, 0x2029, 0x202F, 0x205F, 0x3000]

theorem mem_blanks {c : Char} (h : isBlank c = true) : c.toNat ∈ blanks := by
  simp only [isBlank, Bool.or_eq_true, Bool.and_eq_true, decide_eq_true_eq, beq_iff_eq] at h
  simp only [blanks, List.mem_cons, List.not_mem_nil, or_false]
  omega

/-- Whether no code point of a run is sent to `n`. -/
def Shift.avoids (s : Shift) (n : Nat) : Bool :=
  (n : Int) < s.run.first + s.distance || s.run.last + s.distance < n

theorem Shift.ne_of_avoids {s : Shift} {n m k : Nat} (hn : n ≠ 0) (h : s.avoids n = true)
    (hs : s.derived? m = some k) : k ≠ n := by
  unfold derived? at hs
  split at hs
  · rename_i hm
    simp only [Run.contains, Bool.and_eq_true, decide_eq_true_eq] at hm
    simp only [avoids, Bool.or_eq_true, decide_eq_true_eq] at h
    have := Option.some.inj hs
    omega
  · cases hs

theorem zero_notMem_blanks : 0 ∉ blanks := by decide

theorem lowerShifts_avoid_blanks : ∀ s ∈ lowerShifts, ∀ n ∈ blanks, s.avoids n = true := by
  have hall : (lowerShifts.all fun s => blanks.all s.avoids) = true := by decide +kernel
  simpa only [List.all_eq_true] using hall

/-- Under a table that avoids white space no character becomes white space. -/
theorem shifted_eq_of_isBlank {table : List Shift}
    (h : ∀ s ∈ table, ∀ n ∈ blanks, s.avoids n = true) {c : Char}
    (hc : isBlank (shifted table c) = true) : shifted table c = c := by
  induction table with
  | nil => rfl
  | cons s table ih =>
    have htail := ih fun t ht => h t (List.mem_cons_of_mem s ht)
    unfold shifted at hc ⊢
    split
    · rfl
    · rename_i hfirst
      rw [if_neg hfirst] at hc
      cases hm : s.derived? c.toNat with
      | none =>
        rw [hm] at hc
        exact htail hc
      | some m =>
        rw [hm] at hc
        have hblank := mem_blanks hc
        rcases Utf8.toNat_ofNat m with heq | heq
        · rw [heq] at hblank
          have hm0 : m ≠ 0 := fun h0 => zero_notMem_blanks (h0 ▸ hblank)
          exact absurd rfl (Shift.ne_of_avoids hm0 (h s List.mem_cons_self m hblank) hm)
        · exact absurd (heq ▸ hblank) zero_notMem_blanks

/-- A capital of the ASCII range. -/
theorem toNat_bounds {c : Char} (h : ('A' ≤ c && c ≤ 'Z') = true) :
    65 ≤ c.toNat ∧ c.toNat ≤ 90 := by
  simp only [Bool.and_eq_true, decide_eq_true_eq] at h
  exact ⟨Char.le_def.1 h.1, Char.le_def.1 h.2⟩

/-- **No character becomes white space** in small letters. -/
theorem isBlank_of_mem_toLower {c d : Char} (hd : d ∈ toLower c) (h : isBlank d = true) :
    isBlank c = true := by
  unfold toLower at hd
  split at hd
  · obtain rfl := List.mem_singleton.1 hd
    split at h
    · rename_i hcap
      have hbounds := toNat_bounds hcap
      have hblank := mem_blanks h
      simp only [blanks, List.mem_cons, List.not_mem_nil, or_false] at hblank
      rcases Utf8.toNat_ofNat (c.toNat + 32) with heq | heq <;> omega
    · exact h
  · split at hd
    · simp only [List.mem_cons, List.not_mem_nil, or_false] at hd
      rcases hd with rfl | rfl <;> exact absurd h (by decide)
    · obtain rfl := List.mem_singleton.1 hd
      rwa [shifted_eq_of_isBlank lowerShifts_avoid_blanks h] at h

theorem toLower_ne_nil (c : Char) : toLower c ≠ [] := by
  unfold toLower
  split
  · exact List.cons_ne_nil _ _
  · split <;> exact List.cons_ne_nil _ _

/-- The small letters of a character take at most twice as many bytes. -/
theorem size_toLower_le (c : Char) :
    Utf8.size (toLower c) ≤ 2 * (Utf8.encodeChar c).length := by
  have hpos := Utf8.length_encodeChar_pos c
  unfold toLower
  split
  · have hone : ∀ d : Char, d.toNat < 0x80 → (Utf8.encodeChar d).length = 1 := by
      intro d hd
      rw [Utf8.encodeChar_eq, if_pos hd]
      rfl
    rename_i hc
    rw [Utf8.size_cons, Utf8.size_nil]
    split
    · rename_i hcap
      have hbounds := toNat_bounds hcap
      rw [hone _ (by rcases Utf8.toNat_ofNat (c.toNat + 32) with heq | heq <;> omega)]
      omega
    · omega
  · rename_i hc
    have htwo : 2 ≤ (Utf8.encodeChar c).length := by
      rw [Utf8.encodeChar_eq, if_neg hc]
      split
      · exact Nat.le_refl 2
      · split <;> simp
    split
    · have hsize : Utf8.size ['i', '\u0307'] = 3 := by decide
      omega
    · have := Utf8.length_encodeChar_le (shifted lowerShifts c)
      rw [Utf8.size_cons, Utf8.size_nil]
      omega

end Kompositum.Character

namespace Kompositum.Text

open Character

/-! ## Sigmas do not look across spaces -/

theorem leadsToCased_append_space (u t : Text) :
    leadsToCased (u ++ ' ' :: t) = leadsToCased u := by
  have hspace : isCaseIgnorable ' ' = false ∧ isCased ' ' = false := by decide
  induction u with
  | nil =>
    unfold leadsToCased
    rw [List.nil_append, List.dropWhile_cons, hspace.1]
    simp [hspace.2]
  | cons c u ih =>
    unfold leadsToCased at ih ⊢
    rw [List.cons_append, List.dropWhile_cons, List.dropWhile_cons]
    split
    · exact ih
    · rfl

theorem lowerAfter_append_space (u x t : Text) :
    lowerAfter (u ++ ' ' :: x) t = lowerAfter u t := by
  induction t generalizing u with
  | nil => rfl
  | cons c t ih =>
    rw [lowerAfter, lowerAfter, leadsToCased_append_space, ← List.cons_append, ih]

/-- **Words with a space between them** are put in small letters one by one. -/
theorem lower_append_space (s t : Text) : lower (s ++ ' ' :: t) = lower s ++ ' ' :: lower t := by
  have hafter : ∀ u, lowerAfter u (s ++ ' ' :: t) = lowerAfter u s ++ ' ' :: lowerAfter [] t := by
    induction s with
    | nil =>
      intro u
      have hspace : lowerAfter u (' ' :: t) = [' '] ++ lowerAfter (' ' :: u) t := rfl
      have hahead : lowerAfter (' ' :: u) t = lowerAfter [] t := lowerAfter_append_space [] u t
      rw [List.nil_append, hspace, hahead]
      rfl
    | cons c s ih =>
      intro u
      rw [List.cons_append, lowerAfter, lowerAfter, ih, leadsToCased_append_space,
        List.append_assoc]
  exact hafter []

theorem lower_join (ts : List Text) : lower (join [' '] ts) = join [' '] (ts.map lower) := by
  induction ts with
  | nil => rfl
  | cons t ts ih =>
    cases ts with
    | nil => rfl
    | cons u us =>
      rw [join_cons_cons, List.singleton_append, lower_append_space, ih]
      exact (join_cons_cons [' '] (lower t) (lower u) (us.map lower)).symm

/-! ## What small letters are made of -/

/-- What a character adds to a text in small letters. -/
theorem mem_lowerAfter {ahead t : Text} {d : Char} (hd : d ∈ lowerAfter ahead t) :
    d = 'ς' ∨ d = 'σ' ∨ ∃ c ∈ t, d ∈ toLower c := by
  induction t generalizing ahead with
  | nil => simp [lowerAfter] at hd
  | cons c t ih =>
    rw [lowerAfter, List.mem_append] at hd
    rcases hd with hd | hd
    · split at hd
      · rw [List.mem_singleton] at hd
        split at hd
        · exact .inl hd
        · exact .inr (.inl hd)
      · exact .inr (.inr ⟨c, List.mem_cons_self, hd⟩)
    · rcases ih hd with hd | hd | ⟨b, hb, hd⟩
      · exact .inl hd
      · exact .inr (.inl hd)
      · exact .inr (.inr ⟨b, List.mem_cons_of_mem c hb, hd⟩)

/-- **No white space is made** by small letters. -/
theorem not_isBlank_of_mem_lower {t : Text} (h : ∀ c ∈ t, isBlank c = false) :
    ∀ d ∈ lower t, isBlank d = false := by
  intro d hd
  rcases mem_lowerAfter hd with rfl | rfl | ⟨c, hc, hd⟩
  · decide
  · decide
  · rw [← Bool.not_eq_true]
    intro hblank
    have := isBlank_of_mem_toLower hd hblank
    rw [h c hc] at this
    exact Bool.noConfusion this

theorem lower_ne_nil {t : Text} (h : t ≠ []) : lower t ≠ [] := by
  obtain ⟨c, u, rfl⟩ := List.exists_cons_of_ne_nil h
  unfold lower
  rw [lowerAfter]
  split
  · exact List.cons_ne_nil _ _
  · rw [Ne, List.append_eq_nil_iff]
    exact fun hnil => toLower_ne_nil c hnil.1

/-- **Small letters take at most twice as many bytes.** -/
theorem size_lower_le (t : Text) : Utf8.size (lower t) ≤ 2 * Utf8.size t := by
  have hafter : ∀ ahead, Utf8.size (lowerAfter ahead t) ≤ 2 * Utf8.size t := by
    induction t with
    | nil => exact fun _ => Nat.le_refl 0
    | cons c t ih =>
      intro ahead
      have hrest := ih (c :: ahead)
      rw [lowerAfter, Utf8.size_append, Utf8.size_cons]
      split
      · rename_i hc
        obtain rfl := eq_of_beq hc
        have hsigma : ∀ b : Bool, Utf8.size [if b then 'ς' else 'σ'] = 2 := by decide
        have hcapital : (Utf8.encodeChar 'Σ').length = 2 := by decide
        rw [hsigma, hcapital]
        omega
      · have := size_toLower_le c
        omega
  exact hafter []

end Kompositum.Text

namespace Kompositum.Ngram

/-- Small letters of a token are a token. -/
theorem IsToken.lower {t : Text} (h : IsToken t) : IsToken (Text.lower t) :=
  ⟨Text.lower_ne_nil h.1, Text.not_isBlank_of_mem_lower h.2⟩

/-- **What tokenizing yields** are tokens. -/
theorem isToken_of_mem_tokenize {foldsCase : Bool} {t w : Text}
    (h : w ∈ tokenize foldsCase t) : IsToken w := by
  unfold tokenize at h
  split at h
  · obtain ⟨v, hv, rfl⟩ := List.mem_map.1 h
    exact IsToken.lower (Text.mem_words hv)
  · exact Text.mem_words h

end Kompositum.Ngram
