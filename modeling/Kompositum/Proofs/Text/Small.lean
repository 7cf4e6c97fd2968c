import Kompositum.Proofs.Text.Lower

/-!
# Small letters stay as they are

No small letter is a capital in turn, so that a text in small letters is its own lower-casing, and
so is every piece of it, in whatever order its characters are read.

* `Character.toLower_of_mem_toLower`: the letters that a character is sent to are sent to
  themselves.
* `Text.IsSmall`: a text of characters that stay as they are; `lower` makes such texts
  (`isSmall_lower`) and keeps them (`IsSmall.lower_eq`).
-/

namespace Kompositum.Character

/-- Whether two runs have no code point in common. Where they overlap, they alternate. -/
def Run.misses (q r : Run) : Bool :=
  r.last < q.first || q.last < r.first ||
    (q.step == 2 || q.last == q.first) && r.step == 2 && (q.first + r.first) % 2 == 1

theorem Run.not_contains_of_misses {q r : Run} (h : q.misses r = true) {n : Nat}
    (hq : q.contains n = true) : r.contains n = false := by
  rw [← Bool.not_eq_true]
  intro hr
  simp only [contains, Bool.and_eq_true, decide_eq_true_eq, beq_iff_eq] at hq hr
  simp only [misses, Bool.and_eq_true, Bool.or_eq_true, decide_eq_true_eq, beq_iff_eq] at h
  rcases h with (hbelow | habove) | ⟨⟨hstep | hone, hr2⟩, hodd⟩
  · omega
  · omega
  · rw [hstep] at hq
    rw [hr2] at hr
    omega
  · rw [hr2] at hr
    omega

/-- The run of the images. -/
def Shift.image (s : Shift) : Run :=
  ⟨(s.run.first + s.distance).toNat, (s.run.last + s.distance).toNat, s.run.step⟩

theorem Shift.contains_image {s : Shift} (h0 : 0 ≤ s.run.first + s.distance) {n m : Nat}
    (hm : s.derived? n = some m) : s.image.contains m = true := by
  unfold derived? at hm
  split at hm
  case isFalse => cases hm
  case isTrue hn =>
    have heq := Option.some.inj hm
    simp only [Run.contains, Bool.and_eq_true, decide_eq_true_eq, beq_iff_eq] at hn
    have hfirst : (s.run.first + s.distance).toNat ≤ m := by omega
    have hlast : m ≤ (s.run.last + s.distance).toNat := by omega
    have hsame : m - (s.run.first + s.distance).toNat = n - s.run.first := by omega
    simp [image, Run.contains, hfirst, hlast, hsame, hn.2]

/-- Whether a table sends no code point of a run elsewhere. -/
def keeps (r : Run) : List Shift → Bool
  | [] => true
  | s :: rest => if r.last < s.run.first then true else r.misses s.run && keeps r rest

theorem shifted_of_keeps {r : Run} {table : List Shift} (h : keeps r table = true) {c : Char}
    (hc : r.contains c.toNat = true) : shifted table c = c := by
  have hlast : c.toNat ≤ r.last := by
    simp only [Run.contains, Bool.and_eq_true, decide_eq_true_eq] at hc
    exact hc.1.2
  induction table with
  | nil => rfl
  | cons s table ih =>
    rw [keeps] at h
    rw [shifted]
    by_cases hbelow : c.toNat < s.run.first
    · rw [if_pos hbelow]
    · rw [if_neg (by omega), Bool.and_eq_true] at h
      rw [if_neg hbelow, Shift.derived?, Run.not_contains_of_misses h.1 hc,
        if_neg Bool.false_ne_true]
      exact ih h.2

theorem shifted_cases (table : List Shift) (c : Char) :
    shifted table c = c ∨
      ∃ s ∈ table, ∃ m, s.derived? c.toNat = some m ∧ shifted table c = Char.ofNat m := by
  induction table with
  | nil => exact .inl rfl
  | cons s table ih =>
    unfold shifted
    split
    · exact .inl rfl
    · cases hm : s.derived? c.toNat with
      | some m => exact .inr ⟨s, List.mem_cons_self, m, hm, rfl⟩
      | none =>
        refine ih.imp_right ?_
        rintro ⟨t, ht, m, hm, heq⟩
        exact ⟨t, List.mem_cons_of_mem s ht, m, hm, heq⟩

theorem lowerShifts_keep_images : ∀ s ∈ lowerShifts,
    0 ≤ s.run.first + s.distance ∧ keeps s.image lowerShifts = true := by
  have hall : (lowerShifts.all fun s =>
      0 ≤ s.run.first + s.distance && keeps s.image lowerShifts) = true := by decide +kernel
  simpa only [List.all_eq_true, Bool.and_eq_true, decide_eq_true_eq] using hall

/-- **No small letter has a small letter of its own.** -/
theorem shifted_shifted (c : Char) :
    shifted lowerShifts (shifted lowerShifts c) = shifted lowerShifts c := by
  rcases shifted_cases lowerShifts c with heq | ⟨s, hs, m, hm, heq⟩
  · exact congrArg _ heq
  · obtain ⟨h0, hkeeps⟩ := lowerShifts_keep_images s hs
    rw [heq]
    rcases Utf8.toNat_ofNat m with hval | hval
    · exact shifted_of_keeps hkeeps (by rw [hval]; exact Shift.contains_image h0 hm)
    · -- no character has this code point, and the one in its place is no letter
      have hzero : keeps ⟨0, 0, 1⟩ lowerShifts = true := by decide +kernel
      exact shifted_of_keeps hzero (by rw [hval]; decide)

theorem shifted_ne_dotted {c : Char} (hc : c ≠ '\u0130') : shifted lowerShifts c ≠ '\u0130' := by
  have hall : (lowerShifts.all fun s => s.avoids 0x130) = true := by decide +kernel
  rw [List.all_eq_true] at hall
  rcases shifted_cases lowerShifts c with heq | ⟨s, hs, m, hm, heq⟩
  · rwa [heq]
  · intro hdot
    have hval : (Char.ofNat m).toNat = 0x130 := by rw [← heq, hdot]; decide
    rcases Utf8.toNat_ofNat m with hm' | hm'
    · exact Shift.ne_of_avoids (by decide) (hall s hs) hm (hm'.symm.trans hval)
    · omega

/-- The capitals of the ASCII range are in the first run of the table. -/
theorem shifted_capital_ne {c : Char} (h : ('A' ≤ c && c ≤ 'Z') = true) :
    shifted lowerShifts c ≠ c := by
  have hbounds := toNat_bounds h
  have htable : lowerShifts = ⟨⟨0x41, 0x5A, 1⟩, 32⟩ :: lowerShifts.tail := rfl
  have hrun : (Run.mk 0x41 0x5A 1).contains c.toNat = true := by
    simp only [Run.contains, Bool.and_eq_true, decide_eq_true_eq, beq_iff_eq]
    omega
  intro heq
  rw [htable, shifted, if_neg (by simp only; omega)] at heq
  simp only [Shift.derived?, if_pos hrun] at heq
  have hval := Utf8.toNat_ofNat (c.toNat + 32 : Int).toNat
  rw [heq] at hval
  omega

theorem toLower_of_lt {c : Char} (hc : c.toNat < 0x80) :
    toLower c = [if 'A' ≤ c && c ≤ 'Z' then Char.ofNat (c.toNat + 32) else c] := by
  unfold toLower
  rw [if_pos hc]

theorem toLower_of_not_capital {c : Char} (hc : c.toNat < 0x80)
    (hcap : ¬('A' ≤ c && c ≤ 'Z') = true) : toLower c = [c] := by
  rw [toLower_of_lt hc, if_neg hcap]

/-- **The letters that a character is sent to** are sent to themselves. -/
theorem toLower_of_mem_toLower {c d : Char} (hd : d ∈ toLower c) : toLower d = [d] := by
  by_cases hc : c.toNat < 0x80
  · rw [toLower_of_lt hc, List.mem_singleton] at hd
    subst hd
    split
    case isFalse hcap => exact toLower_of_not_capital hc hcap
    case isTrue hcap =>
      have hbounds := toNat_bounds hcap
      have hval := Utf8.toNat_ofNat (c.toNat + 32)
      refine toLower_of_not_capital (by omega) fun hcap' => ?_
      have := toNat_bounds hcap'
      omega
  · unfold toLower at hd
    rw [if_neg hc] at hd
    split at hd
    case isTrue =>
      simp only [List.mem_cons, List.not_mem_nil, or_false] at hd
      rcases hd with rfl | rfl <;> decide +kernel
    case isFalse hdot =>
      obtain rfl := List.mem_singleton.1 hd
      have hstays := shifted_shifted c
      have hne : shifted lowerShifts c ≠ '\u0130' := shifted_ne_dotted fun h => hdot (by simp [h])
      generalize shifted lowerShifts c = d at hstays hne
      by_cases hlt : d.toNat < 0x80
      · refine toLower_of_not_capital hlt fun hcap => ?_
        have := shifted_capital_ne hcap
        exact this hstays
      · unfold toLower
        rw [if_neg hlt, if_neg (by simpa using hne), hstays]

end Kompositum.Character

namespace Kompositum.Text

open Character

/-- Every character of a text is its own small letter. -/
def IsSmall (t : Text) : Prop := ∀ c ∈ t, toLower c = [c]

theorem IsSmall.lower_eq {t : Text} (h : IsSmall t) : lower t = t := by
  have hafter : ∀ ahead, lowerAfter ahead t = t := by
    induction t with
    | nil => intro _; rfl
    | cons c t ih =>
      intro ahead
      have hc : toLower c = [c] := h c List.mem_cons_self
      have hne : (c == 'Σ') = false := by
        rw [beq_eq_false_iff_ne]
        rintro rfl
        exact absurd hc (by decide +kernel)
      rw [lowerAfter, hne, if_neg Bool.false_ne_true, hc, ih fun d hd => h d (List.mem_cons_of_mem c hd),
        List.singleton_append]
  exact hafter []

/-- **Lower-casing makes small letters.** -/
theorem isSmall_lower (t : Text) : IsSmall (lower t) := by
  intro d hd
  rcases mem_lowerAfter hd with rfl | rfl | ⟨c, -, hd⟩
  · decide +kernel
  · decide +kernel
  · exact toLower_of_mem_toLower hd

/-- **Lower-casing twice** is lower-casing once. -/
theorem lower_lower (t : Text) : lower (lower t) = lower t := (isSmall_lower t).lower_eq

theorem IsSmall.of_subset {s t : Text} (h : IsSmall t) (hst : s ⊆ t) : IsSmall s :=
  fun c hc => h c (hst hc)

end Kompositum.Text
