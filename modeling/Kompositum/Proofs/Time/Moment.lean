import Kompositum.Proofs.Text.Digits
import Kompositum.Proofs.Time.Calendar

/-!
# Moments

A moment is read as it was written, in universal time.

* `Moment.IsProper`: a date of the calendar and a time of day.
* `Moment.ofText?_render`: a moment there and back.
-/

namespace Kompositum.Moment

open Character (isBlank)

/-- **A moment that exists**: a date of the calendar and a time of day. -/
structure IsProper (t : Moment) : Prop where
  isDate : IsDate t.year t.month t.day
  year_ge : years.1 ≤ t.year
  year_le : t.year ≤ years.2
  hour_lt : t.hour < 24
  minute_lt : t.minute < 60
  second_lt : t.second < 61
  nanos_lt : t.nanos < 10 ^ 9

/-! ## Fields -/

variable {u rest : Text} {c : Char}

/-- A text that does not go on with a digit. -/
def EndsDigits (rest : Text) : Prop := ∀ c ∈ rest.head?, c.isDigit = false

theorem endsDigits_cons (h : c.isDigit = false) (rest : Text) : EndsDigits (c :: rest) := by
  intro d hd
  rw [← Option.some.inj hd]
  exact h

theorem not_isBlank_of_isDigit (h : c.isDigit = true) : isBlank c = false := by
  have hval := Text.toNat_bounds_of_isDigit h
  simp only [isBlank, Bool.or_eq_false_iff, Bool.and_eq_false_iff, decide_eq_false_iff_not,
    beq_eq_false_iff_ne]
  omega

/-- No blank stands in front of digits. -/
theorem dropWhile_isBlank_digits (hne : u ≠ []) (hu : ∀ c ∈ u, c.isDigit = true) (rest : Text) :
    (u ++ rest).dropWhile isBlank = u ++ rest := by
  obtain ⟨c, u, rfl⟩ := List.exists_cons_of_ne_nil hne
  refine List.dropWhile_cons_of_neg ?_
  rw [not_isBlank_of_isDigit (hu c List.mem_cons_self)]
  exact Bool.false_ne_true

/-- **Some digits**, as many as are wanted at most, and what follows them. -/
theorem number?_append {most : Nat} (hu : ∀ c ∈ u, c.isDigit = true) (hlen : u.length ≤ most)
    (hrest : EndsDigits rest) :
    number? most (u ++ rest) = (Count.ofDigits? u).map fun n => (n, rest) := by
  have hsome (c : Char) (hc : c ∈ u) : (Count.digit? c).isSome = true := by
    rw [Count.digit?_of_isDigit (hu c hc)]
    rfl
  have hnone : (rest.take (most - u.length)).takeWhile (fun c => (Count.digit? c).isSome) =
      [] := by
    cases rest with
    | nil => rw [List.take_nil, List.takeWhile_nil]
    | cons c rest =>
      cases most - u.length with
      | zero => rfl
      | succ k =>
        refine List.takeWhile_cons_of_neg fun hc => ?_
        have hnot := hrest c rfl
        rw [Count.isDigit_of_digit? hc] at hnot
        cases hnot
  have hdigits : ((u ++ rest).take most).takeWhile (fun c => (Count.digit? c).isSome) = u := by
    rw [List.take_append, List.take_of_length_le hlen, List.takeWhile_append_of_pos hsome, hnone,
      List.append_nil]
  unfold number?
  simp only [hdigits, List.drop_left]
  cases Count.ofDigits? u with
  | none => rfl
  | some n => rfl

/-- **A number of two digits.** -/
theorem field?_padded {n bound : Nat} (hn : n < bound) (hbound : bound ≤ 100)
    (hrest : EndsDigits rest) : field? bound (padded 2 n ++ rest) = some (n, rest) := by
  have hdigits (c : Char) (hc : c ∈ padded 2 n) : c.isDigit = true := isDigit_of_mem_padded hc
  have hlen : (padded 2 n).length = 2 := length_padded Nat.two_pos (by omega)
  have hnumber := number?_append hdigits (Nat.le_of_eq hlen) hrest
  unfold field?
  rw [dropWhile_isBlank_digits (padded_ne_nil 2 n) hdigits, hnumber, ofDigits?_padded]
  simp [hn]

theorem mark?_cons (h : isBlank c = false) (rest : Text) : mark? c (c :: rest) = some rest := by
  unfold mark?
  rw [List.dropWhile_cons_of_neg (by simp [h])]
  simp [Text.stripPrefix?]

/-- A year without a sign. -/
theorem year?_digits (hne : u ≠ []) (hu : ∀ c ∈ u, c.isDigit = true) (rest : Text) :
    year? (u ++ rest) = (number? 4 (u ++ rest)).map fun r => ((r.1 : Int), r.2) := by
  unfold year?
  rw [dropWhile_isBlank_digits hne hu]
  obtain ⟨c, u, rfl⟩ := List.exists_cons_of_ne_nil hne
  -- a digit is no sign
  have hc : c.isDigit = true := hu c List.mem_cons_self
  split
  · rename_i hminus
    rw [List.cons_append, List.cons.injEq] at hminus
    rw [hminus.1] at hc
    cases hc
  · rename_i hplus
    rw [List.cons_append, List.cons.injEq] at hplus
    rw [hplus.1] at hc
    cases hc
  · rfl

/-- **A year.** -/
theorem year?_renderYear (year : Int) (hrest : EndsDigits rest) :
    year? (renderYear year ++ rest) = some (year, rest) := by
  have hdigits (n : Nat) (c : Char) (hc : c ∈ padded 4 n) : c.isDigit = true :=
    isDigit_of_mem_padded hc
  have hnumber {most : Nat} (n : Nat) (hmost : (padded 4 n).length ≤ most) :
      number? most (padded 4 n ++ rest) = some (n, rest) := by
    rw [number?_append (hdigits n) hmost hrest, ofDigits?_padded]
    rfl
  unfold renderYear
  split
  · rename_i hyear
    rw [Bool.and_eq_true, decide_eq_true_eq, decide_eq_true_eq] at hyear
    have hcast : ((year.toNat : Nat) : Int) = year := by omega
    have hlen : (padded 4 year.toNat).length = 4 := length_padded (by decide) (by omega)
    rw [year?_digits (padded_ne_nil 4 _) (hdigits _), hnumber _ (Nat.le_of_eq hlen)]
    exact congrArg (fun y => some (y, rest)) hcast
  · -- a year with a sign may have any number of digits
    have hall : number? (padded 4 year.natAbs ++ rest).length (padded 4 year.natAbs ++ rest) =
        some (year.natAbs, rest) :=
      hnumber _ (by rw [List.length_append]; exact Nat.le_add_right _ _)
    rw [List.append_assoc, List.singleton_append]
    by_cases hneg : year < 0
    · rw [if_pos hneg]
      have hcast : -((year.natAbs : Nat) : Int) = year := by omega
      change (number? _ (padded 4 year.natAbs ++ rest)).map _ = _
      rw [hall]
      exact congrArg (fun y => some (y, rest)) hcast
    · rw [if_neg hneg]
      have hcast : ((year.natAbs : Nat) : Int) = year := by omega
      change (number? _ (padded 4 year.natAbs ++ rest)).map _ = _
      rw [hall]
      exact congrArg (fun y => some (y, rest)) hcast

/-- The fraction of a second in a row of digits. -/
theorem nanos?_padded {width n : Nat} (hpos : 0 < width) (hwidth : width ≤ 9)
    (hn : n < 10 ^ width) :
    nanos? (['.'] ++ padded width n ++ ['Z']) = some (n * Nat.pow 10 (9 - width), ['Z']) := by
  have hdigits (c : Char) (hc : c ∈ padded width n) : c.isDigit = true := isDigit_of_mem_padded hc
  have hlen := length_padded hpos hn
  have hnumber := number?_append hdigits (Nat.le_trans (Nat.le_of_eq hlen) hwidth)
    (endsDigits_cons (c := 'Z') rfl [])
  have hcount : (padded width n ++ ['Z']).length - ['Z'].length = width := by
    rw [List.length_append, hlen]
    exact Nat.add_sub_cancel _ _
  rw [List.append_assoc, List.singleton_append]
  change (number? 9 (padded width n ++ ['Z'])).bind _ = _
  rw [hnumber, ofDigits?_padded, Option.map_some, Option.bind_some]
  exact congrArg (fun k => some (n * Nat.pow 10 (9 - k), ['Z'])) hcount

/-- **The fraction of a second.** -/
theorem nanos?_renderNanos {n : Nat} (hn : n < 10 ^ 9) :
    nanos? (renderNanos n ++ ['Z']) = some (n, ['Z']) := by
  have hbound : n < 1000000000 := hn
  unfold renderNanos
  split
  · subst n
    rfl
  · split
    · have hmilli : n / 1000000 * 1000000 = n := by omega
      rw [nanos?_padded (by decide) (by decide) (by omega)]
      exact congrArg (fun k => some (k, ['Z'])) hmilli
    · split
      · have hmicro : n / 1000 * 1000 = n := by omega
        rw [nanos?_padded (by decide) (by decide) (by omega)]
        exact congrArg (fun k => some (k, ['Z'])) hmicro
      · rw [nanos?_padded (by decide) (by decide) hn]
        exact congrArg (fun k => some (k, ['Z'])) (Nat.mul_one n)

/-- A moment is no earlier in universal time. -/
theorem earlier?_zero {t : Moment} (h : IsProper t) : t.earlier? 0 = some t := by
  have hhour := h.hour_lt
  have hminute := h.minute_lt
  have hday : ((dayNumber t.year t.month t.day * 24 + t.hour) * 60 + t.minute - 0) / 1440 =
      dayNumber t.year t.month t.day := by omega
  have hrest : (((dayNumber t.year t.month t.day * 24 + t.hour) * 60 + t.minute - 0) % 1440).toNat =
      t.hour * 60 + t.minute := by omega
  have hhourOf : (t.hour * 60 + t.minute) / 60 = t.hour := by omega
  have hminuteOf : (t.hour * 60 + t.minute) % 60 = t.minute := by omega
  unfold earlier?
  simp only [hday, hrest, dateOf_dayNumber h.isDate, hhourOf, hminuteOf, h.year_ge, h.year_le,
    decide_true, Bool.and_self, if_true]

/-- **A moment whose fields are read** one after the other, in universal time. -/
theorem ofText?_of_fields {t : Moment} (h : IsProper t) {text t₁ t₂ t₃ t₄ t₅ t₆ : Text}
    (hyear : year? text = some (t.year, '-' :: t₁))
    (hmonth : field? 13 t₁ = some (t.month, '-' :: t₂))
    (hday : field? 32 t₂ = some (t.day, 'T' :: t₃))
    (hhour : field? 24 t₃ = some (t.hour, ':' :: t₄))
    (hminute : field? 60 t₄ = some (t.minute, ':' :: t₅))
    (hsecond : field? 61 t₅ = some (t.second, t₆))
    (hnanos : nanos? t₆ = some (t.nanos, ['Z'])) : ofText? text = some t := by
  have hdash (rest : Text) : mark? '-' ('-' :: rest) = some rest := mark?_cons rfl rest
  have hcolon (rest : Text) : mark? ':' (':' :: rest) = some rest := mark?_cons rfl rest
  have hoffset : offset? (['Z'].dropWhile isBlank) = some (0, []) := by decide
  have hvalid : ¬(t.month = 0 ∨ t.day = 0 ∨ daysIn t.year t.month < t.day ∨
      t.year < years.1 ∨ years.2 < t.year) := by
    have hdate := h.isDate
    have hmonthPos := hdate.month_pos
    have hdayPos := hdate.day_pos
    have hdayLe := hdate.day_le
    have hyearGe := h.year_ge
    have hyearLe := h.year_le
    omega
  unfold ofText?
  refine Option.bind_eq_some_iff.2 ⟨_, hyear, ?_⟩
  refine Option.bind_eq_some_iff.2 ⟨_, hdash t₁, ?_⟩
  refine Option.bind_eq_some_iff.2 ⟨_, hmonth, ?_⟩
  refine Option.bind_eq_some_iff.2 ⟨_, hdash t₂, ?_⟩
  refine Option.bind_eq_some_iff.2 ⟨_, hday, ?_⟩
  refine Option.bind_eq_some_iff.2 ⟨_, hhour, ?_⟩
  refine Option.bind_eq_some_iff.2 ⟨_, hcolon t₄, ?_⟩
  refine Option.bind_eq_some_iff.2 ⟨_, hminute, ?_⟩
  refine Option.bind_eq_some_iff.2 ⟨_, hcolon t₅, ?_⟩
  refine Option.bind_eq_some_iff.2 ⟨_, hsecond, ?_⟩
  refine Option.bind_eq_some_iff.2 ⟨_, hnanos, ?_⟩
  refine Option.bind_eq_some_iff.2 ⟨_, hoffset, ?_⟩
  refine (if_neg ?_).trans (earlier?_zero h)
  simpa [Text.isBlankText, or_assoc] using hvalid

/-- **A moment** is read as it was written. -/
theorem ofText?_render {t : Moment} (h : IsProper t) : ofText? (render ['Z'] t) = some t := by
  have hmonth : t.month < 13 := Nat.lt_succ_of_le h.isDate.month_le
  have hday : t.day < 32 := by
    rcases h.isDate.day_lt with hlt | ⟨heq, -⟩ <;> omega
  have hnanos : EndsDigits (renderNanos t.nanos ++ ['Z']) := by
    unfold renderNanos
    split
    · exact endsDigits_cons rfl []
    · split
      · exact endsDigits_cons rfl _
      · split <;> exact endsDigits_cons rfl _
  have hrender : render ['Z'] t = renderYear t.year ++ '-' :: (padded 2 t.month ++
      '-' :: (padded 2 t.day ++ 'T' :: (padded 2 t.hour ++ ':' :: (padded 2 t.minute ++
        ':' :: (padded 2 t.second ++ (renderNanos t.nanos ++ ['Z'])))))) := by
    unfold render
    simp only [List.append_assoc, List.cons_append, List.nil_append]
  rw [hrender]
  exact ofText?_of_fields h (year?_renderYear _ (endsDigits_cons rfl _))
    (field?_padded hmonth (by decide) (endsDigits_cons rfl _))
    (field?_padded hday (by decide) (endsDigits_cons rfl _))
    (field?_padded h.hour_lt (by decide) (endsDigits_cons rfl _))
    (field?_padded h.minute_lt (by decide) (endsDigits_cons rfl _))
    (field?_padded h.second_lt (by decide) hnanos) (nanos?_renderNanos h.nanos_lt)

end Kompositum.Moment
