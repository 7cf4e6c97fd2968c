import Kompositum.Time.Moment

/-!
# The calendar

Years are counted from March on, so that a leap day ends one. Then the number of a day tells its
date.

* `Moment.IsDate`: a date of the calendar.
* `Moment.year_of_dayOfEra`, `Moment.month_of_dayOfYear`: the year and the month of a day.
* `Moment.dateOf_dayNumber`: a date there and back.
-/

namespace Kompositum.Moment

/-- **A date of the calendar.** -/
structure IsDate (year : Int) (month day : Nat) : Prop where
  month_pos : 1 ≤ month
  month_le : month ≤ 12
  day_pos : 1 ≤ day
  day_le : day ≤ daysIn year month

theorem isLeap_iff {year : Int} :
    isLeap year = true ↔ year % 4 = 0 ∧ (year % 100 ≠ 0 ∨ year % 400 = 0) := by
  simp [isLeap]

/-! ## Years and months -/

/-- A day of 400 years, with its century, its four years and its year among these. -/
theorem year_of_century {c q r d e : Nat} (hc : c < 4) (hq : q < 25) (hr : r < 4)
    (hd : d < 365 ∨ d = 365 ∧ r = 3 ∧ (q < 24 ∨ c = 3))
    (he : e = 36524 * c + 1461 * q + 365 * r + d) :
    (e - e / 1460 + e / 36524 - e / 146096) / 365 = 100 * c + 4 * q + r := by
  -- every four years have a leap day, the last of them counts as long as it lasts
  obtain ⟨s, hs, hs1, hs2, hs3⟩ : ∃ s, e / 1460 = 25 * c + q + s ∧ s ≤ 1 ∧ (s = 1 → 1 ≤ d) ∧
      (d = 365 → s = 1) := ⟨e / 1460 - (25 * c + q), by omega, by omega, by omega, by omega⟩
  -- a century has none of its own, but the very last one has
  have hlast : e < 36524 * (c + 1) ∨ e = 146096 ∧ c = 3 := by omega
  have hcentury : e / 36524 = c + e / 146096 := by
    clear hs hs2 hs3
    omega
  rw [hs, hcentury]
  omega

/-- **The year of a day** among 400 years, where a year that a leap day ends has 366 days. -/
theorem year_of_dayOfEra {y d e : Nat} (hy : y < 400)
    (hd : d < 365 ∨ d = 365 ∧ (y + 1) % 4 = 0 ∧ ((y + 1) % 100 ≠ 0 ∨ y + 1 = 400))
    (he : e = 365 * y + y / 4 - y / 100 + d) :
    (e - e / 1460 + e / 36524 - e / 146096) / 365 = y := by
  obtain ⟨c, q, r, hc, hq, hr, rfl⟩ : ∃ c q r, c < 4 ∧ q < 25 ∧ r < 4 ∧
      y = 100 * c + 4 * q + r :=
    ⟨y / 100, y % 100 / 4, y % 4, by omega, by omega, by omega, by omega⟩
  refine year_of_century hc hq hr (d := d) ?_ ?_
  · omega
  · omega

/-- **The month of a day** among the days of a year. -/
theorem month_of_dayOfYear {m d : Nat} (hm : m < 12)
    (hd : d < 30 ∨ d = 30 ∧ m ≠ 1 ∧ m ≠ 3 ∧ m ≠ 6 ∧ m ≠ 8 ∧ m ≠ 11) :
    (5 * ((153 * m + 2) / 5 + d) + 2) / 153 = m := by
  have hcases : m = 0 ∨ m = 1 ∨ m = 2 ∨ m = 3 ∨ m = 4 ∨ m = 5 ∨ m = 6 ∨ m = 7 ∨ m = 8 ∨ m = 9 ∨
      m = 10 ∨ m = 11 := by omega
  rcases hcases with rfl | rfl | rfl | rfl | rfl | rfl | rfl | rfl | rfl | rfl | rfl | rfl <;>
    omega

/-! ## Dates -/

variable {year : Int} {month day : Nat}

namespace IsDate

variable (h : IsDate year month day)
include h

/-- Only some months have a 31st day. -/
theorem day_lt : day < 31 ∨
    day = 31 ∧ month ≠ 2 ∧ month ≠ 4 ∧ month ≠ 6 ∧ month ≠ 9 ∧ month ≠ 11 := by
  have hday := h.day_le
  unfold daysIn at hday
  split at hday
  · split at hday <;> omega
  · split at hday
    · omega
    · rename_i hnot
      simp only [Bool.or_eq_true, decide_eq_true_eq] at hnot
      omega

/-- Only in a leap year February has a 29th day. -/
theorem leap_of_february (hmonth : month = 2) :
    day ≤ 28 ∨ day = 29 ∧ year % 4 = 0 ∧ (year % 100 ≠ 0 ∨ year % 400 = 0) := by
  have hday := h.day_le
  rw [daysIn, if_pos hmonth] at hday
  split at hday
  · rename_i hleap
    have := isLeap_iff.1 hleap
    omega
  · omega

/-- The month, counted from March on. -/
theorem marchMonth_eq :
    3 ≤ month ∧ (month + 9) % 12 + 3 = month ∨ month ≤ 2 ∧ (month + 9) % 12 = month + 9 := by
  have hpos := h.month_pos
  have hle := h.month_le
  omega

/-- A year that is counted from March on has 365 days, and another one before a leap year's
March. -/
theorem dayOfYear_lt : (153 * ((month + 9) % 12) + 2) / 5 + (day - 1) < 365 ∨
    (153 * ((month + 9) % 12) + 2) / 5 + (day - 1) = 365 ∧ month = 2 ∧ year % 4 = 0 ∧
      (year % 100 ≠ 0 ∨ year % 400 = 0) := by
  have hle := h.month_le
  have hmonths := h.marchMonth_eq
  have hdays := h.day_lt
  generalize (month + 9) % 12 = m at hmonths ⊢
  by_cases hfebruary : month = 2
  · have hleap := h.leap_of_february hfebruary
    obtain rfl : m = 11 := by omega
    omega
  · have hstart : (153 * m + 2) / 5 ≤ 306 := by omega
    omega

end IsDate

/-- The number of a day, by 400 years that are counted from March on and the years, the months and
the days of these. -/
theorem dayNumber_eq {y : Int} {k : Nat} (hy : y = if month ≤ 2 then year - 1 else year)
    (hk : (k : Int) = y % 400) (hday : 1 ≤ day) :
    dayNumber year month day = 146097 * (y / 400) +
      (365 * k + k / 4 - k / 100 + ((153 * ((month + 9) % 12) + 2) / 5 + (day - 1)) : Nat) := by
  have h4 : y / 4 = 100 * (y / 400) + (k / 4 : Nat) := by omega
  have h100 : y / 100 = 4 * (y / 400) + (k / 100 : Nat) := by omega
  have hsum : dayNumber year month day =
      365 * y + y / 4 - y / 100 + y / 400 + ((153 * ((month + 9) % 12) + 2) / 5 : Nat) + day - 1 := by
    rw [hy]
    rfl
  rw [hsum, h4, h100]
  generalize (153 * ((month + 9) % 12) + 2) / 5 = start
  omega

/-- A day among all, and among its 400 years. -/
theorem era_of_dayNumber {q : Int} {e : Nat} (he : e < 146097) :
    (146097 * q + e) / 146097 = q ∧ ((146097 * q + e) % 146097).toNat = e := by omega

/-- The month of a year that begins in January. -/
theorem month_of_marchMonth {m : Nat} (hpos : 1 ≤ month) (hle : month ≤ 12)
    (hm : 3 ≤ month ∧ m + 3 = month ∨ month ≤ 2 ∧ m = month + 9) :
    (if m < 10 then m + 3 else m - 9) = month := by
  split <;> omega

/-- **The date of a day** is the one that gives this day. -/
theorem dateOf_dayNumber (h : IsDate year month day) :
    dateOf (dayNumber year month day) = (year, month, day) := by
  -- the year from March on, and which of its 400 years it is
  obtain ⟨y, hy⟩ : ∃ y, y = if month ≤ 2 then year - 1 else year := ⟨_, rfl⟩
  obtain ⟨k, hk⟩ : ∃ k : Nat, (k : Int) = y % 400 := ⟨(y % 400).toNat, by omega⟩
  have hk400 : k < 400 := by omega
  have hyear : y / 400 * 400 + k + (if month ≤ 2 then 1 else 0) = year := by
    split at hy
    · rename_i hle
      rw [if_pos hle]
      omega
    · rename_i hle
      rw [if_neg hle]
      omega
  have hnumber := dayNumber_eq hy hk h.day_pos
  have hmonths := h.marchMonth_eq
  have hleap : (153 * ((month + 9) % 12) + 2) / 5 + (day - 1) < 365 ∨
      (153 * ((month + 9) % 12) + 2) / 5 + (day - 1) = 365 ∧ (k + 1) % 4 = 0 ∧
        ((k + 1) % 100 ≠ 0 ∨ k + 1 = 400) := by
    rcases h.dayOfYear_lt with hlt | ⟨heq, hfebruary, hfour, hhundred⟩
    · exact .inl hlt
    · rw [if_pos (by omega)] at hy
      exact .inr ⟨heq, by omega, by omega⟩
  generalize (month + 9) % 12 = m at hnumber hmonths hleap
  have hmonthOf : (5 * ((153 * m + 2) / 5 + (day - 1)) + 2) / 153 = m := by
    have hle := h.month_le
    have hlast := h.day_lt
    exact month_of_dayOfYear (by omega) (by omega)
  have hday : (153 * m + 2) / 5 + (day - 1) - (153 * m + 2) / 5 + 1 = day := by
    rw [Nat.add_sub_cancel_left, Nat.sub_add_cancel h.day_pos]
  generalize (153 * m + 2) / 5 + (day - 1) = d at hnumber hleap hmonthOf hday
  have hdayOfYear : 365 * k + k / 4 - k / 100 + d - (365 * k + k / 4 - k / 100) = d :=
    Nat.add_sub_cancel_left _ _
  have hlong : 365 * k + k / 4 - k / 100 + d < 146097 := by omega
  obtain ⟨hera, hdayOfEra⟩ := era_of_dayNumber (q := y / 400) hlong
  have hyearOf := year_of_dayOfEra hk400 hleap rfl
  unfold dateOf
  simp only [hnumber, hera, hdayOfEra, hyearOf, hdayOfYear, hmonthOf, hday, hyear,
    month_of_marchMonth h.month_pos h.month_le hmonths]

end Kompositum.Moment
