import ClusterOperator.Time.Calendar

/-!
# The calendar counts every day once

`Date.ofDays` turns a count of days into a date and `Date.toDays` counts back. Two facts about the
pair are needed to read a printed instant again:

> **`Date.toDays_ofDays`** — counting back gives the count, and
> **`Date.isValid_ofDays`** — what is printed names a day of the calendar.

Both directions of the conversion work with quotients that no linear argument sees through at once:
the year of an era is computed as one quotient of a sum of three others. So the day of an era is
first taken apart into its place in the nested cycles — a century, four years, a year, a day —
where every piece is bounded, and the quotients are then read off one by one. The last day of a
cycle is the only delicate one: it is the leap day, and it exists in the last year of four unless
that year ends a century that does not end the era.
-/

set_option autoImplicit false

namespace ClusterOperator.Time

/-! ## The cycles of an era -/

/-- The place of a day of an era: a century `c`, a cycle `q` of four years in it, a year `y` in
that, and a day `n`. A year has a day numbered 365 only if it is the last of four, and in the last
cycle of a century only if that century ends the era. -/
structure Cycles (d c q y n : Int) : Prop where
  sum : d = 36524 * c + 1461 * q + 365 * y + n
  century : 0 ≤ c ∧ c ≤ 3
  fourYears : 0 ≤ q ∧ q ≤ 24
  year : 0 ≤ y ∧ y ≤ 3
  dayOfYear : 0 ≤ n ∧ n ≤ 365
  leapDay : n = 365 → y = 3 ∧ (q = 24 → c = 3)

theorem exists_cycles {d : Int} (lower : 0 ≤ d) (upper : d < 146097) :
    ∃ c q y n, Cycles d c q y n := by
  -- The quotients are capped, because the last century and the last year are a day longer.
  let c := min (d / 36524) 3
  let r := d - 36524 * c
  let q := r / 1461
  let s := r - 1461 * q
  let y := min (s / 365) 3
  exact ⟨c, q, y, s - 365 * y, ⟨by omega, by omega, by omega, by omega, by omega, by omega⟩⟩

theorem exists_cycles_of_day (days : Int) :
    ∃ c q y n, Cycles ((days + 719468) % 146097) c q y n :=
  exists_cycles (Int.emod_nonneg _ (by decide)) (Int.emod_lt_of_pos _ (by decide))

namespace Cycles

variable {d c q y n : Int}

theorem yearOfEra_bounds (h : Cycles d c q y n) :
    0 ≤ 100 * c + 4 * q + y ∧ 100 * c + 4 * q + y < 400 := by
  obtain ⟨-, hc, hq, hy, -, -⟩ := h
  exact ⟨by omega, by omega⟩

/-- How many leap days lie before a year of the era. -/
theorem leapDays_eq (h : Cycles d c q y n) :
    (100 * c + 4 * q + y) / 4 = 25 * c + q ∧ (100 * c + 4 * q + y) / 100 = c := by
  obtain ⟨-, hc, hq, hy, -, -⟩ := h
  exact ⟨by omega, by omega⟩

/-- The quotient that `Date.ofDays` computes is the year of the era. -/
theorem yearOfEra_eq (h : Cycles d c q y n) :
    (d - d / 1460 + d / 36524 - d / 146096) / 365 = 100 * c + 4 * q + y := by
  obtain ⟨hsum, hc, hq, hy, hn, hleap⟩ := h
  have hlast : 1461 * q + 365 * y + n < 36524 ∨ (1461 * q + 365 * y + n = 36524 ∧ c = 3) := by
    omega
  have hcentury : d / 36524 - d / 146096 = c := by
    rcases hlast with hlt | ⟨heq, rfl⟩
    · have h1 : d / 36524 = c := by omega
      have h2 : d / 146096 = 0 := by omega
      omega
    · omega
  have hcycles : d / 1460 = 25 * c + q + (24 * c + q + 365 * y + n) / 1460 := by omega
  omega

theorem dayOfYear_eq (h : Cycles d c q y n) :
    d - (365 * (100 * c + 4 * q + y) + (100 * c + 4 * q + y) / 4 -
      (100 * c + 4 * q + y) / 100) = n := by
  rw [h.leapDays_eq.1, h.leapDays_eq.2, h.sum]
  omega

/-- The leap day falls into a leap year. Years are counted from March here, so the day belongs to
the February of the year after. -/
theorem isLeapYear_of_leapDay {era : Int} (h : Cycles d c q y 365) :
    isLeapYear (100 * c + 4 * q + y + era * 400 + 1) := by
  obtain ⟨-, hc, hq, -, -, hleap⟩ := h
  obtain ⟨rfl, hcentury⟩ := hleap rfl
  have h4 : (100 * c + 4 * q + 3 + era * 400 + 1) % 4 = 0 := by omega
  by_cases hq24 : q = 24
  · have h400 : (100 * c + 4 * q + 3 + era * 400 + 1) % 400 = 0 := by
      rw [hq24, hcentury hq24]
      omega
    simp [isLeapYear, h4, h400]
  · have h100 : (100 * c + 4 * q + 3 + era * 400 + 1) % 100 ≠ 0 := by omega
    simp [isLeapYear, h4, h100]

end Cycles

/-! ## Dates -/

theorem le_daysInMonth {year month day : Int} (hday : day ≤ 31)
    (hshort : month = 4 ∨ month = 6 ∨ month = 9 ∨ month = 11 → day ≤ 30)
    (hfebruary : month = 2 → day ≤ 29)
    (hcommon : month = 2 → isLeapYear year = false → day ≤ 28) :
    day ≤ daysInMonth year month := by
  unfold daysInMonth
  split
  · rename_i h2
    split
    · exact hfebruary h2
    · rename_i hy
      exact hcommon h2 (by simpa using hy)
  · split
    · rename_i hs
      simp only [Bool.or_eq_true, decide_eq_true_eq] at hs
      exact hshort (by omega)
    · exact hday

theorem daysInMonth_le (year month : Int) : daysInMonth year month ≤ 31 := by
  unfold daysInMonth
  split
  · split <;> decide
  · split <;> decide

namespace Date

theorem isValid_iff {d : Date} :
    d.isValid ↔ 1 ≤ d.month ∧ d.month ≤ 12 ∧ 1 ≤ d.day ∧ d.day ≤ daysInMonth d.year d.month := by
  simp [isValid, and_assoc]

/-- The date of a day of a year that starts in March. -/
def ofYearDay (year dayOfYear : Int) : Date :=
  let month := (5 * dayOfYear + 2) / 153
  { year := year + (if month < 10 then 0 else 1)
    month := if month < 10 then month + 3 else month - 9
    day := dayOfYear - (153 * month + 2) / 5 + 1 }

theorem ofDays_eq {days c q y n : Int} (h : Cycles ((days + 719468) % 146097) c q y n) :
    ofDays days = ofYearDay (100 * c + 4 * q + y + (days + 719468) / 146097 * 400) n := by
  simp only [ofDays, ofYearDay, h.yearOfEra_eq, h.dayOfYear_eq]

theorem toDays_ofYearDay {year n : Int} (h : 0 ≤ n ∧ n ≤ 365) :
    (ofYearDay year n).toDays =
      year / 400 * 146097 + (year % 400 * 365 + year % 400 / 4 - year % 400 / 100 + n) -
        719468 := by
  simp only [ofYearDay, toDays]
  by_cases hm : (5 * n + 2) / 153 < 10
  · have hmarch : ¬ (5 * n + 2) / 153 + 3 ≤ 2 := by omega
    simp only [hm, if_true, hmarch, if_false, Int.add_zero, Int.add_sub_cancel]
    omega
  · have hjanuary : (5 * n + 2) / 153 - 9 ≤ 2 := by omega
    simp only [hm, if_true, hjanuary, if_false, Int.sub_add_cancel, Int.add_sub_cancel]
    omega

theorem isValid_ofYearDay {year n : Int} (h : 0 ≤ n ∧ n ≤ 365)
    (hleap : n = 365 → isLeapYear (year + 1)) : (ofYearDay year n).isValid := by
  rw [isValid_iff]
  by_cases hm : (5 * n + 2) / 153 < 10
  · simp only [ofYearDay, hm, if_true]
    exact ⟨by omega, by omega, by omega,
      le_daysInMonth (by omega) (by omega) (by omega) (by omega)⟩
  · simp only [ofYearDay, hm, if_false]
    refine ⟨by omega, by omega, by omega,
      le_daysInMonth (by omega) (by omega) (by omega) fun _ hcommon => ?_⟩
    have hne : n ≠ 365 := fun hn => by simp [hleap hn] at hcommon
    omega

/-! ## There and back -/

/-- **Counting back gives the count.** -/
theorem toDays_ofDays (days : Int) : (ofDays days).toDays = days := by
  obtain ⟨c, q, y, n, h⟩ := exists_cycles_of_day days
  have hyear := h.yearOfEra_bounds
  have hera : (100 * c + 4 * q + y + (days + 719468) / 146097 * 400) / 400 =
      (days + 719468) / 146097 := by
    rw [Int.add_mul_ediv_right _ _ (by decide), Int.ediv_eq_zero_of_lt hyear.1 hyear.2,
      Int.zero_add]
  have hofEra : (100 * c + 4 * q + y + (days + 719468) / 146097 * 400) % 400 =
      100 * c + 4 * q + y := by
    rw [Int.add_mul_emod_self_right, Int.emod_eq_of_lt hyear.1 hyear.2]
  rw [ofDays_eq h, toDays_ofYearDay h.dayOfYear, hera, hofEra, h.leapDays_eq.1, h.leapDays_eq.2]
  have hsum := h.sum
  have hsplit := Int.mul_ediv_add_emod (days + 719468) 146097
  omega

theorem isValid_ofDays (days : Int) : (ofDays days).isValid := by
  obtain ⟨c, q, y, n, h⟩ := exists_cycles_of_day days
  rw [ofDays_eq h]
  refine isValid_ofYearDay h.dayOfYear ?_
  rintro rfl
  exact h.isLeapYear_of_leapDay

/-- The days on which an instant can fall lie in the years that a text can name. -/
theorem year_ofDays_bounds {days : Int} (lower : -4371587 ≤ days) (upper : days ≤ 2932895) :
    -9999 ≤ (ofDays days).year ∧ (ofDays days).year ≤ 9999 := by
  obtain ⟨c, q, y, n, h⟩ := exists_cycles_of_day days
  rw [ofDays_eq h]
  have hsplit := Int.mul_ediv_add_emod (days + 719468) 146097
  rw [h.sum] at hsplit
  have hyear := h.yearOfEra_bounds
  obtain ⟨-, hc, hq, hy, hn, -⟩ := h
  generalize (days + 719468) / 146097 = era at hsplit ⊢
  have hera : -25 ≤ era ∧ era ≤ 24 := by omega
  simp only [ofYearDay]
  -- January and February count for the next year, so each bound is met at one end of the range.
  split
  · refine ⟨?_, by omega⟩
    by_cases hfirst : era = -25
    · omega
    · omega
  · refine ⟨by omega, ?_⟩
    by_cases hlast : era = 24
    · omega
    · omega

end Date

end ClusterOperator.Time
