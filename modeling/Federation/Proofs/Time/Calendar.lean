/-
# The date of a day

The calendar repeats after four centuries of 146097 days. Counted from March, a century has 24
spans of four years and a last one that lacks its leap day, save the fourth century, which has
all of its leap days.

## Main definitions

- `DayOfEra`: the place of a day in four centuries.

## Main results

- `ofDays_spec`: every day has a date of the calendar, which is a date of that day only.
-/

import Federation.Time.Calendar

namespace Federation.Time

/-- The place of a day in four centuries: the century, the span of four years in it, the year
in that span, which begins in March, and the day of the year. -/
structure DayOfEra (day century span year dayOfYear : Int) : Prop where
  centuries : 0 ≤ century ∧ century ≤ 3
  spans : 0 ≤ span ∧ span ≤ 24
  years : 0 ≤ year ∧ year ≤ 3
  days : 0 ≤ dayOfYear ∧ dayOfYear ≤ 365
  /-- The leap day is the last day of the last year of a span, of all but three spans. -/
  leap : dayOfYear = 365 → year = 3 ∧ (span = 24 → century = 3)
  sum : day = 36524 * century + 1461 * span + 365 * year + dayOfYear

namespace DayOfEra

variable {day century span year dayOfYear : Int}

theorem exists_of_mem_era (first : 0 ≤ day) (last : day < 146097) :
    ∃ century span year dayOfYear, DayOfEra day century span year dayOfYear := by
  by_cases lastOfEra : day = 146096
  · exact ⟨3, 24, 3, 365, by omega, by omega, by omega, by omega, by omega, by omega⟩
  · by_cases leapDay : day % 36524 % 1461 = 1460
    · exact ⟨day / 36524, day % 36524 / 1461, 3, 365, by omega, by omega, by omega, by omega,
        by omega, by omega⟩
    · exact ⟨day / 36524, day % 36524 / 1461, day % 36524 % 1461 / 365, day % 36524 % 1461 % 365,
        by omega, by omega, by omega, by omega, by omega, by omega⟩

/-- How the year of a day is counted: once the days that were put in are taken out, all years
have 365 days. -/
theorem yearOfEra_eq (place : DayOfEra day century span year dayOfYear) :
    (day - day / 1460 + day / 36524 - day / 146096) / 365 = 100 * century + 4 * span + year := by
  obtain ⟨centuries, spans, years, days, leap, sum⟩ := place
  have centuriesBefore : day / 36524 - day / 146096 = century := by
    by_cases lastOfEra : day = 146096
    · subst lastOfEra
      omega
    · have inCentury : 1461 * span + 365 * year + dayOfYear ≤ 36523 := by omega
      clear leap
      omega
  have spansBefore : day / 1460
      = 25 * century + span + (24 * century + span + 365 * year + dayOfYear) / 1460 := by
    omega
  -- Near the end of a span its leap day is taken out too early, in its last year.
  have early : (24 * century + span + 365 * year + dayOfYear) / 1460 = 0 ∧ dayOfYear ≤ 364 ∨
      (24 * century + span + 365 * year + dayOfYear) / 1460 = 1 ∧ 1 ≤ dayOfYear := by
    omega
  generalize (24 * century + span + 365 * year + dayOfYear) / 1460 = out at spansBefore early
  generalize day / 36524 = a at *
  generalize day / 146096 = b at *
  generalize day / 1460 = c at *
  omega

/-- The days before a year of the era. -/
theorem daysBefore_eq (place : DayOfEra day century span year dayOfYear) :
    365 * (100 * century + 4 * span + year) + (100 * century + 4 * span + year) / 4
      - (100 * century + 4 * span + year) / 100 = day - dayOfYear := by
  obtain ⟨centuries, spans, years, days, leap, sum⟩ := place
  have quarters : (100 * century + 4 * span + year) / 4 = 25 * century + span := by omega
  have hundreds : (100 * century + 4 * span + year) / 100 = century := by omega
  omega

end DayOfEra

/-! ## Months -/

/-- The months from March on, of a year whose last day is the leap day. -/
theorem dayOfYear_table : ∀ day : Fin 366,
    let monthFromMarch : Int := (5 * (day.val : Int) + 2) / 153
    let dayOfMonth := (day.val : Int) - (153 * monthFromMarch + 2) / 5 + 1
    let month := if monthFromMarch < 10 then monthFromMarch + 3 else monthFromMarch - 9
    1 ≤ month ∧ month ≤ 12 ∧ 1 ≤ dayOfMonth ∧ (month + 9) % 12 = monthFromMarch ∧
      dayOfMonth.toNat ≤ daysInMonth 0 month.toNat ∧
      (day.val < 365 → dayOfMonth.toNat ≤ daysInMonth 1 month.toNat) ∧
      (day.val = 365 → month = 2) := by
  decide +kernel

theorem daysInMonth_le (year : Int) (month : Nat) :
    daysInMonth 1 month ≤ daysInMonth year month := by
  by_cases february : month = 2
  · have common : daysInMonth 1 month = 28 := by
      rw [february]
      decide
    rw [common, daysInMonth, if_pos february]
    split <;> decide
  · simp [daysInMonth, february]

theorem daysInMonth_of_isLeapYear {year : Int} (leap : isLeapYear year = true) (month : Nat) :
    daysInMonth year month = daysInMonth 0 month := by
  have zero : isLeapYear 0 = true := by decide
  rw [daysInMonth, daysInMonth, leap, zero]

theorem daysInMonth_le_31 (year : Int) (month : Nat) : daysInMonth year month ≤ 31 := by
  rw [daysInMonth]
  repeat' split
  all_goals decide

/-! ## Days and dates -/

namespace CivilDate

/-- The months and days of dates. -/
theorem bounds_of_exists? {date : CivilDate} (real : date.exists? = true) :
    date.month ≤ 12 ∧ date.day ≤ 31 := by
  simp only [exists?, Bool.and_eq_true, decide_eq_true_eq] at real
  exact ⟨real.1.1.2, Nat.le_trans real.2 (daysInMonth_le_31 _ _)⟩

/-- The date of a day, by its place in its era. -/
theorem ofDays_eq {days century span year dayOfYear : Int}
    (place : DayOfEra ((days + 719468) % 146097) century span year dayOfYear) :
    ofDays days =
      let monthFromMarch := (5 * dayOfYear + 2) / 153
      let day := dayOfYear - (153 * monthFromMarch + 2) / 5 + 1
      let month := if monthFromMarch < 10 then monthFromMarch + 3 else monthFromMarch - 9
      let fromMarch := 100 * century + 4 * span + year + (days + 719468) / 146097 * 400
      ⟨if month ≤ 2 then fromMarch + 1 else fromMarch, month.toNat, day.toNat⟩ := by
  have sofar := place.daysBefore_eq
  have dayOfYear_eq : (days + 719468) % 146097 - (365 * (100 * century + 4 * span + year)
      + (100 * century + 4 * span + year) / 4 - (100 * century + 4 * span + year) / 100)
        = dayOfYear := by omega
  simp only [ofDays, place.yearOfEra_eq, dayOfYear_eq]

/-- Every day has a date of the calendar, and is the day of that date. -/
theorem ofDays_spec (days : Int) :
    (ofDays days).exists? = true ∧ (ofDays days).toDays = days := by
  have first := Int.emod_nonneg (days + 719468) (show (146097 : Int) ≠ 0 by decide)
  have last := Int.emod_lt_of_pos (days + 719468) (show (0 : Int) < 146097 by decide)
  have split := Int.mul_ediv_add_emod (days + 719468) 146097
  obtain ⟨century, span, year, dayOfYear, place⟩ := DayOfEra.exists_of_mem_era first last
  have sofar := place.daysBefore_eq
  rw [ofDays_eq place]
  generalize (days + 719468) % 146097 = day at *
  generalize (days + 719468) / 146097 = era at *
  obtain ⟨centuries, spans, years, inYear, leap, sum⟩ := place
  obtain ⟨n, rfl⟩ := Int.eq_ofNat_of_zero_le inYear.1
  obtain ⟨january, december, begins, cycle, longest, common, leapDay⟩ :=
    dayOfYear_table ⟨n, by omega⟩
  dsimp only at *
  generalize (5 * (n : Int) + 2) / 153 = monthFromMarch at *
  have monthIsNat : ((if monthFromMarch < 10 then monthFromMarch + 3 else monthFromMarch - 9).toNat
      : Int) = if monthFromMarch < 10 then monthFromMarch + 3 else monthFromMarch - 9 := by omega
  generalize (if monthFromMarch < 10 then monthFromMarch + 3 else monthFromMarch - 9)
    = month at *
  constructor
  · have inMonth : (n - (153 * monthFromMarch + 2) / 5 + 1).toNat
        ≤ daysInMonth (if month ≤ 2 then 100 * century + 4 * span + year + era * 400 + 1
          else 100 * century + 4 * span + year + era * 400) month.toNat := by
      by_cases leapDays : n = 365
      -- The leap day is in February of the year after the one that began in March.
      · obtain rfl := leapDay leapDays
        obtain ⟨lastYear, lastSpan⟩ := leap (by omega)
        have isLeap : isLeapYear (100 * century + 4 * span + year + era * 400 + 1) = true := by
          simp only [isLeapYear, Bool.and_eq_true, Bool.or_eq_true, decide_eq_true_eq]
          omega
        rw [if_pos (by decide), daysInMonth_of_isLeapYear isLeap]
        exact longest
      · exact Nat.le_trans (common (by omega)) (daysInMonth_le _ _)
    simp only [exists?, inMonth, decide_true, Bool.and_true, Bool.and_eq_true, decide_eq_true_eq]
    omega
  · have fromMarch : (if month.toNat ≤ 2 then
        (if month ≤ 2 then 100 * century + 4 * span + year + era * 400 + 1
          else 100 * century + 4 * span + year + era * 400) - 1
        else if month ≤ 2 then 100 * century + 4 * span + year + era * 400 + 1
          else 100 * century + 4 * span + year + era * 400)
          = 100 * century + 4 * span + year + era * 400 := by
      split <;> split <;> omega
    have eras : (100 * century + 4 * span + year + era * 400) / 400 = era := by omega
    have inEra : (100 * century + 4 * span + year + era * 400) % 400
        = 100 * century + 4 * span + year := by omega
    have dayIsNat : ((n - (153 * monthFromMarch + 2) / 5 + 1).toNat : Int)
        = n - (153 * monthFromMarch + 2) / 5 + 1 := by omega
    simp only [toDays, fromMarch, eras, inEra, monthIsNat, cycle, dayIsNat]
    omega

end CivilDate

end Federation.Time
