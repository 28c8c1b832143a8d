import VoiceLife.Schedule.PlannerRange

/-! # The conversions of `calendar.cc` over the whole range of `int`

Every existing date has one day number (`exists_valid_dayNumber`, `dayNumber_injective`). The conversions
take both of them to each other, step together from one day to the next and advance the weekday, for every
year that `DaysFromCivil` can take (`converts_iff`). It finds the era of a negative year by subtracting 399
first, which leaves `int` in the last years above its minimum.
-/

namespace VoiceLife.Checked

open CInt Gregorian

/-- An existing date whose year is an `int`. -/
structure IntDate (d : LocalDate) : Prop where
  valid : d.Valid
  year_ge : -2147483648 ≤ d.year
  year_le : d.year ≤ intMax

/-- The conversions of the day number of a date and of the date itself, and the step to the next day. -/
structure Converts (d : LocalDate) : Prop where
  ofDays : ∃ date length, civilFromDays (dayNumber d) = some date ∧ 1 ≤ date.month ∧ date.month ≤ 12 ∧
    daysInMonth date.year date.month = some length ∧ 1 ≤ date.day ∧ date.day ≤ length ∧
    daysFromCivil date.year date.month date.day = some (dayNumber d)
  ofDate : ∃ days, daysFromCivil d.year d.month d.day = some days ∧ civilFromDays days = some d
  next : d.next.year ≤ intMax → ∃ today tomorrow, civilFromDays (dayNumber d + 1) = some d.next ∧
    weekday d.year d.month d.day = some today ∧
    weekday d.next.year d.next.month d.next.day = some tomorrow ∧ tomorrow = (today + 1) % 7

/-- The next day is never in an earlier year, counted from March. -/
theorem marchYear_le_next {d : LocalDate} (hd : d.Valid) : marchYear d ≤ marchYear d.next := by
  have hfirst := hd.one_le_month
  unfold Date.next marchYear
  by_cases hday : d.day < monthLength d.year d.month
  · rw [if_pos hday]
  · rw [if_neg hday]
    by_cases hmonth : d.month < 12
    · rw [if_pos hmonth]
      dsimp only
      split_ifs <;> omega
    · rw [if_neg hmonth]
      dsimp only
      split_ifs <;> omega

theorem Convertible.next {d : LocalDate} (hd : Convertible d) (hnext : d.next.year ≤ intMax) :
    Convertible d.next :=
  ⟨hd.valid.next, hd.marchYear_ge.trans (marchYear_le_next hd.valid), hnext⟩

/-- The weekday of the next day. -/
theorem weekday_dayNumber_next {d : LocalDate} (hd : d.Valid) :
    Gregorian.weekday (dayNumber d.next) = (Gregorian.weekday (dayNumber d) + 1) % 7 := by
  rw [dayNumber_next hd]
  unfold Gregorian.weekday
  omega

theorem converts_of_convertible {d : LocalDate} (hd : Convertible d) : Converts d := by
  obtain ⟨h1, h2, h3, h4⟩ := hd.valid
  have hdays := daysFromCivil_of_convertible hd
  have hdate := civilFromDays_of_convertible hd
  have hlength : daysInMonth d.year d.month = some (monthLength d.year d.month) := by
    rw [daysInMonth_eq h1 h2, VoiceLife.daysInMonth_eq h1 h2]
  refine ⟨⟨d, _, hdate, h1, h2, hlength, h3, h4, hdays⟩, ⟨_, hdays, hdate⟩, fun hyear => ?_⟩
  have hnext := hd.next hyear
  refine ⟨_, _, ?_, weekday_of_convertible hd, weekday_of_convertible hnext, weekday_dayNumber_next hd.valid⟩
  rw [← dayNumber_next hd.valid]
  exact civilFromDays_of_convertible hnext

/-- The first years of `int` are not converted. -/
theorem daysFromCivil_eq_none {d : LocalDate} (h : marchYear d < -2147483249) :
    daysFromCivil d.year d.month d.day = none := by
  unfold daysFromCivil
  simp only [← marchYear.eq_1]
  by_cases hyear : -2147483648 ≤ marchYear d
  · refine int32_bind (by omega) ?_
    -- the year itself is an `int`, and 399 years before it there is none
    rw [if_neg (by omega), int32, if_neg (by omega)]
    rfl
  · rw [int32, if_neg (by omega)]
    rfl

/-- The conversions are inverse to each other on a date exactly when its year, counted from March, is at
least 399 above the smallest `int`. -/
theorem converts_iff {d : LocalDate} (hd : IntDate d) : Converts d ↔ -2147483249 ≤ marchYear d := by
  constructor
  · rintro ⟨-, ⟨days, hdays, -⟩, -⟩
    by_contra hearly
    rw [daysFromCivil_eq_none (not_le.1 hearly)] at hdays
    cases hdays
  · exact fun hmarch => converts_of_convertible ⟨hd.valid, hmarch, hd.year_le⟩

theorem converts_leap_day : Converts ⟨2024, 2, 29⟩ :=
  (converts_iff ⟨by decide, by decide, by decide⟩).2 (by decide)

/-- The first of March of the smallest year. -/
theorem first_year_not_converted : IntDate ⟨-2147483648, 3, 1⟩ ∧
    daysFromCivil (-2147483648) 3 1 = none ∧ ¬Converts ⟨-2147483648, 3, 1⟩ := by
  have hnone : daysFromCivil (-2147483648) 3 1 = none := by decide +kernel
  refine ⟨⟨by decide, by decide, by decide⟩, hnone, ?_⟩
  rintro ⟨-, ⟨days, hdays, -⟩, -⟩
  rw [hnone] at hdays
  cases hdays

end VoiceLife.Checked
