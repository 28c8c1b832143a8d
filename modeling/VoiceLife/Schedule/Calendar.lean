import VoiceLife.Lib.CInt
import VoiceLife.Lib.Gregorian

/-! # `calendar.cc`: civil dates and day counts

`daysFromCivil` and `civilFromDays` are the closed-form conversions of the source. They are shown to
compute the day count of the Gregorian calendar and its inverse.
-/

namespace VoiceLife

open CInt Gregorian

/-- A local civil date (UTC+8); the fields need not name an existing day. -/
abbrev LocalDate := Gregorian.Date

/-- `IsLeapYear`. -/
def isLeapYear (year : ℤ) : Bool :=
  (year.tmod 4 == 0 && year.tmod 100 != 0) || year.tmod 400 == 0

/-- The table of `DaysInMonth`. -/
def kDays : List ℤ := [31, 28, 31, 30, 31, 30, 31, 31, 30, 31, 30, 31]

/-- `DaysInMonth`; the source leaves a month outside 1..12 undefined. -/
def daysInMonth (year month : ℤ) : ℤ :=
  if month == 2 && isLeapYear year then 29 else kDays.getD (month - 1).toNat 0

/-- `DaysFromCivil`: days since 1970-01-01, over 400-year eras of years that begin in March. -/
def daysFromCivil (year month day : ℤ) : ℤ :=
  let year := year - (if month ≤ 2 then 1 else 0)
  let era := (if 0 ≤ year then year else year - 399).tdiv 400
  let yoe := toUnsigned (year - era * 400)
  let doy := toUnsigned ((153 * (month + (if month > 2 then -3 else 9)) + 2).tdiv 5 + day - 1)
  let doe := toUnsigned (yoe * 365 + yoe / 4 - yoe / 100 + doy)
  era * 146097 + doe - 719468

/-- `CivilFromDays`, with its three output parameters returned as a date. -/
def civilFromDays (days : ℤ) : LocalDate :=
  let days := days + 719468
  let era := (if 0 ≤ days then days else days - 146096).tdiv 146097
  let doe := toUnsigned (days - era * 146097)
  let yoe := toUnsigned ((doe - doe / 1460 + doe / 36524 - doe / 146096) / 365)
  let year := toInt yoe + toInt (era * 400)
  let doy := toUnsigned (doe - (365 * yoe + yoe / 4 - yoe / 100))
  let mp := toUnsigned ((5 * doy + 2) / 153)
  let day := toInt (doy - (153 * mp + 2) / 5 + 1)
  let month := toInt (mp + (if mp < 10 then 3 else -9))
  ⟨year + (if month ≤ 2 then 1 else 0), month, day⟩

/-- `Weekday`: 0 for Monday to 6 for Sunday. -/
def weekday (year month day : ℤ) : ℤ :=
  let days := daysFromCivil year month day
  let weekday := toInt ((days + 3).tmod 7)
  if weekday < 0 then weekday + 7 else weekday

/-! ## The calendar facts behind the formulas -/

theorem isLeapYear_iff (year : ℤ) : isLeapYear year = true ↔ IsLeap year := by
  simp only [isLeapYear, Bool.or_eq_true, Bool.and_eq_true, beq_iff_eq, bne_iff_ne, ne_eq,
    ← Int.dvd_iff_tmod_eq_zero, IsLeap]
  omega

theorem daysInMonth_eq {year month : ℤ} (h1 : 1 ≤ month) (h2 : month ≤ 12) :
    daysInMonth year month = monthLength year month := by
  have hleap := isLeapYear_iff year
  unfold daysInMonth monthLength kDays
  interval_cases month <;> simp [hleap]

/-- The year of `d` when years begin in March. -/
def marchYear (d : LocalDate) : ℤ :=
  d.year - (if d.month ≤ 2 then 1 else 0)

/-- The month of `d`, March being 0. -/
def marchMonth (d : LocalDate) : ℤ :=
  d.month + (if d.month > 2 then -3 else 9)

/-- The day of `d` in its March year. -/
def marchDay (d : LocalDate) : ℤ :=
  (153 * marchMonth d + 2) / 5 + d.day - 1

/-- The day of a March year in its 400-year era. -/
def eraDay (yoe doy : ℤ) : ℤ :=
  yoe * 365 + yoe / 4 - yoe / 100 + doy

theorem marchMonth_bounds {d : LocalDate} (hd : d.Valid) :
    0 ≤ marchMonth d ∧ marchMonth d ≤ 11 := by
  obtain ⟨h1, h2, -, -⟩ := hd
  unfold marchMonth
  split_ifs <;> omega

/-- The day of a March year determines its month; only a leap year has a day 365. -/
theorem marchDay_spec {d : LocalDate} (hd : d.Valid) :
    0 ≤ marchDay d ∧ marchDay d ≤ 365 ∧ (marchDay d = 365 → IsLeap (marchYear d + 1)) ∧
      (5 * marchDay d + 2) / 153 = marchMonth d := by
  obtain ⟨y, m, day⟩ := d
  obtain ⟨h1, h2, h3, h4⟩ := hd
  dsimp only at h1 h2 h3 h4
  simp only [marchDay, marchMonth, marchYear, IsLeap]
  unfold monthLength IsLeap at h4
  interval_cases m
  all_goals
    simp only [Int.reduceEq, Int.reduceLE, Int.reduceGT, Int.reduceNeg, reduceIte, or_false, or_true,
      or_self] at h4 ⊢
  case «2» =>
    split_ifs at h4 <;> omega
  all_goals omega

/-- The March-based month offsets agree with the lengths of the months. -/
theorem monthStart_eq_march {y m : ℤ} (h1 : 1 ≤ m) (h2 : m ≤ 12) :
    (153 * (m + (if m > 2 then -3 else 9)) + 2) / 5 =
      monthStart y m + (if m > 2 then -(if IsLeap y then 60 else 59) else 306) := by
  rw [monthStart_eq h1 h2]
  interval_cases m <;> split_ifs <;> omega

/-- The day count split into eras of 400 March years. -/
theorem dayNumber_eq_era {d : LocalDate} (hd : d.Valid) :
    dayNumber d =
      marchYear d / 400 * 146097 + eraDay (marchYear d % 400) (marchDay d) - 719468 := by
  have hmarch := monthStart_eq_march (y := d.year) hd.one_le_month hd.month_le
  have hstart : dayNumber d = yearStart (marchYear d + 1) - 306 + marchDay d := by
    unfold marchDay marchMonth marchYear dayNumber
    rw [hmarch]
    have hsucc := yearStart_succ d.year
    by_cases hm : d.month ≤ 2
    · simp only [if_pos hm, if_neg (not_lt.2 hm), sub_add_cancel]
      omega
    · simp only [if_neg hm, if_pos (not_le.1 hm), sub_zero, hsucc]
      split_ifs <;> omega
  rw [hstart]
  unfold yearStart eraDay
  omega

/-- On existing dates the source's formula is the calendar's day count. -/
theorem daysFromCivil_eq_dayNumber {d : LocalDate} (hd : d.Valid) :
    daysFromCivil d.year d.month d.day = dayNumber d := by
  have hm := marchMonth_bounds hd
  obtain ⟨hdoy0, hdoy1, -, -⟩ := marchDay_spec hd
  have hera := tdiv_shift_eq_ediv (marchYear d) (c := 400) (by norm_num)
  rw [dayNumber_eq_era hd]
  simp only [show (400 : ℤ) - 1 = 399 by norm_num] at hera
  simp only [daysFromCivil, ← marchYear.eq_1, ← marchMonth.eq_1, hera]
  rw [Int.tdiv_eq_ediv_of_nonneg (by omega), ← marchDay.eq_1, toUnsigned_eq hdoy0 (by omega),
    toUnsigned_eq (x := marchYear d - _) (by omega) (by omega),
    show marchYear d - marchYear d / 400 * 400 = marchYear d % 400 by omega, ← eraDay.eq_1,
    toUnsigned_eq (by unfold eraDay; omega) (by unfold eraDay; omega)]

/-- The division formula of `CivilFromDays` finds the year of an era day. -/
theorem eraDay_year {yoe doy : ℤ} (h0 : 0 ≤ yoe) (h1 : yoe < 400) (h2 : 0 ≤ doy) (h3 : doy ≤ 365)
    (hleap : doy = 365 → IsLeap (yoe + 1)) :
    (eraDay yoe doy - eraDay yoe doy / 1460 + eraDay yoe doy / 36524 - eraDay yoe doy / 146096) / 365 =
      yoe := by
  unfold IsLeap at hleap
  obtain ⟨c, q, s, hc0, hc, hq0, hq, hs0, hs, rfl⟩ : ∃ c q s : ℤ, 0 ≤ c ∧ c ≤ 3 ∧ 0 ≤ q ∧ q ≤ 24 ∧
      0 ≤ s ∧ s ≤ 3 ∧ yoe = 100 * c + 4 * q + s :=
    ⟨yoe / 100, yoe % 100 / 4, yoe % 4, by omega, by omega, by omega, by omega, by omega, by omega,
      by omega⟩
  have hlong : doy ≤ 364 ∨ s = 3 := by
    rcases Int.lt_or_eq_of_le h3 with h | h
    · exact Or.inl (by omega)
    · have := hleap h
      exact Or.inr (by omega)
  have hdoe : eraDay (100 * c + 4 * q + s) doy = 36524 * c + 1461 * q + 365 * s + doy := by
    unfold eraDay
    omega
  have hrest : 1461 * q + 365 * s + doy ≤ 36524 ∧ (c ≤ 2 → 1461 * q + 365 * s + doy ≤ 36523) := by
    refine ⟨by omega, fun hc2 => ?_⟩
    by_contra hlong
    obtain ⟨rfl, rfl, rfl⟩ : q = 24 ∧ s = 3 ∧ doy = 365 := by omega
    have := hleap rfl
    omega
  have hcentury : (36524 * c + 1461 * q + 365 * s + doy) / 36524 -
      (36524 * c + 1461 * q + 365 * s + doy) / 146096 = c := by
    clear hleap hdoe
    by_cases hlast : c = 3 ∧ 1461 * q + 365 * s + doy = 36524
    · omega
    · have h1 : (36524 * c + 1461 * q + 365 * s + doy) / 36524 = c := by omega
      have h2 : (36524 * c + 1461 * q + 365 * s + doy) / 146096 = 0 := by omega
      rw [h1, h2, sub_zero]
  -- the fourth-year quotient is one too large from the day on that belongs to the next cycle
  obtain ⟨δ, hδ, hcycle⟩ : ∃ δ : ℤ, (δ = 0 ∧ 24 * c + q + 365 * s + doy < 1460 ∨
      δ = 1 ∧ 1460 ≤ 24 * c + q + 365 * s + doy) ∧
      (36524 * c + 1461 * q + 365 * s + doy) / 1460 = 25 * c + q + δ := by
    by_cases hlast : 24 * c + q + 365 * s + doy < 1460
    · exact ⟨0, Or.inl ⟨rfl, hlast⟩, by clear hcentury hleap hdoe; omega⟩
    · exact ⟨1, Or.inr ⟨rfl, by omega⟩, by clear hcentury hleap hdoe; omega⟩
  have hnum : 36524 * c + 1461 * q + 365 * s + doy -
      (36524 * c + 1461 * q + 365 * s + doy) / 1460 +
      (36524 * c + 1461 * q + 365 * s + doy) / 36524 -
      (36524 * c + 1461 * q + 365 * s + doy) / 146096 =
        365 * (100 * c + 4 * q + s) + (doy - δ) := by
    omega
  rw [hdoe, hnum]
  clear hdoe hnum hcentury hcycle hrest hleap
  omega

theorem eraDay_bounds {yoe doy : ℤ} (h0 : 0 ≤ yoe) (h1 : yoe < 400) (h2 : 0 ≤ doy) (h3 : doy ≤ 365) :
    0 ≤ eraDay yoe doy ∧ eraDay yoe doy < 146097 := by
  unfold eraDay
  omega

private theorem ediv_era {era doe : ℤ} (h0 : 0 ≤ doe) (h1 : doe < 146097) :
    (era * 146097 + doe) / 146097 = era := by
  omega

/-- What `CivilFromDays` computes on the way from the day number of an existing date. -/
structure CivilParts (d : LocalDate) : Prop where
  days : dayNumber d + 719468 =
    marchYear d / 400 * 146097 + eraDay (marchYear d % 400) (marchDay d)
  era : (if 0 ≤ dayNumber d + 719468 then dayNumber d + 719468
    else dayNumber d + 719468 - 146096).tdiv 146097 = marchYear d / 400
  eraDay_nonneg : 0 ≤ eraDay (marchYear d % 400) (marchDay d)
  eraDay_lt : eraDay (marchYear d % 400) (marchDay d) < 146097
  yoe_nonneg : 0 ≤ marchYear d % 400
  yoe_lt : marchYear d % 400 < 400
  yoe : (eraDay (marchYear d % 400) (marchDay d) -
    eraDay (marchYear d % 400) (marchDay d) / 1460 +
    eraDay (marchYear d % 400) (marchDay d) / 36524 -
    eraDay (marchYear d % 400) (marchDay d) / 146096) / 365 = marchYear d % 400
  doy : eraDay (marchYear d % 400) (marchDay d) - (365 * (marchYear d % 400) +
    marchYear d % 400 / 4 - marchYear d % 400 / 100) = marchDay d
  day : marchDay d - (153 * marchMonth d + 2) / 5 + 1 = d.day
  month : marchMonth d + (if marchMonth d < 10 then 3 else -9) = d.month
  year : marchYear d % 400 + marchYear d / 400 * 400 + (if d.month ≤ 2 then 1 else 0) = d.year

theorem civilParts {d : LocalDate} (hd : d.Valid) : CivilParts d := by
  obtain ⟨hdoy0, hdoy1, hleap, -⟩ := marchDay_spec hd
  have hyear : d.year = marchYear d + (if d.month ≤ 2 then 1 else 0) := by
    unfold marchYear
    omega
  have hleap' : marchDay d = 365 → IsLeap (marchYear d % 400 + 1) := by
    intro h
    have := hleap h
    unfold IsLeap at this ⊢
    omega
  have hyoe0 : 0 ≤ marchYear d % 400 := Int.emod_nonneg _ (by norm_num)
  have hyoe1 : marchYear d % 400 < 400 := Int.emod_lt_of_pos _ (by norm_num)
  have hdoe := eraDay_bounds hyoe0 hyoe1 hdoy0 hdoy1
  have hdays : dayNumber d + 719468 =
      marchYear d / 400 * 146097 + eraDay (marchYear d % 400) (marchDay d) := by
    rw [dayNumber_eq_era hd, sub_add_cancel]
  have hera := tdiv_shift_eq_ediv (dayNumber d + 719468) (c := 146097) (by norm_num)
  rw [show (146097 : ℤ) - 1 = 146096 by norm_num] at hera
  refine ⟨hdays, ?_, hdoe.1, hdoe.2, hyoe0, hyoe1,
    eraDay_year hyoe0 hyoe1 hdoy0 hdoy1 hleap', ?_, ?_, ?_, ?_⟩
  · rw [hera, hdays]
    exact ediv_era hdoe.1 hdoe.2
  · unfold eraDay
    omega
  · unfold marchDay
    omega
  · have := hd.one_le_month
    have := hd.month_le
    unfold marchMonth
    split_ifs <;> omega
  · omega

/-- `CivilFromDays` inverts the day count on every existing date whose year an `int` can hold. -/
theorem civilFromDays_dayNumber {d : LocalDate} (hd : d.Valid) (hmin : -2147483248 ≤ d.year)
    (hmax : d.year ≤ intMax) : civilFromDays (dayNumber d) = d := by
  have hm := marchMonth_bounds hd
  obtain ⟨hdoy0, hdoy1, -, hmp⟩ := marchDay_spec hd
  have hparts := civilParts hd
  have hyear := hparts.year
  have hyoe0 := hparts.yoe_nonneg
  have hyoe1 := hparts.yoe_lt
  unfold intMax at hmax
  have hera_min : -2147483648 ≤ marchYear d / 400 * 400 := by split_ifs at hyear <;> omega
  have hera_max : marchYear d / 400 * 400 ≤ 2147483647 := by split_ifs at hyear <;> omega
  simp only [civilFromDays, hparts.era]
  rw [hparts.days, add_sub_cancel_left, toUnsigned_eq hparts.eraDay_nonneg (by
      have := hparts.eraDay_lt
      omega), hparts.yoe,
    toUnsigned_eq (x := marchYear d % 400) hyoe0 (by omega), hparts.doy,
    toUnsigned_eq hdoy0 (by omega), hmp,
    toUnsigned_eq hm.1 (by omega), toInt_eq (x := marchYear d % 400) (by omega)
      (by unfold intMax; omega),
    toInt_eq hera_min (by unfold intMax; omega)]
  have hlen := monthLength_le d.year d.month
  have := hd.one_le_day
  have := hd.day_le
  have := hd.one_le_month
  have := hd.month_le
  rw [hparts.day, hparts.month, toInt_eq (x := d.day) (by omega) (by unfold intMax; omega),
    toInt_eq (x := d.month) (by omega) (by unfold intMax; omega), hyear]

/-- `Weekday` is the weekday of the day count. -/
theorem weekday_eq {d : LocalDate} (hd : d.Valid) :
    weekday d.year d.month d.day = Gregorian.weekday (dayNumber d) := by
  have hmod : (dayNumber d + 3).tmod 7 = dayNumber d + 3 - 7 * (dayNumber d + 3).tdiv 7 :=
    Int.tmod_def _ _
  have hlo : -7 < (dayNumber d + 3).tmod 7 := Int.lt_tmod_of_pos _ (by norm_num)
  have hhi : (dayNumber d + 3).tmod 7 < 7 := Int.tmod_lt_of_pos _ (by norm_num)
  simp only [weekday, daysFromCivil_eq_dayNumber hd, Gregorian.weekday]
  rw [toInt_eq (by omega) (by unfold intMax; omega)]
  split_ifs with hneg
  · omega
  · omega

end VoiceLife
