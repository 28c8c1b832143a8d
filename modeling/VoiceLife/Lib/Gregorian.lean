import Mathlib

/-! # The proleptic Gregorian calendar

Dates are counted in days from 1970-01-01. `dayNumber` is a strictly monotone bijection between the
existing dates, ordered lexicographically, and the integers. The last section bounds how far apart
the leap years of an arithmetic progression of years can lie.
-/

namespace Gregorian

/-- The Gregorian leap-year rule. -/
def IsLeap (y : ℤ) : Prop :=
  (y % 4 = 0 ∧ y % 100 ≠ 0) ∨ y % 400 = 0

instance : DecidablePred IsLeap := fun _ => inferInstanceAs (Decidable (_ ∨ _))

/-- The number of days of month `m` in year `y`. -/
def monthLength (y m : ℤ) : ℤ :=
  if m = 2 then if IsLeap y then 29 else 28
  else if m = 4 ∨ m = 6 ∨ m = 9 ∨ m = 11 then 30 else 31

/-- A civil date; nothing forces the three fields to name an existing day. -/
structure Date where
  year : ℤ
  month : ℤ
  day : ℤ
deriving DecidableEq, Repr

/-- The date exists in the calendar. -/
structure Date.Valid (d : Date) : Prop where
  one_le_month : 1 ≤ d.month
  month_le : d.month ≤ 12
  one_le_day : 1 ≤ d.day
  day_le : d.day ≤ monthLength d.year d.month

theorem Date.valid_iff (d : Date) :
    d.Valid ↔ 1 ≤ d.month ∧ d.month ≤ 12 ∧ 1 ≤ d.day ∧ d.day ≤ monthLength d.year d.month :=
  ⟨fun h => ⟨h.1, h.2, h.3, h.4⟩, fun h => ⟨h.1, h.2.1, h.2.2.1, h.2.2.2⟩⟩

instance (d : Date) : Decidable d.Valid := decidable_of_iff _ d.valid_iff.symm

/-- Dates are ordered by year, then month, then day. -/
instance : LinearOrder Date :=
  LinearOrder.lift' (fun d : Date => toLex (d.year, toLex (d.month, d.day))) (by
    rintro ⟨y, m, d⟩ ⟨y', m', d'⟩ h
    simpa using h)

theorem Date.lt_iff (a b : Date) :
    a < b ↔ a.year < b.year ∨
      a.year = b.year ∧ (a.month < b.month ∨ a.month = b.month ∧ a.day < b.day) := by
  change toLex (a.year, toLex (a.month, a.day)) < toLex (b.year, toLex (b.month, b.day)) ↔ _
  rw [Prod.Lex.toLex_lt_toLex, Prod.Lex.toLex_lt_toLex]

/-! ## Month lengths -/

theorem monthLength_pos (y m : ℤ) : 28 ≤ monthLength y m := by
  unfold monthLength
  split_ifs <;> omega

theorem monthLength_le (y m : ℤ) : monthLength y m ≤ 31 := by
  unfold monthLength
  split_ifs <;> omega

theorem monthLength_of_ne_two {y m : ℤ} (hm : m ≠ 2) : 30 ≤ monthLength y m := by
  unfold monthLength
  split_ifs <;> omega

/-- Only February's length depends on the year. -/
theorem monthLength_congr (y y' : ℤ) {m : ℤ} (hm : m ≠ 2) : monthLength y m = monthLength y' m := by
  simp only [monthLength, if_neg hm]

/-! ## Counting days -/

/-- Day number of January 1 of year `y`. -/
def yearStart (y : ℤ) : ℤ :=
  365 * (y - 1970) + (y - 1) / 4 - (y - 1) / 100 + (y - 1) / 400 - 477

theorem yearStart_epoch : yearStart 1970 = 0 := by decide

/-- Each year adds its own length: with `yearStart_epoch` this determines `yearStart`. -/
theorem yearStart_succ (y : ℤ) :
    yearStart (y + 1) = yearStart y + if IsLeap y then 366 else 365 := by
  unfold yearStart IsLeap
  split_ifs <;> omega

theorem yearStart_le_of_le {y y' : ℤ} (h : y ≤ y') : yearStart y + 365 * (y' - y) ≤ yearStart y' := by
  unfold yearStart
  omega

/-- The days of the months before month `m` of year `y`. -/
def monthStart (y m : ℤ) : ℤ :=
  ((List.range (m - 1).toNat).map fun k : ℕ => monthLength y (k + 1)).sum

theorem monthStart_one (y : ℤ) : monthStart y 1 = 0 := by
  simp [monthStart]

theorem monthStart_succ {y m : ℤ} (hm : 1 ≤ m) :
    monthStart y (m + 1) = monthStart y m + monthLength y m := by
  have hn : (m + 1 - 1).toNat = (m - 1).toNat + 1 := by omega
  have hc : ((m - 1).toNat : ℤ) + 1 = m := by omega
  rw [monthStart, hn, List.range_succ, List.map_append, List.sum_append, List.map_singleton,
    List.sum_singleton, hc, monthStart]

/-- The twelve values of `monthStart`, with the leap day in front of March. -/
theorem monthStart_eq {y m : ℤ} (h1 : 1 ≤ m) (h2 : m ≤ 12) :
    monthStart y m =
      (if m ≤ 2 then 31 * (m - 1) else (153 * (m - 3) + 2) / 5 + 59 + if IsLeap y then 1 else 0) := by
  have h : ∀ k : ℕ, (k : ℤ) < 12 → monthStart y (k + 1) =
      (if (k : ℤ) + 1 ≤ 2 then (31 * k : ℤ)
        else (153 * ((k : ℤ) + 1 - 3) + 2) / 5 + 59 + if IsLeap y then 1 else 0) := by
    intro k hk
    induction k with
    | zero => simp [monthStart_one]
    | succ k ih =>
        have ih' := ih (by omega)
        have hk' : k < 11 := by omega
        rw [Nat.cast_succ, monthStart_succ (by omega), ih', monthLength]
        by_cases hleap : IsLeap y
        all_goals
          simp only [hleap, if_true, if_false]
          interval_cases k <;> rfl
  have := h (m - 1).toNat (by omega)
  rw [show (((m - 1).toNat : ℤ)) = m - 1 by omega] at this
  rwa [show m - 1 + 1 = m by omega] at this

theorem monthStart_nonneg {y m : ℤ} (h1 : 1 ≤ m) (h2 : m ≤ 12) : 0 ≤ monthStart y m := by
  rw [monthStart_eq h1 h2]
  split_ifs <;> omega

/-- A month ends before a later month of the same year begins. -/
theorem monthStart_add_length_le {y m m' : ℤ} (h1 : 1 ≤ m) (h : m < m') (h2 : m' ≤ 12) :
    monthStart y m + monthLength y m ≤ monthStart y m' := by
  rw [← monthStart_succ h1, monthStart_eq (by omega) (by omega), monthStart_eq (by omega) h2]
  split_ifs <;> omega

/-- December ends with its year. -/
theorem monthStart_add_length_le_year {y m : ℤ} (h1 : 1 ≤ m) (h2 : m ≤ 12) :
    monthStart y m + monthLength y m ≤ yearStart (y + 1) - yearStart y := by
  rw [monthStart_eq h1 h2, yearStart_succ, monthLength]
  split_ifs <;> omega

/-- Days from 1970-01-01 to the date. -/
def dayNumber (d : Date) : ℤ :=
  yearStart d.year + monthStart d.year d.month + (d.day - 1)

theorem yearStart_le_dayNumber {d : Date} (hd : d.Valid) : yearStart d.year ≤ dayNumber d := by
  have := monthStart_nonneg (y := d.year) hd.one_le_month hd.month_le
  have := hd.one_le_day
  unfold dayNumber
  omega

theorem dayNumber_lt_yearStart_succ {d : Date} (hd : d.Valid) :
    dayNumber d < yearStart (d.year + 1) := by
  have := monthStart_add_length_le_year (y := d.year) hd.one_le_month hd.month_le
  have := hd.day_le
  unfold dayNumber
  omega

/-- A later existing date has a larger day number. -/
theorem dayNumber_lt_of_lt {a b : Date} (ha : a.Valid) (hb : b.Valid) (h : a < b) :
    dayNumber a < dayNumber b := by
  rcases (Date.lt_iff a b).1 h with hy | ⟨hy, hm | ⟨hm, hd⟩⟩
  · calc dayNumber a < yearStart (a.year + 1) := dayNumber_lt_yearStart_succ ha
      _ ≤ yearStart b.year := by
          have := yearStart_le_of_le (show a.year + 1 ≤ b.year by omega)
          omega
      _ ≤ dayNumber b := yearStart_le_dayNumber hb
  · have hstep := monthStart_add_length_le (y := a.year) ha.one_le_month hm hb.month_le
    have := ha.day_le
    have := hb.one_le_day
    unfold dayNumber
    rw [← hy]
    omega
  · unfold dayNumber
    rw [hy, hm]
    omega

theorem dayNumber_lt_iff {a b : Date} (ha : a.Valid) (hb : b.Valid) :
    dayNumber a < dayNumber b ↔ a < b := by
  refine ⟨fun h => ?_, dayNumber_lt_of_lt ha hb⟩
  by_contra hn
  rcases (not_lt.1 hn).lt_or_eq with hlt | heq
  · exact absurd (dayNumber_lt_of_lt hb ha hlt) (by omega)
  · rw [heq] at h
    exact lt_irrefl _ h

theorem dayNumber_le_iff {a b : Date} (ha : a.Valid) (hb : b.Valid) :
    dayNumber a ≤ dayNumber b ↔ a ≤ b := by
  rw [← not_lt, dayNumber_lt_iff hb ha, not_lt]

theorem dayNumber_injective {a b : Date} (ha : a.Valid) (hb : b.Valid)
    (h : dayNumber a = dayNumber b) : a = b :=
  le_antisymm ((dayNumber_le_iff ha hb).1 h.le) ((dayNumber_le_iff hb ha).1 h.ge)

/-! ## Every day has a date -/

/-- The day after `d`. -/
def Date.next (d : Date) : Date :=
  if d.day < monthLength d.year d.month then ⟨d.year, d.month, d.day + 1⟩
  else if d.month < 12 then ⟨d.year, d.month + 1, 1⟩ else ⟨d.year + 1, 1, 1⟩

/-- The day before `d`. -/
def Date.prev (d : Date) : Date :=
  if 1 < d.day then ⟨d.year, d.month, d.day - 1⟩
  else if 1 < d.month then ⟨d.year, d.month - 1, monthLength d.year (d.month - 1)⟩
  else ⟨d.year - 1, 12, 31⟩

theorem Date.Valid.next {d : Date} (hd : d.Valid) : d.next.Valid := by
  obtain ⟨h1, h2, h3, h4⟩ := hd
  have := monthLength_pos d.year (d.month + 1)
  have := monthLength_pos (d.year + 1) 1
  unfold Date.next
  split_ifs <;> constructor <;> dsimp only <;> omega

theorem Date.Valid.prev {d : Date} (hd : d.Valid) : d.prev.Valid := by
  obtain ⟨h1, h2, h3, h4⟩ := hd
  have := monthLength_pos d.year (d.month - 1)
  have hdec : monthLength (d.year - 1) 12 = 31 := by simp [monthLength]
  unfold Date.prev
  split_ifs <;> constructor <;> dsimp only <;> omega

theorem dayNumber_next {d : Date} (hd : d.Valid) : dayNumber d.next = dayNumber d + 1 := by
  obtain ⟨h1, h2, h3, h4⟩ := hd
  unfold Date.next dayNumber
  split_ifs with hday hmonth
  · dsimp only
    omega
  · dsimp only
    rw [monthStart_succ h1]
    omega
  · dsimp only
    have hm : d.month = 12 := by omega
    have hl : monthLength d.year 12 = 31 := by simp [monthLength]
    rw [hm, hl] at hday
    rw [hm, monthStart_one, yearStart_succ, monthStart_eq (by omega) (by omega)]
    rw [hm, hl] at h4
    split_ifs <;> omega

theorem dayNumber_prev {d : Date} (hd : d.Valid) : dayNumber d.prev = dayNumber d - 1 := by
  obtain ⟨h1, h2, h3, h4⟩ := hd
  unfold Date.prev dayNumber
  split_ifs with hday hmonth
  · dsimp only
    omega
  · dsimp only
    have hs := monthStart_succ (y := d.year) (m := d.month - 1) (by omega)
    rw [show d.month - 1 + 1 = d.month by omega] at hs
    omega
  · dsimp only
    have hm : d.month = 1 := by omega
    have hs := yearStart_succ (d.year - 1)
    rw [show d.year - 1 + 1 = d.year by omega] at hs
    rw [hm, monthStart_one, hs, monthStart_eq (by omega) (by omega)]
    split_ifs <;> omega

/-- Every integer is the day number of an existing date. -/
theorem exists_valid_dayNumber (n : ℤ) : ∃ d : Date, d.Valid ∧ dayNumber d = n := by
  induction n using Int.induction_on with
  | zero => exact ⟨⟨1970, 1, 1⟩, by decide, by decide⟩
  | succ n ih =>
      obtain ⟨d, hd, hn⟩ := ih
      exact ⟨d.next, hd.next, by rw [dayNumber_next hd, hn]⟩
  | pred n ih =>
      obtain ⟨d, hd, hn⟩ := ih
      exact ⟨d.prev, hd.prev, by rw [dayNumber_prev hd, hn]⟩

/-- The date of a day number. -/
noncomputable def ofDayNumber (n : ℤ) : Date :=
  (exists_valid_dayNumber n).choose

theorem ofDayNumber_valid (n : ℤ) : (ofDayNumber n).Valid :=
  (exists_valid_dayNumber n).choose_spec.1

@[simp] theorem dayNumber_ofDayNumber (n : ℤ) : dayNumber (ofDayNumber n) = n :=
  (exists_valid_dayNumber n).choose_spec.2

theorem ofDayNumber_dayNumber {d : Date} (hd : d.Valid) : ofDayNumber (dayNumber d) = d :=
  dayNumber_injective (ofDayNumber_valid _) hd (dayNumber_ofDayNumber _)

/-! ## Weeks -/

/-- The weekday of a day number, Monday being 0; 1970-01-01 was a Thursday. -/
def weekday (n : ℤ) : ℤ :=
  (n + 3) % 7

/-- The Monday on or before day `n`. -/
def weekStart (n : ℤ) : ℤ :=
  n - weekday n

theorem weekday_nonneg (n : ℤ) : 0 ≤ weekday n := by
  unfold weekday
  omega

theorem weekday_lt (n : ℤ) : weekday n < 7 := by
  unfold weekday
  omega

/-! ## Leap years in arithmetic progressions -/

theorem IsLeap.mod_four {y : ℤ} (h : IsLeap y) : y % 4 = 0 := by
  unfold IsLeap at h
  omega

/-- If the years `a + n * i` contain a leap year at all, every sixteen consecutive ones do. -/
theorem exists_leap_in_window {a i n₀ : ℤ} (h : IsLeap (a + n₀ * i)) (n : ℤ) :
    ∃ j : ℤ, n ≤ j ∧ j < n + 16 ∧ IsLeap (a + j * i) := by
  have h4 := h.mod_four
  by_cases hi : i % 25 = 0
  · -- every 16 steps the year moves by a multiple of 400, so leap years recur
    obtain ⟨q, hq⟩ : ∃ q, i = 25 * q := ⟨i / 25, by omega⟩
    obtain ⟨k, hk1, hk2⟩ : ∃ k : ℤ, n ≤ n₀ + 16 * k ∧ n₀ + 16 * k < n + 16 :=
      ⟨(n - n₀ + 15) / 16, by omega, by omega⟩
    refine ⟨n₀ + 16 * k, hk1, hk2, ?_⟩
    have hmod : a + (n₀ + 16 * k) * i = a + n₀ * i + 400 * (k * q) := by
      rw [hq]
      ring
    rw [hmod]
    unfold IsLeap at h ⊢
    omega
  · -- of two years four steps apart at most one is a multiple of 25
    obtain ⟨k, hk1, hk2⟩ : ∃ k : ℤ, n ≤ n₀ + 4 * k ∧ n₀ + 4 * k < n + 4 :=
      ⟨(n - n₀ + 3) / 4, by omega, by omega⟩
    have e1 : a + (n₀ + 4 * k) * i = a + n₀ * i + 4 * (k * i) := by ring
    have e2 : a + (n₀ + 4 * (k + 1)) * i = a + n₀ * i + 4 * (k * i) + 4 * i := by ring
    by_cases h25 : (a + n₀ * i + 4 * (k * i)) % 25 = 0
    · refine ⟨n₀ + 4 * (k + 1), by omega, by omega, ?_⟩
      rw [e2]
      unfold IsLeap
      omega
    · refine ⟨n₀ + 4 * k, hk1, by omega, ?_⟩
      rw [e1]
      unfold IsLeap
      omega

end Gregorian
