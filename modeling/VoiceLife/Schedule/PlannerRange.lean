import VoiceLife.Schedule.CheckedPlanner

/-! # Where the planner's arithmetic stays in range

On dates of four-digit years the checked functions return what the planner's own functions do, with
one exception: the year of a monthly or yearly candidate can leave `int`. `checkedRounds` carries
this through the loops, period by period up to the first hit.
-/

namespace VoiceLife.Checked

open CInt Gregorian FirstHit

/-! ## The calendar on existing dates -/

/-- Dates that the conversions can take: the era of the year, counted from March, is found by a subtraction
that stays in `int`. -/
structure Convertible (d : LocalDate) : Prop where
  valid : d.Valid
  marchYear_ge : -2147483249 ≤ marchYear d
  year_le : d.year ≤ intMax

variable {d : LocalDate}

theorem daysFromCivil_of_convertible (hd : Convertible d) :
    daysFromCivil d.year d.month d.day = some (dayNumber d) := by
  obtain ⟨hvalid, hmin, hmax⟩ := hd
  have hm := marchMonth_bounds hvalid
  obtain ⟨hdoy0, hdoy1, -, -⟩ := marchDay_spec hvalid
  have hera := tdiv_shift_eq_ediv (marchYear d) (c := 400) (by norm_num)
  rw [show (400 : ℤ) - 1 = 399 by norm_num] at hera
  have hmarch : marchYear d ≤ intMax := by
    unfold marchYear
    split_ifs <;> omega
  have hday := hvalid.one_le_day
  have hlen := hvalid.day_le
  have hlen' := monthLength_le d.year d.month
  unfold intMax at hmarch hmax
  have hdoy : (153 * marchMonth d + 2) / 5 + d.day - 1 = marchDay d := rfl
  have hdiv : (153 * marchMonth d + 2).tdiv 5 = (153 * marchMonth d + 2) / 5 :=
    Int.tdiv_eq_ediv_of_nonneg (by omega)
  unfold daysFromCivil
  simp only [← marchYear.eq_1, ← marchMonth.eq_1]
  refine int32_bind (by omega) ?_
  refine int32_bind (by split_ifs <;> omega) ?_
  rw [hera]
  refine int64_bind (by omega) ?_
  refine int64_bind (by omega) ?_
  refine int32_bind (by omega) ?_
  refine int32_bind (by omega) ?_
  refine int32_bind (by omega) ?_
  rw [hdiv]
  refine int32_bind (by omega) ?_
  refine int32_bind (by omega) ?_
  rw [hdoy, show marchYear d - marchYear d / 400 * 400 = marchYear d % 400 by omega,
    toUnsigned_eq hdoy0 (by omega), toUnsigned_eq (x := marchYear d % 400) (by omega) (by omega),
    ← eraDay.eq_1]
  have hbounds : 0 ≤ eraDay (marchYear d % 400) (marchDay d) ∧
      eraDay (marchYear d % 400) (marchDay d) < 146097 :=
    eraDay_bounds (by omega) (by omega) hdoy0 hdoy1
  rw [toUnsigned_eq hbounds.1 (by omega), dayNumber_eq_era hvalid]
  refine int64_bind (by omega) ?_
  refine int64_bind (by omega) ?_
  exact int64_eq (by omega)

theorem civilFromDays_of_convertible (hd : Convertible d) : civilFromDays (dayNumber d) = some d := by
  obtain ⟨hvalid, hmin, hmax⟩ := hd
  have hm := marchMonth_bounds hvalid
  obtain ⟨hdoy0, hdoy1, -, hmp⟩ := marchDay_spec hvalid
  have hparts := civilParts hvalid
  have hera := hparts.era
  have hdays := hparts.days
  have hdoe0 := hparts.eraDay_nonneg
  have hdoe1 := hparts.eraDay_lt
  have hyoe0 := hparts.yoe_nonneg
  have hyoe1 := hparts.yoe_lt
  have hyear := hparts.year
  have hmarch : marchYear d ≤ intMax := by
    unfold marchYear
    split_ifs <;> omega
  have hlen := monthLength_le d.year d.month
  have hday1 := hvalid.one_le_day
  have hday2 := hvalid.day_le
  have hmonth1 := hvalid.one_le_month
  have hmonth2 := hvalid.month_le
  unfold intMax at hmarch hmax
  unfold civilFromDays
  refine int64_bind (by omega) ?_
  refine int64_bind (by split_ifs <;> omega) ?_
  rw [hera, hdays]
  refine int64_bind (by omega) ?_
  rw [add_sub_cancel_left]
  refine int64_bind (by omega) ?_
  simp only [toUnsigned_eq hdoe0 (show _ < 4294967296 by omega), hparts.yoe,
    toUnsigned_eq hyoe0 (show _ < 4294967296 by omega), hparts.doy,
    toUnsigned_eq hdoy0 (show _ < 4294967296 by omega), hmp,
    toUnsigned_eq hm.1 (show _ < 4294967296 by omega), hparts.day, hparts.month,
    toUnsigned_eq (show 0 ≤ d.day by omega) (show _ < 4294967296 by omega),
    toUnsigned_eq (show 0 ≤ d.month by omega) (show _ < 4294967296 by omega)]
  refine int32_bind (by omega) ?_
  refine int64_bind (by omega) ?_
  refine int32_bind (by omega) ?_
  refine int32_bind (by split_ifs at hyear <;> omega) ?_
  refine int32_bind (by omega) ?_
  refine int32_bind (by omega) ?_
  rw [hyear]
  refine int32_bind (by omega) ?_
  rfl

theorem Convertible.dayNumber_bounds (hd : Convertible d) :
    -790000000000 ≤ dayNumber d ∧ dayNumber d ≤ 790000000000 := by
  have h1 := yearStart_le_dayNumber hd.valid
  have h2 := dayNumber_lt_yearStart_succ hd.valid
  have h3 := hd.year_le
  have h4 : -2147483249 ≤ d.year := by
    have hmarch := hd.marchYear_ge
    unfold marchYear at hmarch
    split_ifs at hmarch <;> omega
  unfold intMax at h3
  unfold yearStart at h1 h2
  omega

theorem weekday_of_convertible (hd : Convertible d) :
    weekday d.year d.month d.day = some (Gregorian.weekday (dayNumber d)) := by
  have hbounds := hd.dayNumber_bounds
  have hplain := VoiceLife.weekday_eq hd.valid
  have hlo : -7 < (dayNumber d + 3).tmod 7 := Int.lt_tmod_of_pos _ (by norm_num)
  have hhi : (dayNumber d + 3).tmod 7 < 7 := Int.tmod_lt_of_pos _ (by norm_num)
  simp only [VoiceLife.weekday, daysFromCivil_eq_dayNumber hd.valid] at hplain
  rw [toInt_eq (by omega) (by unfold intMax; omega)] at hplain
  unfold weekday
  rw [daysFromCivil_of_convertible hd]
  show (int64 _ >>= _ : Option ℤ) = _
  refine int64_bind (by omega) ?_
  refine int32_bind (by omega) ?_
  rw [← hplain]
  split_ifs
  · exact int32_eq (by omega)
  · rfl

/-- Dates whose arithmetic stays in range. -/
structure InRange (d : LocalDate) : Prop where
  valid : d.Valid
  year_nonneg : 0 ≤ d.year
  year_le : d.year ≤ intMax

theorem InRange.convertible (hd : InRange d) : Convertible d := by
  obtain ⟨hvalid, hmin, hmax⟩ := hd
  refine ⟨hvalid, ?_, hmax⟩
  unfold marchYear
  split_ifs <;> omega

theorem daysFromCivil_eq (hd : InRange d) : daysFromCivil d.year d.month d.day = some (dayNumber d) :=
  daysFromCivil_of_convertible hd.convertible

theorem civilFromDays_eq (hd : InRange d) : civilFromDays (dayNumber d) = some d :=
  civilFromDays_of_convertible hd.convertible

theorem InRange.dayNumber_bounds (hd : InRange d) :
    -719528 ≤ dayNumber d ∧ dayNumber d ≤ 790000000000 := by
  have h1 := yearStart_le_dayNumber hd.valid
  have h2 := yearStart_le_of_le hd.year_nonneg
  have h3 : yearStart 0 = -719528 := by decide
  have h4 := hd.year_nonneg
  exact ⟨by omega, hd.convertible.dayNumber_bounds.2⟩

theorem weekday_eq (hd : InRange d) :
    weekday d.year d.month d.day = some (Gregorian.weekday (dayNumber d)) :=
  weekday_of_convertible hd.convertible

/-! ## The helpers of the planner -/

theorem unixFromLocal_eq (hd : InRange d) {time : LocalTime} (ht : time.InClockRange) :
    unixFromLocal d time.hour time.minute time.second =
      some (VoiceLife.unixFromLocal d time.hour time.minute time.second) := by
  have hbounds := hd.dayNumber_bounds
  obtain ⟨h1, h2, h3, h4, h5, h6⟩ := ht
  unfold unixFromLocal VoiceLife.unixFromLocal kTimezoneOffsetSeconds
  rw [daysFromCivil_eq hd, daysFromCivil_eq_dayNumber hd.valid]
  show (int64 _ >>= _ : Option ℤ) = _
  refine int64_bind (by omega) ?_
  refine int32_bind (by omega) ?_
  refine int64_bind (by omega) ?_
  refine int32_bind (by omega) ?_
  refine int64_bind (by omega) ?_
  refine int64_bind (by omega) ?_
  exact int64_eq (by omega)

theorem ceilDiv_eq {x n : ℤ} (hx0 : 0 ≤ x) (hx : x ≤ 3652425) (hn0 : 1 ≤ n) (hn : n ≤ intMax) :
    ceilDiv x n = some (VoiceLife.ceilDiv x n) := by
  unfold intMax at hn
  have hplain := VoiceLife.ceilDiv_eq hx0 hn0
  have hq0 : 0 ≤ (x + n - 1) / n := Int.ediv_nonneg (by omega) (by omega)
  have hq1 : (x + n - 1) / n ≤ x + n - 1 := Int.ediv_le_self _ (by omega)
  unfold ceilDiv
  refine int64_bind (by omega) ?_
  refine int64_bind (by omega) ?_
  rw [hplain, Int.tdiv_eq_ediv_of_nonneg (by omega)]
  exact int64_eq (by omega)

theorem addDaysChecked_one_eq (hd : InRange d) (hnext : InRange d.next) :
    addDaysChecked d 1 = some (some d.next) := by
  have hbounds := hd.dayNumber_bounds
  unfold addDaysChecked
  rw [daysFromCivil_eq hd]
  show (if _ then _ else _) = _
  rw [if_neg (by omega), if_neg (by omega), ← dayNumber_next hd.valid]
  refine int64_bind (by rw [dayNumber_next hd.valid]; omega) ?_
  rw [civilFromDays_eq hnext]
  rfl

/-! ## The first period of a search -/

/-- A date the searches start from: a four-digit year, or the first of January after it. -/
structure Near (d : LocalDate) : Prop where
  valid : d.Valid
  one_le_year : 1 ≤ d.year
  year_le : d.year ≤ 10000

theorem Near.inRange (hd : Near d) : InRange d :=
  ⟨hd.valid, by have := hd.one_le_year; omega, by have := hd.year_le; unfold intMax; omega⟩

theorem Near.dayNumber_bounds (hd : Near d) : -719162 ≤ dayNumber d ∧ dayNumber d < 2933263 := by
  have h1 := dayNumber_ge hd.valid hd.one_le_year
  have h2 := dayNumber_lt_yearStart_succ hd.valid
  have hle := hd.year_le
  have h3 := yearStart_le_of_le (show d.year + 1 ≤ 10001 by omega)
  have h4 : yearStart 10001 = 2933263 := by decide
  omega

theorem civilFromDays_of_bounds {n : ℤ} (h0 : -719528 ≤ n) (h1 : n ≤ 700000000000) :
    InRange (ofDayNumber n) := by
  have hvalid := ofDayNumber_valid n
  have hdn := dayNumber_ofDayNumber n
  refine ⟨hvalid, year_nonneg hvalid (by omega), ?_⟩
  have hstart := yearStart_le_dayNumber hvalid
  unfold intMax
  unfold yearStart at hstart
  omega

/-- Day counts far below the range of the years. -/
theorem civilFromDays_eq_dateFromDays {n : ℤ} (h0 : -719528 ≤ n) (h1 : n ≤ 700000000000) :
    civilFromDays n = some (dateFromDays n) := by
  have hrange := civilFromDays_of_bounds h0 h1
  have hdn := dayNumber_ofDayNumber n
  have hplain := dateFromDays_eq hrange.valid (by omega) hrange.year_le
  have hchecked := civilFromDays_eq hrange
  rw [hdn] at hplain hchecked
  rw [hchecked, hplain]

/-- A week within reach. -/
theorem weekRound_eq (mask : UInt8) (target : LocalDate) {monday : ℤ} (h0 : -719528 ≤ monday)
    (h1 : monday ≤ 600000000000) :
    weekRound mask target monday = some (VoiceLife.weekRound mask target monday) := by
  unfold weekRound VoiceLife.weekRound
  apply findSomeM?_range_eq
  intro w hw _
  by_cases hbit : maskSelects mask w = true
  · rw [if_pos hbit, if_pos hbit]
    refine int64_bind (by omega) ?_
    rw [civilFromDays_eq_dateFromDays (by omega) (by omega)]
    rfl
  · rw [if_neg hbit, if_neg hbit]

theorem daysInMonth_eq {year month : ℤ} (h1 : 1 ≤ month) (h2 : month ≤ 12) :
    daysInMonth year month = some (VoiceLife.daysInMonth year month) := by
  unfold daysInMonth VoiceLife.daysInMonth
  split_ifs
  · rfl
  · refine int32_bind (by omega) ?_
    rfl

/-- The round of a month whose year fits. -/
theorem monthRound_eq {rule : ScheduleRule} (hf : rule.freqType = .monthly) {n : ℕ}
    (hfits : PeriodFits rule n) (hmin : 0 ≤ periodAt rule n) (target : LocalDate) :
    monthRound rule target (periodAt rule n) =
      some (VoiceLife.monthRound rule target (periodAt rule n)) := by
  have hyear := (periodFits_monthly_iff hf n).1 hfits
  obtain ⟨hplain, hplain'⟩ := month_of_period hf hfits hmin
  unfold monthRound VoiceLife.monthRound
  rw [hplain, hplain', Int.tdiv_eq_ediv_of_nonneg hmin, Int.tmod_eq_emod_of_nonneg hmin]
  refine int32_bind ⟨by omega, hyear⟩ ?_
  refine int32_bind (by omega) ?_
  refine int32_bind (by omega) ?_
  rw [daysInMonth_eq (by omega) (by omega)]
  rfl

/-- A year that does not fit is lost in the narrowing cast. -/
theorem monthRound_eq_none {rule : ScheduleRule} (hf : rule.freqType = .monthly) {n : ℕ}
    (hover : ¬ PeriodFits rule n) (hmin : 0 ≤ periodAt rule n) (target : LocalDate) :
    monthRound rule target (periodAt rule n) = none := by
  rw [periodFits_monthly_iff hf, not_le] at hover
  unfold monthRound
  rw [Int.tdiv_eq_ediv_of_nonneg hmin, int32_eq_none hover]
  rfl

theorem yearRound_eq {month day : UInt8} (h1 : 1 ≤ month.toNat) (h2 : month.toNat ≤ 12)
    (target : LocalDate) (year : ℤ) :
    yearRound month day target year = some (VoiceLife.yearRound month day target year) := by
  unfold yearRound VoiceLife.yearRound
  rw [daysInMonth_eq (by omega) (by omega)]
  rfl

/-- Round by round: a checked loop agrees with the plain one as long as its periods fit, and stops
at the first that does not. -/
theorem checkedRounds {rule : ScheduleRule} {target : LocalDate} {f : ℕ → Option LocalDate}
    {g : ℕ → Option (Option LocalDate)}
    (hfirst : ∀ i < kMaxDateSearchSteps, PeriodFits rule (firstPeriod rule target + i) →
      IsFirst (datesFrom rule target (firstPeriod rule target + i)) (f i) ∧ g i = some (f i))
    (hover : ∀ i < kMaxDateSearchSteps, ¬ PeriodFits rule (firstPeriod rule target + i) →
      g i = none) :
    (SearchFits rule target → (List.range kMaxDateSearchSteps).findSomeM? g =
        some ((List.range kMaxDateSearchSteps).findSome? f)) ∧
      (¬ SearchFits rule target → (List.range kMaxDateSearchSteps).findSomeM? g = none) := by
  have hempty : ∀ j < kMaxDateSearchSteps, PeriodFits rule (firstPeriod rule target + j) →
      (f j = none ↔ datesFrom rule target (firstPeriod rule target + j) = ∅) :=
    fun j hj hfits => (hfirst j hj hfits).1.eq_none_iff
  constructor
  · intro hfit
    apply findSomeM?_range_eq
    -- by induction the rounds before `i` have fitted, so their misses are empty periods
    have hreach : ∀ i < kMaxDateSearchSteps, (∀ j < i, f j = none) →
        PeriodFits rule (firstPeriod rule target + i) := by
      intro i
      induction i using Nat.strong_induction_on with
      | _ i ih =>
          intro h64 hnone
          apply hfit i h64
          intro j hj
          have hfits := ih j hj (by omega) fun l hl => hnone l (by omega)
          exact (hempty j (by omega) hfits).1 (hnone j hj)
    intro i h64 hnone
    exact (hfirst i h64 (hreach i h64 hnone)).2
  · intro hnot
    classical
    unfold SearchFits at hnot
    push Not at hnot
    obtain ⟨n, hn, hbefore, hover_n⟩ := hnot
    have hex : ∃ i, ¬ PeriodFits rule (firstPeriod rule target + i) := ⟨n, hover_n⟩
    have hmin : Nat.find hex ≤ n := Nat.find_min' hex hover_n
    apply findSomeM?_range_eq_none (i := Nat.find hex) (by omega)
    · intro j hj
      have hfits : PeriodFits rule (firstPeriod rule target + j) := by
        by_contra h
        exact Nat.find_min hex hj h
      rw [(hfirst j (by omega) hfits).2, (hempty j (by omega) hfits).2 (hbefore j (by omega))]
    · exact hover _ (by omega) (Nat.find_spec hex)

section Searches

variable {rule : ScheduleRule} {target : LocalDate} (hi : 1 ≤ rule.intervalVal)
  (hi' : rule.intervalVal ≤ intMax) (hs : Near rule.startDate) (ht : Near target)
  (hle : rule.startDate ≤ target)

include hs ht hle

/-- The search starts at most this many units behind the anchor. -/
theorem unit_diff_bounds :
    0 ≤ periodUnit rule.freqType target - periodUnit rule.freqType rule.startDate ∧
      periodUnit rule.freqType target - periodUnit rule.freqType rule.startDate ≤ 3652425 := by
  have hmono := periodUnit_mono rule.freqType hs.valid ht.valid hle
  have hb1 := hs.dayNumber_bounds
  have hb2 := ht.dayNumber_bounds
  have hy1 := hs.one_le_year
  have hy2 := ht.year_le
  have hm1 := hs.valid.one_le_month
  have hm2 := ht.valid.month_le
  refine ⟨by omega, ?_⟩
  cases rule.freqType <;> simp only [periodUnit] <;> omega

include hi hi'

/-- The offset of round `i` from the anchor, in units. -/
theorem offset_le (i : ℕ) :
    ((firstPeriod rule target : ℤ) + i) * rule.intervalVal ≤ 3652425 + (i + 1) * intMax := by
  obtain ⟨hd0, hd1⟩ := unit_diff_bounds hs ht hle
  have hfirst : (firstPeriod rule target : ℤ) * rule.intervalVal ≤ 3652425 + intMax := by
    rcases Nat.eq_zero_or_pos (firstPeriod rule target) with h0 | hpos
    · rw [h0]
      unfold intMax
      push_cast
      omega
    · have hprev := periodAt_lt_of_lt_firstPeriod hi (Nat.sub_lt hpos Nat.one_pos)
      have hcast : ((firstPeriod rule target - 1 : ℕ) : ℤ) = firstPeriod rule target - 1 := by omega
      rw [periodAt, hcast, sub_mul, one_mul] at hprev
      omega
  have hround : (i : ℤ) * rule.intervalVal ≤ i * intMax :=
    mul_le_mul_of_nonneg_left hi' (by omega)
  rw [add_mul, add_mul]
  omega

omit hi' hs ht hle in
theorem offset_nonneg (target : LocalDate) (i : ℕ) : 0 ≤ ((firstPeriod rule target : ℤ) + i) * rule.intervalVal := by
  positivity

theorem offset_bounds {i : ℕ} (h64 : i < kMaxDateSearchSteps) :
    0 ≤ ((firstPeriod rule target : ℤ) + i) * rule.intervalVal ∧
      ((firstPeriod rule target : ℤ) + i) * rule.intervalVal ≤ 140000000000 := by
  have hle64 := offset_le hi hi' hs ht hle i
  unfold kMaxDateSearchSteps at h64
  refine ⟨offset_nonneg hi target i, ?_⟩
  unfold intMax at hle64
  omega

/-- The jump in front of the loops reaches the first period of the search. -/
theorem firstStep_eq :
    firstStep (periodUnit rule.freqType target - periodUnit rule.freqType rule.startDate)
      rule.intervalVal = some (firstPeriod rule target : ℤ) := by
  obtain ⟨hd0, hd1⟩ := unit_diff_bounds hs ht hle
  rw [firstPeriod_eq hi target, firstStep]
  split_ifs
  · rfl
  · exact ceilDiv_eq hd0 hd1 hi hi'

/-! ## Daily and weekly rules -/

theorem nextDailyDate_eq (hf : rule.freqType = .daily) :
    nextDailyDate rule rule.startDate target =
      some (VoiceLife.nextDailyDate rule rule.startDate target) := by
  have hdiff := unit_diff_bounds hs ht hle
  have hstep := firstStep_eq hi hi' hs ht hle
  have hfirst := firstPeriod_eq hi target
  obtain ⟨ho0, ho1⟩ := offset_bounds hi hi' hs ht hle (i := 0) (by decide)
  have hb := hs.dayNumber_bounds
  simp only [hf, periodUnit] at hdiff hstep hfirst
  simp only [Nat.cast_zero, add_zero] at ho0 ho1
  simp only [VoiceLife.nextDailyDate, daysFromCivil_eq_dayNumber hs.valid,
    daysFromCivil_eq_dayNumber ht.valid, ← hfirst]
  unfold nextDailyDate
  rw [daysFromCivil_eq hs.inRange, daysFromCivil_eq ht.inRange]
  show (int64 _ >>= _ : Option (Option LocalDate)) = _
  refine int64_bind (by omega) ?_
  rw [hstep]
  show (int64 _ >>= _ : Option (Option LocalDate)) = _
  refine int64_bind (by omega) ?_
  refine int64_bind (by omega) ?_
  rw [civilFromDays_eq_dateFromDays (by omega) (by omega)]
  rfl

omit hi' hs hle in
/-- A daily rule has a date in its first period, a weekly rule one in its second. -/
theorem round_le_one (hok : (validateFrequencyFields rule).ok = true)
    (hf : rule.freqType = .daily ∨ rule.freqType = .weekly) {i : ℕ}
    (hempty : ∀ j < i, datesFrom rule target (firstPeriod rule target + j) = ∅) : i ≤ 1 := by
  by_contra hlt
  have hnone := hempty 1 (by omega)
  rw [datesFrom_above hi ht.valid (by omega)] at hnone
  have hdense : (periodDates rule (firstPeriod rule target + 1)).Nonempty := by
    rcases hf with hf | hf
    · refine ⟨ofDayNumber (periodAt rule (firstPeriod rule target + 1)), ofDayNumber_valid _, ?_, ?_⟩
      · rw [hf]
        exact dayNumber_ofDayNumber _
      · simp only [Matches, hf]
    · exact weekly_dense hf hok _
  rw [hnone] at hdense
  exact Set.not_nonempty_empty hdense

/-- No candidate of a daily or weekly rule leaves the range of the years. -/
theorem searchFits_of_daily_or_weekly (hok : (validateFrequencyFields rule).ok = true)
    (hf : rule.freqType = .daily ∨ rule.freqType = .weekly) : SearchFits rule target := by
  intro i h64 hempty d hd hunit _
  have hone := round_le_one hi ht hok hf hempty
  have hoff := offset_le hi hi' hs ht hle i
  have hb := hs.dayNumber_bounds
  have hstart := yearStart_le_dayNumber hd
  unfold periodAt at hunit
  unfold intMax at *
  push_cast at hunit
  have hi2 : ((i : ℤ) + 1) * 2147483647 ≤ 2 * 2147483647 :=
    mul_le_mul_of_nonneg_right (by omega) (by norm_num)
  unfold yearStart at hstart
  rcases hf with hf | hf
  · simp only [hf, periodUnit] at hunit
    omega
  · simp only [hf, periodUnit] at hunit
    omega

theorem nextWeeklyDate_eq (hok : (validateFrequencyFields rule).ok = true)
    (hf : rule.freqType = .weekly) :
    nextWeeklyDate rule rule.startDate target =
      some (VoiceLife.nextWeeklyDate rule rule.startDate target) := by
  cases hmask : rule.weekdaysMask with
  | none =>
      simp only [validateFrequencyFields, hf, hmask, ok_ite, Option.all_none] at hok
      exact absurd trivial hok.1
  | some mask =>
      have hday := (dayNumber_le_iff hs.valid ht.valid).2 hle
      have hb := hs.dayNumber_bounds
      have hb' := ht.dayNumber_bounds
      have hw0 := Gregorian.weekday_nonneg (dayNumber rule.startDate)
      have hw1 := Gregorian.weekday_lt (dayNumber rule.startDate)
      have hv0 := Gregorian.weekday_nonneg (dayNumber target)
      have hv1 := Gregorian.weekday_lt (dayNumber target)
      have hfirst := firstPeriod_eq hi target
      have hfits := searchFits_of_daily_or_weekly hi hi' hs ht hle hok (Or.inr hf)
      simp only [hf, periodUnit] at hfirst
      have hweeks := weeksBetween_eq hday
      have hjump := weeklyJump_eq hi hf hday
      have hdiff : (dayNumber target + 3) / 7 - (dayNumber rule.startDate + 3) / 7 ≤ 3652425 := by
        omega
      have hmonday : dayNumber rule.startDate - Gregorian.weekday (dayNumber rule.startDate) =
          7 * ((dayNumber rule.startDate + 3) / 7) - 3 := by
        unfold Gregorian.weekday
        omega
      simp only [VoiceLife.nextWeeklyDate, nextWeeklyDate, hmask, VoiceLife.weekday_eq hs.valid,
        VoiceLife.weekday_eq ht.valid, daysFromCivil_eq_dayNumber hs.valid,
        daysFromCivil_eq_dayNumber ht.valid, ge_iff_le, if_pos hday, hweeks, hjump,
        daysFromCivil_eq hs.inRange, daysFromCivil_eq ht.inRange, weekday_eq hs.inRange,
        weekday_eq ht.inRange, some_bind]
      refine int64_bind (by omega) ?_
      refine int64_bind (by omega) ?_
      refine int64_bind (by omega) ?_
      rw [hweeks, ceilDiv_eq (by omega) hdiff hi hi']
      refine (some_bind _ _).trans ?_
      simp only [hjump]
      apply findSomeM?_range_eq
      intro i h64 hmiss
      -- the rounds before `i` have found nothing, so `i` is at most 1
      have hround : ∀ j, PeriodFits rule (firstPeriod rule target + j) →
          IsFirst (datesFrom rule target (firstPeriod rule target + j))
            (VoiceLife.weekRound mask target
              (7 * periodAt rule (firstPeriod rule target + j) - 3)) := by
        intro j hfit
        have hgrow := periodUnit_startDate_le hi (firstPeriod rule target + j)
        simp only [hf, periodUnit] at hgrow
        exact week_isFirst hf hmask hfit (by omega) target
      have hmondays : ∀ j : ℕ, dayNumber rule.startDate -
          Gregorian.weekday (dayNumber rule.startDate) +
            ((firstPeriod rule target : ℤ) + j) * rule.intervalVal * kDaysPerWeek =
              7 * periodAt rule (firstPeriod rule target + j) - 3 := by
        intro j
        have := weekMonday_eq hf (firstPeriod rule target + j)
        push_cast at this
        exact this
      have hempty : ∀ j < i, PeriodFits rule (firstPeriod rule target + j) →
          datesFrom rule target (firstPeriod rule target + j) = ∅ := by
        intro j hj hfit
        apply (hround j hfit).eq_none_iff.1
        rw [← hmondays]
        exact hmiss j hj
      have hone : i ≤ 1 := by
        by_contra hlt
        have hfit0 := hfits 0 (by decide) fun j hj => absurd hj (Nat.not_lt_zero j)
        have hempty0 := hempty 0 (by omega) hfit0
        have hfit1 : PeriodFits rule (firstPeriod rule target + 1) := by
          apply hfits 1 (by decide)
          intro j hj
          rwa [Nat.lt_one_iff.1 hj]
        have hempty1 := hempty 1 (by omega) hfit1
        apply absurd (round_le_one (i := 2) hi ht hok (Or.inr hf) _) (by omega)
        intro j hj
        rcases Nat.lt_succ_iff_lt_or_eq.1 hj with hj | rfl
        · rwa [Nat.lt_one_iff.1 hj]
        · exact hempty1
      have ho0 := offset_nonneg hi target i
      have ho1 := offset_le hi hi' hs ht hle i
      have hone' : ((i : ℤ) + 1) * intMax ≤ 2 * intMax :=
        mul_le_mul_of_nonneg_right (by omega) (by decide)
      have hstep : (firstPeriod rule target : ℤ) + i ≤
          ((firstPeriod rule target : ℤ) + i) * rule.intervalVal :=
        le_mul_of_one_le_right (by positivity) hi
      unfold intMax at ho1 hone'
      refine int64_bind (by omega) ?_
      refine int64_bind (by omega) ?_
      unfold kDaysPerWeek
      refine int64_bind (by omega) ?_
      refine int64_bind (by omega) ?_
      exact weekRound_eq mask target (by omega) (by omega)

/-! ## Monthly and yearly rules -/

theorem nextMonthlyDate_eq (hok : (validateFrequencyFields rule).ok = true)
    (hf : rule.freqType = .monthly) :
    (SearchFits rule target → nextMonthlyDate rule rule.startDate target =
        some (VoiceLife.nextMonthlyDate rule rule.startDate target)) ∧
      (¬ SearchFits rule target → nextMonthlyDate rule rule.startDate target = none) := by
  have hdiff := unit_diff_bounds hs ht hle
  have hstep := firstStep_eq hi hi' hs ht hle
  have hfirst := firstPeriod_eq hi target
  have hm1 := hs.valid.one_le_month
  have hm2 := hs.valid.month_le
  have hn1 := ht.valid.one_le_month
  have hn2 := ht.valid.month_le
  have hy1 := hs.one_le_year
  have hy2 := hs.year_le
  have hz1 := ht.one_le_year
  have hz2 := ht.year_le
  simp only [hf, periodUnit] at hdiff hstep hfirst
  have hmonths : ∀ i : ℕ, rule.startDate.year * 12 + (rule.startDate.month - 1) +
      ((firstPeriod rule target : ℤ) + i) * rule.intervalVal =
        periodAt rule (firstPeriod rule target + i) := by
    intro i
    simp only [periodAt, hf, periodUnit]
    push_cast
    ring
  have hround : ∀ i, 0 ≤ periodAt rule (firstPeriod rule target + i) := by
    intro i
    have := offset_nonneg hi target i
    rw [← hmonths]
    omega
  -- the checked round `i`, up to its narrowing casts
  have hchecked : ∀ i < kMaxDateSearchSteps,
      (do
        let step ← int64 ((firstPeriod rule target : ℤ) + i)
        let months ← int64 (step * rule.intervalVal)
        let monthIndex ← int64 (rule.startDate.year * 12 + (rule.startDate.month - 1) + months)
        monthRound rule target monthIndex) =
      monthRound rule target (periodAt rule (firstPeriod rule target + i)) := by
    intro i h64
    obtain ⟨ho0, ho1⟩ := offset_bounds hi hi' hs ht hle h64
    have hstep' : (firstPeriod rule target : ℤ) + i ≤
        ((firstPeriod rule target : ℤ) + i) * rule.intervalVal :=
      le_mul_of_one_le_right (by positivity) hi
    refine int64_bind (by omega) ?_
    refine int64_bind (by omega) ?_
    refine int64_bind (by omega) ?_
    rw [hmonths]
  have hwanted : ¬ (rule.monthlyMode ≠ some .lastDay ∧ rule.dayOfMonth = none) := by
    rintro ⟨hmode, hday⟩
    simp only [validateFrequencyFields, hf] at hok
    cases hmonthly : rule.monthlyMode with
    | none =>
        simp only [hmonthly] at hok
        cases hok
    | some mode =>
        cases mode with
        | lastDay => exact hmode hmonthly
        | specificDay =>
            simp only [hmonthly, hday] at hok
            cases hok
  have heq : nextMonthlyDate rule rule.startDate target =
      (List.range kMaxDateSearchSteps).findSomeM? fun i =>
        monthRound rule target (periodAt rule (firstPeriod rule target + i)) := by
    unfold nextMonthlyDate
    refine int64_bind (by omega) ?_
    refine int32_bind (by omega) ?_
    refine int64_bind (by omega) ?_
    refine int64_bind (by omega) ?_
    refine int32_bind (by omega) ?_
    refine int64_bind (by omega) ?_
    refine int64_bind (by omega) ?_
    rw [hstep]
    refine (some_bind _ _).trans ?_
    rw [if_neg hwanted]
    apply findSomeM?_range_congr
    exact hchecked
  have hplain : VoiceLife.nextMonthlyDate rule rule.startDate target =
      (List.range kMaxDateSearchSteps).findSome? fun i =>
        VoiceLife.monthRound rule target (periodAt rule (firstPeriod rule target + i)) := by
    simp only [VoiceLife.nextMonthlyDate, ← hfirst, hmonths]
    rfl
  rw [heq, hplain]
  apply checkedRounds
  · intro i _ hfits
    exact ⟨month_isFirst hf hok hfits (hround i) target, monthRound_eq hf hfits (hround i) target⟩
  · intro i _ hover
    exact monthRound_eq_none hf hover (hround i) target

/-- The year of a round is computed just when it fits. -/
theorem roundYear_eq (hf : rule.freqType = .yearly) {i : ℕ} (h64 : i < kMaxDateSearchSteps) :
    roundYear rule rule.startDate (firstPeriod rule target) i =
      int32 (periodAt rule (firstPeriod rule target + i)) := by
  obtain ⟨ho0, ho1⟩ := offset_bounds hi hi' hs ht hle h64
  have hy1 := hs.one_le_year
  have hstep : (firstPeriod rule target : ℤ) + i ≤
      ((firstPeriod rule target : ℤ) + i) * rule.intervalVal :=
    le_mul_of_one_le_right (by positivity) hi
  have hyears : ((firstPeriod rule target : ℤ) + i) * rule.intervalVal =
      periodAt rule (firstPeriod rule target + i) - rule.startDate.year := by
    simp only [periodAt, hf, periodUnit]
    push_cast
    ring
  unfold roundYear
  refine int64_bind (by omega) ?_
  refine int64_bind (by omega) ?_
  rw [hyears] at ho0 ⊢
  by_cases hcast : periodAt rule (firstPeriod rule target + i) - rule.startDate.year ≤ intMax
  · refine int32_bind ⟨by omega, hcast⟩ ?_
    rw [add_sub_cancel]
  · rw [int32_eq_none (not_le.1 hcast), int32_eq_none (by omega)]
    rfl

theorem nextYearlyDate_eq (hok : (validateFrequencyFields rule).ok = true)
    (hf : rule.freqType = .yearly) :
    (SearchFits rule target → nextYearlyDate rule rule.startDate target =
        some (VoiceLife.nextYearlyDate rule rule.startDate target)) ∧
      (¬ SearchFits rule target → nextYearlyDate rule rule.startDate target = none) := by
  have hstep := firstStep_eq hi hi' hs ht hle
  have hfirst := firstPeriod_eq hi target
  have hdiff := unit_diff_bounds hs ht hle
  have hy1 := hs.one_le_year
  simp only [hf, periodUnit] at hdiff hstep hfirst
  have hok' := hok
  simp only [validateFrequencyFields, hf] at hok'
  cases hmonth : rule.monthOfYear with
  | none =>
      simp only [hmonth] at hok'
      cases hok'
  | some month =>
      cases hday : rule.dayOfMonth with
      | none =>
          simp only [hmonth, hday] at hok'
          cases hok'
      | some day =>
          simp only [hmonth, hday, ok_ite, not_or, not_lt] at hok'
          obtain ⟨⟨hm1, hm2⟩, -, -⟩ := hok'
          unfold kMaximumMonthOfYear at hm2
          have hround := fun i h64 => roundYear_eq hi hi' hs ht hle hf (i := i) h64
          have hgrow : ∀ n, periodUnit rule.freqType rule.startDate ≤ periodAt rule n :=
            periodUnit_startDate_le hi
          simp only [hf, periodUnit] at hgrow
          have hplain : VoiceLife.nextYearlyDate rule rule.startDate target =
              (List.range kMaxDateSearchSteps).findSome? fun i : ℕ =>
                VoiceLife.yearRound month day target (rule.startDate.year +
                  toInt (((firstPeriod rule target : ℤ) + i) * rule.intervalVal)) := by
            simp only [VoiceLife.nextYearlyDate, hmonth, hday, ← hfirst]
            rfl
          have heq : nextYearlyDate rule rule.startDate target =
              (List.range kMaxDateSearchSteps).findSomeM? fun i =>
                (roundYear rule rule.startDate (firstPeriod rule target) i >>=
                  yearRound month day target) := by
            simp only [nextYearlyDate, hmonth, hday]
            refine int64_bind (by omega) ?_
            rw [hstep]
            rfl
          rw [heq, hplain]
          apply checkedRounds
          · intro i h64 hfits
            have hlow := hgrow (firstPeriod rule target + i)
            have hle' := (periodFits_yearly_iff hf _).1 hfits
            have hyear : rule.startDate.year +
                toInt (((firstPeriod rule target : ℤ) + i) * rule.intervalVal) =
                  periodAt rule (firstPeriod rule target + i) := by
              have hoff : ((firstPeriod rule target : ℤ) + i) * rule.intervalVal =
                  periodAt rule (firstPeriod rule target + i) - rule.startDate.year := by
                simp only [periodAt, hf, periodUnit]
                push_cast
                ring
              rw [hoff, toInt_eq (by omega) (by omega), add_sub_cancel]
            rw [hyear, hround i h64]
            refine ⟨year_isFirst hf hok hmonth hday _ target, ?_⟩
            refine int32_bind ⟨by omega, hle'⟩ ?_
            exact yearRound_eq hm1 hm2 target _
          · intro i h64 hover
            rw [periodFits_yearly_iff hf, not_le] at hover
            rw [hround i h64, int32_eq_none hover]
            rfl

/-- The checked date search: it stops early just when a period it reaches does not fit. -/
theorem nextDateOnOrAfter_eq (hok : (validateFrequencyFields rule).ok = true) :
    (SearchFits rule target → nextDateOnOrAfter rule rule.startDate target =
        some (VoiceLife.nextDateOnOrAfter rule rule.startDate target)) ∧
      (¬ SearchFits rule target → nextDateOnOrAfter rule rule.startDate target = none) := by
  unfold nextDateOnOrAfter VoiceLife.nextDateOnOrAfter
  cases hf : rule.freqType with
  | daily =>
      refine ⟨fun _ => nextDailyDate_eq hi hi' hs ht hle hf, fun h => absurd ?_ h⟩
      exact searchFits_of_daily_or_weekly hi hi' hs ht hle hok (Or.inl hf)
  | weekly =>
      refine ⟨fun _ => nextWeeklyDate_eq hi hi' hs ht hle hok hf, fun h => absurd ?_ h⟩
      exact searchFits_of_daily_or_weekly hi hi' hs ht hle hok (Or.inr hf)
  | monthly => exact nextMonthlyDate_eq hi hi' hs ht hle hok hf
  | yearly => exact nextYearlyDate_eq hi hi' hs ht hle hok hf

omit hi' hs hle in
/-- The date a search returns lies in a year that fits. -/
theorem least_inRange (hok : (validateFrequencyFields rule).ok = true)
    (hfit : SearchFits rule target) {date : LocalDate}
    (hleast : IsLeast {d | ∃ i, d ∈ datesFrom rule target i} date) : InRange date := by
  have hyear := hfit.least_year_le hi hok ht.valid hleast
  obtain ⟨⟨n, hmem, hxd⟩, -⟩ := hleast
  have hpos := ht.one_le_year
  refine ⟨hmem.1, ?_, hyear⟩
  rcases hxd.lt_or_eq with hlt | rfl
  · rw [Date.lt_iff] at hlt
    omega
  · omega

omit hle in
/-- A search from a selected date returns it in its first round. -/
theorem searchFits_of_selected (hle : rule.startDate ≤ target)
    (hok : (validateFrequencyFields rule).ok = true) {k : ℕ}
    (hmem : target ∈ periodDates rule k) : SearchFits rule target := by
  by_cases hf : rule.freqType = .daily ∨ rule.freqType = .weekly
  · exact searchFits_of_daily_or_weekly hi hi' hs ht hle hok hf
  · have hfirst : firstPeriod rule target = k := by
      apply le_antisymm
      · by_contra hlt
        have := periodAt_lt_of_lt_firstPeriod hi (not_le.1 hlt)
        rw [← hmem.2.1] at this
        exact lt_irrefl _ this
      · by_contra hlt
        have h1 := periodUnit_le_periodAt hi (le_refl (firstPeriod rule target))
        have h2 := periodAt_strictMono hi (not_le.1 hlt)
        rw [← hmem.2.1] at h2
        omega
    intro i _ hempty
    -- the first period holds the date itself
    obtain rfl : i = 0 := by
      by_contra hpos
      have h0 := hempty 0 (by omega)
      rw [add_zero, hfirst] at h0
      have hin : target ∈ datesFrom rule target k := ⟨hmem, le_rfl⟩
      rw [h0] at hin
      exact hin
    intro d hd hunit _
    rw [add_zero, hfirst, ← hmem.2.1] at hunit
    have hm1 := hd.one_le_month
    have hm2 := hd.month_le
    have hn1 := ht.valid.one_le_month
    have hn2 := ht.valid.month_le
    have hyear := ht.inRange.year_le
    have hsame : d.year = target.year := by
      cases hfreq : rule.freqType with
      | daily => exact absurd (Or.inl hfreq) hf
      | weekly => exact absurd (Or.inr hfreq) hf
      | monthly =>
          simp only [hfreq, periodUnit] at hunit
          omega
      | yearly => simpa only [hfreq, periodUnit] using hunit
    rw [hsame]
    exact hyear

end Searches

/-! ## The retry loop -/

section Rounds

variable {rule : ScheduleRule} {t : ℤ} {x : LocalDate} (hi : 1 ≤ rule.intervalVal)
  (hi' : rule.intervalVal ≤ intMax) (hok : (validateFrequencyFields rule).ok = true)
  (hclock : rule.startTime.InClockRange) (hs : Near rule.startDate) (hx : Near x)
  (hle : rule.startDate ≤ x)

include hi hi' hok hclock hs hx hle

/-- One round of the checked loop over the least selected date. -/
theorem searchOccurrence_hit (hfit : SearchFits rule x) {date : LocalDate}
    (hdate : VoiceLife.nextDateOnOrAfter rule rule.startDate x = some date) (n : ℕ) :
    (PastEnd rule date → searchOccurrence rule t (n + 1) x = some none ∧
        VoiceLife.searchOccurrence rule t (n + 1) x = none) ∧
      (¬ PastEnd rule date → occurrenceTime rule date < t → Near date.next →
        searchOccurrence rule t (n + 1) x = searchOccurrence rule t n date.next ∧
          VoiceLife.searchOccurrence rule t (n + 1) x =
            VoiceLife.searchOccurrence rule t n date.next) ∧
      (¬ PastEnd rule date → t ≤ occurrenceTime rule date →
        searchOccurrence rule t (n + 1) x = some (some (occurrenceTime rule date)) ∧
          VoiceLife.searchOccurrence rule t (n + 1) x = some (occurrenceTime rule date)) := by
  have hfirst := nextDateOnOrAfter_isFirst hi hs.valid hs.one_le_year hx.valid hle hfit hok
  have hchecked := (nextDateOnOrAfter_eq hi hi' hs hx hle hok).1 hfit
  rw [hdate] at hfirst hchecked
  have hin := least_inRange hi hx hok hfit hfirst
  have hxd : x ≤ date := by
    obtain ⟨⟨i, hmem⟩, -⟩ := hfirst
    exact hmem.2
  have hstart : ¬ compareDate date rule.startDate < 0 := by
    rw [compareDate_neg_iff]
    exact not_lt.2 (hle.trans hxd)
  have hocc : VoiceLife.occurrenceAt rule date = occurrenceTime rule date :=
    occurrenceAt_eq hin.valid
  have hocc' : occurrenceAt rule date = some (occurrenceTime rule date) := by
    rw [occurrenceAt, unixFromLocal_eq hin hclock, ← hocc]
    rfl
  have hround : searchOccurrence rule t (n + 1) x =
      if PastEnd rule date then some none
      else if occurrenceTime rule date < t then
        (addDaysChecked date 1).bind fun next => next.elim (some none) (searchOccurrence rule t n)
      else some (some (occurrenceTime rule date)) := by
    rw [searchOccurrence, hchecked]
    dsimp only
    rw [if_neg hstart, hocc']
    refine if_congr (pastEnd_iff rule date) rfl (if_congr Iff.rfl ?_ rfl)
    cases addDaysChecked date 1 with
    | none => rfl
    | some next =>
        cases next with
        | none => rfl
        | some nextDay => rfl
  have hplain := searchOccurrence_of_date (t := t) hdate hin.valid (hle.trans hxd) n
  rw [hround, hplain]
  refine ⟨?_, ?_, ?_⟩
  · intro hpast
    rw [if_pos hpast, if_pos hpast]
    exact ⟨rfl, rfl⟩
  · intro hpast hearly hnear
    have hadd := addDaysChecked_one_eq hin hnear.inRange
    have hadd' : VoiceLife.addDaysChecked date 1 = some date.next := by
      have hday := (dayNumber_le_iff hx.valid hin.valid).2 hxd
      have hlow := hx.dayNumber_bounds
      exact addDaysChecked_one hin.valid (by omega) hnear.inRange.year_le
    rw [if_neg hpast, if_neg hpast, if_pos hearly, if_pos hearly, hadd, hadd']
    exact ⟨rfl, rfl⟩
  · intro hpast hlate
    rw [if_neg hpast, if_neg hpast, if_neg (not_lt.2 hlate), if_neg (not_lt.2 hlate)]
    exact ⟨rfl, rfl⟩

omit hclock in
/-- A round that finds no date, or reaches a period that does not fit. -/
theorem searchOccurrence_miss (n : ℕ) :
    (SearchFits rule x → VoiceLife.nextDateOnOrAfter rule rule.startDate x = none →
      searchOccurrence rule t (n + 1) x = some none ∧
        VoiceLife.searchOccurrence rule t (n + 1) x = none) ∧
      (¬ SearchFits rule x → searchOccurrence rule t (n + 1) x = none) := by
  obtain ⟨hfits, hover⟩ := nextDateOnOrAfter_eq hi hi' hs hx hle hok
  constructor
  · intro hfit hdate
    rw [searchOccurrence, VoiceLife.searchOccurrence, hfits hfit, hdate]
    exact ⟨rfl, rfl⟩
  · intro hnot
    rw [searchOccurrence, hover hnot]

/-- From the local day of `t` on, only the threshold itself can come too early. -/
theorem searchOccurrence_last (hday : localDay t ≤ x) (hlast : ¬ Retries rule t x) (n : ℕ) :
    (SearchFits rule x → searchOccurrence rule t (n + 1) x =
        some (VoiceLife.searchOccurrence rule t (n + 1) x)) ∧
      (¬ SearchFits rule x → searchOccurrence rule t (n + 1) x = none) := by
  obtain ⟨hmiss, hover⟩ := searchOccurrence_miss (t := t) hi hi' hok hs hx hle n
  refine ⟨?_, hover⟩
  intro hfit
  cases hdate : VoiceLife.nextDateOnOrAfter rule rule.startDate x with
  | none =>
      obtain ⟨hchecked, hplain⟩ := hmiss hfit hdate
      rw [hchecked, hplain]
  | some date =>
      have hfirst := nextDateOnOrAfter_isFirst hi hs.valid hs.one_le_year hx.valid hle hfit hok
      rw [hdate] at hfirst
      obtain ⟨⟨k, hmem, hxd⟩, -⟩ := hfirst
      obtain ⟨hpast, -, hlate⟩ :=
        searchOccurrence_hit (t := t) hi hi' hok hclock hs hx hle hfit hdate n
      by_cases hp : PastEnd rule date
      · obtain ⟨hchecked, hplain⟩ := hpast hp
        rw [hchecked, hplain]
      · have hts : t ≤ occurrenceTime rule date := by
          by_contra hearly
          have hback := le_localDay_of_lt hclock hmem.1 (not_le.1 hearly)
          obtain rfl := le_antisymm (hback.trans hday) hxd
          exact hlast ⟨⟨k, hmem⟩, hp, not_le.1 hearly⟩
        obtain ⟨hchecked, hplain⟩ := hlate hp hts
        rw [hchecked, hplain]

/-- A threshold whose own occurrence has passed sends the search to the next day. -/
theorem searchOccurrence_retry (hretry : Retries rule t x) (hnext : Near x.next) (n : ℕ) :
    searchOccurrence rule t (n + 1) x = searchOccurrence rule t n x.next ∧
      VoiceLife.searchOccurrence rule t (n + 1) x =
        VoiceLife.searchOccurrence rule t n x.next := by
  obtain ⟨⟨k, hmem⟩, hpast, hearly⟩ := hretry
  have hfit := searchFits_of_selected hi hi' hs hx hle hok hmem
  have hfirst := nextDateOnOrAfter_isFirst hi hs.valid hs.one_le_year hx.valid hle hfit hok
  have hdate : VoiceLife.nextDateOnOrAfter rule rule.startDate x = some x :=
    (hfirst.eq_some_iff x).2 ⟨⟨k, hmem, le_rfl⟩, fun d hd => hd.choose_spec.2⟩
  obtain ⟨-, hgo, -⟩ := searchOccurrence_hit (t := t) hi hi' hok hclock hs hx hle hfit hdate n
  exact hgo hpast hearly hnext

/-- The two rounds of the loop. -/
theorem searchOccurrence_eq (hday : localDay t ≤ x) (hnext : Retries rule t x → Near x.next)
    (n : ℕ) :
    (RoundsFit rule t x → searchOccurrence rule t (n + 2) x =
        some (VoiceLife.searchOccurrence rule t (n + 2) x)) ∧
      (¬ RoundsFit rule t x → searchOccurrence rule t (n + 2) x = none) := by
  by_cases hretry : Retries rule t x
  · have hnear := hnext hretry
    have hfit : SearchFits rule x := by
      obtain ⟨⟨k, hmem⟩, -, -⟩ := hretry
      exact searchFits_of_selected hi hi' hs hx hle hok hmem
    have hnextDay := lt_next hx.valid
    have hlast : ¬ Retries rule t x.next := by
      rintro ⟨⟨k, hmem⟩, -, hearly⟩
      have hback := le_localDay_of_lt hclock hmem.1 hearly
      exact absurd (hback.trans hday) (not_le.2 hnextDay)
    have hround : RoundsFit rule t x ↔ SearchFits rule x.next :=
      ⟨fun h => h.2 hretry, fun h => ⟨hfit, fun _ => h⟩⟩
    obtain ⟨hchecked, hplain⟩ :=
      searchOccurrence_retry hi hi' hok hclock hs hx hle hretry hnear (n + 1)
    rw [hchecked, hplain, hround]
    exact searchOccurrence_last hi hi' hok hclock hs hnear (hle.trans hnextDay.le)
      (hday.trans hnextDay.le) hlast n
  · have hround : RoundsFit rule t x ↔ SearchFits rule x :=
      ⟨fun h => h.1, fun h => ⟨h, fun h' => absurd h' hretry⟩⟩
    rw [hround]
    exact searchOccurrence_last hi hi' hok hclock hs hx hle hday hretry (n + 1)

end Rounds

/-! ## The day a search starts from -/

section Start

variable {t : ℤ} (h0 : -719162 * 86400 ≤ t + kTimezoneOffsetSeconds)
  (h1 : t + kTimezoneOffsetSeconds < 2932897 * 86400)

theorem near_ofDayNumber {n : ℤ} (h0 : -719162 ≤ n) (h1 : n ≤ 2932897) : Near (ofDayNumber n) := by
  have hvalid := ofDayNumber_valid n
  have hdn := dayNumber_ofDayNumber n
  have hstart := yearStart_le_dayNumber hvalid
  have hend := dayNumber_lt_yearStart_succ hvalid
  refine ⟨hvalid, ?_, ?_⟩
  · by_contra hlt
    have := yearStart_le_of_le (show (ofDayNumber n).year + 1 ≤ 1 by omega)
    have : yearStart 1 = -719162 := by decide
    omega
  · by_contra hlt
    have := yearStart_le_of_le (show 10001 ≤ (ofDayNumber n).year by omega)
    have : yearStart 10001 = 2933263 := by decide
    omega

/-- The quotient that rounds toward zero is the day or the day after. -/
theorem tdiv_day_bounds (s : ℤ) : s / 86400 ≤ s.tdiv 86400 ∧ s.tdiv 86400 ≤ s / 86400 + 1 := by
  by_cases hs : 0 ≤ s
  · rw [Int.tdiv_eq_ediv_of_nonneg hs]
    omega
  · rw [← neg_neg s, Int.neg_tdiv, Int.tdiv_eq_ediv_of_nonneg (by omega)]
    omega

include h0 h1

theorem localDateFromUtc_eq_ofDayNumber :
    localDateFromUtc t = ofDayNumber ((t + kTimezoneOffsetSeconds).tdiv 86400) := by
  obtain ⟨hlow, hhigh⟩ := tdiv_day_bounds (t + kTimezoneOffsetSeconds)
  have hnear := near_ofDayNumber (n := (t + kTimezoneOffsetSeconds).tdiv 86400) (by omega) (by omega)
  have hplain := dateFromDays_eq hnear.valid (by rw [dayNumber_ofDayNumber]; omega)
    hnear.inRange.year_le
  rw [dayNumber_ofDayNumber] at hplain
  exact hplain

theorem near_localDateFromUtc : Near (localDateFromUtc t) := by
  obtain ⟨hlow, hhigh⟩ := tdiv_day_bounds (t + kTimezoneOffsetSeconds)
  rw [localDateFromUtc_eq_ofDayNumber h0 h1]
  exact near_ofDayNumber (by omega) (by omega)

theorem localDay_le_localDateFromUtc : localDay t ≤ localDateFromUtc t := by
  obtain ⟨hlow, -⟩ := tdiv_day_bounds (t + kTimezoneOffsetSeconds)
  rw [localDateFromUtc_eq_ofDayNumber h0 h1]
  apply (dayNumber_le_iff (ofDayNumber_valid _) (ofDayNumber_valid _)).1
  rw [dayNumber_ofDayNumber, dayNumber_ofDayNumber]
  exact hlow

theorem localFromUnix_eq : localFromUnix t = some (VoiceLife.localFromUnix t) := by
  obtain ⟨hlow, hhigh⟩ := tdiv_day_bounds (t + kTimezoneOffsetSeconds)
  have hcivil := civilFromDays_eq_dateFromDays
    (n := (t + kTimezoneOffsetSeconds).tdiv 86400) (by omega) (by omega)
  set tod := (t + kTimezoneOffsetSeconds).tmod 86400 with htod
  have htod0 : -86400 < tod := Int.lt_tmod_of_pos _ (by norm_num)
  have htod1 : tod < 86400 := Int.tmod_lt_of_pos _ (by norm_num)
  have hmod0 : -3600 < tod.tmod 3600 := Int.lt_tmod_of_pos _ (by norm_num)
  have hmod1 : tod.tmod 3600 < 3600 := Int.tmod_lt_of_pos _ (by norm_num)
  have hsec0 : -60 < tod.tmod 60 := Int.lt_tmod_of_pos _ (by norm_num)
  have hsec1 : tod.tmod 60 < 60 := Int.tmod_lt_of_pos _ (by norm_num)
  have hquot : ∀ a b : ℤ, -86400 < a → a < 86400 → 0 < b →
      -86400 ≤ a.tdiv b ∧ a.tdiv b ≤ 86400 := by
    intro a b ha0 ha1 hb
    have habs : (a.tdiv b).natAbs ≤ a.natAbs := by
      rw [Int.natAbs_tdiv]
      exact Nat.div_le_self _ _
    omega
  obtain ⟨hh0, hh1⟩ := hquot tod 3600 htod0 htod1 (by norm_num)
  obtain ⟨hm0, hm1⟩ := hquot (tod.tmod 3600) 60 (by omega) (by omega) (by norm_num)
  unfold localFromUnix
  refine int64_bind (by omega) ?_
  rw [hcivil]
  show (int32 _ >>= _ : Option _) = _
  rw [← htod]
  refine int32_bind (by omega) ?_
  refine int32_bind (by omega) ?_
  refine int32_bind (by omega) ?_
  simp only [VoiceLife.localFromUnix, ← htod]
  rw [toInt_eq (by omega) (by unfold intMax; omega), toInt_eq (by omega) (by unfold intMax; omega),
    toInt_eq (by omega) (by unfold intMax; omega)]
  rfl

end Start

section Occurrence

variable {rule : ScheduleRule} {t : ℤ}

section Bounds

variable (hi : 1 ≤ rule.intervalVal) (hi' : rule.intervalVal ≤ intMax)
  (hok : (validateFrequencyFields rule).ok = true) (hclock : rule.startTime.InClockRange)
  (hs : Near rule.startDate) (h0 : -719162 * 86400 ≤ t + kTimezoneOffsetSeconds)
  (h1 : t + kTimezoneOffsetSeconds < 2932897 * 86400)

include hs h0 h1

theorem near_searchDay : Near (searchDay rule t) := by
  rcases max_choice rule.startDate (localDateFromUtc t) with h | h
  · rw [searchDay, h]
    exact hs
  · rw [searchDay, h]
    exact near_localDateFromUtc h0 h1

include hclock

/-- A date whose occurrence has passed is not the last of the range. -/
theorem near_searchDay_next (hretry : Retries rule t (searchDay rule t)) :
    Near (searchDay rule t).next := by
  have hx := near_searchDay hs h0 h1
  obtain ⟨-, -, hearly⟩ := hretry
  have hback := le_localDay_of_lt hclock hx.valid hearly
  have hdn := (dayNumber_le_iff hx.valid (ofDayNumber_valid _)).2 hback
  rw [dayNumber_ofDayNumber] at hdn
  have hlow := hx.dayNumber_bounds
  have hnear := near_ofDayNumber (n := dayNumber (searchDay rule t).next)
    (by rw [dayNumber_next hx.valid]; omega) (by rw [dayNumber_next hx.valid]; omega)
  rwa [ofDayNumber_dayNumber hx.valid.next] at hnear

include hi hi' hok

theorem roundsFit_of_daily_or_weekly (hf : rule.freqType = .daily ∨ rule.freqType = .weekly) :
    RoundsFit rule t (searchDay rule t) := by
  have hx := near_searchDay hs h0 h1
  have hle : rule.startDate ≤ searchDay rule t := le_max_left _ _
  refine ⟨searchFits_of_daily_or_weekly hi hi' hs hx hle hok hf, ?_⟩
  intro hretry
  exact searchFits_of_daily_or_weekly hi hi' hs (near_searchDay_next hclock hs h0 h1 hretry)
    (hle.trans (lt_next hx.valid).le) hok hf

/-- `nextOccurrence` on an active rule: it computes all its values just when both rounds fit, and
then the same result as unbounded arithmetic. -/
theorem nextOccurrence_eq (hactive : rule.status = .active) :
    (RoundsFit rule t (searchDay rule t) →
        nextOccurrence rule t = some (VoiceLife.nextOccurrence rule t)) ∧
      (¬ RoundsFit rule t (searchDay rule t) → nextOccurrence rule t = none) := by
  have hx := near_searchDay hs h0 h1
  have hle : rule.startDate ≤ searchDay rule t := le_max_left _ _
  have hday : localDay t ≤ searchDay rule t :=
    (localDay_le_localDateFromUtc h0 h1).trans (le_max_right _ _)
  have hthreshold : ∀ d : LocalDate,
      (if compareDate rule.startDate d > 0 then rule.startDate else d) = max rule.startDate d := by
    intro d
    simp only [compareDate_pos_iff, max_def, ← not_lt, ite_not]
  obtain ⟨hfits, hover⟩ := searchOccurrence_eq hi hi' hok hclock hs hx hle hday
    (near_searchDay_next hclock hs h0 h1) 62
  have hchecked : nextOccurrence rule t = searchOccurrence rule t 64 (searchDay rule t) := by
    simp only [nextOccurrence, hactive, ne_eq, not_true_eq_false, if_false, localFromUnix_eq h0 h1,
      hthreshold]
    rfl
  rw [hchecked, nextOccurrence_eq_search hactive]
  exact ⟨hfits, hover⟩

end Bounds

end Occurrence

end VoiceLife.Checked
