import VoiceLife.Schedule.RecurrenceSpec

/-! # The planner finds the first occurrence

Each of the four date searches returns the least selected date at or after its target. The weekly,
monthly and yearly searches stop after 64 periods; `periodDates_dense` shows that sixteen periods in
a row always contain a selected date if any period does, so the caps lose nothing.
-/

namespace VoiceLife

open Gregorian CInt FirstHit

/-! ## Comparing and building dates -/

theorem compareDate_nonneg_iff (a b : LocalDate) : compareDate a b ≥ 0 ↔ b ≤ a := by
  rw [← not_lt, Date.lt_iff]
  unfold compareDate
  split_ifs <;> omega

theorem compareDate_neg_iff (a b : LocalDate) : compareDate a b < 0 ↔ a < b := by
  rw [← not_le, ← not_le, not_iff_not]
  exact compareDate_nonneg_iff a b

theorem compareDate_pos_iff (a b : LocalDate) : compareDate a b > 0 ↔ b < a := by
  rw [gt_iff_lt, Date.lt_iff]
  unfold compareDate
  split_ifs <;> omega

/-- Existing dates from a given year on are not older than that year. -/
theorem le_year_of_yearStart_le {d : LocalDate} (hd : d.Valid) {y : ℤ}
    (h : yearStart y ≤ dayNumber d) : y ≤ d.year := by
  by_contra hn
  have h1 := dayNumber_lt_yearStart_succ hd
  have h2 := yearStart_le_of_le (show d.year + 1 ≤ y by omega)
  omega

/-- January 1 of the year 0 has day number -719528. -/
theorem year_nonneg {d : LocalDate} (hd : d.Valid) (h : -719528 ≤ dayNumber d) : 0 ≤ d.year := by
  refine le_year_of_yearStart_le hd ?_
  have : yearStart 0 = -719528 := by decide
  omega

theorem dateFromDays_eq {d : LocalDate} (hd : d.Valid) (hmin : -719528 ≤ dayNumber d)
    (hmax : d.year ≤ intMax) : dateFromDays (dayNumber d) = d := by
  have := year_nonneg hd hmin
  exact civilFromDays_dayNumber hd (by omega) hmax

/-- The bit test of the source is the bit of the mask. -/
theorem maskSelects_eq (mask : UInt8) {w : ℕ} (hw : w < 7) :
    maskSelects mask w = mask.toNat.testBit w := by
  have hbit : ((1 : UInt8) <<< UInt8.ofNat w).toNat = 2 ^ w := by
    interval_cases w <;> rfl
  have hzero : mask &&& ((1 : UInt8) <<< UInt8.ofNat w) = 0 ↔ mask.toNat.testBit w = false := by
    rw [← UInt8.toNat_inj, UInt8.toNat_and, hbit, Nat.and_two_pow]
    cases mask.toNat.testBit w <;> simp
  rw [maskSelects, Bool.eq_iff_iff, bne_iff_ne, ne_eq, hzero, Bool.not_eq_false]

theorem ceilDiv_eq {x n : ℤ} (hx : 0 ≤ x) (hn : 1 ≤ n) : ceilDiv x n = (x + n - 1) / n := by
  unfold ceilDiv
  exact Int.tdiv_eq_ediv_of_nonneg (by omega)

variable {rule : ScheduleRule}

/-- The jump of the source lands on `firstPeriod`. -/
theorem firstPeriod_eq (hi : 1 ≤ rule.intervalVal) (target : LocalDate) :
    (firstPeriod rule target : ℤ) =
      if periodUnit rule.freqType target - periodUnit rule.freqType rule.startDate ≤ 0 then 0
      else ceilDiv (periodUnit rule.freqType target - periodUnit rule.freqType rule.startDate)
        rule.intervalVal := by
  unfold firstPeriod
  set x := periodUnit rule.freqType target - periodUnit rule.freqType rule.startDate
  split_ifs with hx
  · have : (x + rule.intervalVal - 1) / rule.intervalVal < 1 :=
      Int.ediv_lt_of_lt_mul (by omega) (by omega)
    omega
  · rw [ceilDiv_eq (by omega) hi]
    have : 0 ≤ (x + rule.intervalVal - 1) / rule.intervalVal := Int.ediv_nonneg (by omega) (by omega)
    omega

/-! ## Sixteen periods contain a selected date if any period does -/

/-- The selected dates of period `i` that are not before the target. -/
def datesFrom (rule : ScheduleRule) (target : LocalDate) (i : ℕ) : Set LocalDate :=
  {d | d ∈ periodDates rule i ∧ target ≤ d}

theorem exists_modEq_in_window (N n₀ : ℕ) : ∃ i < 12, (N + i) % 12 = n₀ % 12 := by
  refine ⟨(n₀ + 12 * N - N) % 12, Nat.mod_lt _ (by norm_num), ?_⟩
  omega

/-- Periods whose numbers agree modulo 12 fall into the same month of the year. -/
theorem periodAt_emod_twelve {i j : ℕ} (h : i % 12 = j % 12) :
    periodAt rule i % 12 = periodAt rule j % 12 := by
  have hij : ((i : ℤ) - j) % 12 = 0 := by omega
  obtain ⟨q, hq⟩ := Int.dvd_of_emod_eq_zero hij
  have : periodAt rule i = periodAt rule j + 12 * (q * rule.intervalVal) := by
    unfold periodAt
    linear_combination rule.intervalVal * hq
  rw [this]
  omega

/-- The month of a month index. -/
theorem monthly_unit_iff (d : LocalDate) (h1 : 1 ≤ d.month) (h2 : d.month ≤ 12) (p : ℤ) :
    periodUnit .monthly d = p ↔ d.year = p / 12 ∧ d.month = p % 12 + 1 := by
  simp only [periodUnit]
  omega

theorem weekly_dense (hw : rule.freqType = .weekly)
    (hok : (validateFrequencyFields rule).ok = true) (N : ℕ) : (periodDates rule N).Nonempty := by
  simp only [validateFrequencyFields, hw, ok_ite] at hok
  cases hmask : rule.weekdaysMask with
  | none => simp [hmask] at hok
  | some mask =>
      simp only [hmask, Option.all_some, decide_eq_true_eq, not_or, not_lt] at hok
      obtain ⟨w, hw7, hbit⟩ : ∃ w < 7, mask.toNat.testBit w = true := by
        by_contra hnone
        have hzero : mask.toNat = 0 := by
          refine Nat.eq_of_testBit_eq fun i => ?_
          rw [Nat.zero_testBit]
          by_cases hi : i < 7
          · exact Bool.eq_false_iff.2 fun hb => hnone ⟨i, hi, hb⟩
          · exact Nat.testBit_lt_two_pow (lt_of_le_of_lt hok.1.2 (lt_of_lt_of_le (by norm_num)
              (Nat.pow_le_pow_right (by norm_num) (not_lt.1 hi))))
        omega
      refine ⟨ofDayNumber (7 * periodAt rule N - 3 + w), ofDayNumber_valid _, ?_, ?_⟩
      · rw [hw]
        simp only [periodUnit, dayNumber_ofDayNumber]
        omega
      · have hday : (Gregorian.weekday (7 * periodAt rule N - 3 + w)).toNat = w := by
          unfold Gregorian.weekday
          omega
        simp only [Matches, hw, dayNumber_ofDayNumber, hday]
        exact ⟨mask, hmask, hbit⟩

/-- A month long enough for the wanted day contributes a date. -/
theorem monthly_specific_mem (hm : rule.freqType = .monthly)
    (hmode : rule.monthlyMode = some .specificDay) {day : UInt8} (hday : rule.dayOfMonth = some day)
    {N : ℕ} (h1 : 1 ≤ (day.toNat : ℤ))
    (hlen : (day.toNat : ℤ) ≤ monthLength (periodAt rule N / 12) (periodAt rule N % 12 + 1)) :
    (periodDates rule N).Nonempty := by
  refine ⟨⟨periodAt rule N / 12, periodAt rule N % 12 + 1, day.toNat⟩,
    ⟨by dsimp only; omega, by dsimp only; omega, h1, hlen⟩, ?_, ?_⟩
  · rw [hm]
    simp only [periodUnit]
    omega
  · simp only [Matches, hm]
    exact Or.inr ⟨hmode, day, hday, rfl⟩

theorem monthly_dense (hm : rule.freqType = .monthly)
    {n₀ : ℕ} (hn : (periodDates rule n₀).Nonempty) (N : ℕ) :
    ∃ i < 16, (periodDates rule (N + i)).Nonempty := by
  obtain ⟨d, hd, hunit, hmatch⟩ := hn
  rw [hm, monthly_unit_iff d hd.one_le_month hd.month_le] at hunit
  simp only [Matches, hm] at hmatch
  rcases hmatch with ⟨hmode, -⟩ | ⟨hmode, day, hday, hdd⟩
  · -- every month has a last day
    refine ⟨0, by norm_num, ⟨periodAt rule (N + 0) / 12, periodAt rule (N + 0) % 12 + 1,
      monthLength (periodAt rule (N + 0) / 12) (periodAt rule (N + 0) % 12 + 1)⟩,
      ⟨by dsimp only; omega, by dsimp only; omega, ?_, le_rfl⟩, ?_, ?_⟩
    · have := monthLength_pos (periodAt rule (N + 0) / 12) (periodAt rule (N + 0) % 12 + 1)
      dsimp only
      omega
    · rw [hm]
      simp only [periodUnit]
      omega
    · simp only [Matches, hm]
      exact Or.inl ⟨hmode, trivial⟩
  · have hd1 := hd.one_le_day
    have hdlen := hd.day_le
    rw [hdd] at hd1 hdlen
    by_cases hfeb : d.month = 2
    · by_cases h28 : (day.toNat : ℤ) ≤ 28
      · exact ⟨0, by norm_num, monthly_specific_mem hm hmode hday hd1
          (h28.trans (monthLength_pos _ _))⟩
      · -- February 29: either another month is reached or the years progress by whole steps
        have hleap : IsLeap d.year := by
          by_contra hnl
          simp only [hfeb, monthLength, if_true, if_neg hnl] at hdlen
          omega
        have h29 : (day.toNat : ℤ) = 29 := by
          simp only [hfeb, monthLength, if_true, if_pos hleap] at hdlen
          omega
        by_cases h12 : rule.intervalVal % 12 = 0
        · obtain ⟨q, hq⟩ := Int.dvd_of_emod_eq_zero h12
          have hyear : ∀ n : ℕ, periodAt rule n / 12 = periodAt rule 0 / 12 + n * q ∧
              periodAt rule n % 12 = periodAt rule 0 % 12 := by
            intro n
            have : periodAt rule n = periodAt rule 0 + 12 * (n * q) := by
              unfold periodAt
              rw [hq]
              push_cast
              ring
            omega
          have hleap₀ : IsLeap (periodAt rule 0 / 12 + (n₀ : ℤ) * q) := by
            rw [← (hyear n₀).1, ← hunit.1]
            exact hleap
          obtain ⟨j, hj1, hj2, hj⟩ := exists_leap_in_window hleap₀ N
          refine ⟨(j - N).toNat, by omega, monthly_specific_mem hm hmode hday hd1 ?_⟩
          have hcast : ((N + (j - N).toNat : ℕ) : ℤ) = j := by omega
          have hmonth : periodAt rule (N + (j - N).toNat) % 12 + 1 = 2 := by
            rw [(hyear _).2, ← (hyear n₀).2]
            omega
          rw [hmonth, (hyear _).1, hcast, monthLength, if_pos rfl, if_pos hj, h29]
        · obtain ⟨i, hi, hmod⟩ := exists_modEq_in_window N (n₀ + 1)
          refine ⟨i, by omega, monthly_specific_mem hm hmode hday hd1 ?_⟩
          have hne : periodAt rule (N + i) % 12 + 1 ≠ 2 := by
            rw [periodAt_emod_twelve hmod]
            have hstep : periodAt rule (n₀ + 1) = periodAt rule n₀ + rule.intervalVal := by
              unfold periodAt
              push_cast
              ring
            omega
          have := monthLength_of_ne_two (y := periodAt rule (N + i) / 12) hne
          omega
    · obtain ⟨i, hi, hmod⟩ := exists_modEq_in_window N n₀
      refine ⟨i, by omega, monthly_specific_mem hm hmode hday hd1 ?_⟩
      have hmonth : periodAt rule (N + i) % 12 + 1 = d.month := by
        rw [periodAt_emod_twelve hmod]
        omega
      rw [hmonth, monthLength_congr _ d.year hfeb]
      exact hdlen

theorem yearly_dense (hy : rule.freqType = .yearly)
    {n₀ : ℕ} (hn : (periodDates rule n₀).Nonempty) (N : ℕ) :
    ∃ i < 16, (periodDates rule (N + i)).Nonempty := by
  obtain ⟨d, hd, hunit, hmatch⟩ := hn
  rw [hy] at hunit
  simp only [Matches, hy] at hmatch
  obtain ⟨⟨month, hmonth, hdm⟩, day, hday, hdd⟩ := hmatch
  have hmem : ∀ n : ℕ, d.day ≤ monthLength (periodAt rule n) d.month →
      (periodDates rule n).Nonempty := by
    intro n hlen
    refine ⟨⟨periodAt rule n, d.month, d.day⟩, ⟨hd.one_le_month, hd.month_le, hd.one_le_day, hlen⟩,
      by rw [hy]; rfl, ?_⟩
    simp only [Matches, hy]
    exact ⟨⟨month, hmonth, hdm⟩, day, hday, hdd⟩
  have hdlen := hd.day_le
  by_cases hfeb : d.month = 2
  · by_cases h28 : d.day ≤ 28
    · exact ⟨0, by norm_num, hmem _ (h28.trans (monthLength_pos _ _))⟩
    · have hleap : IsLeap d.year := by
        by_contra hnl
        simp only [hfeb, monthLength, if_true, if_neg hnl] at hdlen
        omega
      have h29 : d.day = 29 := by
        simp only [hfeb, monthLength, if_true, if_pos hleap] at hdlen
        omega
      have hleap₀ : IsLeap (rule.startDate.year + (n₀ : ℤ) * rule.intervalVal) := by
        have : d.year = rule.startDate.year + (n₀ : ℤ) * rule.intervalVal := by
          simpa [periodAt, periodUnit, hy] using hunit
        rwa [← this]
      obtain ⟨j, hj1, hj2, hj⟩ := exists_leap_in_window hleap₀ N
      refine ⟨(j - N).toNat, by omega, hmem _ ?_⟩
      have hcast : ((N + (j - N).toNat : ℕ) : ℤ) = j := by omega
      rw [h29, hfeb, monthLength, if_pos rfl, if_pos]
      simpa only [periodAt, periodUnit, hy, hcast] using hj
  · exact ⟨0, by norm_num, hmem _ (by rwa [monthLength_congr _ d.year hfeb])⟩

/-- Sixteen consecutive periods contain a selected date if any period does. -/
theorem periodDates_dense (hok : (validateFrequencyFields rule).ok = true)
    {n₀ : ℕ} (hn : (periodDates rule n₀).Nonempty) (N : ℕ) :
    ∃ i < 16, (periodDates rule (N + i)).Nonempty := by
  cases hf : rule.freqType with
  | daily =>
      refine ⟨0, by norm_num, ofDayNumber (periodAt rule (N + 0)), ofDayNumber_valid _, ?_, ?_⟩
      · simp only [hf, periodUnit, dayNumber_ofDayNumber]
      · simp only [Matches, hf]
  | weekly => exact ⟨0, by norm_num, weekly_dense hf hok _⟩
  | monthly => exact monthly_dense hf hn N
  | yearly => exact yearly_dense hf hn N

/-! ## Each search finds the first selected date -/

theorem datesFrom_ordered (hi : 1 ≤ rule.intervalVal) (target : LocalDate) :
    ∀ i j, i < j → ∀ a ∈ datesFrom rule target i, ∀ b ∈ datesFrom rule target j, a ≤ b :=
  fun _ _ hij _ ha _ hb => (periodDates_lt hi hij ha.1 hb.1).le

theorem datesFrom_below (hi : 1 ≤ rule.intervalVal) {target : LocalDate} (ht : target.Valid) {i : ℕ}
    (h : i < firstPeriod rule target) : datesFrom rule target i = ∅ := by
  refine Set.eq_empty_of_forall_notMem ?_
  rintro d ⟨hd, hle⟩
  have h1 := periodAt_lt_of_lt_firstPeriod hi h
  have h2 := periodUnit_mono rule.freqType ht hd.1 hle
  rw [hd.2.1] at h2
  omega

/-- Behind the first period every selected date is late enough. -/
theorem datesFrom_above (hi : 1 ≤ rule.intervalVal) {target : LocalDate} (ht : target.Valid) {i : ℕ}
    (h : firstPeriod rule target < i) : datesFrom rule target i = periodDates rule i := by
  refine Set.Subset.antisymm (fun d hd => hd.1) fun d hd => ⟨hd, ?_⟩
  have h1 := periodUnit_le_periodAt hi (le_refl (firstPeriod rule target))
  have h2 := periodAt_strictMono hi h
  exact (lt_of_periodUnit_lt rule.freqType ht hd.1 (by rw [hd.2.1]; omega)).le

/-- The first date of 64 periods from the first period on is the first date of the rule. -/
theorem isFirst_of_search (hi : 1 ≤ rule.intervalVal)
    (hok : (validateFrequencyFields rule).ok = true) {target : LocalDate} (ht : target.Valid)
    {f : ℕ → Option LocalDate}
    (hf : ∀ i < kMaxDateSearchSteps,
      (∀ j < i, datesFrom rule target (firstPeriod rule target + j) = ∅) →
        IsFirst (datesFrom rule target (firstPeriod rule target + i)) (f i)) :
    IsFirst {d | ∃ i, d ∈ datesFrom rule target i}
      ((List.range kMaxDateSearchSteps).findSome? f) := by
  have hord := datesFrom_ordered hi target
  refine isFirst_of_window (firstPeriod rule target) kMaxDateSearchSteps hord
    (fun i h => datesFrom_below hi ht h) ?_
    (isFirst_findSome?_range kMaxDateSearchSteps (fun i j hij => hord _ _ (by omega)) hf)
  rintro ⟨i, d, hd, -⟩
  obtain ⟨j, hj, hdates⟩ := periodDates_dense hok ⟨d, hd⟩ (firstPeriod rule target + 1)
  refine ⟨j + 1, by unfold kMaxDateSearchSteps; omega, ?_⟩
  rw [datesFrom_above hi ht (by omega)]
  rwa [show firstPeriod rule target + (j + 1) = firstPeriod rule target + 1 + j by omega]

/-- The years fit in every period that a search for `target` reaches. -/
def SearchFits (rule : ScheduleRule) (target : LocalDate) : Prop :=
  ∀ i < kMaxDateSearchSteps,
    (∀ j < i, datesFrom rule target (firstPeriod rule target + j) = ∅) →
      PeriodFits rule (firstPeriod rule target + i)

/-- January 1 of the year 1 has day number -719162. -/
theorem dayNumber_ge {d : LocalDate} (hd : d.Valid) (h : 1 ≤ d.year) : -719162 ≤ dayNumber d := by
  have h1 := yearStart_le_dayNumber hd
  have h2 := yearStart_le_of_le h
  have h3 : yearStart 1 = -719162 := by decide
  omega

/-- One round of `nextWeeklyDate`. -/
def weekRound (mask : UInt8) (target : LocalDate) (weekMonday : ℤ) : Option LocalDate :=
  (List.range 7).findSome? fun weekday =>
    if maskSelects mask weekday then
      if compareDate (dateFromDays (weekMonday + weekday)) target ≥ 0 then
        some (dateFromDays (weekMonday + weekday))
      else none
    else none

/-- One round of `nextMonthlyDate`. -/
def monthRound (rule : ScheduleRule) (target : LocalDate) (monthIndex : ℤ) : Option LocalDate :=
  let year := toInt (monthIndex.tdiv 12)
  let month := toInt (monthIndex.tmod 12) + 1
  let day :=
    if rule.monthlyMode = some .lastDay then some (daysInMonth year month)
    else match rule.dayOfMonth with
      | none => none
      | some day =>
        if (day.toNat : ℤ) > daysInMonth year month then none else some (day.toNat : ℤ)
  match day with
  | none => none
  | some day => if compareDate ⟨year, month, day⟩ target ≥ 0 then some ⟨year, month, day⟩ else none

/-- One round of `nextYearlyDate`. -/
def yearRound (month day : UInt8) (target : LocalDate) (year : ℤ) : Option LocalDate :=
  if (day.toNat : ℤ) > daysInMonth year month.toNat then none
  else if compareDate ⟨year, month.toNat, day.toNat⟩ target ≥ 0 then
    some ⟨year, month.toNat, day.toNat⟩
  else none

/-- The masked days of a week, in order. -/
theorem week_isFirst {mask : UInt8} (hf : rule.freqType = .weekly)
    (hmask : rule.weekdaysMask = some mask) {n : ℕ} (hfits : PeriodFits rule n)
    (hmin : -102737 ≤ periodAt rule n) (target : LocalDate) :
    IsFirst (datesFrom rule target n) (weekRound mask target (7 * periodAt rule n - 3)) := by
  unfold weekRound
  set day : ℕ → LocalDate := fun w => ofDayNumber (7 * periodAt rule n - 3 + w) with hdaydef
  have hvalid : ∀ w, (day w).Valid := fun w => ofDayNumber_valid _
  have hdn : ∀ w, dayNumber (day w) = 7 * periodAt rule n - 3 + w := fun w => dayNumber_ofDayNumber _
  have hmem : ∀ w < 7, mask.toNat.testBit w = true → day w ∈ periodDates rule n := by
    intro w hw hbit
    refine ⟨hvalid w, ?_, ?_⟩
    · rw [hf]
      simp only [periodUnit, hdn]
      omega
    · have hweekday : (Gregorian.weekday (dayNumber (day w))).toNat = w := by
        rw [hdn]
        unfold Gregorian.weekday
        omega
      simp only [Matches, hf, hweekday]
      exact ⟨mask, hmask, hbit⟩
  have hset : datesFrom rule target n =
      {d | ∃ w < 7, d ∈ {x | x = day w ∧ mask.toNat.testBit w = true ∧ target ≤ x}} := by
    ext d
    constructor
    · rintro ⟨⟨hd, hunit, hmatch⟩, hle⟩
      rw [hf] at hunit
      simp only [periodUnit] at hunit
      simp only [Matches, hf] at hmatch
      obtain ⟨mask', hmask', hbit⟩ := hmatch
      rw [hmask, Option.some_inj] at hmask'
      subst hmask'
      refine ⟨(Gregorian.weekday (dayNumber d)).toNat, ?_, ?_, hbit, hle⟩
      · unfold Gregorian.weekday
        omega
      · refine dayNumber_injective hd (hvalid _) ?_
        rw [hdn]
        unfold Gregorian.weekday
        omega
    · rintro ⟨w, hw, rfl, hbit, hle⟩
      exact ⟨hmem w hw hbit, hle⟩
  rw [hset]
  refine isFirst_findSome?_range 7 ?_ fun w hw _ => ?_
  · rintro i j hij _ ⟨rfl, -⟩ _ ⟨rfl, -⟩
    refine (dayNumber_le_iff (hvalid i) (hvalid j)).1 ?_
    rw [hdn, hdn]
    omega
  · rw [maskSelects_eq mask hw]
    by_cases hbit : mask.toNat.testBit w = true
    · have hin := hmem w hw hbit
      have hdate : dateFromDays (7 * periodAt rule n - 3 + w) = day w := by
        rw [← hdn]
        exact dateFromDays_eq (hvalid w) (by rw [hdn]; omega) (hfits _ (hvalid w) hin.2.1
          fun _ => hin.2.2)
      simp only [hbit, if_true, true_and, hdate, ge_iff_le]
      simp only [← ge_iff_le, compareDate_nonneg_iff]
      have := isFirst_ite (target ≤ day w) (day w)
      convert this using 2
      ext x
      exact ⟨fun h => ⟨h.1, h.1 ▸ h.2⟩, fun h => ⟨h.1, h.1 ▸ h.2⟩⟩
    · simp [hbit]

/-- At most one existing date of a period is selected. -/
theorem datesFrom_isFirst {d : LocalDate} {p : Prop} [Decidable p] (rule : ScheduleRule)
    (target : LocalDate) (n : ℕ)
    (h : ∀ x, x ∈ periodDates rule n ↔ x = d ∧ p) :
    IsFirst (datesFrom rule target n)
      (if p then if compareDate d target ≥ 0 then some d else none else none) := by
  have hset : datesFrom rule target n = {x | x = d ∧ p ∧ target ≤ d} := by
    ext x
    constructor
    · rintro ⟨hx, hle⟩
      obtain ⟨rfl, hp⟩ := (h x).1 hx
      exact ⟨rfl, hp, hle⟩
    · rintro ⟨rfl, hp, hle⟩
      exact ⟨(h x).2 ⟨rfl, hp⟩, hle⟩
  have hif : (if p then if compareDate d target ≥ 0 then some d else none else none) =
      if p ∧ target ≤ d then some d else none := by
    simp only [compareDate_nonneg_iff, ite_and]
  rw [hset, hif]
  exact isFirst_ite _ d

/-- A month fits if its year does. -/
theorem periodFits_monthly_iff (hf : rule.freqType = .monthly) (n : ℕ) :
    PeriodFits rule n ↔ periodAt rule n / 12 ≤ intMax := by
  constructor
  · intro hfits
    have hlen := monthLength_pos (periodAt rule n / 12) (periodAt rule n % 12 + 1)
    exact hfits ⟨periodAt rule n / 12, periodAt rule n % 12 + 1, 1⟩
      ⟨by dsimp only; omega, by dsimp only; omega, le_rfl, by dsimp only; omega⟩
      (by rw [hf]; simp only [periodUnit]; omega)
      (fun hweekly => by rw [hf] at hweekly; cases hweekly)
  · intro hle d hd hunit _
    rw [hf, monthly_unit_iff d hd.one_le_month hd.month_le] at hunit
    omega

/-- A year fits if its number does. -/
theorem periodFits_yearly_iff (hf : rule.freqType = .yearly) (n : ℕ) :
    PeriodFits rule n ↔ periodAt rule n ≤ intMax := by
  constructor
  · intro hfits
    exact hfits ⟨periodAt rule n, 1, 1⟩
      ⟨le_rfl, by norm_num, le_rfl, (by norm_num : (1 : ℤ) ≤ 28).trans (monthLength_pos _ _)⟩
      (by rw [hf]; rfl) (fun hweekly => by rw [hf] at hweekly; cases hweekly)
  · intro hle d _ hunit _
    rw [hf] at hunit
    simp only [periodUnit] at hunit
    omega

/-- The month of a period, as the planner computes it. -/
theorem month_of_period (hf : rule.freqType = .monthly) {n : ℕ} (hfits : PeriodFits rule n)
    (hmin : 0 ≤ periodAt rule n) :
    toInt ((periodAt rule n).tdiv 12) = periodAt rule n / 12 ∧
      toInt ((periodAt rule n).tmod 12) = periodAt rule n % 12 := by
  have hyear := (periodFits_monthly_iff hf n).1 hfits
  rw [Int.tdiv_eq_ediv_of_nonneg hmin, Int.tmod_eq_emod_of_nonneg hmin]
  exact ⟨toInt_eq (by omega) hyear, toInt_eq (by omega) (by unfold intMax; omega)⟩

/-- The wanted day of a month, if the month has it. -/
theorem month_isFirst (hf : rule.freqType = .monthly)
    (hok : (validateFrequencyFields rule).ok = true) {n : ℕ} (hfits : PeriodFits rule n)
    (hmin : 0 ≤ periodAt rule n) (target : LocalDate) :
    IsFirst (datesFrom rule target n) (monthRound rule target (periodAt rule n)) := by
  obtain ⟨hyear, hmonth⟩ := month_of_period hf hfits hmin
  unfold monthRound
  rw [hyear, hmonth]
  dsimp only
  rw [daysInMonth_eq (by omega) (by omega)]
  set y := periodAt rule n / 12 with hy
  set m := periodAt rule n % 12 + 1 with hm
  have hlen := monthLength_pos y m
  have hdates : ∀ d : LocalDate, d ∈ periodDates rule n ↔
      (d.year = y ∧ d.month = m) ∧ (1 ≤ d.day ∧ d.day ≤ monthLength y m) ∧ Matches rule d := by
    intro d
    simp only [periodDates, Set.mem_ofPred_eq, hf]
    constructor
    · rintro ⟨hd, hunit, hmatch⟩
      rw [monthly_unit_iff d hd.one_le_month hd.month_le] at hunit
      refine ⟨hunit, ⟨hd.one_le_day, ?_⟩, hmatch⟩
      rw [hy, hm, ← hunit.1, ← hunit.2]
      exact hd.day_le
    · rintro ⟨⟨hdy, hdm⟩, ⟨h1, h2⟩, hmatch⟩
      have hd : d.Valid := ⟨by omega, by omega, h1, by rwa [hdy, hdm]⟩
      exact ⟨hd, (monthly_unit_iff d hd.one_le_month hd.month_le _).2 ⟨hdy, hdm⟩, hmatch⟩
  simp only [Matches, hf] at hdates
  simp only [validateFrequencyFields, hf] at hok
  cases hmode : rule.monthlyMode with
  | none =>
      simp only [hmode] at hok
      cases hok
  | some mode =>
      cases mode with
      | lastDay =>
          have h := datesFrom_isFirst (d := ⟨y, m, monthLength y m⟩) (p := True) rule target n ?_
          · simpa only [if_true] using h
          · rintro ⟨dy, dm, dd⟩
            rw [hdates, Date.mk.injEq]
            simp only [hmode, Option.some.injEq, reduceCtorEq, true_and, false_and, or_false,
              and_true]
            constructor
            · rintro ⟨⟨rfl, rfl⟩, -, rfl⟩
              exact ⟨rfl, rfl, rfl⟩
            · rintro ⟨rfl, rfl, rfl⟩
              exact ⟨⟨rfl, rfl⟩, ⟨by omega, le_rfl⟩, rfl⟩
      | specificDay =>
          cases hday : rule.dayOfMonth with
          | none =>
              simp only [hmode, hday] at hok
              cases hok
          | some day =>
              simp only [hmode, hday, ok_ite, not_or, not_lt] at hok
              have h := datesFrom_isFirst (d := ⟨y, m, day.toNat⟩)
                (p := (day.toNat : ℤ) ≤ monthLength y m) rule target n ?_
              · simp only [Option.some.injEq, reduceCtorEq, if_false]
                by_cases hle : (day.toNat : ℤ) ≤ monthLength y m
                · simpa only [if_pos hle, gt_iff_lt, if_neg (not_lt.2 hle)] using h
                · simpa only [if_neg hle, gt_iff_lt, if_pos (not_le.1 hle)] using h
              · rintro ⟨dy, dm, dd⟩
                rw [hdates, Date.mk.injEq]
                simp only [hmode, hday, Option.some.injEq, reduceCtorEq, true_and, false_and,
                  false_or, exists_eq_left']
                constructor
                · rintro ⟨⟨rfl, rfl⟩, ⟨-, h2⟩, rfl⟩
                  exact ⟨⟨rfl, rfl, rfl⟩, h2⟩
                · rintro ⟨⟨rfl, rfl, rfl⟩, h2⟩
                  exact ⟨⟨rfl, rfl⟩, ⟨by omega, h2⟩, rfl⟩

/-- The wanted day of a year, if the year has it. -/
theorem year_isFirst {month day : UInt8} (hf : rule.freqType = .yearly)
    (hok : (validateFrequencyFields rule).ok = true) (hmonth : rule.monthOfYear = some month)
    (hday : rule.dayOfMonth = some day) (n : ℕ) (target : LocalDate) :
    IsFirst (datesFrom rule target n) (yearRound month day target (periodAt rule n)) := by
  simp only [validateFrequencyFields, hf, hmonth, hday, ok_ite, not_or, not_lt] at hok
  obtain ⟨⟨hm1, hm2⟩, ⟨hd1, -⟩, -⟩ := hok
  unfold kMaximumMonthOfYear at hm2
  unfold yearRound
  rw [daysInMonth_eq (by omega) (by omega)]
  have h := datesFrom_isFirst (d := ⟨periodAt rule n, month.toNat, day.toNat⟩)
    (p := (day.toNat : ℤ) ≤ monthLength (periodAt rule n) month.toNat) rule target n ?_
  · by_cases hle : (day.toNat : ℤ) ≤ monthLength (periodAt rule n) month.toNat
    · simpa only [if_pos hle, gt_iff_lt, if_neg (not_lt.2 hle)] using h
    · simpa only [if_neg hle, gt_iff_lt, if_pos (not_le.1 hle)] using h
  · rintro ⟨dy, dm, dd⟩
    simp only [periodDates, Set.mem_ofPred_eq, Matches, hf, periodUnit, hmonth, hday,
      Option.some.injEq, exists_eq_left', Date.mk.injEq]
    constructor
    · rintro ⟨hd, rfl, rfl, rfl⟩
      exact ⟨⟨rfl, rfl, rfl⟩, hd.day_le⟩
    · rintro ⟨⟨rfl, rfl, rfl⟩, hlen⟩
      exact ⟨⟨by dsimp only; omega, by dsimp only; omega, by dsimp only; omega, hlen⟩,
        rfl, rfl, rfl⟩

/-- The weeks between the Mondays of two dates. -/
theorem weeksBetween_eq {a b : LocalDate} (h : dayNumber a ≤ dayNumber b) :
    (dayNumber b - Gregorian.weekday (dayNumber b) -
        (dayNumber a - Gregorian.weekday (dayNumber a))).tdiv kDaysPerWeek =
      (dayNumber b + 3) / 7 - (dayNumber a + 3) / 7 := by
  unfold Gregorian.weekday kDaysPerWeek
  rw [Int.tdiv_eq_ediv_of_nonneg (by omega)]
  omega

/-- The jump of the weekly search lands on `firstPeriod` as well. -/
theorem weeklyJump_eq (hi : 1 ≤ rule.intervalVal) (hf : rule.freqType = .weekly)
    {target : LocalDate} (h : dayNumber rule.startDate ≤ dayNumber target) :
    max 0 (ceilDiv ((dayNumber target + 3) / 7 - (dayNumber rule.startDate + 3) / 7)
      rule.intervalVal) = firstPeriod rule target := by
  have hfirst := firstPeriod_eq hi target
  simp only [hf, periodUnit] at hfirst
  rw [hfirst]
  split_ifs with hzero
  · have : (dayNumber target + 3) / 7 - (dayNumber rule.startDate + 3) / 7 = 0 := by omega
    rw [this, ceilDiv_eq le_rfl hi, Int.ediv_eq_zero_of_lt (by omega) (by omega), max_self]
  · rw [ceilDiv_eq (by omega) hi]
    exact max_eq_right (Int.ediv_nonneg (by omega) (by omega))

/-- The Monday of round `i` of the weekly search. -/
theorem weekMonday_eq (hf : rule.freqType = .weekly) (n : ℕ) :
    dayNumber rule.startDate - Gregorian.weekday (dayNumber rule.startDate) +
        (n : ℤ) * rule.intervalVal * kDaysPerWeek = 7 * periodAt rule n - 3 := by
  have hanchor : dayNumber rule.startDate - Gregorian.weekday (dayNumber rule.startDate) =
      7 * ((dayNumber rule.startDate + 3) / 7) - 3 := by
    unfold Gregorian.weekday
    omega
  simp only [hanchor, periodAt, hf, periodUnit, kDaysPerWeek]
  ring

section Searches

variable {target : LocalDate} (hi : 1 ≤ rule.intervalVal)
  (hok : (validateFrequencyFields rule).ok = true) (hs : rule.startDate.Valid)
  (hpos : 1 ≤ rule.startDate.year) (ht : target.Valid) (hle : rule.startDate ≤ target)
  (hfit : SearchFits rule target)

include hi hs hpos ht hle hfit

theorem nextDailyDate_isFirst (hf : rule.freqType = .daily) :
    IsFirst {d | ∃ i, d ∈ datesFrom rule target i} (nextDailyDate rule rule.startDate target) := by
  have hstart := dayNumber_ge hs hpos
  have hfirst := firstPeriod_eq hi target
  simp only [hf, periodUnit] at hfirst
  have hperiod : periodAt rule (firstPeriod rule target) =
      dayNumber rule.startDate + firstPeriod rule target * rule.intervalVal := by
    simp only [periodAt, hf, periodUnit]
  have hunit := periodUnit_le_periodAt hi (le_refl (firstPeriod rule target))
  have hday := (dayNumber_le_iff hs ht).2 hle
  simp only [nextDailyDate, daysFromCivil_eq_dayNumber hs, daysFromCivil_eq_dayNumber ht, ← hfirst,
    ← hperiod, isFirst_some]
  set d := ofDayNumber (periodAt rule (firstPeriod rule target)) with hd
  have hdn : dayNumber d = periodAt rule (firstPeriod rule target) := dayNumber_ofDayNumber _
  have hvalid : d.Valid := ofDayNumber_valid _
  simp only [hf, periodUnit] at hunit
  have hyear : d.year ≤ intMax := by
    refine hfit 0 (by decide) (fun j hj => absurd hj (Nat.not_lt_zero j)) d hvalid ?_ ?_
    · rw [hf]
      exact hdn
    · intro hweekly
      rw [hf] at hweekly
      cases hweekly
  rw [← hdn, dateFromDays_eq hvalid (by omega) hyear]
  refine ⟨⟨firstPeriod rule target, ⟨hvalid, by rw [hf]; exact hdn, by simp only [Matches, hf]⟩,
    (dayNumber_le_iff ht hvalid).1 (by omega)⟩, ?_⟩
  rintro b ⟨j, hb⟩
  by_cases hj : j < firstPeriod rule target
  · rw [datesFrom_below hi ht hj] at hb
    exact hb.elim
  · rcases eq_or_lt_of_le (not_lt.1 hj) with rfl | hlt
    · have hbn := hb.1.2.1
      rw [hf] at hbn
      exact (dayNumber_le_iff hvalid hb.1.1).1 (by rw [hdn, ← hbn]; exact le_rfl)
    · refine (periodDates_lt hi hlt ⟨hvalid, ?_, ?_⟩ hb.1).le
      · rw [hf]
        exact hdn
      · simp only [Matches, hf]

theorem nextWeeklyDate_isFirst (hok : (validateFrequencyFields rule).ok = true)
    (hf : rule.freqType = .weekly) :
    IsFirst {d | ∃ i, d ∈ datesFrom rule target i} (nextWeeklyDate rule rule.startDate target) := by
  have hstart := dayNumber_ge hs hpos
  have hday := (dayNumber_le_iff hs ht).2 hle
  cases hmask : rule.weekdaysMask with
  | none =>
      simp only [validateFrequencyFields, hf, hmask, ok_ite, Option.all_none] at hok
      exact absurd trivial hok.1
  | some mask =>
      have hweeks := weeksBetween_eq hday
      have hjump := weeklyJump_eq hi hf hday
      simp only [nextWeeklyDate, hmask, weekday_eq hs, weekday_eq ht, daysFromCivil_eq_dayNumber hs,
        daysFromCivil_eq_dayNumber ht, ge_iff_le, if_pos hday, hweeks, hjump]
      refine isFirst_of_search hi hok ht fun i hi64 hempty => ?_
      have hmonday := weekMonday_eq hf (firstPeriod rule target + i)
      push_cast at hmonday
      rw [hmonday]
      refine week_isFirst hf hmask (hfit i hi64 hempty) ?_ target
      have hgrow := periodUnit_startDate_le hi (firstPeriod rule target + i)
      simp only [hf, periodUnit] at hgrow
      omega

omit hle in
theorem nextMonthlyDate_isFirst (hok : (validateFrequencyFields rule).ok = true)
    (hf : rule.freqType = .monthly) :
    IsFirst {d | ∃ i, d ∈ datesFrom rule target i} (nextMonthlyDate rule rule.startDate target) := by
  have hfirst := firstPeriod_eq hi target
  simp only [hf, periodUnit] at hfirst
  simp only [nextMonthlyDate, ← hfirst]
  refine isFirst_of_search hi hok ht fun i hi64 hempty => ?_
  have hindex : rule.startDate.year * 12 + (rule.startDate.month - 1) +
      ((firstPeriod rule target : ℤ) + i) * rule.intervalVal =
        periodAt rule (firstPeriod rule target + i) := by
    simp only [periodAt, hf, periodUnit]
    push_cast
    ring
  have hmin := periodUnit_startDate_le hi (firstPeriod rule target + i)
  simp only [hf, periodUnit] at hmin
  have hstart := hs.one_le_month
  rw [hindex]
  exact month_isFirst hf hok (hfit i hi64 hempty) (by omega) target

omit hs hle in
theorem nextYearlyDate_isFirst (hok : (validateFrequencyFields rule).ok = true)
    (hf : rule.freqType = .yearly) :
    IsFirst {d | ∃ i, d ∈ datesFrom rule target i} (nextYearlyDate rule rule.startDate target) := by
  have hfirst := firstPeriod_eq hi target
  simp only [hf, periodUnit] at hfirst
  have hok' := hok
  simp only [validateFrequencyFields, hf] at hok'
  cases hmonth : rule.monthOfYear with
  | none =>
      simp only [hmonth] at hok'
      cases hok'
  | some month =>
      cases hday : rule.dayOfMonth with
      | none =>
          simp only [hmonth, hday] at hok'
          cases hok'
      | some day =>
          simp only [nextYearlyDate, hmonth, hday, ← hfirst]
          refine isFirst_of_search hi hok ht fun i hi64 hempty => ?_
          set n := firstPeriod rule target + i with hn
          have hperiod : ((firstPeriod rule target : ℤ) + i) * rule.intervalVal =
              periodAt rule n - rule.startDate.year := by
            simp only [periodAt, hf, periodUnit, hn]
            push_cast
            ring
          have hmin := periodUnit_startDate_le hi n
          simp only [hf, periodUnit] at hmin
          have hmax : periodAt rule n ≤ intMax := (periodFits_yearly_iff hf n).1 (hfit i hi64 hempty)
          rw [hperiod, toInt_eq (by omega) (by omega), add_sub_cancel]
          exact year_isFirst hf hok hmonth hday n target

/-- `nextDateOnOrAfter` returns the first selected date at or after the target. -/
theorem nextDateOnOrAfter_isFirst (hok : (validateFrequencyFields rule).ok = true) :
    IsFirst {d | ∃ i, d ∈ datesFrom rule target i}
      (nextDateOnOrAfter rule rule.startDate target) := by
  unfold nextDateOnOrAfter
  cases hf : rule.freqType with
  | daily => exact nextDailyDate_isFirst hi hs hpos ht hle hfit hf
  | weekly => exact nextWeeklyDate_isFirst hi hs hpos ht hle hfit hok hf
  | monthly => exact nextMonthlyDate_isFirst hi hs hpos ht hfit hok hf
  | yearly => exact nextYearlyDate_isFirst hi hpos ht hfit hok hf

end Searches

end VoiceLife
