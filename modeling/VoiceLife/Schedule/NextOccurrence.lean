import VoiceLife.Schedule.RecurrenceTheorems

/-! # `nextOccurrence` returns the least occurrence

The retry loop runs at most twice: the first date on or after the local day of the request is either
late enough or is that very day with its start time already passed.
-/

namespace VoiceLife

open Gregorian CInt FirstHit

variable {rule : ScheduleRule} {t : ℤ}

/-! ## Dates and instants -/

theorem localTimeToSeconds_range {time : LocalTime} (h : time.InClockRange) :
    0 ≤ localTimeToSeconds time ∧ localTimeToSeconds time < 86400 := by
  obtain ⟨h1, h2, h3, h4, h5, h6⟩ := h
  unfold localTimeToSeconds
  omega

theorem dayNumber_nonneg_iff {d : LocalDate} (hd : d.Valid) : 0 ≤ dayNumber d ↔ 1970 ≤ d.year := by
  have hepoch := yearStart_epoch
  have hstart := yearStart_le_dayNumber hd
  have hend := dayNumber_lt_yearStart_succ hd
  constructor
  · intro h
    by_contra hlt
    have := yearStart_le_of_le (show d.year + 1 ≤ 1970 by omega)
    omega
  · intro h
    have := yearStart_le_of_le h
    omega

theorem localTimeToSeconds_eq_zero {t : LocalTime} (ht : t.InClockRange)
    (h : localTimeToSeconds t = 0) : t = ⟨0, 0, 0⟩ := by
  obtain ⟨h₁, h₂, h₃, h₄, h₅, h₆⟩ := ht
  unfold localTimeToSeconds at h
  have eh : t.hour = 0 := by omega
  have em : t.minute = 0 := by omega
  have es : t.second = 0 := by omega
  show (⟨t.hour, t.minute, t.second⟩ : LocalTime) = _
  rw [eh, em, es]

theorem occurrenceAt_eq {d : LocalDate} (hd : d.Valid) :
    occurrenceAt rule d = occurrenceTime rule d := by
  unfold occurrenceAt unixFromLocal occurrenceTime localTimeToSeconds
  rw [daysFromCivil_eq_dayNumber hd]
  ring

theorem occurrenceTime_le_iff {a b : LocalDate} (ha : a.Valid) (hb : b.Valid) :
    occurrenceTime rule a ≤ occurrenceTime rule b ↔ a ≤ b := by
  rw [← dayNumber_le_iff ha hb]
  unfold occurrenceTime
  omega

/-- A date before the local day of `t` has its occurrence before `t`. -/
theorem occurrenceTime_lt_of_lt (hclock : rule.startTime.InClockRange) {d : LocalDate}
    (hd : d.Valid) (h : d < localDay t) : occurrenceTime rule d < t := by
  have hlt := (dayNumber_lt_iff hd (ofDayNumber_valid _)).2 h
  have hrange := localTimeToSeconds_range hclock
  rw [dayNumber_ofDayNumber] at hlt
  unfold occurrenceTime kTimezoneOffsetSeconds at *
  omega

/-- A date with its occurrence before `t` is at most the local day of `t`. -/
theorem le_localDay_of_lt (hclock : rule.startTime.InClockRange) {d : LocalDate} (hd : d.Valid)
    (h : occurrenceTime rule d < t) : d ≤ localDay t := by
  have hrange := localTimeToSeconds_range hclock
  refine (dayNumber_le_iff hd (ofDayNumber_valid _)).1 ?_
  rw [dayNumber_ofDayNumber]
  unfold occurrenceTime kTimezoneOffsetSeconds at *
  omega

theorem localDateFromUtc_eq (ht : -kTimezoneOffsetSeconds ≤ t)
    (hyear : (localDay t).year ≤ intMax) : localDateFromUtc t = localDay t := by
  have h0 : 0 ≤ t + kTimezoneOffsetSeconds := by omega
  have hdn : dayNumber (localDay t) = (t + kTimezoneOffsetSeconds) / 86400 := dayNumber_ofDayNumber _
  simp only [localDateFromUtc, localFromUnix]
  rw [Int.tdiv_eq_ediv_of_nonneg h0, ← hdn]
  exact dateFromDays_eq (ofDayNumber_valid _) (by rw [hdn]; omega) hyear

theorem next_le_of_lt {a b : LocalDate} (ha : a.Valid) (hb : b.Valid) (h : a < b) : a.next ≤ b := by
  refine (dayNumber_le_iff ha.next hb).1 ?_
  have := (dayNumber_lt_iff ha hb).2 h
  rw [dayNumber_next ha]
  omega

theorem lt_next {a : LocalDate} (ha : a.Valid) : a < a.next := by
  refine (dayNumber_lt_iff ha ha.next).1 ?_
  rw [dayNumber_next ha]
  omega

theorem addDaysChecked_one {d : LocalDate} (hd : d.Valid) (hmin : -719162 ≤ dayNumber d)
    (hyear : d.next.year ≤ intMax) : addDaysChecked d 1 = some d.next := by
  have hnext := dayNumber_next hd
  have hhigh := dayNumber_lt_yearStart_succ hd.next
  have hsmall : dayNumber d ≤ 9223372036854775807 - 1 := by
    unfold yearStart intMax at *
    omega
  simp only [addDaysChecked, daysFromCivil_eq_dayNumber hd, ← hnext]
  rw [if_neg (by omega), if_neg (by omega), dateFromDays_eq hd.next (by omega) hyear]

theorem periodUnit_next_le (freq : Frequency) {d : LocalDate} (hd : d.Valid) :
    periodUnit freq d.next ≤ periodUnit freq d + 1 := by
  have hn := dayNumber_next hd
  have := hd.month_le
  cases freq with
  | daily => exact hn.le
  | weekly =>
      simp only [periodUnit]
      omega
  | monthly =>
      simp only [periodUnit, Date.next]
      split_ifs <;> dsimp only <;> omega
  | yearly =>
      simp only [periodUnit, Date.next]
      split_ifs <;> dsimp only <;> omega

/-- Every unit has a date. -/
theorem exists_periodUnit (freq : Frequency) (n : ℤ) :
    ∃ d : LocalDate, d.Valid ∧ periodUnit freq d = n := by
  cases freq with
  | daily => exact ⟨ofDayNumber n, ofDayNumber_valid _, dayNumber_ofDayNumber _⟩
  | weekly =>
      refine ⟨ofDayNumber (7 * n), ofDayNumber_valid _, ?_⟩
      simp only [periodUnit, dayNumber_ofDayNumber]
      omega
  | monthly =>
      have hlen := monthLength_pos (n / 12) (n % 12 + 1)
      refine ⟨⟨n / 12, n % 12 + 1, 1⟩, ⟨by dsimp only; omega, by dsimp only; omega, le_rfl,
        by dsimp only; omega⟩, ?_⟩
      simp only [periodUnit]
      omega
  | yearly =>
      have hlen := monthLength_pos n 1
      exact ⟨⟨n, 1, 1⟩, ⟨le_rfl, by norm_num, le_rfl, by dsimp only; omega⟩, rfl⟩

/-! ## One round of the retry loop -/

/-- The date lies behind the end date of the rule. -/
def PastEnd (rule : ScheduleRule) (date : LocalDate) : Prop :=
  ∃ endDate, rule.endDate = some endDate ∧ endDate < date

theorem pastEnd_iff (rule : ScheduleRule) (date : LocalDate) :
    (rule.endDate.any fun endDate => compareDate date endDate > 0) = true ↔ PastEnd rule date := by
  rw [Option.any_eq_true]
  simp only [decide_eq_true_eq, compareDate_pos_iff, PastEnd]

instance (rule : ScheduleRule) (date : LocalDate) : Decidable (PastEnd rule date) :=
  decidable_of_iff _ (pastEnd_iff rule date)

theorem PastEnd.mono {a b : LocalDate} (h : PastEnd rule a) (hab : a ≤ b) : PastEnd rule b := by
  obtain ⟨endDate, hend, hlt⟩ := h
  exact ⟨endDate, hend, hlt.trans_le hab⟩

/-- The occurrences on the dates from `x` on. -/
def occurrencesFrom (rule : ScheduleRule) (x : LocalDate) : Set ℤ :=
  {s | ∃ k, ∃ d ∈ periodDates rule k, x ≤ d ∧ ¬ PastEnd rule d ∧ s = occurrenceTime rule d}

/-- The date `x` is one of the rule, and its occurrence has passed: the loop goes round again. -/
def Retries (rule : ScheduleRule) (t : ℤ) (x : LocalDate) : Prop :=
  (∃ k, x ∈ periodDates rule k) ∧ ¬ PastEnd rule x ∧ occurrenceTime rule x < t

/-- The years of the candidates fit in each round from `x` on. -/
def RoundsFit (rule : ScheduleRule) (t : ℤ) (x : LocalDate) : Prop :=
  SearchFits rule x ∧ (Retries rule t x → SearchFits rule x.next)

/-- One round over a date: past the end it finds nothing, a passed date sends it to the next day. -/
theorem searchOccurrence_of_date {x date : LocalDate}
    (hdate : nextDateOnOrAfter rule rule.startDate x = some date) (hd : date.Valid)
    (hstart : rule.startDate ≤ date) (n : ℕ) :
    searchOccurrence rule t (n + 1) x =
      if PastEnd rule date then none
      else if occurrenceTime rule date < t then
        (addDaysChecked date 1).bind (searchOccurrence rule t n)
      else some (occurrenceTime rule date) := by
  have hneg : ¬ compareDate date rule.startDate < 0 := by
    rw [compareDate_neg_iff]
    exact not_lt.2 hstart
  rw [searchOccurrence, hdate]
  dsimp only
  rw [if_neg hneg, occurrenceAt_eq hd]
  simp only [pastEnd_iff]
  cases addDaysChecked date 1 <;> rfl

/-- The date the search of `nextOccurrence` starts from. -/
def searchDay (rule : ScheduleRule) (t : ℤ) : LocalDate :=
  max rule.startDate (localDateFromUtc t)

theorem nextOccurrence_eq_search (hactive : rule.status = .active) :
    nextOccurrence rule t = searchOccurrence rule t kMaxDateSearchSteps (searchDay rule t) := by
  have hmax : ∀ d : LocalDate, (if compareDate rule.startDate d > 0 then rule.startDate else d) =
      max rule.startDate d := by
    intro d
    simp only [compareDate_pos_iff, max_def, ← not_lt, ite_not]
  simp only [nextOccurrence, hactive, ne_eq, not_true_eq_false, if_false, hmax]
  rfl

section Rounds

variable {x : LocalDate} (hi : 1 ≤ rule.intervalVal)
  (hok : (validateFrequencyFields rule).ok = true) (hx : x.Valid)

include hi hok hx

/-- The years of a search fit only if the year it starts from does. -/
theorem SearchFits.year_le (hfit : SearchFits rule x) : x.year ≤ intMax := by
  have hunit := periodUnit_le_periodAt hi (le_refl (firstPeriod rule x))
  have hyear : ∀ d : LocalDate, x ≤ d → d.year ≤ intMax → x.year ≤ intMax := by
    intro d hle hd
    rcases hle.lt_or_eq with hlt | rfl
    · rw [Date.lt_iff] at hlt
      omega
    · exact hd
  have hfirst := hfit 0 (by decide) fun j hj => absurd hj (Nat.not_lt_zero j)
  by_cases hf : rule.freqType = .weekly
  · by_cases hlate : (datesFrom rule x (firstPeriod rule x)).Nonempty
    · obtain ⟨d, hd, hle⟩ := hlate
      exact hyear d hle (hfirst d hd.1 hd.2.1 fun _ => hd.2.2)
    · -- the whole week has passed, so the next week is reached
      have hnext := hfit 1 (by decide) fun j hj => by
        rw [Nat.lt_one_iff.1 hj]
        exact Set.not_nonempty_iff_eq_empty.1 hlate
      obtain ⟨d, hd⟩ := weekly_dense hf hok (firstPeriod rule x + 1)
      have hmem := (datesFrom_above hi hx (Nat.lt_succ_self (firstPeriod rule x))).symm ▸ hd
      exact hyear d hmem.2 (hnext d hd.1 hd.2.1 fun _ => hd.2.2)
  · rcases hunit.lt_or_eq with hlt | heq
    · obtain ⟨d, hd, hdu⟩ := exists_periodUnit rule.freqType (periodAt rule (firstPeriod rule x))
      exact hyear d (lt_of_periodUnit_lt _ hx hd (by rw [hdu]; exact hlt)).le
        (hfirst d hd hdu fun h => absurd h hf)
    · exact hfirst x hx heq fun h => absurd h hf

/-- The date a search finds lies in a year that fits. -/
theorem SearchFits.least_year_le (hfit : SearchFits rule x) {date : LocalDate}
    (hleast : IsLeast {d | ∃ i, d ∈ datesFrom rule x i} date) : date.year ≤ intMax := by
  obtain ⟨⟨n, hmem, hxd⟩, hmin⟩ := hleast
  have hge : firstPeriod rule x ≤ n := by
    by_contra hlt
    have hin : date ∈ datesFrom rule x n := ⟨hmem, hxd⟩
    rw [datesFrom_below hi hx (by omega)] at hin
    exact hin
  obtain ⟨i, rfl⟩ := Nat.exists_eq_add_of_le hge
  have hempty : ∀ j < i, datesFrom rule x (firstPeriod rule x + j) = ∅ := by
    intro j hj
    apply Set.eq_empty_of_forall_notMem
    intro b hb
    have hlt := periodDates_lt hi (show firstPeriod rule x + j < _ + i by omega) hb.1 hmem
    exact absurd (hmin ⟨_, hb⟩) (not_le.2 hlt)
  -- the loop gives up only where the rule has no dates at all
  have h64 : i < kMaxDateSearchSteps := by
    by_contra hfar
    obtain ⟨j, hj, hdates⟩ := periodDates_dense hok ⟨date, hmem⟩ (firstPeriod rule x + 1)
    unfold kMaxDateSearchSteps at hfar
    have hnone := hempty (1 + j) (by omega)
    rw [datesFrom_above hi hx (by omega), ← add_assoc] at hnone
    rw [hnone] at hdates
    exact Set.not_nonempty_empty hdates
  exact hfit i h64 hempty date hmem.1 hmem.2.1 fun _ => hmem.2.2

variable (hclock : rule.startTime.InClockRange) (hs : rule.startDate.Valid)
  (hpos : 1 ≤ rule.startDate.year) (hle : rule.startDate ≤ x)

include hclock hs hpos hle

/-- From the local day of `t` on, a round whose own date has not passed is the last. -/
theorem searchOccurrence_isFirst_last (hday : localDay t ≤ x) (hfit : SearchFits rule x)
    (hlast : ¬ Retries rule t x) (n : ℕ) :
    IsFirst {s | s ∈ occurrencesFrom rule x ∧ t ≤ s} (searchOccurrence rule t (n + 1) x) := by
  have hfirst := nextDateOnOrAfter_isFirst hi hs hpos hx hle hfit hok
  cases hdate : nextDateOnOrAfter rule rule.startDate x with
  | none =>
      rw [hdate, isFirst_none] at hfirst
      rw [searchOccurrence, hdate]
      apply Set.eq_empty_of_forall_notMem
      rintro s ⟨⟨k, d, hd, hxd, -⟩, -⟩
      have hmem : d ∈ {d | ∃ i, d ∈ datesFrom rule x i} := ⟨k, hd, hxd⟩
      rw [hfirst] at hmem
      exact hmem
  | some date =>
      rw [hdate, isFirst_some] at hfirst
      obtain ⟨⟨i, hmem, hxd⟩, hmin⟩ := hfirst
      rw [searchOccurrence_of_date hdate hmem.1 (hle.trans hxd)]
      by_cases hpast : PastEnd rule date
      · -- the first date lies behind the end date, and so do all others
        rw [if_pos hpast]
        apply Set.eq_empty_of_forall_notMem
        rintro s ⟨⟨k, d, hd, hxd, hend, -⟩, -⟩
        exact hend (hpast.mono (hmin ⟨k, hd, hxd⟩))
      · have hts : t ≤ occurrenceTime rule date := by
          by_contra hearly
          have hback := le_localDay_of_lt hclock hmem.1 (not_le.1 hearly)
          obtain rfl := le_antisymm (hback.trans hday) hxd
          exact hlast ⟨⟨i, hmem⟩, hpast, not_le.1 hearly⟩
        rw [if_neg hpast, if_neg (not_lt.2 hts)]
        refine ⟨⟨⟨i, date, hmem, hxd, hpast, rfl⟩, hts⟩, ?_⟩
        rintro s ⟨⟨k, d, hd, hxd', -, rfl⟩, -⟩
        exact (occurrenceTime_le_iff hmem.1 hd.1).2 (hmin ⟨k, hd, hxd'⟩)

/-- The retry loop from the local day of `t` on finds the first occurrence in its two rounds. -/
theorem searchOccurrence_isFirst (hday : localDay t ≤ x) (hfit : RoundsFit rule t x) (n : ℕ) :
    IsFirst {s | s ∈ occurrencesFrom rule x ∧ t ≤ s} (searchOccurrence rule t (n + 2) x) := by
  by_cases hretry : Retries rule t x
  · have hfit' := hfit.2 hretry
    obtain ⟨⟨k, hmem⟩, hpast, hearly⟩ := hretry
    have hfirst := nextDateOnOrAfter_isFirst hi hs hpos hx hle hfit.1 hok
    have hdate : nextDateOnOrAfter rule rule.startDate x = some x :=
      (hfirst.eq_some_iff x).2 ⟨⟨k, hmem, le_rfl⟩, fun d hd => hd.choose_spec.2⟩
    have hlow := dayNumber_ge hs hpos
    have hmono := (dayNumber_le_iff hs hx).2 hle
    have hnext := lt_next hx
    have hlast : ¬ Retries rule t x.next := by
      rintro ⟨⟨k, hmem⟩, -, hearly⟩
      have hback := le_localDay_of_lt hclock hmem.1 hearly
      exact absurd (hback.trans hday) (not_le.2 hnext)
    rw [searchOccurrence_of_date hdate hx hle, if_neg hpast, if_pos hearly,
      addDaysChecked_one hx (by omega) (hfit'.year_le hi hok hx.next), Option.bind_some]
    -- the date `x` itself has passed
    have hset : {s | s ∈ occurrencesFrom rule x ∧ t ≤ s} =
        {s | s ∈ occurrencesFrom rule x.next ∧ t ≤ s} := by
      ext s
      constructor
      · rintro ⟨⟨j, d, hd, hxd, hend, rfl⟩, hts⟩
        refine ⟨⟨j, d, hd, ?_, hend, rfl⟩, hts⟩
        rcases hxd.lt_or_eq with hlt | rfl
        · exact next_le_of_lt hx hd.1 hlt
        · exact absurd hearly (not_lt.2 hts)
      · rintro ⟨⟨j, d, hd, hxd, hend, rfl⟩, hts⟩
        exact ⟨⟨j, d, hd, hnext.le.trans hxd, hend, rfl⟩, hts⟩
    rw [hset]
    exact searchOccurrence_isFirst_last hi hok hx.next hclock hs hpos (hle.trans hnext.le)
      (hday.trans hnext.le) hfit' hlast n
  · exact searchOccurrence_isFirst_last hi hok hx hclock hs hpos hle hday hfit.1 hretry (n + 1)

end Rounds

/-! ## The candidate years of a search -/

/-- `x` is a threshold that loses no occurrence at or after `t`, at most one period behind the first
period of the search. -/
structure Threshold (rule : ScheduleRule) (t : ℤ) (x : LocalDate) : Prop where
  valid : x.Valid
  start_le : rule.startDate ≤ x
  near : firstPeriod rule x ≤ firstPeriod rule (max rule.startDate (localDay t)) + 1
  passed : ∀ j, ∀ d ∈ periodDates rule j, rule.startDate ≤ d → d < x → occurrenceTime rule d < t

/-- The search starts at the later of the start date and the local day of `t`. -/
theorem threshold_first (hs : rule.startDate.Valid) (hclock : rule.startTime.InClockRange) :
    Threshold rule t (max rule.startDate (localDay t)) := by
  refine ⟨?_, le_max_left _ _, Nat.le_succ _, ?_⟩
  · rcases max_choice rule.startDate (localDay t) with h | h <;> rw [h]
    · exact hs
    · exact ofDayNumber_valid _
  · intro j d hd hle hlt
    rcases lt_max_iff.1 hlt with h | h
    · exact absurd hle (not_le.2 h)
    · exact occurrenceTime_lt_of_lt hclock hd.1 h

section Thresholds

variable (hi : 1 ≤ rule.intervalVal) (hclock : rule.startTime.InClockRange)
  (hs : rule.startDate.Valid) (hfit : CandidateYearsFit rule t)

include hfit

/-- The periods that a search from the threshold reaches all fit. -/
theorem Threshold.periodFits {x : LocalDate} (hx : Threshold rule t x) {i : ℕ}
    (hnear : i ≤ firstPeriod rule (max rule.startDate (localDay t)) + 64)
    (hempty : ∀ j < i, ∀ d ∈ periodDates rule j, d < x) : PeriodFits rule i := by
  refine hfit i hnear fun j hj d hd hle => hx.passed j d hd hle (hempty j hj d hd)

include hi

theorem Threshold.searchFits {x : LocalDate} (hx : Threshold rule t x) : SearchFits rule x := by
  intro i hi64 hempty
  have hnear := hx.near
  unfold kMaxDateSearchSteps at hi64
  refine hx.periodFits hfit (by omega) fun j hj d hd => ?_
  by_contra hle
  have hmem : d ∈ datesFrom rule x j := ⟨hd, not_lt.1 hle⟩
  by_cases hjk : j < firstPeriod rule x
  · rw [datesFrom_below hi hx.valid hjk] at hmem
    exact hmem
  · have := hempty (j - firstPeriod rule x) (by omega)
    rw [Nat.add_sub_cancel' (not_lt.1 hjk)] at this
    rw [this] at hmem
    exact hmem

omit hfit in
/-- The threshold moves to the next day when the occurrence of its own day has passed. -/
theorem Threshold.next {x : LocalDate} (hx : Threshold rule t x)
    (hday : x = max rule.startDate (localDay t)) (hpassed : occurrenceTime rule x < t) :
    Threshold rule t x.next where
  valid := hx.valid.next
  start_le := hx.start_le.trans (lt_next hx.valid).le
  near := by
    rw [← hday]
    exact firstPeriod_le_succ hi (periodUnit_next_le _ hx.valid)
  passed := by
    intro j d hd hle hlt
    have hdx : d ≤ x := by
      by_contra hn
      exact absurd (next_le_of_lt hx.valid hd.1 (not_le.1 hn)) (not_le.2 hlt)
    rcases hdx.lt_or_eq with hdx | rfl
    · exact hx.passed j d hd hle hdx
    · exact hpassed

include hclock hs

/-- What the years of the periods in reach say about the rounds of the loop. -/
theorem CandidateYearsFit.roundsFit : RoundsFit rule t (max rule.startDate (localDay t)) := by
  have hx := threshold_first (t := t) hs hclock
  refine ⟨hx.searchFits hi hfit, ?_⟩
  rintro ⟨-, -, hearly⟩
  exact (hx.next hi rfl hearly).searchFits hi hfit

end Thresholds

/-- Only dates from the threshold on are left at `t`. -/
theorem Threshold.occurrencesFrom_eq {x : LocalDate} (hx : Threshold rule t x) :
    {s | s ∈ occurrencesFrom rule x ∧ t ≤ s} = {s | s ∈ occurrences rule ∧ t ≤ s} := by
  ext s
  constructor
  · rintro ⟨⟨k, d, hd, hxd, hend, rfl⟩, hts⟩
    refine ⟨⟨k, d, hd, hx.start_le.trans hxd, ?_, rfl⟩, hts⟩
    intro endDate hendDate
    by_contra hlt
    exact hend ⟨endDate, hendDate, not_le.1 hlt⟩
  · rintro ⟨⟨k, d, hd, hle, hend, rfl⟩, hts⟩
    refine ⟨⟨k, d, hd, ?_, ?_, rfl⟩, hts⟩
    · by_contra hlt
      exact absurd hts (not_le.2 (hx.passed k d hd hle (not_le.1 hlt)))
    · rintro ⟨endDate, hendDate, hlt⟩
      exact absurd (hend endDate hendDate) (not_le.2 hlt)

/-- A generous bound on the years that makes every candidate fit. -/
theorem candidateYearsFit_of_le (hi : 1 ≤ rule.intervalVal) (hs : rule.startDate.Valid)
    (hbound : (max rule.startDate (localDay t)).year + 65 * rule.intervalVal + 1 ≤ intMax) :
    CandidateYearsFit rule t := by
  intro i hi64 _ d hd hunit _
  set x := max rule.startDate (localDay t) with hx
  have hvalid : x.Valid := by
    rcases max_choice rule.startDate (localDay t) with h | h
    · rw [hx, h]
      exact hs
    · rw [hx, h]
      exact ofDayNumber_valid _
  -- the unit of `d` exceeds that of `x` by at most 65 intervals
  have hclose : periodUnit rule.freqType d ≤ periodUnit rule.freqType x + 65 * rule.intervalVal := by
    have hstep : ∀ n j : ℕ, periodAt rule (n + j) = periodAt rule n + j * rule.intervalVal := by
      intro n j
      unfold periodAt
      push_cast
      ring
    rw [hunit]
    rcases Nat.lt_or_ge i (firstPeriod rule x) with hlt | hge
    · have := periodAt_lt_of_lt_firstPeriod hi hlt
      omega
    · obtain ⟨j, rfl⟩ := Nat.exists_eq_add_of_le hge
      have hj : (j : ℤ) * rule.intervalVal ≤ 64 * rule.intervalVal :=
        mul_le_mul_of_nonneg_right (by omega) (by omega)
      rw [hstep]
      rcases Nat.eq_zero_or_pos (firstPeriod rule x) with h0 | hpos
      · have hle := periodUnit_mono rule.freqType hs hvalid (le_max_left _ _)
        rw [h0]
        simp only [periodAt]
        omega
      · have hprev := periodAt_lt_of_lt_firstPeriod hi (Nat.sub_lt hpos Nat.one_pos)
        have := hstep (firstPeriod rule x - 1) 1
        rw [Nat.sub_add_cancel hpos] at this
        omega
  suffices d.year ≤ x.year + 65 * rule.intervalVal + 1 by omega
  by_contra hfar
  have h1 := yearStart_le_dayNumber hd
  have h2 := dayNumber_lt_yearStart_succ hvalid
  have h3 := yearStart_le_of_le (show x.year + 1 ≤ d.year by omega)
  have h4 := hd.one_le_month
  have h5 := hvalid.month_le
  cases hf : rule.freqType <;> simp only [hf, periodUnit] at hclose <;> omega

/-- **Exact recurrence semantics.** For an active, accepted rule whose start date exists and lies in
1970 or later, `nextOccurrence` returns the least occurrence at or after `t`, and `none` exactly if
there is no such occurrence. -/
theorem nextOccurrence_eq_iff_isLeast (rule : ScheduleRule) (t : ℤ) (hactive : rule.status = .active)
    (hok : (validateRuleFields rule).ok = true) (hs : rule.startDate.Valid)
    (h1970 : 1970 ≤ rule.startDate.year) (ht : -kTimezoneOffsetSeconds ≤ t)
    (hfit : CandidateYearsFit rule t) :
    (∀ s, nextOccurrence rule t = some s ↔ IsLeast {s | s ∈ occurrences rule ∧ t ≤ s} s) ∧
      (nextOccurrence rule t = none ↔ ¬ ∃ s ∈ occurrences rule, t ≤ s) := by
  obtain ⟨-, hi, hfreq, hclock⟩ := validateRuleFields_ok hok
  have hrange := (validateClockFields_ok hclock).1
  have hfirst : IsFirst {s | s ∈ occurrences rule ∧ t ≤ s} (nextOccurrence rule t) := by
    have hx := threshold_first (t := t) hs hrange
    have hrounds := hfit.roundsFit hi hrange hs
    have hyear := hrounds.1.year_le hi hfreq hx.valid
    have hday : (localDay t).year ≤ intMax := by
      rcases (le_max_right rule.startDate (localDay t)).lt_or_eq with h | h
      · rw [Date.lt_iff] at h
        omega
      · rwa [← h] at hyear
    have hsearch : searchDay rule t = max rule.startDate (localDay t) := by
      rw [searchDay, localDateFromUtc_eq ht hday]
    rw [nextOccurrence_eq_search hactive, hsearch, ← hx.occurrencesFrom_eq]
    exact searchOccurrence_isFirst hi hfreq hx.valid hrange hs (by omega) hx.start_le
      (le_max_right _ _) hrounds 62
  refine ⟨hfirst.eq_some_iff, hfirst.eq_none_iff.trans ?_⟩
  rw [Set.eq_empty_iff_forall_notMem]
  constructor
  · rintro h ⟨s, hs', hts⟩
    exact h s ⟨hs', hts⟩
  · rintro h s ⟨hs', hts⟩
    exact h ⟨s, hs', hts⟩

/-- Every February 29 from the summer of 2026 on. -/
def leapDayRule : ScheduleRule :=
  { event := "e", freqType := .yearly, monthOfYear := some 2, dayOfMonth := some 29,
    startDate := ⟨2026, 8, 17⟩ }

theorem nextOccurrence_leapDayRule :
    nextOccurrence leapDayRule 0 = some 1835366400 ↔
      IsLeast {s | s ∈ occurrences leapDayRule ∧ 0 ≤ s} 1835366400 :=
  (nextOccurrence_eq_iff_isLeast leapDayRule 0 rfl (by decide) (by decide) (by decide) (by decide)
    (candidateYearsFit_of_le (by decide) (by decide) (by
      have hday : localDay 0 = ⟨1970, 1, 1⟩ := ofDayNumber_dayNumber (d := ⟨1970, 1, 1⟩) (by decide)
      rw [hday]
      decide))).1 _

example : nextOccurrence leapDayRule 0 = some 1835366400 := by decide +kernel

end VoiceLife
