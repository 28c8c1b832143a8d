import VoiceLife.Schedule.NextOccurrence

/-! # Moving the start date of a rule to its first occurrence

The services store a rule with `LocalDateFromUtc(first)` as its start date. The periods keep their phase
as long as that date lies on the grid of the old ones. It is the local day of `first` from 1970 on;
before, the quotient that rounds toward zero makes it the day after.
-/

namespace VoiceLife

open Gregorian CInt FirstHit

/-- The rule with another start date. -/
def ScheduleRule.startingOn (rule : ScheduleRule) (start : LocalDate) : ScheduleRule :=
  { rule with startDate := start }

/-- The rule as `create_schedule_rule` and `update_schedule_rule` store it. -/
def reanchored (rule : ScheduleRule) (first : ℤ) : ScheduleRule :=
  rule.startingOn (localDateFromUtc first)

/-! ## A start date on the grid -/

section Grid

variable {rule : ScheduleRule} {start : LocalDate} {K : ℕ}

variable (hi : 1 ≤ rule.intervalVal)
  (hgrid : periodUnit rule.freqType start = periodAt rule K)

include hgrid

theorem periodAt_startingOn (j : ℕ) : periodAt (rule.startingOn start) j = periodAt rule (K + j) := by
  show periodUnit rule.freqType start + j * rule.intervalVal = _
  rw [hgrid]
  unfold periodAt
  push_cast
  ring

theorem periodDates_startingOn (j : ℕ) :
    periodDates (rule.startingOn start) j = periodDates rule (K + j) := by
  ext d
  show d.Valid ∧ periodUnit rule.freqType d = periodAt (rule.startingOn start) j ∧ Matches rule d ↔ _
  rw [periodAt_startingOn hgrid]
  rfl

theorem datesFrom_startingOn (x : LocalDate) (j : ℕ) :
    datesFrom (rule.startingOn start) x j = datesFrom rule x (K + j) := by
  unfold datesFrom
  rw [periodDates_startingOn hgrid]

theorem periodFits_startingOn (j : ℕ) : PeriodFits (rule.startingOn start) j ↔ PeriodFits rule (K + j) := by
  unfold PeriodFits
  rw [periodAt_startingOn hgrid]
  rfl

variable {x : LocalDate} (hs : start.Valid) (hx : x.Valid) (hle : start ≤ x)

include hi hs hx hle

/-- Counted from either start date, the search begins with the same period. -/
theorem firstPeriod_startingOn : firstPeriod rule x = K + firstPeriod (rule.startingOn start) x := by
  have hmono := periodUnit_mono rule.freqType hs hx hle
  show ((periodUnit rule.freqType x - periodUnit rule.freqType rule.startDate +
      rule.intervalVal - 1) / rule.intervalVal).toNat =
    K + ((periodUnit rule.freqType x - periodUnit rule.freqType start +
      rule.intervalVal - 1) / rule.intervalVal).toNat
  rw [hgrid] at hmono ⊢
  unfold periodAt at hmono ⊢
  set u := periodUnit rule.freqType x
  set s := periodUnit rule.freqType rule.startDate
  have hshift : (u - s + rule.intervalVal - 1) / rule.intervalVal =
      (u - (s + K * rule.intervalVal) + rule.intervalVal - 1) / rule.intervalVal + K := by
    rw [← Int.add_mul_ediv_right _ _ (by omega : rule.intervalVal ≠ 0)]
    congr 1
    ring
  have hnonneg : 0 ≤ (u - (s + K * rule.intervalVal) + rule.intervalVal - 1) / rule.intervalVal :=
    Int.ediv_nonneg (by omega) (by omega)
  omega

theorem searchFits_startingOn : SearchFits (rule.startingOn start) x ↔ SearchFits rule x := by
  have hfirst := firstPeriod_startingOn hi hgrid hs hx hle
  unfold SearchFits
  simp only [hfirst, add_assoc, datesFrom_startingOn hgrid, periodFits_startingOn hgrid]

/-- The dates from `x` on are those of the old rule. -/
theorem exists_mem_periodDates_startingOn :
    (∃ k, x ∈ periodDates (rule.startingOn start) k) ↔ ∃ k, x ∈ periodDates rule k := by
  constructor
  · rintro ⟨k, hk⟩
    rw [periodDates_startingOn hgrid] at hk
    exact ⟨K + k, hk⟩
  · rintro ⟨k, hk⟩
    have hmono := periodUnit_mono rule.freqType hs hx hle
    have hK : K ≤ k := by
      by_contra hlt
      have := periodAt_strictMono hi (not_le.1 hlt)
      rw [← hgrid, ← hk.2.1] at this
      omega
    obtain ⟨j, rfl⟩ := Nat.exists_eq_add_of_le hK
    exact ⟨j, by rwa [periodDates_startingOn hgrid]⟩

theorem retries_startingOn (t : ℤ) : Retries (rule.startingOn start) t x ↔ Retries rule t x := by
  unfold Retries
  rw [exists_mem_periodDates_startingOn hi hgrid hs hx hle]
  rfl

theorem roundsFit_startingOn (t : ℤ) : RoundsFit (rule.startingOn start) t x ↔ RoundsFit rule t x := by
  unfold RoundsFit
  rw [searchFits_startingOn hi hgrid hs hx hle, retries_startingOn hi hgrid hs hx hle,
    searchFits_startingOn hi hgrid hs hx.next (hle.trans (lt_next hx).le)]

omit hx in
theorem occurrencesFrom_startingOn :
    occurrencesFrom (rule.startingOn start) x = occurrencesFrom rule x := by
  ext s
  have hdate : ∀ d : LocalDate, d.Valid → x ≤ d →
      ((∃ k, d ∈ periodDates (rule.startingOn start) k) ↔ ∃ k, d ∈ periodDates rule k) :=
    fun d hd hxd => exists_mem_periodDates_startingOn hi hgrid hs hd (hle.trans hxd)
  constructor
  · rintro ⟨k, d, hd, hxd, hend, rfl⟩
    obtain ⟨j, hj⟩ := (hdate d hd.1 hxd).1 ⟨k, hd⟩
    exact ⟨j, d, hj, hxd, hend, rfl⟩
  · rintro ⟨k, d, hd, hxd, hend, rfl⟩
    obtain ⟨j, hj⟩ := (hdate d hd.1 hxd).2 ⟨k, hd⟩
    exact ⟨j, d, hj, hxd, hend, rfl⟩

end Grid

/-! ## The date that the services compute -/

/-- The quotient of `LocalFromUnix` rounds toward zero. -/
noncomputable def roundedDay (t : ℤ) : LocalDate :=
  ofDayNumber ((t + kTimezoneOffsetSeconds).tdiv 86400)

/-- The years of a search from `t` fit: that of the local date, and those of the candidates. -/
structure PlannerFits (rule : ScheduleRule) (t : ℤ) : Prop where
  year_ge : -2147483248 ≤ (roundedDay t).year
  year_le : (roundedDay t).year ≤ intMax
  rounds : RoundsFit rule t (searchDay rule t)

theorem roundedDay_valid (t : ℤ) : (roundedDay t).Valid := ofDayNumber_valid _

theorem roundedDay_mono {s t : ℤ} (h : s ≤ t) : roundedDay s ≤ roundedDay t := by
  apply (dayNumber_le_iff (roundedDay_valid s) (roundedDay_valid t)).1
  unfold roundedDay
  rw [dayNumber_ofDayNumber, dayNumber_ofDayNumber]
  exact Int.tdiv_le_tdiv (by norm_num) (by omega)

theorem localDay_le_roundedDay (t : ℤ) : localDay t ≤ roundedDay t := by
  apply (dayNumber_le_iff (ofDayNumber_valid _) (roundedDay_valid t)).1
  unfold roundedDay
  rw [dayNumber_ofDayNumber, dayNumber_ofDayNumber]
  by_cases h : 0 ≤ t + kTimezoneOffsetSeconds
  · rw [Int.tdiv_eq_ediv_of_nonneg h]
  · rw [← neg_neg (t + kTimezoneOffsetSeconds), Int.neg_tdiv, Int.tdiv_eq_ediv_of_nonneg (by omega)]
    omega

theorem localDateFromUtc_eq_roundedDay {t : ℤ} (h0 : -2147483248 ≤ (roundedDay t).year)
    (h1 : (roundedDay t).year ≤ intMax) : localDateFromUtc t = roundedDay t := by
  have hcivil := civilFromDays_dayNumber (roundedDay_valid t) h0 h1
  unfold roundedDay at hcivil ⊢
  rw [dayNumber_ofDayNumber] at hcivil
  exact hcivil

section Occurrence

variable {rule : ScheduleRule} {d : LocalDate} (hclock : rule.startTime.InClockRange)
  (hd : d.Valid)

include hclock hd

theorem localDay_occurrenceTime : localDay (occurrenceTime rule d) = d := by
  have hrange := localTimeToSeconds_range hclock
  apply dayNumber_injective (ofDayNumber_valid _) hd
  rw [dayNumber_ofDayNumber, occurrenceTime, sub_add_cancel]
  omega

/-- From 1970 on, or at midnight, the rounded day of an occurrence is its date. -/
theorem roundedDay_occurrenceTime
    (h : 0 ≤ occurrenceTime rule d + kTimezoneOffsetSeconds ∨ rule.startTime = ⟨0, 0, 0⟩) :
    roundedDay (occurrenceTime rule d) = d := by
  have hrange := localTimeToSeconds_range hclock
  apply dayNumber_injective (roundedDay_valid _) hd
  unfold roundedDay
  rw [dayNumber_ofDayNumber]
  rcases h with h | h
  · rw [Int.tdiv_eq_ediv_of_nonneg h, occurrenceTime, sub_add_cancel]
    omega
  · rw [occurrenceTime, sub_add_cancel, h]
    show (dayNumber d * 86400 + 0).tdiv 86400 = _
    rw [add_zero]
    exact Int.mul_tdiv_cancel _ (by norm_num)

/-- Before 1970 any later time of day rounds up to the next day. -/
theorem roundedDay_occurrenceTime_next (hneg : occurrenceTime rule d + kTimezoneOffsetSeconds < 0)
    (hne : localTimeToSeconds rule.startTime ≠ 0) :
    roundedDay (occurrenceTime rule d) = d.next := by
  have hrange := localTimeToSeconds_range hclock
  apply dayNumber_injective (roundedDay_valid _) hd.next
  unfold roundedDay
  rw [dayNumber_ofDayNumber, dayNumber_next hd,
    ← neg_neg (occurrenceTime rule d + kTimezoneOffsetSeconds), Int.neg_tdiv,
    Int.tdiv_eq_ediv_of_nonneg (by omega)]
  rw [occurrenceTime, sub_add_cancel] at hneg ⊢
  omega

end Occurrence

/-! ## The searches of both rules -/

section Searches

variable {rule : ScheduleRule} {t : ℤ} (hfits : PlannerFits rule t)
  (hok : (validateRuleFields rule).ok = true) (hs : rule.startDate.Valid)
  (hpos : 1 ≤ rule.startDate.year)

include hfits

theorem PlannerFits.searchDay_eq : searchDay rule t = max rule.startDate (roundedDay t) := by
  rw [searchDay, localDateFromUtc_eq_roundedDay hfits.year_ge hfits.year_le]

include hs

theorem PlannerFits.searchDay_valid : (searchDay rule t).Valid := by
  rw [hfits.searchDay_eq]
  rcases max_choice rule.startDate (roundedDay t) with h | h <;> rw [h]
  · exact hs
  · exact roundedDay_valid t

include hok hpos

theorem PlannerFits.isFirst (hactive : rule.status = .active) :
    IsFirst {s | s ∈ occurrencesFrom rule (searchDay rule t) ∧ t ≤ s} (nextOccurrence rule t) := by
  obtain ⟨-, hi, hfreq, hclock⟩ := validateRuleFields_ok hok
  have hrange := (validateClockFields_ok hclock).1
  have hday : localDay t ≤ searchDay rule t := by
    rw [hfits.searchDay_eq]
    exact (localDay_le_roundedDay t).trans (le_max_right _ _)
  rw [nextOccurrence_eq_search hactive]
  exact searchOccurrence_isFirst hi hfreq (hfits.searchDay_valid hs) hrange hs hpos
    (le_max_left _ _) hday hfits.rounds 62

/-- The date of the occurrence that a search returns. -/
theorem exists_date_of_nextOccurrence {first : ℤ} (hfirst : nextOccurrence rule t = some first) :
    ∃ k, ∃ d ∈ periodDates rule k, rule.startDate ≤ d ∧ ¬ PastEnd rule d ∧ d.year ≤ intMax ∧
      first = occurrenceTime rule d := by
  obtain ⟨-, hi, hfreq, hclock⟩ := validateRuleFields_ok hok
  have hrange := (validateClockFields_ok hclock).1
  have hactive : rule.status = .active := by
    by_contra hinactive
    rw [nextOccurrence, if_pos hinactive] at hfirst
    cases hfirst
  have hleast := hfits.isFirst hok hs hpos hactive
  rw [hfirst] at hleast
  obtain ⟨⟨⟨k, d, hd, hxd, hend, rfl⟩, hts⟩, hmin⟩ := hleast
  set x := searchDay rule t with hx
  have hxv : x.Valid := hfits.searchDay_valid hs
  have hday : localDay t ≤ x := by
    rw [hx, hfits.searchDay_eq]
    exact (localDay_le_roundedDay t).trans (le_max_right _ _)
  refine ⟨k, d, hd, (le_max_left _ _).trans hxd, hend, ?_, rfl⟩
  -- `d` is the least date of the round that returns it, from `y` on
  have hround : ∀ y : LocalDate, y.Valid → SearchFits rule y → y ≤ d →
      (∀ j, ∀ d' ∈ periodDates rule j, y ≤ d' → ¬ PastEnd rule d' →
        d' ∈ {d' | x ≤ d'} ∧ t ≤ occurrenceTime rule d') → d.year ≤ intMax := by
    intro y hy hfit hyd hlate
    apply hfit.least_year_le hi hfreq hy
    refine ⟨⟨k, hd, hyd⟩, ?_⟩
    rintro d' ⟨j, hd', hyd'⟩
    by_contra hlt
    have hend' : ¬ PastEnd rule d' := fun h => hend (h.mono (not_le.1 hlt).le)
    obtain ⟨hxd', hts'⟩ := hlate j d' hd' hyd' hend'
    exact hlt ((occurrenceTime_le_iff hd.1 hd'.1).1 (hmin ⟨⟨j, d', hd', hxd', hend', rfl⟩, hts'⟩))
  by_cases hretry : Retries rule t x
  · have hnext := lt_next hxv
    have hlt : x < d := by
      rcases hxd.lt_or_eq with hlt | rfl
      · exact hlt
      · exact absurd hts (not_le.2 hretry.2.2)
    apply hround x.next hxv.next (hfits.rounds.2 hretry) (next_le_of_lt hxv hd.1 hlt)
    intro j d' hd' hxd' _
    refine ⟨hnext.le.trans hxd', ?_⟩
    by_contra hearly
    have hback := le_localDay_of_lt hrange hd'.1 (not_le.1 hearly)
    exact absurd (hback.trans hday) (not_le.2 (hnext.trans_le hxd'))
  · apply hround x hxv hfits.rounds.1 hxd
    intro j d' hd' hxd' hend'
    refine ⟨hxd', ?_⟩
    by_contra hearly
    have hback := le_localDay_of_lt hrange hd'.1 (not_le.1 hearly)
    obtain rfl := le_antisymm (hback.trans hday) hxd'
    exact hretry ⟨⟨j, hd'⟩, hend', not_le.1 hearly⟩

/-- A start date on the grid, not after the day of the search, changes nothing. -/
theorem nextOccurrence_startingOn_eq {start : LocalDate} {K : ℕ}
    (hgrid : periodUnit rule.freqType start = periodAt rule K) (hstart : start.Valid)
    (hle : rule.startDate ≤ start) (hday : start ≤ roundedDay t) :
    nextOccurrence (rule.startingOn start) t = nextOccurrence rule t := by
  obtain ⟨-, hi, -, -⟩ := validateRuleFields_ok hok
  by_cases hactive : rule.status = .active
  · have hx : searchDay rule t = roundedDay t := by
      rw [hfits.searchDay_eq]
      exact max_eq_right (hle.trans hday)
    have hx' : searchDay (rule.startingOn start) t = roundedDay t := by
      rw [searchDay, localDateFromUtc_eq_roundedDay hfits.year_ge hfits.year_le]
      exact max_eq_right hday
    have hrounds := hfits.rounds
    rw [hx] at hrounds
    have hfits' : PlannerFits (rule.startingOn start) t := by
      refine ⟨hfits.year_ge, hfits.year_le, ?_⟩
      rw [hx']
      exact (roundsFit_startingOn hi hgrid hstart (roundedDay_valid t) hday t).2 hrounds
    have hpos' : 1 ≤ start.year := by
      rcases hle.lt_or_eq with hlt | heq
      · rw [Date.lt_iff] at hlt
        omega
      · rwa [← heq]
    have hfirst := hfits.isFirst hok hs hpos hactive
    have hfirst' := hfits'.isFirst hok hstart hpos' hactive
    rw [hx', occurrencesFrom_startingOn hi hgrid hstart hday] at hfirst'
    rw [hx] at hfirst
    exact hfirst'.unique hfirst
  · have hactive' : (rule.startingOn start).status ≠ .active := hactive
    rw [nextOccurrence, nextOccurrence, if_pos hactive, if_pos hactive']

end Searches

/-! ## When the phase is kept -/

/-- No date of either rule is left after `day`, wherever both searches fit. -/
def NothingLeft (rule rule' : ScheduleRule) (day : LocalDate) : Prop :=
  ∀ x : LocalDate, x.Valid → day < x → SearchFits rule x → SearchFits rule' x →
    occurrencesFrom rule x = ∅ ∧ occurrencesFrom rule' x = ∅

/-- The stored start date is the local day of `first`, or it stays on the grid in spite of the day
it is late, or it no longer matters. -/
def KeepsPhase (rule : ScheduleRule) (first : ℤ) : Prop :=
  0 ≤ first + kTimezoneOffsetSeconds ∨ rule.startTime = ⟨0, 0, 0⟩ ∨ rule.intervalVal = 1 ∨
    periodUnit rule.freqType (localDay first).next = periodUnit rule.freqType (localDay first) ∨
    NothingLeft rule (reanchored rule first) (localDay first)

/-- A unit that is not before the first lies on the grid of an interval of one. -/
theorem exists_periodAt_of_one {rule : ScheduleRule} (h : rule.intervalVal = 1) {d : LocalDate}
    (hs : rule.startDate.Valid) (hd : d.Valid) (hle : rule.startDate ≤ d) :
    ∃ K, periodUnit rule.freqType d = periodAt rule K := by
  have hmono := periodUnit_mono rule.freqType hs hd hle
  refine ⟨(periodUnit rule.freqType d - periodUnit rule.freqType rule.startDate).toNat, ?_⟩
  unfold periodAt
  rw [h]
  omega

/-- One unit behind the grid, no date belongs to both rules. -/
theorem not_mem_both {rule : ScheduleRule} (hi : 2 ≤ rule.intervalVal) {start d : LocalDate}
    {k a b : ℕ} (hunit : periodUnit rule.freqType start = periodAt rule k + 1)
    (hd : d ∈ periodDates rule a) (hd' : d ∈ periodDates (rule.startingOn start) b) : False := by
  have h := hd.2.1.symm.trans hd'.2.1
  have hb : periodAt (rule.startingOn start) b =
      periodUnit rule.freqType start + b * rule.intervalVal := rfl
  rw [hb, hunit] at h
  unfold periodAt at h
  have hone : rule.intervalVal * ((a : ℤ) - k - b) = 1 := by linarith
  have := Int.le_of_dvd (by norm_num) (Dvd.intro _ hone)
  omega

section Reanchored

variable {rule : ScheduleRule} {d : LocalDate} {k : ℕ} (hok : (validateRuleFields rule).ok = true)
  (hs : rule.startDate.Valid) (hpos : 1 ≤ rule.startDate.year) (hd : d ∈ periodDates rule k)
  (hle : rule.startDate ≤ d) (hyear : d.year ≤ intMax)

include hok hpos hd hle hyear

/-- The stored start date is the date of the occurrence or the day after it. -/
theorem localDateFromUtc_occurrenceTime :
    (0 ≤ occurrenceTime rule d + kTimezoneOffsetSeconds ∨ rule.startTime = ⟨0, 0, 0⟩ →
        localDateFromUtc (occurrenceTime rule d) = d) ∧
      (¬ (0 ≤ occurrenceTime rule d + kTimezoneOffsetSeconds ∨ rule.startTime = ⟨0, 0, 0⟩) →
        localDateFromUtc (occurrenceTime rule d) = d.next) ∧
      localDateFromUtc (occurrenceTime rule d) = roundedDay (occurrenceTime rule d) := by
  obtain ⟨-, -, -, hclock⟩ := validateRuleFields_ok hok
  have hrange := (validateClockFields_ok hclock).1
  have hseconds := localTimeToSeconds_range hrange
  have hlow : 1 ≤ d.year := by
    rcases hle.lt_or_eq with hlt | heq
    · rw [Date.lt_iff] at hlt
      omega
    · rwa [← heq]
  by_cases hcond : 0 ≤ occurrenceTime rule d + kTimezoneOffsetSeconds ∨ rule.startTime = ⟨0, 0, 0⟩
  · have hday := roundedDay_occurrenceTime hrange hd.1 hcond
    have hlocal := localDateFromUtc_eq_roundedDay (t := occurrenceTime rule d)
      (by rw [hday]; omega) (by rw [hday]; exact hyear)
    exact ⟨fun _ => hlocal.trans hday, fun h => absurd hcond h, hlocal⟩
  · have hneg : occurrenceTime rule d + kTimezoneOffsetSeconds < 0 :=
      not_le.1 fun h => hcond (Or.inl h)
    have hne : localTimeToSeconds rule.startTime ≠ 0 :=
      fun h => hcond (Or.inr (localTimeToSeconds_eq_zero hrange h))
    have hday := roundedDay_occurrenceTime_next hrange hd.1 hneg hne
    -- before 1970 the day after is in range as well
    have hnext : 1 ≤ d.next.year ∧ d.next.year ≤ 1970 := by
      have hbefore : d.year < 1970 := by
        by_contra h
        have := (dayNumber_nonneg_iff hd.1).2 (not_lt.1 h)
        rw [occurrenceTime, sub_add_cancel] at hneg
        omega
      unfold Date.next
      split_ifs <;> dsimp only <;> omega
    have hlocal := localDateFromUtc_eq_roundedDay (t := occurrenceTime rule d)
      (by rw [hday]; omega) (by rw [hday]; unfold intMax; omega)
    exact ⟨fun h => absurd h hcond, fun _ => hlocal.trans hday, hlocal⟩

include hs

/-- Wherever the phase is kept, every later answer is. -/
theorem nextOccurrence_reanchored_of_keepsPhase (hkeep : KeepsPhase rule (occurrenceTime rule d))
    {t : ℤ} (ht : occurrenceTime rule d ≤ t) (hfits : PlannerFits rule t)
    (hfits' : PlannerFits (reanchored rule (occurrenceTime rule d)) t) :
    nextOccurrence (reanchored rule (occurrenceTime rule d)) t = nextOccurrence rule t := by
  obtain ⟨-, hi, -, hclock⟩ := validateRuleFields_ok hok
  have hrange := (validateClockFields_ok hclock).1
  obtain ⟨hsame, hlate, hrounded⟩ := localDateFromUtc_occurrenceTime hok hpos hd hle hyear
  have hlocal := localDay_occurrenceTime hrange hd.1
  have hnext := lt_next hd.1
  have hday : localDateFromUtc (occurrenceTime rule d) ≤ roundedDay t := by
    rw [hrounded]
    exact roundedDay_mono ht
  by_cases hcond : 0 ≤ occurrenceTime rule d + kTimezoneOffsetSeconds ∨ rule.startTime = ⟨0, 0, 0⟩
  · rw [reanchored]
    rw [hsame hcond] at hday ⊢
    exact nextOccurrence_startingOn_eq hfits hok hs hpos hd.2.1 hd.1 hle hday
  · rw [reanchored] at hfits' ⊢
    rw [hlate hcond] at hday hfits' ⊢
    have hlate' := hle.trans hnext.le
    rcases hkeep with h | h | h | h | h
    · exact absurd (Or.inl h) hcond
    · exact absurd (Or.inr h) hcond
    · obtain ⟨K, hK⟩ := exists_periodAt_of_one h hs hd.1.next hlate'
      exact nextOccurrence_startingOn_eq hfits hok hs hpos hK hd.1.next hlate' hday
    · rw [hlocal] at h
      exact nextOccurrence_startingOn_eq hfits hok hs hpos (h.trans hd.2.1) hd.1.next hlate' hday
    · -- both searches start behind the last date
      rw [NothingLeft, hlocal, reanchored, hlate hcond] at h
      by_cases hactive : rule.status = .active
      · have hx : searchDay rule t = roundedDay t := by
          rw [hfits.searchDay_eq]
          exact max_eq_right (hlate'.trans hday)
        have hx' : searchDay (rule.startingOn d.next) t = roundedDay t := by
          rw [hfits'.searchDay_eq]
          exact max_eq_right hday
        have hrounds := hfits.rounds.1
        have hrounds' := hfits'.rounds.1
        rw [hx] at hrounds
        rw [hx'] at hrounds'
        obtain ⟨hnone, hnone'⟩ := h (roundedDay t) (roundedDay_valid t) (hnext.trans_le hday) hrounds
          hrounds'
        have hpos' : 1 ≤ d.next.year := by
          rcases hlate'.lt_or_eq with hlt | heq
          · rw [Date.lt_iff] at hlt
            omega
          · rwa [← heq]
        have hfirst := hfits.isFirst hok hs hpos hactive
        have hfirst' := hfits'.isFirst hok hd.1.next hpos' hactive
        rw [hx, hnone] at hfirst
        rw [hx', hnone'] at hfirst'
        exact hfirst'.unique hfirst
      · have hactive' : (rule.startingOn d.next).status ≠ .active := hactive
        rw [nextOccurrence, nextOccurrence, if_pos hactive, if_pos hactive']

/-- Off the grid, a day on which both searches fit and one rule has a date left tells them apart. -/
theorem keepsPhase_of_nextOccurrence_eq (hactive : rule.status = .active)
    (heq : ∀ t, occurrenceTime rule d ≤ t → PlannerFits rule t →
      PlannerFits (reanchored rule (occurrenceTime rule d)) t →
        nextOccurrence (reanchored rule (occurrenceTime rule d)) t = nextOccurrence rule t) :
    KeepsPhase rule (occurrenceTime rule d) := by
  obtain ⟨-, hi, hfreq, hclock⟩ := validateRuleFields_ok hok
  have hrange := (validateClockFields_ok hclock).1
  have hseconds := localTimeToSeconds_range hrange
  have hlocal := localDay_occurrenceTime hrange hd.1
  obtain ⟨-, hlate, -⟩ := localDateFromUtc_occurrenceTime hok hpos hd hle hyear
  have hnext := lt_next hd.1
  by_contra hkeep
  simp only [KeepsPhase, not_or] at hkeep
  obtain ⟨hneg, hmidnight, hone, hunit, hleft⟩ := hkeep
  have hstart := hlate (by rintro (h | h); exacts [hneg h, hmidnight h])
  rw [reanchored, hstart, hlocal] at hleft
  rw [reanchored, hstart] at heq
  rw [hlocal] at hunit
  have hgrid : periodUnit rule.freqType d.next = periodAt rule k + 1 := by
    have hup := periodUnit_next_le rule.freqType hd.1
    have hmono := periodUnit_mono rule.freqType hd.1 hd.1.next hnext.le
    rw [← hd.2.1]
    omega
  apply hleft
  intro x hx hdx hfit hfit'
  have hnx := next_le_of_lt hd.1 hx hdx
  have hpos' : 1 ≤ d.next.year ∧ 1 ≤ x.year := by
    have h1 := hle.trans hnext.le
    have h2 := h1.trans hnx
    constructor
    · rcases h1.lt_or_eq with hlt | heq'
      · rw [Date.lt_iff] at hlt
        omega
      · rwa [← heq']
    · rcases h2.lt_or_eq with hlt | heq'
      · rw [Date.lt_iff] at hlt
        omega
      · rwa [← heq']
  -- the search from the midnight of `x` starts on `x` and keeps every date
  set t := dayNumber x * 86400 - kTimezoneOffsetSeconds with ht
  have hround : roundedDay t = x := by
    unfold roundedDay
    rw [ht, sub_add_cancel, Int.mul_tdiv_cancel _ (by norm_num), ofDayNumber_dayNumber hx]
  have hmidnight' : ∀ d' : LocalDate, d'.Valid → x ≤ d' → t ≤ occurrenceTime rule d' := by
    intro d' hd' hxd'
    have := (dayNumber_le_iff hx hd').2 hxd'
    unfold occurrenceTime
    omega
  have hts : occurrenceTime rule d ≤ t := by
    have := (dayNumber_lt_iff hd.1 hx).2 hdx
    unfold occurrenceTime
    omega
  have hyears : -2147483248 ≤ (roundedDay t).year ∧ (roundedDay t).year ≤ intMax := by
    rw [hround]
    exact ⟨by omega, hfit.year_le hi hfreq hx⟩
  have hsearch : ∀ start : LocalDate, start ≤ x → searchDay (rule.startingOn start) t = x := by
    intro start hsx
    rw [searchDay, localDateFromUtc_eq_roundedDay hyears.1 hyears.2, hround]
    exact max_eq_right hsx
  have hplanner : ∀ start : LocalDate, start ≤ x → SearchFits (rule.startingOn start) x →
      PlannerFits (rule.startingOn start) t := by
    intro start hsx hfit
    refine ⟨hyears.1, hyears.2, ?_⟩
    rw [hsearch start hsx]
    refine ⟨hfit, ?_⟩
    rintro ⟨-, -, hearly⟩
    exact absurd (hmidnight' x hx le_rfl) (not_le.2 hearly)
  have hfits : PlannerFits rule t :=
    hplanner rule.startDate ((hle.trans hnext.le).trans hnx) hfit
  have hfits' := hplanner d.next hnx hfit'
  have hfirst := hfits.isFirst hok hs hpos hactive
  have hfirst' := hfits'.isFirst hok hd.1.next hpos'.1 hactive
  rw [hsearch d.next hnx, heq t hts hfits hfits'] at hfirst'
  have hx' : searchDay rule t = x := hsearch rule.startDate ((hle.trans hnext.le).trans hnx)
  rw [hx'] at hfirst
  -- an answer of both would be the time of a date of both
  cases hresult : nextOccurrence rule t with
  | some s =>
      rw [hresult] at hfirst hfirst'
      obtain ⟨⟨⟨a, e, he, hxe, -, rfl⟩, -⟩, -⟩ := hfirst
      obtain ⟨⟨⟨b, e', he', hxe', -, hsame⟩, -⟩, -⟩ := hfirst'
      have hdate : e = e' := by
        apply le_antisymm
        · exact (occurrenceTime_le_iff he.1 he'.1).1 hsame.le
        · exact (occurrenceTime_le_iff he'.1 he.1).1 hsame.ge
      subst hdate
      exact (not_mem_both (by omega) hgrid he he').elim
  | none =>
      rw [hresult, isFirst_none] at hfirst hfirst'
      have hempty : ∀ start : LocalDate,
          {s | s ∈ occurrencesFrom (rule.startingOn start) x ∧ t ≤ s} = ∅ →
            occurrencesFrom (rule.startingOn start) x = ∅ := by
        intro start hnone
        apply Set.eq_empty_of_forall_notMem
        rintro s ⟨a, e, he, hxe, hend, rfl⟩
        have hmem : occurrenceTime rule e ∈
            {s | s ∈ occurrencesFrom (rule.startingOn start) x ∧ t ≤ s} :=
          ⟨⟨a, e, he, hxe, hend, rfl⟩, hmidnight' e he.1 hxe⟩
        rw [hnone] at hmem
        exact hmem
      exact ⟨hempty rule.startDate hfirst, hempty d.next hfirst'⟩

end Reanchored

/-- Moving the start date of a valid rule to `LocalDateFromUtc(first)` leaves every later answer as
it is just when the phase is kept, among the searches whose years fit. -/
theorem nextOccurrence_reanchored_iff (rule : ScheduleRule) (from_ first : ℤ)
    (hok : (validateRuleFields rule).ok = true) (hs : rule.startDate.Valid)
    (hpos : 1 ≤ rule.startDate.year) (hfits : PlannerFits rule from_)
    (hfirst : nextOccurrence rule from_ = some first) :
    (∀ t, first ≤ t → PlannerFits rule t → PlannerFits (reanchored rule first) t →
        nextOccurrence (reanchored rule first) t = nextOccurrence rule t) ↔
      KeepsPhase rule first := by
  have hactive : rule.status = .active := by
    by_contra hinactive
    rw [nextOccurrence, if_pos hinactive] at hfirst
    cases hfirst
  obtain ⟨k, d, hd, hle, -, hyear, rfl⟩ := exists_date_of_nextOccurrence hfits hok hs hpos hfirst
  constructor
  · exact keepsPhase_of_nextOccurrence_eq hok hs hpos hd hle hyear hactive
  · intro hkeep t ht hfits hfits'
    exact nextOccurrence_reanchored_of_keepsPhase hok hs hpos hd hle hyear hkeep ht hfits hfits'

/-- From 1970 on generous bounds make every year fit. -/
theorem plannerFits_of_le {rule : ScheduleRule} {t : ℤ} (hi : 1 ≤ rule.intervalVal)
    (hclock : rule.startTime.InClockRange) (hs : rule.startDate.Valid)
    (ht : 0 ≤ t + kTimezoneOffsetSeconds)
    (hbound : (max rule.startDate (localDay t)).year + 65 * rule.intervalVal + 1 ≤ intMax) :
    PlannerFits rule t := by
  have hday : roundedDay t = localDay t := by
    rw [roundedDay, localDay, Int.tdiv_eq_ediv_of_nonneg ht]
  have hlow : 1970 ≤ (localDay t).year := by
    apply (dayNumber_nonneg_iff (ofDayNumber_valid _)).1
    rw [dayNumber_ofDayNumber]
    omega
  have hhigh : (localDay t).year ≤ (max rule.startDate (localDay t)).year := by
    rcases (le_max_right rule.startDate (localDay t)).lt_or_eq with hlt | heq
    · rw [Date.lt_iff] at hlt
      omega
    · rw [← heq]
  have hyear : (roundedDay t).year ≤ intMax := by
    rw [hday]
    omega
  refine ⟨by rw [hday]; omega, hyear, ?_⟩
  rw [searchDay, localDateFromUtc_eq_roundedDay (by rw [hday]; omega) hyear, hday]
  exact (candidateYearsFit_of_le hi hs hbound).roundsFit hi hclock hs

/-- Nine in the morning of every other day. -/
def everyOtherDay (start : LocalDate) : ScheduleRule :=
  { event := "e", intervalVal := 2, startTime := ⟨9, 0, 0⟩, startDate := start }

theorem nextOccurrence_reanchored_everyOtherDay :
    nextOccurrence (everyOtherDay ⟨2026, 8, 17⟩) 1786928400 = some 1786928400 ∧
      nextOccurrence (reanchored (everyOtherDay ⟨2026, 8, 17⟩) 1786928400) 1786928400 =
        nextOccurrence (everyOtherDay ⟨2026, 8, 17⟩) 1786928400 := by
  have hday : localDay 1786928400 = ⟨2026, 8, 17⟩ :=
    ofDayNumber_dayNumber (d := ⟨2026, 8, 17⟩) (by decide)
  have hfits : ∀ date : LocalDate, date = ⟨2026, 8, 17⟩ →
      PlannerFits (everyOtherDay date) 1786928400 := by
    rintro date rfl
    apply plannerFits_of_le (by decide) (by decide) (by decide) (by decide)
    rw [hday]
    decide
  have hmoved : localDateFromUtc 1786928400 = ⟨2026, 8, 17⟩ := by decide +kernel
  refine ⟨by decide +kernel, ?_⟩
  exact (nextOccurrence_reanchored_iff (everyOtherDay ⟨2026, 8, 17⟩) 1786928400 1786928400
    (by decide) (by decide) (by decide) (hfits _ rfl) (by decide +kernel)).2 (Or.inl (by decide))
    1786928400 le_rfl (hfits _ rfl) (hfits _ hmoved)

/-- The same rule from the first day of 1960: its first occurrence moves the start date to the second
day, and from then on the rule keeps the even days instead of the odd ones. -/
theorem reanchored_everyOtherDay_1960 :
    (validateRuleFields (everyOtherDay ⟨1960, 1, 1⟩)).ok = true ∧
      nextOccurrence (everyOtherDay ⟨1960, 1, 1⟩) (-315648000) = some (-315615600) ∧
      nextOccurrence (everyOtherDay ⟨1960, 1, 1⟩) (-315615600) = some (-315442800) ∧
      nextOccurrence (reanchored (everyOtherDay ⟨1960, 1, 1⟩) (-315615600)) (-315615600) =
        some (-315529200) := by
  decide +kernel

end VoiceLife
