import VoiceLife.Lib.FirstHit
import VoiceLife.Schedule.RuleHelpers

/-! # The occurrences of a rule

What the planner is for: the set of instants at which a rule occurs, counted period by period from
its start date, without reference to how the planner finds them.
-/

namespace VoiceLife

open Gregorian CInt FirstHit

/-- The index of the day, Monday-based week, month or year that a date lies in. -/
def periodUnit (freq : Frequency) (d : LocalDate) : ℤ :=
  match freq with
  | .daily => dayNumber d
  | .weekly => (dayNumber d + 3) / 7
  | .monthly => d.year * 12 + (d.month - 1)
  | .yearly => d.year

/-- The date is one the rule selects within its period. -/
def Matches (rule : ScheduleRule) (d : LocalDate) : Prop :=
  match rule.freqType with
  | .daily => True
  | .weekly => ∃ mask, rule.weekdaysMask = some mask ∧
      mask.toNat.testBit (Gregorian.weekday (dayNumber d)).toNat = true
  | .monthly =>
      (rule.monthlyMode = some .lastDay ∧ d.day = monthLength d.year d.month) ∨
        (rule.monthlyMode = some .specificDay ∧ ∃ day, rule.dayOfMonth = some day ∧ d.day = day.toNat)
  | .yearly =>
      (∃ month, rule.monthOfYear = some month ∧ d.month = month.toNat) ∧
        ∃ day, rule.dayOfMonth = some day ∧ d.day = day.toNat

/-- The unit of the `k`-th period of the rule, counted from its start date. -/
def periodAt (rule : ScheduleRule) (k : ℕ) : ℤ :=
  periodUnit rule.freqType rule.startDate + k * rule.intervalVal

/-- The existing dates that the rule selects in its `k`-th period. -/
def periodDates (rule : ScheduleRule) (k : ℕ) : Set LocalDate :=
  {d | d.Valid ∧ periodUnit rule.freqType d = periodAt rule k ∧ Matches rule d}

/-- The rule's start time on a date, in UTC. -/
def occurrenceTime (rule : ScheduleRule) (d : LocalDate) : ℤ :=
  dayNumber d * 86400 + localTimeToSeconds rule.startTime - kTimezoneOffsetSeconds

/-- The occurrences: every selected date from the start date to the optional end date. -/
def occurrences (rule : ScheduleRule) : Set ℤ :=
  {t | ∃ k, ∃ d ∈ periodDates rule k, rule.startDate ≤ d ∧
    (∀ endDate, rule.endDate = some endDate → d ≤ endDate) ∧ t = occurrenceTime rule d}

/-- The local date of an instant. -/
noncomputable def localDay (t : ℤ) : LocalDate :=
  ofDayNumber ((t + kTimezoneOffsetSeconds) / 86400)

/-- The first period that does not lie wholly before the period of `d`. -/
def firstPeriod (rule : ScheduleRule) (d : LocalDate) : ℕ :=
  ((periodUnit rule.freqType d - periodUnit rule.freqType rule.startDate + rule.intervalVal - 1) /
    rule.intervalVal).toNat

/-- The years that the planner computes in period `i` fit in an `int`; of a week it only computes
the masked days. -/
def PeriodFits (rule : ScheduleRule) (i : ℕ) : Prop :=
  ∀ d : LocalDate, d.Valid → periodUnit rule.freqType d = periodAt rule i →
    (rule.freqType = .weekly → Matches rule d) → d.year ≤ intMax

/-- No candidate year leaves the range of `int`: the periods fit that a search from `t` can still
reach, because no earlier period has a selected date in time and at most 64 periods follow the
first one. -/
def CandidateYearsFit (rule : ScheduleRule) (t : ℤ) : Prop :=
  ∀ i ≤ firstPeriod rule (max rule.startDate (localDay t)) + 64,
    (∀ j < i, ∀ d ∈ periodDates rule j, rule.startDate ≤ d → occurrenceTime rule d < t) →
      PeriodFits rule i

/-! ## Periods in order -/

theorem periodUnit_mono (freq : Frequency) {a b : LocalDate} (ha : a.Valid) (hb : b.Valid)
    (h : a ≤ b) : periodUnit freq a ≤ periodUnit freq b := by
  have hday := (dayNumber_le_iff ha hb).2 h
  cases freq with
  | daily => exact hday
  | weekly => exact Int.ediv_le_ediv (by norm_num) (by omega)
  | monthly =>
      have := ha.month_le
      have := hb.one_le_month
      rcases h.lt_or_eq with hlt | rfl
      · simp only [periodUnit]
        rcases (Date.lt_iff a b).1 hlt with hy | ⟨hy, hm | ⟨hm, -⟩⟩ <;> omega
      · exact le_rfl
  | yearly =>
      rcases h.lt_or_eq with hlt | rfl
      · simp only [periodUnit]
        rcases (Date.lt_iff a b).1 hlt with hy | ⟨hy, -⟩ <;> omega
      · exact le_rfl

theorem lt_of_periodUnit_lt (freq : Frequency) {a b : LocalDate} (ha : a.Valid) (hb : b.Valid)
    (h : periodUnit freq a < periodUnit freq b) : a < b := by
  by_contra hn
  exact absurd (periodUnit_mono freq hb ha (not_lt.1 hn)) (by omega)

variable {rule : ScheduleRule}

theorem periodAt_strictMono (hi : 1 ≤ rule.intervalVal) {i j : ℕ} (h : i < j) :
    periodAt rule i < periodAt rule j := by
  unfold periodAt
  have : (i : ℤ) * rule.intervalVal < j * rule.intervalVal :=
    mul_lt_mul_of_pos_right (by exact_mod_cast h) (by omega)
  omega

theorem periodUnit_startDate_le (hi : 1 ≤ rule.intervalVal) (k : ℕ) :
    periodUnit rule.freqType rule.startDate ≤ periodAt rule k := by
  unfold periodAt
  have : 0 ≤ (k : ℤ) * rule.intervalVal := by positivity
  omega

theorem periodDates_lt (hi : 1 ≤ rule.intervalVal) {i j : ℕ} (h : i < j) {a b : LocalDate}
    (ha : a ∈ periodDates rule i) (hb : b ∈ periodDates rule j) : a < b := by
  refine lt_of_periodUnit_lt rule.freqType ha.1 hb.1 ?_
  rw [ha.2.1, hb.2.1]
  exact periodAt_strictMono hi h

/-- Periods before `firstPeriod rule d` lie before the period of `d`. -/
theorem periodAt_lt_of_lt_firstPeriod (hi : 1 ≤ rule.intervalVal) {d : LocalDate} {i : ℕ}
    (h : i < firstPeriod rule d) : periodAt rule i < periodUnit rule.freqType d := by
  unfold firstPeriod at h
  unfold periodAt
  set x := periodUnit rule.freqType d - periodUnit rule.freqType rule.startDate with hx
  have hlt : (i : ℤ) + 1 ≤ (x + rule.intervalVal - 1) / rule.intervalVal := by omega
  have := Int.mul_le_of_le_ediv (by omega) hlt
  nlinarith

/-- From `firstPeriod rule d` on, periods lie at or after the period of `d`. -/
theorem periodUnit_le_periodAt (hi : 1 ≤ rule.intervalVal) {d : LocalDate} {i : ℕ}
    (h : firstPeriod rule d ≤ i) : periodUnit rule.freqType d ≤ periodAt rule i := by
  unfold firstPeriod at h
  unfold periodAt
  set x := periodUnit rule.freqType d - periodUnit rule.freqType rule.startDate with hx
  have hlt : (x + rule.intervalVal - 1) / rule.intervalVal < i + 1 := by omega
  have := Int.lt_mul_of_ediv_lt (by omega) hlt
  nlinarith

/-- The next day starts at most one period later. -/
theorem firstPeriod_le_succ (hi : 1 ≤ rule.intervalVal) {a b : LocalDate}
    (h : periodUnit rule.freqType b ≤ periodUnit rule.freqType a + 1) :
    firstPeriod rule b ≤ firstPeriod rule a + 1 := by
  by_contra hn
  have h1 := periodAt_lt_of_lt_firstPeriod hi (d := b) (i := firstPeriod rule a + 1) (by omega)
  have h2 := periodUnit_le_periodAt hi (d := a) (i := firstPeriod rule a) le_rfl
  have h3 := periodAt_strictMono hi (Nat.lt_add_one (firstPeriod rule a))
  omega

end VoiceLife
