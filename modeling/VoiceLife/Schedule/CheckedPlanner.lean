import VoiceLife.Lib.CheckedInt
import VoiceLife.Schedule.NextOccurrence

/-! # `calendar.cc`, `recurrence_planner.cc` with every intermediate value checked

The functions of the planner once more, operation by operation: each value of type `int` or
`int64_t` has to pass `int32` or `int64`, and the result is `none` as soon as one leaves its type.
Unsigned arithmetic is modular in C++ and stays `toUnsigned`.
-/

namespace VoiceLife.Checked

open CInt Gregorian

/-! ### calendar.cc -/

/-- `DaysInMonth`; the remainders of `IsLeapYear` stay in range for every year. -/
def daysInMonth (year month : ℤ) : Option ℤ :=
  if month == 2 && isLeapYear year then some 29
  else do
    let index ← int32 (month - 1)
    some (kDays.getD index.toNat 0)

/-- `DaysFromCivil`. -/
def daysFromCivil (year month day : ℤ) : Option ℤ := do
  let year ← int32 (year - (if month ≤ 2 then 1 else 0))
  let dividend ← int32 (if 0 ≤ year then year else year - 399)
  let era := dividend.tdiv 400
  let eraYears ← int64 (era * 400)
  let yoe ← int64 (year - eraYears)
  let yoe := toUnsigned yoe
  let marchMonth ← int32 (month + (if month > 2 then -3 else 9))
  let monthDays ← int32 (153 * marchMonth)
  let monthDays ← int32 (monthDays + 2)
  let monthDays ← int32 (monthDays.tdiv 5 + day)
  let doy ← int32 (monthDays - 1)
  let doy := toUnsigned doy
  let doe := toUnsigned (yoe * 365 + yoe / 4 - yoe / 100 + doy)
  let eraDays ← int64 (era * 146097)
  let days ← int64 (eraDays + doe)
  int64 (days - 719468)

/-- `CivilFromDays`. -/
def civilFromDays (days : ℤ) : Option LocalDate := do
  let days ← int64 (days + 719468)
  let dividend ← int64 (if 0 ≤ days then days else days - 146096)
  let era := dividend.tdiv 146097
  let eraDays ← int64 (era * 146097)
  let doe ← int64 (days - eraDays)
  let doe := toUnsigned doe
  let yoe := toUnsigned ((doe - doe / 1460 + doe / 36524 - doe / 146096) / 365)
  let yearOfEra ← int32 yoe
  let eraYears ← int64 (era * 400)
  let eraYears ← int32 eraYears
  let year ← int32 (yearOfEra + eraYears)
  let doy := toUnsigned (doe - (365 * yoe + yoe / 4 - yoe / 100))
  let mp := toUnsigned ((5 * doy + 2) / 153)
  let day ← int32 (toUnsigned (doy - (153 * mp + 2) / 5 + 1))
  let month ← int32 (toUnsigned (mp + (if mp < 10 then 3 else -9)))
  let year ← int32 (year + (if month ≤ 2 then 1 else 0))
  some ⟨year, month, day⟩

/-- `Weekday`. -/
def weekday (year month day : ℤ) : Option ℤ := do
  let days ← daysFromCivil year month day
  let shifted ← int64 (days + 3)
  let weekday ← int32 (shifted.tmod 7)
  if weekday < 0 then int32 (weekday + 7) else some weekday

/-! ### recurrence_planner.cc -/

/-- `UnixFromLocal`. -/
def unixFromLocal (date : LocalDate) (hour minute second : ℤ) : Option ℤ := do
  let days ← daysFromCivil date.year date.month date.day
  let seconds ← int64 (days * 86400)
  let hours ← int32 (hour * 3600)
  let seconds ← int64 (seconds + hours)
  let minutes ← int32 (minute * 60)
  let seconds ← int64 (seconds + minutes)
  let seconds ← int64 (seconds + second)
  int64 (seconds - kTimezoneOffsetSeconds)

/-- `LocalFromUnix`. -/
def localFromUnix (unix : ℤ) : Option (LocalDate × LocalTime) := do
  let localSeconds ← int64 (unix + kTimezoneOffsetSeconds)
  let date ← civilFromDays (localSeconds.tdiv 86400)
  let tod := localSeconds.tmod 86400
  let hour ← int32 (tod.tdiv 3600)
  let minute ← int32 ((tod.tmod 3600).tdiv 60)
  let second ← int32 (tod.tmod 60)
  some (date, ⟨hour, minute, second⟩)

/-- `CeilDiv`. -/
def ceilDiv (dividend divisor : ℤ) : Option ℤ := do
  let sum ← int64 (dividend + divisor)
  let sum ← int64 (sum - 1)
  int64 (sum.tdiv divisor)

/-- The conditional jump in front of the daily, monthly and yearly loops. -/
def firstStep (unitsAfterAnchor interval : ℤ) : Option ℤ :=
  if unitsAfterAnchor ≤ 0 then some 0 else ceilDiv unitsAfterAnchor interval

/-- `AddDaysChecked`; the limits of its guard are in range wherever they are computed. -/
def addDaysChecked (date : LocalDate) (days : ℤ) : Option (Option LocalDate) := do
  let dayNumber ← daysFromCivil date.year date.month date.day
  if days > 0 ∧ dayNumber > 9223372036854775807 - days then some none
  else if days < 0 ∧ dayNumber < -9223372036854775808 - days then some none
  else
    let sum ← int64 (dayNumber + days)
    let date ← civilFromDays sum
    some (some date)

/-- `OccurrenceAt`. -/
def occurrenceAt (rule : ScheduleRule) (date : LocalDate) : Option ℤ :=
  unixFromLocal date rule.startTime.hour rule.startTime.minute rule.startTime.second

/-- `NextDailyDate`. -/
def nextDailyDate (rule : ScheduleRule) (anchor target : LocalDate) :
    Option (Option LocalDate) := do
  let anchorDays ← daysFromCivil anchor.year anchor.month anchor.day
  let targetDays ← daysFromCivil target.year target.month target.day
  let daysAfterAnchor ← int64 (targetDays - anchorDays)
  let k ← firstStep daysAfterAnchor rule.intervalVal
  let jump ← int64 (k * rule.intervalVal)
  let days ← int64 (anchorDays + jump)
  let date ← civilFromDays days
  some (some date)

/-- One round of the loop of `NextWeeklyDate`. -/
def weekRound (mask : UInt8) (target : LocalDate) (weekMonday : ℤ) : Option (Option LocalDate) :=
  (List.range 7).findSomeM? fun (weekday : ℕ) =>
    if maskSelects mask weekday then do
      let days ← int64 (weekMonday + weekday)
      let date ← civilFromDays days
      some (if compareDate date target ≥ 0 then some date else none)
    else some none

/-- `NextWeeklyDate`. -/
def nextWeeklyDate (rule : ScheduleRule) (anchor target : LocalDate) :
    Option (Option LocalDate) :=
  match rule.weekdaysMask with
  | none => some none
  | some mask => do
    let anchorDays ← daysFromCivil anchor.year anchor.month anchor.day
    let anchorWeekday ← weekday anchor.year anchor.month anchor.day
    let anchorWeekMonday ← int64 (anchorDays - anchorWeekday)
    let targetDays ← daysFromCivil target.year target.month target.day
    let targetWeekday ← weekday target.year target.month target.day
    let targetWeekMonday ← int64 (targetDays - targetWeekday)
    let weekDays ← int64 (targetWeekMonday - anchorWeekMonday)
    let weekDiff := if targetDays ≥ anchorDays then weekDays.tdiv kDaysPerWeek else 0
    let quotient ← ceilDiv weekDiff rule.intervalVal
    let k := if targetDays ≥ anchorDays then max 0 quotient else 0
    (List.range kMaxDateSearchSteps).findSomeM? fun (attempt : ℕ) => do
      let step ← int64 (k + attempt)
      let weeks ← int64 (step * rule.intervalVal)
      let days ← int64 (weeks * kDaysPerWeek)
      let weekMonday ← int64 (anchorWeekMonday + days)
      weekRound mask target weekMonday

/-- One round of the loop of `NextMonthlyDate`. -/
def monthRound (rule : ScheduleRule) (target : LocalDate) (monthIndex : ℤ) :
    Option (Option LocalDate) := do
  let year ← int32 (monthIndex.tdiv 12)
  let month ← int32 (monthIndex.tmod 12)
  let month ← int32 (month + 1)
  let length ← daysInMonth year month
  let day :=
    if rule.monthlyMode = some .lastDay then some length
    else match rule.dayOfMonth with
      | none => none
      | some day => if (day.toNat : ℤ) > length then none else some (day.toNat : ℤ)
  some (match day with
    | none => none
    | some day =>
      if compareDate ⟨year, month, day⟩ target ≥ 0 then some ⟨year, month, day⟩ else none)

/-- `NextMonthlyDate`. -/
def nextMonthlyDate (rule : ScheduleRule) (anchor target : LocalDate) :
    Option (Option LocalDate) := do
  let anchorMonths ← int64 (anchor.year * 12)
  let anchorMonth ← int32 (anchor.month - 1)
  let anchorIndex ← int64 (anchorMonths + anchorMonth)
  let targetMonths ← int64 (target.year * 12)
  let targetMonth ← int32 (target.month - 1)
  let targetIndex ← int64 (targetMonths + targetMonth)
  let monthsAfterAnchor ← int64 (targetIndex - anchorIndex)
  let k ← firstStep monthsAfterAnchor rule.intervalVal
  -- without a wanted day the first round already returns
  let rounds :=
    if rule.monthlyMode ≠ some .lastDay ∧ rule.dayOfMonth = none then 1 else kMaxDateSearchSteps
  (List.range rounds).findSomeM? fun (attempt : ℕ) => do
    let step ← int64 (k + attempt)
    let months ← int64 (step * rule.intervalVal)
    let monthIndex ← int64 (anchorIndex + months)
    monthRound rule target monthIndex

/-- The year of a round of `NextYearlyDate`: the offset is narrowed before it is added. -/
def roundYear (rule : ScheduleRule) (anchor : LocalDate) (k : ℤ) (attempt : ℕ) : Option ℤ := do
  let step ← int64 (k + attempt)
  let years ← int64 (step * rule.intervalVal)
  let years ← int32 years
  int32 (anchor.year + years)

/-- One round of the loop of `NextYearlyDate`. -/
def yearRound (month day : UInt8) (target : LocalDate) (year : ℤ) : Option (Option LocalDate) := do
  let length ← daysInMonth year month.toNat
  some (if (day.toNat : ℤ) > length then none
    else if compareDate ⟨year, month.toNat, day.toNat⟩ target ≥ 0 then
      some ⟨year, month.toNat, day.toNat⟩
    else none)

/-- `NextYearlyDate`. -/
def nextYearlyDate (rule : ScheduleRule) (anchor target : LocalDate) :
    Option (Option LocalDate) :=
  match rule.monthOfYear, rule.dayOfMonth with
  | some month, some day => do
    let yearsAfterAnchor ← int64 (target.year - anchor.year)
    let k ← firstStep yearsAfterAnchor rule.intervalVal
    (List.range kMaxDateSearchSteps).findSomeM? fun (attempt : ℕ) => do
      let year ← roundYear rule anchor k attempt
      yearRound month day target year
  | _, _ => some none

/-- `NextDateOnOrAfter`. -/
def nextDateOnOrAfter (rule : ScheduleRule) (anchor target : LocalDate) :
    Option (Option LocalDate) :=
  match rule.freqType with
  | .daily => nextDailyDate rule anchor target
  | .weekly => nextWeeklyDate rule anchor target
  | .monthly => nextMonthlyDate rule anchor target
  | .yearly => nextYearlyDate rule anchor target

/-- The retry loop of `NextOccurrence`. -/
def searchOccurrence (rule : ScheduleRule) (from_ : ℤ) : ℕ → LocalDate → Option (Option ℤ)
  | 0, _ => some none
  | attempts + 1, threshold =>
    match nextDateOnOrAfter rule rule.startDate threshold with
    | none => none
    | some none => some none
    | some (some date) =>
      if compareDate date rule.startDate < 0 then
        searchOccurrence rule from_ attempts rule.startDate
      else if rule.endDate.any fun endDate => compareDate date endDate > 0 then some none
      else
        match occurrenceAt rule date with
        | none => none
        | some occurrence =>
          if occurrence < from_ then
            match addDaysChecked date 1 with
            | none => none
            | some none => some none
            | some (some nextDay) => searchOccurrence rule from_ attempts nextDay
          else some (some occurrence)

/-- `NextOccurrence`. -/
def nextOccurrence (rule : ScheduleRule) (from_ : ℤ) : Option (Option ℤ) :=
  if rule.status ≠ .active then some none
  else
    match localFromUnix from_ with
    | none => none
    | some (fromDate, _) =>
      let anchor := rule.startDate
      let threshold := if compareDate anchor fromDate > 0 then anchor else fromDate
      searchOccurrence rule from_ kMaxDateSearchSteps threshold

end VoiceLife.Checked
