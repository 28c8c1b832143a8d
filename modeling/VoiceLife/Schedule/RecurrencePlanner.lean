import VoiceLife.Schedule.Types

/-! # `recurrence_planner.cc`: the next occurrence of a rule

The loops of the source become `List.findSome?` over the attempt numbers where nothing but the
attempt changes, and a recursion on the attempts left where the search threshold moves.
-/

namespace VoiceLife

open CInt

/-- `kTimezoneOffsetSeconds`: UTC+8 without daylight saving. -/
def kTimezoneOffsetSeconds : ℤ := 8 * 3600

def kDaysPerWeek : ℤ := 7

def kMaxDateSearchSteps : ℕ := 64

/-- `UnixFromLocal`. -/
def unixFromLocal (date : LocalDate) (hour minute second : ℤ) : ℤ :=
  daysFromCivil date.year date.month date.day * 86400 + hour * 3600 + minute * 60 + second -
    kTimezoneOffsetSeconds

/-- `LocalFromUnix`, with its output parameters returned as a date and a clock time. -/
def localFromUnix (unix : ℤ) : LocalDate × LocalTime :=
  let localSeconds := unix + kTimezoneOffsetSeconds
  let tod := localSeconds.tmod 86400
  (civilFromDays (localSeconds.tdiv 86400),
    ⟨toInt (tod.tdiv 3600), toInt ((tod.tmod 3600).tdiv 60), toInt (tod.tmod 60)⟩)

/-- `CeilDiv`. -/
def ceilDiv (dividend divisor : ℤ) : ℤ :=
  (dividend + divisor - 1).tdiv divisor

/-- `DateFromDays`. -/
def dateFromDays (days : ℤ) : LocalDate :=
  civilFromDays days

/-- `AddDaysChecked`, which refuses to leave the 64-bit range. -/
def addDaysChecked (date : LocalDate) (days : ℤ) : Option LocalDate :=
  let dayNumber := daysFromCivil date.year date.month date.day
  if days > 0 ∧ dayNumber > 9223372036854775807 - days then none
  else if days < 0 ∧ dayNumber < -9223372036854775808 - days then none
  else some (dateFromDays (dayNumber + days))

/-- `CompareDate`: -1, 0 or 1. -/
def compareDate (left right : LocalDate) : ℤ :=
  if left.year ≠ right.year then if left.year < right.year then -1 else 1
  else if left.month ≠ right.month then if left.month < right.month then -1 else 1
  else if left.day ≠ right.day then if left.day < right.day then -1 else 1
  else 0

/-- `OccurrenceAt`: the rule's start time on a local date, in UTC. -/
def occurrenceAt (rule : ScheduleRule) (date : LocalDate) : ℤ :=
  unixFromLocal date rule.startTime.hour rule.startTime.minute rule.startTime.second

/-- `NextDailyDate`. -/
def nextDailyDate (rule : ScheduleRule) (anchor target : LocalDate) : Option LocalDate :=
  let anchorDays := daysFromCivil anchor.year anchor.month anchor.day
  let targetDays := daysFromCivil target.year target.month target.day
  let daysAfterAnchor := targetDays - anchorDays
  let k := if daysAfterAnchor ≤ 0 then 0 else ceilDiv daysAfterAnchor rule.intervalVal
  some (dateFromDays (anchorDays + k * rule.intervalVal))

/-- Whether the mask selects a weekday, Monday being the lowest bit. -/
def maskSelects (mask : UInt8) (weekday : ℕ) : Bool :=
  (mask &&& ((1 : UInt8) <<< UInt8.ofNat weekday)) != 0

/-- `NextWeeklyDate`: both dates are moved to their Mondays before counting weeks. -/
def nextWeeklyDate (rule : ScheduleRule) (anchor target : LocalDate) : Option LocalDate :=
  match rule.weekdaysMask with
  | none => none
  | some mask =>
    let anchorDays := daysFromCivil anchor.year anchor.month anchor.day
    let anchorWeekday := weekday anchor.year anchor.month anchor.day
    let anchorWeekMonday := anchorDays - anchorWeekday
    let targetDays := daysFromCivil target.year target.month target.day
    let targetWeekday := weekday target.year target.month target.day
    let targetWeekMonday := targetDays - targetWeekday
    let weekDiff :=
      if targetDays ≥ anchorDays then (targetWeekMonday - anchorWeekMonday).tdiv kDaysPerWeek else 0
    let k := if targetDays ≥ anchorDays then max 0 (ceilDiv weekDiff rule.intervalVal) else 0
    (List.range kMaxDateSearchSteps).findSome? fun (attempt : ℕ) =>
      let weekMonday := anchorWeekMonday + (k + attempt) * rule.intervalVal * kDaysPerWeek
      (List.range 7).findSome? fun weekday =>
        if maskSelects mask weekday then
          let date := dateFromDays (weekMonday + weekday)
          if compareDate date target ≥ 0 then some date else none
        else none

/-- `NextMonthlyDate`: a month without the wanted day is passed over. -/
def nextMonthlyDate (rule : ScheduleRule) (anchor target : LocalDate) : Option LocalDate :=
  let anchorIndex := anchor.year * 12 + (anchor.month - 1)
  let targetIndex := target.year * 12 + (target.month - 1)
  let monthsAfterAnchor := targetIndex - anchorIndex
  let k := if monthsAfterAnchor ≤ 0 then 0 else ceilDiv monthsAfterAnchor rule.intervalVal
  (List.range kMaxDateSearchSteps).findSome? fun (attempt : ℕ) =>
    let monthIndex := anchorIndex + (k + attempt) * rule.intervalVal
    let year := toInt (monthIndex.tdiv 12)
    let month := toInt (monthIndex.tmod 12) + 1
    let day :=
      if rule.monthlyMode = some .lastDay then some (daysInMonth year month)
      else match rule.dayOfMonth with
        | none => none
        | some day =>
          if (day.toNat : ℤ) > daysInMonth year month then none else some (day.toNat : ℤ)
    match day with
    | none => none
    | some day => if compareDate ⟨year, month, day⟩ target ≥ 0 then some ⟨year, month, day⟩ else none

/-- `NextYearlyDate`: February 29 is passed over in common years. -/
def nextYearlyDate (rule : ScheduleRule) (anchor target : LocalDate) : Option LocalDate :=
  match rule.monthOfYear, rule.dayOfMonth with
  | some month, some day =>
    let yearsAfterAnchor := target.year - anchor.year
    let k := if yearsAfterAnchor ≤ 0 then 0 else ceilDiv yearsAfterAnchor rule.intervalVal
    (List.range kMaxDateSearchSteps).findSome? fun (attempt : ℕ) =>
      let year := anchor.year + toInt ((k + attempt) * rule.intervalVal)
      if (day.toNat : ℤ) > daysInMonth year month.toNat then none
      else if compareDate ⟨year, month.toNat, day.toNat⟩ target ≥ 0 then
        some ⟨year, month.toNat, day.toNat⟩
      else none
  | _, _ => none

/-- `NextDateOnOrAfter`. -/
def nextDateOnOrAfter (rule : ScheduleRule) (anchor target : LocalDate) : Option LocalDate :=
  match rule.freqType with
  | .daily => nextDailyDate rule anchor target
  | .weekly => nextWeeklyDate rule anchor target
  | .monthly => nextMonthlyDate rule anchor target
  | .yearly => nextYearlyDate rule anchor target

/-- `LocalDateFromUtc`. -/
def localDateFromUtc (time : ℤ) : LocalDate :=
  (localFromUnix time).1

/-- The retry loop of `NextOccurrence`, with the attempts left and the threshold it moves. -/
def searchOccurrence (rule : ScheduleRule) (from_ : ℤ) : ℕ → LocalDate → Option ℤ
  | 0, _ => none
  | attempts + 1, threshold =>
    match nextDateOnOrAfter rule rule.startDate threshold with
    | none => none
    | some date =>
      if compareDate date rule.startDate < 0 then
        searchOccurrence rule from_ attempts rule.startDate
      else if rule.endDate.any fun endDate => compareDate date endDate > 0 then none
      else if occurrenceAt rule date < from_ then
        match addDaysChecked date 1 with
        | none => none
        | some nextDay => searchOccurrence rule from_ attempts nextDay
      else some (occurrenceAt rule date)

/-- `NextOccurrence`: the first occurrence of an active rule at or after `from_`. -/
def nextOccurrence (rule : ScheduleRule) (from_ : ℤ) : Option ℤ :=
  if rule.status ≠ .active then none
  else
    let anchor := rule.startDate
    let fromDate := (localFromUnix from_).1
    let threshold := if compareDate anchor fromDate > 0 then anchor else fromDate
    searchOccurrence rule from_ kMaxDateSearchSteps threshold

example : nextOccurrence
    { event := "e", intervalVal := 2, startTime := ⟨9, 0, 0⟩, startDate := ⟨2026, 8, 17⟩ }
    1786928401 = some 1787101200 := by decide +kernel

end VoiceLife
