import VoiceLife.Schedule.Types

/-! # `schedule_commands.h`, `schedule_rule_commands.h`: the commands of the two services -/

namespace VoiceLife

/-- `NullableScheduleUpdate<T>` and `FieldPatch<T>`: `none` leaves a field alone, `some none`
clears it. -/
abbrev FieldPatch (α : Type) := Option (Option α)

/-- `CreateScheduleCommand`. -/
structure CreateScheduleCommand where
  event : String
  startTime : Option ℤ := none
  endTime : Option ℤ := none
  location : Option String := none
  notes : Option String := none
  ignoreConflict : Bool := false

/-- `CancelScheduleCommand`. -/
structure CancelScheduleCommand where
  scheduleId : ℤ

/-- `UpdateScheduleCommand`. -/
structure UpdateScheduleCommand where
  scheduleId : ℤ
  event : Option String := none
  startTime : FieldPatch ℤ := none
  endTime : FieldPatch ℤ := none
  location : FieldPatch String := none
  notes : FieldPatch String := none
  ignoreConflict : Bool := false

/-- `QueryScheduleCommand`. -/
structure QueryScheduleCommand where
  scheduleId : Option ℤ := none
  ruleId : Option ℤ := none
  keyword : Option String := none
  startFrom : Option ℤ := none
  startTo : Option ℤ := none
  status : ScheduleStatusFilter := .active
  limit : ℤ := 10
  offset : ℤ := 0

/-- `CreateScheduleRuleCommand`. -/
structure CreateScheduleRuleCommand where
  event : String
  freqType : Frequency := .daily
  startTime : LocalTime := {}
  startDate : Option LocalDate := none
  endTime : Option LocalTime := none
  location : Option String := none
  notes : Option String := none
  intervalVal : ℤ := 1
  weekdaysMask : Option UInt8 := none
  dayOfMonth : Option UInt8 := none
  monthOfYear : Option UInt8 := none
  monthlyMode : Option MonthlyMode := none
  endDate : Option LocalDate := none
  occurrenceCount : Option ℤ := none
  ignoreConflict : Bool := false

/-- `UpdateScheduleRuleCommand`. -/
structure UpdateScheduleRuleCommand where
  ruleId : ℤ
  event : Option String := none
  location : FieldPatch String := none
  notes : FieldPatch String := none
  freqType : Option Frequency := none
  intervalVal : Option ℤ := none
  weekdaysMask : FieldPatch UInt8 := none
  dayOfMonth : FieldPatch UInt8 := none
  monthOfYear : FieldPatch UInt8 := none
  monthlyMode : FieldPatch MonthlyMode := none
  startTime : Option LocalTime := none
  startDate : FieldPatch LocalDate := none
  endTime : FieldPatch LocalTime := none
  endDate : FieldPatch LocalDate := none
  occurrenceCount : FieldPatch ℤ := none
  ignoreConflict : Bool := false

/-- `CancelScheduleRuleCommand`. -/
structure CancelScheduleRuleCommand where
  ruleId : ℤ

/-- `UpdateScheduleOccurrenceCommand`. -/
structure UpdateScheduleOccurrenceCommand where
  ruleId : ℤ
  originalStartTime : ℤ
  event : FieldPatch String := none
  startTime : FieldPatch ℤ := none
  endTime : FieldPatch ℤ := none
  location : FieldPatch String := none
  notes : FieldPatch String := none
  ignoreConflict : Bool := false

/-- `SkipScheduleOccurrenceCommand`. -/
structure SkipScheduleOccurrenceCommand where
  ruleId : ℤ
  originalStartTime : ℤ

/-- `GenerateNextScheduleInstanceCommand`. -/
structure GenerateNextScheduleInstanceCommand where
  ruleId : ℤ

end VoiceLife
