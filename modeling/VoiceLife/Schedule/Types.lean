import VoiceLife.Contracts.Status
import VoiceLife.Schedule.Calendar

/-! # `schedule_types.h`: the entities of the schedule component

Instants (`DateTime`) are seconds since the Unix epoch; instants and the ids of schedules, rules and
exceptions are 64-bit in the source and integers here.
-/

namespace VoiceLife

/-- `ScheduleStatus`. -/
inductive ScheduleStatus where
  | active
  | cancelled
  | completed
deriving DecidableEq, Repr

/-- `ScheduleStatusFilter`. -/
inductive ScheduleStatusFilter where
  | all
  | active
  | cancelled
  | completed
deriving DecidableEq, Repr

/-- `Schedule`: a stored schedule; `ruleId` names the recurrence rule it was made for. -/
structure Schedule where
  id : ℤ := 0
  event : String
  startTime : Option ℤ := none
  endTime : Option ℤ := none
  location : Option String := none
  notes : Option String := none
  ruleId : Option ℤ := none
  status : ScheduleStatus := .active
  createdAt : ℤ := 0
  updatedAt : ℤ := 0
deriving DecidableEq, Repr

/-- `Frequency`. -/
inductive Frequency where
  | daily
  | weekly
  | monthly
  | yearly
deriving DecidableEq, Repr

/-- `MonthlyMode`. -/
inductive MonthlyMode where
  | specificDay
  | lastDay
deriving DecidableEq, Repr

/-- `ExceptionType`. -/
inductive ExceptionType where
  | modify
  | skip
deriving DecidableEq, Repr

/-- `LocalTime`: a local clock time (UTC+8). -/
structure LocalTime where
  hour : ℤ := 0
  minute : ℤ := 0
  second : ℤ := 0
deriving DecidableEq, Repr

/-- `ScheduleRule`. -/
structure ScheduleRule where
  id : ℤ := 0
  event : String
  location : Option String := none
  notes : Option String := none
  freqType : Frequency := .daily
  intervalVal : ℤ := 1
  weekdaysMask : Option UInt8 := none
  dayOfMonth : Option UInt8 := none
  monthOfYear : Option UInt8 := none
  monthlyMode : Option MonthlyMode := none
  startTime : LocalTime := {}
  endTime : Option LocalTime := none
  startDate : LocalDate := ⟨0, 0, 0⟩
  endDate : Option LocalDate := none
  occurrenceCount : Option ℤ := none
  status : ScheduleStatus := .active
  createdAt : ℤ := 0
  updatedAt : ℤ := 0
deriving DecidableEq, Repr

/-- `ScheduleException`: the exception stored for one original occurrence time of a rule. -/
structure ScheduleException where
  id : ℤ := 0
  ruleId : ℤ := 0
  originalStartTime : ℤ := 0
  scheduleId : Option ℤ := none
  type : ExceptionType := .modify
  overrideStartTime : Option ℤ := none
  overrideEndTime : Option ℤ := none
  overrideEvent : Option String := none
  overrideLocation : Option String := none
  overrideNotes : Option String := none
  createdAt : ℤ := 0
  updatedAt : ℤ := 0
deriving DecidableEq, Repr

end VoiceLife
