import VoiceLife.Schedule.Commands

/-! # `schedule_factory.cc`: entities from commands, rules and exceptions -/

namespace VoiceLife

/-- `LocalTimeToSeconds`. -/
def localTimeToSeconds (value : LocalTime) : ℤ :=
  value.hour * 3600 + value.minute * 60 + value.second

namespace ScheduleFactory

/-- `ScheduleFactory::CreateFromCommand`. -/
def createFromCommand (command : CreateScheduleCommand) : Schedule :=
  { id := 0
    event := command.event
    startTime := command.startTime
    endTime := command.endTime
    location := command.location
    notes := command.notes
    ruleId := none
    status := .active }

/-- `ScheduleFactory::CreateRuleFromCommand`. -/
def createRuleFromCommand (command : CreateScheduleRuleCommand) : ScheduleRule :=
  { id := 0
    event := command.event
    location := command.location
    notes := command.notes
    freqType := command.freqType
    intervalVal := command.intervalVal
    weekdaysMask := command.weekdaysMask
    dayOfMonth := command.dayOfMonth
    monthOfYear := command.monthOfYear
    monthlyMode := command.monthlyMode
    startTime := command.startTime
    startDate := command.startDate.getD ⟨0, 0, 0⟩
    endTime := command.endTime
    endDate := command.endDate
    occurrenceCount := command.occurrenceCount
    status := .active }

/-- `ScheduleFactory::CreateOccurrence`: the end keeps the rule's duration. -/
def createOccurrence (rule : ScheduleRule) (occurrence : ℤ) : Schedule :=
  { id := 0
    event := rule.event
    startTime := some occurrence
    endTime := rule.endTime.map fun endTime =>
      occurrence + (localTimeToSeconds endTime - localTimeToSeconds rule.startTime)
    location := rule.location
    notes := rule.notes
    ruleId := none
    status := .active }

/-- `ScheduleFactory::ApplyOverride`. -/
def applyOverride (schedule : Schedule) (exc : ScheduleException) : Schedule :=
  { schedule with
    startTime := exc.overrideStartTime <|> schedule.startTime
    endTime := exc.overrideEndTime <|> schedule.endTime
    event := exc.overrideEvent.getD schedule.event
    location := exc.overrideLocation <|> schedule.location
    notes := exc.overrideNotes <|> schedule.notes }

end ScheduleFactory

end VoiceLife
