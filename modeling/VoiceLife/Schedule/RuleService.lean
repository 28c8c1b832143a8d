import VoiceLife.Schedule.RuleHelpers
import VoiceLife.Schedule.ScheduleService

/-! # `schedule_rule_service.cc`: recurrence rules and their instances

The operations take two clock readings: `now` is read by the service and `stamp` by the store.
-/

namespace VoiceLife

/-- `CreateScheduleRuleResult` and `UpdateScheduleRuleResult`. -/
structure ScheduleRuleResult where
  status : Status
  rule : Option ScheduleRule := none
  schedules : List Schedule := []
  conflicts : List Schedule := []
  error : String := ""

/-- `CancelScheduleRuleResult`. -/
structure CancelScheduleRuleResult where
  status : Status
  rule : Option ScheduleRule := none
  cancelledCount : ℕ := 0
  error : String := ""

/-- `UpdateScheduleOccurrenceResult` and `SkipScheduleOccurrenceResult`. -/
structure ScheduleOccurrenceResult where
  status : Status
  schedule : Option Schedule := none
  exc : Option ScheduleException := none
  conflicts : List Schedule := []
  error : String := ""

/-- `GenerateNextScheduleInstanceResult`. -/
structure GenerateNextScheduleInstanceResult where
  status : Status
  schedule : Option Schedule := none
  error : String := ""

/-- `FailedCreateScheduleRuleResult` and `FailedUpdateScheduleRuleResult`. -/
def failedScheduleRuleResult (status : Status) (conflicts : List Schedule) : ScheduleRuleResult :=
  { status, conflicts, error := status.message }

/-- `FailedCancelScheduleRuleResult`. -/
def failedCancelScheduleRuleResult (status : Status) (cancelledCount : ℕ) :
    CancelScheduleRuleResult :=
  { status, cancelledCount, error := status.message }

/-- `FailedUpdateScheduleOccurrenceResult` and `FailedSkipScheduleOccurrenceResult`. -/
def failedScheduleOccurrenceResult (status : Status) : ScheduleOccurrenceResult :=
  { status, error := status.message }

/-- `FailedGenerateNextScheduleInstanceResult`. -/
def failedGenerateNextScheduleInstanceResult (status : Status) :
    GenerateNextScheduleInstanceResult :=
  { status, error := status.message }

/-- `ApplyScheduleRulePatch`; a start date that is cleared is read as a missing value in the source,
which is undefined there and leaves the date alone here. -/
def applyScheduleRulePatch (command : UpdateScheduleRuleCommand) (rule : ScheduleRule) :
    ScheduleRule :=
  { rule with
    event := command.event.getD rule.event
    location := applyPatch command.location rule.location
    notes := applyPatch command.notes rule.notes
    freqType := command.freqType.getD rule.freqType
    intervalVal := command.intervalVal.getD rule.intervalVal
    weekdaysMask := applyPatch command.weekdaysMask rule.weekdaysMask
    dayOfMonth := applyPatch command.dayOfMonth rule.dayOfMonth
    monthOfYear := applyPatch command.monthOfYear rule.monthOfYear
    monthlyMode := applyPatch command.monthlyMode rule.monthlyMode
    startTime := command.startTime.getD rule.startTime
    startDate := command.startDate.join.getD rule.startDate
    endTime := applyPatch command.endTime rule.endTime
    endDate := applyPatch command.endDate rule.endDate
    occurrenceCount := applyPatch command.occurrenceCount rule.occurrenceCount }

/-- `ApplyScheduleOccurrencePatch`. -/
def applyScheduleOccurrencePatch (command : UpdateScheduleOccurrenceCommand)
    (exc : ScheduleException) : ScheduleException :=
  { exc with
    overrideEvent := applyPatch command.event exc.overrideEvent
    overrideStartTime := applyPatch command.startTime exc.overrideStartTime
    overrideEndTime := applyPatch command.endTime exc.overrideEndTime
    overrideLocation := applyPatch command.location exc.overrideLocation
    overrideNotes := applyPatch command.notes exc.overrideNotes }

/-- `FindMaterializedScheduleOccurrence`: by the linked id, or by the rule and the start time. -/
def findMaterializedScheduleOccurrence (repo : MemoryScheduleRepository)
    (ruleId originalStartTime : ℤ) (exceptionScheduleId : Option ℤ) : Option Schedule :=
  match exceptionScheduleId with
  | some scheduleId => repo.schedules.find? scheduleId
  | none =>
    (repo.find { ruleId := some ruleId, startFrom := some originalStartTime,
                 startTo := some originalStartTime, status := .all, limit := 1 }).head?

/-- How far `generate_next_schedule_instance` searches. -/
def kMaximumGenerateAttempts : ℕ := 1000

/-- The outcomes of the search of `generate_next_schedule_instance`. -/
inductive NextInstance where
  | finished
  | found (occurrence : ℤ) (exc : Option ScheduleException)
  | exhausted
deriving DecidableEq, Repr

namespace ScheduleRuleService

open ScheduleService MemoryScheduleRuleRepository

/-- `create_schedule_rule`. -/
def createScheduleRule (repo : MemoryScheduleRepository) (now stamp : ℤ)
    (command : CreateScheduleRuleCommand) : ScheduleRuleResult × MemoryScheduleRepository :=
  let rule := ScheduleFactory.createRuleFromCommand command
  let fieldValidation := validateRuleFields rule
  if !fieldValidation.ok then (failedScheduleRuleResult fieldValidation [], repo)
  else
    let rule := { rule with startDate := command.startDate.getD (localDateFromUtc now) }
    let searchFrom := (command.startDate.map (atLocalDate · rule.startTime)).getD now
    match nextOccurrence rule searchFrom with
    | none =>
      (failedScheduleRuleResult (.error .invalidArgument "无法根据当前周期规则计算首个发生时间") [],
        repo)
    | some firstTime =>
      let rule := { rule with startDate := localDateFromUtc firstTime }
      let dateValidation := validateRuleDateRange rule
      if !dateValidation.ok then (failedScheduleRuleResult dateValidation [], repo)
      else
        let firstInstance := ScheduleFactory.createOccurrence rule firstTime
        let conflicts := findConflictingSchedules firstInstance
          (nearbyCandidates repo firstInstance none) none
        if !conflicts.isEmpty && !command.ignoreConflict then
          (failedScheduleRuleResult (.error .conflict "首条实例与已有日程冲突") conflicts, repo)
        else
          match createWithFirstInstance repo stamp rule (some firstInstance) with
          | (.error status, repo) => (failedScheduleRuleResult status conflicts, repo)
          | (.ok created, repo) =>
            ({ status := .success, rule := some created, conflicts
               schedules := [{ firstInstance with ruleId := some created.id }] }, repo)

/-- `update_schedule_rule`. -/
def updateScheduleRule (repo : MemoryScheduleRepository) (now stamp : ℤ)
    (command : UpdateScheduleRuleCommand) : ScheduleRuleResult × MemoryScheduleRepository :=
  if command.ruleId ≤ 0 then
    (failedScheduleRuleResult (.error .invalidArgument "规则 ID 必须大于零") [], repo)
  else
    match findById repo command.ruleId with
    | .error status => (failedScheduleRuleResult status [], repo)
    | .ok loaded =>
      let rule := applyScheduleRulePatch command loaded
      let fieldValidation := validateRuleFields rule
      if !fieldValidation.ok then (failedScheduleRuleResult fieldValidation [], repo)
      else
        let searchFrom := (command.startDate.join.map (atLocalDate · rule.startTime)).getD now
        match nextOccurrence rule searchFrom with
        | none =>
          (failedScheduleRuleResult
            (.error .invalidArgument "无法根据当前周期规则计算首个发生时间") [], repo)
        | some firstTime =>
          let rule := { rule with startDate := localDateFromUtc firstTime }
          let dateValidation := validateRuleDateRange rule
          if !dateValidation.ok then (failedScheduleRuleResult dateValidation [], repo)
          else
            let rule := { rule with updatedAt := now }
            let firstInstance := ScheduleFactory.createOccurrence rule firstTime
            let conflicts := findConflictingSchedules firstInstance
              (nearbyCandidates repo firstInstance none) (some command.ruleId)
            if !conflicts.isEmpty && !command.ignoreConflict then
              (failedScheduleRuleResult (.error .conflict "规则下一条实例与已有日程冲突") conflicts,
                repo)
            else
              match updateAndRebuild repo stamp rule (some firstInstance) with
              | (.error status, repo) => (failedScheduleRuleResult status [], repo)
              | (.ok updated, repo) =>
                ({ status := .success, rule := some updated, conflicts
                   schedules := [{ firstInstance with ruleId := some rule.id }] }, repo)

/-- `cancel_schedule_rule`. -/
def cancelScheduleRule (repo : MemoryScheduleRepository) (stamp : ℤ)
    (command : CancelScheduleRuleCommand) : CancelScheduleRuleResult × MemoryScheduleRepository :=
  if command.ruleId ≤ 0 then
    (failedCancelScheduleRuleResult (.error .invalidArgument "规则 ID 必须大于零") 0, repo)
  else
    match cancelRuleAndInstances repo stamp command.ruleId with
    | (.error status, repo) => (failedCancelScheduleRuleResult status 0, repo)
    | (.ok cancelledCount, repo) =>
      match findById repo command.ruleId with
      | .error status => (failedCancelScheduleRuleResult status cancelledCount, repo)
      | .ok rule => ({ status := .success, rule := some rule, cancelledCount }, repo)

/-- `update_schedule_occurrence`. -/
def updateScheduleOccurrence (repo : MemoryScheduleRepository) (stamp : ℤ)
    (command : UpdateScheduleOccurrenceCommand) :
    ScheduleOccurrenceResult × MemoryScheduleRepository :=
  if command.ruleId ≤ 0 then
    (failedScheduleOccurrenceResult (.error .invalidArgument "规则 ID 必须大于零"), repo)
  else
    match findById repo command.ruleId with
    | .error status => (failedScheduleOccurrenceResult status, repo)
    | .ok _ =>
      let hasUpdate := command.event.isSome || command.startTime.isSome ||
        command.endTime.isSome || command.location.isSome || command.notes.isSome
      if !hasUpdate then
        (failedScheduleOccurrenceResult
          (.error .invalidArgument "至少需要提供一个要修改的字段"), repo)
      else
        let existing := (findByRuleAndTime repo command.ruleId command.originalStartTime).getD {}
        let existing :=
          if existing.ruleId = 0 then
            { existing with
              ruleId := command.ruleId
              originalStartTime := command.originalStartTime }
          else existing
        let exc := applyScheduleOccurrencePatch command { existing with type := .modify }
        if (findMaterializedScheduleOccurrence repo command.ruleId command.originalStartTime
            exc.scheduleId).isSome then
          (failedScheduleOccurrenceResult
            (.error .conflict "该周期实例已生成，请使用 update_schedule 修改"), repo)
        else
          match upsert repo stamp exc with
          | (.error status, repo) => (failedScheduleOccurrenceResult status, repo)
          | (.ok upserted, repo) => ({ status := .success, exc := some upserted }, repo)

/-- The exception that `skip_schedule_occurrence` assembles. -/
def skipException (ruleId originalStartTime : ℤ) : ScheduleException :=
  { ruleId, originalStartTime, type := .skip }

/-- `skip_schedule_occurrence`: any exception that exists already counts as skipped. -/
def skipScheduleOccurrence (repo : MemoryScheduleRepository) (stamp : ℤ)
    (command : SkipScheduleOccurrenceCommand) :
    ScheduleOccurrenceResult × MemoryScheduleRepository :=
  if command.ruleId ≤ 0 then
    (failedScheduleOccurrenceResult (.error .invalidArgument "规则 ID 必须大于零"), repo)
  else
    match findByRuleAndTime repo command.ruleId command.originalStartTime with
    | some existing => ({ status := .success, exc := some existing }, repo)
    | none =>
      if (findMaterializedScheduleOccurrence repo command.ruleId command.originalStartTime
          none).isSome then
        (failedScheduleOccurrenceResult (.error .conflict
          "该周期实例已生成，请使用 update_schedule 或 cancel_schedule 处理"), repo)
      else
        match upsert repo stamp (skipException command.ruleId command.originalStartTime) with
        | (.error status, repo) => (failedScheduleOccurrenceResult status, repo)
        | (.ok upserted, repo) => ({ status := .success, exc := some upserted }, repo)

/-- The loop of `generate_next_schedule_instance`, with the attempts left: the first occurrence that
is neither materialised nor skipped, and its exception. -/
def searchNextInstance (repo : MemoryScheduleRepository) (rule : ScheduleRule) (ruleId : ℤ) :
    ℕ → ℤ → NextInstance
  | 0, _ => .exhausted
  | attempts + 1, cursor =>
    match nextOccurrence rule cursor with
    | none => .finished
    | some next =>
      match findByRuleAndTime repo ruleId next with
      | some exc =>
        if exc.scheduleId.isSome then searchNextInstance repo rule ruleId attempts (next + 1)
        else if exc.type = .skip then searchNextInstance repo rule ruleId attempts (next + 1)
        else .found next (some exc)
      | none =>
        if (findMaterializedScheduleOccurrence repo ruleId next none).isSome then
          searchNextInstance repo rule ruleId attempts (next + 1)
        else .found next none

/-- The instance of an occurrence, with the fields of its exception written over it. -/
def instanceOf (rule : ScheduleRule) (ruleId occurrence : ℤ) (exc : Option ScheduleException) :
    Schedule :=
  let schedule := ScheduleFactory.createOccurrence rule occurrence
  let schedule := (exc.map (ScheduleFactory.applyOverride schedule)).getD schedule
  { schedule with ruleId := some ruleId }

/-- `generate_next_schedule_instance`. -/
def generateNextScheduleInstance (repo : MemoryScheduleRepository) (now stamp : ℤ)
    (command : GenerateNextScheduleInstanceCommand) :
    GenerateNextScheduleInstanceResult × MemoryScheduleRepository :=
  if command.ruleId ≤ 0 then
    (failedGenerateNextScheduleInstanceResult (.error .invalidArgument "规则 ID 必须大于零"), repo)
  else
    match findById repo command.ruleId with
    | .error status => (failedGenerateNextScheduleInstanceResult status, repo)
    | .ok rule =>
      match searchNextInstance repo rule command.ruleId kMaximumGenerateAttempts now with
      | .finished => ({ status := .success }, repo)
      | .exhausted =>
        (failedGenerateNextScheduleInstanceResult
          (.error .internal "生成下一条实例超出迭代上限"), repo)
      | .found occurrence exc =>
        match createNextInstance repo stamp (instanceOf rule command.ruleId occurrence exc) exc with
        | (.error status, repo) => (failedGenerateNextScheduleInstanceResult status, repo)
        | (.ok inserted, repo) => ({ status := .success, schedule := some inserted }, repo)

end ScheduleRuleService

end VoiceLife
