import VoiceLife.Schedule.Factory
import VoiceLife.Schedule.TimeRules
import VoiceLife.Storage.MemoryScheduleRepository

/-! # `schedule_service.cc`: one-off schedules and materialised instances

The operations run over the memory store; `now` is the clock reading of the call. The optional
operation log of the source is left out: its outcome is ignored there.
-/

namespace VoiceLife

/-- `kMaximumEventLength` of schedules, in characters. -/
def kMaximumEventLength : ℕ := 100

/-- `CreateScheduleResult`. -/
structure CreateScheduleResult where
  result : Result (Option Schedule)
  message : String := ""
  conflicts : List Schedule := []
  nearbySchedules : List Schedule := []

/-- `CancelScheduleResult`. -/
structure CancelScheduleResult where
  result : Result Bool
  scheduleId : ℤ

/-- `UpdateScheduleResult`. -/
structure UpdateScheduleResult where
  result : Result (Option Schedule)
  message : String := ""
  conflicts : List Schedule := []

/-- `QueryScheduleResult`. -/
structure QueryScheduleResult where
  result : Result (List Schedule)
  total : ℕ := 0

/-- `InvalidCreateScheduleResult`. -/
def invalidCreateScheduleResult (error : String) : CreateScheduleResult :=
  { result := .failure .invalidArgument error }

/-- `InvalidUpdateScheduleResult`. -/
def invalidUpdateScheduleResult (error : String) : UpdateScheduleResult :=
  { result := .failure .invalidArgument error }

/-- `ApplyNullableUpdate` and `ApplyPatch`. -/
def applyPatch {α : Type} (patch : FieldPatch α) (target : Option α) : Option α :=
  patch.getD target

namespace ScheduleService

/-- The candidates that a search around a schedule returns. -/
def nearbyCandidates (repo : MemoryScheduleRepository) (schedule : Schedule)
    (excludeId : Option ℤ) : List Schedule :=
  let (windowStart, windowEnd) := scheduleNearbyWindow schedule
  repo.findOverlapping windowStart windowEnd excludeId

/-- The candidates of a conflict test that is only made when `wanted`. -/
def candidatesIf (wanted : Bool) (repo : MemoryScheduleRepository) (schedule : Schedule)
    (excludeId : Option ℤ) : List Schedule :=
  if wanted then nearbyCandidates repo schedule excludeId else []

/-- The message of a successful creation. -/
def createdMessage (nearbySchedules : List Schedule) : String :=
  if nearbySchedules.isEmpty then "日程创建成功" else "日程创建成功，附近还有其他日程"

/-- `create_schedule`. -/
def createSchedule (repo : MemoryScheduleRepository) (now : ℤ) (command : CreateScheduleCommand) :
    CreateScheduleResult × MemoryScheduleRepository :=
  let event := trimScheduleText command.event
  if event.isEmpty then (invalidCreateScheduleResult "日程名称不能为空", repo)
  else if scheduleTextLength event > kMaximumEventLength then
    (invalidCreateScheduleResult "日程名称不能超过 100 个字符", repo)
  else if command.startTime.isNone && command.endTime.isSome then
    (invalidCreateScheduleResult "日程提供结束时间时必须同时提供开始时间", repo)
  else if command.startTime.any fun start => command.endTime.any fun finish => finish ≤ start then
    (invalidCreateScheduleResult "日程结束时间必须晚于开始时间", repo)
  else
    let schedule := ScheduleFactory.createFromCommand { command with event }
    let candidates := candidatesIf schedule.startTime.isSome repo schedule none
    let conflicts := findConflictingSchedules schedule candidates none
    let nearbySchedules := findNearbySchedules schedule candidates
    if !conflicts.isEmpty && !command.ignoreConflict then
      ({ result := .failure .conflict "日程时间与已有日程冲突", conflicts, nearbySchedules }, repo)
    else
      match repo.insert now schedule with
      | (.error status, repo) => ({ result := .error status, conflicts, nearbySchedules }, repo)
      | (.ok stored, repo) =>
        ({ result := .ok (some stored)
           message := createdMessage nearbySchedules
           conflicts, nearbySchedules }, repo)

/-- `cancel_schedule`. -/
def cancelSchedule (repo : MemoryScheduleRepository) (now : ℤ) (command : CancelScheduleCommand) :
    CancelScheduleResult × MemoryScheduleRepository :=
  let scheduleId := command.scheduleId
  if scheduleId ≤ 0 then
    ({ result := .failure .invalidArgument "日程 ID 必须为正整数", scheduleId }, repo)
  else
    match repo.findById scheduleId with
    | .error status => ({ result := .error status, scheduleId }, repo)
    | .ok _ =>
      match repo.delete now scheduleId with
      | (cancelled, repo) =>
        if cancelled.ok then ({ result := .ok true, scheduleId }, repo)
        else ({ result := .error cancelled, scheduleId }, repo)

/-- The loaded schedule with the fields of an update command written over it; the event is written
trimmed. -/
def applyUpdate (command : UpdateScheduleCommand) (loaded : Schedule) : Schedule :=
  { loaded with
    event := (command.event.map trimScheduleText).getD loaded.event
    startTime := applyPatch command.startTime loaded.startTime
    endTime := applyPatch command.endTime loaded.endTime
    location := applyPatch command.location loaded.location
    notes := applyPatch command.notes loaded.notes }

/-- `update_schedule`. -/
def updateSchedule (repo : MemoryScheduleRepository) (now : ℤ) (command : UpdateScheduleCommand) :
    UpdateScheduleResult × MemoryScheduleRepository :=
  let hasUpdate := command.event.isSome || command.startTime.isSome || command.endTime.isSome ||
    command.location.isSome || command.notes.isSome
  if command.scheduleId ≤ 0 then (invalidUpdateScheduleResult "日程 ID 必须大于零", repo)
  else if !hasUpdate then (invalidUpdateScheduleResult "至少需要提供一个要修改的字段", repo)
  else
    match repo.findById command.scheduleId with
    | .error status => ({ result := .error status }, repo)
    | .ok loaded =>
      let updated := applyUpdate command loaded
      if command.event.isSome && updated.event.isEmpty then
        (invalidUpdateScheduleResult "日程名称不能为空", repo)
      else if command.event.isSome && scheduleTextLength updated.event > kMaximumEventLength then
        (invalidUpdateScheduleResult "日程名称不能超过 100 个字符", repo)
      else if updated.startTime.isNone && updated.endTime.isSome then
        (invalidUpdateScheduleResult "日程提供结束时间时必须同时提供开始时间", repo)
      else if updated.startTime.any fun start => updated.endTime.any fun finish =>
          finish ≤ start then
        (invalidUpdateScheduleResult "日程结束时间必须晚于开始时间", repo)
      else
        let candidates := candidatesIf (updated.status == .active && updated.startTime.isSome) repo
          updated (some updated.id)
        let conflicts := findConflictingSchedules updated candidates none
        if !conflicts.isEmpty && !command.ignoreConflict then
          ({ result := .failure .conflict "修改后的日程时间与已有日程冲突", conflicts }, repo)
        else
          let updated := { updated with updatedAt := now }
          match repo.update updated with
          | (stored, repo) =>
            if stored.ok then
              ({ result := .ok (some updated)
                 message :=
                   if conflicts.isEmpty then "日程修改成功" else "日程修改成功，已忽略时间冲突"
                 conflicts }, repo)
            else ({ result := .error stored, conflicts }, repo)

/-- `complete_schedule`. -/
def completeSchedule (repo : MemoryScheduleRepository) (now : ℤ) (scheduleId : ℤ) :
    Status × MemoryScheduleRepository :=
  if scheduleId ≤ 0 then (.error .invalidArgument "日程 ID 必须大于零", repo)
  else
    match repo.findById scheduleId with
    | .error status => (status, repo)
    | .ok completed =>
      if completed.status ≠ .active then
        (.error .conflict "只有进行中的日程可以标记为已完成", repo)
      else repo.update { completed with status := .completed, updatedAt := now }

/-- `ValidateQueryScheduleCommand`. -/
def validateQueryScheduleCommand (command : QueryScheduleCommand) : Status :=
  if command.scheduleId.any fun id => id ≤ 0 then .error .invalidArgument "日程 ID 必须大于 0"
  else if command.ruleId.any fun id => id ≤ 0 then .error .invalidArgument "规则 ID 必须大于 0"
  else if command.startFrom.any fun startFrom => command.startTo.any fun startTo =>
      startFrom > startTo then
    .error .invalidArgument "开始时间范围下限不能晚于上限"
  else if command.limit ≤ 0 ∨ command.limit > 50 then
    .error .invalidArgument "返回条数必须在 1 到 50 之间"
  else if command.offset < 0 then .error .invalidArgument "分页偏移量不能小于 0"
  else .success

/-- `query_schedule`. -/
def querySchedule (repo : MemoryScheduleRepository) (command : QueryScheduleCommand) :
    QueryScheduleResult :=
  let validation := validateQueryScheduleCommand command
  if validation.ok then { result := .ok (repo.find command), total := repo.count command }
  else { result := .error validation }

end ScheduleService

end VoiceLife
