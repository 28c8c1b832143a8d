import VoiceLife.Schedule.RuleService
import VoiceLife.Storage.MemoryReminderTaskRepository

/-! # `schedule_reminder_service.cc`: reminders for schedules

The service keeps one timer for each active schedule that lies ahead. Its state here holds the two
stores it works on, its own fields and what it has sent to Timing and to the speech and notification
ports. Timing may refuse a command; it answers registrations later, through calls of its own.
-/

namespace VoiceLife

/-- What one call finds outside the service: the clocks, and the commands that Timing accepts. -/
structure ReminderEnv where
  now : ℤ
  stamp : ℤ
  systemMicros : ℤ := 0
  acceptsRegister : String → Bool := fun _ => true
  acceptsCancel : String → Bool := fun _ => true

/-- A command that Timing has accepted, with the trigger time in microseconds. -/
inductive TimingCommand where
  | register (id : String) (triggerAt : ℤ)
  | cancel (id : String)
deriving DecidableEq, Repr

/-- `RetryState`. -/
structure RetryState where
  taskId : String
  failureCount : ℤ
deriving DecidableEq, Repr

/-- `ReminderActionCommand`. -/
structure ReminderActionCommand where
  operationId : String
  reminderTriggerId : String
  action : ScheduleReminderActionKind := .acknowledge
  snoozeMinutes : Option ℤ := none

/-- `ReminderActionResult`. -/
structure ReminderActionResult where
  affectedCount : ℕ := 0
  events : List String := []
  operationId : String := ""
  reminderTriggerId : String := ""
  action : ScheduleReminderActionKind := .acknowledge
  occurredAt : ℤ := 0
  nextTriggerAt : Option ℤ := none
  replayed : Bool := false
deriving DecidableEq, Repr

/-- `kMaximumAttempts`. -/
def kMaximumAttempts : ℤ := 3

/-- `kFollowUpDelay`, in seconds. -/
def kFollowUpDelay : ℤ := 600

/-- `kRecentWindow`, in seconds. -/
def kRecentWindow : ℤ := 600

/-- `kFinalSnoozeReminderNotice`. -/
def kFinalSnoozeReminderNotice : String := "这是最后一次提醒；之后不再创建新的推迟提醒。"

/-- The largest value of a 64-bit counter. -/
def int64Max : ℤ := 9223372036854775807

/-- `ToTriggerAt`: seconds to microseconds. -/
def toTriggerAt (value : ℤ) : ℤ :=
  value * 1000000

/-- `RetryDelay`, in seconds. -/
def retryDelay (failures : ℤ) : ℤ :=
  if failures ≤ 1 then 60 else if failures = 2 then 300 else 900

/-- `Pending`. -/
def ScheduleReminderTask.isPending (task : ScheduleReminderTask) : Bool :=
  task.timerStatus == .pending

/-- The task still waits for an answer. -/
def ScheduleReminderTask.isWaiting (task : ScheduleReminderTask) : Bool :=
  task.businessStatus == .waitingAcknowledgement || task.businessStatus == .exhausted

/-- An acknowledgement closes the task: it is scheduled, or waits for an answer. -/
def ScheduleReminderTask.isOpen (task : ScheduleReminderTask) : Bool :=
  task.businessStatus == .scheduled || task.isWaiting

/-- `first_failure`: the first failure of a loop is reported. -/
def firstFailure (first next : Status) : Status :=
  if !next.ok && first.ok then next else first

/-- `ScheduleReminderService` with its two stores. -/
structure ScheduleReminderService where
  repo : MemoryScheduleRepository := {}
  reminders : MemoryScheduleReminderTaskRepository := {}
  running : Bool := false
  sequence : ℤ := 0
  chainSequence : ℤ := 0
  generationRetries : List (ℤ × RetryState) := []
  timing : List TimingCommand := []
  spoken : List String := []
  notified : List (Schedule × ScheduleReminderTask) := []

namespace ScheduleReminderService

open ScheduleService ScheduleRuleService

variable (env : ReminderEnv)

/-! ## Identifiers, Timing and the store -/

/-- `AllocateChainId`. -/
def allocateChainId (s : ScheduleReminderService) : ℤ × ScheduleReminderService :=
  let next := if s.chainSequence = int64Max then 1 else s.chainSequence + 1
  (next, { s with chainSequence := next })

/-- `AllocateTaskId`. -/
def allocateTaskId (s : ScheduleReminderService) (label : String) :
    String × ScheduleReminderService :=
  let next := if s.sequence = int64Max then 1 else s.sequence + 1
  (label ++ "-" ++ toString next, { s with sequence := next })

/-- `CancelTask` of Timing; an empty identifier is not sent. -/
def cancelTiming (s : ScheduleReminderService) (timingTaskId : String) :
    Bool × ScheduleReminderService :=
  if timingTaskId.isEmpty then (true, s)
  else if env.acceptsCancel timingTaskId then
    (true, { s with timing := s.timing ++ [.cancel timingTaskId] })
  else (false, s)

/-- `Update` of the reminder store. -/
def updateTask (s : ScheduleReminderService) (task : ScheduleReminderTask) :
    Status × ScheduleReminderService :=
  let updated := s.reminders.update task
  (updated.1, { s with reminders := updated.2 })

/-- `RegisterPersistedTask`. -/
def registerPersistedTask (s : ScheduleReminderService) (task : ScheduleReminderTask) :
    Status × ScheduleReminderService :=
  match task.timingTaskId with
  | none => (.error .internal "提醒任务缺少 Timing task 标识", s)
  | some id =>
    if id.isEmpty then (.error .internal "提醒任务标识无效", s)
    else if env.acceptsRegister id then
      (.success, { s with timing := s.timing ++ [.register id (toTriggerAt task.triggerAt)] })
    else (.error .unavailable "提醒任务注册命令未被接收", s)

/-- The answer of Timing to a registration under a used identifier. -/
def duplicateRegistration (s : ScheduleReminderService) (reminderTaskId : ℤ) :
    ScheduleReminderService :=
  match s.reminders.findById reminderTaskId with
  | .error _ => s
  | .ok task =>
    if task.isPending then
      (s.updateTask { task with timerStatus := .failed, updatedAt := env.now }).2
    else s

/-- The task that `RegisterReminder` stores. -/
def newReminderTask (schedule : Schedule) (timingTaskId : String)
    (scheduleId chainId attempt triggerAt : ℤ) : ScheduleReminderTask :=
  { scheduleId, event := schedule.event, chainId, attempt, timingTaskId := some timingTaskId,
    triggerAt, businessStatus := .scheduled, timerStatus := .pending, createdAt := env.now,
    updatedAt := env.now }

/-- `RegisterReminder`: a new timer of a chain, stored first and then sent to Timing. -/
def registerReminder (s : ScheduleReminderService) (scheduleId chainId attempt triggerAt : ℤ) :
    Status × ScheduleReminderService :=
  match s.repo.findById scheduleId with
  | .error status => (status, s)
  | .ok schedule =>
    let allocated := s.allocateTaskId "schedule-reminder"
    let s := allocated.2
    match s.reminders.insert env.stamp
        (newReminderTask env schedule allocated.1 scheduleId chainId attempt triggerAt) with
    | (.error status, reminders) => (status, { s with reminders })
    | (.ok inserted, reminders) =>
      let registered := registerPersistedTask env { s with reminders } inserted
      if !registered.1.ok then
        (registered.1, (registered.2.updateTask
          { inserted with timerStatus := .failed, updatedAt := env.now }).2)
      else registered

/-! ## Cancelling and synchronising -/

/-- One task of `CancelPendingTasks`, with the first failure so far. -/
def cancelPendingTask (exceptTaskId : Option ℤ) (state : Status × ScheduleReminderService)
    (task : ScheduleReminderTask) : Status × ScheduleReminderService :=
  if !task.isPending || exceptTaskId == some task.id then state
  else
    let cancelled := match task.timingTaskId with
      | none => (true, state.2)
      | some id => cancelTiming env state.2 id
    if !cancelled.1 then
      (firstFailure state.1 (.error .unavailable "提醒任务取消命令未被接收"), cancelled.2)
    else
      let updated := cancelled.2.updateTask
        { task with
          timerStatus := .cancelled, businessStatus := .cancelled, updatedAt := env.now }
      (firstFailure state.1 updated.1, updated.2)

/-- `CancelPendingTasks`. -/
def cancelPendingTasks (s : ScheduleReminderService) (scheduleId : ℤ)
    (exceptTaskId : Option ℤ := none) : Status × ScheduleReminderService :=
  (s.reminders.findBySchedule scheduleId).foldl (cancelPendingTask env exceptTaskId) (.success, s)

/-- `SynchronizeSchedule`: the pending timers of the schedule are replaced by a new chain, if it is
active and lies ahead. -/
def synchronizeSchedule (s : ScheduleReminderService) (scheduleId : ℤ) :
    Status × ScheduleReminderService :=
  if !s.running then (.error .unavailable "日程提醒服务尚未启动", s)
  else
    match s.repo.findById scheduleId with
    | .error status => (status, s)
    | .ok loaded =>
      let cancelled := cancelPendingTasks env s scheduleId
      if !cancelled.1.ok then cancelled
      else
        match loaded.startTime with
        | none => (.success, cancelled.2)
        | some startTime =>
          if loaded.status ≠ .active ∨ startTime ≤ env.now then (.success, cancelled.2)
          else
            let allocated := cancelled.2.allocateChainId
            registerReminder env allocated.2 scheduleId allocated.1 1 startTime

/-- `CancelScheduleReminder`. -/
def cancelScheduleReminder (s : ScheduleReminderService) (scheduleId : ℤ) :
    Status × ScheduleReminderService :=
  match s.repo.findById scheduleId with
  | .error status => (status, s)
  | .ok _ => cancelPendingTasks env s scheduleId

/-- One schedule of `SuspendRuleReminders`. -/
def suspendSchedule (ruleId : ℤ) (state : Status × ScheduleReminderService) (schedule : Schedule) :
    Status × ScheduleReminderService :=
  if schedule.ruleId ≠ some ruleId then state
  else
    let cancelled := cancelPendingTasks env state.2 schedule.id
    (firstFailure state.1 cancelled.1, cancelled.2)

/-- `SuspendRuleReminders`: the timers of all instances of the rule, and its generation retry. -/
def suspendRuleReminders (s : ScheduleReminderService) (ruleId : ℤ) :
    Status × ScheduleReminderService :=
  if ruleId ≤ 0 then (.error .invalidArgument "规则 ID 必须大于零", s)
  else
    let suspended := s.repo.findAll.foldl (suspendSchedule env ruleId) (.success, s)
    let s := suspended.2
    match s.generationRetries.lookup ruleId with
    | none => suspended
    | some retry =>
      let s := { s with generationRetries := s.generationRetries.filter fun entry =>
        entry.1 != ruleId }
      let cancelled := cancelTiming env s retry.taskId
      if !cancelled.1 then
        (firstFailure suspended.1 (.error .unavailable "周期生成重试取消命令未被接收"), cancelled.2)
      else (suspended.1, cancelled.2)

/-- One schedule of `SynchronizeRule`. -/
def synchronizeInstance (ruleId : ℤ) (state : Status × ScheduleReminderService)
    (schedule : Schedule) : Status × ScheduleReminderService :=
  if schedule.ruleId ≠ some ruleId ∨ schedule.status ≠ .active then state
  else
    let synchronized := synchronizeSchedule env state.2 schedule.id
    (firstFailure state.1 synchronized.1, synchronized.2)

/-- `SynchronizeRule`. -/
def synchronizeRule (s : ScheduleReminderService) (ruleId : ℤ) :
    Status × ScheduleReminderService :=
  if ruleId ≤ 0 then (.error .invalidArgument "规则 ID 必须大于零", s)
  else s.repo.findAll.foldl (synchronizeInstance env ruleId) (.success, s)

/-! ## Firing -/

/-- `ScheduleGenerationRetry`. -/
def scheduleGenerationRetry (s : ScheduleReminderService) (ruleId failures : ℤ) :
    Status × ScheduleReminderService :=
  let allocated := s.allocateTaskId "schedule-rule-retry"
  let others := allocated.2.generationRetries.filter fun entry => entry.1 != ruleId
  if env.acceptsRegister allocated.1 then
    (.success, { allocated.2 with
      generationRetries := (ruleId, ⟨allocated.1, failures⟩) :: others
      timing := allocated.2.timing ++
        [.register allocated.1 (toTriggerAt (env.now + retryDelay failures))] })
  else
    (.error .unavailable "周期生成重试注册命令未被接收",
      { allocated.2 with generationRetries := others })

/-- `GenerateNextInstance`. -/
def generateNextInstance (s : ScheduleReminderService) (ruleId priorFailureCount : ℤ) :
    ScheduleReminderService :=
  if !s.running then s
  else
    let result := generateNextScheduleInstance s.repo env.now env.stamp { ruleId }
    let s := { s with repo := result.2 }
    if !result.1.status.ok then (scheduleGenerationRetry env s ruleId (priorFailureCount + 1)).2
    else
      let s := { s with generationRetries := s.generationRetries.filter fun entry =>
        entry.1 != ruleId }
      match result.1.schedule with
      | none => s
      | some schedule => (synchronizeSchedule env s schedule.id).2

/-- What `HandleReminder` says. -/
def reminderText (event : String) (attempt : ℤ) : String :=
  "提醒：现在是「" ++ event ++ "」时间了" ++
    if attempt ≥ kMaximumAttempts then " " ++ kFinalSnoozeReminderNotice else ""

/-- `HandleReminder`: a timer of the reminder chain has fired. -/
def handleReminder (s : ScheduleReminderService) (reminderTaskId : ℤ) (timingTaskId : String) :
    ScheduleReminderService :=
  if !s.running then s
  else
    match s.reminders.findById reminderTaskId with
    | .error _ => s
    | .ok loadedTask =>
      if !loadedTask.isPending || loadedTask.timingTaskId != some timingTaskId then s
      else
        match s.repo.findById loadedTask.scheduleId with
        | .error _ => s
        | .ok schedule =>
          if schedule.status ≠ .active then s
          else
            let task := { loadedTask with
              timerStatus := .triggered
              businessStatus := if loadedTask.attempt ≥ kMaximumAttempts then .exhausted
                else .waitingAcknowledgement
              triggeredAt := some env.now
              updatedAt := env.now }
            let updated := s.updateTask task
            if !updated.1.ok then updated.2
            else
              let followUp :=
                if task.attempt < kMaximumAttempts then
                  registerReminder env updated.2 task.scheduleId task.chainId (task.attempt + 1)
                    (env.now + kFollowUpDelay)
                else (.success, updated.2)
              let s := { followUp.2 with
                spoken := followUp.2.spoken ++ [reminderText schedule.event task.attempt]
                notified := if followUp.1.ok then followUp.2.notified ++ [(schedule, task)]
                  else followUp.2.notified }
              match schedule.ruleId with
              | none => s
              | some ruleId => if task.attempt = 1 then generateNextInstance env s ruleId 0 else s

/-- The callback of a generation retry. -/
def handleGenerationRetry (s : ScheduleReminderService) (ruleId : ℤ) (value : String) :
    ScheduleReminderService :=
  match s.generationRetries.lookup ruleId with
  | none => s
  | some retry =>
    if retry.taskId ≠ value then s
    else
      generateNextInstance env
        { s with generationRetries := s.generationRetries.filter fun entry => entry.1 != ruleId }
        ruleId retry.failureCount

/-- The answer of Timing to a generation retry under a used identifier. -/
def duplicateGenerationRetry (s : ScheduleReminderService) (ruleId : ℤ) (value : String) :
    ScheduleReminderService :=
  match s.generationRetries.lookup ruleId with
  | none => s
  | some retry =>
    if retry.taskId ≠ value then s
    else { s with generationRetries := s.generationRetries.filter fun entry => entry.1 != ruleId }

/-! ## Starting and stopping -/

/-- One stored task of `Start`, with the first failure so far. -/
def restoreTask (state : Status × ScheduleReminderService) (task : ScheduleReminderTask) :
    Status × ScheduleReminderService :=
  if !task.isPending then state
  else
    let cancelled := { task with
      timerStatus := .cancelled, businessStatus := .cancelled, updatedAt := env.now }
    match state.2.repo.findById task.scheduleId with
    | .error _ => (state.1, (state.2.updateTask cancelled).2)
    | .ok schedule =>
      if schedule.status ≠ .active then (state.1, (state.2.updateTask cancelled).2)
      else if task.triggerAt ≤ env.now then
        (state.1, handleReminder env state.2 task.id (task.timingTaskId.getD ""))
      else
        let restored := registerPersistedTask env state.2 task
        (firstFailure state.1 restored.1, restored.2)

/-- One stored schedule of `Start`: it gets a chain if it lies ahead and had no task. -/
def restoreSchedule (schedulesWithTasks : List ℤ) (state : Status × ScheduleReminderService)
    (schedule : Schedule) : Status × ScheduleReminderService :=
  match schedule.startTime with
  | none => state
  | some startTime =>
    if schedule.status ≠ .active ∨ startTime ≤ env.now ∨ schedule.id ∈ schedulesWithTasks then state
    else
      let allocated := state.2.allocateChainId
      let registered := registerReminder env allocated.2 schedule.id allocated.1 1 startTime
      (firstFailure state.1 registered.1, registered.2)

/-- `Start`. -/
def start (s : ScheduleReminderService) : Status × ScheduleReminderService :=
  let reminders := s.reminders.findAll
  if s.running then (.success, s)
  else
    let s := { s with
      running := true
      sequence := env.systemMicros
      chainSequence := reminders.foldl (fun sequence task => max sequence task.chainId)
        s.chainSequence }
    let restored := reminders.foldl (restoreTask env) (.success, s)
    restored.2.repo.findAll.foldl
      (restoreSchedule env (reminders.map ScheduleReminderTask.scheduleId)) restored

/-- `Stop`. -/
def stop (s : ScheduleReminderService) : ScheduleReminderService :=
  if !s.running then s
  else
    let ids := (s.reminders.findAll.filterMap fun task =>
        if task.isPending then task.timingTaskId else none) ++
      s.generationRetries.map fun entry => entry.2.taskId
    ids.foldl (fun s id => (cancelTiming env s id).2)
      { s with running := false, generationRetries := [] }

/-- A new service object over the stores of an earlier one. -/
def restarted (s : ScheduleReminderService) : ScheduleReminderService :=
  { repo := s.repo, reminders := s.reminders }

/-! ## Answers of the user -/

/-- One task of the loop of `AcknowledgeRecentReminders`; a failure ends the loop. -/
def acknowledgeTasks (chains : List ℤ) :
    List ScheduleReminderTask → ScheduleReminderService → Status × ScheduleReminderService
  | [], s => (.success, s)
  | task :: tasks, s =>
    if task.chainId ∉ chains then acknowledgeTasks chains tasks s
    else
      let cancels := task.isPending && task.timingTaskId.isSome
      let cancelled := if cancels then cancelTiming env s (task.timingTaskId.getD "") else (true, s)
      if !cancelled.1 then (.error .unavailable "后续提醒取消命令未被接收", cancelled.2)
      else
        let updated := cancelled.2.updateTask { task with
          timerStatus := if cancels then .cancelled else task.timerStatus
          businessStatus := if task.isOpen then .acknowledged else task.businessStatus
          updatedAt := env.now }
        if !updated.1.ok then updated else acknowledgeTasks chains tasks updated.2

/-- The last loop of `AcknowledgeRecentReminders`; a failure ends it. -/
def completeSchedules : List ℤ → ScheduleReminderService → Status × ScheduleReminderService
  | [], s => (.success, s)
  | id :: ids, s =>
    match s.repo.findById id with
    | .error _ => completeSchedules ids s
    | .ok schedule =>
      if schedule.status ≠ .active then completeSchedules ids s
      else
        let completed := completeSchedule s.repo env.now id
        if !completed.1.ok then (completed.1, { s with repo := completed.2 })
        else completeSchedules ids { s with repo := completed.2 }

/-- The event that an acknowledgement reports for a task. -/
def eventOf (s : ScheduleReminderService) (task : ScheduleReminderTask) : String :=
  if task.event.isEmpty then
    match s.repo.findById task.scheduleId with
    | .ok schedule => schedule.event
    | .error _ => task.event
  else task.event

/-- `AcknowledgeRecentReminders`. The source leaves open in which order it completes schedules. -/
def acknowledgeRecentReminders (s : ScheduleReminderService) :
    Result ReminderActionResult × ScheduleReminderService :=
  let recent := (s.reminders.findTriggered (env.now - kRecentWindow) env.now).filter
    ScheduleReminderTask.isWaiting
  let chains := (recent.map ScheduleReminderTask.chainId).dedup
  let events := ((recent.map s.eventOf).filter fun event => !event.isEmpty).dedup
  if chains.isEmpty then (.failure .notFound "最近 10 分钟内没有已触发的提醒", s)
  else
    let acknowledged := acknowledgeTasks env chains s.reminders.findAll s
    if !acknowledged.1.ok then (.error acknowledged.1, acknowledged.2)
    else
      let completed := completeSchedules env (recent.map ScheduleReminderTask.scheduleId).dedup
        acknowledged.2
      if !completed.1.ok then (.error completed.1, completed.2)
      else
        (.ok { affectedCount := chains.length, events, action := .acknowledge }, completed.2)

/-- `SnoozeRecentReminders`: it changes nothing. -/
def snoozeRecentReminders (s : ScheduleReminderService) : Result ReminderActionResult :=
  let recent := (s.reminders.findTriggered (env.now - kRecentWindow) env.now).filter
    ScheduleReminderTask.isWaiting
  let hasPendingFollowUp (triggered : ScheduleReminderTask) : Bool :=
    s.reminders.findAll.any fun task => task.chainId == triggered.chainId && task.isPending &&
      task.businessStatus == .scheduled
  let chains := ((recent.filter hasPendingFollowUp).map ScheduleReminderTask.chainId).dedup
  if chains.isEmpty then .failure .notFound "最近 10 分钟内没有可延迟的提醒"
  else .ok { affectedCount := chains.length, action := .snooze }

/-- The checks of `ExecuteReminderAction` on its arguments. -/
def checkReminderAction (command : ReminderActionCommand) : Status :=
  if command.operationId.isEmpty || command.reminderTriggerId.isEmpty then
    .error .invalidArgument "提醒动作标识不能为空"
  else if (command.action = .acknowledge ∧ command.snoozeMinutes.isSome) ∨
      (command.action ≠ .acknowledge ∧ command.snoozeMinutes ≠ some (kFollowUpDelay / 60)) then
    .error .invalidArgument "提醒动作参数无效"
  else .success

/-- The loop of `ExecuteReminderAction` that cancels the timers of the chain; a refusal ends it. -/
def cancelChain (chainId : ℤ) :
    List ScheduleReminderTask → ScheduleReminderService → Bool × ScheduleReminderService
  | [], s => (true, s)
  | task :: tasks, s =>
    if task.chainId ≠ chainId ∨ !task.isPending then cancelChain chainId tasks s
    else
      match task.timingTaskId with
      | none => cancelChain chainId tasks s
      | some id =>
        let cancelled := cancelTiming env s id
        if !cancelled.1 then cancelled else cancelChain chainId tasks cancelled.2

/-- The loop of `ExecuteReminderAction` over the other tasks of the chain; a failure ends it. -/
def acknowledgeSiblings (target : ScheduleReminderTask) :
    List ScheduleReminderTask → ScheduleReminderService → Status × ScheduleReminderService
  | [], s => (.success, s)
  | task :: tasks, s =>
    if task.chainId ≠ target.chainId ∨ task.id = target.id then acknowledgeSiblings target tasks s
    else
      let updated := s.updateTask { task with
        timerStatus := if task.isPending then .cancelled else task.timerStatus
        businessStatus := if task.isOpen then .acknowledged else task.businessStatus
        updatedAt := env.now }
      if !updated.1.ok then updated else acknowledgeSiblings target tasks updated.2

/-- The branch of `ExecuteReminderAction` for a snooze: the follow-up that is already registered
counts as the snoozed reminder. -/
def snoozeTarget (s : ScheduleReminderService) (command : ReminderActionCommand)
    (target : ScheduleReminderTask) : Result ReminderActionResult × ScheduleReminderService :=
  let followUp := (s.reminders.findBySchedule target.scheduleId).find? fun task =>
    task.chainId == target.chainId && decide (task.attempt > target.attempt) &&
      task.businessStatus == .scheduled && task.isPending
  match followUp with
  | none => (.failure .notFound "提醒没有可用的后续触发时间", s)
  | some followUp =>
    let updated := s.updateTask { target with
      businessStatus := .snoozed
      actionOperationId := some command.operationId
      actionKind := some command.action
      actionOccurredAt := some env.now
      actionNextTriggerAt := some followUp.triggerAt
      updatedAt := env.now }
    if !updated.1.ok then (.error updated.1, updated.2)
    else
      (.ok { affectedCount := 1, operationId := command.operationId,
             reminderTriggerId := command.reminderTriggerId, action := command.action,
             occurredAt := env.now, nextTriggerAt := some followUp.triggerAt }, updated.2)

/-- The branch of `ExecuteReminderAction` for an acknowledgement: timers, siblings, schedule and at
last the task itself. -/
def acknowledgeTarget (s : ScheduleReminderService) (command : ReminderActionCommand)
    (target : ScheduleReminderTask) : Result ReminderActionResult × ScheduleReminderService :=
  let scheduleTasks := s.reminders.findBySchedule target.scheduleId
  let cancelled := cancelChain env target.chainId scheduleTasks s
  if !cancelled.1 then (.failure .unavailable "后续提醒取消命令未被接收", cancelled.2)
  else
    let siblings := acknowledgeSiblings env target scheduleTasks cancelled.2
    if !siblings.1.ok then (.error siblings.1, siblings.2)
    else
      let s := siblings.2
      match s.repo.findById target.scheduleId with
      | .error status => (.error status, s)
      | .ok schedule =>
        let completed :=
          if schedule.status = .active then completeSchedule s.repo env.now target.scheduleId
          else if schedule.status ≠ .completed then
            (.error .alreadyExists "提醒关联日程不可完成", s.repo)
          else (.success, s.repo)
        let s := { s with repo := completed.2 }
        if !completed.1.ok then (.error completed.1, s)
        else
          let updated := s.updateTask { target with
            businessStatus := .acknowledged
            actionOperationId := some command.operationId
            actionKind := some command.action
            actionOccurredAt := some env.now
            actionNextTriggerAt := none
            updatedAt := env.now }
          if !updated.1.ok then (.error updated.1, updated.2)
          else
            (.ok { affectedCount := 1, operationId := command.operationId,
                   reminderTriggerId := command.reminderTriggerId, action := command.action,
                   occurredAt := env.now }, updated.2)

/-- `ExecuteReminderAction`. -/
def executeReminderAction (s : ScheduleReminderService) (command : ReminderActionCommand) :
    Result ReminderActionResult × ScheduleReminderService :=
  let checked := checkReminderAction command
  if !checked.ok then (.error checked, s)
  else
    match s.reminders.findByTimingTaskId command.reminderTriggerId with
    | .error status => (.error status, s)
    | .ok target =>
      match target.actionOperationId with
      | some operationId =>
        if target.actionKind ≠ some command.action then
          (.failure .alreadyExists "提醒已由其他 operationId 或动作处理", s)
        else
          match target.actionOccurredAt with
          | none => (.failure .alreadyExists "提醒已由其他 operationId 或动作处理", s)
          | some occurredAt =>
            (.ok { affectedCount := 1, operationId, reminderTriggerId := command.reminderTriggerId,
                   action := command.action, occurredAt,
                   nextTriggerAt := target.actionNextTriggerAt, replayed := true }, s)
      | none =>
        if !target.isWaiting then (.failure .alreadyExists "提醒已经进入不可操作终态", s)
        else if s.reminders.findAll.any fun task =>
            task.actionOperationId == some command.operationId then
          (.failure .alreadyExists "operationId 已用于其他提醒动作", s)
        else if command.action = .acknowledge then acknowledgeTarget env s command target
        else snoozeTarget env s command target

/-- What the loop of `ExecuteRecentReminderActions` carries along. -/
structure RecentActions where
  results : List ReminderActionResult := []
  firstFailure : Status := .success
  service : ScheduleReminderService

/-- The command that `ExecuteRecentReminderActions` makes for a task. -/
def recentActionCommand (operationId : String) (action : ScheduleReminderActionKind)
    (timingTaskId : String) : ReminderActionCommand :=
  { operationId, reminderTriggerId := timingTaskId, action,
    snoozeMinutes := if action = .snooze then some 10 else none }

/-- The result of a command, with the event of its schedule for an acknowledgement. -/
def withScheduleEvent (s : ScheduleReminderService) (action : ScheduleReminderActionKind)
    (scheduleId : ℤ) (result : ReminderActionResult) : ReminderActionResult :=
  if action = .acknowledge then
    match s.repo.findById scheduleId with
    | .error _ => result
    | .ok schedule =>
      if schedule.event.isEmpty then result
      else { result with events := result.events ++ [schedule.event] }
  else result

/-- One task of the loop of `ExecuteRecentReminderActions`. -/
def executeRecentAction (action : ScheduleReminderActionKind) (state : RecentActions)
    (task : ScheduleReminderTask) : RecentActions :=
  match task.timingTaskId with
  | none => state
  | some timingTaskId =>
    if !task.isWaiting then state
    else
      let allocated := state.service.allocateTaskId "voice-action"
      let executed := executeReminderAction env allocated.2
        (recentActionCommand allocated.1 action timingTaskId)
      match executed.1 with
      | .ok result =>
        { state with
          results := state.results ++ [withScheduleEvent executed.2 action task.scheduleId result]
          service := executed.2 }
      | .error status =>
        { state with
          firstFailure := if state.firstFailure.ok then status else state.firstFailure
          service := executed.2 }

/-- `ExecuteRecentReminderActions`: the action on every reminder of the last ten minutes. -/
def executeRecentReminderActions (s : ScheduleReminderService)
    (action : ScheduleReminderActionKind) :
    Result (List ReminderActionResult) × ScheduleReminderService :=
  let recent := s.reminders.findTriggered (env.now - kRecentWindow) env.now
  let executed := recent.foldl (executeRecentAction env action) { service := s }
  if !executed.firstFailure.ok then (.error executed.firstFailure, executed.service)
  else if executed.results.isEmpty then
    (.failure .notFound "最近 10 分钟内没有可操作的提醒", executed.service)
  else (.ok executed.results, executed.service)

end ScheduleReminderService

end VoiceLife
