import VoiceLife.Lib.OrderedIndex

/-! # `timing_task.cc`: the in-memory timing runner

Instants are microseconds since the Unix epoch. Task callbacks and result handlers are client code
that may call the runner again; they are scripts here, trees of calls that may branch on everything
that has happened so far. The runner writes what it does into a log.
-/

namespace VoiceLife

/-- `TaskId`: an opaque name that is not empty. -/
structure TaskId where
  value : String
  ne_empty : value ≠ ""

/-- `TaskId::Create`. -/
def TaskId.create (value : String) : Option TaskId :=
  if h : value = "" then none else some ⟨value, h⟩

theorem TaskId.value_injective : Function.Injective TaskId.value := by
  rintro ⟨v, hv⟩ ⟨w, hw⟩ h
  cases h
  rfl

/-- Identifiers are compared by their values. -/
instance : LinearOrder TaskId := LinearOrder.lift' TaskId.value TaskId.value_injective

instance : LawfulBEq TaskId := inferInstance

/-- `RegisterTaskResult`. -/
inductive RegisterTaskResult where
  | registered
  | duplicate
deriving DecidableEq, Repr

/-- `CancelTaskResult`. -/
inductive CancelTaskResult where
  | cancelled
  | notFound
deriving DecidableEq, Repr

/-- `TaskStatus`. -/
inductive TaskStatus where
  | pending
  | executing
  | completed
  | cancelled
deriving DecidableEq, Repr

/-- `Task`. -/
structure Task where
  id : TaskId
  triggerAt : ℤ
  status : TaskStatus := .pending
  createdAt : ℤ
  updatedAt : ℤ

/-- `RunDueTasksResult`. -/
structure RunDueTasksResult where
  processedCount : ℕ := 0
  skippedCount : ℕ := 0
  nextWakeAt : Option ℤ := none

/-- A command without its callbacks. -/
inductive TaskOrder where
  | register (id : TaskId) (triggerAt : ℤ)
  | cancel (id : TaskId)

/-- What the log records; a result says whether its command came from the queue. -/
inductive TimingEvent where
  | submitted (order : TaskOrder)
  | registerResult (queued : Bool) (id : TaskId) (triggerAt : ℤ) (result : RegisterTaskResult)
  | cancelResult (queued : Bool) (id : TaskId) (result : CancelTaskResult)
  | batchTaken (now : ℤ)
  | invoked (id : TaskId) (triggerAt : ℤ)
  | batchDone (result : RunDueTasksResult)

/-- Client code between entering and leaving a callback. A handler that is left out is `done`. -/
inductive Script where
  | done
  | observe (next : List TimingEvent → Script)
  | registerTask (taskId : TaskId) (triggerAt : ℤ) (callback : Script)
      (onResult : RegisterTaskResult → Script) (next : Script)
  | cancelTask (taskId : TaskId) (onResult : CancelTaskResult → Script) (next : Script)
  | processPendingCommands (appliedAt : ℤ) (next : ℕ → Script)

/-- `RegisterTaskCommand`. -/
structure RegisterTaskCommand where
  taskId : TaskId
  triggerAt : ℤ
  callback : Script
  onResult : RegisterTaskResult → Script

/-- `CancelTaskCommand`. -/
structure CancelTaskCommand where
  taskId : TaskId
  onResult : CancelTaskResult → Script

/-- `PendingCommand`. -/
inductive PendingCommand where
  | register (command : RegisterTaskCommand)
  | cancel (command : CancelTaskCommand)

/-- The order of a command. -/
def PendingCommand.order : PendingCommand → TaskOrder
  | .register command => .register command.taskId command.triggerAt
  | .cancel command => .cancel command.taskId

/-- `PendingTask`. -/
structure PendingTask where
  task : Task
  callback : Script

/-- Pending tasks are ordered by their trigger time and then by their identifier. -/
def PendingTask.rank (pending : PendingTask) : ℤ ×ₗ TaskId :=
  toLex (pending.task.triggerAt, pending.task.id)

/-- The index of the pending tasks is keyed by their identifiers. -/
def PendingTask.id (pending : PendingTask) : TaskId :=
  pending.task.id

/-- `InMemoryTimingTaskRunner`. A list with an index stands for `pending_tasks_` and
`pending_tasks_by_id_`; the runner is the active callback runner exactly while `callbackAppliedAt` is
set. -/
structure InMemoryTimingTaskRunner where
  commands : List PendingCommand := []
  usedTaskIds : List TaskId := []
  pendingTasks : OrderedIndex PendingTask.rank PendingTask.id := .empty
  terminalTasks : List Task := []
  processingCommands : Bool := false
  callbackAppliedAt : Option ℤ := none
  log : List TimingEvent := []
  id_used : ∀ pending ∈ pendingTasks.values, pending.id ∈ usedTaskIds := by simp

namespace InMemoryTimingTaskRunner

/-- Write an event into the log. -/
def record (r : InMemoryTimingTaskRunner) (event : TimingEvent) : InMemoryTimingTaskRunner :=
  { r with log := r.log ++ [event] }

/-- The end of `RegisterTask` and `CancelTask` outside a callback. -/
def enqueue (r : InMemoryTimingTaskRunner) (command : PendingCommand) : InMemoryTimingTaskRunner :=
  { r with commands := r.commands ++ [command] }.record (.submitted command.order)

/-- A used identifier has no pending task under another address: new identifiers are not indexed. -/
theorem addressOf_eq_none (r : InMemoryTimingTaskRunner) {id : TaskId} (h : id ∉ r.usedTaskIds) :
    r.pendingTasks.addressOf id = none := by
  rw [OrderedIndex.addressOf_eq_none]
  intro pending hpending hid
  exact h (hid ▸ r.id_used pending hpending)

/-- `ApplyRegisterTask` up to the call of `on_result`, which the caller makes. -/
def applyRegisterTask (r : InMemoryTimingTaskRunner) (command : RegisterTaskCommand)
    (appliedAt : ℤ) : RegisterTaskResult × InMemoryTimingTaskRunner :=
  if h : command.taskId ∈ r.usedTaskIds then
    (.duplicate, r)
  else
    let pendingTask : PendingTask :=
      { task := { id := command.taskId, triggerAt := command.triggerAt, status := .pending,
                  createdAt := appliedAt, updatedAt := appliedAt }
        callback := command.callback }
    (.registered,
      { r with
        pendingTasks := r.pendingTasks.insert pendingTask (r.addressOf_eq_none h)
        usedTaskIds := r.usedTaskIds ++ [command.taskId]
        id_used := by
          intro pending hpending
          rcases OrderedIndex.mem_insert.1 hpending with rfl | hpending
          · exact List.mem_append_right _ (List.mem_singleton_self _)
          · exact List.mem_append_left _ (r.id_used pending hpending) })

/-- Take a node out of the pending tasks. -/
def erase (r : InMemoryTimingTaskRunner) (node : Node PendingTask)
    (h : node ∈ r.pendingTasks.nodes) : InMemoryTimingTaskRunner :=
  { r with
    pendingTasks := r.pendingTasks.erase node h
    id_used := fun pending hpending => r.id_used pending (OrderedIndex.mem_erase.1 hpending).1 }

/-- `ApplyCancelTask` up to the call of `on_result`, which the caller makes. -/
def applyCancelTask (r : InMemoryTimingTaskRunner) (taskId : TaskId) (appliedAt : ℤ) :
    CancelTaskResult × InMemoryTimingTaskRunner :=
  match h : r.pendingTasks.find? taskId with
  | some node =>
    let task := { node.value.task with status := .cancelled, updatedAt := appliedAt }
    (.cancelled,
      { r.erase node (OrderedIndex.find?_eq_some.1 h).1 with
        terminalTasks := r.terminalTasks ++ [task] })
  | none => (.notFound, r)

/-- Run client code. In a callback its commands are applied at once, elsewhere they are queued;
`process` is what `ProcessPendingCommands` does for it. -/
def runWith (process : ℤ → InMemoryTimingTaskRunner → ℕ × InMemoryTimingTaskRunner) :
    Script → InMemoryTimingTaskRunner → InMemoryTimingTaskRunner
  | .done, r => r
  | .observe next, r => runWith process (next r.log) r
  | .registerTask taskId triggerAt callback onResult next, r =>
    match r.callbackAppliedAt with
    | some appliedAt =>
      let applied := r.applyRegisterTask ⟨taskId, triggerAt, callback, onResult⟩ appliedAt
      let r := applied.2.record (.registerResult false taskId triggerAt applied.1)
      runWith process next (runWith process (onResult applied.1) r)
    | none => runWith process next (r.enqueue (.register ⟨taskId, triggerAt, callback, onResult⟩))
  | .cancelTask taskId onResult next, r =>
    match r.callbackAppliedAt with
    | some appliedAt =>
      let applied := r.applyCancelTask taskId appliedAt
      let r := applied.2.record (.cancelResult false taskId applied.1)
      runWith process next (runWith process (onResult applied.1) r)
    | none => runWith process next (r.enqueue (.cancel ⟨taskId, onResult⟩))
  | .processPendingCommands appliedAt next, r =>
    let processed := process appliedAt r
    runWith process (next processed.1) processed.2

/-- `ProcessPendingCommands` while it is already running: `processing_commands_` is set. -/
def processNested (_ : ℤ) (r : InMemoryTimingTaskRunner) : ℕ × InMemoryTimingTaskRunner :=
  (0, r)

/-- One command of `ProcessPendingCommands`, with its handler. -/
def applyCommand (r : InMemoryTimingTaskRunner) (appliedAt : ℤ) (command : PendingCommand) :
    InMemoryTimingTaskRunner :=
  match command with
  | .cancel command =>
    let applied := r.applyCancelTask command.taskId appliedAt
    runWith processNested (command.onResult applied.1)
      (applied.2.record (.cancelResult true command.taskId applied.1))
  | .register command =>
    let applied := r.applyRegisterTask command appliedAt
    runWith processNested (command.onResult applied.1)
      (applied.2.record (.registerResult true command.taskId command.triggerAt applied.1))

/-- The loop of `ProcessPendingCommands`; handlers only append to the queue, so it does not run dry. -/
def processCommands (appliedAt : ℤ) : ℕ → InMemoryTimingTaskRunner → InMemoryTimingTaskRunner
  | 0, r => r
  | count + 1, r =>
    match r.commands with
    | [] => r
    | command :: commands =>
      processCommands appliedAt count ({ r with commands }.applyCommand appliedAt command)

/-- `ProcessPendingCommands`, with the number of commands taken. -/
def processPendingCommands (appliedAt : ℤ) (r : InMemoryTimingTaskRunner) :
    ℕ × InMemoryTimingTaskRunner :=
  if r.processingCommands then (0, r)
  else
    let processedCount := r.commands.length
    let r := processCommands appliedAt processedCount { r with processingCommands := true }
    (processedCount, { r with processingCommands := false })

/-- Run client code that is not a handler of `ProcessPendingCommands`. -/
def runScript (script : Script) (r : InMemoryTimingTaskRunner) : InMemoryTimingTaskRunner :=
  runWith processPendingCommands script r

/-- `NextWakeAt`. -/
def nextWakeAt (r : InMemoryTimingTaskRunner) : Option ℤ :=
  r.pendingTasks.values.head?.map fun pending => pending.task.triggerAt

/-- One due task of `RunDueTasks` that is still pending. -/
def invoke (r : InMemoryTimingTaskRunner) (now : ℤ) (node : Node PendingTask)
    (h : node ∈ r.pendingTasks.nodes) : InMemoryTimingTaskRunner :=
  let r := ({ r.erase node h with callbackAppliedAt := some now }).record
    (.invoked node.value.task.id node.value.task.triggerAt)
  let r := runScript node.value.callback r
  { r with
    callbackAppliedAt := none
    terminalTasks :=
      r.terminalTasks ++ [{ node.value.task with status := .completed, updatedAt := now }] }

/-- The loop of `RunDueTasks` over the identifiers of its batch, with the two counts. -/
def runBatch (now : ℤ) : List TaskId → ℕ × ℕ × InMemoryTimingTaskRunner →
    ℕ × ℕ × InMemoryTimingTaskRunner
  | [], state => state
  | dueTaskId :: dueTaskIds, (processedCount, skippedCount, r) =>
    match h : r.pendingTasks.find? dueTaskId with
    | none => runBatch now dueTaskIds (processedCount, skippedCount + 1, r)
    | some node =>
      runBatch now dueTaskIds
        (processedCount + 1, skippedCount, r.invoke now node (OrderedIndex.find?_eq_some.1 h).1)

/-- `RunDueTasks`. -/
def runDueTasks (now : ℤ) (r : InMemoryTimingTaskRunner) :
    RunDueTasksResult × InMemoryTimingTaskRunner :=
  let r := (processPendingCommands now r).2.record (.batchTaken now)
  let dueTaskIds := (r.pendingTasks.upTo fun pending => pending.task.triggerAt ≤ now).map
    PendingTask.id
  let batch := runBatch now dueTaskIds (0, 0, r)
  let result : RunDueTasksResult :=
    { processedCount := batch.1, skippedCount := batch.2.1, nextWakeAt := batch.2.2.nextWakeAt }
  (result, batch.2.2.record (.batchDone result))

end InMemoryTimingTaskRunner

/-- What the owner of a runner does: run client code, or run the due tasks. -/
inductive TimingCall where
  | client (script : Script)
  | runDueTasks (now : ℤ)

/-- The runner after a call. -/
def TimingCall.step (r : InMemoryTimingTaskRunner) : TimingCall → InMemoryTimingTaskRunner
  | .client script => r.runScript script
  | .runDueTasks now => (r.runDueTasks now).2

end VoiceLife
