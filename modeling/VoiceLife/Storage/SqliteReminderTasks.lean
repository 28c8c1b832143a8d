import VoiceLife.Storage.MemoryReminderTaskRepository
import VoiceLife.Storage.SqliteDatabase

/-! # `sqlite_schedule_reminder_task_repository.cc`: the lasting store of reminder tasks

The table `schedule_reminder_task` as `schema/migrations/v008` leaves it, with its constraints as part of
the state, the statements of `sql/schedule_reminder_task_sql.cc` on it, and the row mapper. The library
fails for constraints alone; that a text is longer than it can hold is left out.
-/

namespace VoiceLife

open Sql

/-! ## Columns -/

/-- The value of `ScheduleReminderBusinessStatus`. -/
def ScheduleReminderBusinessStatus.toInt : ScheduleReminderBusinessStatus → ℤ
  | .scheduled => 1
  | .waitingAcknowledgement => 2
  | .acknowledged => 3
  | .exhausted => 4
  | .cancelled => 5
  | .snoozed => 6

/-- `ValidBusinessStatus` and the cast after it. -/
def ScheduleReminderBusinessStatus.ofInt? : ℤ → Option ScheduleReminderBusinessStatus
  | 1 => some .scheduled
  | 2 => some .waitingAcknowledgement
  | 3 => some .acknowledged
  | 4 => some .exhausted
  | 5 => some .cancelled
  | 6 => some .snoozed
  | _ => none

/-- The value of `ScheduleReminderTimerStatus`. -/
def ScheduleReminderTimerStatus.toInt : ScheduleReminderTimerStatus → ℤ
  | .pending => 1
  | .triggered => 2
  | .cancelled => 3
  | .completed => 4
  | .failed => 5

/-- `ValidTimerStatus` and the cast after it. -/
def ScheduleReminderTimerStatus.ofInt? : ℤ → Option ScheduleReminderTimerStatus
  | 1 => some .pending
  | 2 => some .triggered
  | 3 => some .cancelled
  | 4 => some .completed
  | 5 => some .failed
  | _ => none

/-- The value of `ScheduleReminderActionKind`. -/
def ScheduleReminderActionKind.toInt : ScheduleReminderActionKind → ℤ
  | .acknowledge => 1
  | .snooze => 2

/-- The range check of `ReadScheduleReminderTask` and the cast after it. -/
def ScheduleReminderActionKind.ofInt? : ℤ → Option ScheduleReminderActionKind
  | 1 => some .acknowledge
  | 2 => some .snooze
  | _ => none

@[simp] theorem ScheduleReminderBusinessStatus.ofInt?_toInt (status : ScheduleReminderBusinessStatus) :
    ofInt? status.toInt = some status := by
  cases status <;> rfl

@[simp] theorem ScheduleReminderTimerStatus.ofInt?_toInt (status : ScheduleReminderTimerStatus) :
    ofInt? status.toInt = some status := by
  cases status <;> rfl

@[simp] theorem ScheduleReminderActionKind.ofInt?_toInt (kind : ScheduleReminderActionKind) :
    ofInt? kind.toInt = some kind := by
  cases kind <;> rfl

/-- A row of `schedule_reminder_task`. -/
structure ScheduleReminderTaskRow where
  id : ℤ
  scheduleId : ℤ
  event : String
  chainId : ℤ
  attempt : ℤ
  timingTaskId : Option String
  triggerAt : ℤ
  businessStatus : ℤ
  timerStatus : ℤ
  triggeredAt : Option ℤ
  actionOperationId : Option String
  actionKind : Option ℤ
  actionOccurredAt : Option ℤ
  actionNextTriggerAt : Option ℤ
  createdAt : ℤ
  updatedAt : ℤ

instance : HasId ScheduleReminderTaskRow where
  getId := ScheduleReminderTaskRow.id
  setId row id := { row with id }
  getId_setId _ _ := rfl

/-- `BindScheduleReminderTask`, with the id of the row. -/
def bindScheduleReminderTask (task : ScheduleReminderTask) : ScheduleReminderTaskRow where
  id := task.id
  scheduleId := task.scheduleId
  event := task.event
  chainId := task.chainId
  attempt := task.attempt
  timingTaskId := task.timingTaskId
  triggerAt := task.triggerAt
  businessStatus := task.businessStatus.toInt
  timerStatus := task.timerStatus.toInt
  triggeredAt := task.triggeredAt
  actionOperationId := task.actionOperationId
  actionKind := task.actionKind.map ScheduleReminderActionKind.toInt
  actionOccurredAt := task.actionOccurredAt
  actionNextTriggerAt := task.actionNextTriggerAt
  createdAt := task.createdAt
  updatedAt := task.updatedAt

/-- `ReadScheduleReminderTask`. -/
def readScheduleReminderTask (row : ScheduleReminderTaskRow) : Result ScheduleReminderTask :=
  match ScheduleReminderBusinessStatus.ofInt? row.businessStatus,
      ScheduleReminderTimerStatus.ofInt? row.timerStatus with
  | some businessStatus, some timerStatus =>
    let task : ScheduleReminderTask :=
      { id := row.id
        scheduleId := row.scheduleId
        event := row.event
        chainId := row.chainId
        attempt := row.attempt
        timingTaskId := row.timingTaskId
        triggerAt := row.triggerAt
        businessStatus := businessStatus
        timerStatus := timerStatus
        triggeredAt := row.triggeredAt
        actionOperationId := row.actionOperationId
        actionOccurredAt := row.actionOccurredAt
        actionNextTriggerAt := row.actionNextTriggerAt
        createdAt := row.createdAt
        updatedAt := row.updatedAt }
    match row.actionKind with
    | none => .ok task
    | some value =>
      match ScheduleReminderActionKind.ofInt? value with
      | none => .failure .internal "提醒动作类型值非法"
      | some actionKind => .ok { task with actionKind := some actionKind }
  | _, _ => .failure .internal "提醒任务状态值非法"

/-! ## Constraints -/

/-- `length(text)`: the characters before the first NUL. -/
def sqlLength (text : String) : ℕ :=
  (text.toList.takeWhile (· ≠ '\x00')).length

/-- A row with an action of a kind, for the business status that goes with it. -/
def ScheduleReminderTaskRow.checkAction (row : ScheduleReminderTaskRow) (kind businessStatus : ℤ)
    (next : Truth) : Truth :=
  Sql.and (Sql.not (isNull row.actionOperationId))
    (Sql.and (lt (some 0) (row.actionOperationId.map sqlLength))
      (Sql.and (eq row.actionKind (some kind))
        (Sql.and (Sql.not (isNull row.actionOccurredAt))
          (Sql.and next (eq (some row.businessStatus) (some businessStatus))))))

/-- The `CHECK`s of `schedule_reminder_task`. -/
def ScheduleReminderTaskRow.check (row : ScheduleReminderTaskRow) : Bool :=
  [between (some row.attempt) 1 3,
    between (some row.businessStatus) 1 6,
    between (some row.timerStatus) 1 5,
    Sql.or (eq row.actionKind (some 1)) (eq row.actionKind (some 2)),
    Sql.or
      (Sql.or
        (Sql.and (isNull row.actionOperationId) (Sql.and (isNull row.actionKind)
          (Sql.and (isNull row.actionOccurredAt) (isNull row.actionNextTriggerAt))))
        (row.checkAction 1 3 (isNull row.actionNextTriggerAt)))
      (row.checkAction 2 6 (Sql.not (isNull row.actionNextTriggerAt)))].all allows

/-- Two rows that the unique columns keep from being stored together. -/
def ScheduleReminderTaskRow.Collides (row other : ScheduleReminderTaskRow) : Prop :=
  (row.chainId = other.chainId ∧ row.attempt = other.attempt) ∨
    holds (eq row.timingTaskId other.timingTaskId) = true ∨
      holds (eq row.actionOperationId other.actionOperationId) = true

instance (row other : ScheduleReminderTaskRow) : Decidable (row.Collides other) :=
  inferInstanceAs (Decidable (_ ∨ _ ∨ _))

theorem ScheduleReminderTaskRow.Collides.symm {row other : ScheduleReminderTaskRow}
    (h : row.Collides other) : other.Collides row := by
  rcases h with ⟨hchain, hattempt⟩ | htiming | hoperation
  · exact Or.inl ⟨hchain.symm, hattempt.symm⟩
  · refine Or.inr (Or.inl ?_)
    cases hrow : row.timingTaskId <;> cases hother : other.timingTaskId <;>
      simp_all [eq_comm]
  · refine Or.inr (Or.inr ?_)
    cases hrow : row.actionOperationId <;> cases hother : other.actionOperationId <;>
      simp_all [eq_comm]

/-- The table `schedule_reminder_task`; every row satisfies the constraints. -/
structure ReminderTaskTable where
  rows : IdTable ScheduleReminderTaskRow := .empty
  check : ∀ row ∈ rows.rows, row.check
  unique : ∀ row ∈ rows.rows, ∀ other ∈ rows.rows, row.id ≠ other.id → ¬ row.Collides other

namespace ReminderTaskTable

/-- The table without rows. -/
def empty : ReminderTaskTable where
  check := fun _ hrow => absurd hrow List.not_mem_nil
  unique := fun _ hrow => absurd hrow List.not_mem_nil

/-- `kInsertScheduleReminderTask`, or nothing when a constraint fails. -/
def insert (table : ReminderTaskTable) (row : ScheduleReminderTaskRow) : Option ReminderTaskTable :=
  if h : row.check ∧ ∀ other ∈ table.rows.rows, ¬ row.Collides other then
    some
      { rows := table.rows.insert row
        check := by
          intro found hfound
          rcases IdTable.mem_insert.1 hfound with hold | rfl
          · exact table.check found hold
          · exact h.1
        unique := by
          intro found hfound other hother hne
          rcases IdTable.mem_insert.1 hfound with hfound | rfl
          · rcases IdTable.mem_insert.1 hother with hother | rfl
            · exact table.unique found hfound other hother hne
            · exact fun hcollides => h.2 found hfound hcollides.symm
          · rcases IdTable.mem_insert.1 hother with hother | rfl
            · exact h.2 other hother
            · exact absurd rfl hne }
  else none

/-- `kUpdateScheduleReminderTask`: the number of changed rows, or nothing when a constraint fails. -/
def update (table : ReminderTaskTable) (row : ScheduleReminderTaskRow) :
    Option (ℕ × ReminderTaskTable) :=
  match table.rows.find? row.id with
  | none => some (0, table)
  | some _ =>
    if h : row.check ∧ ∀ other ∈ table.rows.rows, other.id ≠ row.id → ¬ row.Collides other then
      some (1,
        { rows := table.rows.replace row
          check := by
            intro found hfound
            rcases IdTable.mem_replace_of_mem hfound with rfl | hold
            · exact h.1
            · exact table.check found hold
          unique := by
            intro found hfound other hother hne
            rcases IdTable.mem_replace_of_mem hfound with rfl | hfound'
            · rcases IdTable.mem_replace_of_mem hother with rfl | hother'
              · exact absurd rfl hne
              · exact h.2 other hother' (Ne.symm hne)
            · rcases IdTable.mem_replace_of_mem hother with rfl | hother'
              · exact fun hcollides => h.2 found hfound' hne hcollides.symm
              · exact table.unique found hfound' other hother' hne })
    else none

end ReminderTaskTable

/-! ## The repository -/

open SqliteScheduleRuleRepository (constraintFailure)

/-- `SqliteScheduleReminderTaskRepository` on its database. -/
structure SqliteReminderTaskRepository where
  isOpen : Bool := true
  table : ReminderTaskTable := .empty

namespace SqliteReminderTaskRepository

/-- `Unavailable`. -/
def unavailable : Status :=
  .error .unavailable "SQLite 数据库尚未打开"

/-- `Invalid`. -/
def invalid : Status :=
  .error .invalidArgument "提醒任务字段无效"

/-- `ReadOne`. -/
def readOne (row : Option ScheduleReminderTaskRow) : Result ScheduleReminderTask :=
  match row with
  | none => .failure .notFound "提醒任务不存在"
  | some row => readScheduleReminderTask row

/-- `ReadMany`. -/
def readMany : List ScheduleReminderTaskRow → Result (List ScheduleReminderTask)
  | [] => .ok []
  | row :: rows =>
    match readScheduleReminderTask row with
    | .error status => .error status
    | .ok task =>
      match readMany rows with
      | .error status => .error status
      | .ok tasks => .ok (task :: tasks)

/-- `Insert`; `now` is the clock reading of the store. The two stores have the same `Valid`. -/
def insert (repo : SqliteReminderTaskRepository) (detail : String) (now : ℤ)
    (task : ScheduleReminderTask) : Result ScheduleReminderTask × SqliteReminderTaskRepository :=
  if ¬ repo.isOpen then (.error unavailable, repo)
  else if ¬ task.Valid then (.error invalid, repo)
  else
    let createdAt := if task.createdAt = 0 then now else task.createdAt
    let updatedAt := if task.updatedAt = 0 then createdAt else task.updatedAt
    let stored := { task with createdAt, updatedAt }
    match repo.table.insert (bindScheduleReminderTask stored) with
    | none => (.error (constraintFailure detail), repo)
    | some table =>
      -- `LastInsertRowId`
      (.ok { stored with id := repo.table.rows.nextId }, { repo with table := table })

/-- `Update`. -/
def update (repo : SqliteReminderTaskRepository) (detail : String) (task : ScheduleReminderTask) :
    Status × SqliteReminderTaskRepository :=
  if ¬ repo.isOpen then (unavailable, repo)
  else if ¬ task.Valid then (invalid, repo)
  else
    match repo.table.update (bindScheduleReminderTask task) with
    | none => (constraintFailure detail, repo)
    | some (changes, table) =>
      if changes = 1 then (.success, { repo with table := table })
      else (.error .notFound "提醒任务不存在", { repo with table := table })

/-- `FindById`. -/
def findById (repo : SqliteReminderTaskRepository) (id : ℤ) : Result ScheduleReminderTask :=
  if ¬ repo.isOpen then .error unavailable
  else readOne (repo.table.rows.rows.find? fun row => holds (eq (some row.id) (some id)))

/-- `FindByTimingTaskId`. -/
def findByTimingTaskId (repo : SqliteReminderTaskRepository) (timingTaskId : String) :
    Result ScheduleReminderTask :=
  if ¬ repo.isOpen then .error unavailable
  else readOne (repo.table.rows.rows.find? fun row => holds (eq row.timingTaskId (some timingTaskId)))

/-- `FindBySchedule`. -/
def findBySchedule (repo : SqliteReminderTaskRepository) (scheduleId : ℤ) :
    Result (List ScheduleReminderTask) :=
  if ¬ repo.isOpen then .error unavailable
  else
    readMany <| orderBy (fun row => toLex (row.chainId, toLex (row.attempt, row.id))) <|
      repo.table.rows.rows.filter fun row => holds (eq (some row.scheduleId) (some scheduleId))

/-- `FindAll`. -/
def findAll (repo : SqliteReminderTaskRepository) : Result (List ScheduleReminderTask) :=
  if ¬ repo.isOpen then .error unavailable
  else readMany (orderBy (fun row => toLex (row.triggerAt, row.id)) repo.table.rows.rows)

/-- The condition of `kFindTriggeredScheduleReminderTasks`. -/
def triggeredWhere (start finish : ℤ) (row : ScheduleReminderTaskRow) : Truth :=
  Sql.and (le (some start) row.triggeredAt) <|
    Sql.and (le row.triggeredAt (some finish)) <|
      Sql.and (eq (some row.timerStatus) (some 2)) <|
        Sql.or (eq (some row.businessStatus) (some 2)) (eq (some row.businessStatus) (some 4))

/-- `ORDER BY triggered_at, id`: a missing time comes first. -/
def triggeredOrder (row : ScheduleReminderTaskRow) : Lex (WithBot ℤ × ℤ) :=
  toLex (row.triggeredAt, row.id)

/-- `FindTriggered`. -/
def findTriggered (repo : SqliteReminderTaskRepository) (start finish : ℤ) :
    Result (List ScheduleReminderTask) :=
  if ¬ repo.isOpen then .error unavailable
  else
    readMany <| orderBy triggeredOrder <|
      repo.table.rows.rows.filter fun row => holds (triggeredWhere start finish row)

end SqliteReminderTaskRepository

end VoiceLife
