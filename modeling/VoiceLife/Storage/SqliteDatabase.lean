import VoiceLife.Lib.CInt
import VoiceLife.Lib.SqlLogic
import VoiceLife.Schedule.Factory
import VoiceLife.Storage.MemoryScheduleRepository

/-! # The SQLite tables

The tables of `schema/migrations` that the schedule repositories use, with their constraints as part of
the state, and the statements of `sql/schedule_sql.cc`, `sql/schedule_rule_sql.cc` and
`sql/schedule_exception_sql.cc` on them. A row of `schedule` or `schedule_rule_exception` is the entity
that the row mapper reads back; a rule is stored with other columns.
-/

namespace VoiceLife

/-! ## Columns -/

/-- The value of `ScheduleStatus`. -/
def ScheduleStatus.toInt : ScheduleStatus → ℤ
  | .active => 1
  | .cancelled => 2
  | .completed => 3

/-- The value of `ScheduleStatusFilter`. -/
def ScheduleStatusFilter.toInt : ScheduleStatusFilter → ℤ
  | .all => 0
  | .active => 1
  | .cancelled => 2
  | .completed => 3

/-- The value of `Frequency`. -/
def Frequency.toInt : Frequency → ℤ
  | .daily => 1
  | .weekly => 2
  | .monthly => 3
  | .yearly => 4

/-- The value of `MonthlyMode`. -/
def MonthlyMode.toInt : MonthlyMode → ℤ
  | .specificDay => 1
  | .lastDay => 2

/-- The value of `ExceptionType`. -/
def ExceptionType.toInt : ExceptionType → ℤ
  | .modify => 1
  | .skip => 2

/-- A row of `schedule_rule`. -/
structure ScheduleRuleRow where
  id : ℤ
  event : String
  location : Option String
  notes : Option String
  freqType : ℤ
  intervalVal : ℤ
  weekdaysMask : Option ℤ
  dayOfMonth : Option ℤ
  monthOfYear : Option ℤ
  monthlyMode : Option ℤ
  startTime : ℤ
  endTime : Option ℤ
  startDate : ℤ
  endDate : Option ℤ
  occurrenceCount : Option ℤ
  status : ℤ
  createdAt : ℤ
  updatedAt : ℤ

instance : HasId ScheduleRuleRow where
  getId := ScheduleRuleRow.id
  setId row id := { row with id }
  getId_setId _ _ := rfl

/-- `LocalDateToDays`. -/
def localDateToDays (value : LocalDate) : ℤ :=
  daysFromCivil value.year value.month value.day

/-- `BindScheduleRule`, with the id of the row. -/
def bindScheduleRule (rule : ScheduleRule) : ScheduleRuleRow where
  id := rule.id
  event := rule.event
  location := rule.location
  notes := rule.notes
  freqType := rule.freqType.toInt
  intervalVal := rule.intervalVal
  weekdaysMask := rule.weekdaysMask.map fun mask => (mask.toNat : ℤ)
  dayOfMonth := rule.dayOfMonth.map fun day => (day.toNat : ℤ)
  monthOfYear := rule.monthOfYear.map fun month => (month.toNat : ℤ)
  monthlyMode := rule.monthlyMode.map MonthlyMode.toInt
  startTime := CInt.toInt (localTimeToSeconds rule.startTime)
  endTime := rule.endTime.map fun time => CInt.toInt (localTimeToSeconds time)
  startDate := localDateToDays rule.startDate
  endDate := rule.endDate.map fun date => CInt.toInt (localDateToDays date)
  occurrenceCount := rule.occurrenceCount
  status := rule.status.toInt
  createdAt := rule.createdAt
  updatedAt := rule.updatedAt

/-! ## Constraints -/

open Sql

/-- `length(text) <= most`. -/
def textAtMost (text : Option String) (most : ℕ) : Truth :=
  le (text.map String.length) (some most)

/-- `x BETWEEN least AND most`. -/
def between (x : Option ℤ) (least most : ℤ) : Truth :=
  Sql.and (le (some least) x) (le x (some most))

/-- The `CHECK`s of `schedule_rule`. -/
def ScheduleRuleRow.check (row : ScheduleRuleRow) : Bool :=
  [textAtMost (some row.event) 100,
    Sql.or (isNull row.location) (textAtMost row.location 100),
    Sql.or (isNull row.notes) (textAtMost row.notes 200),
    between (some row.freqType) 1 4,
    lt (some 0) (some row.intervalVal),
    Sql.or (isNull row.weekdaysMask) (between row.weekdaysMask 1 127),
    Sql.or (isNull row.dayOfMonth) (between row.dayOfMonth 1 31),
    Sql.or (isNull row.monthOfYear) (between row.monthOfYear 1 12),
    Sql.or (isNull row.monthlyMode) (between row.monthlyMode 1 2),
    between (some row.startTime) 0 86399,
    Sql.or (isNull row.endTime)
      (Sql.and (between row.endTime 0 86399) (lt (some row.startTime) row.endTime)),
    Sql.or (isNull row.endDate) (le (some row.startDate) row.endDate),
    Sql.or (isNull row.occurrenceCount) (lt (some 0) row.occurrenceCount),
    between (some row.status) 1 3,
    Sql.or (isNull row.occurrenceCount) (isNull row.endDate)].all allows

/-- The `CHECK`s of `schedule`. -/
def Schedule.check (row : Schedule) : Bool :=
  [textAtMost (some row.event) 100,
    Sql.or (isNull row.location) (textAtMost row.location 100),
    Sql.or (isNull row.notes) (textAtMost row.notes 200),
    between (some row.status.toInt) 1 3,
    Sql.or (isNull row.endTime)
      (Sql.and (Sql.not (isNull row.startTime)) (lt row.startTime row.endTime))].all allows

/-- The `CHECK`s of `schedule_rule_exception`. -/
def ScheduleException.check (row : ScheduleException) : Bool :=
  [between (some row.type.toInt) 1 2,
    Sql.or (isNull row.overrideEvent) (textAtMost row.overrideEvent 100),
    Sql.or (isNull row.overrideLocation) (textAtMost row.overrideLocation 100),
    Sql.or (isNull row.overrideNotes) (textAtMost row.overrideNotes 200),
    Sql.or (eq (some row.type.toInt) (some 1))
      (Sql.and (isNull row.overrideStartTime) (Sql.and (isNull row.overrideEndTime)
        (Sql.and (isNull row.overrideEvent) (Sql.and (isNull row.overrideLocation)
          (isNull row.overrideNotes)))))].all allows

/-- The columns of `schedule_rule_exception` that are unique together. -/
def ScheduleException.occurrence (row : ScheduleException) : ℤ × ℤ :=
  (row.ruleId, row.originalStartTime)

/-- The tables of the database; every row satisfies the constraints. -/
structure SqliteDatabase where
  scheduleRule : IdTable ScheduleRuleRow := .empty
  schedule : IdTable Schedule := .empty
  scheduleRuleException : IdTable ScheduleException := .empty
  scheduleRule_check : ∀ row ∈ scheduleRule.rows, row.check
  schedule_check : ∀ row ∈ schedule.rows, row.check
  exception_check : ∀ row ∈ scheduleRuleException.rows, row.check
  exception_unique : (scheduleRuleException.rows.map ScheduleException.occurrence).Nodup

theorem ScheduleRuleRow.check_of_mem_empty :
    ∀ row ∈ (IdTable.empty : IdTable ScheduleRuleRow).rows, row.check :=
  fun _ hrow => absurd hrow List.not_mem_nil

theorem ScheduleException.check_of_mem_empty :
    ∀ row ∈ (IdTable.empty : IdTable ScheduleException).rows, row.check :=
  fun _ hrow => absurd hrow List.not_mem_nil

theorem ScheduleException.occurrence_empty_nodup :
    ((IdTable.empty : IdTable ScheduleException).rows.map ScheduleException.occurrence).Nodup :=
  List.nodup_nil

namespace SqliteDatabase

/-! ## Statements -/

/-- `kUpdateScheduleRule`: the number of changed rows, or nothing when a constraint fails. -/
def updateScheduleRule (db : SqliteDatabase) (row : ScheduleRuleRow) : Option (ℕ × SqliteDatabase) :=
  match db.scheduleRule.find? row.id with
  | none => some (0, db)
  | some _ =>
    if h : row.check then
      some (1, { db with
        scheduleRule := db.scheduleRule.replace row
        scheduleRule_check := fun found hfound => by
          rcases IdTable.mem_replace_of_mem hfound with rfl | hold
          · exact h
          · exact db.scheduleRule_check found hold })
    else none

/-- `kDeleteFutureSchedulesByRule`. -/
def deleteFutureSchedulesByRule (db : SqliteDatabase) (ruleId now : ℤ) : SqliteDatabase :=
  { db with
    schedule := db.schedule.removeIf fun row =>
      holds (Sql.and (eq row.ruleId (some ruleId)) (le (some now) row.startTime))
    schedule_check := fun row hrow => db.schedule_check row (IdTable.mem_removeIf.1 hrow).1 }

/-- `kDeleteFutureExceptionsByRule`. -/
def deleteFutureExceptionsByRule (db : SqliteDatabase) (ruleId now : ℤ) : SqliteDatabase :=
  { db with
    scheduleRuleException := db.scheduleRuleException.removeIf fun row =>
      holds (Sql.and (eq (some row.ruleId) (some ruleId)) (le (some now) (some row.originalStartTime)))
    exception_check := fun row hrow => db.exception_check row (IdTable.mem_removeIf.1 hrow).1
    exception_unique := (List.filter_sublist.map _).nodup db.exception_unique }

/-- `kInsertSchedule`, or nothing when a constraint fails. -/
def insertSchedule (db : SqliteDatabase) (row : Schedule) : Option SqliteDatabase :=
  if h : row.check then
    some { db with
      schedule := db.schedule.insert row
      schedule_check := fun found hfound => by
        rcases IdTable.mem_insert.1 hfound with hold | rfl
        · exact db.schedule_check found hold
        · exact h }
  else none

end SqliteDatabase

namespace SqliteScheduleRuleRepository

/-- `MakeSqliteFailure` after a constraint has failed; the detail is the text of the library. -/
def constraintFailure (detail : String) : Status :=
  Status.error .alreadyExists ("执行 SQLite 语句失败：" ++ detail)

/-- `InsertScheduleLocked`. -/
def insertScheduleLocked (db : SqliteDatabase) (now : ℤ) (schedule : Schedule) :
    Option SqliteDatabase :=
  let createdAt := if schedule.createdAt = 0 then now else schedule.createdAt
  let updatedAt := if schedule.updatedAt = 0 then createdAt else schedule.updatedAt
  db.insertSchedule { schedule with id := 0, createdAt, updatedAt }

/-- `UpdateAndRebuild`: a failure rolls the transaction back. -/
def updateAndRebuild (db : SqliteDatabase) (detail : String) (now : ℤ) (rule : ScheduleRule)
    (firstInstance : Option Schedule) : Result ScheduleRule × SqliteDatabase :=
  if rule.id ≤ 0 || rule.event.isEmpty then (.failure .invalidArgument "规则标识或名称无效", db)
  else
    match db.updateScheduleRule (bindScheduleRule rule) with
    | none => (.error (constraintFailure detail), db)
    | some (changes, updated) =>
      if changes ≠ 1 then (.failure .notFound "规则不存在", db)
      else
        let cleared := (updated.deleteFutureSchedulesByRule rule.id now).deleteFutureExceptionsByRule
          rule.id now
        match firstInstance with
        | none => (.ok rule, cleared)
        | some instance_ =>
          match insertScheduleLocked cleared now { instance_ with ruleId := some rule.id } with
          | none => (.error (constraintFailure detail), db)
          | some inserted => (.ok rule, inserted)

end SqliteScheduleRuleRepository

end VoiceLife
