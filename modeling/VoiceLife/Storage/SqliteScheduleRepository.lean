import Mathlib.Data.Prod.Lex
import VoiceLife.Storage.SqliteDatabase

/-! # `sqlite_schedule_repository.cc`: queries for schedules

`Find` and `Count` with the statements of `sql/schedule_sql.cc`. A text is the list of its characters
where SQL compares it.
-/

namespace VoiceLife

open Sql

/-- The keyword as `BindScheduleQueryFilters` binds it: an empty one is missing. -/
def QueryScheduleCommand.boundKeyword (query : QueryScheduleCommand) : Option (List Char) :=
  (query.keyword.filter fun keyword => !keyword.isEmpty).map String.toList

/-- The status as `BindScheduleQueryFilters` binds it. -/
def QueryScheduleCommand.boundStatus (query : QueryScheduleCommand) : Option ℤ :=
  if query.status = .all then none else some query.status.toInt

/-- `column LIKE '%' || keyword || '%'`. -/
def contains (column keyword : Option (List Char)) : Truth :=
  Sql.compare like column (keyword.map fun keyword => '%' :: keyword ++ ['%'])

/-- `column LIKE keyword || '%'`. -/
def startsWith (column keyword : Option (List Char)) : Truth :=
  Sql.compare like column (keyword.map fun keyword => keyword ++ ['%'])

/-- The keyword condition of `BuildScheduleWhere`. -/
def keywordWhere (keyword : Option (List Char)) (row : Schedule) : Truth :=
  Sql.or (isNull keyword) (Sql.or (contains (some row.event.toList) keyword)
    (Sql.or (contains (row.location.map String.toList) keyword)
      (contains (row.notes.map String.toList) keyword)))

/-- `BuildScheduleWhere`. -/
def scheduleWhere (query : QueryScheduleCommand) (row : Schedule) : Truth :=
  Sql.and (Sql.or (isNull query.scheduleId) (eq (some row.id) query.scheduleId))
    (Sql.and (Sql.or (isNull query.ruleId) (eq row.ruleId query.ruleId))
      (Sql.and (Sql.or (isNull query.boundStatus) (eq (some row.status.toInt) query.boundStatus))
        (Sql.and (keywordWhere query.boundKeyword row)
          (Sql.and (Sql.or (isNull query.startFrom) (le query.startFrom row.startTime))
            (Sql.or (isNull query.startTo) (le row.startTime query.startTo))))))

/-- The `CASE` of `BuildScheduleFindSql`. -/
def findRank (keyword : Option (List Char)) (row : Schedule) : ℤ :=
  let event := some (lower row.event.toList)
  if holds (Sql.and (Sql.not (isNull keyword)) (eq event (keyword.map lower))) then 100
  else if holds (Sql.and (Sql.not (isNull keyword)) (startsWith event (keyword.map lower))) then 80
  else if holds (Sql.and (Sql.not (isNull keyword)) (contains event (keyword.map lower))) then 60
  else 0

/-- A column in the order of its values: a missing value comes before the others. -/
def nullsFirst : Option ℤ → WithBot ℤ
  | none => ⊥
  | some value => value

/-- The columns of `ORDER BY`. -/
def findColumns (rank : ℤ) (row : Schedule) : ℤ ×ₗ Bool ×ₗ WithBot ℤ ×ₗ ℤ :=
  toLex (-rank, toLex (row.startTime.isNone, toLex (nullsFirst row.startTime, row.id)))

namespace SqliteScheduleRepository

/-- `Find`. -/
def find (db : SqliteDatabase) (query : QueryScheduleCommand) : List Schedule :=
  page query.limit query.offset (orderBy (fun row => findColumns (findRank query.boundKeyword row) row)
    (db.schedule.rows.filter fun row => holds (scheduleWhere query row)))

/-- `Count`. -/
def count (db : SqliteDatabase) (query : QueryScheduleCommand) : ℕ :=
  db.schedule.rows.countP fun row => holds (scheduleWhere query row)

end SqliteScheduleRepository

end VoiceLife
