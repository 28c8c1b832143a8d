import VoiceLife.Lib.IdTable
import VoiceLife.Schedule.QueryScore

/-! # `memory_schedule_repository.cc`: the volatile store

`MemoryScheduleRepository` and `MemoryScheduleRuleRepository` share one state, three tables here.
Operations take the clock reading `now` of the call and return the new state with the answer of the
source. The reads of the memory store cannot fail, so they return plain values.
-/

namespace VoiceLife

instance : HasId Schedule where
  getId := Schedule.id
  setId schedule id := { schedule with id }
  getId_setId _ _ := rfl

instance : HasId ScheduleRule where
  getId := ScheduleRule.id
  setId rule id := { rule with id }
  getId_setId _ _ := rfl

instance : HasId ScheduleException where
  getId := ScheduleException.id
  setId exc id := { exc with id }
  getId_setId _ _ := rfl

/-- The shared state of the schedule, rule and exception repositories. -/
structure MemoryScheduleRepository where
  schedules : IdTable Schedule := .empty
  rules : IdTable ScheduleRule := .empty
  exceptions : IdTable ScheduleException := .empty

/-- `MatchesStatus`. -/
def matchesStatus (status : ScheduleStatus) (filter : ScheduleStatusFilter) : Bool :=
  filter == .all || (filter == .active && status == .active) ||
    (filter == .cancelled && status == .cancelled) ||
    (filter == .completed && status == .completed)

/-- `MatchesKeyword`: every word of the keyword, without a leading plus sign, is part of the event. -/
def matchesKeyword (event keyword : String) : Bool :=
  (tokens (normalizeKeywordText keyword)).all fun token =>
    let token := if token.head? = some '+' then token.tail else token
    token.isEmpty || decide (token <:+: normalizeKeywordText event)

/-- `MatchesSchedule`. -/
def matchesSchedule (schedule : Schedule) (query : QueryScheduleCommand) : Bool :=
  if query.scheduleId.any fun id => schedule.id ≠ id then false
  else if query.ruleId.any fun ruleId => schedule.ruleId ≠ some ruleId then false
  else if !matchesStatus schedule.status query.status then false
  else if query.keyword.any fun keyword => !matchesKeyword schedule.event keyword then false
  else if query.startFrom.isSome || query.startTo.isSome then
    match schedule.startTime with
    | none => false
    | some start =>
      !(query.startFrom.any fun startFrom => start < startFrom) &&
        !(query.startTo.any fun startTo => start > startTo)
  else true

/-- `static_cast<std::size_t>`. -/
def toSize (x : ℤ) : ℕ :=
  (x % 18446744073709551616).toNat

namespace MemoryScheduleRepository

/-- `InsertScheduleLocked` and `Insert`. -/
def insert (repo : MemoryScheduleRepository) (now : ℤ) (schedule : Schedule) :
    Result Schedule × MemoryScheduleRepository :=
  if schedule.event.isEmpty then (.failure .invalidArgument "日程名称不能为空", repo)
  else
    let createdAt := if schedule.createdAt = 0 then now else schedule.createdAt
    let updatedAt := if schedule.updatedAt = 0 then createdAt else schedule.updatedAt
    let stored := { schedule with id := repo.schedules.nextId, createdAt, updatedAt }
    (.ok stored, { repo with schedules := repo.schedules.insert stored })

/-- `Update`. -/
def update (repo : MemoryScheduleRepository) (schedule : Schedule) :
    Status × MemoryScheduleRepository :=
  match repo.schedules.find? schedule.id with
  | none => (.error .notFound "日程不存在", repo)
  | some _ => (.success, { repo with schedules := repo.schedules.replace schedule })

/-- `Delete`: a soft cancellation. -/
def delete (repo : MemoryScheduleRepository) (now : ℤ) (id : ℤ) :
    Status × MemoryScheduleRepository :=
  match repo.schedules.find? id with
  | none => (.error .notFound "日程不存在", repo)
  | some found =>
    if found.status = .cancelled then (.error .conflict "日程已取消，不能重复删除", repo)
    else
      (.success, { repo with
        schedules := repo.schedules.replace { found with status := .cancelled, updatedAt := now } })

/-- `FindById`. -/
def findById (repo : MemoryScheduleRepository) (id : ℤ) : Result Schedule :=
  match repo.schedules.find? id with
  | none => .failure .notFound "未找到指定日程"
  | some found => .ok found

/-- The order of `Find`: keyword score, then start time with missing starts last, then id. -/
def findBefore (query : QueryScheduleCommand) (left right : Schedule) : Bool :=
  let scored := query.keyword.any fun keyword => !keyword.isEmpty
  let score (schedule : Schedule) := scoreScheduleKeyword schedule.event (query.keyword.getD "")
  if scored && score left != score right then score left > score right
  else if left.startTime ≠ right.startTime then
    match left.startTime, right.startTime with
    | none, _ => false
    | some _, none => true
    | some leftStart, some rightStart => leftStart < rightStart
  else left.id < right.id

/-- `Find`: filtered, sorted and cut to the page. -/
def find (repo : MemoryScheduleRepository) (query : QueryScheduleCommand) : List Schedule :=
  let result := (repo.schedules.rows.filter (matchesSchedule · query)).insertionSort
    fun left right => !findBefore query right left
  (result.drop (toSize query.offset)).take (toSize query.limit)

/-- `Count`. -/
def count (repo : MemoryScheduleRepository) (query : QueryScheduleCommand) : ℕ :=
  repo.schedules.rows.countP (matchesSchedule · query)

/-- `FindOverlapping`: active schedules that touch the closed window, by start time. The source
leaves the order of equal starts open. -/
def findOverlapping (repo : MemoryScheduleRepository) (start finish : ℤ) (excludeId : Option ℤ) :
    List Schedule :=
  (repo.schedules.rows.filter fun schedule =>
    schedule.status == .active && !(excludeId.any fun id => schedule.id = id) &&
      schedule.startTime.any fun startTime =>
        startTime ≤ finish && schedule.endTime.getD startTime ≥ start).insertionSort
    fun left right => left.startTime.getD 0 ≤ right.startTime.getD 0

/-- `FindAll`. -/
def findAll (repo : MemoryScheduleRepository) : List Schedule :=
  repo.schedules.rows

end MemoryScheduleRepository

namespace MemoryScheduleRuleRepository

/-- `InsertRuleLocked` and `Insert`. -/
def insert (repo : MemoryScheduleRepository) (now : ℤ) (rule : ScheduleRule) :
    Result ScheduleRule × MemoryScheduleRepository :=
  if rule.event.isEmpty then (.failure .invalidArgument "规则名称不能为空", repo)
  else
    let createdAt := if rule.createdAt = 0 then now else rule.createdAt
    let updatedAt := if rule.updatedAt = 0 then createdAt else rule.updatedAt
    let stored := { rule with id := repo.rules.nextId, createdAt, updatedAt }
    (.ok stored, { repo with rules := repo.rules.insert stored })

/-- `FindById`. -/
def findById (repo : MemoryScheduleRepository) (id : ℤ) : Result ScheduleRule :=
  match repo.rules.find? id with
  | none => .failure .notFound "规则不存在"
  | some found => .ok found

/-- `FindAll`. -/
def findAll (repo : MemoryScheduleRepository) : List ScheduleRule :=
  repo.rules.rows

/-- `CreateWithFirstInstance`. -/
def createWithFirstInstance (repo : MemoryScheduleRepository) (now : ℤ) (rule : ScheduleRule)
    (firstInstance : Option Schedule) : Result ScheduleRule × MemoryScheduleRepository :=
  if rule.event.isEmpty || firstInstance.any fun instance_ => instance_.event.isEmpty then
    (.failure .invalidArgument "规则或首条日程名称不能为空", repo)
  else
    match insert repo now rule with
    | (.error status, repo) => (.error status, repo)
    | (.ok created, repo) =>
      match firstInstance with
      | none => (.ok created, repo)
      | some instance_ =>
        match repo.insert now { instance_ with ruleId := some created.id } with
        | (.error status, repo) => (.error status, repo)
        | (.ok _, repo) => (.ok created, repo)

/-- `UpdateAndRebuild`: the future active instances and exceptions of the rule are erased. -/
def updateAndRebuild (repo : MemoryScheduleRepository) (now : ℤ) (rule : ScheduleRule)
    (firstInstance : Option Schedule) : Result ScheduleRule × MemoryScheduleRepository :=
  match repo.rules.find? rule.id with
  | none => (.failure .notFound "规则不存在", repo)
  | some _ =>
    if rule.event.isEmpty || firstInstance.any fun instance_ => instance_.event.isEmpty then
      (.failure .invalidArgument "规则或首条日程名称不能为空", repo)
    else
      let repo := { repo with
        rules := repo.rules.replace rule
        schedules := repo.schedules.removeIf fun schedule =>
          schedule.ruleId == some rule.id && schedule.status == .active &&
            schedule.startTime.any fun startTime => startTime > now
        exceptions := repo.exceptions.removeIf fun exc =>
          exc.ruleId == rule.id && exc.originalStartTime > now }
      match firstInstance with
      | none => (.ok rule, repo)
      | some instance_ =>
        match repo.insert now { instance_ with ruleId := some rule.id } with
        | (.error status, repo) => (.error status, repo)
        | (.ok _, repo) => (.ok rule, repo)

/-- `CancelRuleAndInstances`, with the number of cancelled instances. -/
def cancelRuleAndInstances (repo : MemoryScheduleRepository) (now : ℤ) (id : ℤ) :
    Result ℕ × MemoryScheduleRepository :=
  match repo.rules.find? id with
  | none => (.failure .notFound "规则不存在", repo)
  | some found =>
    let belongs (schedule : Schedule) : Bool :=
      schedule.ruleId == some id && schedule.status == .active
    (.ok (repo.schedules.rows.countP belongs),
      { rules := repo.rules.replace { found with status := .cancelled, updatedAt := now }
        schedules := repo.schedules.modify
          (fun schedule =>
            if belongs schedule then { schedule with status := .cancelled, updatedAt := now }
            else schedule)
          (by intro schedule; split_ifs <;> rfl)
        exceptions := repo.exceptions.removeIf fun exc => exc.ruleId == id })

/-- `FindByRule`. -/
def findByRule (repo : MemoryScheduleRepository) (ruleId : ℤ) : List ScheduleException :=
  repo.exceptions.rows.filter fun exc => exc.ruleId == ruleId

/-- `FindByRuleAndTime`. -/
def findByRuleAndTime (repo : MemoryScheduleRepository) (ruleId originalStartTime : ℤ) :
    Option ScheduleException :=
  repo.exceptions.rows.find? fun exc =>
    exc.ruleId == ruleId && exc.originalStartTime == originalStartTime

/-- `UpsertExceptionLocked` and `Upsert`: one exception for each rule and original time. -/
def upsert (repo : MemoryScheduleRepository) (now : ℤ) (exc : ScheduleException) :
    Result ScheduleException × MemoryScheduleRepository :=
  if exc.ruleId ≤ 0 then (.failure .invalidArgument "例外规则标识无效", repo)
  else
    match findByRuleAndTime repo exc.ruleId exc.originalStartTime with
    | some found =>
      let stored := { exc with
        id := found.id
        createdAt := if exc.createdAt = 0 then found.createdAt else exc.createdAt
        updatedAt := if exc.updatedAt = 0 then now else exc.updatedAt }
      (.ok stored, { repo with exceptions := repo.exceptions.replace stored })
    | none =>
      let createdAt := if exc.createdAt = 0 then now else exc.createdAt
      let updatedAt := if exc.updatedAt = 0 then createdAt else exc.updatedAt
      let stored := { exc with id := repo.exceptions.nextId, createdAt, updatedAt }
      (.ok stored, { repo with exceptions := repo.exceptions.insert stored })

/-- `CreateNextInstance`: the instance and the link of its exception. -/
def createNextInstance (repo : MemoryScheduleRepository) (now : ℤ) (schedule : Schedule)
    (linkedException : Option ScheduleException) : Result Schedule × MemoryScheduleRepository :=
  if schedule.event.isEmpty || schedule.ruleId.all fun ruleId => ruleId ≤ 0 then
    (.failure .invalidArgument "日程实例字段无效", repo)
  else
    match repo.insert now schedule with
    | (.error status, repo) => (.error status, repo)
    | (.ok inserted, repo) =>
      match linkedException with
      | none => (.ok inserted, repo)
      | some linked =>
        match upsert repo now { linked with scheduleId := some inserted.id } with
        | (.error status, repo) => (.error status, repo)
        | (.ok _, repo) => (.ok inserted, repo)

end MemoryScheduleRuleRepository

end VoiceLife
