import VoiceLife.Lib.Run
import VoiceLife.Storage.SqliteReminderTasks

/-! # The two stores of reminder tasks agree

The lasting store holds the row of every task of the volatile one, under the same id, and both answer
alike: the lists of the database are those of memory in the order that its statements ask for. There are
two differences. A task that is neither valid nor stored is not found by one and invalid for the other;
and the database refuses an operation id that begins with NUL, whose length it takes for zero.
-/

namespace VoiceLife

open Sql

/-- The database does not take the operation id for empty. -/
def ScheduleReminderTask.PlainOperation (task : ScheduleReminderTask) : Bool :=
  task.actionOperationId.all fun operationId => 0 < sqlLength operationId

/-! ## One row -/

theorem readScheduleReminderTask_bind (task : ScheduleReminderTask) :
    readScheduleReminderTask (bindScheduleReminderTask task) = .ok task := by
  obtain ⟨id, scheduleId, event, chainId, attempt, timingTaskId, triggerAt, businessStatus, timerStatus,
    triggeredAt, actionOperationId, actionKind, actionOccurredAt, actionNextTriggerAt, createdAt,
    updatedAt⟩ := task
  unfold readScheduleReminderTask bindScheduleReminderTask
  cases actionKind with
  | none => simp
  | some kind => simp

theorem collides_bind {task other : ScheduleReminderTask} :
    (bindScheduleReminderTask task).Collides (bindScheduleReminderTask other) ↔ Clash task other := by
  have hshared : ∀ x y : Option String,
      holds (Sql.eq x y) = true ↔ x.isSome = true ∧ y = x := by
    intro x y
    cases x with
    | none => simp
    | some a =>
        cases y with
        | none => simp
        | some b => simp [eq_comm]
  unfold ScheduleReminderTaskRow.Collides Clash SameAttempt SameTiming SameOperation
  rw [hshared, hshared]
  rfl

/-- The constraints on one row ask for what `Valid` has checked, and for an operation id that is not
empty in the eyes of the database. -/
theorem check_bind {task : ScheduleReminderTask} (hvalid : task.Valid) :
    (bindScheduleReminderTask task).check = task.PlainOperation := by
  obtain ⟨-, -, hleast, hmost, -, haction⟩ := hvalid
  have hattempt : allows (between (some task.attempt) 1 3) = true := by
    simp [between, le]
    omega
  have hbusiness : allows (between (some task.businessStatus.toInt) 1 6) = true := by
    cases task.businessStatus <;> rfl
  have htimer : allows (between (some task.timerStatus.toInt) 1 5) = true := by
    cases task.timerStatus <;> rfl
  unfold ScheduleReminderTaskRow.check bindScheduleReminderTask ScheduleReminderTask.PlainOperation
  simp only [List.all_cons, List.all_nil, hattempt, hbusiness, htimer, Bool.true_and, Bool.and_true]
  unfold ScheduleReminderTask.ValidAction at haction
  -- a valid task has no action, an acknowledgement or a snooze, each with its own columns
  cases hoperation : task.actionOperationId with
  | none =>
      rw [hoperation] at haction
      obtain ⟨hkind, hoccurred, hnext⟩ := haction
      rw [hkind, hoccurred, hnext]
      rfl
  | some operationId =>
      rw [hoperation] at haction
      obtain ⟨-, hoccurred, haction⟩ := haction
      obtain ⟨occurredAt, hoccurred⟩ := Option.isSome_iff_exists.1 hoccurred
      rcases haction with ⟨hkind, hstatus, hnext⟩ | ⟨hkind, hstatus, hnext⟩
      · rw [hkind, hstatus, hnext, hoccurred]
        simp [ScheduleReminderTaskRow.checkAction, ScheduleReminderActionKind.toInt,
          ScheduleReminderBusinessStatus.toInt, Sql.eq, Sql.lt]
      · obtain ⟨nextTriggerAt, hnext⟩ := Option.isSome_iff_exists.1 hnext
        rw [hkind, hstatus, hnext, hoccurred]
        simp [ScheduleReminderTaskRow.checkAction, ScheduleReminderActionKind.toInt,
          ScheduleReminderBusinessStatus.toInt, Sql.eq, Sql.lt]

theorem readMany_bind (tasks : List ScheduleReminderTask) :
    SqliteReminderTaskRepository.readMany (tasks.map bindScheduleReminderTask) = .ok tasks := by
  induction tasks with
  | nil => rfl
  | cons task tasks ih =>
      rw [List.map_cons, SqliteReminderTaskRepository.readMany, readScheduleReminderTask_bind]
      dsimp only
      rw [ih]

theorem readOne_bind (task : Option ScheduleReminderTask) :
    SqliteReminderTaskRepository.readOne (task.map bindScheduleReminderTask) =
      match task with
      | none => .failure .notFound "提醒任务不存在"
      | some task => .ok task := by
  cases task with
  | none => rfl
  | some task => exact readScheduleReminderTask_bind task

/-! ## The tables -/

/-- The database is open and has the rows of the tasks in memory. -/
structure Mirrors (memory : MemoryScheduleReminderTaskRepository)
    (sqlite : SqliteReminderTaskRepository) : Prop where
  isOpen : sqlite.isOpen = true
  rows : sqlite.table.rows.rows = memory.tasks.rows.map bindScheduleReminderTask
  nextId : sqlite.table.rows.nextId = memory.tasks.nextId

theorem mirrors_empty : Mirrors {} {} :=
  ⟨rfl, rfl, rfl⟩

/-- The statuses have the same code, and the same message unless a task is stored already. -/
def SameFailure (status status' : Status) : Prop :=
  status.code = status'.code ∧ (status.code ≠ .alreadyExists → status = status')

/-- The results are the same value or failures for the same reason. -/
inductive SameResult : Result ScheduleReminderTask → Result ScheduleReminderTask → Prop where
  | ok (task : ScheduleReminderTask) : SameResult (.ok task) (.ok task)
  | error {status status' : Status} (hsame : SameFailure status status') :
      SameResult (.error status) (.error status')

section

variable {memory : MemoryScheduleReminderTaskRepository} {sqlite : SqliteReminderTaskRepository}

theorem Mirrors.forall_rows (h : Mirrors memory sqlite) {p : ScheduleReminderTaskRow → Prop} :
    (∀ row ∈ sqlite.table.rows.rows, p row) ↔
      ∀ task ∈ memory.tasks.rows, p (bindScheduleReminderTask task) := by
  rw [h.rows, List.forall_mem_map]

theorem Mirrors.find? (h : Mirrors memory sqlite) (id : ℤ) :
    sqlite.table.rows.find? id = (memory.tasks.find? id).map bindScheduleReminderTask := by
  unfold IdTable.find?
  rw [h.rows, List.find?_map]
  rfl

/-- A valid task that clashes with none gets a row, if its operation id is plain. -/
theorem Mirrors.table_insert (h : Mirrors memory sqlite) {task : ScheduleReminderTask}
    (hvalid : task.Valid) (hplain : task.PlainOperation = true)
    (hfree : ∀ value ∈ memory.tasks.rows, ¬ Clash task value) :
    ∃ table, sqlite.table.insert (bindScheduleReminderTask task) = some table ∧
      table.rows = sqlite.table.rows.insert (bindScheduleReminderTask task) := by
  have hallowed : (bindScheduleReminderTask task).check ∧
      ∀ other ∈ sqlite.table.rows.rows, ¬ (bindScheduleReminderTask task).Collides other := by
    refine ⟨(check_bind hvalid).trans hplain, h.forall_rows.2 fun value hvalue hcollides => ?_⟩
    exact hfree value hvalue (collides_bind.1 hcollides)
  unfold ReminderTaskTable.insert
  rw [dif_pos hallowed]
  exact ⟨_, rfl, rfl⟩

/-- A task that clashes, or whose operation id is not plain, gets none. -/
theorem Mirrors.table_insert_none (h : Mirrors memory sqlite) {task : ScheduleReminderTask}
    (hvalid : task.Valid)
    (hrefused : task.PlainOperation = false ∨ ∃ value ∈ memory.tasks.rows, Clash task value) :
    sqlite.table.insert (bindScheduleReminderTask task) = none := by
  refine dif_neg fun hallowed => ?_
  rw [check_bind hvalid, h.forall_rows] at hallowed
  rcases hrefused with hplain | ⟨value, hvalue, hclash⟩
  · rw [hplain] at hallowed
    exact Bool.false_ne_true hallowed.1
  · exact hallowed.2 value hvalue (collides_bind.2 hclash)

/-- A stored task is replaced by a valid one that clashes with no other. -/
theorem Mirrors.table_update (h : Mirrors memory sqlite) {task found : ScheduleReminderTask}
    (hfound : memory.tasks.find? task.id = some found) (hvalid : task.Valid)
    (hplain : task.PlainOperation = true)
    (hfree : ∀ value ∈ memory.tasks.rows, value.id ≠ task.id → ¬ Clash task value) :
    ∃ table, sqlite.table.update (bindScheduleReminderTask task) = some (1, table) ∧
      table.rows = sqlite.table.rows.replace (bindScheduleReminderTask task) := by
  have hallowed : (bindScheduleReminderTask task).check ∧ ∀ other ∈ sqlite.table.rows.rows,
      other.id ≠ (bindScheduleReminderTask task).id →
        ¬ (bindScheduleReminderTask task).Collides other := by
    refine ⟨(check_bind hvalid).trans hplain, h.forall_rows.2 fun value hvalue hne hcollides => ?_⟩
    exact hfree value hvalue hne (collides_bind.1 hcollides)
  have hrow : sqlite.table.rows.find? (bindScheduleReminderTask task).id =
      some (bindScheduleReminderTask found) := by
    refine (h.find? task.id).trans ?_
    rw [hfound]
    rfl
  unfold ReminderTaskTable.update
  rw [hrow]
  dsimp only
  rw [dif_pos hallowed]
  exact ⟨_, rfl, rfl⟩

/-- A stored task is not replaced by one that clashes or has no plain operation id. -/
theorem Mirrors.table_update_none (h : Mirrors memory sqlite) {task found : ScheduleReminderTask}
    (hfound : memory.tasks.find? task.id = some found) (hvalid : task.Valid)
    (hrefused : task.PlainOperation = false ∨
      ∃ value ∈ memory.tasks.rows, value.id ≠ task.id ∧ Clash task value) :
    sqlite.table.update (bindScheduleReminderTask task) = none := by
  have hrow : sqlite.table.rows.find? (bindScheduleReminderTask task).id =
      some (bindScheduleReminderTask found) := by
    refine (h.find? task.id).trans ?_
    rw [hfound]
    rfl
  unfold ReminderTaskTable.update
  rw [hrow]
  refine dif_neg fun hallowed => ?_
  rw [check_bind hvalid, h.forall_rows] at hallowed
  rcases hrefused with hplain | ⟨value, hvalue, hne, hclash⟩
  · rw [hplain] at hallowed
    exact Bool.false_ne_true hallowed.1
  · exact hallowed.2 value hvalue hne (collides_bind.2 hclash)

/-- A task that is not stored leaves the table as it is. -/
theorem Mirrors.table_update_missing (h : Mirrors memory sqlite) {task : ScheduleReminderTask}
    (hmissing : memory.tasks.find? task.id = none) :
    sqlite.table.update (bindScheduleReminderTask task) = some (0, sqlite.table) := by
  have hrow : sqlite.table.rows.find? (bindScheduleReminderTask task).id = none := by
    refine (h.find? task.id).trans ?_
    rw [hmissing]
    rfl
  unfold ReminderTaskTable.update
  rw [hrow]

end

/-! ## Calls that write -/

/-- An insertion or an update. The detail is what the library says if a constraint fails. -/
inductive ReminderTaskCall where
  | insert (detail : String) (now : ℤ) (task : ScheduleReminderTask)
  | update (detail : String) (task : ScheduleReminderTask)

namespace ReminderTaskCall

/-- The call brings no operation id that the database takes for empty. -/
def Plain : ReminderTaskCall → Bool
  | insert _ _ task => task.PlainOperation
  | update _ task => task.PlainOperation

/-- The volatile store after a call. -/
def onMemory (memory : MemoryScheduleReminderTaskRepository) :
    ReminderTaskCall → MemoryScheduleReminderTaskRepository
  | insert _ now task => (memory.insert now task).2
  | update _ task => (memory.update task).2

/-- The lasting store after a call. -/
def onSqlite (sqlite : SqliteReminderTaskRepository) : ReminderTaskCall → SqliteReminderTaskRepository
  | insert detail now task => (sqlite.insert detail now task).2
  | update detail task => (sqlite.update detail task).2

end ReminderTaskCall

section

variable {memory : MemoryScheduleReminderTaskRepository} {sqlite : SqliteReminderTaskRepository}
  {task : ScheduleReminderTask} {status : Status}

theorem clashStatus_code {others : List ScheduleReminderTask}
    (h : MemoryScheduleReminderTaskRepository.clashStatus others task = some status) :
    status.code = .alreadyExists := by
  unfold MemoryScheduleReminderTaskRepository.clashStatus at h
  split_ifs at h <;> cases h <;> rfl

theorem exists_clash {others : List ScheduleReminderTask}
    (h : MemoryScheduleReminderTaskRepository.clashStatus others task = some status) :
    ∃ value ∈ others, Clash task value := by
  by_contra hnone
  push Not at hnone
  rw [MemoryScheduleReminderTaskRepository.clashStatus_eq_none.2 hnone] at h
  cases h

theorem sameFailure_refl (status : Status) : SameFailure status status :=
  ⟨rfl, fun _ => rfl⟩

/-- Both refuse the task because another one is stored. -/
theorem sameFailure_clash (h : status.code = .alreadyExists) (detail : String) :
    SameFailure status (SqliteScheduleRuleRepository.constraintFailure detail) :=
  ⟨h, fun hne => absurd h hne⟩

/-- The task with the times that an insertion gives it. -/
def stamped (now : ℤ) (task : ScheduleReminderTask) : ScheduleReminderTask :=
  let createdAt := if task.createdAt = 0 then now else task.createdAt
  let updatedAt := if task.updatedAt = 0 then createdAt else task.updatedAt
  { task with createdAt, updatedAt }

theorem sqlite_insert_of_valid (hopen : sqlite.isOpen = true) (hvalid : task.Valid) (detail : String)
    (now : ℤ) :
    sqlite.insert detail now task =
      match sqlite.table.insert (bindScheduleReminderTask (stamped now task)) with
      | none => (.error (SqliteScheduleRuleRepository.constraintFailure detail), sqlite)
      | some table =>
        (.ok { stamped now task with id := sqlite.table.rows.nextId },
          { sqlite with table := table }) := by
  unfold SqliteReminderTaskRepository.insert
  rw [if_neg (not_not_intro hopen), if_neg (not_not_intro hvalid)]
  rfl

theorem memory_insert_cases (hvalid : task.Valid) (now : ℤ) :
    (∃ status, MemoryScheduleReminderTaskRepository.clashStatus memory.tasks.rows task = some status ∧
      memory.insert now task = (.error status, memory)) ∨
    (∀ value ∈ memory.tasks.rows, ¬ Clash task value) ∧ ∃ memory',
      memory.insert now task =
        (.ok { stamped now task with id := memory.tasks.nextId }, memory') ∧
      memory'.tasks = memory.tasks.insert (stamped now task) := by
  unfold MemoryScheduleReminderTaskRepository.insert
  rw [dif_pos hvalid]
  split
  · next status hclash => exact Or.inl ⟨status, hclash, rfl⟩
  · next hclash =>
      have hfree := MemoryScheduleReminderTaskRepository.clashStatus_eq_none.1 hclash
      exact Or.inr ⟨hfree, _, rfl, rfl⟩

theorem sqlite_insert_of_not_valid (hopen : sqlite.isOpen = true) (hvalid : ¬ task.Valid)
    (detail : String) (now : ℤ) :
    sqlite.insert detail now task = (.error SqliteReminderTaskRepository.invalid, sqlite) := by
  unfold SqliteReminderTaskRepository.insert
  rw [if_neg (not_not_intro hopen), if_pos hvalid]

theorem sqlite_update_of_valid (hopen : sqlite.isOpen = true) (hvalid : task.Valid)
    (detail : String) :
    sqlite.update detail task =
      match sqlite.table.update (bindScheduleReminderTask task) with
      | none => (SqliteScheduleRuleRepository.constraintFailure detail, sqlite)
      | some (changes, table) =>
        if changes = 1 then (.success, { sqlite with table := table })
        else (.error .notFound "提醒任务不存在", { sqlite with table := table }) := by
  unfold SqliteReminderTaskRepository.update
  refine (if_neg (not_not_intro hopen)).trans ?_
  exact if_neg (not_not_intro hvalid)

theorem sqlite_update_of_not_valid (hopen : sqlite.isOpen = true) (hvalid : ¬ task.Valid)
    (detail : String) :
    sqlite.update detail task = (SqliteReminderTaskRepository.invalid, sqlite) := by
  unfold SqliteReminderTaskRepository.update
  rw [if_neg (not_not_intro hopen), if_pos hvalid]

theorem memory_update_missing (hmissing : memory.tasks.find? task.id = none) :
    memory.update task = (.error .notFound "提醒任务不存在", memory) := by
  unfold MemoryScheduleReminderTaskRepository.update
  rw [hmissing]

theorem memory_update_cases {found : ScheduleReminderTask}
    (hfound : memory.tasks.find? task.id = some found) (hvalid : task.Valid) :
    (∃ status value, status.code = .alreadyExists ∧ value ∈ memory.tasks.rows ∧ value.id ≠ task.id ∧
      Clash task value ∧ memory.update task = (status, memory)) ∨
    (∀ value ∈ memory.tasks.rows, value.id ≠ task.id → ¬ Clash task value) ∧ ∃ memory',
      memory.update task = (.success, memory') ∧ memory'.tasks = memory.tasks.replace task := by
  unfold MemoryScheduleReminderTaskRepository.update
  rw [hfound]
  dsimp only
  rw [dif_pos hvalid]
  split
  · next status hclash =>
      obtain ⟨value, hvalue, hsame⟩ := exists_clash hclash
      obtain ⟨hmem, hne⟩ := List.mem_filter.1 hvalue
      exact Or.inl ⟨status, value, clashStatus_code hclash, hmem, of_decide_eq_true hne, hsame, rfl⟩
  · next hclash =>
      have hfree := MemoryScheduleReminderTaskRepository.clashStatus_eq_none.1 hclash
      refine Or.inr ⟨fun value hvalue hne => ?_, _, rfl, rfl⟩
      exact hfree value (List.mem_filter.2 ⟨hvalue, decide_eq_true hne⟩)

/-- Both stores answer an insertion alike and mirror each other after it. -/
theorem Mirrors.insert (h : Mirrors memory sqlite) (detail : String) (now : ℤ)
    (hplain : task.PlainOperation = true) :
    SameResult (memory.insert now task).1 (sqlite.insert detail now task).1 ∧
      Mirrors (memory.insert now task).2 (sqlite.insert detail now task).2 := by
  by_cases hvalid : task.Valid
  · have hstamped : (stamped now task).Valid := hvalid
    rw [sqlite_insert_of_valid h.isOpen hvalid]
    -- a clash in memory is a collision of rows, and no clash leaves the row free
    rcases memory_insert_cases hvalid now with ⟨status, hclash, hmemory⟩ | ⟨hfree, memory', hmemory, htasks⟩
    · rw [hmemory, h.table_insert_none hstamped (Or.inr (exists_clash hclash))]
      exact ⟨.error (sameFailure_clash (clashStatus_code hclash) detail), h⟩
    · obtain ⟨table, hinsert, hrows⟩ := h.table_insert hstamped hplain hfree
      rw [hmemory, hinsert, h.nextId]
      refine ⟨.ok _, h.isOpen, ?_, ?_⟩
      · dsimp only
        rw [hrows, htasks]
        simp only [IdTable.insert, h.rows, h.nextId, List.map_append, List.map_cons, List.map_nil]
        rfl
      · dsimp only
        rw [hrows, htasks]
        simp only [IdTable.insert, h.nextId]
  · have hmemory : memory.insert now task = (.failure .invalidArgument "提醒任务字段无效", memory) :=
      dif_neg hvalid
    rw [hmemory, sqlite_insert_of_not_valid h.isOpen hvalid]
    exact ⟨.error (sameFailure_refl _), h⟩

/-- The database refuses to insert a task whose operation id is not plain. -/
theorem Mirrors.insert_refused (h : Mirrors memory sqlite) (detail : String) (now : ℤ)
    (hplain : task.PlainOperation = false) :
    ∃ status, status.ok = false ∧ sqlite.insert detail now task = (.error status, sqlite) := by
  by_cases hvalid : task.Valid
  · have hstamped : (stamped now task).Valid := hvalid
    rw [sqlite_insert_of_valid h.isOpen hvalid, h.table_insert_none hstamped (Or.inl hplain)]
    exact ⟨_, rfl, rfl⟩
  · rw [sqlite_insert_of_not_valid h.isOpen hvalid]
    exact ⟨_, rfl, rfl⟩

theorem map_bind_replace (tasks : List ScheduleReminderTask) (task : ScheduleReminderTask) :
    (tasks.map bindScheduleReminderTask).map (fun row =>
        if getId row = getId (bindScheduleReminderTask task) then bindScheduleReminderTask task else row) =
      (tasks.map fun value => if getId value = getId task then task else value).map
        bindScheduleReminderTask := by
  rw [List.map_map, List.map_map]
  refine List.map_congr_left fun value _ => ?_
  exact (apply_ite bindScheduleReminderTask _ _ _).symm

/-- Both stores answer an update alike, unless the task is neither valid nor stored, and mirror each
other after it. -/
theorem Mirrors.update (h : Mirrors memory sqlite) (detail : String)
    (hplain : task.PlainOperation = true) :
    (SameFailure (memory.update task).1 (sqlite.update detail task).1 ∨
      ¬ task.Valid ∧ memory.tasks.find? task.id = none ∧
        (memory.update task).1 = .error .notFound "提醒任务不存在" ∧
          (sqlite.update detail task).1 = SqliteReminderTaskRepository.invalid) ∧
      Mirrors (memory.update task).2 (sqlite.update detail task).2 := by
  by_cases hvalid : task.Valid
  · rw [sqlite_update_of_valid h.isOpen hvalid]
    cases hfound : memory.tasks.find? task.id with
    | none =>
        rw [memory_update_missing hfound, h.table_update_missing hfound]
        exact ⟨Or.inl (sameFailure_refl _), h⟩
    | some found =>
        rcases memory_update_cases hfound hvalid with
          ⟨status, value, hcode, hvalue, hne, hclash, hmemory⟩ | ⟨hfree, memory', hmemory, htasks⟩
        · rw [hmemory, h.table_update_none hfound hvalid (Or.inr ⟨value, hvalue, hne, hclash⟩)]
          exact ⟨Or.inl (sameFailure_clash hcode detail), h⟩
        · obtain ⟨table, hupdate, hrows⟩ := h.table_update hfound hvalid hplain hfree
          rw [hmemory, hupdate]
          dsimp only
          rw [if_pos rfl]
          refine ⟨Or.inl (sameFailure_refl _), h.isOpen, ?_, ?_⟩
          · rw [hrows, htasks]
            simp only [IdTable.replace, IdTable.modify, h.rows]
            exact map_bind_replace memory.tasks.rows task
          · rw [hrows, htasks]
            exact h.nextId
  · rw [sqlite_update_of_not_valid h.isOpen hvalid]
    cases hfound : memory.tasks.find? task.id with
    | none =>
        rw [memory_update_missing hfound]
        exact ⟨Or.inr ⟨hvalid, rfl, rfl, rfl⟩, h⟩
    | some found =>
        have hmemory : memory.update task = (.error .invalidArgument "提醒任务字段无效", memory) := by
          unfold MemoryScheduleReminderTaskRepository.update
          rw [hfound]
          exact dif_neg hvalid
        rw [hmemory]
        exact ⟨Or.inl (sameFailure_refl _), h⟩

/-- The database refuses to update a task to an operation id that is not plain. -/
theorem Mirrors.update_refused (h : Mirrors memory sqlite) (detail : String)
    (hplain : task.PlainOperation = false) :
    ∃ status, status.ok = false ∧ sqlite.update detail task = (status, sqlite) := by
  by_cases hvalid : task.Valid
  · rw [sqlite_update_of_valid h.isOpen hvalid]
    cases hfound : memory.tasks.find? task.id with
    | none =>
        rw [h.table_update_missing hfound]
        exact ⟨_, rfl, rfl⟩
    | some found =>
        rw [h.table_update_none hfound hvalid (Or.inl hplain)]
        exact ⟨_, rfl, rfl⟩
  · rw [sqlite_update_of_not_valid h.isOpen hvalid]
    exact ⟨_, rfl, rfl⟩

end

/-! ## Queries -/

section

variable {memory : MemoryScheduleReminderTaskRepository} {sqlite : SqliteReminderTaskRepository}

theorem Mirrors.findById (h : Mirrors memory sqlite) (id : ℤ) :
    sqlite.findById id = memory.findById id := by
  unfold SqliteReminderTaskRepository.findById MemoryScheduleReminderTaskRepository.findById
  rw [if_neg (not_not_intro h.isOpen), h.rows, List.find?_map, readOne_bind]
  have hsame : (fun row : ScheduleReminderTaskRow => holds (Sql.eq (some row.id) (some id))) ∘
      bindScheduleReminderTask = fun task => decide (getId task = id) := by
    funext task
    refine (holds_eq _ _).trans ?_
    exact decide_eq_decide.2 Iff.rfl
  rw [hsame]
  rfl

theorem Mirrors.findByTimingTaskId (h : Mirrors memory sqlite) (timingTaskId : String) :
    sqlite.findByTimingTaskId timingTaskId = memory.findByTimingTaskId timingTaskId := by
  unfold SqliteReminderTaskRepository.findByTimingTaskId
    MemoryScheduleReminderTaskRepository.findByTimingTaskId
  have hsame : (fun row : ScheduleReminderTaskRow =>
      holds (Sql.eq row.timingTaskId (some timingTaskId))) ∘ bindScheduleReminderTask =
        fun task => decide (task.timingTaskId = some timingTaskId) := by
    funext task
    -- an equality with NULL does not hold
    cases htiming : task.timingTaskId <;> simp [bindScheduleReminderTask, htiming]
  rw [if_neg (not_not_intro h.isOpen), h.rows, List.find?_map, hsame]
  exact readOne_bind _

/-- A statement with `ORDER BY` lists the tasks of the rows that it selects. -/
theorem readMany_orderBy {κ : Type} [LinearOrder κ] (tasks : List ScheduleReminderTask)
    (p : ScheduleReminderTaskRow → Bool) (sortKey : ScheduleReminderTaskRow → κ) :
    SqliteReminderTaskRepository.readMany
        (orderBy sortKey ((tasks.map bindScheduleReminderTask).filter p)) =
      .ok (orderBy (sortKey ∘ bindScheduleReminderTask)
        (tasks.filter (p ∘ bindScheduleReminderTask))) := by
  rw [List.filter_map, orderBy_map, readMany_bind]

theorem Mirrors.findBySchedule (h : Mirrors memory sqlite) (scheduleId : ℤ) :
    sqlite.findBySchedule scheduleId =
      .ok (orderBy (fun task => toLex (task.chainId, toLex (task.attempt, task.id)))
        (memory.findBySchedule scheduleId)) := by
  unfold SqliteReminderTaskRepository.findBySchedule
    MemoryScheduleReminderTaskRepository.findBySchedule
  rw [if_neg (not_not_intro h.isOpen), h.rows, readMany_orderBy]
  have hsame : (fun row : ScheduleReminderTaskRow =>
      holds (Sql.eq (some row.scheduleId) (some scheduleId))) ∘ bindScheduleReminderTask =
        fun task => decide (task.scheduleId = scheduleId) := by
    funext task
    refine (holds_eq _ _).trans ?_
    exact decide_eq_decide.2 Iff.rfl
  rw [hsame]
  rfl

theorem Mirrors.findAll (h : Mirrors memory sqlite) :
    sqlite.findAll = .ok (orderBy (fun task => toLex (task.triggerAt, task.id)) memory.findAll) := by
  unfold SqliteReminderTaskRepository.findAll MemoryScheduleReminderTaskRepository.findAll
  rw [if_neg (not_not_intro h.isOpen), h.rows, orderBy_map, readMany_bind]
  rfl

theorem holds_triggeredWhere (start finish : ℤ) (task : ScheduleReminderTask) :
    holds (SqliteReminderTaskRepository.triggeredWhere start finish (bindScheduleReminderTask task)) =
      ((task.triggeredAt.any fun triggeredAt => start ≤ triggeredAt ∧ triggeredAt ≤ finish) &&
        task.timerStatus == .triggered &&
          (task.businessStatus == .waitingAcknowledgement || task.businessStatus == .exhausted)) := by
  have htimer : decide (task.timerStatus.toInt = 2) = (task.timerStatus == .triggered) := by
    cases task.timerStatus <;> rfl
  have hbusiness : (decide (task.businessStatus.toInt = 2) || decide (task.businessStatus.toInt = 4)) =
      (task.businessStatus == .waitingAcknowledgement || task.businessStatus == .exhausted) := by
    cases task.businessStatus <;> rfl
  rw [← htimer, ← hbusiness]
  unfold SqliteReminderTaskRepository.triggeredWhere bindScheduleReminderTask
  cases task.triggeredAt with
  | none => simp
  | some triggeredAt => simp [Bool.and_assoc]

theorem Mirrors.findTriggered (h : Mirrors memory sqlite) (start finish : ℤ) :
    sqlite.findTriggered start finish =
      .ok (orderBy (SqliteReminderTaskRepository.triggeredOrder ∘ bindScheduleReminderTask)
        (memory.findTriggered start finish)) := by
  unfold SqliteReminderTaskRepository.findTriggered MemoryScheduleReminderTaskRepository.findTriggered
  rw [if_neg (not_not_intro h.isOpen), h.rows, readMany_orderBy]
  have hsame : (fun row => holds (SqliteReminderTaskRepository.triggeredWhere start finish row)) ∘
      bindScheduleReminderTask = _ := funext (holds_triggeredWhere start finish)
  rw [hsame]

end

/-! ## Runs -/

/-- Both stores answer every call alike. -/
structure StoresAgree (memory : MemoryScheduleReminderTaskRepository)
    (sqlite : SqliteReminderTaskRepository) : Prop where
  insert : ∀ detail now (task : ScheduleReminderTask), task.PlainOperation = true →
    SameResult (memory.insert now task).1 (sqlite.insert detail now task).1
  update : ∀ detail (task : ScheduleReminderTask), task.PlainOperation = true →
    SameFailure (memory.update task).1 (sqlite.update detail task).1 ∨
      ¬ task.Valid ∧ memory.tasks.find? task.id = none ∧
        (memory.update task).1 = .error .notFound "提醒任务不存在" ∧
          (sqlite.update detail task).1 = SqliteReminderTaskRepository.invalid
  insert_refused : ∀ detail now (task : ScheduleReminderTask), task.PlainOperation = false →
    ∃ status, status.ok = false ∧ sqlite.insert detail now task = (.error status, sqlite)
  update_refused : ∀ detail (task : ScheduleReminderTask), task.PlainOperation = false →
    ∃ status, status.ok = false ∧ sqlite.update detail task = (status, sqlite)
  findById : ∀ id, sqlite.findById id = memory.findById id
  findByTimingTaskId : ∀ timingTaskId,
    sqlite.findByTimingTaskId timingTaskId = memory.findByTimingTaskId timingTaskId
  findBySchedule : ∀ scheduleId, sqlite.findBySchedule scheduleId =
    .ok (orderBy (fun task => toLex (task.chainId, toLex (task.attempt, task.id)))
      (memory.findBySchedule scheduleId))
  findAll : sqlite.findAll =
    .ok (orderBy (fun task => toLex (task.triggerAt, task.id)) memory.findAll)
  findTriggered : ∀ start finish, sqlite.findTriggered start finish =
    .ok (orderBy (SqliteReminderTaskRepository.triggeredOrder ∘ bindScheduleReminderTask)
      (memory.findTriggered start finish))

theorem Mirrors.agree {memory : MemoryScheduleReminderTaskRepository}
    {sqlite : SqliteReminderTaskRepository} (h : Mirrors memory sqlite) : StoresAgree memory sqlite where
  insert := fun detail now _ hplain => (h.insert detail now hplain).1
  update := fun detail _ hplain => (h.update detail hplain).1
  insert_refused := fun detail now _ hplain => h.insert_refused detail now hplain
  update_refused := fun detail _ hplain => h.update_refused detail hplain
  findById := h.findById
  findByTimingTaskId := h.findByTimingTaskId
  findBySchedule := h.findBySchedule
  findAll := h.findAll
  findTriggered := h.findTriggered

theorem Mirrors.step {memory : MemoryScheduleReminderTaskRepository}
    {sqlite : SqliteReminderTaskRepository} (h : Mirrors memory sqlite) (call : ReminderTaskCall) :
    Mirrors (if call.Plain then ReminderTaskCall.onMemory memory call else memory)
      (ReminderTaskCall.onSqlite sqlite call) := by
  cases hplain : call.Plain with
  | true =>
      rw [if_pos rfl]
      cases call with
      | insert detail now task => exact (h.insert detail now hplain).2
      | update detail task => exact (h.update detail hplain).2
  | false =>
      rw [if_neg Bool.false_ne_true]
      cases call with
      | insert detail now task =>
          obtain ⟨status, -, hsame⟩ := h.insert_refused detail now hplain
          rw [ReminderTaskCall.onSqlite, hsame]
          exact h
      | update detail task =>
          obtain ⟨status, -, hsame⟩ := h.update_refused detail hplain
          rw [ReminderTaskCall.onSqlite, hsame]
          exact h

theorem mirrors_run {memory : MemoryScheduleReminderTaskRepository}
    {sqlite : SqliteReminderTaskRepository} (h : Mirrors memory sqlite) (calls : List ReminderTaskCall) :
    Mirrors (Run.run ReminderTaskCall.onMemory memory (calls.filter ReminderTaskCall.Plain))
      (Run.run ReminderTaskCall.onSqlite sqlite calls) := by
  induction calls generalizing memory sqlite with
  | nil => exact h
  | cons call calls ih =>
      have hstep := h.step call
      cases hplain : call.Plain with
      | true =>
          rw [hplain, if_pos rfl] at hstep
          rw [List.filter_cons_of_pos hplain]
          exact ih hstep
      | false =>
          rw [hplain, if_neg Bool.false_ne_true] at hstep
          rw [List.filter_cons_of_neg (ne_true_of_eq_false hplain)]
          exact ih hstep

/-- After any calls the lasting store is what the volatile one is after those of them that bring no
operation id which the database takes for empty: it has the rows of the same tasks and answers alike. -/
theorem reminder_task_stores_agree (calls : List ReminderTaskCall) :
    Mirrors (Run.run ReminderTaskCall.onMemory {} (calls.filter ReminderTaskCall.Plain))
        (Run.run ReminderTaskCall.onSqlite {} calls) ∧
      StoresAgree (Run.run ReminderTaskCall.onMemory {} (calls.filter ReminderTaskCall.Plain))
        (Run.run ReminderTaskCall.onSqlite {} calls) := by
  have hmirrors := mirrors_run mirrors_empty calls
  exact ⟨hmirrors, hmirrors.agree⟩

end VoiceLife
