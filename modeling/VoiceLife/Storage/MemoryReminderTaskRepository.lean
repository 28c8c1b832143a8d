import VoiceLife.Contracts.Status
import VoiceLife.Lib.IdTable

/-! # `memory_schedule_reminder_task_repository.cc`: the volatile store of reminder tasks

Every stored task is valid, and no two of them share an attempt of a chain, a Timing identifier or an
operation identifier; the store carries what its checks establish.
-/

namespace VoiceLife

/-- `ScheduleReminderBusinessStatus`. -/
inductive ScheduleReminderBusinessStatus where
  | scheduled
  | waitingAcknowledgement
  | acknowledged
  | exhausted
  | cancelled
  | snoozed
deriving DecidableEq, Repr

/-- `ScheduleReminderActionKind`. -/
inductive ScheduleReminderActionKind where
  | acknowledge
  | snooze
deriving DecidableEq, Repr

/-- `ScheduleReminderTimerStatus`. -/
inductive ScheduleReminderTimerStatus where
  | pending
  | triggered
  | cancelled
  | completed
  | failed
deriving DecidableEq, Repr

/-- `ScheduleReminderTask`: one timer of a chain of reminders. -/
structure ScheduleReminderTask where
  id : ℤ := 0
  scheduleId : ℤ := 0
  event : String := ""
  chainId : ℤ := 0
  attempt : ℤ := 1
  timingTaskId : Option String := none
  triggerAt : ℤ := 0
  businessStatus : ScheduleReminderBusinessStatus := .scheduled
  timerStatus : ScheduleReminderTimerStatus := .pending
  triggeredAt : Option ℤ := none
  actionOperationId : Option String := none
  actionKind : Option ScheduleReminderActionKind := none
  actionOccurredAt : Option ℤ := none
  actionNextTriggerAt : Option ℤ := none
  createdAt : ℤ := 0
  updatedAt : ℤ := 0
deriving DecidableEq, Repr

instance : HasId ScheduleReminderTask where
  getId := ScheduleReminderTask.id
  setId task id := { task with id }
  getId_setId _ _ := rfl

@[simp] theorem getId_reminderTask (task : ScheduleReminderTask) : getId task = task.id := rfl

@[simp] theorem setId_reminderTask (task : ScheduleReminderTask) (id : ℤ) :
    setId task id = { task with id } := rfl

/-- `ValidAction`: the fields of the action are all set or all empty, and fit the business status. -/
def ScheduleReminderTask.ValidAction (task : ScheduleReminderTask) : Prop :=
  match task.actionOperationId with
  | none =>
    task.actionKind = none ∧ task.actionOccurredAt = none ∧ task.actionNextTriggerAt = none
  | some operationId =>
    operationId ≠ "" ∧ task.actionOccurredAt.isSome = true ∧
      ((task.actionKind = some .acknowledge ∧ task.businessStatus = .acknowledged ∧
          task.actionNextTriggerAt = none) ∨
        (task.actionKind = some .snooze ∧ task.businessStatus = .snoozed ∧
          task.actionNextTriggerAt.isSome = true))

instance (task : ScheduleReminderTask) : Decidable task.ValidAction := by
  unfold ScheduleReminderTask.ValidAction
  cases task.actionOperationId <;> infer_instance

/-- `Valid`. -/
def ScheduleReminderTask.Valid (task : ScheduleReminderTask) : Prop :=
  0 < task.scheduleId ∧ 0 < task.chainId ∧ 0 < task.attempt ∧ task.attempt ≤ 3 ∧
    task.triggerAt ≠ 0 ∧ task.ValidAction

instance (task : ScheduleReminderTask) : Decidable task.Valid := by
  unfold ScheduleReminderTask.Valid
  infer_instance

/-- The tasks are the same attempt of a chain. -/
def SameAttempt (a b : ScheduleReminderTask) : Prop :=
  a.chainId = b.chainId ∧ a.attempt = b.attempt

instance (a b : ScheduleReminderTask) : Decidable (SameAttempt a b) := by
  unfold SameAttempt
  infer_instance

/-- The tasks share a Timing identifier. -/
def SameTiming (a b : ScheduleReminderTask) : Prop :=
  a.timingTaskId.isSome = true ∧ b.timingTaskId = a.timingTaskId

instance (a b : ScheduleReminderTask) : Decidable (SameTiming a b) := by
  unfold SameTiming
  infer_instance

/-- The tasks share an operation identifier. -/
def SameOperation (a b : ScheduleReminderTask) : Prop :=
  a.actionOperationId.isSome = true ∧ b.actionOperationId = a.actionOperationId

instance (a b : ScheduleReminderTask) : Decidable (SameOperation a b) := by
  unfold SameOperation
  infer_instance

/-- The three tests that keep two tasks from being stored together. -/
def Clash (a b : ScheduleReminderTask) : Prop :=
  SameAttempt a b ∨ SameTiming a b ∨ SameOperation a b

theorem Clash.symm {a b : ScheduleReminderTask} (h : Clash a b) : Clash b a := by
  rcases h with ⟨hchain, hattempt⟩ | ⟨hsome, hsame⟩ | ⟨hsome, hsame⟩
  · exact Or.inl ⟨hchain.symm, hattempt.symm⟩
  · exact Or.inr (Or.inl ⟨hsame ▸ hsome, hsame.symm⟩)
  · exact Or.inr (Or.inr ⟨hsame ▸ hsome, hsame.symm⟩)

/-- `MemoryScheduleReminderTaskRepository`. -/
structure MemoryScheduleReminderTaskRepository where
  tasks : IdTable ScheduleReminderTask := .empty
  valid : ∀ task ∈ tasks.rows, task.Valid := by simp
  distinct : ∀ a ∈ tasks.rows, ∀ b ∈ tasks.rows, a.id ≠ b.id → ¬ Clash a b := by simp

namespace MemoryScheduleReminderTaskRepository

/-- The failure that the checks of `Insert` and `Update` report for a valid task, given the stored
tasks it is compared with. -/
def clashStatus (others : List ScheduleReminderTask) (task : ScheduleReminderTask) :
    Option Status :=
  if others.any fun value => decide (SameAttempt task value) then
    some (.error .alreadyExists "提醒链尝试次数已存在")
  else if others.any fun value => decide (SameTiming task value) then
    some (.error .alreadyExists "Timing task 标识已存在")
  else if others.any fun value => decide (SameOperation task value) then
    some (.error .alreadyExists "提醒动作 operationId 已存在")
  else none

theorem clashStatus_eq_none {others : List ScheduleReminderTask} {task : ScheduleReminderTask} :
    clashStatus others task = none ↔ ∀ value ∈ others, ¬ Clash task value := by
  unfold clashStatus Clash
  split_ifs with hattempt htiming hoperation
  · simp only [List.any_eq_true, decide_eq_true_eq] at hattempt
    obtain ⟨value, hvalue, hsame⟩ := hattempt
    exact iff_of_false (fun h => by cases h) fun h => h value hvalue (Or.inl hsame)
  · simp only [List.any_eq_true, decide_eq_true_eq] at htiming
    obtain ⟨value, hvalue, hsame⟩ := htiming
    exact iff_of_false (fun h => by cases h) fun h => h value hvalue (Or.inr (Or.inl hsame))
  · simp only [List.any_eq_true, decide_eq_true_eq] at hoperation
    obtain ⟨value, hvalue, hsame⟩ := hoperation
    exact iff_of_false (fun h => by cases h) fun h => h value hvalue (Or.inr (Or.inr hsame))
  · simp only [List.any_eq_true, decide_eq_true_eq, not_exists,
      not_and] at hattempt htiming hoperation
    refine iff_of_true rfl fun value hvalue hclash => ?_
    rcases hclash with h | h | h
    · exact hattempt value hvalue h
    · exact htiming value hvalue h
    · exact hoperation value hvalue h

theorem clashStatus_ok {others : List ScheduleReminderTask} {task : ScheduleReminderTask}
    {status : Status} (h : clashStatus others task = some status) : status.ok = false := by
  unfold clashStatus at h
  split_ifs at h <;> cases h <;> rfl

/-- `Insert`; `now` is the clock reading of the store. -/
def insert (repo : MemoryScheduleReminderTaskRepository) (now : ℤ) (task : ScheduleReminderTask) :
    Result ScheduleReminderTask × MemoryScheduleReminderTaskRepository :=
  if hvalid : task.Valid then
    match hclash : clashStatus repo.tasks.rows task with
    | some status => (.error status, repo)
    | none =>
      let createdAt := if task.createdAt = 0 then now else task.createdAt
      let updatedAt := if task.updatedAt = 0 then createdAt else task.updatedAt
      let stored := { task with id := repo.tasks.nextId, createdAt, updatedAt }
      (.ok stored,
        { tasks := repo.tasks.insert stored
          valid := by
            intro other hother
            rcases IdTable.mem_insert.1 hother with hother | rfl
            · exact repo.valid other hother
            · exact hvalid
          distinct := by
            have hfree := clashStatus_eq_none.1 hclash
            intro a ha b hb hne
            rcases IdTable.mem_insert.1 ha with ha | rfl
            · rcases IdTable.mem_insert.1 hb with hb | rfl
              · exact repo.distinct a ha b hb hne
              · exact fun h => hfree a ha h.symm
            · rcases IdTable.mem_insert.1 hb with hb | rfl
              · exact hfree b hb
              · exact absurd rfl hne })
  else (.failure .invalidArgument "提醒任务字段无效", repo)

/-- `Update`. -/
def update (repo : MemoryScheduleReminderTaskRepository) (task : ScheduleReminderTask) :
    Status × MemoryScheduleReminderTaskRepository :=
  match repo.tasks.find? task.id with
  | none => (.error .notFound "提醒任务不存在", repo)
  | some _ =>
    if hvalid : task.Valid then
      match hclash : clashStatus (repo.tasks.rows.filter fun value => value.id ≠ task.id) task with
      | some status => (status, repo)
      | none =>
        (.success,
          { tasks := repo.tasks.replace task
            valid := by
              intro other hother
              rcases IdTable.mem_replace_of_mem hother with rfl | hother
              · exact hvalid
              · exact repo.valid other hother
            distinct := by
              have hfree : ∀ value ∈ repo.tasks.rows, value.id ≠ task.id → ¬ Clash task value := by
                intro value hvalue hne
                apply clashStatus_eq_none.1 hclash
                exact List.mem_filter.2 ⟨hvalue, decide_eq_true hne⟩
              intro a ha b hb hne
              rcases IdTable.mem_replace_of_mem ha with rfl | ha'
              · rcases IdTable.mem_replace_of_mem hb with rfl | hb'
                · exact absurd rfl hne
                · exact hfree b hb' hne.symm
              · rcases IdTable.mem_replace_of_mem hb with rfl | hb'
                · exact fun h => hfree a ha' hne h.symm
                · exact repo.distinct a ha' b hb' hne })
    else (.error .invalidArgument "提醒任务字段无效", repo)

/-- `FindById`. -/
def findById (repo : MemoryScheduleReminderTaskRepository) (id : ℤ) :
    Result ScheduleReminderTask :=
  match repo.tasks.find? id with
  | none => .failure .notFound "提醒任务不存在"
  | some found => .ok found

/-- `FindByTimingTaskId`. -/
def findByTimingTaskId (repo : MemoryScheduleReminderTaskRepository) (timingTaskId : String) :
    Result ScheduleReminderTask :=
  match repo.tasks.rows.find? fun task => task.timingTaskId = some timingTaskId with
  | none => .failure .notFound "提醒任务不存在"
  | some found => .ok found

/-- `FindBySchedule`. -/
def findBySchedule (repo : MemoryScheduleReminderTaskRepository) (scheduleId : ℤ) :
    List ScheduleReminderTask :=
  repo.tasks.rows.filter fun task => task.scheduleId = scheduleId

/-- `FindAll`. -/
def findAll (repo : MemoryScheduleReminderTaskRepository) : List ScheduleReminderTask :=
  repo.tasks.rows

/-- `FindTriggered`: the reminders that rang in a window and still wait for an answer. -/
def findTriggered (repo : MemoryScheduleReminderTaskRepository) (start finish : ℤ) :
    List ScheduleReminderTask :=
  repo.tasks.rows.filter fun task =>
    (task.triggeredAt.any fun triggeredAt => start ≤ triggeredAt ∧ triggeredAt ≤ finish) &&
      task.timerStatus == .triggered &&
      (task.businessStatus == .waitingAcknowledgement || task.businessStatus == .exhausted)

/-! ## What the operations do -/

/-- An insertion adds a valid task that clashes with none, or fails. -/
theorem insert_cases (repo : MemoryScheduleReminderTaskRepository) (now : ℤ)
    (task : ScheduleReminderTask) :
    (∃ status : Status, status.ok = false ∧ repo.insert now task = (.error status, repo)) ∨
      ∃ createdAt updatedAt repo', task.Valid ∧ (∀ value ∈ repo.tasks.rows, ¬ Clash task value) ∧
        repo.insert now task =
          (.ok { task with id := repo.tasks.nextId, createdAt, updatedAt }, repo') ∧
        repo'.tasks = repo.tasks.insert { task with createdAt, updatedAt } := by
  unfold insert
  split
  · next hvalid =>
      split
      · next hclash => exact Or.inl ⟨_, clashStatus_ok hclash, rfl⟩
      · next hclash =>
          exact Or.inr ⟨_, _, _, hvalid, clashStatus_eq_none.1 hclash, rfl, rfl⟩
  · exact Or.inl ⟨_, rfl, rfl⟩

/-- An update replaces a stored task, or fails. -/
theorem update_cases (repo : MemoryScheduleReminderTaskRepository) (task : ScheduleReminderTask) :
    (∃ status : Status, status.ok = false ∧ repo.update task = (status, repo) ∧ ¬ (task.Valid ∧
        (∃ found, repo.tasks.find? task.id = some found) ∧
        ∀ value ∈ repo.tasks.rows, value.id ≠ task.id → ¬ Clash task value)) ∨
      ∃ found repo', repo.tasks.find? task.id = some found ∧ task.Valid ∧
        repo.update task = (.success, repo') ∧ repo'.tasks = repo.tasks.replace task := by
  unfold update
  split
  · next hnone =>
      refine Or.inl ⟨_, rfl, rfl, ?_⟩
      rintro ⟨-, ⟨found, hfound⟩, -⟩
      rw [hnone] at hfound
      cases hfound
  · next found hfound =>
      split
      · next hvalid =>
          split
          · next status hclash =>
              refine Or.inl ⟨_, clashStatus_ok hclash, rfl, ?_⟩
              rintro ⟨-, -, hfree⟩
              rw [clashStatus_eq_none.2] at hclash
              · cases hclash
              · intro value hvalue
                obtain ⟨hmem, hne⟩ := List.mem_filter.1 hvalue
                exact hfree value hmem (of_decide_eq_true hne)
          · exact Or.inr ⟨found, _, hfound, hvalid, rfl, rfl⟩
      · next hvalid => exact Or.inl ⟨_, rfl, rfl, fun h => hvalid h.1⟩

variable {repo : MemoryScheduleReminderTaskRepository}

/-- Writing back a stored task under the same keys succeeds if the task is valid. -/
theorem update_eq_success
    {row task : ScheduleReminderTask} (hrow : row ∈ repo.tasks.rows) (hid : task.id = row.id)
    (hchain : task.chainId = row.chainId) (hattempt : task.attempt = row.attempt)
    (htiming : task.timingTaskId = row.timingTaskId)
    (hoperation : task.actionOperationId = row.actionOperationId) (hvalid : task.Valid) :
    ∃ repo', repo.update task = (.success, repo') ∧ repo'.tasks = repo.tasks.replace task := by
  rcases repo.update_cases task with ⟨_, -, -, hfail⟩ | ⟨_, repo', -, -, hupdate, htasks⟩
  · refine absurd ⟨hvalid, ⟨row, IdTable.find?_eq_some.2 ⟨hrow, hid.symm⟩⟩, ?_⟩ hfail
    intro value hvalue hne hclash
    refine repo.distinct row hrow value hvalue (fun h => hne (h.symm.trans hid.symm)) ?_
    unfold Clash SameAttempt SameTiming SameOperation at hclash ⊢
    rwa [hchain, hattempt, htiming, hoperation] at hclash
  · exact ⟨repo', hupdate, htasks⟩

theorem findById_eq_ok {id : ℤ} {found : ScheduleReminderTask} :
    repo.findById id = .ok found ↔ repo.tasks.find? id = some found := by
  unfold findById
  cases repo.tasks.find? id with
  | none => simp [Result.failure]
  | some task => simp

theorem findByTimingTaskId_error {timingTaskId : String} {status : Status}
    (h : repo.findByTimingTaskId timingTaskId = .error status) : status.ok = false := by
  unfold findByTimingTaskId at h
  split at h
  · cases h
    rfl
  · cases h

/-- A Timing identifier names one task. -/
theorem findByTimingTaskId_eq_ok {timingTaskId : String} {found : ScheduleReminderTask} :
    repo.findByTimingTaskId timingTaskId = .ok found ↔
      found ∈ repo.tasks.rows ∧ found.timingTaskId = some timingTaskId := by
  unfold findByTimingTaskId
  constructor
  · intro h
    cases hfind : repo.tasks.rows.find? fun task => task.timingTaskId = some timingTaskId with
    | none =>
        rw [hfind] at h
        cases h
    | some task =>
        rw [hfind] at h
        cases h
        exact ⟨List.mem_of_find?_eq_some hfind, by simpa using List.find?_some hfind⟩
  · rintro ⟨hmem, htiming⟩
    obtain ⟨task, hfind⟩ : ∃ task, repo.tasks.rows.find?
        (fun task => task.timingTaskId = some timingTaskId) = some task :=
      Option.isSome_iff_exists.1 (List.find?_isSome.2 ⟨found, hmem, by simpa using htiming⟩)
    have htask : task.timingTaskId = some timingTaskId := by simpa using List.find?_some hfind
    have hsame : task.id = found.id := by
      by_contra hne
      refine repo.distinct task (List.mem_of_find?_eq_some hfind) found hmem hne ?_
      exact Or.inr (Or.inl ⟨by rw [htask]; rfl, htiming.trans htask.symm⟩)
    rw [hfind, repo.tasks.eq_of_getId_eq (List.mem_of_find?_eq_some hfind) hmem hsame]

end MemoryScheduleReminderTaskRepository

end VoiceLife
