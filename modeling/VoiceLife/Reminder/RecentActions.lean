import VoiceLife.Reminder.ActionOutcomes
import VoiceLife.Reminder.ReminderCalls

/-! # Voice actions on the recent reminders

`ExecuteRecentReminderActions` carries out one action on every reminder of the last ten minutes. It
reports a success only if every one of them went through: a failure can stand for a batch of which
some actions are stored.
-/

namespace VoiceLife

/-! ## The actions that a store holds -/

/-- What identifies a task, and the operation stored with it. -/
structure ActionRecord where
  id : ℤ
  timingTaskId : Option String
  operationId : Option String
deriving DecidableEq

/-- The record of a task. -/
def ScheduleReminderTask.record (task : ScheduleReminderTask) : ActionRecord :=
  ⟨task.id, task.timingTaskId, task.actionOperationId⟩

/-- The records of a store. -/
def MemoryScheduleReminderTaskRepository.records (repo : MemoryScheduleReminderTaskRepository) :
    List ActionRecord :=
  repo.tasks.rows.map ScheduleReminderTask.record

/-- The record with an operation, if it is the one of this task. -/
def ActionRecord.act (id : ℤ) (operationId : String) (r : ActionRecord) : ActionRecord :=
  if r.id = id then { r with operationId := some operationId } else r

theorem ActionRecord.act_of_ne {r : ActionRecord} {id : ℤ} {operationId : String}
    (h : r.id ≠ id) : r.act id operationId = r :=
  if_neg h

namespace MemoryScheduleReminderTaskRepository

variable {repo repo' : MemoryScheduleReminderTaskRepository}

theorem records_inj {a b : ActionRecord} (ha : a ∈ repo.records) (hb : b ∈ repo.records)
    (h : a.id = b.id) : a = b := by
  obtain ⟨row, hrow, rfl⟩ := List.mem_map.1 ha
  obtain ⟨row', hrow', rfl⟩ := List.mem_map.1 hb
  rw [repo.tasks.eq_of_getId_eq hrow hrow' h]

/-- A Timing identifier belongs to one record. -/
theorem records_timing_inj {a b : ActionRecord} (ha : a ∈ repo.records) (hb : b ∈ repo.records)
    {timingTaskId : String} (hat : a.timingTaskId = some timingTaskId)
    (hbt : b.timingTaskId = some timingTaskId) : a.id = b.id := by
  obtain ⟨row, hrow, rfl⟩ := List.mem_map.1 ha
  obtain ⟨row', hrow', rfl⟩ := List.mem_map.1 hb
  have hsame := findByTimingTaskId_eq_ok.2 ⟨hrow, hat⟩
  rw [findByTimingTaskId_eq_ok.2 ⟨hrow', hbt⟩] at hsame
  cases hsame
  rfl

theorem records_replace {task : ScheduleReminderTask}
    (h : repo'.tasks = repo.tasks.replace task) :
    repo'.records = repo.records.map fun r => if r.id = task.id then task.record else r := by
  unfold records
  rw [h]
  show (repo.tasks.rows.map _).map _ = (repo.tasks.rows.map _).map _
  rw [List.map_map, List.map_map]
  apply List.map_congr_left
  intro row _
  show ScheduleReminderTask.record (if row.id = task.id then task else row) = _
  rw [apply_ite ScheduleReminderTask.record]
  rfl

/-- Writing a task back with its operation leaves the records alone. -/
theorem records_update {task : ScheduleReminderTask} (h : task.record ∈ repo.records) :
    (repo.update task).2.records = repo.records := by
  rcases repo.update_cases task with ⟨status, -, hfail, -⟩ | ⟨_, repo', -, -, hok, htasks⟩
  · rw [hfail]
  · rw [hok, records_replace htasks]
    conv_rhs => rw [← List.map_id repo.records]
    apply List.map_congr_left
    intro r hr
    by_cases hid : r.id = task.id
    · rw [if_pos hid]
      exact records_inj h hr hid.symm
    · rw [if_neg hid]
      rfl

/-- Storing an operation with a task changes its record only. -/
theorem records_act {row task : ScheduleReminderTask} {operationId : String}
    (hrow : row.record ∈ repo.records)
    (htask : task.record = { row.record with operationId := some operationId })
    (h : repo'.tasks = repo.tasks.replace task) :
    repo'.records = repo.records.map (ActionRecord.act row.id operationId) := by
  have hid : task.id = row.id := congrArg ActionRecord.id htask
  rw [records_replace h]
  apply List.map_congr_left
  intro r hr
  unfold ActionRecord.act
  rw [hid]
  by_cases hsame : r.id = row.id
  · rw [if_pos hsame, if_pos hsame, htask, records_inj hr hrow hsame]
  · rw [if_neg hsame, if_neg hsame]

end MemoryScheduleReminderTaskRepository

namespace ScheduleReminderService

open ScheduleService MemoryScheduleReminderTaskRepository

variable {env : ReminderEnv} {s : ScheduleReminderService}

/-! ## One command -/

@[simp] theorem cancelChain_reminders (chainId : ℤ) (tasks : List ScheduleReminderTask) :
    (cancelChain env chainId tasks s).2.reminders = s.reminders := by
  induction tasks generalizing s with
  | nil => rfl
  | cons task tasks ih =>
      unfold cancelChain
      split_ifs
      · exact ih
      · cases task.timingTaskId with
        | none => exact ih
        | some id =>
            dsimp only
            split_ifs
            · exact cancelTiming_reminders id
            · rw [ih]
              exact cancelTiming_reminders id

/-- Closing the other tasks of a chain stores no operation. -/
theorem acknowledgeSiblings_records (target : ScheduleReminderTask)
    (tasks : List ScheduleReminderTask) (s : ScheduleReminderService)
    (h : ∀ task ∈ tasks, task.record ∈ s.reminders.records) :
    (acknowledgeSiblings env target tasks s).2.reminders.records = s.reminders.records := by
  induction tasks generalizing s with
  | nil => rfl
  | cons task tasks ih =>
      have hclosed : (s.updateTask (closedSibling env task)).2.reminders.records =
          s.reminders.records :=
        records_update (show (closedSibling env task).record ∈ _ from h task List.mem_cons_self)
      have hrest : ∀ t ∈ tasks, t.record ∈ s.reminders.records :=
        fun t ht => h t (List.mem_cons_of_mem _ ht)
      rw [acknowledgeSiblings_cons]
      split_ifs
      · exact ih s hrest
      · exact hclosed
      · rw [ih _ (by rwa [hclosed]), hclosed]

/-- The service has failed to carry out a command and has stored no operation. -/
def FailsWithoutAction (s : ScheduleReminderService)
    (answer : Result ReminderActionResult × ScheduleReminderService) : Prop :=
  ∃ status : Status, status.ok = false ∧ answer.1 = .error status ∧
    answer.2.reminders.records = s.reminders.records

/-- The service has stored the operation with the target and reports it. -/
def CommitsAction (s : ScheduleReminderService) (command : ReminderActionCommand)
    (target : ScheduleReminderTask)
    (answer : Result ReminderActionResult × ScheduleReminderService) : Prop :=
  ∃ result, answer.1 = .ok result ∧ result.operationId = command.operationId ∧
    result.reminderTriggerId = command.reminderTriggerId ∧
    answer.2.reminders.records =
      s.reminders.records.map (ActionRecord.act target.id command.operationId)

theorem updateTask_commits (s : ScheduleReminderService) (command : ReminderActionCommand)
    (target task : ScheduleReminderTask) {records : List ActionRecord}
    (hrecords : s.reminders.records = records)
    (hrow : target.record ∈ records)
    (htask : task.record = { target.record with operationId := some command.operationId }) :
    ((s.updateTask task).1.ok = false ∧ (s.updateTask task).2.reminders.records = records) ∨
      ((s.updateTask task).1.ok = true ∧ (s.updateTask task).2.reminders.records =
        records.map (ActionRecord.act target.id command.operationId)) := by
  subst hrecords
  show ((s.reminders.update task).1.ok = false ∧ (s.reminders.update task).2.records = _) ∨
    ((s.reminders.update task).1.ok = true ∧ (s.reminders.update task).2.records = _)
  rcases s.reminders.update_cases task with ⟨status, hbad, hfail, -⟩ | ⟨_, repo', -, -, hok, htasks⟩
  · rw [hfail]
    exact Or.inl ⟨hbad, rfl⟩
  · rw [hok]
    exact Or.inr ⟨rfl, records_act hrow htask htasks⟩

/-- Behind the loops an acknowledgement commits its action or fails. -/
theorem settleTarget_commits (env : ReminderEnv) (s : ScheduleReminderService)
    (command : ReminderActionCommand) {target : ScheduleReminderTask}
    (hrow : target.record ∈ s.reminders.records) :
    FailsWithoutAction s (settleTarget env command target s) ∨
      CommitsAction s command target (settleTarget env command target s) := by
  unfold settleTarget
  cases hschedule : s.repo.findById target.scheduleId with
  | error status =>
      exact Or.inl ⟨status, (MemoryScheduleRepository.findById_error hschedule).1, rfl, rfl⟩
  | ok schedule =>
      dsimp only
      generalize (if schedule.status = .active then
        completeSchedule s.repo env.now target.scheduleId
        else if schedule.status ≠ .completed then
          (Status.error .alreadyExists "提醒关联日程不可完成", s.repo)
        else (.success, s.repo)) = completed
      by_cases hcompleted : completed.1.ok = true
      · rw [if_neg (by rw [hcompleted]; decide)]
        rcases updateTask_commits { s with repo := completed.2 } command target
            (acknowledgedTask env command target) rfl hrow rfl with
          ⟨hbad, hrecords⟩ | ⟨hok, hrecords⟩
        · rw [if_pos (by rw [hbad]; rfl)]
          exact Or.inl ⟨_, hbad, rfl, hrecords⟩
        · rw [if_neg (by rw [hok]; decide)]
          exact Or.inr ⟨_, rfl, rfl, rfl, hrecords⟩
      · rw [if_pos (by simpa using hcompleted)]
        exact Or.inl ⟨_, by simpa using hcompleted, rfl, rfl⟩

theorem acknowledgeTarget_commits (command : ReminderActionCommand)
    {target : ScheduleReminderTask} (hrow : target.record ∈ s.reminders.records) :
    FailsWithoutAction s (acknowledgeTarget env s command target) ∨
      CommitsAction s command target (acknowledgeTarget env s command target) := by
  unfold acknowledgeTarget
  dsimp only
  generalize hcancelled : cancelChain env target.chainId
    (s.reminders.findBySchedule target.scheduleId) s = cancelled
  have hsame : cancelled.2.reminders = s.reminders := by
    rw [← hcancelled]
    exact cancelChain_reminders _ _
  by_cases hrefused : (!cancelled.1) = true
  · rw [if_pos hrefused]
    exact Or.inl ⟨_, rfl, rfl, congrArg records hsame⟩
  · rw [if_neg hrefused]
    generalize hsiblings : acknowledgeSiblings env target
      (s.reminders.findBySchedule target.scheduleId) cancelled.2 = siblings
    have hrecords : siblings.2.reminders.records = s.reminders.records := by
      rw [← hsiblings, acknowledgeSiblings_records, hsame]
      intro task htask
      rw [hsame]
      exact List.mem_map_of_mem (List.mem_of_mem_filter htask)
    by_cases hok : siblings.1.ok = true
    · rw [if_neg (by rw [hok]; decide)]
      have hsettle := settleTarget_commits env siblings.2 command
        (by rwa [hrecords])
      unfold FailsWithoutAction CommitsAction at hsettle ⊢
      rw [hrecords] at hsettle
      exact hsettle
    · rw [if_pos (by simpa using hok)]
      exact Or.inl ⟨_, by simpa using hok, rfl, hrecords⟩

theorem snoozeTarget_commits (command : ReminderActionCommand)
    {target : ScheduleReminderTask} (hrow : target.record ∈ s.reminders.records) :
    FailsWithoutAction s (snoozeTarget env s command target) ∨
      CommitsAction s command target (snoozeTarget env s command target) := by
  unfold snoozeTarget
  dsimp only
  cases (s.reminders.findBySchedule target.scheduleId).find? fun task =>
      task.chainId == target.chainId && decide (task.attempt > target.attempt) &&
        task.businessStatus == .scheduled && task.isPending with
  | none => exact Or.inl ⟨_, rfl, rfl, rfl⟩
  | some followUp =>
      dsimp only
      rcases updateTask_commits s command target
          (snoozedTask env command target followUp) rfl hrow rfl with
        ⟨hbad, hrecords⟩ | ⟨hok, hrecords⟩
      · unfold snoozedTask at hbad hrecords
        rw [if_pos (by rw [hbad]; rfl)]
        exact Or.inl ⟨_, hbad, rfl, hrecords⟩
      · unfold snoozedTask at hok hrecords
        rw [if_neg (by rw [hok]; decide)]
        exact Or.inr ⟨_, rfl, rfl, rfl, hrecords⟩

/-- A command on a task without an operation commits its action or fails. -/
theorem executeReminderAction_commits (env : ReminderEnv) {command : ReminderActionCommand}
    {r : ActionRecord}
    (hr : r ∈ s.reminders.records) (htiming : r.timingTaskId = some command.reminderTriggerId)
    (hnone : r.operationId = none) :
    FailsWithoutAction s (executeReminderAction env s command) ∨
      ∃ target : ScheduleReminderTask, target.id = r.id ∧
        CommitsAction s command target (executeReminderAction env s command) := by
  by_cases haddressed : ∃ target, Addresses s command target
  · obtain ⟨target, haddresses⟩ := haddressed
    have hrow : target.record ∈ s.reminders.records := List.mem_map_of_mem haddresses.mem
    have hid : target.id = r.id := records_timing_inj hrow hr haddresses.timing htiming
    rw [executeReminderAction_addressed haddresses]
    split_ifs
    · exact (acknowledgeTarget_commits command hrow).imp_right fun h => ⟨target, hid, h⟩
    · exact (snoozeTarget_commits command hrow).imp_right fun h => ⟨target, hid, h⟩
  · push Not at haddressed
    rcases executeReminderAction_unaddressed env haddressed with
      ⟨status, hbad, heq⟩ | ⟨result, target, operationId, -, hmem, hsame, hsome⟩
    · rw [heq]
      exact Or.inl ⟨status, hbad, rfl, rfl⟩
    · -- only a task with an operation is answered again
      have hrow : target.record ∈ s.reminders.records := List.mem_map_of_mem hmem
      have htarget := records_inj hrow hr (records_timing_inj hrow hr hsame htiming)
      have hoperation : target.actionOperationId = none :=
        (congrArg ActionRecord.operationId htarget).trans hnone
      rw [hsome] at hoperation
      cases hoperation

/-! ## The loop -/

/-- The reminders that a voice action is carried out on. -/
def recentReminders (env : ReminderEnv) (s : ScheduleReminderService) :
    List ScheduleReminderTask :=
  (s.reminders.findTriggered (env.now - kRecentWindow) env.now).filter fun task =>
    task.timingTaskId.isSome && task.isWaiting

theorem withScheduleEvent_operationId (action : ScheduleReminderActionKind) (scheduleId : ℤ)
    (result : ReminderActionResult) :
    (withScheduleEvent s action scheduleId result).operationId = result.operationId ∧
      (withScheduleEvent s action scheduleId result).reminderTriggerId =
        result.reminderTriggerId := by
  unfold withScheduleEvent
  split_ifs
  · split
    · exact ⟨rfl, rfl⟩
    · split_ifs <;> exact ⟨rfl, rfl⟩
  · exact ⟨rfl, rfl⟩

/-- A result reports the operation stored in a record. -/
def Reports (result : ReminderActionResult) (r : ActionRecord) : Prop :=
  r.timingTaskId = some result.reminderTriggerId ∧ r.operationId = some result.operationId

/-- How far a batch has come: every stored operation is among the results, and the first failure
tells whether each reminder so far has got its operation. -/
structure Progress (s : ScheduleReminderService) (done rest : List ScheduleReminderTask)
    (state : RecentActions) : Prop where
  nodup : ((done ++ rest).map ScheduleReminderTask.id).Nodup
  stored : ∀ r ∈ state.service.reminders.records,
    r ∈ s.reminders.records ∨ ∃ result ∈ state.results, Reports result r
  succeeded : state.firstFailure.ok = true → ∀ task ∈ done,
    ∃ r ∈ state.service.reminders.records, r.id = task.id ∧ r.operationId.isSome = true
  failed : state.firstFailure.ok = false → ∃ task ∈ done,
    task.record ∈ state.service.reminders.records ∧ task.actionOperationId = none
  waiting : ∀ task ∈ rest, task.record ∈ state.service.reminders.records ∧
    task.timingTaskId.isSome = true ∧ task.isWaiting = true ∧ task.actionOperationId = none

variable {done rest : List ScheduleReminderTask} {task : ScheduleReminderTask}
  {state : RecentActions} {action : ScheduleReminderActionKind}

/-- The next reminder fails: nothing is stored, and the failure is remembered. -/
theorem Progress.fail (h : Progress s done (task :: rest) state) {status : Status}
    {service : ScheduleReminderService} (hbad : status.ok = false)
    (hrecords : service.reminders.records = state.service.reminders.records) :
    Progress s (done ++ [task]) rest { state with
      firstFailure := if state.firstFailure.ok then status else state.firstFailure
      service } where
  nodup := by simpa using h.nodup
  stored := by
    intro r hr
    exact h.stored r (hrecords ▸ hr)
  succeeded := by
    intro hok
    dsimp only at hok
    split_ifs at hok with hfirst
    · rw [hbad] at hok
      cases hok
    · exact absurd hok hfirst
  failed := by
    intro _
    obtain ⟨hmem, -, -, hnone⟩ := h.waiting task List.mem_cons_self
    exact ⟨task, by simp, hrecords ▸ hmem, hnone⟩
  waiting := by
    intro t ht
    obtain ⟨hmem, hrest⟩ := h.waiting t (List.mem_cons_of_mem _ ht)
    exact ⟨hrecords ▸ hmem, hrest⟩

/-- The next reminder gets its operation, and a result reports it. -/
theorem Progress.commit (h : Progress s done (task :: rest) state)
    {result : ReminderActionResult} {service : ScheduleReminderService}
    (htiming : task.timingTaskId = some result.reminderTriggerId)
    (hrecords : service.reminders.records =
      state.service.reminders.records.map (ActionRecord.act task.id result.operationId)) :
    Progress s (done ++ [task]) rest { state with
      results := state.results ++ [result]
      service } := by
  have hact : ∀ r ∈ state.service.reminders.records,
      r.act task.id result.operationId ∈ service.reminders.records := by
    intro r hr
    rw [hrecords]
    exact List.mem_map_of_mem hr
  -- the records of the other reminders are where they were
  have hother : ∀ t : ScheduleReminderTask, t.id ≠ task.id →
      t.record ∈ state.service.reminders.records → t.record ∈ service.reminders.records := by
    intro t hne ht
    have hkept := hact _ ht
    rwa [ActionRecord.act_of_ne (r := t.record) hne] at hkept
  have hdistinct := h.nodup
  rw [List.map_append, List.map_cons, List.nodup_append, List.nodup_cons] at hdistinct
  obtain ⟨-, ⟨hrest, -⟩, hdone⟩ := hdistinct
  refine ⟨by simpa using h.nodup, ?_, ?_, ?_, ?_⟩
  · intro r hr
    rw [hrecords] at hr
    obtain ⟨before, hbefore, rfl⟩ := List.mem_map.1 hr
    by_cases hid : before.id = task.id
    · have hsame : before = task.record :=
        records_inj hbefore (h.waiting task List.mem_cons_self).1 hid
      refine Or.inr ⟨result, by simp, ?_⟩
      unfold ActionRecord.act
      rw [if_pos hid, hsame]
      exact ⟨htiming, rfl⟩
    · rw [ActionRecord.act_of_ne hid]
      refine (h.stored before hbefore).imp_right ?_
      rintro ⟨earlier, hearlier, hreports⟩
      exact ⟨earlier, List.mem_append_left _ hearlier, hreports⟩
  · intro hok t ht
    rcases List.mem_append.1 ht with ht | ht
    · obtain ⟨r, hr, hid, hsome⟩ := h.succeeded hok t ht
      refine ⟨_, hact r hr, ?_, ?_⟩
      · rw [← hid]
        unfold ActionRecord.act
        split_ifs <;> rfl
      · unfold ActionRecord.act
        split_ifs
        · rfl
        · exact hsome
    · obtain rfl := List.mem_singleton.1 ht
      refine ⟨_, hact _ (h.waiting t List.mem_cons_self).1, ?_, ?_⟩ <;>
        rw [ActionRecord.act, if_pos (show t.record.id = t.id from rfl)] <;> rfl
  · intro hbad
    obtain ⟨t, ht, hmem, hnone⟩ := h.failed hbad
    refine ⟨t, List.mem_append_left _ ht, hother t ?_ hmem, hnone⟩
    exact hdone t.id (List.mem_map_of_mem ht) task.id List.mem_cons_self
  · intro t ht
    obtain ⟨hmem, hwaits⟩ := h.waiting t (List.mem_cons_of_mem _ ht)
    refine ⟨hother t (fun hid => hrest ?_) hmem, hwaits⟩
    exact hid ▸ List.mem_map_of_mem ht

/-- One reminder of the batch. -/
theorem Progress.step (h : Progress s done (task :: rest) state) (env : ReminderEnv)
    (action : ScheduleReminderActionKind) :
    Progress s (done ++ [task]) rest (executeRecentAction env action state task) := by
  obtain ⟨hmem, hsome, hwaiting, hnone⟩ := h.waiting task List.mem_cons_self
  obtain ⟨timingTaskId, htiming⟩ := Option.isSome_iff_exists.1 hsome
  unfold executeRecentAction
  rw [htiming, hwaiting]
  dsimp only
  rw [if_neg (by decide)]
  generalize hallocated : state.service.allocateTaskId "voice-action" = allocated
  have hreminders : allocated.2.reminders = state.service.reminders := by
    rw [← hallocated]
    rfl
  generalize hcommand : recentActionCommand allocated.1 action timingTaskId = command
  have htrigger : task.timingTaskId = some command.reminderTriggerId := by
    rw [htiming, ← hcommand]
    rfl
  have hmem' : task.record ∈ allocated.2.reminders.records := by rwa [hreminders]
  rcases executeReminderAction_commits env hmem' htrigger hnone with
    ⟨status, hbad, hresult, hrecords⟩ | ⟨target, hid, result, hresult, hoperation, hreports, hrecords⟩
  · rw [hresult]
    exact h.fail hbad (hrecords.trans (congrArg records hreminders))
  · rw [hresult]
    have hevent := withScheduleEvent_operationId
      (s := (executeReminderAction env allocated.2 command).2) action task.scheduleId result
    apply h.commit
    · rw [hevent.2, hreports, htrigger]
    · rw [hevent.1, hoperation, hrecords, hreminders]
      congr 2

/-- The whole batch. -/
theorem Progress.run (h : Progress s done rest state) (env : ReminderEnv)
    (action : ScheduleReminderActionKind) :
    Progress s (done ++ rest) [] (rest.foldl (executeRecentAction env action) state) := by
  induction rest generalizing done state with
  | nil =>
      rw [List.append_nil]
      exact h
  | cons task rest ih =>
      have hnext := ih (h.step env action)
      rwa [List.append_assoc] at hnext

/-! ## What the call reports -/

/-- A call has stored an action with a task: its operation is another one than before. -/
def StoresAction (before after : ScheduleReminderService) (task : ScheduleReminderTask) : Prop :=
  task ∈ after.reminders.tasks.rows ∧ ∀ row ∈ before.reminders.tasks.rows, row.id = task.id →
    row.actionOperationId ≠ task.actionOperationId

theorem not_storesAction {after : ScheduleReminderService}
    (h : task.record ∈ s.reminders.records) : ¬ StoresAction s after task := by
  rintro ⟨-, hdiffers⟩
  obtain ⟨row, hrow, hrecord⟩ := List.mem_map.1 h
  exact hdiffers row hrow (congrArg ActionRecord.id hrecord)
    (congrArg ActionRecord.operationId hrecord)

theorem recentReminders_progress (env : ReminderEnv) (s : ScheduleReminderService) :
    Progress s [] (recentReminders env s) { service := s } where
  nodup := by
    have hrecent : (recentReminders env s).Sublist s.reminders.tasks.rows :=
      List.filter_sublist.trans List.filter_sublist
    exact (hrecent.map ScheduleReminderTask.id).nodup s.reminders.tasks.nodup
  stored _ hr := Or.inl hr
  succeeded _ _ ht := absurd ht List.not_mem_nil
  failed hbad := by cases hbad
  waiting := by
    intro task htask
    obtain ⟨htriggered, hwaits⟩ := List.mem_filter.1 htask
    rw [Bool.and_eq_true] at hwaits
    have hrow := (List.mem_filter.1 htriggered).1
    exact ⟨List.mem_map_of_mem hrow, hwaits.1, hwaits.2,
      (s.reminders.valid task hrow).operationId_eq_none hwaits.2⟩

/-- The loop passes over the tasks that it cannot act on. -/
theorem foldl_executeRecentAction (tasks : List ScheduleReminderTask) (state : RecentActions) :
    tasks.foldl (executeRecentAction env action) state =
      (tasks.filter fun task => task.timingTaskId.isSome && task.isWaiting).foldl
        (executeRecentAction env action) state := by
  rw [List.foldl_filter]
  congr
  funext state task
  cases htiming : task.timingTaskId with
  | none =>
      unfold executeRecentAction
      rw [htiming]
      rfl
  | some id =>
      cases hwaiting : task.isWaiting with
      | true => rfl
      | false =>
          unfold executeRecentAction
          rw [htiming, hwaiting]
          rfl

/-- The state behind the loop, and the answer made of it. -/
theorem executeRecentReminderActions_eq (env : ReminderEnv) (s : ScheduleReminderService)
    (action : ScheduleReminderActionKind) :
    ∃ executed, Progress s (recentReminders env s) [] executed ∧
      executeRecentReminderActions env s action =
        if !executed.firstFailure.ok then (.error executed.firstFailure, executed.service)
        else if executed.results.isEmpty then
          (.failure .notFound "最近 10 分钟内没有可操作的提醒", executed.service)
        else (.ok executed.results, executed.service) := by
  refine ⟨_, (recentReminders_progress env s).run env action, ?_⟩
  unfold executeRecentReminderActions
  dsimp only
  rw [foldl_executeRecentAction]
  rfl

/-- A success lists every action that the call has stored, one for each recent reminder. A failure
means that no action is stored, or that some recent reminder has been left without one. -/
theorem executeRecentReminderActions_reports (env : ReminderEnv) (s : ScheduleReminderService)
    (action : ScheduleReminderActionKind) :
    (∀ results, (executeRecentReminderActions env s action).1 = .ok results →
      (∀ task, StoresAction s (executeRecentReminderActions env s action).2 task →
        ∃ result ∈ results, Reports result task.record) ∧
      ∀ reminder ∈ recentReminders env s, ∃ task, task.id = reminder.id ∧
        StoresAction s (executeRecentReminderActions env s action).2 task) ∧
    ∀ status, (executeRecentReminderActions env s action).1 = .error status →
      (∀ task, ¬ StoresAction s (executeRecentReminderActions env s action).2 task) ∨
      ∃ reminder ∈ recentReminders env s,
        ∃ task ∈ (executeRecentReminderActions env s action).2.reminders.tasks.rows,
          task.id = reminder.id ∧ task.actionOperationId = none := by
  obtain ⟨executed, hprogress, heq⟩ := executeRecentReminderActions_eq env s action
  rw [heq]
  have hreported : ∀ task, StoresAction s executed.service task →
      ∃ result ∈ executed.results, Reports result task.record := by
    intro task hstores
    exact (hprogress.stored task.record (List.mem_map_of_mem hstores.1)).resolve_left
      fun hold => not_storesAction hold hstores
  cases hfirst : executed.firstFailure.ok with
  | true =>
      rw [if_neg (by decide)]
      by_cases hempty : executed.results.isEmpty = true
      · rw [if_pos hempty]
        constructor
        · intro results hok
          cases hok
        intro status _
        refine Or.inl fun task hstores => ?_
        obtain ⟨result, hresult, -⟩ := hreported task hstores
        rw [List.isEmpty_iff.1 hempty] at hresult
        cases hresult
      · rw [if_neg hempty]
        constructor
        swap
        · intro status hfails
          cases hfails
        intro results hok
        cases hok
        refine ⟨hreported, fun reminder hreminder => ?_⟩
        obtain ⟨r, hr, hid, hsome⟩ := hprogress.succeeded hfirst reminder hreminder
        obtain ⟨task, htask, rfl⟩ := List.mem_map.1 hr
        refine ⟨task, hid, htask, fun row hrow hsame hoperation => ?_⟩
        -- a recent reminder had no operation before
        obtain ⟨hmem, -, -, hnone⟩ :=
          (recentReminders_progress env s).waiting reminder hreminder
        have hrecord := records_inj (List.mem_map_of_mem hrow) hmem (hsame.trans hid)
        have hwas : row.actionOperationId = none :=
          (congrArg ActionRecord.operationId hrecord).trans hnone
        rw [hwas] at hoperation
        rw [ScheduleReminderTask.record, ← hoperation] at hsome
        cases hsome
  | false =>
      rw [if_pos (by decide)]
      constructor
      · intro results hok
        cases hok
      intro status _
      refine Or.inr ?_
      obtain ⟨reminder, hreminder, hmem, hnone⟩ := hprogress.failed hfirst
      obtain ⟨task, htask, hrecord⟩ := List.mem_map.1 hmem
      refine ⟨reminder, hreminder, task, htask, congrArg ActionRecord.id hrecord, ?_⟩
      exact (congrArg ActionRecord.operationId hrecord).trans hnone

/-- A success lists every stored action, and a failure means that none is stored. -/
def ReportsAll (env : ReminderEnv) (s : ScheduleReminderService)
    (action : ScheduleReminderActionKind) : Prop :=
  (∀ results, (executeRecentReminderActions env s action).1 = .ok results →
    ∀ task, StoresAction s (executeRecentReminderActions env s action).2 task →
      ∃ result ∈ results, Reports result task.record) ∧
  ∀ status, (executeRecentReminderActions env s action).1 = .error status →
    ∀ task, ¬ StoresAction s (executeRecentReminderActions env s action).2 task

/-- A report that rings for the last time while a call rings for the first time. -/
def reportAndCall : List ReminderCall :=
  [.edit fun repo => (createSchedule repo 1000 { event := "report", startTime := some 2000 }).2,
    .edit fun repo => (createSchedule repo 1000 { event := "call", startTime := some 3200 }).2,
    .start { now := 1000, stamp := 1000 },
    .handleReminder { now := 2000, stamp := 2000 } 1 "schedule-reminder-1",
    .handleReminder { now := 2600, stamp := 2600 } 3 "schedule-reminder-3",
    .handleReminder { now := 3200, stamp := 3200 } 4 "schedule-reminder-4",
    .handleReminder { now := 3200, stamp := 3200 } 2 "schedule-reminder-2"]

/-- The call is snoozed, but the report has no further reminder, and the batch fails. -/
theorem reportAndCall_half_snoozed :
    ¬ ∀ (calls : List ReminderCall) (env : ReminderEnv) (action : ScheduleReminderActionKind),
      (∀ id, env.acceptsRegister id = true ∧ env.acceptsCancel id = true) →
        ReportsAll env (Run.run ReminderCall.step {} calls) action := by
  intro h
  obtain ⟨-, hfails⟩ := h reportAndCall { now := 3300, stamp := 3300 } .snooze
    (fun _ => ⟨rfl, rfl⟩)
  have hanswer : (executeRecentReminderActions { now := 3300, stamp := 3300 }
      (Run.run ReminderCall.step {} reportAndCall) .snooze).1.status =
        .error .notFound "提醒没有可用的后续触发时间" := by
    decide +kernel
  have hsnoozed : ∃ task ∈ (executeRecentReminderActions { now := 3300, stamp := 3300 }
      (Run.run ReminderCall.step {} reportAndCall) .snooze).2.reminders.tasks.rows,
        ∀ row ∈ (Run.run ReminderCall.step {} reportAndCall).reminders.tasks.rows,
          row.id = task.id → row.actionOperationId ≠ task.actionOperationId := by
    decide +kernel
  obtain ⟨task, hstores⟩ := hsnoozed
  cases hresult : (executeRecentReminderActions { now := 3300, stamp := 3300 }
      (Run.run ReminderCall.step {} reportAndCall) .snooze).1 with
  | ok results =>
      rw [hresult] at hanswer
      cases hanswer
  | error status => exact hfails status hresult task hstores

end ScheduleReminderService

end VoiceLife
