import VoiceLife.Reminder.ReminderService
import VoiceLife.Schedule.ServiceLemmas

/-! # What the answers to a reminder write

`ExecuteReminderAction` on stores that take every write and a Timing that takes every command. An
acknowledgement cancels the timers of the chain and closes its other tasks before it looks at the
schedule, which it may then refuse to complete. A snooze checks first and writes its own task only.
-/

namespace VoiceLife

/-! ## The rows that an answer leaves -/

/-- The other task belongs to the chain that an answer to `target` closes. -/
def IsSibling (target task : ScheduleReminderTask) : Prop :=
  task.scheduleId = target.scheduleId ∧ task.chainId = target.chainId ∧ task.id ≠ target.id

instance (target task : ScheduleReminderTask) : Decidable (IsSibling target task) := by
  unfold IsSibling
  infer_instance

/-- What an acknowledgement writes for another task of the chain. -/
def closedSibling (env : ReminderEnv) (task : ScheduleReminderTask) : ScheduleReminderTask :=
  { task with
    timerStatus := if task.isPending then .cancelled else task.timerStatus
    businessStatus := if task.isOpen then .acknowledged else task.businessStatus
    updatedAt := env.now }

/-- The rows after the other tasks of the chain have been closed. -/
def closeSiblings (env : ReminderEnv) (target : ScheduleReminderTask)
    (rows : List ScheduleReminderTask) : List ScheduleReminderTask :=
  rows.map fun task => if IsSibling target task then closedSibling env task else task

/-- What an acknowledgement writes for the task itself. -/
def acknowledgedTask (env : ReminderEnv) (command : ReminderActionCommand)
    (target : ScheduleReminderTask) : ScheduleReminderTask :=
  { target with
    businessStatus := .acknowledged
    actionOperationId := some command.operationId
    actionKind := some command.action
    actionOccurredAt := some env.now
    actionNextTriggerAt := none
    updatedAt := env.now }

/-- What a snooze writes for the task itself. -/
def snoozedTask (env : ReminderEnv) (command : ReminderActionCommand)
    (target followUp : ScheduleReminderTask) : ScheduleReminderTask :=
  { target with
    businessStatus := .snoozed
    actionOperationId := some command.operationId
    actionKind := some command.action
    actionOccurredAt := some env.now
    actionNextTriggerAt := some followUp.triggerAt
    updatedAt := env.now }

/-- The cancellations that an acknowledgement sends to Timing. -/
def chainCancels (chainId : ℤ) (tasks : List ScheduleReminderTask) : List TimingCommand :=
  tasks.flatMap fun task =>
    if task.chainId ≠ chainId ∨ !task.isPending then []
    else
      match task.timingTaskId with
      | none => []
      | some id => if id.isEmpty then [] else [.cancel id]

/-- Timing takes the cancellations that an answer to the task sends. -/
def AcceptsChain (env : ReminderEnv) (tasks : List ScheduleReminderTask)
    (target : ScheduleReminderTask) : Prop :=
  ∀ id, TimingCommand.cancel id ∈ chainCancels target.chainId tasks → env.acceptsCancel id = true

/-- The schedule exists and is active or completed already. -/
def Completable (repo : MemoryScheduleRepository) (scheduleId : ℤ) : Prop :=
  ∃ schedule, repo.findById scheduleId = .ok schedule ∧
    (schedule.status = .active ∨ schedule.status = .completed)

/-- The task that a snooze counts as the snoozed reminder. -/
def IsFollowUp (target task : ScheduleReminderTask) : Prop :=
  task.scheduleId = target.scheduleId ∧ task.chainId = target.chainId ∧
    target.attempt < task.attempt ∧ task.businessStatus = .scheduled ∧ task.isPending = true

theorem ScheduleReminderTask.isWaiting_iff (task : ScheduleReminderTask) :
    task.isWaiting = true ↔
      task.businessStatus = .waitingAcknowledgement ∨ task.businessStatus = .exhausted := by
  unfold ScheduleReminderTask.isWaiting
  rw [Bool.or_eq_true, beq_iff_eq, beq_iff_eq]

/-- A task that waits for an answer has none. -/
theorem ScheduleReminderTask.Valid.operationId_eq_none {task : ScheduleReminderTask}
    (h : task.Valid) (hwaiting : task.isWaiting = true) : task.actionOperationId = none := by
  obtain ⟨-, -, -, -, -, haction⟩ := h
  rw [ScheduleReminderTask.isWaiting_iff] at hwaiting
  unfold ScheduleReminderTask.ValidAction at haction
  cases hoperation : task.actionOperationId with
  | none => rfl
  | some operationId =>
      rw [hoperation] at haction
      obtain ⟨-, -, ⟨-, hbusiness, -⟩ | ⟨-, hbusiness, -⟩⟩ := haction <;>
        rw [hbusiness] at hwaiting <;> rcases hwaiting with h | h <;> cases h

theorem ScheduleReminderTask.Valid.closedSibling {task : ScheduleReminderTask} (h : task.Valid)
    (env : ReminderEnv) : (closedSibling env task).Valid := by
  obtain ⟨h1, h2, h3, h4, h5, haction⟩ := h
  refine ⟨h1, h2, h3, h4, h5, ?_⟩
  unfold ScheduleReminderTask.ValidAction at haction ⊢
  show match task.actionOperationId with
    | none => _
    | some operationId => _
  cases hoperation : task.actionOperationId with
  | none =>
      rw [hoperation] at haction
      exact haction
  | some operationId =>
      rw [hoperation] at haction
      -- an answered task is not open, so its business status stays
      have hopen : task.isOpen = false := by
        unfold ScheduleReminderTask.isOpen ScheduleReminderTask.isWaiting
        obtain ⟨-, -, ⟨-, hbusiness, -⟩ | ⟨-, hbusiness, -⟩⟩ := haction <;>
          rw [hbusiness] <;> rfl
      have hsame : (VoiceLife.closedSibling env task).businessStatus = task.businessStatus := by
        show (if task.isOpen then _ else task.businessStatus) = _
        rw [hopen]
        rfl
      rw [hsame]
      exact haction

namespace ScheduleReminderService

open ScheduleService MemoryScheduleReminderTaskRepository

variable {env : ReminderEnv} {s : ScheduleReminderService}

/-! ## The loops of an acknowledgement -/

theorem cancelTiming_accepted {id : String} (hid : id.isEmpty = false)
    (haccepts : env.acceptsCancel id = true) (s : ScheduleReminderService) :
    cancelTiming env s id = (true, { s with timing := s.timing ++ [.cancel id] }) := by
  unfold cancelTiming
  rw [hid, haccepts]
  rfl

theorem cancelTiming_empty {id : String} (hid : id.isEmpty = true) (s : ScheduleReminderService) :
    cancelTiming env s id = (true, s) := by
  unfold cancelTiming
  rw [if_pos hid]

theorem cancelChain_accepted (chainId : ℤ) (tasks : List ScheduleReminderTask)
    (haccepts : ∀ id, TimingCommand.cancel id ∈ chainCancels chainId tasks →
      env.acceptsCancel id = true) (s : ScheduleReminderService) :
    cancelChain env chainId tasks s =
      (true, { s with timing := s.timing ++ chainCancels chainId tasks }) := by
  induction tasks generalizing s with
  | nil =>
      show (true, s) = (true, { s with timing := s.timing ++ [] })
      rw [List.append_nil]
  | cons task tasks ih =>
      unfold cancelChain
      unfold chainCancels at haccepts ⊢
      rw [List.flatMap_cons, ← chainCancels] at haccepts ⊢
      have htail := ih fun id hid => haccepts id (List.mem_append_right _ hid)
      by_cases hskip : task.chainId ≠ chainId ∨ !task.isPending
      · rw [if_pos hskip, if_pos hskip, List.nil_append]
        exact htail s
      · rw [if_neg hskip] at haccepts
        rw [if_neg hskip, if_neg hskip]
        cases htiming : task.timingTaskId with
        | none =>
            dsimp only
            rw [List.nil_append]
            exact htail s
        | some id =>
            rw [htiming] at haccepts
            dsimp only at haccepts ⊢
            cases hid : id.isEmpty with
            | true =>
                rw [cancelTiming_empty hid, if_pos rfl, List.nil_append]
                exact htail s
            | false =>
                rw [hid] at haccepts
                rw [cancelTiming_accepted hid (haccepts id (by simp)), htail]
                simp only [Bool.not_true, Bool.false_eq_true, if_false, List.append_assoc]

theorem acknowledgeSiblings_cons (env : ReminderEnv) (target task : ScheduleReminderTask)
    (tasks : List ScheduleReminderTask) (s : ScheduleReminderService) :
    acknowledgeSiblings env target (task :: tasks) s =
      if task.chainId ≠ target.chainId ∨ task.id = target.id then
        acknowledgeSiblings env target tasks s
      else if !(s.updateTask (closedSibling env task)).1.ok then
        s.updateTask (closedSibling env task)
      else acknowledgeSiblings env target tasks (s.updateTask (closedSibling env task)).2 :=
  rfl

/-- The loop over the chain writes every sibling once. -/
theorem acknowledgeSiblings_rows (env : ReminderEnv) (target : ScheduleReminderTask)
    (tasks : List ScheduleReminderTask) (s : ScheduleReminderService)
    (hmem : ∀ task ∈ tasks, task ∈ s.reminders.tasks.rows)
    (hnodup : (tasks.map ScheduleReminderTask.id).Nodup) :
    ∃ reminders, acknowledgeSiblings env target tasks s = (.success, { s with reminders }) ∧
      reminders.tasks.rows = s.reminders.tasks.rows.map fun task =>
        if task ∈ tasks ∧ task.chainId = target.chainId ∧ task.id ≠ target.id then
          closedSibling env task
        else task := by
  induction tasks generalizing s with
  | nil =>
      refine ⟨s.reminders, rfl, ?_⟩
      simp
  | cons task tasks ih =>
      rw [List.map_cons, List.nodup_cons] at hnodup
      have hrow := hmem task List.mem_cons_self
      rw [acknowledgeSiblings_cons]
      by_cases hskip : task.chainId ≠ target.chainId ∨ task.id = target.id
      · rw [if_pos hskip]
        obtain ⟨reminders, hloop, hrows⟩ :=
          ih s (fun t ht => hmem t (List.mem_cons_of_mem _ ht)) hnodup.2
        refine ⟨reminders, hloop, hrows.trans ?_⟩
        apply List.map_congr_left
        intro t _
        apply if_congr _ rfl rfl
        constructor
        · rintro ⟨ht, hchain, hne⟩
          exact ⟨List.mem_cons_of_mem _ ht, hchain, hne⟩
        · rintro ⟨ht, hchain, hne⟩
          rcases List.mem_cons.1 ht with rfl | ht
          · rcases hskip with h | h
            · exact absurd hchain h
            · exact absurd h hne
          · exact ⟨ht, hchain, hne⟩
      · rw [if_neg hskip]
        push Not at hskip
        obtain ⟨reminders, hupdate, htasks⟩ := update_eq_success hrow
          (show (closedSibling env task).id = task.id from rfl) rfl rfl rfl rfl
          ((s.reminders.valid task hrow).closedSibling env)
        have hupdated : s.updateTask (closedSibling env task) =
            (.success, { s with reminders }) := by
          unfold updateTask
          rw [hupdate]
        -- the other rows are where they were
        have hother : ∀ t ∈ s.reminders.tasks.rows, t.id ≠ task.id →
            t ∈ reminders.tasks.rows := by
          intro t ht hne
          rw [htasks]
          exact IdTable.mem_replace.2 (Or.inl ⟨ht, hne⟩)
        have hne : ∀ t ∈ tasks, t.id ≠ task.id := by
          intro t ht h
          exact hnodup.1 (h ▸ List.mem_map_of_mem ht)
        obtain ⟨reminders', hloop, hrows⟩ := ih { s with reminders }
          (fun t ht => hother t (hmem t (List.mem_cons_of_mem _ ht)) (hne t ht)) hnodup.2
        refine ⟨reminders', ?_, ?_⟩
        · rw [hupdated]
          exact hloop
        · rw [hrows]
          show reminders.tasks.rows.map _ = _
          rw [htasks]
          show (s.reminders.tasks.rows.map _).map _ = _
          rw [List.map_map]
          apply List.map_congr_left
          intro t ht
          have hid : (closedSibling env task).id = task.id := rfl
          by_cases hsame : t.id = task.id
          · obtain rfl := s.reminders.tasks.eq_of_getId_eq ht hrow hsame
            have hgone : closedSibling env t ∉ tasks := fun h => hne _ h rfl
            simp only [Function.comp_apply, getId_reminderTask, hid, if_true]
            rw [if_neg (fun h => hgone h.1), if_pos ⟨List.mem_cons_self, hskip.1, hskip.2⟩]
          · simp only [Function.comp_apply, getId_reminderTask, hid, if_neg hsame]
            apply if_congr _ rfl rfl
            rw [List.mem_cons]
            constructor
            · rintro ⟨ht', hrest⟩
              exact ⟨Or.inr ht', hrest⟩
            · rintro ⟨rfl | ht', hrest⟩
              · exact absurd rfl hsame
              · exact ⟨ht', hrest⟩

/-- The loop over all tasks of the schedule closes the siblings. -/
theorem acknowledgeSiblings_closes (env : ReminderEnv) (target : ScheduleReminderTask)
    (s : ScheduleReminderService) :
    ∃ reminders, acknowledgeSiblings env target (s.reminders.findBySchedule target.scheduleId) s =
        (.success, { s with reminders }) ∧
      reminders.tasks.rows = closeSiblings env target s.reminders.tasks.rows := by
  have hnodup :
      ((s.reminders.findBySchedule target.scheduleId).map ScheduleReminderTask.id).Nodup :=
    (List.filter_sublist.map ScheduleReminderTask.id).nodup s.reminders.tasks.nodup
  obtain ⟨reminders, hloop, hrows⟩ := acknowledgeSiblings_rows env target
    (s.reminders.findBySchedule target.scheduleId) s (fun task h => List.mem_of_mem_filter h) hnodup
  refine ⟨reminders, hloop, hrows.trans ?_⟩
  apply List.map_congr_left
  intro task htask
  apply if_congr _ rfl rfl
  unfold findBySchedule IsSibling
  rw [List.mem_filter, decide_eq_true_eq]
  exact ⟨fun h => ⟨h.1.2, h.2.1, h.2.2⟩, fun h => ⟨⟨htask, h.1⟩, h.2.1, h.2.2⟩⟩

/-! ## The two branches -/

/-- Completing one schedule leaves every other answer possible. -/
theorem completable_of_completeSchedule {repo repo' : MemoryScheduleRepository}
    {now scheduleId : ℤ} (h : completeSchedule repo now scheduleId = (.success, repo')) (id : ℤ) :
    Completable repo' id ↔ Completable repo id := by
  rcases completeSchedule_outcome repo now scheduleId with
    ⟨hbad, -⟩ | ⟨loaded, hfind, hactive, -, hrepo⟩
  · rw [h] at hbad
    cases hbad
  · rw [h] at hrepo
    dsimp only at hrepo
    obtain ⟨hmem, hid⟩ := IdTable.find?_eq_some.1 hfind
    unfold Completable
    simp only [MemoryScheduleRepository.findById_eq_ok, hrepo, IdTable.find?_eq_some,
      IdTable.mem_replace]
    constructor
    · rintro ⟨schedule, ⟨⟨hrow, -⟩ | ⟨rfl, -⟩, hsame⟩, hstatus⟩
      · exact ⟨schedule, ⟨hrow, hsame⟩, hstatus⟩
      · exact ⟨loaded, ⟨hmem, hsame⟩, Or.inl hactive⟩
    · rintro ⟨schedule, ⟨hrow, hsame⟩, hstatus⟩
      by_cases hloaded : getId schedule = getId loaded
      · exact ⟨_, ⟨Or.inr ⟨rfl, loaded, hmem, rfl⟩, hloaded.symm.trans hsame⟩, Or.inr rfl⟩
      · exact ⟨schedule, ⟨Or.inl ⟨hrow, hloaded⟩, hsame⟩, hstatus⟩

/-- The answer to an acknowledgement that was carried out. -/
def acknowledgedResult (env : ReminderEnv) (command : ReminderActionCommand) :
    ReminderActionResult :=
  { affectedCount := 1, operationId := command.operationId,
    reminderTriggerId := command.reminderTriggerId, action := command.action,
    occurredAt := env.now }

/-- What an acknowledgement does behind its two loops. -/
def settleTarget (env : ReminderEnv) (command : ReminderActionCommand)
    (target : ScheduleReminderTask) (s : ScheduleReminderService) :
    Result ReminderActionResult × ScheduleReminderService :=
  match s.repo.findById target.scheduleId with
  | .error status => (.error status, s)
  | .ok schedule =>
    let completed :=
      if schedule.status = .active then completeSchedule s.repo env.now target.scheduleId
      else if schedule.status ≠ .completed then
        (.error .alreadyExists "提醒关联日程不可完成", s.repo)
      else (.success, s.repo)
    let s := { s with repo := completed.2 }
    if !completed.1.ok then (.error completed.1, s)
    else
      let updated := s.updateTask (acknowledgedTask env command target)
      if !updated.1.ok then (.error updated.1, updated.2)
      else
        (.ok (acknowledgedResult env command), updated.2)

/-- The service behind the two loops of an acknowledgement. -/
theorem acknowledgeTarget_accepted (command : ReminderActionCommand)
    (target : ScheduleReminderTask) (s : ScheduleReminderService)
    (haccepts : AcceptsChain env (s.reminders.findBySchedule target.scheduleId) target) :
    ∃ reminders, reminders.tasks.rows = closeSiblings env target s.reminders.tasks.rows ∧
      acknowledgeTarget env s command target = settleTarget env command target { s with
        reminders
        timing := s.timing ++
          chainCancels target.chainId (s.reminders.findBySchedule target.scheduleId) } := by
  obtain ⟨reminders, hloop, hrows⟩ := acknowledgeSiblings_closes env target { s with
    timing := s.timing ++
      chainCancels target.chainId (s.reminders.findBySchedule target.scheduleId) }
  refine ⟨reminders, hrows, ?_⟩
  unfold acknowledgeTarget
  simp only [cancelChain_accepted _ _ haccepts]
  dsimp only at hloop
  simp only [hloop]
  rfl

/-- An acknowledgement that finds no schedule to complete stops there. -/
theorem settleTarget_refused (env : ReminderEnv) (s : ScheduleReminderService)
    (command : ReminderActionCommand) {target : ScheduleReminderTask}
    (hnot : ¬ Completable s.repo target.scheduleId) :
    ∃ status, settleTarget env command target s = (.error status, s) := by
  unfold settleTarget
  cases hschedule : s.repo.findById target.scheduleId with
  | error status => exact ⟨status, rfl⟩
  | ok schedule =>
      have hactive : schedule.status ≠ .active :=
        fun h => hnot ⟨schedule, hschedule, Or.inl h⟩
      have hcompleted : schedule.status ≠ .completed :=
        fun h => hnot ⟨schedule, hschedule, Or.inr h⟩
      dsimp only
      rw [if_neg hactive, if_pos hcompleted]
      exact ⟨_, rfl⟩

/-- Otherwise the schedule is completed and the action is stored with its task. -/
theorem settleTarget_done (env : ReminderEnv) (s : ScheduleReminderService)
    (command : ReminderActionCommand) {target : ScheduleReminderTask}
    (hack : command.action = .acknowledge) (hoperation : command.operationId ≠ "")
    (hrow : target ∈ s.reminders.tasks.rows)
    (hunused : ∀ task ∈ s.reminders.tasks.rows,
      task.actionOperationId ≠ some command.operationId)
    (hdone : Completable s.repo target.scheduleId) :
    ∃ repo reminders,
      settleTarget env command target s =
          (.ok (acknowledgedResult env command), { s with repo, reminders }) ∧
        reminders.tasks = s.reminders.tasks.replace (acknowledgedTask env command target) ∧
        ∀ id, Completable repo id ↔ Completable s.repo id := by
  obtain ⟨schedule, hschedule, hstatus⟩ := hdone
  -- the schedule is completed, or was before
  have hcompleted : ∃ repo,
      (if schedule.status = .active then completeSchedule s.repo env.now target.scheduleId
        else if schedule.status ≠ .completed then
          (.error .alreadyExists "提醒关联日程不可完成", s.repo)
        else (.success, s.repo)) = (.success, repo) ∧
        ∀ id, Completable repo id ↔ Completable s.repo id := by
    by_cases hactive : schedule.status = .active
    · rw [if_pos hactive]
      rw [MemoryScheduleRepository.findById_eq_ok] at hschedule
      obtain ⟨hmem, hid⟩ := IdTable.find?_eq_some.1 hschedule
      have hpos := s.repo.schedules.one_le_id schedule hmem
      have hcomplete : completeSchedule s.repo env.now target.scheduleId =
          (.success, { s.repo with
            schedules := s.repo.schedules.replace
              { schedule with status := .completed, updatedAt := env.now } }) := by
        unfold completeSchedule
        rw [if_neg (by omega), MemoryScheduleRepository.findById_eq_ok.2 hschedule]
        dsimp only
        rw [if_neg (not_not.2 hactive)]
        apply s.repo.update_of_find?
        show s.repo.schedules.find? schedule.id = _
        rw [← getId_schedule, hid]
        exact hschedule
      exact ⟨_, hcomplete, completable_of_completeSchedule hcomplete⟩
    · rw [if_neg hactive, if_neg (not_not.2 (hstatus.resolve_left hactive))]
      exact ⟨s.repo, rfl, fun id => Iff.rfl⟩
  obtain ⟨repo, hcompleted, hsame⟩ := hcompleted
  have hvalid : (acknowledgedTask env command target).Valid := by
    obtain ⟨h1, h2, h3, h4, h5, -⟩ := s.reminders.valid target hrow
    refine ⟨h1, h2, h3, h4, h5, ?_⟩
    show command.operationId ≠ "" ∧ _
    exact ⟨hoperation, rfl, Or.inl ⟨congrArg some hack, rfl, rfl⟩⟩
  have hupdate : ∃ reminders, s.reminders.update (acknowledgedTask env command target) =
      (.success, reminders) ∧
        reminders.tasks = s.reminders.tasks.replace (acknowledgedTask env command target) := by
    rcases s.reminders.update_cases (acknowledgedTask env command target) with
      ⟨status, -, -, hfail⟩ | ⟨found, reminders, -, -, hok, htasks⟩
    · refine absurd ⟨hvalid, ⟨target, IdTable.find?_eq_some.2 ⟨hrow, rfl⟩⟩, ?_⟩ hfail
      intro value hvalue hne hclash
      rcases hclash with h | h | ⟨-, h⟩
      · exact s.reminders.distinct target hrow value hvalue hne.symm (Or.inl h)
      · exact s.reminders.distinct target hrow value hvalue hne.symm (Or.inr (Or.inl h))
      · exact hunused value hvalue h
    · exact ⟨reminders, hok, htasks⟩
  obtain ⟨reminders, hupdate, htasks⟩ := hupdate
  refine ⟨repo, reminders, ?_, htasks, hsame⟩
  unfold settleTarget
  rw [hschedule]
  dsimp only
  rw [hcompleted]
  have hwrite : ScheduleReminderService.updateTask { s with repo }
      (acknowledgedTask env command target) = (.success, { s with repo, reminders }) := by
    unfold updateTask
    rw [show ({ s with repo } : ScheduleReminderService).reminders = s.reminders from rfl, hupdate]
  rw [hwrite]
  rfl

/-! ## The command -/

/-- The command passes every check of `ExecuteReminderAction` and reaches this task. -/
structure Addresses (s : ScheduleReminderService) (command : ReminderActionCommand)
    (target : ScheduleReminderTask) : Prop where
  checked : (checkReminderAction command).ok = true
  mem : target ∈ s.reminders.tasks.rows
  timing : target.timingTaskId = some command.reminderTriggerId
  waiting : target.isWaiting = true
  unused : ∀ task ∈ s.reminders.tasks.rows, task.actionOperationId ≠ some command.operationId

theorem Addresses.operationId_ne {command : ReminderActionCommand} {target : ScheduleReminderTask}
    (h : Addresses s command target) :
    command.operationId ≠ "" ∧ command.reminderTriggerId ≠ "" := by
  have hchecked := h.checked
  unfold checkReminderAction at hchecked
  split_ifs at hchecked with hempty
  · cases hchecked
  · cases hchecked
  · rw [Bool.or_eq_true, not_or] at hempty
    constructor
    · rintro heq
      rw [heq] at hempty
      exact hempty.1 rfl
    · rintro heq
      rw [heq] at hempty
      exact hempty.2 rfl

theorem executeReminderAction_addressed {command : ReminderActionCommand}
    {target : ScheduleReminderTask} (h : Addresses s command target) :
    executeReminderAction env s command =
      if command.action = .acknowledge then acknowledgeTarget env s command target
      else snoozeTarget env s command target := by
  have hnone := (s.reminders.valid target h.mem).operationId_eq_none h.waiting
  have hany : ¬ (s.reminders.findAll.any fun task =>
      task.actionOperationId == some command.operationId) = true := by
    rw [List.any_eq_true]
    rintro ⟨task, htask, hsame⟩
    exact h.unused task htask (beq_iff_eq.1 hsame)
  unfold executeReminderAction
  dsimp only
  rw [h.checked, findByTimingTaskId_eq_ok.2 ⟨h.mem, h.timing⟩]
  dsimp only
  rw [hnone, h.waiting]
  dsimp only
  rw [if_neg hany]
  rfl

/-- A command that addresses no task fails, or is answered again, and changes nothing. -/
theorem executeReminderAction_unaddressed (env : ReminderEnv) {command : ReminderActionCommand}
    (h : ∀ target, ¬ Addresses s command target) :
    (∃ status : Status, status.ok = false ∧
        executeReminderAction env s command = (.error status, s)) ∨
      ∃ result target operationId, executeReminderAction env s command = (.ok result, s) ∧
        target ∈ s.reminders.tasks.rows ∧
        target.timingTaskId = some command.reminderTriggerId ∧
        target.actionOperationId = some operationId := by
  unfold executeReminderAction
  dsimp only
  by_cases hchecked : (checkReminderAction command).ok = true
  · rw [hchecked]
    cases hfind : s.reminders.findByTimingTaskId command.reminderTriggerId with
    | error status => exact Or.inl ⟨status, findByTimingTaskId_error hfind, rfl⟩
    | ok target =>
        obtain ⟨hmem, htiming⟩ := findByTimingTaskId_eq_ok.1 hfind
        dsimp only
        cases hoperation : target.actionOperationId with
        | some operationId =>
            dsimp only
            by_cases hkind : target.actionKind ≠ some command.action
            · rw [if_pos hkind]
              exact Or.inl ⟨_, rfl, rfl⟩
            · rw [if_neg hkind]
              cases target.actionOccurredAt with
              | none => exact Or.inl ⟨_, rfl, rfl⟩
              | some occurredAt => exact Or.inr ⟨_, target, operationId, rfl, hmem, htiming, hoperation⟩
        | none =>
            dsimp only
            split_ifs with hskip hwaiting hused
            · cases hskip
            · exact Or.inl ⟨_, rfl, rfl⟩
            · exact Or.inl ⟨_, rfl, rfl⟩
            all_goals
              refine absurd ⟨hchecked, hmem, htiming, by simpa using hwaiting, ?_⟩ (h target)
              intro task htask hsame
              exact hused (List.any_eq_true.2 ⟨task, htask, beq_iff_eq.2 hsame⟩)
  · rw [if_pos (by simpa using hchecked)]
    exact Or.inl ⟨_, by simpa using hchecked, rfl⟩

theorem executeReminderAction_unaddressed_snd (env : ReminderEnv) {command : ReminderActionCommand}
    (h : ∀ target, ¬ Addresses s command target) : (executeReminderAction env s command).2 = s := by
  rcases executeReminderAction_unaddressed env h with ⟨status, -, heq⟩ | ⟨result, _, _, heq, -⟩
  · rw [heq]
  · rw [heq]

end ScheduleReminderService

end VoiceLife
