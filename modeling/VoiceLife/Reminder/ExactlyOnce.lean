import VoiceLife.Reminder.RecentActions
import VoiceLife.Reminder.ReminderCalls
import VoiceLife.Reminder.RuleReminders

/-! # Recorded actions

No call takes back or changes an action that a task records, whatever Timing accepts. What a command
answers for such a task is therefore settled by the action that was recorded first
(`actions_exactly_once`). The arguments are checked before all else, for a repeated command too
(`unnamed_repeat_refused`).
-/

namespace VoiceLife

/-! ## What stays of a recorded action -/

/-- Every action that the first store records is recorded in the second one. -/
def KeepsActions (r r' : MemoryScheduleReminderTaskRepository) : Prop :=
  ∀ a ∈ r.tasks.rows, a.actionOperationId ≠ none → ∃ b ∈ r'.tasks.rows, SameTask a b ∧ SameAction a b

section KeepsActions

variable {r r' r'' : MemoryScheduleReminderTaskRepository}

theorem Keeps.actions (h : Keeps r r') : KeepsActions r r' :=
  fun a ha _ => h a ha

theorem KeepsActions.refl (r : MemoryScheduleReminderTaskRepository) : KeepsActions r r :=
  (Keeps.refl r).actions

theorem KeepsActions.trans (h : KeepsActions r r') (h' : KeepsActions r' r'') : KeepsActions r r'' := by
  intro a ha hrecorded
  obtain ⟨b, hb, htask, haction⟩ := h a ha hrecorded
  have hrecorded' : b.actionOperationId ≠ none := fun hnone => hrecorded (haction.operationId.symm.trans hnone)
  obtain ⟨c, hc, htask', haction'⟩ := h' b hb hrecorded'
  exact ⟨c, hc, htask.trans htask', haction.trans haction'⟩

/-- Any write to a task without an action keeps the actions of the others. -/
theorem KeepsActions.update (h : KeepsActions r r') {a task : ScheduleReminderTask} (ha : a ∈ r.tasks.rows)
    (hid : task.id = a.id) (hnone : a.actionOperationId = none) : KeepsActions r (r'.update task).2 := by
  rcases r'.update_cases task with ⟨status, -, hfail, -⟩ | ⟨found, r'', -, -, hok, htasks⟩
  · rwa [hfail]
  · rw [hok]
    intro x hx hrecorded
    obtain ⟨b, hb, hsame⟩ := h x hx hrecorded
    refine ⟨b, ?_, hsame⟩
    rw [htasks]
    refine IdTable.mem_replace.2 (Or.inl ⟨hb, fun hb' => hrecorded ?_⟩)
    have hxa : x = a := r.tasks.eq_of_getId_eq hx ha (hsame.1.id.symm.trans (hb'.trans hid))
    rw [hxa, hnone]

end KeepsActions

namespace ScheduleReminderService

open ScheduleService ScheduleRuleService MemoryScheduleReminderTaskRepository

variable {env : ReminderEnv} {s : ScheduleReminderService} {r : MemoryScheduleReminderTaskRepository}

/-! ## Calls that record nothing -/

variable {state : Status × ScheduleReminderService}

theorem cancelPendingTask_keeps {task : ScheduleReminderTask}
    (h : Keeps r state.2.reminders) (htask : task ∈ r.tasks.rows) :
    Keeps r (cancelPendingTask env none state task).2.reminders := by
  rcases cancelPendingTask_cases env state task with ⟨-, heq⟩ | ⟨-, cancelled, hsame, -, heq⟩
  · rwa [heq]
  · rw [heq]
    split_ifs
    · rwa [hsame]
    · rw [updateTask_reminders, hsame]
      exact h.update htask ⟨rfl, rfl, rfl, rfl, rfl, rfl⟩ ⟨rfl, rfl, rfl, rfl⟩

theorem foldl_cancelPendingTask_keeps {tasks : List ScheduleReminderTask}
    (h : Keeps r state.2.reminders) (htasks : ∀ task ∈ tasks, task ∈ r.tasks.rows) :
    Keeps r (tasks.foldl (cancelPendingTask env none) state).2.reminders := by
  induction tasks generalizing state with
  | nil => exact h
  | cons task tasks ih =>
      have hhead : Keeps r (cancelPendingTask env none state task).2.reminders :=
        cancelPendingTask_keeps h (htasks task (List.mem_cons_self ..))
      exact ih hhead fun other hother => htasks other (List.mem_cons_of_mem _ hother)

theorem cancelPendingTasks_keeps {s : ScheduleReminderService} (h : Keeps r s.reminders) (scheduleId : ℤ) :
    Keeps r (cancelPendingTasks env s scheduleId).2.reminders := by
  refine h.trans (foldl_cancelPendingTask_keeps (Keeps.refl _) fun task htask => ?_)
  exact (List.mem_filter.1 htask).1

theorem registerReminder_keeps {s : ScheduleReminderService} (h : Keeps r s.reminders)
    (scheduleId chainId attempt triggerAt : ℤ) :
    Keeps r (registerReminder env s scheduleId chainId attempt triggerAt).2.reminders := by
  refine h.trans ?_
  rcases registerReminder_outcome env s scheduleId chainId attempt triggerAt with ⟨-, hsame⟩ | ⟨row, hadds⟩
  · rw [hsame]
    exact Keeps.refl _
  · exact fun a ha => ⟨a, (hadds.mem a).2 (Or.inl ha), SameTask.refl a, SameAction.refl a⟩

theorem synchronizeSchedule_keeps {s : ScheduleReminderService} (h : Keeps r s.reminders) (scheduleId : ℤ) :
    Keeps r (synchronizeSchedule env s scheduleId).2.reminders := by
  have hcancelled : Keeps r (cancelPendingTasks env s scheduleId).2.reminders := cancelPendingTasks_keeps h scheduleId
  unfold synchronizeSchedule
  split
  · exact h
  · split
    · exact h
    · dsimp only
      split
      · exact hcancelled
      · split
        · exact hcancelled
        · split
          · exact hcancelled
          · refine registerReminder_keeps ?_ _ _ _ _
            exact hcancelled

theorem cancelScheduleReminder_keeps {s : ScheduleReminderService} (h : Keeps r s.reminders) (scheduleId : ℤ) :
    Keeps r (cancelScheduleReminder env s scheduleId).2.reminders := by
  unfold cancelScheduleReminder
  split
  · exact h
  · exact cancelPendingTasks_keeps h scheduleId

/-- A loop keeps the tasks when each of its rounds does. -/
theorem foldl_keeps {α : Type} {round : Status × ScheduleReminderService → α → Status × ScheduleReminderService}
    (hround : ∀ state item, Keeps r state.2.reminders → Keeps r (round state item).2.reminders) (items : List α)
    (h : Keeps r state.2.reminders) :
    Keeps r (items.foldl round state).2.reminders := by
  induction items generalizing state with
  | nil => exact h
  | cons item items ih => exact ih (hround state item h)

theorem suspendSchedule_keeps (ruleId : ℤ) (state : Status × ScheduleReminderService) (schedule : Schedule)
    (h : Keeps r state.2.reminders) : Keeps r (suspendSchedule env ruleId state schedule).2.reminders := by
  unfold suspendSchedule
  split
  · exact h
  · exact cancelPendingTasks_keeps h schedule.id

theorem suspendRuleReminders_keeps {s : ScheduleReminderService} (h : Keeps r s.reminders) (ruleId : ℤ) :
    Keeps r (suspendRuleReminders env s ruleId).2.reminders := by
  have hloop : Keeps r (s.repo.findAll.foldl (suspendSchedule env ruleId) (.success, s)).2.reminders :=
    foldl_keeps (suspendSchedule_keeps ruleId) s.repo.findAll h
  unfold suspendRuleReminders
  split
  · exact h
  · dsimp only
    split
    · exact hloop
    · split <;> rwa [cancelTiming_reminders]

theorem synchronizeInstance_keeps (ruleId : ℤ) (state : Status × ScheduleReminderService) (schedule : Schedule)
    (h : Keeps r state.2.reminders) : Keeps r (synchronizeInstance env ruleId state schedule).2.reminders := by
  unfold synchronizeInstance
  split
  · exact h
  · exact synchronizeSchedule_keeps h schedule.id

theorem synchronizeRule_keeps {s : ScheduleReminderService} (h : Keeps r s.reminders) (ruleId : ℤ) :
    Keeps r (synchronizeRule env s ruleId).2.reminders := by
  unfold synchronizeRule
  split
  · exact h
  · exact foldl_keeps (synchronizeInstance_keeps ruleId) s.repo.findAll h

theorem generateNextInstance_keeps {s : ScheduleReminderService} (h : Keeps r s.reminders)
    (ruleId priorFailureCount : ℤ) :
    Keeps r (generateNextInstance env s ruleId priorFailureCount).reminders := by
  unfold generateNextInstance
  split
  · exact h
  · dsimp only
    split
    · rwa [scheduleGenerationRetry_reminders]
    · split
      · exact h
      · refine synchronizeSchedule_keeps ?_ _
        exact h

theorem ring_keeps {s : ScheduleReminderService} (h : Keeps r s.reminders) (schedule : Schedule)
    (task : ScheduleReminderTask) : Keeps r (ring env s schedule task).reminders := by
  have hfollow : Keeps r (registerFollowUp env s task).2.reminders := by
    unfold registerFollowUp
    split
    · exact registerReminder_keeps h _ _ _ _
    · exact h
  unfold ring
  dsimp only
  split
  · exact hfollow
  · split
    · refine generateNextInstance_keeps ?_ _ _
      exact hfollow
    · exact hfollow

theorem handleReminder_keeps {s : ScheduleReminderService} (h : Keeps r s.reminders) (reminderTaskId : ℤ)
    (timingTaskId : String) : Keeps r (handleReminder env s reminderTaskId timingTaskId).reminders := by
  rcases handleReminder_cases env s reminderTaskId timingTaskId with heq | ⟨task, schedule, hfires, heq⟩ <;> rw [heq]
  · exact h
  · have hfired : Keeps r (s.updateTask (firedTask env task)).2.reminders :=
      h.trans ((Keeps.refl _).update hfires.mem ⟨rfl, rfl, rfl, rfl, rfl, rfl⟩ ⟨rfl, rfl, rfl, rfl⟩)
    split
    · exact hfired
    · exact ring_keeps hfired schedule _

theorem handleGenerationRetry_keeps {s : ScheduleReminderService} (h : Keeps r s.reminders) (ruleId : ℤ)
    (value : String) : Keeps r (handleGenerationRetry env s ruleId value).reminders := by
  unfold handleGenerationRetry
  split
  · exact h
  · split
    · exact h
    · refine generateNextInstance_keeps ?_ _ _
      exact h

theorem duplicateRegistration_keeps (s : ScheduleReminderService) (reminderTaskId : ℤ) :
    Keeps s.reminders (duplicateRegistration env s reminderTaskId).reminders := by
  unfold duplicateRegistration
  split
  · exact Keeps.refl _
  · next task hfound =>
      split
      · have hmem := (IdTable.find?_eq_some.1 (findById_eq_ok.1 hfound)).1
        exact (Keeps.refl _).update hmem ⟨rfl, rfl, rfl, rfl, rfl, rfl⟩ ⟨rfl, rfl, rfl, rfl⟩
      · exact Keeps.refl _

theorem duplicateGenerationRetry_reminders (s : ScheduleReminderService) (ruleId : ℤ) (value : String) :
    (duplicateGenerationRetry s ruleId value).reminders = s.reminders := by
  unfold duplicateGenerationRetry
  split
  · rfl
  · split <;> rfl

/-! ### Starting and stopping -/

theorem restoreTask_keeps {task : ScheduleReminderTask}
    (h : Keeps r state.2.reminders) (htask : task ∈ r.tasks.rows) :
    Keeps r (restoreTask env state task).2.reminders := by
  have hcancelled : Keeps r (state.2.updateTask { task with
      timerStatus := .cancelled, businessStatus := .cancelled, updatedAt := env.now }).2.reminders :=
    h.update htask ⟨rfl, rfl, rfl, rfl, rfl, rfl⟩ ⟨rfl, rfl, rfl, rfl⟩
  unfold restoreTask
  split
  · exact h
  · dsimp only
    split
    · exact hcancelled
    · split
      · exact hcancelled
      · split
        · exact handleReminder_keeps h _ _
        · rwa [registerPersistedTask_reminders]

theorem foldl_restoreTask_keeps {tasks : List ScheduleReminderTask}
    (h : Keeps r state.2.reminders) (htasks : ∀ task ∈ tasks, task ∈ r.tasks.rows) :
    Keeps r (tasks.foldl (restoreTask env) state).2.reminders := by
  induction tasks generalizing state with
  | nil => exact h
  | cons task tasks ih =>
      have hhead : Keeps r (restoreTask env state task).2.reminders :=
        restoreTask_keeps h (htasks task (List.mem_cons_self ..))
      exact ih hhead fun other hother => htasks other (List.mem_cons_of_mem _ hother)

theorem restoreSchedule_keeps (schedulesWithTasks : List ℤ) (state : Status × ScheduleReminderService)
    (schedule : Schedule) (h : Keeps r state.2.reminders) :
    Keeps r (restoreSchedule env schedulesWithTasks state schedule).2.reminders := by
  unfold restoreSchedule
  split
  · exact h
  · split
    · exact h
    · refine registerReminder_keeps ?_ _ _ _ _
      exact h

theorem start_keeps (s : ScheduleReminderService) : Keeps s.reminders (start env s).2.reminders := by
  unfold start
  dsimp only
  split
  · exact Keeps.refl _
  · refine foldl_keeps (restoreSchedule_keeps _) _ (foldl_restoreTask_keeps ?_ fun _ => id)
    exact Keeps.refl _

theorem foldl_cancelTiming_reminders (ids : List String) (s : ScheduleReminderService) :
    (ids.foldl (fun s id => (cancelTiming env s id).2) s).reminders = s.reminders := by
  induction ids generalizing s with
  | nil => rfl
  | cons id ids ih => exact (ih _).trans (cancelTiming_reminders id)

theorem stop_reminders (s : ScheduleReminderService) : (stop env s).reminders = s.reminders := by
  unfold stop
  split
  · rfl
  · exact foldl_cancelTiming_reminders _ _

/-! ### Acknowledging -/

/-- What `AcknowledgeRecentReminders` writes for a task of an answered chain. -/
def answeredTask (env : ReminderEnv) (task : ScheduleReminderTask) : ScheduleReminderTask :=
  { task with
    timerStatus := if task.isPending && task.timingTaskId.isSome then .cancelled else task.timerStatus
    businessStatus := if task.isOpen then .acknowledged else task.businessStatus
    updatedAt := env.now }

/-- What it asks of Timing before. -/
def cancelAnswered (env : ReminderEnv) (s : ScheduleReminderService) (task : ScheduleReminderTask) :
    Bool × ScheduleReminderService :=
  if task.isPending && task.timingTaskId.isSome then cancelTiming env s (task.timingTaskId.getD "") else (true, s)

theorem acknowledgeTasks_cons (env : ReminderEnv) (chains : List ℤ) (task : ScheduleReminderTask)
    (tasks : List ScheduleReminderTask) (s : ScheduleReminderService) :
    acknowledgeTasks env chains (task :: tasks) s =
      if task.chainId ∉ chains then acknowledgeTasks env chains tasks s
      else if !(cancelAnswered env s task).1 then
        (.error .unavailable "后续提醒取消命令未被接收", (cancelAnswered env s task).2)
      else if !((cancelAnswered env s task).2.updateTask (answeredTask env task)).1.ok then
        (cancelAnswered env s task).2.updateTask (answeredTask env task)
      else acknowledgeTasks env chains tasks ((cancelAnswered env s task).2.updateTask (answeredTask env task)).2 :=
  rfl

theorem cancelAnswered_reminders (s : ScheduleReminderService) (task : ScheduleReminderTask) :
    (cancelAnswered env s task).2.reminders = s.reminders := by
  unfold cancelAnswered
  split
  · exact cancelTiming_reminders _
  · rfl

theorem acknowledgeTasks_keeps {chains : List ℤ} {tasks : List ScheduleReminderTask} {s : ScheduleReminderService}
    (h : Keeps r s.reminders) (htasks : ∀ task ∈ tasks, task ∈ r.tasks.rows) :
    Keeps r (acknowledgeTasks env chains tasks s).2.reminders := by
  induction tasks generalizing s with
  | nil => exact h
  | cons task tasks ih =>
      have htail : ∀ other ∈ tasks, other ∈ r.tasks.rows :=
        fun other hother => htasks other (List.mem_cons_of_mem _ hother)
      have hwritten : Keeps r ((cancelAnswered env s task).2.updateTask (answeredTask env task)).2.reminders := by
        rw [updateTask_reminders, cancelAnswered_reminders]
        exact h.update (htasks task (List.mem_cons_self ..)) ⟨rfl, rfl, rfl, rfl, rfl, rfl⟩ ⟨rfl, rfl, rfl, rfl⟩
      rw [acknowledgeTasks_cons]
      split
      · exact ih h htail
      · split
        · rwa [cancelAnswered_reminders]
        · split
          · exact hwritten
          · exact ih hwritten htail

theorem completeSchedules_reminders (ids : List ℤ) (s : ScheduleReminderService) :
    (completeSchedules env ids s).2.reminders = s.reminders := by
  induction ids generalizing s with
  | nil => rfl
  | cons id ids ih =>
      unfold completeSchedules
      split
      · exact ih s
      · split_ifs
        · exact ih s
        · dsimp only
          split_ifs
          · rfl
          · exact ih _

theorem acknowledgeRecentReminders_keeps (s : ScheduleReminderService) :
    Keeps s.reminders (acknowledgeRecentReminders env s).2.reminders := by
  have hloop : ∀ chains, Keeps s.reminders (acknowledgeTasks env chains s.reminders.findAll s).2.reminders :=
    fun chains => acknowledgeTasks_keeps (Keeps.refl _) fun _ => id
  unfold acknowledgeRecentReminders
  dsimp only
  split_ifs
  · exact Keeps.refl _
  · exact hloop _
  · rw [completeSchedules_reminders]
    exact hloop _
  · rw [completeSchedules_reminders]
    exact hloop _

/-! ## Answers -/

theorem acknowledgeSiblings_keeps {target : ScheduleReminderTask} {tasks : List ScheduleReminderTask}
    {s : ScheduleReminderService} (h : Keeps r s.reminders) (htasks : ∀ task ∈ tasks, task ∈ r.tasks.rows) :
    Keeps r (acknowledgeSiblings env target tasks s).2.reminders := by
  induction tasks generalizing s with
  | nil => exact h
  | cons task tasks ih =>
      have htail : ∀ other ∈ tasks, other ∈ r.tasks.rows :=
        fun other hother => htasks other (List.mem_cons_of_mem _ hother)
      rw [acknowledgeSiblings_cons]
      have hclosed : Keeps r (s.updateTask (closedSibling env task)).2.reminders :=
        h.update (htasks task (List.mem_cons_self ..)) ⟨rfl, rfl, rfl, rfl, rfl, rfl⟩ ⟨rfl, rfl, rfl, rfl⟩
      split_ifs
      · exact ih h htail
      · exact hclosed
      · exact ih hclosed htail

theorem acknowledgeTarget_eq (command : ReminderActionCommand) (target : ScheduleReminderTask) :
    acknowledgeTarget env s command target =
      let cancelled := cancelChain env target.chainId (s.reminders.findBySchedule target.scheduleId) s
      let siblings := acknowledgeSiblings env target (s.reminders.findBySchedule target.scheduleId) cancelled.2
      if !cancelled.1 then (.failure .unavailable "后续提醒取消命令未被接收", cancelled.2)
      else if !siblings.1.ok then (.error siblings.1, siblings.2)
      else settleTarget env command target siblings.2 :=
  rfl

theorem settleTarget_keeps {command : ReminderActionCommand} {target : ScheduleReminderTask}
    {s : ScheduleReminderService} (h : KeepsActions r s.reminders) (htarget : target ∈ r.tasks.rows)
    (hnone : target.actionOperationId = none) :
    KeepsActions r (settleTarget env command target s).2.reminders := by
  have hstored : KeepsActions r (s.reminders.update (acknowledgedTask env command target)).2 :=
    h.update htarget rfl hnone
  unfold settleTarget
  split
  · exact h
  · next schedule _ =>
      generalize (if schedule.status = .active then completeSchedule s.repo env.now target.scheduleId
        else if schedule.status ≠ .completed then
          (Status.error .alreadyExists "提醒关联日程不可完成", s.repo)
        else (Status.success, s.repo)) = completed
      dsimp only
      split
      · exact h
      · split <;> exact hstored

theorem acknowledgeTarget_keeps {command : ReminderActionCommand} {target : ScheduleReminderTask}
    (htarget : target ∈ s.reminders.tasks.rows) (hnone : target.actionOperationId = none) :
    KeepsActions s.reminders (acknowledgeTarget env s command target).2.reminders := by
  have hsiblings : Keeps s.reminders (acknowledgeSiblings env target (s.reminders.findBySchedule target.scheduleId)
      (cancelChain env target.chainId (s.reminders.findBySchedule target.scheduleId) s).2).2.reminders := by
    refine acknowledgeSiblings_keeps ?_ fun _ htask => (List.mem_filter.1 htask).1
    rw [cancelChain_reminders]
    exact Keeps.refl _
  rw [acknowledgeTarget_eq]
  dsimp only
  split_ifs
  · rw [cancelChain_reminders]
    exact KeepsActions.refl _
  · exact hsiblings.actions
  · exact settleTarget_keeps hsiblings.actions htarget hnone

theorem snoozeTarget_keeps {command : ReminderActionCommand} {target : ScheduleReminderTask}
    (htarget : target ∈ s.reminders.tasks.rows) (hnone : target.actionOperationId = none) :
    KeepsActions s.reminders (snoozeTarget env s command target).2.reminders := by
  unfold snoozeTarget
  dsimp only
  split
  · exact KeepsActions.refl _
  · next followUp _ =>
      have hstored : KeepsActions s.reminders (s.reminders.update (snoozedTask env command target followUp)).2 :=
        (KeepsActions.refl _).update htarget rfl hnone
      split <;> exact hstored

theorem executeReminderAction_keeps (s : ScheduleReminderService) (command : ReminderActionCommand) :
    KeepsActions s.reminders (executeReminderAction env s command).2.reminders := by
  by_cases haddressed : ∃ target, Addresses s command target
  · obtain ⟨target, haddresses⟩ := haddressed
    have hnone := (s.reminders.valid target haddresses.mem).operationId_eq_none haddresses.waiting
    rw [executeReminderAction_addressed haddresses]
    split_ifs
    · exact acknowledgeTarget_keeps haddresses.mem hnone
    · exact snoozeTarget_keeps haddresses.mem hnone
  · rw [executeReminderAction_unaddressed_snd env fun target htarget => haddressed ⟨target, htarget⟩]
    exact KeepsActions.refl _

theorem executeRecentAction_keeps (action : ScheduleReminderActionKind) (state : RecentActions)
    (task : ScheduleReminderTask) :
    KeepsActions state.service.reminders (executeRecentAction env action state task).service.reminders := by
  unfold executeRecentAction
  split
  · exact KeepsActions.refl _
  · next timingTaskId _ =>
      split
      · exact KeepsActions.refl _
      · have hexecuted := @executeReminderAction_keeps env (state.service.allocateTaskId "voice-action").2
          (recentActionCommand (state.service.allocateTaskId "voice-action").1 action timingTaskId)
        dsimp only
        split <;> exact hexecuted

theorem executeRecentReminderActions_keeps (s : ScheduleReminderService) (action : ScheduleReminderActionKind) :
    KeepsActions s.reminders (executeRecentReminderActions env s action).2.reminders := by
  have hloop : ∀ (tasks : List ScheduleReminderTask) (state : RecentActions),
      KeepsActions state.service.reminders (tasks.foldl (executeRecentAction env action) state).service.reminders := by
    intro tasks
    induction tasks with
    | nil => exact fun state => KeepsActions.refl _
    | cons task tasks ih => exact fun state => (executeRecentAction_keeps action state task).trans (ih _)
  unfold executeRecentReminderActions
  dsimp only
  split_ifs <;> exact hloop _ { service := s }

/-! ## What a recorded action answers -/

/-- The result reports the action that the task records. -/
structure Records (task : ScheduleReminderTask) (result : ReminderActionResult) : Prop where
  affectedCount : result.affectedCount = 1
  events : result.events = []
  timing : task.timingTaskId = some result.reminderTriggerId
  operationId : task.actionOperationId = some result.operationId
  kind : task.actionKind = some result.action
  occurredAt : task.actionOccurredAt = some result.occurredAt
  nextTriggerAt : task.actionNextTriggerAt = result.nextTriggerAt

theorem Records.kept {a b : ScheduleReminderTask} {result : ReminderActionResult} (h : Records a result)
    (htask : SameTask a b) (haction : SameAction a b) : Records b result :=
  ⟨h.affectedCount, h.events, htask.timingTaskId.trans h.timing, haction.operationId.trans h.operationId,
    haction.kind.trans h.kind, haction.occurredAt.trans h.occurredAt, haction.nextTriggerAt.trans h.nextTriggerAt⟩

/-- A recorded action can be reported: the checks of the store see to it that nothing of it is missing. -/
theorem exists_records {task : ScheduleReminderTask} (hvalid : task.Valid) {triggerId : String}
    (htiming : task.timingTaskId = some triggerId) (hrecorded : task.actionOperationId ≠ none) :
    ∃ result, Records task result ∧ result.reminderTriggerId = triggerId := by
  obtain ⟨operationId, hoperation⟩ := Option.ne_none_iff_exists'.1 hrecorded
  obtain ⟨-, -, -, -, -, haction⟩ := hvalid
  unfold ScheduleReminderTask.ValidAction at haction
  rw [hoperation] at haction
  obtain ⟨-, hoccurred, hkinds⟩ := haction
  obtain ⟨occurredAt, hoccurredAt⟩ := Option.isSome_iff_exists.1 hoccurred
  have hkind : ∃ action, task.actionKind = some action := by
    rcases hkinds with ⟨hkind, -⟩ | ⟨hkind, -⟩
    · exact ⟨_, hkind⟩
    · exact ⟨_, hkind⟩
  obtain ⟨action, haction⟩ := hkind
  refine ⟨{
    affectedCount := 1
    operationId
    reminderTriggerId := triggerId
    action
    occurredAt
    nextTriggerAt := task.actionNextTriggerAt }, ?_, rfl⟩
  exact ⟨rfl, rfl, htiming, hoperation, haction, hoccurredAt, rfl⟩

/-- What a command answers for an action that is recorded already. -/
def replay (s : ScheduleReminderService) (result : ReminderActionResult) (command : ReminderActionCommand) :
    Result ReminderActionResult × ScheduleReminderService :=
  if !(checkReminderAction command).ok then (.error (checkReminderAction command), s)
  else if command.action = result.action then (.ok { result with replayed := true }, s)
  else (.failure .alreadyExists "提醒已由其他 operationId 或动作处理", s)

theorem executeReminderAction_recorded {task : ScheduleReminderTask} {result : ReminderActionResult}
    {command : ReminderActionCommand} (htask : task ∈ s.reminders.tasks.rows) (hrecords : Records task result)
    (htrigger : command.reminderTriggerId = result.reminderTriggerId) :
    executeReminderAction env s command = replay s result command := by
  have htiming : task.timingTaskId = some command.reminderTriggerId := htrigger ▸ hrecords.timing
  unfold executeReminderAction replay
  dsimp only
  split
  · rfl
  · rw [findByTimingTaskId_eq_ok.2 ⟨htask, htiming⟩]
    dsimp only
    rw [hrecords.operationId, hrecords.kind]
    dsimp only
    by_cases hkind : command.action = result.action
    · have hsame : ¬ some result.action ≠ some command.action := not_not.2 (congrArg some hkind.symm)
      rw [if_pos hkind, if_neg hsame, hrecords.occurredAt, hrecords.nextTriggerAt, htrigger, hkind,
        ← hrecords.affectedCount, ← hrecords.events]
    · have hother : some result.action ≠ some command.action := fun h => hkind (Option.some.inj h).symm
      rw [if_neg hkind, if_pos hother]

/-! ## What a success records -/

/-- A command has answered this, and a task records it. -/
structure Answered (command : ReminderActionCommand) (result : ReminderActionResult)
    (s : ScheduleReminderService) : Prop where
  trigger : result.reminderTriggerId = command.reminderTriggerId
  action : result.action = command.action
  first : result.replayed = false → result.operationId = command.operationId
  recorded : ∃ task ∈ s.reminders.tasks.rows, Records task result

section Answered

variable {command : ReminderActionCommand} {target : ScheduleReminderTask} {result : ReminderActionResult}
  {s' : ScheduleReminderService}

theorem mem_of_updateTask_ok {task : ScheduleReminderTask} (h : (s.updateTask task).1.ok = true) :
    task ∈ (s.updateTask task).2.reminders.tasks.rows := by
  show task ∈ (s.reminders.update task).2.tasks.rows
  rcases s.reminders.update_cases task with ⟨status, hbad, hfail, -⟩ | ⟨found, reminders, hfound, -, hok, htasks⟩
  · have hfalse : (s.reminders.update task).1.ok = false := by rwa [hfail]
    exact absurd (hfalse.symm.trans h) Bool.false_ne_true
  · obtain ⟨hmem, hid⟩ := IdTable.find?_eq_some.1 hfound
    rw [hok, htasks]
    exact IdTable.mem_replace.2 (Or.inr ⟨rfl, found, hmem, hid⟩)

theorem settleTarget_answered (htiming : target.timingTaskId = some command.reminderTriggerId)
    (h : settleTarget env command target s = (.ok result, s')) : Answered command result s' := by
  unfold settleTarget at h
  split at h
  · cases h
  · next schedule _ =>
      generalize (if schedule.status = .active then completeSchedule s.repo env.now target.scheduleId
        else if schedule.status ≠ .completed then
          (Status.error .alreadyExists "提醒关联日程不可完成", s.repo)
        else (Status.success, s.repo)) = completed at h
      dsimp only at h
      split at h
      · cases h
      · split at h
        · cases h
        · next hupdated =>
            have hstored := mem_of_updateTask_ok (by simpa using hupdated)
            cases h
            exact ⟨rfl, rfl, fun _ => rfl, _, hstored, rfl, rfl, htiming, rfl, rfl, rfl, rfl⟩

theorem acknowledgeTarget_answered (htiming : target.timingTaskId = some command.reminderTriggerId)
    (h : acknowledgeTarget env s command target = (.ok result, s')) : Answered command result s' := by
  rw [acknowledgeTarget_eq] at h
  dsimp only at h
  split_ifs at h
  · cases h
  · cases h
  · exact settleTarget_answered htiming h

theorem snoozeTarget_answered (htiming : target.timingTaskId = some command.reminderTriggerId)
    (h : snoozeTarget env s command target = (.ok result, s')) : Answered command result s' := by
  unfold snoozeTarget at h
  dsimp only at h
  split at h
  · cases h
  · split at h
    · cases h
    · next hupdated =>
        have hstored := mem_of_updateTask_ok (by simpa using hupdated)
        cases h
        exact ⟨rfl, rfl, fun _ => rfl, _, hstored, rfl, rfl, htiming, rfl, rfl, rfl, rfl⟩

theorem executeReminderAction_answered (h : executeReminderAction env s command = (.ok result, s')) :
    Answered command result s' := by
  by_cases haddressed : ∃ target, Addresses s command target
  · obtain ⟨target, haddresses⟩ := haddressed
    rw [executeReminderAction_addressed haddresses] at h
    split_ifs at h
    · exact acknowledgeTarget_answered haddresses.timing h
    · exact snoozeTarget_answered haddresses.timing h
  · rcases executeReminderAction_unaddressed env fun target htarget => haddressed ⟨target, htarget⟩ with
      ⟨status, -, heq⟩ | ⟨_, task, operationId, -, hmem, htiming, hoperation⟩
    · rw [heq] at h
      cases h
    · -- an action that is recorded already is answered again
      have hrecorded : task.actionOperationId ≠ none := by
        rw [hoperation]
        exact Option.some_ne_none _
      obtain ⟨first, hfirst, htrigger⟩ := exists_records (s.reminders.valid task hmem) htiming hrecorded
      rw [executeReminderAction_recorded hmem hfirst htrigger.symm] at h
      unfold replay at h
      split_ifs at h with hbad hkind
      · cases h
      · cases h
        refine ⟨htrigger, hkind.symm, fun hreplayed => absurd hreplayed.symm Bool.false_ne_true, task, hmem, ?_⟩
        exact ⟨hfirst.affectedCount, hfirst.events, hfirst.timing, hfirst.operationId, hfirst.kind,
          hfirst.occurredAt, hfirst.nextTriggerAt⟩
      · cases h

end Answered

end ScheduleReminderService

namespace ReminderCall

open ScheduleReminderService MemoryScheduleReminderTaskRepository

/-! ## Runs -/

/-- No call changes an action that is recorded. -/
theorem step_keepsActions (s : ScheduleReminderService) (call : ReminderCall) :
    KeepsActions s.reminders (step s call).reminders := by
  have hrefl : Keeps s.reminders s.reminders := Keeps.refl _
  cases call with
  | edit change => exact KeepsActions.refl _
  | restart => exact KeepsActions.refl _
  | start env => exact (start_keeps s).actions
  | stop env =>
      unfold step
      rw [stop_reminders]
      exact KeepsActions.refl _
  | synchronizeSchedule env scheduleId => exact (synchronizeSchedule_keeps hrefl scheduleId).actions
  | cancelScheduleReminder env scheduleId => exact (cancelScheduleReminder_keeps hrefl scheduleId).actions
  | suspendRuleReminders env ruleId => exact (suspendRuleReminders_keeps hrefl ruleId).actions
  | synchronizeRule env ruleId => exact (synchronizeRule_keeps hrefl ruleId).actions
  | handleReminder env reminderTaskId timingTaskId =>
      exact (handleReminder_keeps hrefl reminderTaskId timingTaskId).actions
  | handleGenerationRetry env ruleId value => exact (handleGenerationRetry_keeps hrefl ruleId value).actions
  | duplicateRegistration env reminderTaskId => exact (duplicateRegistration_keeps s reminderTaskId).actions
  | duplicateGenerationRetry ruleId value =>
      unfold step
      rw [duplicateGenerationRetry_reminders]
      exact KeepsActions.refl _
  | acknowledgeRecentReminders env => exact (acknowledgeRecentReminders_keeps s).actions
  | executeReminderAction env command => exact executeReminderAction_keeps s command
  | executeRecentReminderActions env action => exact executeRecentReminderActions_keeps s action

theorem run_keepsActions (s : ScheduleReminderService) (calls : List ReminderCall) :
    KeepsActions s.reminders (Run.run step s calls).reminders := by
  induction calls generalizing s with
  | nil => exact KeepsActions.refl _
  | cons call calls ih => exact (step_keepsActions s call).trans (ih (step s call))

/-- What holds of the actions in a run: none is changed, no operation identifier is on two tasks, and what
is recorded, or was answered before, settles the answer to every later command. -/
structure ExactlyOnce (s : ScheduleReminderService) (calls : List ReminderCall) : Prop where
  unchanged : ∀ done more, done ++ more <+: calls →
    KeepsActions (Run.run step s done).reminders (Run.run step s (done ++ more)).reminders
  distinct : ∀ done, done <+: calls → ∀ a ∈ (Run.run step s done).reminders.tasks.rows,
    ∀ b ∈ (Run.run step s done).reminders.tasks.rows,
      a.actionOperationId ≠ none → b.actionOperationId = a.actionOperationId → a = b
  recorded : ∀ done, done <+: calls → ∀ task ∈ (Run.run step s done).reminders.tasks.rows,
    ∀ triggerId, task.timingTaskId = some triggerId → task.actionOperationId ≠ none →
      ∃ result, Records task result ∧ ∀ env command, command.reminderTriggerId = triggerId →
        (Run.run step s done).executeReminderAction env command = replay (Run.run step s done) result command
  repeated : ∀ done env command more result, done ++ ReminderCall.executeReminderAction env command :: more <+: calls →
    ((Run.run step s done).executeReminderAction env command).1 = .ok result →
      result.reminderTriggerId = command.reminderTriggerId ∧ result.action = command.action ∧
      (result.replayed = false → result.operationId = command.operationId) ∧
      ∀ later command', command'.reminderTriggerId = command.reminderTriggerId →
        let now := Run.run step s (done ++ ReminderCall.executeReminderAction env command :: more)
        now.executeReminderAction later command' = replay now result command'

/-- The actions of every run from every state are recorded once. -/
theorem actions_exactly_once (s : ScheduleReminderService) (calls : List ReminderCall) :
    ExactlyOnce s calls where
  unchanged done more _ := by
    rw [Run.run_append]
    exact run_keepsActions _ more
  distinct done _ a ha b hb hrecorded hsame := by
    by_contra hne
    have hid : a.id ≠ b.id := fun h => hne ((Run.run step s done).reminders.tasks.eq_of_getId_eq ha hb h)
    have hsome : a.actionOperationId.isSome = true := Option.isSome_iff_ne_none.2 hrecorded
    exact (Run.run step s done).reminders.distinct a ha b hb hid (Or.inr (Or.inr ⟨hsome, hsame⟩))
  recorded done _ task htask triggerId htiming hrecorded := by
    have hvalid : task.Valid := (Run.run step s done).reminders.valid task htask
    obtain ⟨result, hrecords, htrigger⟩ := exists_records hvalid htiming hrecorded
    refine ⟨result, hrecords, fun env command hcommand => ?_⟩
    exact executeReminderAction_recorded htask hrecords (hcommand.trans htrigger.symm)
  repeated done env command more result _ hanswer := by
    have hanswered : Answered command result ((Run.run step s done).executeReminderAction env command).2 :=
      executeReminderAction_answered (Prod.ext hanswer rfl)
    refine ⟨hanswered.trigger, hanswered.action, hanswered.first, fun later command' hcommand => ?_⟩
    -- the task that records the answer is still there, with its action
    obtain ⟨task, htask, hrecords⟩ := hanswered.recorded
    have hrecorded : task.actionOperationId ≠ none := by
      rw [hrecords.operationId]
      exact Option.some_ne_none _
    obtain ⟨kept, hkept, hsame, haction⟩ := run_keepsActions _ more task htask hrecorded
    dsimp only
    rw [Run.run_append, Run.run_cons]
    exact executeReminderAction_recorded hkept (hrecords.kept hsame haction)
      (hcommand.trans hanswered.trigger.symm)

/-- A lunch that rings and is acknowledged. -/
def acknowledgedLunch : List ReminderCall :=
  [.edit fun repo => (ScheduleService.createSchedule repo 1000
      { event := "lunch", startTime := some 2000 }).2,
    .start { now := 1000, stamp := 1000 },
    .handleReminder { now := 2000, stamp := 2000 } 1 "schedule-reminder-1"]

/-- The acknowledgement is repeated without an operation identifier, and is refused. -/
theorem unnamed_repeat_refused :
    ¬ ∀ (calls : List ReminderCall) (env : ReminderEnv) (command command' : ReminderActionCommand)
      (result : ReminderActionResult),
      ((Run.run step {} calls).executeReminderAction env command).1 = .ok result →
        command'.reminderTriggerId = command.reminderTriggerId → command'.action = command.action →
          (((Run.run step {} calls).executeReminderAction env command).2.executeReminderAction env command').1 =
            .ok { result with replayed := true } := by
  intro h
  have hanswer := h acknowledgedLunch { now := 2100, stamp := 2100 }
    { operationId := "operation-1", reminderTriggerId := "schedule-reminder-1" }
    { operationId := "", reminderTriggerId := "schedule-reminder-1" }
    { affectedCount := 1, operationId := "operation-1", reminderTriggerId := "schedule-reminder-1",
      action := .acknowledge, occurredAt := 2100 } (by decide +kernel) rfl rfl
  exact absurd hanswer (by decide +kernel)

end ReminderCall

end VoiceLife
