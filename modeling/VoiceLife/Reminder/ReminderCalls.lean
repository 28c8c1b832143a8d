import VoiceLife.Lib.Run
import VoiceLife.Reminder.ReminderService
import VoiceLife.Schedule.ServiceLemmas

/-! # Runs of the reminder service

A run is any sequence of calls: of the service itself, of Timing when a timer fires or a registration
is answered, and of the other services, which may change the schedules at any time.
-/

namespace VoiceLife

/-- The calls that reach the reminder service or its schedules. -/
inductive ReminderCall where
  | edit (change : MemoryScheduleRepository → MemoryScheduleRepository)
  | restart
  | start (env : ReminderEnv)
  | stop (env : ReminderEnv)
  | synchronizeSchedule (env : ReminderEnv) (scheduleId : ℤ)
  | cancelScheduleReminder (env : ReminderEnv) (scheduleId : ℤ)
  | suspendRuleReminders (env : ReminderEnv) (ruleId : ℤ)
  | synchronizeRule (env : ReminderEnv) (ruleId : ℤ)
  | handleReminder (env : ReminderEnv) (reminderTaskId : ℤ) (timingTaskId : String)
  | handleGenerationRetry (env : ReminderEnv) (ruleId : ℤ) (value : String)
  | duplicateRegistration (env : ReminderEnv) (reminderTaskId : ℤ)
  | duplicateGenerationRetry (ruleId : ℤ) (value : String)
  | acknowledgeRecentReminders (env : ReminderEnv)
  | executeReminderAction (env : ReminderEnv) (command : ReminderActionCommand)
  | executeRecentReminderActions (env : ReminderEnv) (action : ScheduleReminderActionKind)

/-- The service after a call. -/
def ReminderCall.step (s : ScheduleReminderService) : ReminderCall → ScheduleReminderService
  | .edit change => { s with repo := change s.repo }
  | .restart => s.restarted
  | .start env => (s.start env).2
  | .stop env => s.stop env
  | .synchronizeSchedule env scheduleId => (s.synchronizeSchedule env scheduleId).2
  | .cancelScheduleReminder env scheduleId => (s.cancelScheduleReminder env scheduleId).2
  | .suspendRuleReminders env ruleId => (s.suspendRuleReminders env ruleId).2
  | .synchronizeRule env ruleId => (s.synchronizeRule env ruleId).2
  | .handleReminder env reminderTaskId timingTaskId =>
    s.handleReminder env reminderTaskId timingTaskId
  | .handleGenerationRetry env ruleId value => s.handleGenerationRetry env ruleId value
  | .duplicateRegistration env reminderTaskId => s.duplicateRegistration env reminderTaskId
  | .duplicateGenerationRetry ruleId value => s.duplicateGenerationRetry ruleId value
  | .acknowledgeRecentReminders env => (s.acknowledgeRecentReminders env).2
  | .executeReminderAction env command => (s.executeReminderAction env command).2
  | .executeRecentReminderActions env action => (s.executeRecentReminderActions env action).2

/-! ## What stays with a task -/

/-- The later row is the same task: nothing that identifies it has changed. -/
structure SameTask (a b : ScheduleReminderTask) : Prop where
  id : b.id = a.id
  scheduleId : b.scheduleId = a.scheduleId
  chainId : b.chainId = a.chainId
  attempt : b.attempt = a.attempt
  timingTaskId : b.timingTaskId = a.timingTaskId
  triggerAt : b.triggerAt = a.triggerAt

/-- The two rows record the same action, or none. -/
structure SameAction (a b : ScheduleReminderTask) : Prop where
  operationId : b.actionOperationId = a.actionOperationId
  kind : b.actionKind = a.actionKind
  occurredAt : b.actionOccurredAt = a.actionOccurredAt
  nextTriggerAt : b.actionNextTriggerAt = a.actionNextTriggerAt

theorem SameTask.refl (a : ScheduleReminderTask) : SameTask a a := ⟨rfl, rfl, rfl, rfl, rfl, rfl⟩

theorem SameTask.trans {a b c : ScheduleReminderTask} (h : SameTask a b) (h' : SameTask b c) :
    SameTask a c :=
  ⟨h'.id.trans h.id, h'.scheduleId.trans h.scheduleId, h'.chainId.trans h.chainId,
    h'.attempt.trans h.attempt, h'.timingTaskId.trans h.timingTaskId,
    h'.triggerAt.trans h.triggerAt⟩

theorem SameAction.refl (a : ScheduleReminderTask) : SameAction a a := ⟨rfl, rfl, rfl, rfl⟩

theorem SameAction.trans {a b c : ScheduleReminderTask} (h : SameAction a b)
    (h' : SameAction b c) : SameAction a c :=
  ⟨h'.operationId.trans h.operationId, h'.kind.trans h.kind, h'.occurredAt.trans h.occurredAt,
    h'.nextTriggerAt.trans h.nextTriggerAt⟩

/-- Every task of the first store is still in the second one, with its action. -/
def Keeps (r r' : MemoryScheduleReminderTaskRepository) : Prop :=
  ∀ a ∈ r.tasks.rows, ∃ b ∈ r'.tasks.rows, SameTask a b ∧ SameAction a b

namespace Keeps

variable {r r' r'' : MemoryScheduleReminderTaskRepository}

theorem refl (r : MemoryScheduleReminderTaskRepository) : Keeps r r :=
  fun a ha => ⟨a, ha, SameTask.refl a, SameAction.refl a⟩

theorem trans (h : Keeps r r') (h' : Keeps r' r'') : Keeps r r'' := by
  intro a ha
  obtain ⟨b, hb, htask, haction⟩ := h a ha
  obtain ⟨c, hc, htask', haction'⟩ := h' b hb
  exact ⟨c, hc, htask.trans htask', haction.trans haction'⟩

/-- Writing a task back keeps the store if it is a task of the first store with its action. -/
theorem update (h : Keeps r r') {a task : ScheduleReminderTask} (ha : a ∈ r.tasks.rows)
    (htask : SameTask a task) (haction : SameAction a task) : Keeps r (r'.update task).2 := by
  rcases r'.update_cases task with ⟨status, -, hfail, -⟩ | ⟨found, r'', -, -, hok, htasks⟩
  · rwa [hfail]
  · rw [hok]
    intro x hx
    obtain ⟨b, hb, hsame⟩ := h x hx
    by_cases hid : b.id = task.id
    · have hxa : x = a := r.tasks.eq_of_getId_eq hx ha
        (hsame.1.id.symm.trans (hid.trans htask.id))
      subst hxa
      refine ⟨task, ?_, htask, haction⟩
      rw [htasks]
      exact IdTable.mem_replace.2 (Or.inr ⟨rfl, b, hb, hid⟩)
    · refine ⟨b, ?_, hsame⟩
      rw [htasks]
      exact IdTable.mem_replace.2 (Or.inl ⟨hb, hid⟩)

end Keeps

namespace ScheduleReminderService

variable {env : ReminderEnv} {s : ScheduleReminderService}
  {r : MemoryScheduleReminderTaskRepository}

/-! ## Frames -/

@[simp] theorem allocateChainId_reminders : s.allocateChainId.2.reminders = s.reminders := rfl

@[simp] theorem allocateTaskId_reminders (label : String) :
    (s.allocateTaskId label).2.reminders = s.reminders := rfl

@[simp] theorem cancelTiming_reminders (timingTaskId : String) :
    (cancelTiming env s timingTaskId).2.reminders = s.reminders := by
  unfold cancelTiming
  split_ifs <;> rfl

@[simp] theorem registerPersistedTask_reminders (task : ScheduleReminderTask) :
    (registerPersistedTask env s task).2.reminders = s.reminders := by
  unfold registerPersistedTask
  split
  · rfl
  · split_ifs <;> rfl

@[simp] theorem scheduleGenerationRetry_reminders (ruleId failures : ℤ) :
    (scheduleGenerationRetry env s ruleId failures).2.reminders = s.reminders := by
  unfold scheduleGenerationRetry
  dsimp only
  split_ifs <;> rfl

@[simp] theorem updateTask_reminders (task : ScheduleReminderTask) :
    (s.updateTask task).2.reminders = (s.reminders.update task).2 := rfl

/-! ## A new timer -/

/-- The call has added one timer: pending if Timing accepted it, failed otherwise. -/
structure AddsTimer (s : ScheduleReminderService) (scheduleId chainId attempt triggerAt : ℤ)
    (answer : Status × ScheduleReminderService) (row : ScheduleReminderTask) : Prop where
  mem : ∀ task, task ∈ answer.2.reminders.tasks.rows ↔ task ∈ s.reminders.tasks.rows ∨ task = row
  id_eq : row.id = s.reminders.tasks.nextId
  scheduleId_eq : row.scheduleId = scheduleId
  chainId_eq : row.chainId = chainId
  attempt_eq : row.attempt = attempt
  triggerAt_eq : row.triggerAt = triggerAt
  timing : ∃ timingTaskId, row.timingTaskId = some timingTaskId ∧
    (answer.1.ok = true →
      answer.2.timing = s.timing ++ [TimingCommand.register timingTaskId (toTriggerAt triggerAt)])
  business : row.businessStatus = .scheduled
  timer : row.timerStatus = if answer.1.ok then .pending else .failed
  action : row.actionOperationId = none
  fresh : ∀ task ∈ s.reminders.tasks.rows, ¬ Clash row task

theorem updateTask_frame (s : ScheduleReminderService) (task : ScheduleReminderTask) :
    (s.updateTask task).2 = { s with reminders := (s.reminders.update task).2 } := rfl

/-- Timing either accepts a registration or refuses it. -/
theorem registerPersistedTask_cases (env : ReminderEnv) (s : ScheduleReminderService)
    {task : ScheduleReminderTask} {timingTaskId : String}
    (htiming : task.timingTaskId = some timingTaskId) :
    (registerPersistedTask env s task = (.success, { s with
        timing := s.timing ++ [TimingCommand.register timingTaskId (toTriggerAt task.triggerAt)] })) ∨
      ∃ status : Status, status.ok = false ∧ registerPersistedTask env s task = (status, s) := by
  unfold registerPersistedTask
  rw [htiming]
  dsimp only
  split_ifs
  · exact Or.inr ⟨_, rfl, rfl⟩
  · exact Or.inl rfl
  · exact Or.inr ⟨_, rfl, rfl⟩

/-- A registration adds its timer, or stores nothing and fails. -/
theorem registerReminder_outcome (env : ReminderEnv) (s : ScheduleReminderService)
    (scheduleId chainId attempt triggerAt : ℤ) :
    ((registerReminder env s scheduleId chainId attempt triggerAt).1.ok = false ∧
      (registerReminder env s scheduleId chainId attempt triggerAt).2.reminders = s.reminders) ∨
    ∃ row, AddsTimer s scheduleId chainId attempt triggerAt
      (registerReminder env s scheduleId chainId attempt triggerAt) row := by
  unfold registerReminder
  cases hfind : s.repo.findById scheduleId with
  | error status => exact Or.inl ⟨(MemoryScheduleRepository.findById_error hfind).1, rfl⟩
  | ok schedule =>
      dsimp only [allocateTaskId_reminders]
      generalize htask : newReminderTask env schedule (s.allocateTaskId "schedule-reminder").1
        scheduleId chainId attempt triggerAt = task
      rcases s.reminders.insert_cases env.stamp task with
        ⟨status, hbad, hinsert⟩ | ⟨createdAt, updatedAt, reminders, hvalid, hfresh, hinsert, htasks⟩
      · rw [hinsert]
        exact Or.inl ⟨hbad, rfl⟩
      · rw [hinsert]
        refine Or.inr ?_
        have htiming : task.timingTaskId = some (s.allocateTaskId "schedule-reminder").1 := by
          rw [← htask]
          rfl
        have hmem : ∀ t, t ∈ reminders.tasks.rows ↔ t ∈ s.reminders.tasks.rows ∨
            t = { task with id := s.reminders.tasks.nextId, createdAt, updatedAt } := by
          intro t
          rw [htasks]
          exact IdTable.mem_insert
        generalize hrow : ({ task with id := s.reminders.tasks.nextId, createdAt, updatedAt } :
          ScheduleReminderTask) = row at hmem ⊢
        dsimp only
        have hrowTiming : row.timingTaskId = some (s.allocateTaskId "schedule-reminder").1 := by
          rw [← hrow]
          exact htiming
        have hclash : ∀ t ∈ s.reminders.tasks.rows, ¬ Clash row t := by
          rw [← hrow]
          exact hfresh
        rcases registerPersistedTask_cases env
          { (s.allocateTaskId "schedule-reminder").2 with reminders } hrowTiming with
          hok | ⟨status, hbad, hrefused⟩
        · rw [hok]
          refine ⟨row, ⟨hmem, ?_, ?_, ?_, ?_, ?_, ⟨_, hrowTiming, fun _ => ?_⟩, ?_, ?_, ?_, hclash⟩⟩ <;>
            rw [← hrow, ← htask] <;> rfl
        · rw [hrefused]
          dsimp only
          rw [if_pos (by rw [hbad]; rfl)]
          -- Timing has refused: the new row is written back as failed
          have hin : row ∈ reminders.tasks.rows := (hmem row).2 (Or.inr rfl)
          obtain ⟨reminders', hupdate, htasks'⟩ := MemoryScheduleReminderTaskRepository.update_eq_success
            hin (show ({ row with timerStatus := .failed, updatedAt := env.now } :
              ScheduleReminderTask).id = row.id from rfl) rfl rfl rfl rfl (reminders.valid row hin)
          refine ⟨{ row with timerStatus := .failed, updatedAt := env.now }, ⟨?_, ?_, ?_, ?_, ?_,
            ?_, ⟨_, hrowTiming, fun hstatus => ?_⟩, ?_, ?_, ?_, hclash⟩⟩
          · intro t
            rw [updateTask_frame]
            dsimp only
            rw [hupdate, htasks', IdTable.mem_replace, hmem]
            constructor
            · rintro (⟨ht | rfl, hne⟩ | ⟨rfl, -⟩)
              · exact Or.inl ht
              · exact absurd rfl hne
              · exact Or.inr rfl
            · rintro (ht | rfl)
              · refine Or.inl ⟨Or.inl ht, fun hid => ?_⟩
                have hlt := s.reminders.tasks.id_lt t ht
                rw [hid, ← hrow] at hlt
                exact lt_irrefl _ hlt
              · exact Or.inr ⟨rfl, row, hin, rfl⟩
          · rw [← hrow]
          · rw [← hrow, ← htask]
            rfl
          · rw [← hrow, ← htask]
            rfl
          · rw [← hrow, ← htask]
            rfl
          · rw [← hrow, ← htask]
            rfl
          · rw [hbad] at hstatus
            cases hstatus
          · rw [← hrow, ← htask]
            rfl
          · rw [hbad]
            rfl
          · rw [← hrow, ← htask]
            rfl

/-! ## A firing -/

/-- What a firing writes for its task. -/
def firedTask (env : ReminderEnv) (task : ScheduleReminderTask) : ScheduleReminderTask :=
  { task with
    timerStatus := .triggered
    businessStatus := if task.attempt ≥ kMaximumAttempts then .exhausted else .waitingAcknowledgement
    triggeredAt := some env.now
    updatedAt := env.now }

/-- The next timer of the chain, up to the last attempt. -/
def registerFollowUp (env : ReminderEnv) (s : ScheduleReminderService) (task : ScheduleReminderTask) :
    Status × ScheduleReminderService :=
  if task.attempt < kMaximumAttempts then
    registerReminder env s task.scheduleId task.chainId (task.attempt + 1) (env.now + kFollowUpDelay)
  else (.success, s)

/-- What a firing does once its task is written. -/
def ring (env : ReminderEnv) (s : ScheduleReminderService) (schedule : Schedule) (task : ScheduleReminderTask) :
    ScheduleReminderService :=
  let followUp := registerFollowUp env s task
  let s := { followUp.2 with
    spoken := followUp.2.spoken ++ [reminderText schedule.event task.attempt]
    notified := if followUp.1.ok then followUp.2.notified ++ [(schedule, task)] else followUp.2.notified }
  match schedule.ruleId with
  | none => s
  | some ruleId => if task.attempt = 1 then generateNextInstance env s ruleId 0 else s

/-- The timer of a pending task of an active schedule fires. -/
structure Fires (s : ScheduleReminderService) (reminderTaskId : ℤ) (timingTaskId : String)
    (task : ScheduleReminderTask) (schedule : Schedule) : Prop where
  running : s.running = true
  mem : task ∈ s.reminders.tasks.rows
  id : task.id = reminderTaskId
  pending : task.isPending = true
  timing : task.timingTaskId = some timingTaskId
  found : s.repo.findById task.scheduleId = .ok schedule
  active : schedule.status = .active

/-- A firing writes its task and rings. -/
theorem handleReminder_fires {reminderTaskId : ℤ} {timingTaskId : String} {task : ScheduleReminderTask}
    {schedule : Schedule} (h : Fires s reminderTaskId timingTaskId task schedule) :
    handleReminder env s reminderTaskId timingTaskId =
      if !(s.updateTask (firedTask env task)).1.ok then (s.updateTask (firedTask env task)).2
      else ring env (s.updateTask (firedTask env task)).2 schedule (firedTask env task) := by
  have hfound : s.reminders.findById reminderTaskId = .ok task :=
    MemoryScheduleReminderTaskRepository.findById_eq_ok.2 (IdTable.find?_eq_some.2 ⟨h.mem, h.id⟩)
  have htimer : ¬ (!task.isPending || task.timingTaskId != some timingTaskId) = true := by
    rw [h.pending, h.timing, bne_self_eq_false]
    exact Bool.false_ne_true
  unfold handleReminder
  rw [h.running, hfound]
  dsimp only
  rw [if_neg (show ¬ (!true) = true from Bool.false_ne_true), if_neg htimer, h.found]
  dsimp only
  rw [if_neg (not_not.2 h.active)]
  rfl

/-- Every other call changes nothing. -/
theorem handleReminder_cases (env : ReminderEnv) (s : ScheduleReminderService) (reminderTaskId : ℤ)
    (timingTaskId : String) :
    handleReminder env s reminderTaskId timingTaskId = s ∨
      ∃ task schedule, Fires s reminderTaskId timingTaskId task schedule ∧
        handleReminder env s reminderTaskId timingTaskId =
          if !(s.updateTask (firedTask env task)).1.ok then (s.updateTask (firedTask env task)).2
          else ring env (s.updateTask (firedTask env task)).2 schedule (firedTask env task) := by
  by_cases hfires : ∃ task schedule, Fires s reminderTaskId timingTaskId task schedule
  · obtain ⟨task, schedule, hfires⟩ := hfires
    exact Or.inr ⟨task, schedule, hfires, handleReminder_fires hfires⟩
  · refine Or.inl ?_
    unfold handleReminder
    split
    · rfl
    · next hrunning =>
        split
        · rfl
        · next task hfound =>
            split
            · rfl
            · next htimer =>
                simp only [Bool.or_eq_true, Bool.not_eq_true', bne_iff_ne, not_or, Bool.not_eq_false,
                  not_not] at htimer
                split
                · rfl
                · next schedule hschedule =>
                    split
                    · rfl
                    · next hactive =>
                        obtain ⟨hmem, hid⟩ :=
                          IdTable.find?_eq_some.1 (MemoryScheduleReminderTaskRepository.findById_eq_ok.1 hfound)
                        refine absurd ⟨task, schedule, ?_⟩ hfires
                        exact {
                          running := by simpa using hrunning
                          mem := hmem
                          id := hid
                          pending := htimer.1
                          timing := htimer.2
                          found := hschedule
                          active := not_not.1 hactive }

end ScheduleReminderService

end VoiceLife
