import VoiceLife.Reminder.ChainSteps

/-! # What `Start` restores

`Start` registers again what is pending, fires what is due, and gives a chain to every schedule that has no
task at all. A schedule whose only tasks are failed, cancelled or answered is none of these, and its reminder
never rings (`refusedMeeting_lost`). Where every schedule that lies ahead has no task or one that Start can go
on from, each of them is served (`start_restores_reminders`).
-/

namespace VoiceLife

namespace ScheduleReminderService

open ScheduleService ScheduleRuleService MemoryScheduleReminderTaskRepository

variable {env : ReminderEnv} {s s' s'' : ScheduleReminderService}

/-! ## What stays -/

/-- The tasks that `kept` allows, the commands sent to Timing and the schedules stay, and the service runs as
before; new schedules have identifiers that were not given out. -/
structure Leaves (kept : ScheduleReminderTask → Prop) (s s' : ScheduleReminderService) : Prop where
  tasks : ∀ row ∈ s.reminders.tasks.rows, kept row → row ∈ s'.reminders.tasks.rows
  timing : ∀ command ∈ s.timing, command ∈ s'.timing
  running : s'.running = s.running
  nextId : s.repo.schedules.nextId ≤ s'.repo.schedules.nextId
  stored : ∀ schedule ∈ s.repo.schedules.rows, schedule ∈ s'.repo.schedules.rows
  generated : ∀ schedule ∈ s'.repo.schedules.rows,
    schedule ∈ s.repo.schedules.rows ∨ s.repo.schedules.nextId ≤ schedule.id

namespace Leaves

variable {kept : ScheduleReminderTask → Prop}

theorem refl (s : ScheduleReminderService) : Leaves kept s s :=
  ⟨fun _ hrow _ => hrow, fun _ => id, rfl, le_rfl, fun _ => id, fun _ => Or.inl⟩

theorem trans (h : Leaves kept s s') (h' : Leaves kept s' s'') : Leaves kept s s'' where
  tasks row hrow hkept := h'.tasks row (h.tasks row hrow hkept) hkept
  timing command hcommand := h'.timing command (h.timing command hcommand)
  running := h'.running.trans h.running
  nextId := h.nextId.trans h'.nextId
  stored schedule hschedule := h'.stored schedule (h.stored schedule hschedule)
  generated schedule hschedule := by
    rcases h'.generated schedule hschedule with hold | hnew
    · exact h.generated schedule hold
    · exact Or.inr (h.nextId.trans hnew)

theorem imp {kept' : ScheduleReminderTask → Prop} (himp : ∀ row, kept' row → kept row) (h : Leaves kept s s') :
    Leaves kept' s s' :=
  { h with tasks := fun row hrow hkept => h.tasks row hrow (himp row hkept) }

/-- A step that leaves the schedules alone. -/
theorem of_repo (htasks : ∀ row ∈ s.reminders.tasks.rows, kept row → row ∈ s'.reminders.tasks.rows)
    (htiming : ∀ command ∈ s.timing, command ∈ s'.timing) (hrunning : s'.running = s.running)
    (hrepo : s'.repo = s.repo) : Leaves kept s s' := by
  refine ⟨htasks, htiming, hrunning, ?_, ?_, ?_⟩ <;> rw [hrepo]
  · exact fun _ => id
  · exact fun _ => Or.inl

end Leaves

theorem updateTask_leaves (s : ScheduleReminderService) (task : ScheduleReminderTask) :
    Leaves (fun row => row.id ≠ task.id) s (s.updateTask task).2 := by
  refine Leaves.of_repo (fun row hrow hne => ?_) (fun _ => id) rfl rfl
  show row ∈ (s.reminders.update task).2.tasks.rows
  rcases s.reminders.update_cases task with ⟨status, -, hfail, -⟩ | ⟨found, reminders, -, -, hok, htasks⟩
  · rwa [hfail]
  · rw [hok, htasks]
    exact IdTable.mem_replace.2 (Or.inl ⟨hrow, hne⟩)

theorem cancelTiming_leaves (s : ScheduleReminderService) (timingTaskId : String) :
    Leaves (fun _ => True) s (cancelTiming env s timingTaskId).2 := by
  refine Leaves.of_repo (fun row hrow _ => ?_) ?_ (cancelTiming_sameRules env s timingTaskId).running
    (cancelTiming_sameRules env s timingTaskId).repo
  · rwa [cancelTiming_reminders]
  · unfold cancelTiming
    split_ifs
    · exact fun _ => id
    · exact fun _ => List.mem_append_left _
    · exact fun _ => id

theorem registerPersistedTask_leaves (s : ScheduleReminderService) (task : ScheduleReminderTask) :
    Leaves (fun _ => True) s (registerPersistedTask env s task).2 := by
  refine Leaves.of_repo (fun row hrow _ => ?_) ?_ (registerPersistedTask_sameRules env s task).running
    (registerPersistedTask_sameRules env s task).repo
  · rwa [registerPersistedTask_reminders]
  · unfold registerPersistedTask
    split
    · exact fun _ => id
    · split_ifs
      · exact fun _ => id
      · exact fun _ => List.mem_append_left _
      · exact fun _ => id

theorem registerReminder_timing (s : ScheduleReminderService) (scheduleId chainId attempt triggerAt : ℤ) :
    ∀ command ∈ s.timing, command ∈ (registerReminder env s scheduleId chainId attempt triggerAt).2.timing := by
  unfold registerReminder
  split
  · exact fun _ => id
  · dsimp only
    split
    · exact fun _ => id
    · next inserted reminders _ =>
        have hregistered := @registerPersistedTask_leaves env
          { (s.allocateTaskId "schedule-reminder").2 with reminders } inserted
        split
        · exact hregistered.timing
        · exact hregistered.timing

theorem registerReminder_leaves (s : ScheduleReminderService) (scheduleId chainId attempt triggerAt : ℤ) :
    Leaves (fun _ => True) s (registerReminder env s scheduleId chainId attempt triggerAt).2 := by
  refine Leaves.of_repo (fun row hrow _ => ?_) (registerReminder_timing s scheduleId chainId attempt triggerAt)
    (registerReminder_sameRules env s scheduleId chainId attempt triggerAt).running
    (registerReminder_sameRules env s scheduleId chainId attempt triggerAt).repo
  rcases registerReminder_outcome env s scheduleId chainId attempt triggerAt with ⟨-, hsame⟩ | ⟨added, hadds⟩
  · rwa [hsame]
  · exact (hadds.mem row).2 (Or.inl hrow)

theorem cancelPendingTask_leaves (state : Status × ScheduleReminderService) (task : ScheduleReminderTask) :
    Leaves (fun row => row.id ≠ task.id) state.2 (cancelPendingTask env none state task).2 := by
  unfold cancelPendingTask
  split
  · exact Leaves.refl _
  · have hwrites : ∀ cancelled : Bool × ScheduleReminderService, Leaves (fun _ => True) state.2 cancelled.2 →
        Leaves (fun row => row.id ≠ task.id) state.2 (if !cancelled.1 then
          (firstFailure state.1 (.error .unavailable "提醒任务取消命令未被接收"), cancelled.2)
        else
          (firstFailure state.1 (cancelled.2.updateTask (cancelledTask env task)).1,
            (cancelled.2.updateTask (cancelledTask env task)).2)).2 := by
      intro cancelled hcancelled
      have hleft := hcancelled.imp fun row (_ : row.id ≠ task.id) => trivial
      split
      · exact hleft
      · exact hleft.trans (updateTask_leaves cancelled.2 (cancelledTask env task))
    split
    · exact hwrites _ (Leaves.refl _)
    · exact hwrites _ (cancelTiming_leaves _ _)

/-- The tasks of other schedules are left alone. -/
theorem cancelPendingTasks_leaves (s : ScheduleReminderService) (scheduleId : ℤ) :
    Leaves (fun row => row.scheduleId ≠ scheduleId) s (cancelPendingTasks env s scheduleId).2 := by
  have hloop : ∀ (tasks : List ScheduleReminderTask) (state : Status × ScheduleReminderService),
      Leaves (fun row => ∀ task ∈ tasks, row.id ≠ task.id) state.2
        (tasks.foldl (cancelPendingTask env none) state).2 := by
    intro tasks
    induction tasks with
    | nil => exact fun state => Leaves.refl _
    | cons task tasks ih =>
        intro state
        refine Leaves.trans ((cancelPendingTask_leaves state task).imp fun row hrow => ?_)
          ((ih _).imp fun row hrow => ?_)
        · exact hrow task (List.mem_cons_self ..)
        · exact fun other hother => hrow other (List.mem_cons_of_mem _ hother)
  have hleft := hloop (s.reminders.findBySchedule scheduleId) (.success, s)
  refine { hleft with tasks := fun row hrow hother => hleft.tasks row hrow fun task htask hid => ?_ }
  obtain ⟨hmem, hschedule⟩ := List.mem_filter.1 htask
  rw [s.reminders.tasks.eq_of_getId_eq hrow hmem hid] at hother
  exact hother (of_decide_eq_true hschedule)

theorem synchronizeSchedule_leaves (s : ScheduleReminderService) (scheduleId : ℤ) :
    Leaves (fun row => row.scheduleId ≠ scheduleId) s (synchronizeSchedule env s scheduleId).2 := by
  have hcancelled := @cancelPendingTasks_leaves env s scheduleId
  unfold synchronizeSchedule
  split
  · exact Leaves.refl _
  · split
    · exact Leaves.refl _
    · dsimp only
      split
      · exact hcancelled
      · split
        · exact hcancelled
        · split
          · exact hcancelled
          · have hallocated : Leaves (fun row => row.scheduleId ≠ scheduleId) s
                (cancelPendingTasks env s scheduleId).2.allocateChainId.2 :=
              hcancelled.trans (Leaves.of_repo (fun _ hrow _ => hrow) (fun _ => id) rfl rfl)
            exact hallocated.trans ((registerReminder_leaves _ _ _ _ _).imp fun _ _ => trivial)

/-! ## Generating and firing -/

theorem scheduleGenerationRetry_leaves (s : ScheduleReminderService) (ruleId failures : ℤ) :
    Leaves (fun _ => True) s (scheduleGenerationRetry env s ruleId failures).2 := by
  unfold scheduleGenerationRetry
  dsimp only
  split_ifs
  · exact Leaves.of_repo (fun _ hrow _ => hrow) (fun _ => List.mem_append_left _) rfl rfl
  · exact Leaves.of_repo (fun _ hrow _ => hrow) (fun _ => id) rfl rfl

/-- A generation adds a schedule under the next identifier, or leaves the schedules alone. -/
theorem generated_leaves (s : ScheduleReminderService) (command : GenerateNextScheduleInstanceCommand)
    (retries : List (ℤ × RetryState)) :
    Leaves (fun _ => True) s { s with
      repo := (generateNextScheduleInstance s.repo env.now env.stamp command).2, generationRetries := retries } ∧
      ∀ inserted, (generateNextScheduleInstance s.repo env.now env.stamp command).1.schedule = some inserted →
        inserted.id = s.repo.schedules.nextId := by
  rcases generateNextScheduleInstance_outcome s.repo env.now env.stamp command with
    ⟨⟨hnone, -⟩, hrepo⟩ | ⟨rule, occurrence, createdAt, updatedAt, exc, -, -, -, hsome, hrows, -⟩
  · refine ⟨Leaves.of_repo (fun _ hrow _ => hrow) (fun _ => id) rfl hrepo, fun inserted hinserted => ?_⟩
    rw [hnone] at hinserted
    cases hinserted
  · refine ⟨⟨fun _ hrow _ => hrow, fun _ => id, rfl, ?_, fun schedule hschedule => ?_, fun schedule hschedule => ?_⟩,
      fun inserted hinserted => ?_⟩
    · dsimp only
      rw [hrows]
      exact Int.le_add_one le_rfl
    · dsimp only
      rw [hrows]
      exact IdTable.mem_insert.2 (Or.inl hschedule)
    · dsimp only at hschedule
      rw [hrows] at hschedule
      rcases IdTable.mem_insert.1 hschedule with hold | rfl
      · exact Or.inl hold
      · exact Or.inr le_rfl
    · rw [hsome] at hinserted
      cases hinserted
      rfl

/-- The tasks of the schedules that had an identifier before are left alone. -/
theorem generateNextInstance_leaves (s : ScheduleReminderService) (ruleId priorFailureCount : ℤ) :
    Leaves (fun row => row.scheduleId < s.repo.schedules.nextId) s
      (generateNextInstance env s ruleId priorFailureCount) := by
  unfold generateNextInstance
  split
  · exact Leaves.refl _
  · dsimp only
    split
    · have hgenerated := (@generated_leaves env s { ruleId } s.generationRetries).1
      exact (hgenerated.trans (scheduleGenerationRetry_leaves _ ruleId _)).imp fun _ _ => trivial
    · obtain ⟨hgenerated, hid⟩ := @generated_leaves env s { ruleId }
        (s.generationRetries.filter fun entry => entry.1 != ruleId)
      split
      · exact hgenerated.imp fun _ _ => trivial
      · next inserted hinserted =>
          refine Leaves.trans (hgenerated.imp fun _ _ => trivial) ((synchronizeSchedule_leaves _ inserted.id).imp ?_)
          intro row hrow heq
          rw [heq, hid inserted hinserted] at hrow
          exact absurd hrow (lt_irrefl _)

theorem registerFollowUp_leaves (s : ScheduleReminderService) (task : ScheduleReminderTask) :
    Leaves (fun _ => True) s (registerFollowUp env s task).2 := by
  unfold registerFollowUp
  split
  · exact registerReminder_leaves _ _ _ _ _
  · exact Leaves.refl _

/-- Behind the follow-up a firing leaves the tasks of earlier schedules alone. -/
theorem ring_leaves (s : ScheduleReminderService) (schedule : Schedule) (task : ScheduleReminderTask) :
    Leaves (fun row => row.scheduleId < (registerFollowUp env s task).2.repo.schedules.nextId)
      (registerFollowUp env s task).2 (ring env s schedule task) := by
  obtain ⟨rung, hreminders, hrepo, htiming, hcounter, heq | ⟨ruleId, -, -, heq⟩⟩ := ring_eq env s schedule task
  all_goals
    have hrung : Leaves (fun row => row.scheduleId < (registerFollowUp env s task).2.repo.schedules.nextId)
        (registerFollowUp env s task).2 rung := by
      refine Leaves.of_repo (fun row hrow _ => ?_) (fun command hcommand => ?_) hcounter.running hrepo
      · rwa [hreminders]
      · rwa [htiming]
    rw [heq]
  · exact hrung
  · refine hrung.trans ?_
    rw [← hrepo]
    exact generateNextInstance_leaves rung ruleId 0

theorem handleReminder_leaves (s : ScheduleReminderService) (reminderTaskId : ℤ) (timingTaskId : String) :
    Leaves (fun row => row.id ≠ reminderTaskId ∧ row.scheduleId < s.repo.schedules.nextId) s
      (handleReminder env s reminderTaskId timingTaskId) := by
  rcases handleReminder_cases env s reminderTaskId timingTaskId with heq | ⟨task, schedule, hfires, heq⟩ <;>
    rw [heq]
  · exact Leaves.refl _
  · have hfired : Leaves (fun row => row.id ≠ reminderTaskId ∧ row.scheduleId < s.repo.schedules.nextId) s
        (s.updateTask (firedTask env task)).2 := by
      refine (updateTask_leaves s (firedTask env task)).imp fun row hrow => ?_
      exact fun hid => hrow.1 (hid.trans hfires.id)
    split
    · exact hfired
    · have hfollow := @registerFollowUp_leaves env (s.updateTask (firedTask env task)).2 (firedTask env task)
      refine (hfired.trans (hfollow.imp fun _ _ => trivial)).trans ?_
      refine (ring_leaves _ schedule _).imp fun row hrow => ?_
      exact hrow.2.trans_le hfollow.nextId

theorem restoreTask_leaves (state : Status × ScheduleReminderService) (task : ScheduleReminderTask) :
    Leaves (fun row => row.id ≠ task.id ∧ row.scheduleId < state.2.repo.schedules.nextId) state.2
      (restoreTask env state task).2 := by
  have hcancelled : Leaves (fun row => row.id ≠ task.id ∧ row.scheduleId < state.2.repo.schedules.nextId)
      state.2 (state.2.updateTask (cancelledTask env task)).2 :=
    (updateTask_leaves state.2 (cancelledTask env task)).imp fun _ hrow => hrow.1
  unfold restoreTask
  split
  · exact Leaves.refl _
  · dsimp only
    split
    · exact hcancelled
    · split
      · exact hcancelled
      · split
        · exact handleReminder_leaves _ _ _
        · exact (registerPersistedTask_leaves _ _).imp fun _ _ => trivial

/-- The rounds of `Start` leave the other tasks of earlier schedules alone. -/
theorem foldl_restoreTask_leaves (tasks : List ScheduleReminderTask) (state : Status × ScheduleReminderService) :
    Leaves (fun row => (∀ task ∈ tasks, row.id ≠ task.id) ∧ row.scheduleId < state.2.repo.schedules.nextId)
      state.2 (tasks.foldl (restoreTask env) state).2 := by
  induction tasks generalizing state with
  | nil => exact Leaves.refl _
  | cons task tasks ih =>
      have hfirst := @restoreTask_leaves env state task
      refine (hfirst.imp fun row hrow => ⟨hrow.1 task (List.mem_cons_self ..), hrow.2⟩).trans ?_
      refine (ih _).imp fun row hrow => ⟨fun other hother => ?_, hrow.2.trans_le hfirst.nextId⟩
      exact hrow.1 other (List.mem_cons_of_mem _ hother)

variable {state : Status × ScheduleReminderService}

theorem restoreTask_ok {task : ScheduleReminderTask}
    (h : (restoreTask env state task).1.ok = true) : state.1.ok = true := by
  unfold restoreTask at h
  split at h
  · exact h
  · dsimp only at h
    split at h
    · exact h
    · split at h
      · exact h
      · split at h
        · exact h
        · exact (firstFailure_ok.1 h).1

/-! ## Registered tasks -/

/-- The task is stored, pending and registered with Timing for its trigger time. -/
structure Registered (s : ScheduleReminderService) (row : ScheduleReminderTask) : Prop where
  mem : row ∈ s.reminders.tasks.rows
  pending : row.isPending = true
  timing : ∃ timingTaskId, row.timingTaskId = some timingTaskId ∧
    .register timingTaskId (toTriggerAt row.triggerAt) ∈ s.timing

theorem Registered.left {kept : ScheduleReminderTask → Prop} {row : ScheduleReminderTask}
    (h : Registered s row) (hleaves : Leaves kept s s') (hkept : kept row) : Registered s' row := by
  obtain ⟨timingTaskId, htiming, hcommand⟩ := h.timing
  exact ⟨hleaves.tasks row h.mem hkept, h.pending, timingTaskId, htiming, hleaves.timing _ hcommand⟩

theorem registerReminder_registered {scheduleId chainId attempt triggerAt : ℤ}
    (h : (registerReminder env s scheduleId chainId attempt triggerAt).1.ok = true) :
    ∃ row, Registered (registerReminder env s scheduleId chainId attempt triggerAt).2 row ∧
      row.scheduleId = scheduleId ∧ row.id = s.reminders.tasks.nextId := by
  rcases registerReminder_outcome env s scheduleId chainId attempt triggerAt with ⟨hbad, -⟩ | ⟨row, hadds⟩
  · exact absurd (hbad.symm.trans h) Bool.false_ne_true
  · obtain ⟨timingTaskId, htiming, hregistered⟩ := hadds.timing
    refine ⟨row, ⟨(hadds.mem row).2 (Or.inr rfl), ?_, timingTaskId, htiming, ?_⟩, hadds.scheduleId_eq, hadds.id_eq⟩
    · have htimer := hadds.timer
      rw [if_pos h] at htimer
      rw [ScheduleReminderTask.isPending, htimer]
      rfl
    · rw [hregistered h, hadds.triggerAt_eq]
      exact List.mem_append_right _ (List.mem_singleton.2 rfl)

theorem registerPersistedTask_registered {task : ScheduleReminderTask} (hmem : task ∈ s.reminders.tasks.rows)
    (hpending : task.isPending = true) (h : (registerPersistedTask env s task).1.ok = true) :
    Registered (registerPersistedTask env s task).2 task := by
  refine ⟨?_, hpending, ?_⟩
  · rwa [registerPersistedTask_reminders]
  · cases htiming : task.timingTaskId with
    | none =>
        unfold registerPersistedTask at h
        rw [htiming] at h
        cases h
    | some timingTaskId =>
        rcases registerPersistedTask_cases env s htiming with hok | ⟨status, hbad, hrefused⟩
        · refine ⟨timingTaskId, rfl, ?_⟩
          rw [hok]
          exact List.mem_append_right _ (List.mem_singleton.2 rfl)
        · rw [hrefused] at h
          exact absurd (hbad.symm.trans h) Bool.false_ne_true

/-! ## The condition -/

/-- When `Start` fires the task, its follow-up is stored and accepted by Timing. -/
structure FollowsUp (env : ReminderEnv) (s : ScheduleReminderService) (task : ScheduleReminderTask) : Prop where
  attempt : task.attempt < kMaximumAttempts
  timing : task.timingTaskId.isSome = true
  fired : (s.updateTask (firedTask env task)).1.ok = true
  registered : (registerFollowUp env (s.updateTask (firedTask env task)).2 (firedTask env task)).1.ok = true

/-- The schedule has no task yet, or one that is pending: for later, or due now with a follow-up. -/
def CanRestore (env : ReminderEnv) (s : ScheduleReminderService) (schedule : Schedule) : Prop :=
  (∀ task ∈ s.reminders.findAll, task.scheduleId ≠ schedule.id) ∨
    ∃ before task after, s.reminders.findAll = before ++ task :: after ∧ task.scheduleId = schedule.id ∧
      task.isPending = true ∧
      (env.now < task.triggerAt ∨ FollowsUp env (before.foldl (restoreTask env) (.success, starting env s)).2 task)

/-- A round of `Start` on a pending task leaves its schedule with a registered one. -/
theorem restoreTask_registered {task : ScheduleReminderTask}
    {schedule : Schedule} (hrunning : state.2.running = true) (hmem : task ∈ state.2.reminders.tasks.rows)
    (hpending : task.isPending = true) (hfound : state.2.repo.findById task.scheduleId = .ok schedule)
    (hactive : schedule.status = .active) (hids : task.scheduleId < state.2.repo.schedules.nextId)
    (hok : (restoreTask env state task).1.ok = true)
    (hgoes : env.now < task.triggerAt ∨ FollowsUp env state.2 task) :
    ∃ row, Registered (restoreTask env state task).2 row ∧ row.scheduleId = task.scheduleId ∧
      (row = task ∨ row.id = state.2.reminders.tasks.nextId) := by
  unfold restoreTask at hok ⊢
  rw [if_neg (by rw [hpending]; exact Bool.false_ne_true), hfound] at hok ⊢
  dsimp only at hok ⊢
  rw [if_neg (not_not.2 hactive)] at hok ⊢
  by_cases hdue : task.triggerAt ≤ env.now
  · have hfollows := hgoes.resolve_left (not_lt.2 hdue)
    rw [if_pos hdue]
    obtain ⟨timingTaskId, htiming⟩ := Option.isSome_iff_exists.1 hfollows.timing
    have hfires : Fires state.2 task.id (task.timingTaskId.getD "") task schedule := by
      refine ⟨hrunning, hmem, rfl, hpending, ?_, hfound, hactive⟩
      rw [htiming]
      rfl
    dsimp only
    rw [handleReminder_fires hfires, if_neg (by rw [hfollows.fired]; exact Bool.false_ne_true)]
    have hregister := hfollows.registered
    have hattempt : (firedTask env task).attempt < kMaximumAttempts := hfollows.attempt
    have hleaves := @ring_leaves env (state.2.updateTask (firedTask env task)).2 schedule (firedTask env task)
    have hnextId := (@registerFollowUp_leaves env (state.2.updateTask (firedTask env task)).2
      (firedTask env task)).nextId
    have hids' : (state.2.updateTask (firedTask env task)).2.reminders.tasks.nextId =
        state.2.reminders.tasks.nextId := by
      show (state.2.reminders.update (firedTask env task)).2.tasks.nextId = _
      rcases state.2.reminders.update_cases (firedTask env task) with
        ⟨status, -, hfail, -⟩ | ⟨found, reminders, -, -, hupdated, htasks⟩
      · rw [hfail]
      · rw [hupdated, htasks]
        rfl
    have hrow : ∃ row, Registered (registerFollowUp env (state.2.updateTask (firedTask env task)).2
        (firedTask env task)).2 row ∧ row.scheduleId = task.scheduleId ∧
          row.id = state.2.reminders.tasks.nextId := by
      unfold registerFollowUp at hregister ⊢
      rw [if_pos hattempt] at hregister ⊢
      rw [← hids']
      exact registerReminder_registered hregister
    obtain ⟨row, hregistered, hschedule, hid⟩ := hrow
    refine ⟨row, hregistered.left hleaves ?_, hschedule, Or.inr hid⟩
    rw [hschedule]
    exact hids.trans_le hnextId
  · rw [if_neg hdue] at hok ⊢
    exact ⟨task, registerPersistedTask_registered hmem hpending (firstFailure_ok.1 hok).2, rfl, Or.inl rfl⟩

/-! ## The loops of `Start` -/

/-- What `Start` can go on from is registered behind the loop over the tasks. -/
theorem restored_registered {schedule : Schedule} (hschedule : schedule ∈ s.repo.findAll)
    (hactive : schedule.status = .active)
    (hids : ∀ task ∈ s.reminders.findAll, task.scheduleId < s.repo.schedules.nextId)
    {before after : List ScheduleReminderTask} {task : ScheduleReminderTask}
    (hall : s.reminders.findAll = before ++ task :: after) (htask : task.scheduleId = schedule.id)
    (hpending : task.isPending = true)
    (hgoes : env.now < task.triggerAt ∨
      FollowsUp env (before.foldl (restoreTask env) (.success, starting env s)).2 task)
    (hok : (restored env s).1.ok = true) :
    ∃ row, Registered (restored env s).2 row ∧ row.scheduleId = schedule.id := by
  have hnodup : (s.reminders.findAll.map ScheduleReminderTask.id).Nodup := s.reminders.tasks.nodup
  have hmem : ∀ other ∈ s.reminders.findAll, other ∈ (starting env s).reminders.tasks.rows := fun _ => id
  unfold restored at hok ⊢
  rw [hall] at hnodup hmem hids hok ⊢
  rw [List.foldl_append, List.foldl_cons] at hok ⊢
  rw [List.map_append, List.map_cons, List.nodup_append, List.nodup_cons] at hnodup
  obtain ⟨-, ⟨hafter, -⟩, hdisjoint⟩ := hnodup
  have hbefore := @foldl_restoreTask_leaves env before (.success, starting env s)
  generalize before.foldl (restoreTask env) (.success, starting env s) = state at hgoes hok hbefore ⊢
  -- the tasks from here on are as they were, and so is the schedule
  have hhere : ∀ other ∈ task :: after, other ∈ state.2.reminders.tasks.rows := by
    intro other hother
    have hin : other ∈ before ++ task :: after := List.mem_append_right _ hother
    refine hbefore.tasks other (hmem other hin) ⟨fun earlier hearlier hid => ?_, hids other hin⟩
    exact hdisjoint _ (List.mem_map_of_mem hearlier) _ (List.mem_map_of_mem hother) hid.symm
  have htaskHere : task ∈ state.2.reminders.tasks.rows := hhere task (List.mem_cons_self ..)
  have hfound : state.2.repo.findById task.scheduleId = .ok schedule := by
    rw [MemoryScheduleRepository.findById_eq_ok, htask]
    exact IdTable.find?_eq_some.2 ⟨hbefore.stored schedule hschedule, rfl⟩
  have hids' : task.scheduleId < state.2.repo.schedules.nextId :=
    (hids task (List.mem_append_right _ (List.mem_cons_self ..))).trans_le hbefore.nextId
  obtain ⟨row, hregistered, hrow, hnew⟩ := restoreTask_registered hbefore.running htaskHere hpending hfound
    hactive hids' (foldl_ok (fun _ _ => restoreTask_ok) after _ hok) hgoes
  -- the other rounds do not touch it
  refine ⟨row, hregistered.left (foldl_restoreTask_leaves after _) ⟨fun other hother hid => ?_, ?_⟩,
    hrow.trans htask⟩
  · rcases hnew with rfl | hnew
    · exact hafter (hid ▸ List.mem_map_of_mem hother)
    · have hlt := state.2.reminders.tasks.id_lt other (hhere other (List.mem_cons_of_mem _ hother))
      rw [getId_reminderTask, ← hid, hnew] at hlt
      exact absurd hlt (lt_irrefl _)
  · rw [hrow]
    exact hids'.trans_le (restoreTask_leaves state task).nextId

/-- A stored task that is not pending stays as it is. -/
theorem foldl_restoreTask_idle {tasks : List ScheduleReminderTask}
    (hnodup : (tasks.map ScheduleReminderTask.id).Nodup) {row : ScheduleReminderTask}
    (hrow : row ∈ state.2.reminders.tasks.rows) (hin : row ∈ tasks) (hidle : row.isPending = false)
    (hids : row.scheduleId < state.2.repo.schedules.nextId) :
    row ∈ (tasks.foldl (restoreTask env) state).2.reminders.tasks.rows := by
  induction tasks generalizing state with
  | nil => exact absurd hin List.not_mem_nil
  | cons task tasks ih =>
      rw [List.map_cons, List.nodup_cons] at hnodup
      rw [List.foldl_cons]
      rcases List.mem_cons.1 hin with rfl | hin
      · have hround : restoreTask env state row = state := by
          unfold restoreTask
          rw [if_pos (by rw [hidle]; rfl)]
        rw [hround]
        refine (foldl_restoreTask_leaves tasks state).tasks row hrow ⟨fun other hother hid => ?_, hids⟩
        exact hnodup.1 (hid ▸ List.mem_map_of_mem hother)
      · have hfirst := @restoreTask_leaves env state task
        refine ih hnodup.2 (hfirst.tasks row hrow ⟨fun hid => ?_, hids⟩) hin (hids.trans_le hfirst.nextId)
        exact hnodup.1 (hid ▸ List.mem_map_of_mem hin)

theorem restoreSchedule_leaves (schedulesWithTasks : List ℤ) (state : Status × ScheduleReminderService)
    (schedule : Schedule) :
    Leaves (fun _ => True) state.2 (restoreSchedule env schedulesWithTasks state schedule).2 := by
  rcases restoreSchedule_cases env schedulesWithTasks state schedule with
    ⟨-, heq⟩ | ⟨-, startTime, registered, hregistered, heq⟩
  · rw [heq]
    exact Leaves.refl _
  · rw [heq, hregistered]
    refine Leaves.trans ?_ (registerReminder_leaves _ _ _ _ _)
    exact Leaves.of_repo (fun _ hrow _ => hrow) (fun _ => id) rfl rfl

theorem foldl_restoreSchedule_leaves (schedulesWithTasks : List ℤ) (schedules : List Schedule)
    (state : Status × ScheduleReminderService) :
    Leaves (fun _ => True) state.2 (schedules.foldl (restoreSchedule env schedulesWithTasks) state).2 := by
  induction schedules generalizing state with
  | nil => exact Leaves.refl _
  | cons schedule schedules ih => exact (restoreSchedule_leaves schedulesWithTasks state schedule).trans (ih _)

theorem foldl_restoreSchedule_repo (schedulesWithTasks : List ℤ) (schedules : List Schedule)
    (state : Status × ScheduleReminderService) :
    (schedules.foldl (restoreSchedule env schedulesWithTasks) state).2.repo = state.2.repo := by
  induction schedules generalizing state with
  | nil => rfl
  | cons schedule schedules ih =>
      refine (ih _).trans ?_
      rcases restoreSchedule_cases env schedulesWithTasks state schedule with
        ⟨-, heq⟩ | ⟨-, startTime, registered, hregistered, heq⟩
      · rw [heq]
      · rw [heq, hregistered]
        exact (registerReminder_sameRules env _ _ _ _ _).repo

theorem restoreSchedule_ok {schedulesWithTasks : List ℤ}
    {schedule : Schedule} (h : (restoreSchedule env schedulesWithTasks state schedule).1.ok = true) :
    state.1.ok = true := by
  rcases restoreSchedule_cases env schedulesWithTasks state schedule with
    ⟨-, heq⟩ | ⟨-, startTime, registered, -, heq⟩
  · rwa [heq] at h
  · rw [heq] at h
    exact (firstFailure_ok.1 h).1

/-- The loop over the schedules gives those without a task a registered one. -/
theorem foldl_restoreSchedule_registered {schedulesWithTasks : List ℤ} {schedules : List Schedule}
    (hok : (schedules.foldl (restoreSchedule env schedulesWithTasks) state).1.ok = true) {schedule : Schedule}
    (hschedule : schedule ∈ schedules) (hstarts : StartsChain env schedulesWithTasks schedule) :
    ∃ row, Registered (schedules.foldl (restoreSchedule env schedulesWithTasks) state).2 row ∧
      row.scheduleId = schedule.id := by
  induction schedules generalizing state with
  | nil => exact absurd hschedule List.not_mem_nil
  | cons first schedules ih =>
      rcases List.mem_cons.1 hschedule with rfl | hschedule
      · have hround := foldl_ok (fun _ _ => restoreSchedule_ok) schedules _ hok
        rcases restoreSchedule_cases env schedulesWithTasks state schedule with
          ⟨hskip, -⟩ | ⟨-, startTime, registered, hregistered, heq⟩
        · exact absurd hstarts hskip
        · rw [heq] at hround
          have haccepted := (firstFailure_ok.1 hround).2
          rw [hregistered] at haccepted
          obtain ⟨row, hrow, hid, -⟩ := registerReminder_registered haccepted
          have hhere : Registered (restoreSchedule env schedulesWithTasks state schedule).2 row := by
            rw [heq, hregistered]
            exact hrow
          exact ⟨row, hhere.left (foldl_restoreSchedule_leaves schedulesWithTasks schedules _) trivial, hid⟩
      · exact ih hok hschedule

/-! ## The theorem -/

/-- If `Start` succeeds on the stores of an earlier run, then every active schedule that lies ahead, and has
not triggered for its time, has a registered task. -/
def RestoresReminders (env : ReminderEnv) (s : ScheduleReminderService) : Prop :=
  (start env s.restarted).1.ok = true → ∀ schedule ∈ (start env s.restarted).2.repo.findAll, ∀ startTime,
    LiesAhead env schedule startTime →
    (∀ task ∈ (start env s.restarted).2.reminders.findAll, task.scheduleId = schedule.id →
      task.triggerAt = startTime → task.timerStatus ≠ .triggered) →
    ∃ row, Registered (start env s.restarted).2 row ∧ row.scheduleId = schedule.id

/-- No task belongs to a schedule still to be made, and `Start` can go on with every schedule that lies ahead
and has not triggered for its time. -/
structure CanRestoreAll (env : ReminderEnv) (s : ScheduleReminderService) : Prop where
  ids : ∀ task ∈ s.reminders.findAll, task.scheduleId < s.repo.schedules.nextId
  schedules : ∀ schedule ∈ s.repo.findAll, ∀ startTime, LiesAhead env schedule startTime →
    (∀ task ∈ s.reminders.findAll, task.scheduleId = schedule.id → task.triggerAt = startTime →
      task.timerStatus ≠ .triggered) → CanRestore env s schedule

theorem start_restores_reminders (env : ReminderEnv) (s : ScheduleReminderService)
    (h : CanRestoreAll env s.restarted) : RestoresReminders env s := by
  intro hok schedule hschedule startTime hahead hnot
  generalize hnew : s.restarted = new at h hok hschedule hnot ⊢
  have hstopped : new.running = false := by
    rw [← hnew]
    rfl
  rw [start_eq env hstopped] at hok hschedule hnot ⊢
  have hrestored := @foldl_restoreTask_leaves env new.reminders.findAll (.success, starting env new)
  have hschedules := @foldl_restoreSchedule_leaves env (new.reminders.findAll.map ScheduleReminderTask.scheduleId)
    (restored env new).2.repo.findAll (restored env new)
  have hhere : schedule ∈ (restored env new).2.repo.findAll := by
    have hrepo := @foldl_restoreSchedule_repo env (new.reminders.findAll.map ScheduleReminderTask.scheduleId)
      (restored env new).2.repo.findAll (restored env new)
    rwa [hrepo] at hschedule
  -- a schedule without a task gets one behind the other loop
  have hwithout : (∀ task ∈ new.reminders.findAll, task.scheduleId ≠ schedule.id) →
      StartsChain env (new.reminders.findAll.map ScheduleReminderTask.scheduleId) schedule := by
    intro hnone
    refine ⟨hahead.1, ⟨startTime, hahead.2.1, hahead.2.2⟩, fun hin => ?_⟩
    obtain ⟨task, htask, hid⟩ := List.mem_map.1 hin
    exact hnone task htask hid
  rcases hrestored.generated schedule hhere with hold | hgenerated
  · have hquiet : ∀ task ∈ new.reminders.findAll, task.scheduleId = schedule.id → task.triggerAt = startTime →
        task.timerStatus ≠ .triggered := by
      intro task htask hid htrigger htriggered
      have hidle : task.isPending = false := by
        rw [ScheduleReminderTask.isPending, htriggered]
        rfl
      have hkept := @foldl_restoreTask_idle env (.success, starting env new) new.reminders.findAll
        new.reminders.tasks.nodup task htask htask hidle (h.ids task htask)
      exact hnot task (hschedules.tasks task hkept trivial) hid htrigger htriggered
    rcases h.schedules schedule hold startTime hahead hquiet with
      hnone | ⟨before, task, after, hall, hid, hpending, hgoes⟩
    · exact foldl_restoreSchedule_registered hok hhere (hwithout hnone)
    · have hfirst : (restored env new).1.ok = true :=
        foldl_ok (fun _ _ => restoreSchedule_ok) (restored env new).2.repo.findAll _ hok
      obtain ⟨row, hrow, hschedule⟩ :=
        restored_registered (s := new) hold hahead.1 h.ids hall hid hpending hgoes hfirst
      exact ⟨row, hrow.left hschedules trivial, hschedule⟩
  · refine foldl_restoreSchedule_registered hok hhere (hwithout fun task htask hid => ?_)
    have hlt : task.scheduleId < new.repo.schedules.nextId := h.ids task htask
    rw [hid] at hlt
    exact absurd hlt (not_lt.2 hgenerated)

/-- A meeting at 5000, whose reminder is registered at 1000. -/
def storedMeeting (acceptsRegister : String → Bool) : List ReminderCall :=
  [.edit fun repo => (createSchedule repo 1000 { event := "meeting", startTime := some 5000 }).2,
    .start { now := 1000, stamp := 1000, acceptsRegister }]

/-- A restart before the meeting registers its reminder again. -/
theorem storedMeeting_restored :
    RestoresReminders { now := 1500, stamp := 1500, systemMicros := 100 }
      (Run.run ReminderCall.step {} (storedMeeting fun _ => true)) := by
  refine start_restores_reminders _ _ ⟨by decide +kernel, fun schedule hschedule startTime _ _ => Or.inr ?_⟩
  have hids : ∀ schedule ∈ (Run.run ReminderCall.step {} (storedMeeting fun _ => true)).repo.findAll,
      schedule.id = 1 := by
    decide +kernel
  have htasks : ∀ task ∈ (Run.run ReminderCall.step {} (storedMeeting fun _ => true)).reminders.findAll,
      task.scheduleId = 1 ∧ task.isPending = true ∧ 1500 < task.triggerAt := by
    decide +kernel
  obtain ⟨task, hall⟩ : ∃ task,
      (Run.run ReminderCall.step {} (storedMeeting fun _ => true)).reminders.findAll = [task] :=
    List.length_eq_one_iff.1 (by decide +kernel)
  have htask := htasks task (by rw [hall]; exact List.mem_singleton.2 rfl)
  exact ⟨[], task, [], hall, htask.1.trans (hids schedule hschedule).symm, htask.2.1, Or.inl htask.2.2⟩

/-- Timing refuses the first registration; the task stays failed, and every later `Start` succeeds without
a new one. -/
theorem refusedMeeting_lost :
    ¬ ∀ (calls : List ReminderCall) (env : ReminderEnv),
      RestoresReminders env (Run.run ReminderCall.step {} calls) := by
  intro h
  have hrestores := h (storedMeeting fun _ => false) { now := 1500, stamp := 1500, systemMicros := 100 }
    (by decide +kernel)
  have hmeeting : ∃ schedule ∈ (start { now := 1500, stamp := 1500, systemMicros := 100 }
      (Run.run ReminderCall.step {} (storedMeeting fun _ => false)).restarted).2.repo.findAll,
        schedule.status = .active ∧ schedule.startTime = some 5000 := by
    decide +kernel
  have hidle : ∀ task ∈ (start { now := 1500, stamp := 1500, systemMicros := 100 }
      (Run.run ReminderCall.step {} (storedMeeting fun _ => false)).restarted).2.reminders.findAll,
        task.timerStatus = .failed := by
    decide +kernel
  obtain ⟨schedule, hschedule, hactive, hstart⟩ := hmeeting
  obtain ⟨row, hrow, -⟩ := hrestores schedule hschedule 5000 ⟨hactive, hstart, by decide⟩ fun task htask _ _ => by
    rw [hidle task htask]
    decide
  have hpending := hrow.pending
  rw [ScheduleReminderTask.isPending, hidle row hrow.mem] at hpending
  cases hpending

end ScheduleReminderService

end VoiceLife
