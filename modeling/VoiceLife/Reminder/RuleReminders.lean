import VoiceLife.Reminder.ReminderCalls

/-! # Suspending and synchronising the reminders of a rule

`SuspendRuleReminders` drops every pending reminder of the instances of a rule, and its generation
retry. `SynchronizeRule` registers one reminder for each active instance that lies ahead. What the
first one drops comes back only where the second one puts it.
-/

namespace VoiceLife

theorem firstFailure_ok {first next : Status} :
    (firstFailure first next).ok = true ↔ first.ok = true ∧ next.ok = true := by
  unfold firstFailure
  cases hnext : next.ok <;> cases hfirst : first.ok <;> simp [hnext, hfirst]

/-- A loop that remembers its first failure ends well only if it began well. -/
theorem foldl_ok {α σ : Type} {step : Status × σ → α → Status × σ}
    (hstep : ∀ state a, (step state a).1.ok = true → state.1.ok = true) (list : List α)
    (state : Status × σ) (h : (list.foldl step state).1.ok = true) : state.1.ok = true := by
  induction list generalizing state with
  | nil => exact h
  | cons a list ih => exact hstep state a (ih _ h)

namespace ScheduleReminderService

open MemoryScheduleReminderTaskRepository

variable {env : ReminderEnv} {s : ScheduleReminderService}

/-- The schedules with a pending reminder, and its time. -/
def pendingPairs (s : ScheduleReminderService) : Set (ℤ × ℤ) :=
  {p | ∃ task ∈ s.reminders.tasks.rows, task.isPending = true ∧
    (task.scheduleId, task.triggerAt) = p}

/-- What the loops over reminders leave alone. -/
structure SameRules (s s' : ScheduleReminderService) : Prop where
  repo : s'.repo = s.repo
  running : s'.running = s.running
  retries : s'.generationRetries = s.generationRetries

theorem SameRules.refl (s : ScheduleReminderService) : SameRules s s := ⟨rfl, rfl, rfl⟩

theorem SameRules.trans {s s' s'' : ScheduleReminderService} (h : SameRules s s')
    (h' : SameRules s' s'') : SameRules s s'' :=
  ⟨h'.repo.trans h.repo, h'.running.trans h.running, h'.retries.trans h.retries⟩

theorem cancelTiming_sameRules (env : ReminderEnv) (s : ScheduleReminderService)
    (timingTaskId : String) : SameRules s (cancelTiming env s timingTaskId).2 := by
  unfold cancelTiming
  split_ifs
  · exact SameRules.refl s
  · exact ⟨rfl, rfl, rfl⟩
  · exact SameRules.refl s

/-! ## Cancelling the reminders of one schedule -/

/-- What the loop writes for a pending task. -/
def cancelledTask (env : ReminderEnv) (task : ScheduleReminderTask) : ScheduleReminderTask :=
  { task with timerStatus := .cancelled, businessStatus := .cancelled, updatedAt := env.now }

/-- What the loop asks of Timing for a pending task, and whether it was accepted. -/
def cancelTaskTiming (env : ReminderEnv) (s : ScheduleReminderService) (task : ScheduleReminderTask) :
    Bool × ScheduleReminderService :=
  match task.timingTaskId with
  | none => (true, s)
  | some id => cancelTiming env s id

/-- A pending task is sent to Timing and, unless that fails, written back as cancelled. -/
theorem cancelPendingTask_cases (env : ReminderEnv) (state : Status × ScheduleReminderService)
    (task : ScheduleReminderTask) :
    (task.isPending = false ∧ cancelPendingTask env none state task = state) ∨
      task.isPending = true ∧ ∃ cancelled : Bool × ScheduleReminderService,
        cancelled.2.reminders = state.2.reminders ∧ SameRules state.2 cancelled.2 ∧
        cancelPendingTask env none state task =
          if !cancelled.1 then
            (firstFailure state.1 (.error .unavailable "提醒任务取消命令未被接收"), cancelled.2)
          else
            (firstFailure state.1 (cancelled.2.updateTask (cancelledTask env task)).1,
              (cancelled.2.updateTask (cancelledTask env task)).2) := by
  by_cases hpending : task.isPending = true
  · refine Or.inr ⟨hpending, cancelTaskTiming env state.2 task, ?_, ?_, ?_⟩
    · unfold cancelTaskTiming
      split
      · rfl
      · exact cancelTiming_reminders _
    · unfold cancelTaskTiming
      split
      · exact SameRules.refl _
      · exact cancelTiming_sameRules _ _ _
    · unfold cancelPendingTask
      rw [if_neg (by rw [hpending]; exact Bool.false_ne_true)]
      rfl
  · refine Or.inl ⟨by simpa using hpending, ?_⟩
    unfold cancelPendingTask
    rw [if_pos (by simp [hpending])]

theorem cancelPendingTask_sameRules (env : ReminderEnv) (state : Status × ScheduleReminderService)
    (task : ScheduleReminderTask) :
    SameRules state.2 (cancelPendingTask env none state task).2 := by
  rcases cancelPendingTask_cases env state task with ⟨-, heq⟩ | ⟨-, cancelled, -, hsame, heq⟩
  · rw [heq]
    exact SameRules.refl _
  · rw [heq]
    split_ifs
    · exact hsame
    · exact hsame.trans ⟨rfl, rfl, rfl⟩

theorem cancelPendingTasks_sameRules (env : ReminderEnv) (s : ScheduleReminderService)
    (scheduleId : ℤ) : SameRules s (cancelPendingTasks env s scheduleId).2 := by
  have hloop : ∀ (tasks : List ScheduleReminderTask) (state : Status × ScheduleReminderService),
      SameRules state.2 (tasks.foldl (cancelPendingTask env none) state).2 := by
    intro tasks
    induction tasks with
    | nil => exact fun state => SameRules.refl _
    | cons task tasks ih =>
        exact fun state => (cancelPendingTask_sameRules env state task).trans (ih _)
  exact hloop _ (.success, s)

variable {state : Status × ScheduleReminderService}

theorem cancelPendingTask_ok {task : ScheduleReminderTask}
    (h : (cancelPendingTask env none state task).1.ok = true) : state.1.ok = true := by
  rcases cancelPendingTask_cases env state task with ⟨-, heq⟩ | ⟨-, cancelled, -, -, heq⟩
  · rwa [heq] at h
  · rw [heq] at h
    split_ifs at h
    · exact (firstFailure_ok.1 h).1
    · exact (firstFailure_ok.1 h).1

/-- A task of the loop is pending no longer, if nothing fails. -/
theorem cancelPendingTask_pending {task : ScheduleReminderTask}
    (h : (cancelPendingTask env none state task).1.ok = true) (t : ScheduleReminderTask) :
    t ∈ (cancelPendingTask env none state task).2.reminders.tasks.rows ∧ t.isPending = true ↔
      (t ∈ state.2.reminders.tasks.rows ∧ t.isPending = true) ∧
        ¬ (task.isPending = true ∧ t.id = task.id) := by
  rcases cancelPendingTask_cases env state task with
    ⟨hpending, heq⟩ | ⟨hpending, cancelled, hreminders, -, heq⟩
  · rw [heq, hpending]
    exact ⟨fun hrow => ⟨hrow, fun hsame => Bool.false_ne_true hsame.1⟩, fun hrow => hrow.1⟩
  · rw [heq] at h ⊢
    split_ifs at h ⊢
    · exact absurd (firstFailure_ok.1 h).2 Bool.false_ne_true
    · have hupdate := (firstFailure_ok.1 h).2
      rcases cancelled.2.reminders.update_cases (cancelledTask env task) with
        ⟨status, hbad, hfail, -⟩ | ⟨found, reminders, -, -, hok, htasks⟩
      · unfold updateTask at hupdate
        rw [hfail] at hupdate
        exact absurd (hbad.symm.trans hupdate) Bool.false_ne_true
      · rw [updateTask_reminders, hok]
        dsimp only
        rw [htasks, IdTable.mem_replace, hreminders]
        constructor
        · rintro ⟨⟨hrow, hne⟩ | ⟨rfl, -⟩, hwaits⟩
          · exact ⟨⟨hrow, hwaits⟩, fun hsame => hne hsame.2⟩
          · cases hwaits
        · rintro ⟨⟨hrow, hwaits⟩, hne⟩
          exact ⟨Or.inl ⟨hrow, fun hid => hne ⟨hpending, hid⟩⟩, hwaits⟩

theorem foldl_cancelPendingTask_pending (tasks : List ScheduleReminderTask)
    (state : Status × ScheduleReminderService)
    (h : (tasks.foldl (cancelPendingTask env none) state).1.ok = true) (t : ScheduleReminderTask) :
    t ∈ (tasks.foldl (cancelPendingTask env none) state).2.reminders.tasks.rows ∧
        t.isPending = true ↔
      (t ∈ state.2.reminders.tasks.rows ∧ t.isPending = true) ∧
        ∀ task ∈ tasks, ¬ (task.isPending = true ∧ t.id = task.id) := by
  induction tasks generalizing state with
  | nil => simp
  | cons task tasks ih =>
      have hfirst := foldl_ok (fun _ _ => cancelPendingTask_ok) tasks _ h
      rw [List.foldl_cons, ih _ h, cancelPendingTask_pending hfirst, List.forall_mem_cons,
        and_assoc]

/-- The reminders of the schedule are gone, and no other has changed. -/
theorem pendingPairs_cancelPendingTasks {scheduleId : ℤ}
    (h : (cancelPendingTasks env s scheduleId).1.ok = true) :
    pendingPairs (cancelPendingTasks env s scheduleId).2 =
      {p ∈ pendingPairs s | p.1 ≠ scheduleId} := by
  have hpending := foldl_cancelPendingTask_pending _ _ h
  ext p
  constructor
  · rintro ⟨task, hrow, hwaits, rfl⟩
    obtain ⟨⟨hold, -⟩, hnone⟩ := (hpending task).1 ⟨hrow, hwaits⟩
    refine ⟨⟨task, hold, hwaits, rfl⟩, fun hschedule => ?_⟩
    exact hnone task (List.mem_filter.2 ⟨hold, decide_eq_true hschedule⟩) ⟨hwaits, rfl⟩
  · rintro ⟨⟨task, hrow, hwaits, rfl⟩, hother⟩
    have hkept : ∀ value ∈ s.reminders.findBySchedule scheduleId,
        ¬ (value.isPending = true ∧ task.id = value.id) := by
      rintro value hvalue ⟨-, hid⟩
      obtain ⟨hmem, hschedule⟩ := List.mem_filter.1 hvalue
      obtain rfl := s.reminders.tasks.eq_of_getId_eq hrow hmem hid
      exact hother (of_decide_eq_true hschedule)
    exact ⟨task, ((hpending task).2 ⟨⟨hrow, hwaits⟩, hkept⟩).1, hwaits, rfl⟩

/-! ## Suspending the rule -/

/-- The instances of a rule. -/
def IsInstance (repo : MemoryScheduleRepository) (ruleId scheduleId : ℤ) : Prop :=
  ∃ schedule ∈ repo.findAll, schedule.ruleId = some ruleId ∧ schedule.id = scheduleId

theorem suspendSchedule_cases (env : ReminderEnv) (ruleId : ℤ)
    (state : Status × ScheduleReminderService) (schedule : Schedule) :
    (schedule.ruleId ≠ some ruleId ∧ suspendSchedule env ruleId state schedule = state) ∨
      schedule.ruleId = some ruleId ∧ suspendSchedule env ruleId state schedule =
        (firstFailure state.1 (cancelPendingTasks env state.2 schedule.id).1,
          (cancelPendingTasks env state.2 schedule.id).2) := by
  by_cases hrule : schedule.ruleId = some ruleId
  · refine Or.inr ⟨hrule, ?_⟩
    unfold suspendSchedule
    rw [if_neg (not_not.2 hrule)]
  · refine Or.inl ⟨hrule, ?_⟩
    unfold suspendSchedule
    rw [if_pos hrule]

theorem suspendSchedule_ok {ruleId : ℤ}
    {schedule : Schedule} (h : (suspendSchedule env ruleId state schedule).1.ok = true) :
    state.1.ok = true := by
  rcases suspendSchedule_cases env ruleId state schedule with ⟨-, heq⟩ | ⟨-, heq⟩
  · rwa [heq] at h
  · rw [heq] at h
    exact (firstFailure_ok.1 h).1

theorem foldl_suspendSchedule (ruleId : ℤ) (schedules : List Schedule)
    (state : Status × ScheduleReminderService)
    (h : (schedules.foldl (suspendSchedule env ruleId) state).1.ok = true) :
    SameRules state.2 (schedules.foldl (suspendSchedule env ruleId) state).2 ∧
      pendingPairs (schedules.foldl (suspendSchedule env ruleId) state).2 =
        {p ∈ pendingPairs state.2 | ∀ schedule ∈ schedules,
          schedule.ruleId = some ruleId → schedule.id ≠ p.1} := by
  induction schedules generalizing state with
  | nil => exact ⟨SameRules.refl _, by simp⟩
  | cons schedule schedules ih =>
      have hfirst := foldl_ok (fun _ _ => suspendSchedule_ok) schedules _ h
      obtain ⟨hsame, hpairs⟩ := ih _ h
      rw [List.foldl_cons, hpairs]
      rcases suspendSchedule_cases env ruleId state schedule with ⟨hrule, heq⟩ | ⟨hrule, heq⟩
      · rw [heq] at hsame ⊢
        refine ⟨hsame, ?_⟩
        ext p
        simp [hrule]
      · rw [heq] at hfirst hsame ⊢
        refine ⟨(cancelPendingTasks_sameRules env state.2 schedule.id).trans hsame, ?_⟩
        rw [pendingPairs_cancelPendingTasks (firstFailure_ok.1 hfirst).2]
        ext p
        simp only [Set.mem_sep_iff, List.forall_mem_cons, hrule, forall_const, and_assoc,
          ne_comm (a := p.1)]

/-- The rule has no reminders and no retry left. -/
theorem suspendRuleReminders_spec {ruleId : ℤ} (h : (suspendRuleReminders env s ruleId).1.ok = true) :
    0 < ruleId ∧ (suspendRuleReminders env s ruleId).2.repo = s.repo ∧
      (suspendRuleReminders env s ruleId).2.running = s.running ∧
      (suspendRuleReminders env s ruleId).2.generationRetries.lookup ruleId = none ∧
      pendingPairs (suspendRuleReminders env s ruleId).2 =
        {p ∈ pendingPairs s | ¬ IsInstance s.repo ruleId p.1} := by
  unfold suspendRuleReminders at h ⊢
  by_cases hid : ruleId ≤ 0
  · rw [if_pos hid] at h
    exact absurd h Bool.false_ne_true
  · rw [if_neg hid] at h ⊢
    dsimp only at h ⊢
    -- the loop has ended well, whatever follows it
    have hloop : (s.repo.findAll.foldl (suspendSchedule env ruleId) (.success, s)).1.ok = true := by
      cases hretry : (s.repo.findAll.foldl (suspendSchedule env ruleId)
          (.success, s)).2.generationRetries.lookup ruleId with
      | none =>
          rw [hretry] at h
          exact h
      | some retry =>
          rw [hretry] at h
          dsimp only at h
          split_ifs at h
          · exact (firstFailure_ok.1 h).1
          · exact h
    obtain ⟨hsame, hpairs⟩ := foldl_suspendSchedule ruleId s.repo.findAll (.success, s) hloop
    generalize s.repo.findAll.foldl (suspendSchedule env ruleId) (.success, s) = suspended
      at h hloop hsame hpairs ⊢
    have hgone : pendingPairs suspended.2 =
        {p ∈ pendingPairs s | ¬ IsInstance s.repo ruleId p.1} := by
      rw [hpairs]
      ext p
      unfold IsInstance
      simp only [Set.mem_sep_iff, not_exists, not_and]
    cases hretry : suspended.2.generationRetries.lookup ruleId with
    | none => exact ⟨not_le.1 hid, hsame.repo, hsame.running, hretry, hgone⟩
    | some retry =>
        rw [hretry] at h
        dsimp only at h ⊢
        generalize hwithout : ({ suspended.2 with
          generationRetries := suspended.2.generationRetries.filter fun entry =>
            entry.1 != ruleId } : ScheduleReminderService) = without at h ⊢
        have hcancel := cancelTiming_sameRules env without retry.taskId
        have hreminders : (cancelTiming env without retry.taskId).2.reminders =
            suspended.2.reminders := by
          rw [cancelTiming_reminders, ← hwithout]
        have hframe : without.repo = suspended.2.repo ∧ without.running = suspended.2.running := by
          rw [← hwithout]
          exact ⟨rfl, rfl⟩
        split_ifs at h ⊢ with hrefused
        · exact absurd (firstFailure_ok.1 h).2 Bool.false_ne_true
        · refine ⟨not_le.1 hid, hcancel.repo.trans (hframe.1.trans hsame.repo),
            hcancel.running.trans (hframe.2.trans hsame.running), ?_, ?_⟩
          · rw [hcancel.retries, ← hwithout]
            apply List.lookup_eq_none_iff.2
            intro entry hentry
            have hother := (List.mem_filter.1 hentry).2
            rw [bne_comm]
            exact hother
          · rw [← hgone]
            unfold pendingPairs
            rw [hreminders]

/-! ## Synchronising the rule -/

theorem registerPersistedTask_sameRules (env : ReminderEnv) (s : ScheduleReminderService)
    (task : ScheduleReminderTask) : SameRules s (registerPersistedTask env s task).2 := by
  unfold registerPersistedTask
  split
  · exact SameRules.refl s
  · split_ifs
    · exact SameRules.refl s
    · exact ⟨rfl, rfl, rfl⟩
    · exact SameRules.refl s

theorem registerReminder_sameRules (env : ReminderEnv) (s : ScheduleReminderService)
    (scheduleId chainId attempt triggerAt : ℤ) :
    SameRules s (registerReminder env s scheduleId chainId attempt triggerAt).2 := by
  unfold registerReminder
  split
  · exact SameRules.refl s
  · dsimp only
    split
    · exact ⟨rfl, rfl, rfl⟩
    · next inserted reminders _ =>
        have hregistered := registerPersistedTask_sameRules env
          { (s.allocateTaskId "schedule-reminder").2 with reminders } inserted
        split_ifs
        · exact ⟨hregistered.repo, hregistered.running, hregistered.retries⟩
        · exact ⟨hregistered.repo, hregistered.running, hregistered.retries⟩

/-- An accepted registration adds one pending reminder. -/
theorem pendingPairs_registerReminder {scheduleId chainId attempt triggerAt : ℤ}
    (h : (registerReminder env s scheduleId chainId attempt triggerAt).1.ok = true) :
    pendingPairs (registerReminder env s scheduleId chainId attempt triggerAt).2 =
      pendingPairs s ∪ {(scheduleId, triggerAt)} := by
  rcases registerReminder_outcome env s scheduleId chainId attempt triggerAt with
    ⟨hbad, -⟩ | ⟨row, hadds⟩
  · rw [hbad] at h
    cases h
  · have hpending : row.isPending = true := by
      have htimer := hadds.timer
      rw [if_pos h] at htimer
      rw [ScheduleReminderTask.isPending, htimer]
      rfl
    ext p
    constructor
    · rintro ⟨task, htask, hwaits, rfl⟩
      rcases (hadds.mem task).1 htask with hold | rfl
      · exact Or.inl ⟨task, hold, hwaits, rfl⟩
      · exact Or.inr (by rw [hadds.scheduleId_eq, hadds.triggerAt_eq]; rfl)
    · rintro (⟨task, hold, hwaits, rfl⟩ | rfl)
      · exact ⟨task, (hadds.mem task).2 (Or.inl hold), hwaits, rfl⟩
      · exact ⟨row, (hadds.mem row).2 (Or.inr rfl), hpending,
          by rw [hadds.scheduleId_eq, hadds.triggerAt_eq]⟩

/-- An active schedule that lies ahead, at its time. -/
def LiesAhead (env : ReminderEnv) (schedule : Schedule) (triggerAt : ℤ) : Prop :=
  schedule.status = .active ∧ schedule.startTime = some triggerAt ∧ env.now < triggerAt

/-- A synchronised schedule has one reminder if it lies ahead, and none otherwise. -/
theorem synchronizeSchedule_spec {schedule : Schedule} (hrunning : s.running = true)
    (hfind : s.repo.findById schedule.id = .ok schedule)
    (h : (synchronizeSchedule env s schedule.id).1.ok = true) :
    SameRules s (synchronizeSchedule env s schedule.id).2 ∧
      pendingPairs (synchronizeSchedule env s schedule.id).2 =
        {p ∈ pendingPairs s | p.1 ≠ schedule.id} ∪
          {p | p.1 = schedule.id ∧ LiesAhead env schedule p.2} := by
  unfold synchronizeSchedule at h ⊢
  rw [hrunning, hfind] at h ⊢
  rw [if_neg (show ¬ (!true) = true from Bool.false_ne_true)] at h ⊢
  dsimp only at h ⊢
  have hsame := cancelPendingTasks_sameRules env s schedule.id
  by_cases hcancelled : (cancelPendingTasks env s schedule.id).1.ok = true
  · have hpairs := pendingPairs_cancelPendingTasks hcancelled
    -- without a reminder the cancelled state is the last one
    have hnothing : (∀ triggerAt, ¬ LiesAhead env schedule triggerAt) →
        SameRules s (cancelPendingTasks env s schedule.id).2 ∧
          pendingPairs (cancelPendingTasks env s schedule.id).2 =
            {p ∈ pendingPairs s | p.1 ≠ schedule.id} ∪
              {p | p.1 = schedule.id ∧ LiesAhead env schedule p.2} := by
      intro hnever
      refine ⟨hsame, hpairs.trans ?_⟩
      ext p
      simp [hnever]
    rw [hcancelled] at h ⊢
    simp only [Bool.not_true, Bool.false_eq_true, if_false] at h ⊢
    cases hstart : schedule.startTime with
    | none =>
        apply hnothing
        rintro triggerAt ⟨-, hsome, -⟩
        rw [hstart] at hsome
        cases hsome
    | some startTime =>
        rw [hstart] at h
        dsimp only at h ⊢
        by_cases hskip : schedule.status ≠ .active ∨ startTime ≤ env.now
        · rw [if_pos hskip]
          apply hnothing
          rintro triggerAt ⟨hactive, hsome, hlater⟩
          rw [hstart, Option.some.injEq] at hsome
          rcases hskip with hstatus | hpast
          · exact hstatus hactive
          · omega
        · rw [if_neg hskip] at h ⊢
          push Not at hskip
          refine ⟨hsame.trans ?_, (pendingPairs_registerReminder h).trans ?_⟩
          · have hregistered := registerReminder_sameRules env
              (cancelPendingTasks env s schedule.id).2.allocateChainId.2 schedule.id
              (cancelPendingTasks env s schedule.id).2.allocateChainId.1 1 startTime
            exact ⟨hregistered.repo, hregistered.running, hregistered.retries⟩
          · show pendingPairs (cancelPendingTasks env s schedule.id).2 ∪ _ = _
            rw [hpairs]
            congr 1
            ext p
            constructor
            · rintro rfl
              exact ⟨rfl, hskip.1, hstart, hskip.2⟩
            · rintro ⟨hid, -, hsome, -⟩
              rw [hstart, Option.some.injEq] at hsome
              exact Prod.ext hid hsome.symm
  · rw [if_pos (by simpa using hcancelled)] at h
    exact absurd h hcancelled

/-- Whether the loop of `SynchronizeRule` takes a schedule. -/
def IsActiveInstance (ruleId : ℤ) (schedule : Schedule) : Prop :=
  schedule.ruleId = some ruleId ∧ schedule.status = .active

theorem synchronizeInstance_cases (env : ReminderEnv) (ruleId : ℤ)
    (state : Status × ScheduleReminderService) (schedule : Schedule) :
    (¬ IsActiveInstance ruleId schedule ∧
        synchronizeInstance env ruleId state schedule = state) ∨
      IsActiveInstance ruleId schedule ∧ synchronizeInstance env ruleId state schedule =
        (firstFailure state.1 (synchronizeSchedule env state.2 schedule.id).1,
          (synchronizeSchedule env state.2 schedule.id).2) := by
  unfold synchronizeInstance IsActiveInstance
  by_cases hskip : schedule.ruleId ≠ some ruleId ∨ schedule.status ≠ .active
  · rw [if_pos hskip]
    refine Or.inl ⟨fun hactive => ?_, rfl⟩
    rcases hskip with h | h
    · exact h hactive.1
    · exact h hactive.2
  · rw [if_neg hskip]
    push Not at hskip
    exact Or.inr ⟨hskip, rfl⟩

theorem synchronizeInstance_ok {ruleId : ℤ}
    {schedule : Schedule} (h : (synchronizeInstance env ruleId state schedule).1.ok = true) :
    state.1.ok = true := by
  rcases synchronizeInstance_cases env ruleId state schedule with ⟨-, heq⟩ | ⟨-, heq⟩
  · rwa [heq] at h
  · rw [heq] at h
    exact (firstFailure_ok.1 h).1

theorem foldl_synchronizeInstance (ruleId : ℤ) (schedules : List Schedule)
    (state : Status × ScheduleReminderService) (hrunning : state.2.running = true)
    (hfind : ∀ schedule ∈ schedules, state.2.repo.findById schedule.id = .ok schedule)
    (hnodup : (schedules.map Schedule.id).Nodup)
    (h : (schedules.foldl (synchronizeInstance env ruleId) state).1.ok = true) :
    SameRules state.2 (schedules.foldl (synchronizeInstance env ruleId) state).2 ∧
      pendingPairs (schedules.foldl (synchronizeInstance env ruleId) state).2 =
        {p ∈ pendingPairs state.2 | ∀ schedule ∈ schedules,
          IsActiveInstance ruleId schedule → schedule.id ≠ p.1} ∪
        {p | ∃ schedule ∈ schedules, IsActiveInstance ruleId schedule ∧ p.1 = schedule.id ∧
          LiesAhead env schedule p.2} := by
  induction schedules generalizing state with
  | nil => exact ⟨SameRules.refl _, by simp⟩
  | cons schedule schedules ih =>
      rw [List.map_cons, List.nodup_cons] at hnodup
      have hrest := fun t ht => hfind t (List.mem_cons_of_mem _ ht)
      have hfirst := foldl_ok (fun _ _ => synchronizeInstance_ok) schedules _ h
      rw [List.foldl_cons] at h ⊢
      rcases synchronizeInstance_cases env ruleId state schedule with ⟨hrule, heq⟩ | ⟨hrule, heq⟩
      · rw [heq] at h ⊢
        obtain ⟨hsame, hpairs⟩ := ih state hrunning hrest hnodup.2 h
        refine ⟨hsame, hpairs.trans ?_⟩
        ext p
        simp [hrule]
      · rw [heq] at h hfirst ⊢
        obtain ⟨hframe, hone⟩ := synchronizeSchedule_spec hrunning
          (hfind schedule List.mem_cons_self) (firstFailure_ok.1 hfirst).2
        obtain ⟨hsame, hpairs⟩ := ih (firstFailure state.1
            (synchronizeSchedule env state.2 schedule.id).1,
            (synchronizeSchedule env state.2 schedule.id).2) (hframe.running.trans hrunning)
          (fun t ht => by dsimp only; rw [hframe.repo]; exact hrest t ht) hnodup.2 h
        refine ⟨hframe.trans hsame, hpairs.trans ?_⟩
        dsimp only
        rw [hone]
        ext p
        -- a later schedule has another id, so it leaves this reminder alone
        have hother : p.1 = schedule.id → ∀ t ∈ schedules, t.id ≠ p.1 := by
          rintro hid t ht hsameId
          exact hnodup.1 (hid ▸ hsameId ▸ List.mem_map_of_mem ht)
        constructor
        · rintro (⟨⟨hold, hne⟩ | hnew, hlater⟩ | ⟨t, ht, hnew⟩)
          · exact Or.inl ⟨hold, List.forall_mem_cons.2 ⟨fun _ => hne.symm, hlater⟩⟩
          · exact Or.inr ⟨schedule, List.mem_cons_self, hrule, hnew⟩
          · exact Or.inr ⟨t, List.mem_cons_of_mem _ ht, hnew⟩
        · rintro (⟨hold, hlater⟩ | ⟨t, ht, htrule, hnew⟩)
          · obtain ⟨hne, hlater⟩ := List.forall_mem_cons.1 hlater
            exact Or.inl ⟨Or.inl ⟨hold, (hne hrule).symm⟩, hlater⟩
          · rcases List.mem_cons.1 ht with rfl | ht
            · exact Or.inl ⟨Or.inr hnew, fun u hu _ => hother hnew.1 u hu⟩
            · exact Or.inr ⟨t, ht, htrule, hnew⟩

/-- The instances of the rule have the reminders of the active ones that lie ahead. -/
theorem synchronizeRule_spec {ruleId : ℤ} (hrunning : s.running = true)
    (h : (synchronizeRule env s ruleId).1.ok = true) :
    SameRules s (synchronizeRule env s ruleId).2 ∧
      pendingPairs (synchronizeRule env s ruleId).2 =
        {p ∈ pendingPairs s | ∀ schedule ∈ s.repo.findAll,
          IsActiveInstance ruleId schedule → schedule.id ≠ p.1} ∪
        {p | ∃ schedule ∈ s.repo.findAll, IsActiveInstance ruleId schedule ∧
          p.1 = schedule.id ∧ LiesAhead env schedule p.2} := by
  unfold synchronizeRule at h ⊢
  split_ifs at h ⊢
  · exact absurd h Bool.false_ne_true
  · refine foldl_synchronizeInstance ruleId s.repo.findAll (.success, s) hrunning ?_
      s.repo.schedules.nodup h
    intro schedule hschedule
    exact MemoryScheduleRepository.findById_eq_ok.2 (IdTable.find?_eq_some.2 ⟨hschedule, rfl⟩)

/-- A service that is not running synchronises nothing. -/
theorem synchronizeRule_stopped (env : ReminderEnv) (ruleId : ℤ) (hstopped : s.running = false) :
    (synchronizeRule env s ruleId).2 = s := by
  have hloop : ∀ (schedules : List Schedule) (state : Status × ScheduleReminderService),
      state.2 = s → (schedules.foldl (synchronizeInstance env ruleId) state).2 = s := by
    intro schedules
    induction schedules with
    | nil => exact fun state hstate => hstate
    | cons schedule schedules ih =>
        intro state hstate
        apply ih
        rcases synchronizeInstance_cases env ruleId state schedule with ⟨-, heq⟩ | ⟨-, heq⟩
        · rwa [heq]
        · rw [heq, hstate]
          unfold synchronizeSchedule
          rw [hstopped]
          rfl
  unfold synchronizeRule
  split_ifs
  · rfl
  · exact hloop _ _ rfl

end ScheduleReminderService

end VoiceLife
