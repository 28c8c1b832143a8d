import VoiceLife.Reminder.ActionOutcomes
import VoiceLife.Reminder.ReminderCalls

/-! # Acknowledgements that fail

A failed acknowledgement should leave everything as it was. `ExecuteReminderAction` looks at the
schedule of the task last, behind the cancelled timers and the closed siblings, so a schedule that
cannot be completed makes it fail with those writes in place.
-/

namespace VoiceLife

/-! ## The timers that Timing holds -/

/-- One command on the timers that are pending, with their trigger times. -/
def applyTiming (timers : List (String × ℤ)) : TimingCommand → List (String × ℤ)
  | .register id triggerAt => timers ++ [(id, triggerAt)]
  | .cancel id => timers.filter fun timer => timer.1 ≠ id

/-- The timers that the accepted commands have left pending. -/
def pendingTimers (commands : List TimingCommand) : List (String × ℤ) :=
  commands.foldl applyTiming []

theorem foldl_applyTiming_cancels {commands : List TimingCommand}
    (h : ∀ c ∈ commands, ∃ id, c = .cancel id) (timers : List (String × ℤ)) :
    commands.foldl applyTiming timers =
      timers.filter fun timer => .cancel timer.1 ∉ commands := by
  induction commands generalizing timers with
  | nil => simp
  | cons c commands ih =>
      obtain ⟨id, rfl⟩ := h c List.mem_cons_self
      rw [List.foldl_cons, ih fun c hc => h c (List.mem_cons_of_mem _ hc)]
      unfold applyTiming
      rw [List.filter_filter]
      apply List.filter_congr
      intro timer _
      simp only [List.mem_cons, TimingCommand.cancel.injEq, not_or]
      rw [Bool.decide_and, Bool.and_comm]

/-- Cancellations change the pending timers exactly if one of them is cancelled. -/
theorem pendingTimers_cancels_eq_iff {commands cancels : List TimingCommand}
    (h : ∀ c ∈ cancels, ∃ id, c = .cancel id) :
    pendingTimers (commands ++ cancels) = pendingTimers commands ↔
      ∀ timer ∈ pendingTimers commands, .cancel timer.1 ∉ cancels := by
  unfold pendingTimers
  rw [List.foldl_append, foldl_applyTiming_cancels h, List.filter_eq_self]
  simp only [decide_eq_true_eq]

theorem mem_chainCancels {chainId : ℤ} {tasks : List ScheduleReminderTask} {c : TimingCommand} :
    c ∈ chainCancels chainId tasks ↔ ∃ task ∈ tasks, task.chainId = chainId ∧
      task.isPending = true ∧ ∃ id, task.timingTaskId = some id ∧ id.isEmpty = false ∧
        c = .cancel id := by
  unfold chainCancels
  rw [List.mem_flatMap]
  apply exists_congr
  intro task
  apply and_congr_right
  intro _
  by_cases hskip : task.chainId ≠ chainId ∨ !task.isPending
  · rw [if_pos hskip]
    refine iff_of_false List.not_mem_nil ?_
    rintro ⟨hchain, hpending, -⟩
    rw [hpending] at hskip
    rcases hskip with h | h
    · exact h hchain
    · cases h
  · rw [if_neg hskip]
    push Not at hskip
    have hpending : task.isPending = true := by simpa using hskip.2
    cases task.timingTaskId with
    | none => simp
    | some id =>
        dsimp only
        by_cases hid : id.isEmpty = true
        · rw [if_pos hid]
          simpa using fun _ _ hne => absurd (String.isEmpty_iff.1 hid) hne
        · rw [if_neg hid]
          rw [String.isEmpty_iff] at hid
          simp [hid, hskip.1, hpending]

namespace ScheduleReminderService

open MemoryScheduleReminderTaskRepository

variable {env : ReminderEnv} {s : ScheduleReminderService} {command : ReminderActionCommand}

/-! ## What a failed acknowledgement leaves -/

/-- Timing takes every command that the acknowledgement sends. -/
def AcceptsCommands (env : ReminderEnv) (s : ScheduleReminderService)
    (command : ReminderActionCommand) : Prop :=
  ∀ target, Addresses s command target →
    AcceptsChain env (s.reminders.findBySchedule target.scheduleId) target

/-- If the command fails, no task, no schedule and no pending timer has changed. -/
def FailureChangesNothing (env : ReminderEnv) (s : ScheduleReminderService)
    (command : ReminderActionCommand) : Prop :=
  ∀ status, (executeReminderAction env s command).1 = .error status →
    (executeReminderAction env s command).2.reminders.tasks.rows = s.reminders.tasks.rows ∧
    (executeReminderAction env s command).2.repo = s.repo ∧
    pendingTimers (executeReminderAction env s command).2.timing = pendingTimers s.timing

/-- The other tasks of the chain need no write, and the task itself has no timer left. -/
def ChainIsClosed (env : ReminderEnv) (s : ScheduleReminderService)
    (target : ScheduleReminderTask) : Prop :=
  (∀ task ∈ s.reminders.tasks.rows, IsSibling target task →
    task.isPending = false ∧ task.isOpen = false ∧ task.updatedAt = env.now) ∧
  (target.isPending = true → ∀ timer ∈ pendingTimers s.timing,
    target.timingTaskId ≠ some timer.1)

/-- The task that the command addresses belongs to a schedule that is active or completed, or its
chain is closed already. -/
def CompletesOrIsClosed (env : ReminderEnv) (s : ScheduleReminderService)
    (command : ReminderActionCommand) : Prop :=
  ∀ target, Addresses s command target →
    Completable s.repo target.scheduleId ∨ ChainIsClosed env s target

/-- A sibling stays as it is exactly if it is closed and was last written now. -/
theorem closedSibling_eq_self_iff (env : ReminderEnv) (task : ScheduleReminderTask) :
    closedSibling env task = task ↔
      task.isPending = false ∧ task.isOpen = false ∧ task.updatedAt = env.now := by
  constructor
  · intro h
    refine ⟨?_, ?_, ?_⟩
    · by_contra hpending
      rw [Bool.not_eq_false] at hpending
      have htimer : (closedSibling env task).timerStatus = .cancelled := if_pos hpending
      rw [h] at htimer
      rw [ScheduleReminderTask.isPending, htimer] at hpending
      cases hpending
    · by_contra hopen
      rw [Bool.not_eq_false] at hopen
      have hbusiness : (closedSibling env task).businessStatus = .acknowledged := if_pos hopen
      rw [h] at hbusiness
      rw [ScheduleReminderTask.isOpen, ScheduleReminderTask.isWaiting, hbusiness] at hopen
      cases hopen
    · exact (congrArg ScheduleReminderTask.updatedAt h).symm
  · rintro ⟨hpending, hopen, hnow⟩
    unfold closedSibling
    rw [hpending, hopen, ← hnow]
    rfl

theorem closeSiblings_eq_self_iff (target : ScheduleReminderTask)
    (rows : List ScheduleReminderTask) :
    closeSiblings env target rows = rows ↔ ∀ task ∈ rows, IsSibling target task →
      task.isPending = false ∧ task.isOpen = false ∧ task.updatedAt = env.now := by
  unfold closeSiblings
  conv_lhs => rhs; rw [← List.map_id rows]
  rw [List.map_inj_left]
  apply forall₂_congr
  intro task _
  rw [← closedSibling_eq_self_iff env]
  by_cases hsibling : IsSibling target task
  · rw [if_pos hsibling]
    exact ⟨fun h _ => h, fun h => h hsibling⟩
  · rw [if_neg hsibling]
    exact ⟨fun _ h => absurd h hsibling, fun _ => rfl⟩

/-- With its siblings closed, a chain has at most the timer of the task itself to cancel. -/
theorem cancels_nothing_iff {target : ScheduleReminderTask} (haddresses : Addresses s command target)
    (hsiblings : ∀ task ∈ s.reminders.tasks.rows, IsSibling target task →
      task.isPending = false) :
    pendingTimers (s.timing ++
        chainCancels target.chainId (s.reminders.findBySchedule target.scheduleId)) =
        pendingTimers s.timing ↔
      (target.isPending = true → ∀ timer ∈ pendingTimers s.timing,
        target.timingTaskId ≠ some timer.1) := by
  rw [pendingTimers_cancels_eq_iff]
  · constructor
    · intro h hpending timer htimer htiming
      refine h timer htimer (mem_chainCancels.2 ⟨target, ?_, rfl, hpending, timer.1, htiming, ?_, rfl⟩)
      · exact List.mem_filter.2 ⟨haddresses.mem, decide_eq_true rfl⟩
      · have hid := haddresses.timing
        rw [htiming, Option.some.injEq] at hid
        rw [hid, ← Bool.not_eq_true, String.isEmpty_iff]
        exact haddresses.operationId_ne.2
    · intro h timer htimer hcancel
      obtain ⟨task, htask, hchain, hpending, id, htiming, -, heq⟩ := mem_chainCancels.1 hcancel
      cases heq
      obtain ⟨hrow, hschedule⟩ := List.mem_filter.1 htask
      by_cases hself : task.id = target.id
      · obtain rfl := s.reminders.tasks.eq_of_getId_eq hrow haddresses.mem hself
        exact h hpending timer htimer htiming
      · have hquiet := hsiblings task hrow ⟨of_decide_eq_true hschedule, hchain, hself⟩
        rw [hquiet] at hpending
        cases hpending
  · intro c hc
    obtain ⟨-, -, -, -, id, -, -, heq⟩ := mem_chainCancels.1 hc
    exact ⟨id, heq⟩

/-- The writes of an acknowledgement that finds no schedule to complete. -/
theorem executeReminderAction_refused {target : ScheduleReminderTask}
    (hack : command.action = .acknowledge) (haddresses : Addresses s command target)
    (haccepts : AcceptsChain env (s.reminders.findBySchedule target.scheduleId) target)
    (hnot : ¬ Completable s.repo target.scheduleId) :
    ∃ status reminders, reminders.tasks.rows = closeSiblings env target s.reminders.tasks.rows ∧
      executeReminderAction env s command = (.error status, { s with
        reminders
        timing := s.timing ++
          chainCancels target.chainId (s.reminders.findBySchedule target.scheduleId) }) := by
  obtain ⟨reminders, hrows, htarget⟩ := acknowledgeTarget_accepted command target s haccepts
  rw [executeReminderAction_addressed haddresses, if_pos hack, htarget]
  obtain ⟨status, hstatus⟩ := settleTarget_refused env { s with
    reminders
    timing := s.timing ++
      chainCancels target.chainId (s.reminders.findBySchedule target.scheduleId) } command hnot
  exact ⟨status, reminders, hrows, hstatus⟩

/-- Otherwise the acknowledgement succeeds. -/
theorem executeReminderAction_completes {target : ScheduleReminderTask}
    (hack : command.action = .acknowledge) (haddresses : Addresses s command target)
    (haccepts : AcceptsChain env (s.reminders.findBySchedule target.scheduleId) target)
    (hdone : Completable s.repo target.scheduleId) :
    (executeReminderAction env s command).1 = .ok (acknowledgedResult env command) := by
  obtain ⟨reminders, hrows, htarget⟩ := acknowledgeTarget_accepted command target s haccepts
  rw [executeReminderAction_addressed haddresses, if_pos hack, htarget]
  obtain ⟨repo, reminders', hsettle, -⟩ := settleTarget_done env { s with
    reminders
    timing := s.timing ++
      chainCancels target.chainId (s.reminders.findBySchedule target.scheduleId) } command
    hack haddresses.operationId_ne.1
    (by
      show target ∈ reminders.tasks.rows
      rw [hrows]
      exact List.mem_map.2 ⟨target, haddresses.mem, if_neg fun h => h.2.2 rfl⟩)
    (by
      intro task htask
      rw [show ({ s with reminders, timing := _ } : ScheduleReminderService).reminders =
        reminders from rfl, hrows] at htask
      obtain ⟨row, hrow, rfl⟩ := List.mem_map.1 htask
      split_ifs
      · exact haddresses.unused row hrow
      · exact haddresses.unused row hrow)
    hdone
  rw [hsettle]

/-- A failed acknowledgement changes nothing exactly if it completes its schedule, or finds a chain
that is closed already. -/
theorem failureChangesNothing_iff (hack : command.action = .acknowledge)
    (haccepts : AcceptsCommands env s command) :
    FailureChangesNothing env s command ↔ CompletesOrIsClosed env s command := by
  constructor
  · intro h target haddresses
    by_cases hdone : Completable s.repo target.scheduleId
    · exact Or.inl hdone
    · obtain ⟨status, reminders, hrows, hfails⟩ := executeReminderAction_refused hack haddresses
        (haccepts target haddresses) hdone
      unfold FailureChangesNothing at h
      rw [hfails] at h
      obtain ⟨hsame, -, htimers⟩ := h status rfl
      have hclosed := (closeSiblings_eq_self_iff target _).1 (hrows.symm.trans hsame)
      refine Or.inr ⟨hclosed, (cancels_nothing_iff haddresses ?_).1 htimers⟩
      intro task htask hsibling
      exact (hclosed task htask hsibling).1
  · intro h status hstatus
    by_cases haddressed : ∃ target, Addresses s command target
    · obtain ⟨target, haddresses⟩ := haddressed
      by_cases hdone : Completable s.repo target.scheduleId
      · -- the acknowledgement succeeds
        rw [executeReminderAction_completes hack haddresses (haccepts target haddresses) hdone]
          at hstatus
        cases hstatus
      · obtain ⟨hclosed, htimer⟩ := (h target haddresses).resolve_left hdone
        obtain ⟨status', reminders, hrows, hfails⟩ := executeReminderAction_refused hack haddresses
          (haccepts target haddresses) hdone
        rw [hfails]
        refine ⟨hrows.trans ((closeSiblings_eq_self_iff target _).2 hclosed), rfl, ?_⟩
        refine (cancels_nothing_iff haddresses ?_).2 htimer
        intro task htask hsibling
        exact (hclosed task htask hsibling).1
    · push Not at haddressed
      rw [executeReminderAction_unaddressed_snd env haddressed]
      exact ⟨rfl, rfl, rfl⟩

end ScheduleReminderService

namespace ReminderCall

open ScheduleReminderService

/-- The call is no acknowledgement that fails, without a refusal by Timing, and leaves something
changed. -/
def FailsCleanly (s : ScheduleReminderService) : ReminderCall → Prop
  | .executeReminderAction env command => command.action = .acknowledge →
    AcceptsCommands env s command → FailureChangesNothing env s command
  | _ => True

/-- The call is no acknowledgement of a schedule that cannot be completed and has an open chain. -/
def CompletesOrIsClosed (s : ScheduleReminderService) : ReminderCall → Prop
  | .executeReminderAction env command => command.action = .acknowledge →
    AcceptsCommands env s command → ScheduleReminderService.CompletesOrIsClosed env s command
  | _ => True

/-- In a run, every acknowledgement that fails changes nothing exactly if every one completes its
schedule or finds its chain closed. -/
theorem failsCleanly_iff (s : ScheduleReminderService) (calls : List ReminderCall) :
    Run.AllSteps step FailsCleanly s calls ↔ Run.AllSteps step CompletesOrIsClosed s calls := by
  have hcall : ∀ s call, FailsCleanly s call ↔ CompletesOrIsClosed s call := by
    intro s call
    cases call with
    | executeReminderAction env command =>
        apply forall_congr'
        intro hack
        apply forall_congr'
        intro haccepts
        exact failureChangesNothing_iff hack haccepts
    | _ => exact Iff.rfl
  constructor
  · exact fun h => h.imp fun s call => (hcall s call).1
  · exact fun h => h.imp fun s call => (hcall s call).2

/-- Lunch on a day, cancelled after its second reminder has rung; then the second one is
acknowledged. -/
def cancelledLunch : List ReminderCall :=
  [.edit fun repo => (ScheduleService.createSchedule repo 1000
      { event := "lunch", startTime := some 2000 }).2,
    .start { now := 1000, stamp := 1000 },
    .handleReminder { now := 2000, stamp := 2000 } 1 "schedule-reminder-1",
    .handleReminder { now := 2600, stamp := 2600 } 2 "schedule-reminder-2",
    .edit fun repo => (ScheduleService.cancelSchedule repo 2700 { scheduleId := 1 }).2,
    .cancelScheduleReminder { now := 2700, stamp := 2700 } 1,
    .executeReminderAction { now := 2800, stamp := 2800 }
      { operationId := "operation-1", reminderTriggerId := "schedule-reminder-2" }]

/-- The acknowledgement fails, and the first reminder is acknowledged nevertheless. -/
theorem cancelledLunch_acknowledged :
    ¬ ∀ calls : List ReminderCall, Run.AllSteps step FailsCleanly {} calls := by
  intro h
  have hfails := (Run.allSteps_iff_forall_prefix.1 (h cancelledLunch)) (cancelledLunch.take 6) _
    List.prefix_rfl
  obtain ⟨hrows, -, -⟩ := hfails rfl (fun _ _ _ _ => rfl)
    (.error .alreadyExists "提醒关联日程不可完成") (by decide +kernel)
  have hbusiness := congrArg (List.map ScheduleReminderTask.businessStatus) hrows
  exact absurd hbusiness (by decide +kernel)

end ReminderCall

end VoiceLife
