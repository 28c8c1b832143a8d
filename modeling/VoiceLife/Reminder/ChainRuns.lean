import VoiceLife.Reminder.AcknowledgeFailures
import VoiceLife.Reminder.ChainSteps

/-! # Chains over whole runs

Acknowledging the recent reminders closes their chains. Acknowledging one reminder closes the other tasks of
its chain before it looks at the schedule: if that can no longer be completed, the reminder itself goes on
waiting in a chain with acknowledged tasks. But for this, and for the second chain that `Start` may give to an
instance it has generated, the chains stay sound in every run (`chains_stay_sound`).
-/

namespace VoiceLife

namespace ScheduleReminderService

open ScheduleService ScheduleRuleService MemoryScheduleReminderTaskRepository

variable {env : ReminderEnv} {s : ScheduleReminderService}

/-! ## Answers -/

theorem cancelAnswered_sameCounter (s : ScheduleReminderService) (task : ScheduleReminderTask) :
    SameCounter s (cancelAnswered env s task).2 := by
  unfold cancelAnswered
  split
  · exact cancelTiming_sameCounter _ _
  · exact SameCounter.refl _

theorem acknowledgeTasks_sameCounter (chains : List ℤ) (tasks : List ScheduleReminderTask)
    (s : ScheduleReminderService) : SameCounter s (acknowledgeTasks env chains tasks s).2 := by
  induction tasks generalizing s with
  | nil => exact SameCounter.refl _
  | cons task tasks ih =>
      have hcancelled := @cancelAnswered_sameCounter env s task
      have hwritten : SameCounter s ((cancelAnswered env s task).2.updateTask (answeredTask env task)).2 :=
        ⟨hcancelled.running, hcancelled.sequence⟩
      rw [acknowledgeTasks_cons]
      split
      · exact ih s
      · split
        · exact hcancelled
        · split
          · exact hwritten
          · exact hwritten.trans (ih _)

theorem completeSchedules_sameCounter (ids : List ℤ) (s : ScheduleReminderService) :
    SameCounter s (completeSchedules env ids s).2 := by
  induction ids generalizing s with
  | nil => exact SameCounter.refl _
  | cons id ids ih =>
      unfold completeSchedules
      split
      · exact ih s
      · split
        · exact ih s
        · dsimp only
          split
          · exact ⟨rfl, rfl⟩
          · refine SameCounter.trans ?_ (ih _)
            exact ⟨rfl, rfl⟩

/-- A task that is neither pending nor open. -/
def Closed (b : ScheduleReminderTask) : Prop :=
  b.isPending = false ∧ b.businessStatus ≠ .waitingAcknowledgement

theorem answered_not_waiting (task : ScheduleReminderTask) :
    (if task.isOpen then ScheduleReminderBusinessStatus.acknowledged else task.businessStatus) ≠
      .waitingAcknowledgement := by
  split
  · decide
  · next hopen =>
      intro hwaiting
      apply hopen
      unfold ScheduleReminderTask.isOpen ScheduleReminderTask.isWaiting
      rw [hwaiting]
      rfl

theorem answeredTask_closed {task : ScheduleReminderTask}
    (htiming : task.isPending = true → task.timingTaskId.isSome = true) : Closed (answeredTask env task) := by
  refine ⟨?_, answered_not_waiting task⟩
  show ((if task.isPending && task.timingTaskId.isSome then ScheduleReminderTimerStatus.cancelled
    else task.timerStatus) == .pending) = false
  by_cases hpending : task.isPending = true
  · rw [hpending, htiming hpending]
    rfl
  · rw [if_neg (by simp [hpending])]
    simpa [ScheduleReminderTask.isPending] using hpending

theorem closedSibling_closed (env : ReminderEnv) (task : ScheduleReminderTask) :
    Closed (closedSibling env task) := by
  refine ⟨?_, answered_not_waiting task⟩
  show ((if task.isPending then ScheduleReminderTimerStatus.cancelled else task.timerStatus) == .pending) = false
  by_cases hpending : task.isPending = true
  · rw [if_pos hpending]
    rfl
  · rw [if_neg hpending]
    simpa [ScheduleReminderTask.isPending] using hpending

theorem Closed.spares {a b : ScheduleReminderTask} {chains : List ℤ} (h : Closed b) (hin : a.chainId ∈ chains) :
    Spares chains a b :=
  ⟨fun hpending => absurd (h.1.symm.trans hpending) Bool.false_ne_true, fun hout => absurd hin hout⟩

theorem Spares.refl (chains : List ℤ) (a : ScheduleReminderTask) : Spares chains a a :=
  ⟨fun _ => rfl, fun _ => rfl⟩

/-- The loop of `AcknowledgeRecentReminders` writes tasks of the given chains only. -/
theorem acknowledgeTasks_spares {r : MemoryScheduleReminderTaskRepository} (hr : SoundChains r) {chains : List ℤ}
    {tasks : List ScheduleReminderTask} {s : ScheduleReminderService}
    (h : RewritesTasks (Spares chains) r s.reminders) (htasks : ∀ task ∈ tasks, task ∈ r.tasks.rows) :
    RewritesTasks (Spares chains) r (acknowledgeTasks env chains tasks s).2.reminders := by
  induction tasks generalizing s with
  | nil => exact h
  | cons task tasks ih =>
      have htask : task ∈ r.tasks.rows := htasks task (List.mem_cons_self ..)
      have htail : ∀ other ∈ tasks, other ∈ r.tasks.rows :=
        fun other hother => htasks other (List.mem_cons_of_mem _ hother)
      rw [acknowledgeTasks_cons]
      split
      · exact ih h htail
      · next hin =>
          have hclosed : Closed (answeredTask env task) :=
            answeredTask_closed fun hpending => (hr.pending task htask hpending).2
          have hwritten : RewritesTasks (Spares chains) r
              ((cancelAnswered env s task).2.updateTask (answeredTask env task)).2.reminders := by
            rw [updateTask_reminders, cancelAnswered_reminders]
            exact h.update htask ⟨rfl, rfl, rfl, rfl, rfl, rfl⟩ (hclosed.spares (not_not.1 hin))
          split
          · rwa [cancelAnswered_reminders]
          · split
            · exact hwritten
            · exact ih hwritten htail

/-- If Timing takes every cancellation, the loop closes every task of the chains that it meets. -/
theorem acknowledgeTasks_closes (haccepts : ∀ id, env.acceptsCancel id = true) {chains : List ℤ}
    {tasks : List ScheduleReminderTask} {s : ScheduleReminderService}
    (htasks : ∀ task ∈ tasks, task ∈ s.reminders.tasks.rows)
    (hnodup : (tasks.map ScheduleReminderTask.id).Nodup)
    (htiming : ∀ task ∈ tasks, task.isPending = true → task.timingTaskId.isSome = true) :
    ∀ b ∈ (acknowledgeTasks env chains tasks s).2.reminders.tasks.rows, b.chainId ∈ chains →
      Closed b ∨ b ∈ s.reminders.tasks.rows ∧ b.id ∉ tasks.map ScheduleReminderTask.id := by
  induction tasks generalizing s with
  | nil => exact fun b hb _ => Or.inr ⟨hb, List.not_mem_nil⟩
  | cons task tasks ih =>
      rw [List.map_cons, List.nodup_cons] at hnodup
      have htask : task ∈ s.reminders.tasks.rows := htasks task (List.mem_cons_self ..)
      have htiming' := fun other hother => htiming other (List.mem_cons_of_mem _ hother)
      rw [acknowledgeTasks_cons]
      split
      · next hout =>
          intro b hb hin
          refine (ih (fun other hother => htasks other (List.mem_cons_of_mem _ hother)) hnodup.2 htiming' b hb
            hin).imp_right fun hold => ⟨hold.1, fun hid => ?_⟩
          rcases List.mem_cons.1 hid with hid | hid
          · rw [s.reminders.tasks.eq_of_getId_eq hold.1 htask hid] at hin
            exact hout hin
          · exact hold.2 hid
      · have haccepted : (cancelAnswered env s task).1 = true := by
          unfold cancelAnswered cancelTiming
          split_ifs with hcancels hempty hrefuses
          · rfl
          · rfl
          · exact absurd (haccepts _) hrefuses
          · rfl
        obtain ⟨reminders, hupdate, hrows⟩ := update_eq_success htask
          (show (answeredTask env task).id = task.id from rfl) rfl rfl rfl rfl
          ((s.reminders.valid task htask).closedSibling env)
        have hwritten : (cancelAnswered env s task).2.updateTask (answeredTask env task) =
            (.success, { (cancelAnswered env s task).2 with reminders }) := by
          unfold updateTask
          rw [cancelAnswered_reminders, hupdate]
        rw [haccepted, hwritten]
        simp only [Bool.not_true, Bool.false_eq_true, if_false, Status.ok_success]
        have hother : ∀ other ∈ s.reminders.tasks.rows, other.id ≠ task.id → other ∈ reminders.tasks.rows := by
          intro other hother hne
          rw [hrows]
          exact IdTable.mem_replace.2 (Or.inl ⟨hother, hne⟩)
        intro b hb hin
        have hstay : ∀ other ∈ tasks, other ∈ reminders.tasks.rows := by
          intro other hmem
          refine hother other (htasks other (List.mem_cons_of_mem _ hmem)) fun hid => ?_
          exact hnodup.1 (hid ▸ List.mem_map_of_mem hmem)
        rcases ih (s := { (cancelAnswered env s task).2 with reminders }) hstay hnodup.2 htiming' b hb hin with
          hclosed | ⟨hmem, hid⟩
        · exact Or.inl hclosed
        · dsimp only at hmem
          rw [hrows] at hmem
          rcases IdTable.mem_replace.1 hmem with ⟨hold, hne⟩ | ⟨rfl, -⟩
          · refine Or.inr ⟨hold, fun hid' => ?_⟩
            rcases List.mem_cons.1 hid' with hid' | hid'
            · exact hne hid'
            · exact hid hid'
          · exact Or.inl (answeredTask_closed (htiming task (List.mem_cons_self ..)))

theorem acknowledgeTasks_sound (h : SoundService s) (haccepts : ∀ id, env.acceptsCancel id = true)
    (chains : List ℤ) : SoundService (acknowledgeTasks env chains s.reminders.findAll s).2 := by
  have hspares : RewritesTasks (Spares chains) s.reminders
      (acknowledgeTasks env chains s.reminders.findAll s).2.reminders :=
    acknowledgeTasks_spares h.chains (RewritesTasks.refl (Spares.refl chains) _) fun _ => id
  refine h.rewrite (h.chains.close hspares fun b hb hin => ?_) hspares (acknowledgeTasks_sameCounter _ _ _)
  rcases acknowledgeTasks_closes haccepts (fun _ => id) s.reminders.tasks.nodup
    (fun task htask hpending => (h.chains.pending task htask hpending).2) b hb hin with hclosed | ⟨hmem, hid⟩
  · exact hclosed
  · exact absurd (List.mem_map_of_mem hmem) hid

theorem acknowledgeRecentReminders_sound (h : SoundService s) (haccepts : ∀ id, env.acceptsCancel id = true) :
    SoundService (acknowledgeRecentReminders env s).2 := by
  have hloop := fun chains => acknowledgeTasks_sound h haccepts chains
  have hdone : ∀ chains ids, SoundService
      (completeSchedules env ids (acknowledgeTasks env chains s.reminders.findAll s).2).2 :=
    fun chains ids => (hloop chains).same (completeSchedules_reminders ids _) (completeSchedules_sameCounter ids _)
  unfold acknowledgeRecentReminders
  dsimp only
  split
  · exact h
  · split
    · exact hloop _
    · split
      · exact hdone _ _
      · exact hdone _ _

/-! ### One reminder -/

/-- The acknowledgement closes open tasks of the chain of a task that it leaves waiting, as the schedule
cannot be completed. -/
def Strands (s : ScheduleReminderService) (command : ReminderActionCommand) : Prop :=
  command.action = .acknowledge ∧ ∃ target, Addresses s command target ∧
    target.businessStatus = .waitingAcknowledgement ∧ ¬ Completable s.repo target.scheduleId ∧
    ∃ sibling ∈ s.reminders.tasks.rows, IsSibling target sibling ∧ sibling.isOpen = true

section Answer

variable {target : ScheduleReminderTask} {reminders : MemoryScheduleReminderTaskRepository}

theorem closeSiblings_same (env : ReminderEnv) (target a : ScheduleReminderTask) :
    SameTask a (if IsSibling target a then closedSibling env a else a) := by
  split
  · exact ⟨rfl, rfl, rfl, rfl, rfl, rfl⟩
  · exact SameTask.refl a

theorem closeSiblings_spares (hrows : reminders.tasks.rows = closeSiblings env target s.reminders.tasks.rows) :
    RewritesTasks (Spares [target.chainId]) s.reminders reminders := by
  refine RewritesTasks.of_map hrows (fun a _ => closeSiblings_same env target a) fun a _ => ?_
  split
  · next hsibling => exact (closedSibling_closed env a).spares (List.mem_singleton.2 hsibling.2.1)
  · exact Spares.refl _ a

/-- The other tasks of the chain are closed. -/
theorem closeSiblings_closed (h : SoundChains s.reminders) (htarget : target ∈ s.reminders.tasks.rows)
    (hrows : reminders.tasks.rows = closeSiblings env target s.reminders.tasks.rows) :
    ∀ b ∈ reminders.tasks.rows, b.chainId = target.chainId → b.id ≠ target.id → Closed b := by
  intro b hb hchain hid
  rw [hrows] at hb
  obtain ⟨a, ha, rfl⟩ := List.mem_map.1 hb
  have hsame := closeSiblings_same env target a
  rw [hsame.chainId] at hchain
  rw [hsame.id] at hid
  rw [if_pos ⟨h.schedule a ha target htarget hchain, hchain, hid⟩]
  exact closedSibling_closed env a

/-- Without an open sibling nothing is acknowledged. -/
theorem closeSiblings_quiet
    (hrows : reminders.tasks.rows = closeSiblings env target s.reminders.tasks.rows)
    (hnone : ∀ a ∈ s.reminders.tasks.rows, IsSibling target a → a.isOpen = false) :
    RewritesTasks Quiet s.reminders reminders := by
  refine RewritesTasks.of_map hrows (fun a _ => closeSiblings_same env target a) fun a ha => ?_
  split
  · next hsibling =>
      have hopen : a.isOpen = false := hnone a ha hsibling
      have hbusiness : (closedSibling env a).businessStatus = a.businessStatus := by
        show (if a.isOpen then _ else a.businessStatus) = _
        rw [hopen]
        rfl
      refine ⟨fun hpending => ?_, fun hacknowledged => ?_, fun hwaiting => ?_⟩
      · exact absurd ((closedSibling_closed env a).1.symm.trans hpending) Bool.false_ne_true
      · rwa [hbusiness] at hacknowledged
      · rwa [hbusiness] at hwaiting
  · exact Quiet.refl a

/-- A task that waits is not pending. -/
theorem not_pending_of_waiting (h : SoundChains s.reminders) (htarget : target ∈ s.reminders.tasks.rows)
    (hwaiting : target.isWaiting = true) : target.isPending = false := by
  rw [Bool.eq_false_iff]
  intro hpending
  have hscheduled := (h.pending target htarget hpending).1
  rcases (ScheduleReminderTask.isWaiting_iff target).1 hwaiting with hbusiness | hbusiness
  · rw [hscheduled] at hbusiness
    cases hbusiness
  · rw [hscheduled] at hbusiness
    cases hbusiness

theorem acknowledgeTarget_sound (h : SoundService s) {command : ReminderActionCommand}
    (haddresses : Addresses s command target) (haccepts : ∀ id, env.acceptsCancel id = true)
    (hack : command.action = .acknowledge) (hnot : ¬ Strands s command) :
    SoundService (acknowledgeTarget env s command target).2 := by
  have hidle : target.isPending = false := not_pending_of_waiting h.chains haddresses.mem haddresses.waiting
  obtain ⟨reminders, hrows, heq⟩ := acknowledgeTarget_accepted command target s fun id _ => haccepts id
  have hspares := closeSiblings_spares hrows
  have hclosed := closeSiblings_closed h.chains haddresses.mem hrows
  have htarget : target ∈ reminders.tasks.rows := by
    rw [hrows]
    refine List.mem_map.2 ⟨target, haddresses.mem, ?_⟩
    rw [if_neg fun hsibling => hsibling.2.2 rfl]
  rw [heq]
  generalize hclosing : ({ s with
    reminders
    timing := s.timing ++ chainCancels target.chainId (s.reminders.findBySchedule target.scheduleId) } :
      ScheduleReminderService) = closing
  have hreminders : closing.reminders = reminders := by rw [← hclosing]
  have hrepo : closing.repo = s.repo := by rw [← hclosing]
  have hcounter : SameCounter s closing := by
    rw [← hclosing]
    exact ⟨rfl, rfl⟩
  by_cases hdone : Completable s.repo target.scheduleId
  · have hunused : ∀ task ∈ closing.reminders.tasks.rows, task.actionOperationId ≠ some command.operationId := by
      intro task htask
      rw [hreminders, hrows] at htask
      obtain ⟨a, ha, rfl⟩ := List.mem_map.1 htask
      have haction : (if IsSibling target a then closedSibling env a else a).actionOperationId =
          a.actionOperationId := by
        split <;> rfl
      rw [haction]
      exact haddresses.unused a ha
    obtain ⟨repo, reminders', hsettled, htasks, -⟩ := settleTarget_done env closing command hack
      haddresses.operationId_ne.1 (hreminders ▸ htarget) hunused (hrepo ▸ hdone)
    rw [hsettled]
    rw [hreminders] at htasks
    have hacknowledged : Closed (acknowledgedTask env command target) := by
      refine ⟨hidle, ?_⟩
      show ScheduleReminderBusinessStatus.acknowledged ≠ .waitingAcknowledgement
      decide
    have hspares' : RewritesTasks (Spares [target.chainId]) s.reminders reminders' :=
      hspares.replace htasks haddresses.mem ⟨rfl, rfl, rfl, rfl, rfl, rfl⟩
        (hacknowledged.spares (List.mem_singleton.2 rfl))
    refine h.rewrite (h.chains.close hspares' fun b hb hin => ?_) hspares' ⟨hcounter.running, hcounter.sequence⟩
    rw [htasks] at hb
    rcases IdTable.mem_replace.1 hb with ⟨hold, hne⟩ | ⟨rfl, -⟩
    · exact hclosed b hold (List.mem_singleton.1 hin) hne
    · exact hacknowledged
  · obtain ⟨status, hrefused⟩ := settleTarget_refused env closing command (hrepo ▸ hdone)
    rw [hrefused]
    by_cases hwaits : target.businessStatus = .waitingAcknowledgement
    · refine h.quiet ?_ hcounter
      rw [hreminders]
      refine closeSiblings_quiet hrows fun a ha hsibling => ?_
      rw [Bool.eq_false_iff]
      intro hopen
      exact hnot ⟨hack, target, haddresses, hwaits, hdone, a, ha, hsibling, hopen⟩
    · refine h.rewrite ?_ (hreminders ▸ hspares) hcounter
      rw [hreminders]
      refine h.chains.close hspares fun b hb hin => ?_
      by_cases hid : b.id = target.id
      · rw [reminders.tasks.eq_of_getId_eq hb htarget hid]
        exact ⟨hidle, hwaits⟩
      · exact hclosed b hb (List.mem_singleton.1 hin) hid

theorem snoozeTarget_sound (h : SoundService s) {command : ReminderActionCommand}
    (haddresses : Addresses s command target) : SoundService (snoozeTarget env s command target).2 := by
  have hidle : target.isPending = false := not_pending_of_waiting h.chains haddresses.mem haddresses.waiting
  unfold snoozeTarget
  dsimp only
  split
  · exact h
  · next followUp _ =>
      have hsnoozed : Quiet target (snoozedTask env command target followUp) := by
        refine Quiet.of_over hidle ?_ ?_
        · show ScheduleReminderBusinessStatus.snoozed ≠ .acknowledged
          decide
        · show ScheduleReminderBusinessStatus.snoozed ≠ .waitingAcknowledgement
          decide
      have hstored : SoundService (s.updateTask (snoozedTask env command target followUp)).2 := by
        refine h.quiet ?_ ⟨rfl, rfl⟩
        refine RewritesTasks.update (RewritesTasks.refl Quiet.refl _) haddresses.mem ?_ hsnoozed
        exact ⟨rfl, rfl, rfl, rfl, rfl, rfl⟩
      split <;> exact hstored

theorem executeReminderAction_sound (h : SoundService s) (haccepts : ∀ id, env.acceptsCancel id = true)
    {command : ReminderActionCommand} (hnot : ¬ Strands s command) :
    SoundService (executeReminderAction env s command).2 := by
  by_cases haddressed : ∃ target, Addresses s command target
  · obtain ⟨target, haddresses⟩ := haddressed
    rw [executeReminderAction_addressed haddresses]
    split
    · next hack => exact acknowledgeTarget_sound h haddresses haccepts hack hnot
    · exact snoozeTarget_sound h haddresses
  · rw [executeReminderAction_unaddressed_snd env fun target htarget => haddressed ⟨target, htarget⟩]
    exact h

end Answer

end ScheduleReminderService

/-! ## Runs -/

/-- What holds of the chains and schedules of a store: the attempts of a chain are 1 to n with n at most 3,
each once and for one schedule; only the last may be pending, and nothing is pending or waits once a task is
acknowledged; a schedule has one pending task at most. -/
structure ChainInvariant (r : MemoryScheduleReminderTaskRepository) : Prop where
  numbered : ∀ chainId, ∃ n ≤ 3, ∀ k,
    (∃ task ∈ r.tasks.rows, task.chainId = chainId ∧ task.attempt = k) ↔ 1 ≤ k ∧ k ≤ n
  once : ∀ a ∈ r.tasks.rows, ∀ b ∈ r.tasks.rows, a.chainId = b.chainId → a.attempt = b.attempt → a = b
  schedule : ∀ a ∈ r.tasks.rows, ∀ b ∈ r.tasks.rows, a.chainId = b.chainId → a.scheduleId = b.scheduleId
  last : ∀ a ∈ r.tasks.rows, a.isPending = true → ∀ b ∈ r.tasks.rows, b.chainId = a.chainId → b ≠ a →
    b.attempt < a.attempt ∧ b.isPending = false
  settled : Settled r
  single : ∀ a ∈ r.tasks.rows, ∀ b ∈ r.tasks.rows, a.isPending = true → b.isPending = true →
    a.scheduleId = b.scheduleId → a = b

theorem attempts_once {r : MemoryScheduleReminderTaskRepository} {a b : ScheduleReminderTask}
    (ha : a ∈ r.tasks.rows) (hb : b ∈ r.tasks.rows) (hchain : a.chainId = b.chainId)
    (hattempt : a.attempt = b.attempt) : a = b := by
  by_contra hne
  have hid : a.id ≠ b.id := fun h => hne (r.tasks.eq_of_getId_eq ha hb h)
  exact r.distinct a ha b hb hid (Or.inl ⟨hchain, hattempt⟩)

/-- Without a gap below it, the highest attempt of a chain gives all of them. -/
theorem SoundChains.numbered {r : MemoryScheduleReminderTaskRepository} (h : SoundChains r) (chainId : ℤ) :
    ∃ n ≤ 3, ∀ k, (∃ task ∈ r.tasks.rows, task.chainId = chainId ∧ task.attempt = k) ↔ 1 ≤ k ∧ k ≤ n := by
  have hupto : ∀ n ≤ 3, (∀ task ∈ r.tasks.rows, task.chainId = chainId → task.attempt ≤ n) →
      (n = 0 ∨ ∃ task ∈ r.tasks.rows, task.chainId = chainId ∧ task.attempt = n) →
        ∀ k, (∃ task ∈ r.tasks.rows, task.chainId = chainId ∧ task.attempt = k) ↔ 1 ≤ k ∧ k ≤ n := by
    intro n _ hle hreached k
    constructor
    · rintro ⟨task, htask, hchain, rfl⟩
      obtain ⟨-, -, hpos, -⟩ := r.valid task htask
      exact ⟨hpos, hle task htask hchain⟩
    · rintro ⟨hk, hkn⟩
      rcases hreached with rfl | ⟨task, htask, rfl, rfl⟩
      · omega
      · exact h.below task htask k hk hkn
  have hthree : ∀ task ∈ r.tasks.rows, task.attempt ≤ 3 := fun task htask => (r.valid task htask).2.2.2.1
  -- the highest attempt that the chain has
  by_cases h3 : ∃ task ∈ r.tasks.rows, task.chainId = chainId ∧ task.attempt = 3
  · exact ⟨3, le_rfl, hupto 3 le_rfl (fun task htask _ => hthree task htask) (Or.inr h3)⟩
  have htwo : ∀ task ∈ r.tasks.rows, task.chainId = chainId → task.attempt ≤ 2 := by
    intro task htask hchain
    have hle := hthree task htask
    have hne : task.attempt ≠ 3 := fun heq => h3 ⟨task, htask, hchain, heq⟩
    omega
  by_cases h2 : ∃ task ∈ r.tasks.rows, task.chainId = chainId ∧ task.attempt = 2
  · exact ⟨2, by decide, hupto 2 (by decide) htwo (Or.inr h2)⟩
  have hone : ∀ task ∈ r.tasks.rows, task.chainId = chainId → task.attempt ≤ 1 := by
    intro task htask hchain
    have hle := htwo task htask hchain
    have hne : task.attempt ≠ 2 := fun heq => h2 ⟨task, htask, hchain, heq⟩
    omega
  by_cases h1 : ∃ task ∈ r.tasks.rows, task.chainId = chainId ∧ task.attempt = 1
  · exact ⟨1, by decide, hupto 1 (by decide) hone (Or.inr h1)⟩
  · refine ⟨0, by decide, hupto 0 (by decide) (fun task htask hchain => ?_) (Or.inl rfl)⟩
    have hle := hone task htask hchain
    have hne : task.attempt ≠ 1 := fun heq => h1 ⟨task, htask, hchain, heq⟩
    omega

theorem SoundChains.invariant {r : MemoryScheduleReminderTaskRepository} (h : SoundChains r) :
    ChainInvariant r where
  numbered := h.numbered
  once _ ha _ hb := attempts_once ha hb
  schedule := h.schedule
  last a ha hpending b hb hchain hne := by
    have hle : b.attempt ≤ a.attempt := h.last a ha hpending b hb hchain
    refine ⟨hle.lt_of_ne fun heq => hne (attempts_once hb ha hchain heq), ?_⟩
    rw [Bool.eq_false_iff]
    intro hpending'
    exact hne (h.single b hb a ha hpending' hpending (h.schedule b hb a ha hchain))
  settled := h.settled
  single := h.single

namespace ReminderCall

open ScheduleReminderService MemoryScheduleReminderTaskRepository

/-- Timing accepts every command. -/
def AcceptsAll (env : ReminderEnv) : Prop :=
  ∀ id, env.acceptsRegister id = true ∧ env.acceptsCancel id = true

/-- The calls that a run is made of: Timing accepts what they send, and the chain identifiers last. The
schedules may be changed in any way in between, and the service may be stopped and made anew. -/
def Allowed (s : ScheduleReminderService) : ReminderCall → Prop
  | .edit _ => True
  | .restart => True
  | .stop _ => True
  | .start env => AcceptsAll env ∧ (s.running = false → HasChains env s)
  | .synchronizeSchedule env _ => AcceptsAll env ∧ s.chainSequence < int64Max
  | .cancelScheduleReminder env _ => AcceptsAll env
  | .suspendRuleReminders env _ => AcceptsAll env
  | .handleReminder env _ _ => AcceptsAll env ∧ s.chainSequence < int64Max
  | .executeReminderAction env _ => AcceptsAll env
  | .acknowledgeRecentReminders env => AcceptsAll env
  | _ => False

/-- `Start` generates no instance that lies ahead, and no acknowledgement leaves a waiting task behind in a
chain where it closes another one. -/
def KeepsChains (s : ScheduleReminderService) : ReminderCall → Prop
  | .start env => s.running = false → StartsQuietly env s
  | .executeReminderAction _ command => ¬ Strands s command
  | _ => True

theorem step_sound {s : ScheduleReminderService} {call : ReminderCall} (h : SoundService s)
    (hallowed : Allowed s call) (hkeeps : KeepsChains s call) : SoundService (step s call) := by
  cases call with
  | edit change => exact ⟨h.chains, h.issued⟩
  | restart => exact ⟨h.chains, fun hrunning => absurd hrunning Bool.false_ne_true⟩
  | start env => exact start_sound h hallowed.2 hkeeps
  | stop env => exact stop_sound h
  | synchronizeSchedule env scheduleId => exact synchronizeSchedule_sound h hallowed.2 scheduleId
  | cancelScheduleReminder env scheduleId => exact cancelScheduleReminder_sound h scheduleId
  | suspendRuleReminders env ruleId => exact suspendRuleReminders_sound h ruleId
  | handleReminder env reminderTaskId timingTaskId =>
      exact handleReminder_sound h hallowed.2 reminderTaskId timingTaskId
  | acknowledgeRecentReminders env => exact acknowledgeRecentReminders_sound h fun id => (hallowed id).2
  | executeReminderAction env command => exact executeReminderAction_sound h (fun id => (hallowed id).2) hkeeps
  | _ => exact hallowed.elim

/-- In every run whose calls keep the chains, the chains are sound throughout. -/
theorem chains_stay_sound (calls : List ReminderCall) (hallowed : Run.AllSteps step Allowed {} calls)
    (hkeeps : Run.AllSteps step KeepsChains {} calls) :
    Run.AllStates step (fun s => ChainInvariant s.reminders) {} calls := by
  have hempty : SoundService {} := by
    refine ⟨⟨?_, ?_, ?_, ?_, ?_, ?_⟩, fun _ a ha => absurd ha List.not_mem_nil⟩ <;>
      exact fun a ha => absurd ha List.not_mem_nil
  have hsound : Run.AllStates step SoundService {} calls :=
    Run.allStates_of_step (fun s call hs hcall => step_sound hs hcall.1 hcall.2) hempty
      (hallowed.and hkeeps)
  exact fun done hdone => (hsound done hdone).chains.invariant

/-- The lunch rings and is acknowledged. -/
theorem chains_stay_sound_lunch :
    Run.AllStates step (fun s => ChainInvariant s.reminders) {}
      (acknowledgedLunch ++ [.executeReminderAction { now := 2100, stamp := 2100 }
        { operationId := "operation-1", reminderTriggerId := "schedule-reminder-1" }]) := by
  refine chains_stay_sound _ ⟨trivial, ⟨fun _ => ⟨rfl, rfl⟩, fun _ => ?_⟩, ⟨fun _ => ⟨rfl, rfl⟩, ?_⟩,
    fun _ => ⟨rfl, rfl⟩, trivial⟩ ⟨trivial, fun _ => trivial, trivial, ?_, trivial⟩
  · unfold HasChains
    decide +kernel
  · decide +kernel
  · -- the schedule of every task is active
    have hactive : ∀ task ∈ (Run.run step {} acknowledgedLunch).reminders.tasks.rows,
        ((Run.run step {} acknowledgedLunch).repo.findById task.scheduleId).toOption.map Schedule.status =
          some .active := by
      decide +kernel
    rintro ⟨-, target, haddresses, -, hnot, -⟩
    have htarget := hactive target haddresses.mem
    cases hfind : (Run.run step {} acknowledgedLunch).repo.findById target.scheduleId with
    | error status =>
        rw [hfind] at htarget
        cases htarget
    | ok schedule =>
        rw [hfind] at htarget
        exact hnot ⟨schedule, hfind, Or.inl (Option.some_inj.1 htarget)⟩

/-- Each morning; the device is off when the first one comes, and starts a minute later. -/
def restartedMorning : List ReminderCall :=
  [.edit fun repo => (ScheduleRuleService.createScheduleRule repo 1786838400 1786838400
      { event := "morning", freqType := .daily, startTime := ⟨9, 0, 0⟩ }).2,
    .start { now := 1786838400, stamp := 1786838400 },
    .restart,
    .start { now := 1786842060, stamp := 1786842060, systemMicros := 100 }]

/-- The second morning gets one chain when the first one rings, and another one at the end of `Start`. -/
theorem restartedMorning_two_chains :
    ¬ ∀ calls : List ReminderCall, Run.AllSteps step Allowed {} calls →
      Run.AllStates step (fun s => ChainInvariant s.reminders) {} calls := by
  intro h
  have hallowed : Run.AllSteps step Allowed {} restartedMorning := by
    refine ⟨trivial, ⟨fun _ => ⟨rfl, rfl⟩, fun _ => ?_⟩, trivial, ⟨fun _ => ⟨rfl, rfl⟩, fun _ => ?_⟩, trivial⟩
    · unfold HasChains
      decide +kernel
    · unfold HasChains
      decide +kernel
  have hinvariant := (h restartedMorning hallowed).last
  have hpending : ∃ a ∈ (Run.run step {} restartedMorning).reminders.tasks.rows,
      ∃ b ∈ (Run.run step {} restartedMorning).reminders.tasks.rows,
        a.isPending = true ∧ b.isPending = true ∧ a.scheduleId = b.scheduleId ∧ a.chainId ≠ b.chainId := by
    decide +kernel
  obtain ⟨a, ha, b, hb, hpendinga, hpendingb, hschedule, hchain⟩ := hpending
  exact hchain (congrArg ScheduleReminderTask.chainId (hinvariant.single a ha b hb hpendinga hpendingb hschedule))

-- the other condition: the first reminder of the cancelled lunch is acknowledged, the second one waits
example : ¬ Settled (Run.run step {} cancelledLunch).reminders := by
  unfold Settled
  decide +kernel

end ReminderCall

end VoiceLife
