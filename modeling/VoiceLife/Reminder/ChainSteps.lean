import VoiceLife.Reminder.ReminderChains

/-! # What firings and starts do to the chains

A firing adds the next attempt behind the last one. `Start` gives a chain to every schedule that had no task
when it began: an instance that one of its own firings has generated has a chain by then, and gets a second
one.
-/

namespace VoiceLife

namespace ScheduleReminderService

open ScheduleService ScheduleRuleService MemoryScheduleReminderTaskRepository

variable {env : ReminderEnv} {s : ScheduleReminderService}

/-! ## A firing -/

section Firing

variable {reminderTaskId : ℤ} {timingTaskId : String} {task : ScheduleReminderTask} {schedule : Schedule}

theorem firedTask_not_acknowledged (env : ReminderEnv) (task : ScheduleReminderTask) :
    (firedTask env task).businessStatus ≠ .acknowledged := by
  unfold firedTask
  dsimp only
  split_ifs <;> decide

/-- A firing writes its own task only. -/
theorem fired_rewrites (env : ReminderEnv) (hfires : Fires s reminderTaskId timingTaskId task schedule) :
    RewritesTasks (fun a b => b = a ∨ a = task ∧ b = firedTask env task) s.reminders
      (s.updateTask (firedTask env task)).2.reminders := by
  refine RewritesTasks.update (RewritesTasks.refl (fun a => Or.inl rfl) _) hfires.mem ?_ (Or.inr ⟨rfl, rfl⟩)
  exact ⟨rfl, rfl, rfl, rfl, rfl, rfl⟩

/-- The chain of a pending task has no acknowledged one, neither before nor after it has fired. -/
theorem fired_not_acknowledged (h : SoundService s) (hfires : Fires s reminderTaskId timingTaskId task schedule) :
    ∀ b ∈ (s.updateTask (firedTask env task)).2.reminders.tasks.rows, b.chainId = task.chainId →
      b.businessStatus ≠ .acknowledged := by
  intro b hb hchain hacknowledged
  obtain ⟨a, ha, hsame, rfl | ⟨-, rfl⟩⟩ := (fired_rewrites env hfires).back b hb
  · have hsettled := (h.chains.settled b ha hacknowledged task hfires.mem hchain.symm).1
    exact absurd (hsettled.symm.trans hfires.pending) Bool.false_ne_true
  · exact firedTask_not_acknowledged env task hacknowledged

theorem fired_sound (h : SoundService s) (hfires : Fires s reminderTaskId timingTaskId task schedule) :
    SoundService (s.updateTask (firedTask env task)).2 := by
  have hrewrites := fired_rewrites env hfires
  have hcalm : RewritesTasks Calm s.reminders (s.updateTask (firedTask env task)).2.reminders := by
    refine hrewrites.imp fun a _ b _ hchange hpending => ?_
    rcases hchange with rfl | ⟨-, rfl⟩
    · rfl
    · cases hpending
  refine h.rewrite (h.chains.calm hcalm fun a ha hacknowledged b hb hchain => ?_) hcalm ⟨rfl, rfl⟩
  obtain ⟨a', ha', hsamea, rfl | ⟨-, rfl⟩⟩ := hrewrites.back a ha
  · obtain ⟨b', hb', hsameb, rfl | ⟨rfl, rfl⟩⟩ := hrewrites.back b hb
    · exact h.chains.settled a ha' hacknowledged b hb' hchain
    · exact absurd hacknowledged (fired_not_acknowledged h hfires a ha hchain.symm)
  · exact absurd hacknowledged (firedTask_not_acknowledged env task)

theorem registerFollowUp_sameCounter (s : ScheduleReminderService) (task : ScheduleReminderTask) :
    SameCounter s (registerFollowUp env s task).2 := by
  unfold registerFollowUp
  split
  · exact registerReminder_sameCounter _ _ _ _ _
  · exact SameCounter.refl _

/-- The follow-up is the next attempt of the chain, and the only pending task of the schedule. -/
theorem registerFollowUp_sound (h : SoundService s) (hfires : Fires s reminderTaskId timingTaskId task schedule)
    (hok : (s.updateTask (firedTask env task)).1.ok = true) :
    SoundService (registerFollowUp env (s.updateTask (firedTask env task)).2 (firedTask env task)).2 := by
  have hfired : SoundService (s.updateTask (firedTask env task)).2 := fired_sound h hfires
  have hrow : firedTask env task ∈ (s.updateTask (firedTask env task)).2.reminders.tasks.rows :=
    mem_of_updateTask_ok hok
  unfold registerFollowUp
  split
  · refine registerReminder_sound hfired (fun hrunning => hfired.issued hrunning _ hrow) (fun b hb hchain => ?_)
      (fun k hk hlt => ?_) fun b hb hschedule => ?_
    · obtain ⟨a, ha, hsame, -⟩ := (fired_rewrites env hfires).back b hb
      have hlast : a.attempt ≤ task.attempt :=
        h.chains.last task hfires.mem hfires.pending a ha (hsame.chainId.symm.trans hchain)
      refine ⟨hfired.chains.schedule b hb _ hrow hchain, ?_, fired_not_acknowledged h hfires b hb hchain⟩
      rw [hsame.attempt]
      exact Int.lt_add_one_of_le hlast
    · exact hfired.chains.below _ hrow k hk (Int.lt_add_one_iff.1 hlt)
    · -- a pending task has not changed, so it is the task that fires; but that one is written
      rw [Bool.eq_false_iff]
      intro hpending
      obtain ⟨a, ha, -, rfl | ⟨-, rfl⟩⟩ := (fired_rewrites env hfires).back b hb
      · obtain rfl := h.chains.single b ha task hfires.mem hpending hfires.pending hschedule
        have hwritten : b = firedTask env b :=
          (s.updateTask (firedTask env b)).2.reminders.tasks.eq_of_getId_eq hb hrow rfl
        rw [hwritten] at hpending
        cases hpending
      · cases hpending
  · exact hfired

end Firing

/-! ## The next instance of a rule -/

theorem generateNextInstance_sound (h : SoundService s) (hroom : s.chainSequence < int64Max)
    (ruleId priorFailureCount : ℤ) : SoundService (generateNextInstance env s ruleId priorFailureCount) := by
  unfold generateNextInstance
  split
  · exact h
  · dsimp only
    split
    · exact SoundService.same (⟨h.chains, h.issued⟩ : SoundService { s with
        repo := (generateNextScheduleInstance s.repo env.now env.stamp { ruleId }).2 })
        (scheduleGenerationRetry_reminders ruleId _) (scheduleGenerationRetry_sameCounter _ ruleId _)
    · split
      · exact ⟨h.chains, h.issued⟩
      · next schedule _ =>
          refine synchronizeSchedule_sound ?_ ?_ schedule.id
          · exact ⟨h.chains, h.issued⟩
          · exact hroom

/-- What is stored for a generated instance is the instance. -/
theorem findById_generated {repo : MemoryScheduleRepository} {now stamp : ℤ}
    {command : GenerateNextScheduleInstanceCommand} {inserted loaded : Schedule}
    (h : (generateNextScheduleInstance repo now stamp command).1.schedule = some inserted)
    (hfind : (generateNextScheduleInstance repo now stamp command).2.findById inserted.id = .ok loaded) :
    loaded = inserted := by
  rcases generateNextScheduleInstance_outcome repo now stamp command with
    ⟨⟨hnone, -⟩, -⟩ | ⟨rule, occurrence, createdAt, updatedAt, exc, -, -, -, hsome, hrows, -⟩
  · rw [hnone] at h
    cases h
  · rw [hsome] at h
    cases h
    obtain ⟨hmem, hid⟩ := IdTable.find?_eq_some.1 (MemoryScheduleRepository.findById_eq_ok.1 hfind)
    rw [hrows] at hmem
    rcases IdTable.mem_insert.1 hmem with hold | rfl
    · have hlt := repo.schedules.id_lt loaded hold
      rw [hid] at hlt
      exact absurd hlt (lt_irrefl _)
    · rfl

/-- A generation without an instance that lies ahead registers nothing. -/
theorem generateNextInstance_quiet {ruleId : ℤ} (priorFailureCount : ℤ)
    (hnone : ∀ inserted triggerAt,
      (generateNextScheduleInstance s.repo env.now env.stamp { ruleId }).1.schedule = some inserted →
        ¬ LiesAhead env inserted triggerAt) :
    RewritesTasks Quiet s.reminders (generateNextInstance env s ruleId priorFailureCount).reminders ∧
      SameCounter s (generateNextInstance env s ruleId priorFailureCount) := by
  have hrefl : RewritesTasks Quiet s.reminders s.reminders := RewritesTasks.refl Quiet.refl _
  unfold generateNextInstance
  split
  · exact ⟨hrefl, SameCounter.refl _⟩
  · dsimp only
    split
    · rw [scheduleGenerationRetry_reminders]
      have hretry := @scheduleGenerationRetry_sameCounter env { s with
        repo := (generateNextScheduleInstance s.repo env.now env.stamp { ruleId }).2 } ruleId
        (priorFailureCount + 1)
      exact ⟨hrefl, hretry.running, hretry.sequence⟩
    · split
      · exact ⟨hrefl, rfl, rfl⟩
      · next inserted hinserted =>
          generalize hgenerated : ({ s with
            repo := (generateNextScheduleInstance s.repo env.now env.stamp { ruleId }).2
            generationRetries := s.generationRetries.filter fun entry => entry.1 != ruleId } :
              ScheduleReminderService) = generated
          have hreminders : generated.reminders = s.reminders := by rw [← hgenerated]
          have hcounter : SameCounter s generated := by
            rw [← hgenerated]
            exact ⟨rfl, rfl⟩
          have hcancelled := cancelPendingTasks_quiet env generated inserted.id
          have hcounter' := hcounter.trans (@cancelPendingTasks_sameCounter env generated inserted.id)
          rw [hreminders] at hcancelled
          unfold synchronizeSchedule
          split
          · exact ⟨hreminders ▸ hrefl, hcounter⟩
          · split
            · exact ⟨hreminders ▸ hrefl, hcounter⟩
            · next loaded hloaded =>
                dsimp only
                split
                · exact ⟨hcancelled, hcounter'⟩
                · split
                  · exact ⟨hcancelled, hcounter'⟩
                  · next startTime hstart =>
                      split
                      · exact ⟨hcancelled, hcounter'⟩
                      · next hahead =>
                          push Not at hahead
                          rw [← hgenerated] at hloaded
                          obtain rfl := findById_generated hinserted hloaded
                          exact absurd ⟨hahead.1, hstart, hahead.2⟩ (hnone loaded startTime hinserted)

/-! ## The whole firing -/

/-- The next instance of a rule is generated when the first reminder of one has rung. -/
theorem ring_eq (env : ReminderEnv) (s : ScheduleReminderService) (schedule : Schedule)
    (task : ScheduleReminderTask) :
    ∃ rung : ScheduleReminderService, rung.reminders = (registerFollowUp env s task).2.reminders ∧
      rung.repo = (registerFollowUp env s task).2.repo ∧ rung.timing = (registerFollowUp env s task).2.timing ∧
      SameCounter (registerFollowUp env s task).2 rung ∧
      (ring env s schedule task = rung ∨
        ∃ ruleId, schedule.ruleId = some ruleId ∧ task.attempt = 1 ∧
          ring env s schedule task = generateNextInstance env rung ruleId 0) := by
  refine ⟨{ (registerFollowUp env s task).2 with
    spoken := (registerFollowUp env s task).2.spoken ++ [reminderText schedule.event task.attempt]
    notified := if (registerFollowUp env s task).1.ok
      then (registerFollowUp env s task).2.notified ++ [(schedule, task)]
      else (registerFollowUp env s task).2.notified }, rfl, rfl, rfl, ⟨rfl, rfl⟩, ?_⟩
  unfold ring
  cases hrule : schedule.ruleId with
  | none => exact Or.inl rfl
  | some ruleId =>
      by_cases hfirst : task.attempt = 1
      · refine Or.inr ⟨ruleId, rfl, hfirst, ?_⟩
        dsimp only
        rw [if_pos hfirst]
      · refine Or.inl ?_
        dsimp only
        rw [if_neg hfirst]

theorem handleReminder_sound (h : SoundService s) (hroom : s.chainSequence < int64Max) (reminderTaskId : ℤ)
    (timingTaskId : String) : SoundService (handleReminder env s reminderTaskId timingTaskId) := by
  rcases handleReminder_cases env s reminderTaskId timingTaskId with heq | ⟨task, schedule, hfires, heq⟩ <;>
    rw [heq]
  · exact h
  · split
    · exact fired_sound h hfires
    · next hok =>
        have hfollow := registerFollowUp_sound h hfires (by simpa using hok)
        have hcounter := @registerFollowUp_sameCounter env (s.updateTask (firedTask env task)).2 (firedTask env task)
        obtain ⟨rung, hreminders, -, -, hrung, heq' | ⟨ruleId, -, -, heq'⟩⟩ :=
          ring_eq env (s.updateTask (firedTask env task)).2 schedule (firedTask env task)
        · rw [heq']
          exact hfollow.same hreminders hrung
        · rw [heq']
          refine generateNextInstance_sound (hfollow.same hreminders hrung) ?_ ruleId 0
          rw [hrung.sequence, hcounter.sequence]
          exact hroom

/-! ## Starting -/

/-- The firing generates an instance that lies ahead. -/
def Regenerates (env : ReminderEnv) (s : ScheduleReminderService) (reminderTaskId : ℤ) (timingTaskId : String) :
    Prop :=
  ∃ task schedule ruleId inserted triggerAt, Fires s reminderTaskId timingTaskId task schedule ∧
    task.attempt = 1 ∧ schedule.ruleId = some ruleId ∧
    (generateNextScheduleInstance s.repo env.now env.stamp { ruleId }).1.schedule = some inserted ∧
    LiesAhead env inserted triggerAt

/-- The service while `Start` goes through the stored tasks: all that is pending belongs to their
schedules, and no chain identifier has been issued. -/
structure Restoring (schedules : List ℤ) (sequence : ℤ) (s : ScheduleReminderService) : Prop where
  sound : SoundService s
  running : s.running = true
  sequence : s.chainSequence = sequence
  within : ∀ a ∈ s.reminders.tasks.rows, a.isPending = true → a.scheduleId ∈ schedules

section Restoring

variable {schedules : List ℤ} {sequence : ℤ} {s' : ScheduleReminderService}

theorem Restoring.quiet (h : Restoring schedules sequence s) (hquiet : RewritesTasks Quiet s.reminders s'.reminders)
    (hcounter : SameCounter s s') : Restoring schedules sequence s' where
  sound := h.sound.quiet hquiet hcounter
  running := hcounter.running.trans h.running
  sequence := hcounter.sequence.trans h.sequence
  within a ha hpending := by
    obtain ⟨a', ha', -, hcalm, -⟩ := hquiet.back a ha
    obtain rfl := hcalm hpending
    exact h.within a ha' hpending

theorem Restoring.same (h : Restoring schedules sequence s) (hreminders : s'.reminders = s.reminders)
    (hcounter : SameCounter s s') : Restoring schedules sequence s' := by
  refine h.quiet ?_ hcounter
  rw [hreminders]
  exact RewritesTasks.refl Quiet.refl _

theorem registerFollowUp_restoring {reminderTaskId : ℤ} {timingTaskId : String} {task : ScheduleReminderTask}
    {schedule : Schedule} (h : Restoring schedules sequence s)
    (hfires : Fires s reminderTaskId timingTaskId task schedule)
    (hok : (s.updateTask (firedTask env task)).1.ok = true) :
    Restoring schedules sequence
      (registerFollowUp env (s.updateTask (firedTask env task)).2 (firedTask env task)).2 where
  sound := registerFollowUp_sound h.sound hfires hok
  running := (registerFollowUp_sameCounter _ _).running.trans h.running
  sequence := (registerFollowUp_sameCounter _ _).sequence.trans h.sequence
  within := by
    have hfired : ∀ a ∈ (s.updateTask (firedTask env task)).2.reminders.tasks.rows, a.isPending = true →
        a.scheduleId ∈ schedules := by
      intro a ha hpending
      obtain ⟨a', ha', -, rfl | ⟨-, rfl⟩⟩ := (fired_rewrites env hfires).back a ha
      · exact h.within a ha' hpending
      · cases hpending
    unfold registerFollowUp
    split
    · rcases registerReminder_outcome env (s.updateTask (firedTask env task)).2 (firedTask env task).scheduleId
        (firedTask env task).chainId ((firedTask env task).attempt + 1) (env.now + kFollowUpDelay) with
        ⟨-, hsame⟩ | ⟨row, hadds⟩
      · rw [hsame]
        exact hfired
      · intro a ha hpending
        rcases (hadds.mem a).1 ha with hold | rfl
        · exact hfired a hold hpending
        · rw [hadds.scheduleId_eq]
          exact h.within task hfires.mem hfires.pending
    · exact hfired

theorem handleReminder_restoring (h : Restoring schedules sequence s) {reminderTaskId : ℤ} {timingTaskId : String}
    (hnot : ¬ Regenerates env s reminderTaskId timingTaskId) :
    Restoring schedules sequence (handleReminder env s reminderTaskId timingTaskId) := by
  rcases handleReminder_cases env s reminderTaskId timingTaskId with heq | ⟨task, schedule, hfires, heq⟩ <;>
    rw [heq]
  · exact h
  · split
    · refine ⟨fired_sound h.sound hfires, h.running, h.sequence, fun a ha hpending => ?_⟩
      obtain ⟨a', ha', -, rfl | ⟨-, rfl⟩⟩ := (fired_rewrites env hfires).back a ha
      · exact h.within a ha' hpending
      · cases hpending
    · next hok =>
        have hfollow := registerFollowUp_restoring h hfires (by simpa using hok)
        have hrepo : (registerFollowUp env (s.updateTask (firedTask env task)).2 (firedTask env task)).2.repo =
            s.repo := by
          unfold registerFollowUp
          split
          · exact (registerReminder_sameRules env _ _ _ _ _).repo
          · rfl
        obtain ⟨rung, hreminders, hrungRepo, -, hrung, heq' | ⟨ruleId, hrule, hfirst, heq'⟩⟩ :=
          ring_eq env (s.updateTask (firedTask env task)).2 schedule (firedTask env task)
        · rw [heq']
          exact hfollow.same hreminders hrung
        · rw [heq']
          have hnone : ∀ inserted triggerAt,
              (generateNextScheduleInstance rung.repo env.now env.stamp { ruleId }).1.schedule = some inserted →
                ¬ LiesAhead env inserted triggerAt := by
            intro inserted triggerAt hinserted hahead
            rw [hrungRepo, hrepo] at hinserted
            exact hnot ⟨task, schedule, ruleId, inserted, triggerAt, hfires, hfirst, hrule, hinserted, hahead⟩
          obtain ⟨hquiet, hcounter⟩ := generateNextInstance_quiet 0 hnone
          exact (hfollow.same hreminders hrung).quiet hquiet hcounter

/-- A stored task that is due and pending generates no instance that lies ahead when `Start` fires it. -/
def RestoresQuietly (env : ReminderEnv) (state : Status × ScheduleReminderService) (task : ScheduleReminderTask) :
    Prop :=
  task.isPending = true → task.triggerAt ≤ env.now → ¬ Regenerates env state.2 task.id (task.timingTaskId.getD "")

theorem restoreTask_restoring {state : Status × ScheduleReminderService} {task : ScheduleReminderTask}
    (h : Restoring schedules sequence state.2) (hquietly : RestoresQuietly env state task)
    (hstored : ∃ a ∈ state.2.reminders.tasks.rows, SameTask task a) :
    Restoring schedules sequence (restoreTask env state task).2 := by
  obtain ⟨a, ha, hsame⟩ := hstored
  have hcancelled : Restoring schedules sequence (state.2.updateTask (cancelledTask env task)).2 := by
    refine h.quiet ?_ ⟨rfl, rfl⟩
    refine RewritesTasks.update (RewritesTasks.refl Quiet.refl _) ha ?_ (cancelledTask_quiet env a task)
    exact ⟨hsame.id.symm, hsame.scheduleId.symm, hsame.chainId.symm, hsame.attempt.symm,
      hsame.timingTaskId.symm, hsame.triggerAt.symm⟩
  unfold restoreTask
  split
  · exact h
  · next hpending =>
      dsimp only
      split
      · exact hcancelled
      · split
        · exact hcancelled
        · split
          · next hdue => exact handleReminder_restoring h (hquietly (by simpa using hpending) hdue)
          · exact h.same (registerPersistedTask_reminders task) (registerPersistedTask_sameCounter _ task)

theorem foldl_restoreTask_restoring {r : MemoryScheduleReminderTaskRepository} {tasks : List ScheduleReminderTask}
    {state : Status × ScheduleReminderService} (h : Restoring schedules sequence state.2)
    (hquietly : Run.AllSteps (restoreTask env) (RestoresQuietly env) state tasks)
    (hkeeps : Keeps r state.2.reminders) (htasks : ∀ task ∈ tasks, task ∈ r.tasks.rows) :
    Restoring schedules sequence (tasks.foldl (restoreTask env) state).2 := by
  induction tasks generalizing state with
  | nil => exact h
  | cons task tasks ih =>
      have htask : task ∈ r.tasks.rows := htasks task (List.mem_cons_self ..)
      obtain ⟨a, ha, hsame, -⟩ := hkeeps task htask
      exact ih (restoreTask_restoring h hquietly.1 ⟨a, ha, hsame⟩) hquietly.2 (restoreTask_keeps hkeeps htask)
        fun other hother => htasks other (List.mem_cons_of_mem _ hother)

end Restoring

/-- The schedules that `Start` gives a chain. -/
def StartsChain (env : ReminderEnv) (schedulesWithTasks : List ℤ) (schedule : Schedule) : Prop :=
  schedule.status = .active ∧ (∃ startTime ∈ schedule.startTime, env.now < startTime) ∧
    schedule.id ∉ schedulesWithTasks

instance (env : ReminderEnv) (schedulesWithTasks : List ℤ) (schedule : Schedule) :
    Decidable (StartsChain env schedulesWithTasks schedule) := by
  unfold StartsChain
  infer_instance

theorem restoreSchedule_cases (env : ReminderEnv) (schedulesWithTasks : List ℤ)
    (state : Status × ScheduleReminderService) (schedule : Schedule) :
    (¬ StartsChain env schedulesWithTasks schedule ∧
        restoreSchedule env schedulesWithTasks state schedule = state) ∨
      StartsChain env schedulesWithTasks schedule ∧ ∃ startTime registered,
        registered = registerReminder env state.2.allocateChainId.2 schedule.id state.2.allocateChainId.1 1 startTime ∧
        restoreSchedule env schedulesWithTasks state schedule =
          (firstFailure state.1 registered.1, registered.2) := by
  unfold restoreSchedule
  split
  · next hnone =>
      refine Or.inl ⟨?_, rfl⟩
      rintro ⟨-, ⟨startTime, hsome, -⟩, -⟩
      rw [hnone] at hsome
      cases hsome
  · next startTime hstart =>
      split
      · next hskip =>
          refine Or.inl ⟨?_, rfl⟩
          rintro ⟨hactive, ⟨time, hsome, hahead⟩, hnew⟩
          rw [Option.mem_def, hstart, Option.some_inj] at hsome
          subst hsome
          rcases hskip with h | h | h
          · exact h hactive
          · exact absurd hahead (not_lt.2 h)
          · exact hnew h
      · next hskip =>
          push Not at hskip
          exact Or.inr ⟨⟨hskip.1, ⟨startTime, hstart, hskip.2.1⟩, hskip.2.2⟩, startTime, _, rfl, rfl⟩

/-- The loop over the schedules is sound if none of those that get a chain has a pending task. -/
theorem foldl_restoreSchedule_sound {schedulesWithTasks : List ℤ} {schedules : List Schedule}
    {state : Status × ScheduleReminderService} (h : SoundService state.2) (hrunning : state.2.running = true)
    (hroom : state.2.chainSequence +
      schedules.countP (fun schedule => StartsChain env schedulesWithTasks schedule) ≤ int64Max)
    (hnodup : (schedules.map Schedule.id).Nodup)
    (hnone : ∀ schedule ∈ schedules, StartsChain env schedulesWithTasks schedule →
      ∀ b ∈ state.2.reminders.tasks.rows, b.scheduleId = schedule.id → b.isPending = false) :
    SoundService (schedules.foldl (restoreSchedule env schedulesWithTasks) state).2 := by
  induction schedules generalizing state with
  | nil => exact h
  | cons schedule schedules ih =>
      rw [List.map_cons, List.nodup_cons] at hnodup
      rw [List.countP_cons] at hroom
      have htail := fun other hother => hnone other (List.mem_cons_of_mem _ hother)
      rcases restoreSchedule_cases env schedulesWithTasks state schedule with
        ⟨hskip, heq⟩ | ⟨hstarts, startTime, registered, hregistered, hround⟩
      · rw [List.foldl_cons, heq]
        rw [if_neg (by simpa using hskip)] at hroom
        exact ih h hrunning hroom hnodup.2 htail
      · rw [if_pos (by simpa using hstarts)] at hroom
        have heq : (restoreSchedule env schedulesWithTasks state schedule).2 = (registerReminder env
            state.2.allocateChainId.2 schedule.id state.2.allocateChainId.1 1 startTime).2 := by
          rw [hround, hregistered]
        have hfree : state.2.chainSequence < int64Max := by
          push_cast at hroom
          omega
        have hfirst := hnone schedule (List.mem_cons_self ..) hstarts
        have hnew := @newChain_sound env state.2 h hrunning hfree schedule.id startTime hfirst
        rw [← heq] at hnew
        have hcounter : (restoreSchedule env schedulesWithTasks state schedule).2.running = true ∧
            (restoreSchedule env schedulesWithTasks state schedule).2.chainSequence =
              state.2.chainSequence + 1 := by
          rw [heq, allocateChainId_eq hfree]
          have hcounter := @registerReminder_sameCounter env
            { state.2 with chainSequence := state.2.chainSequence + 1 } schedule.id (state.2.chainSequence + 1) 1
            startTime
          exact ⟨hcounter.running.trans hrunning, hcounter.sequence⟩
        refine ih hnew hcounter.1 ?_ hnodup.2 fun other hother hstarts' b hb hschedule => ?_
        · rw [hcounter.2]
          push_cast at hroom
          omega
        · -- the new task belongs to the schedule of this round
          rw [heq] at hb
          rcases registerReminder_outcome env state.2.allocateChainId.2 schedule.id state.2.allocateChainId.1 1
            startTime with ⟨-, hsame⟩ | ⟨row, hadds⟩
          · rw [hsame] at hb
            exact htail other hother hstarts' b hb hschedule
          · rcases (hadds.mem b).1 hb with hold | rfl
            · exact htail other hother hstarts' b hold hschedule
            · rw [hadds.scheduleId_eq] at hschedule
              exact absurd (hschedule ▸ List.mem_map_of_mem hother) hnodup.1

/-- The service when `Start` begins with the stored tasks. -/
def starting (env : ReminderEnv) (s : ScheduleReminderService) : ScheduleReminderService :=
  { s with
    running := true
    sequence := env.systemMicros
    chainSequence := s.reminders.findAll.foldl (fun sequence task => max sequence task.chainId) s.chainSequence }

/-- What it has come to behind the stored tasks. -/
def restored (env : ReminderEnv) (s : ScheduleReminderService) : Status × ScheduleReminderService :=
  s.reminders.findAll.foldl (restoreTask env) (.success, starting env s)

theorem start_eq (env : ReminderEnv) (hstopped : s.running = false) :
    start env s = (restored env s).2.repo.findAll.foldl
      (restoreSchedule env (s.reminders.findAll.map ScheduleReminderTask.scheduleId)) (restored env s) := by
  unfold start
  rw [hstopped]
  rfl

theorem le_foldl_max (tasks : List ScheduleReminderTask) (sequence : ℤ) :
    sequence ≤ tasks.foldl (fun sequence task => max sequence task.chainId) sequence ∧
      ∀ task ∈ tasks, task.chainId ≤ tasks.foldl (fun sequence task => max sequence task.chainId) sequence := by
  induction tasks generalizing sequence with
  | nil => exact ⟨le_rfl, fun task htask => absurd htask List.not_mem_nil⟩
  | cons task tasks ih =>
      obtain ⟨hle, htasks⟩ := ih (max sequence task.chainId)
      refine ⟨(le_max_left _ _).trans hle, fun other hother => ?_⟩
      rcases List.mem_cons.1 hother with rfl | hother
      · exact (le_max_right _ _).trans hle
      · exact htasks other hother

/-- Enough chain identifiers are left for the schedules that get a chain. -/
def HasChains (env : ReminderEnv) (s : ScheduleReminderService) : Prop :=
  (starting env s).chainSequence + (restored env s).2.repo.findAll.countP (fun schedule =>
    StartsChain env (s.reminders.findAll.map ScheduleReminderTask.scheduleId) schedule) ≤ int64Max

/-- No firing of `Start` generates an instance that lies ahead. -/
def StartsQuietly (env : ReminderEnv) (s : ScheduleReminderService) : Prop :=
  Run.AllSteps (restoreTask env) (RestoresQuietly env) (.success, starting env s) s.reminders.findAll

theorem start_sound (h : SoundService s) (hchains : s.running = false → HasChains env s)
    (hquietly : s.running = false → StartsQuietly env s) : SoundService (start env s).2 := by
  by_cases hrunning : s.running = true
  · unfold start
    dsimp only
    rw [if_pos hrunning]
    exact h
  · have hstopped : s.running = false := by simpa using hrunning
    have hstarting : Restoring (s.reminders.findAll.map ScheduleReminderTask.scheduleId)
        (starting env s).chainSequence (starting env s) := by
      refine ⟨⟨h.chains, fun _ a ha => (le_foldl_max s.reminders.findAll s.chainSequence).2 a ha⟩, rfl, rfl, ?_⟩
      exact fun a ha _ => List.mem_map_of_mem ha
    have hrestored : Restoring (s.reminders.findAll.map ScheduleReminderTask.scheduleId)
        (starting env s).chainSequence (restored env s).2 :=
      foldl_restoreTask_restoring hstarting (hquietly hstopped) (Keeps.refl _) fun _ => id
    rw [start_eq env hstopped]
    refine foldl_restoreSchedule_sound hrestored.sound hrestored.running ?_ (restored env s).2.repo.schedules.nodup ?_
    · rw [hrestored.sequence]
      exact hchains hstopped
    · intro schedule _ hstarts b hb hschedule
      rw [Bool.eq_false_iff]
      intro hpending
      exact hstarts.2.2 (hschedule ▸ hrestored.within b hb hpending)

end ScheduleReminderService

end VoiceLife
