import VoiceLife.Reminder.ExactlyOnce

/-! # Reminder chains

The tasks of a chain are the attempts to remind of one schedule. They are numbered from 1 without a gap,
only the last one may be pending, and none of them waits any longer once one is acknowledged.
-/

namespace VoiceLife

/-! ## Rewritten tasks -/

/-- Every task goes on in the second store, and the second store has only tasks that `change` lets come
from one of the first. -/
structure RewritesTasks (change : ScheduleReminderTask → ScheduleReminderTask → Prop)
    (r r' : MemoryScheduleReminderTaskRepository) : Prop where
  onward : ∀ a ∈ r.tasks.rows, ∃ b ∈ r'.tasks.rows, SameTask a b
  back : ∀ b ∈ r'.tasks.rows, ∃ a ∈ r.tasks.rows, SameTask a b ∧ change a b

/-- A task that is pending afterwards has not changed at all. -/
def Calm (a b : ScheduleReminderTask) : Prop :=
  b.isPending = true → b = a

/-- Besides, no task becomes acknowledged or begins to wait. -/
def Quiet (a b : ScheduleReminderTask) : Prop :=
  Calm a b ∧ (b.businessStatus = .acknowledged → a.businessStatus = .acknowledged) ∧
    (b.businessStatus = .waitingAcknowledgement → a.businessStatus = .waitingAcknowledgement)

theorem Quiet.refl (a : ScheduleReminderTask) : Quiet a a :=
  ⟨fun _ => rfl, id, id⟩

/-- A task that is neither pending nor acknowledged nor waiting may come from any other. -/
theorem Quiet.of_over {a b : ScheduleReminderTask} (hpending : b.isPending = false)
    (hacknowledged : b.businessStatus ≠ .acknowledged) (hwaiting : b.businessStatus ≠ .waitingAcknowledgement) :
    Quiet a b := by
  refine ⟨fun h => ?_, fun h => absurd h hacknowledged, fun h => absurd h hwaiting⟩
  exact absurd (hpending.symm.trans h) Bool.false_ne_true

namespace RewritesTasks

variable {change change' : ScheduleReminderTask → ScheduleReminderTask → Prop}
  {r r' r'' : MemoryScheduleReminderTaskRepository}

theorem refl (hrefl : ∀ a, change a a) (r : MemoryScheduleReminderTaskRepository) : RewritesTasks change r r :=
  ⟨fun a ha => ⟨a, ha, SameTask.refl a⟩, fun b hb => ⟨b, hb, SameTask.refl b, hrefl b⟩⟩

theorem imp (himp : ∀ a ∈ r.tasks.rows, ∀ b ∈ r'.tasks.rows, change a b → change' a b)
    (h : RewritesTasks change r r') : RewritesTasks change' r r' := by
  refine ⟨h.onward, fun b hb => ?_⟩
  obtain ⟨a, ha, hsame, hchange⟩ := h.back b hb
  exact ⟨a, ha, hsame, himp a ha b hb hchange⟩

/-- One more task is replaced, in a way that its task in the first store allows. -/
theorem replace (h : RewritesTasks change r r') {a task : ScheduleReminderTask}
    (htasks : r''.tasks = r'.tasks.replace task) (ha : a ∈ r.tasks.rows) (hsame : SameTask a task)
    (hchange : change a task) : RewritesTasks change r r'' := by
  constructor
  · intro x hx
    obtain ⟨b, hb, hxb⟩ := h.onward x hx
    by_cases hid : b.id = task.id
    · have hxa : x = a := r.tasks.eq_of_getId_eq hx ha (hxb.id.symm.trans (hid.trans hsame.id))
      refine ⟨task, ?_, hxa ▸ hsame⟩
      rw [htasks]
      exact IdTable.mem_replace.2 (Or.inr ⟨rfl, b, hb, hid⟩)
    · refine ⟨b, ?_, hxb⟩
      rw [htasks]
      exact IdTable.mem_replace.2 (Or.inl ⟨hb, hid⟩)
  · intro b hb
    rw [htasks] at hb
    rcases IdTable.mem_replace.1 hb with ⟨hold, -⟩ | ⟨rfl, -⟩
    · exact h.back b hold
    · exact ⟨a, ha, hsame, hchange⟩

theorem update (h : RewritesTasks change r r') {a task : ScheduleReminderTask} (ha : a ∈ r.tasks.rows)
    (hsame : SameTask a task) (hchange : change a task) : RewritesTasks change r (r'.update task).2 := by
  rcases r'.update_cases task with ⟨status, -, hfail, -⟩ | ⟨found, r'', -, -, hok, htasks⟩
  · rwa [hfail]
  · rw [hok]
    exact h.replace htasks ha hsame hchange

theorem of_map {f : ScheduleReminderTask → ScheduleReminderTask} (hrows : r'.tasks.rows = r.tasks.rows.map f)
    (hsame : ∀ a ∈ r.tasks.rows, SameTask a (f a)) (hchange : ∀ a ∈ r.tasks.rows, change a (f a)) :
    RewritesTasks change r r' := by
  constructor
  · intro a ha
    refine ⟨f a, ?_, hsame a ha⟩
    rw [hrows]
    exact List.mem_map_of_mem ha
  · intro b hb
    rw [hrows] at hb
    obtain ⟨a, ha, rfl⟩ := List.mem_map.1 hb
    exact ⟨a, ha, hsame a ha, hchange a ha⟩

end RewritesTasks

/-! ## The invariant -/

/-- Once a task of a chain is acknowledged, none of the chain is pending or waits. -/
def Settled (r : MemoryScheduleReminderTaskRepository) : Prop :=
  ∀ a ∈ r.tasks.rows, a.businessStatus = .acknowledged → ∀ b ∈ r.tasks.rows, b.chainId = a.chainId →
    b.isPending = false ∧ b.businessStatus ≠ .waitingAcknowledgement

/-- What every operation keeps of the chains. -/
structure SoundChains (r : MemoryScheduleReminderTaskRepository) : Prop where
  below : ∀ a ∈ r.tasks.rows, ∀ k, 1 ≤ k → k ≤ a.attempt →
    ∃ b ∈ r.tasks.rows, b.chainId = a.chainId ∧ b.attempt = k
  schedule : ∀ a ∈ r.tasks.rows, ∀ b ∈ r.tasks.rows, a.chainId = b.chainId → a.scheduleId = b.scheduleId
  last : ∀ a ∈ r.tasks.rows, a.isPending = true → ∀ b ∈ r.tasks.rows, b.chainId = a.chainId →
    b.attempt ≤ a.attempt
  single : ∀ a ∈ r.tasks.rows, ∀ b ∈ r.tasks.rows, a.isPending = true → b.isPending = true →
    a.scheduleId = b.scheduleId → a = b
  pending : ∀ a ∈ r.tasks.rows, a.isPending = true →
    a.businessStatus = .scheduled ∧ a.timingTaskId.isSome = true
  settled : Settled r

section SoundChains

variable {r r' : MemoryScheduleReminderTaskRepository}

theorem Settled.quiet (h : Settled r) (hquiet : RewritesTasks Quiet r r') : Settled r' := by
  intro a ha hacknowledged b hb hchain
  obtain ⟨a', ha', hsame, -, hback, -⟩ := hquiet.back a ha
  obtain ⟨b', hb', hsame', hcalm, -, hwaits⟩ := hquiet.back b hb
  have hchain' : b'.chainId = a'.chainId :=
    hsame'.chainId.symm.trans (hchain.trans hsame.chainId)
  obtain ⟨hpending, hwaiting⟩ := h a' ha' (hback hacknowledged) b' hb' hchain'
  refine ⟨?_, fun h => hwaiting (hwaits h)⟩
  rw [Bool.eq_false_iff]
  intro hb
  rw [hcalm hb] at hb
  exact absurd (hpending.symm.trans hb) Bool.false_ne_true

/-- Writes that make no task pending keep everything but what they acknowledge. -/
theorem SoundChains.calm (h : SoundChains r) (hcalm : RewritesTasks Calm r r') (hsettled : Settled r') :
    SoundChains r' where
  below a ha k hk hle := by
    obtain ⟨a', ha', hsame, -⟩ := hcalm.back a ha
    obtain ⟨b, hb, hchain, hattempt⟩ := h.below a' ha' k hk (hsame.attempt ▸ hle)
    obtain ⟨b', hb', hsame'⟩ := hcalm.onward b hb
    exact ⟨b', hb', (hsame'.chainId.trans hchain).trans hsame.chainId.symm, hsame'.attempt.trans hattempt⟩
  schedule a ha b hb hchain := by
    obtain ⟨a', ha', hsame, -⟩ := hcalm.back a ha
    obtain ⟨b', hb', hsame', -⟩ := hcalm.back b hb
    rw [hsame.chainId, hsame'.chainId] at hchain
    rw [hsame.scheduleId, hsame'.scheduleId]
    exact h.schedule a' ha' b' hb' hchain
  last a ha hpending b hb hchain := by
    obtain ⟨a', ha', -, hcalm'⟩ := hcalm.back a ha
    obtain ⟨b', hb', hsame', -⟩ := hcalm.back b hb
    obtain rfl := hcalm' hpending
    rw [hsame'.attempt]
    exact h.last a ha' hpending b' hb' (hsame'.chainId.symm.trans hchain)
  single a ha b hb hpending hpending' hschedule := by
    obtain ⟨a', ha', -, hcalma⟩ := hcalm.back a ha
    obtain ⟨b', hb', -, hcalmb⟩ := hcalm.back b hb
    obtain rfl := hcalma hpending
    obtain rfl := hcalmb hpending'
    exact h.single a ha' b hb' hpending hpending' hschedule
  pending a ha hpending := by
    obtain ⟨a', ha', -, hcalm'⟩ := hcalm.back a ha
    obtain rfl := hcalm' hpending
    exact h.pending a ha' hpending
  settled := hsettled

theorem SoundChains.quiet (h : SoundChains r) (hquiet : RewritesTasks Quiet r r') : SoundChains r' :=
  h.calm (hquiet.imp fun _ _ _ _ hchange => hchange.1) (h.settled.quiet hquiet)

/-- A task is added behind the others of its chain, to a schedule without a pending task. -/
theorem SoundChains.add (h : SoundChains r) {row : ScheduleReminderTask}
    (hmem : ∀ task, task ∈ r'.tasks.rows ↔ task ∈ r.tasks.rows ∨ task = row)
    (hchain : ∀ b ∈ r.tasks.rows, b.chainId = row.chainId →
      b.scheduleId = row.scheduleId ∧ b.attempt < row.attempt ∧ b.businessStatus ≠ .acknowledged)
    (hbelow : ∀ k, 1 ≤ k → k < row.attempt → ∃ b ∈ r.tasks.rows, b.chainId = row.chainId ∧ b.attempt = k)
    (hnone : ∀ b ∈ r.tasks.rows, b.scheduleId = row.scheduleId → b.isPending = false)
    (hscheduled : row.businessStatus = .scheduled) (htiming : row.timingTaskId.isSome = true) :
    SoundChains r' where
  below a ha k hk hle := by
    rcases (hmem a).1 ha with hold | rfl
    · obtain ⟨b, hb, hsame⟩ := h.below a hold k hk hle
      exact ⟨b, (hmem b).2 (Or.inl hb), hsame⟩
    · rcases hle.lt_or_eq with hlt | rfl
      · obtain ⟨b, hb, hsame⟩ := hbelow k hk hlt
        exact ⟨b, (hmem b).2 (Or.inl hb), hsame⟩
      · exact ⟨a, ha, rfl, rfl⟩
  schedule a ha b hb hsame := by
    rcases (hmem a).1 ha with hold | rfl <;> rcases (hmem b).1 hb with hold' | rfl
    · exact h.schedule a hold b hold' hsame
    · exact (hchain a hold hsame).1
    · exact (hchain b hold' hsame.symm).1.symm
    · rfl
  last a ha hpending b hb hsame := by
    rcases (hmem a).1 ha with hold | rfl <;> rcases (hmem b).1 hb with hold' | rfl
    · exact h.last a hold hpending b hold' hsame
    · have hidle := hnone a hold (hchain a hold hsame.symm).1
      exact absurd (hidle.symm.trans hpending) Bool.false_ne_true
    · exact (hchain b hold' hsame).2.1.le
    · exact le_rfl
  single a ha b hb hpending hpending' hschedule := by
    rcases (hmem a).1 ha with hold | rfl <;> rcases (hmem b).1 hb with hold' | rfl
    · exact h.single a hold b hold' hpending hpending' hschedule
    · exact absurd ((hnone a hold hschedule).symm.trans hpending) Bool.false_ne_true
    · exact absurd ((hnone b hold' hschedule.symm).symm.trans hpending') Bool.false_ne_true
    · rfl
  pending a ha hpending := by
    rcases (hmem a).1 ha with hold | rfl
    · exact h.pending a hold hpending
    · exact ⟨hscheduled, htiming⟩
  settled a ha hacknowledged b hb hsame := by
    rcases (hmem a).1 ha with hold | rfl
    · rcases (hmem b).1 hb with hold' | rfl
      · exact h.settled a hold hacknowledged b hold' hsame
      · exact absurd hacknowledged (hchain a hold hsame.symm).2.2
    · rw [hscheduled] at hacknowledged
      cases hacknowledged

end SoundChains

/-- A task outside the given chains has not changed. -/
def Spares (chains : List ℤ) (a b : ScheduleReminderTask) : Prop :=
  Calm a b ∧ (a.chainId ∉ chains → b = a)

/-- Writes that leave nothing pending or waiting in the chains they touch may acknowledge there. -/
theorem SoundChains.close {r r' : MemoryScheduleReminderTaskRepository} (h : SoundChains r) {chains : List ℤ}
    (hspares : RewritesTasks (Spares chains) r r')
    (hclosed : ∀ b ∈ r'.tasks.rows, b.chainId ∈ chains →
      b.isPending = false ∧ b.businessStatus ≠ .waitingAcknowledgement) : SoundChains r' := by
  refine h.calm (hspares.imp fun _ _ _ _ hchange => hchange.1) fun a ha hacknowledged b hb hchain => ?_
  by_cases hin : b.chainId ∈ chains
  · exact hclosed b hb hin
  · obtain ⟨a', ha', hsame, -, hspared⟩ := hspares.back a ha
    obtain ⟨b', hb', hsame', -, hspared'⟩ := hspares.back b hb
    obtain rfl := hspared (by rwa [← hsame.chainId, ← hchain])
    obtain rfl := hspared' (by rwa [← hsame'.chainId])
    exact h.settled a ha' hacknowledged b hb' hchain

namespace ScheduleReminderService

open ScheduleService ScheduleRuleService MemoryScheduleReminderTaskRepository

variable {env : ReminderEnv} {s s' s'' : ScheduleReminderService}

/-! ## The counter of chains -/

/-- The service runs as before, and has issued no chain identifier. -/
structure SameCounter (s s' : ScheduleReminderService) : Prop where
  running : s'.running = s.running
  sequence : s'.chainSequence = s.chainSequence

theorem SameCounter.refl (s : ScheduleReminderService) : SameCounter s s := ⟨rfl, rfl⟩

theorem SameCounter.trans (h : SameCounter s s') (h' : SameCounter s' s'') : SameCounter s s'' :=
  ⟨h'.running.trans h.running, h'.sequence.trans h.sequence⟩

theorem cancelTiming_sameCounter (s : ScheduleReminderService) (timingTaskId : String) :
    SameCounter s (cancelTiming env s timingTaskId).2 := by
  unfold cancelTiming
  split_ifs <;> exact ⟨rfl, rfl⟩

theorem cancelPendingTask_sameCounter (state : Status × ScheduleReminderService) (task : ScheduleReminderTask) :
    SameCounter state.2 (cancelPendingTask env none state task).2 := by
  unfold cancelPendingTask
  split
  · exact SameCounter.refl _
  · split
    · exact ⟨rfl, rfl⟩
    · next id _ =>
        have hcancelled := @cancelTiming_sameCounter env state.2 id
        dsimp only
        split
        · exact hcancelled
        · exact ⟨hcancelled.running, hcancelled.sequence⟩

theorem cancelPendingTasks_sameCounter (s : ScheduleReminderService) (scheduleId : ℤ) :
    SameCounter s (cancelPendingTasks env s scheduleId).2 := by
  have hloop : ∀ (tasks : List ScheduleReminderTask) (state : Status × ScheduleReminderService),
      SameCounter state.2 (tasks.foldl (cancelPendingTask env none) state).2 := by
    intro tasks
    induction tasks with
    | nil => exact fun state => SameCounter.refl _
    | cons task tasks ih => exact fun state => (cancelPendingTask_sameCounter state task).trans (ih _)
  exact hloop _ (.success, s)

theorem registerPersistedTask_sameCounter (s : ScheduleReminderService) (task : ScheduleReminderTask) :
    SameCounter s (registerPersistedTask env s task).2 := by
  unfold registerPersistedTask
  split
  · exact SameCounter.refl _
  · split_ifs <;> exact ⟨rfl, rfl⟩

theorem registerReminder_sameCounter (s : ScheduleReminderService) (scheduleId chainId attempt triggerAt : ℤ) :
    SameCounter s (registerReminder env s scheduleId chainId attempt triggerAt).2 := by
  unfold registerReminder
  split
  · exact SameCounter.refl _
  · dsimp only
    split
    · exact ⟨rfl, rfl⟩
    · next inserted reminders _ =>
        have hregistered := @registerPersistedTask_sameCounter env
          { (s.allocateTaskId "schedule-reminder").2 with reminders } inserted
        split
        · exact ⟨hregistered.running, hregistered.sequence⟩
        · exact ⟨hregistered.running, hregistered.sequence⟩

theorem scheduleGenerationRetry_sameCounter (s : ScheduleReminderService) (ruleId failures : ℤ) :
    SameCounter s (scheduleGenerationRetry env s ruleId failures).2 := by
  unfold scheduleGenerationRetry
  dsimp only
  split_ifs <;> exact ⟨rfl, rfl⟩

/-- Short of the last identifier the counter goes up by one. -/
theorem allocateChainId_eq (hroom : s.chainSequence < int64Max) :
    s.allocateChainId = (s.chainSequence + 1, { s with chainSequence := s.chainSequence + 1 }) := by
  unfold allocateChainId
  dsimp only
  rw [if_neg hroom.ne]

/-! ## The service -/

/-- The chains are sound, and no task has a chain identifier that a running service could issue again. -/
structure SoundService (s : ScheduleReminderService) : Prop where
  chains : SoundChains s.reminders
  issued : s.running = true → ∀ a ∈ s.reminders.tasks.rows, a.chainId ≤ s.chainSequence

namespace SoundService

/-- New chains, on tasks that go on from the old ones. -/
theorem rewrite {change : ScheduleReminderTask → ScheduleReminderTask → Prop} (h : SoundService s)
    (hchains : SoundChains s'.reminders) (hrewrites : RewritesTasks change s.reminders s'.reminders)
    (hcounter : SameCounter s s') : SoundService s' := by
  refine ⟨hchains, fun hrunning a ha => ?_⟩
  obtain ⟨a', ha', hsame, -⟩ := hrewrites.back a ha
  rw [hsame.chainId, hcounter.sequence]
  exact h.issued (hcounter.running ▸ hrunning) a' ha'

theorem quiet (h : SoundService s) (hquiet : RewritesTasks Quiet s.reminders s'.reminders)
    (hcounter : SameCounter s s') : SoundService s' :=
  h.rewrite (h.chains.quiet hquiet) hquiet hcounter

theorem same (h : SoundService s) (hreminders : s'.reminders = s.reminders) (hcounter : SameCounter s s') :
    SoundService s' := by
  refine h.quiet ?_ hcounter
  rw [hreminders]
  exact RewritesTasks.refl Quiet.refl _

end SoundService

theorem cancelTiming_sound (h : SoundService s) (timingTaskId : String) :
    SoundService (cancelTiming env s timingTaskId).2 :=
  h.same (cancelTiming_reminders timingTaskId) (cancelTiming_sameCounter s timingTaskId)

/-- A service that stops, or has stopped, issues nothing. -/
theorem stop_sound (h : SoundService s) : SoundService (stop env s) := by
  have hloop : ∀ (ids : List String) (s : ScheduleReminderService), SoundService s →
      SoundService (ids.foldl (fun s id => (cancelTiming env s id).2) s) := by
    intro ids
    induction ids with
    | nil => exact fun s hs => hs
    | cons id ids ih => exact fun s hs => ih _ (cancelTiming_sound hs id)
  unfold stop
  split
  · exact h
  · exact hloop _ _ ⟨h.chains, fun hrunning => absurd hrunning Bool.false_ne_true⟩

theorem registerReminder_sound (h : SoundService s) {scheduleId chainId attempt triggerAt : ℤ}
    (hissued : s.running = true → chainId ≤ s.chainSequence)
    (hchain : ∀ b ∈ s.reminders.tasks.rows, b.chainId = chainId →
      b.scheduleId = scheduleId ∧ b.attempt < attempt ∧ b.businessStatus ≠ .acknowledged)
    (hbelow : ∀ k, 1 ≤ k → k < attempt → ∃ b ∈ s.reminders.tasks.rows, b.chainId = chainId ∧ b.attempt = k)
    (hnone : ∀ b ∈ s.reminders.tasks.rows, b.scheduleId = scheduleId → b.isPending = false) :
    SoundService (registerReminder env s scheduleId chainId attempt triggerAt).2 := by
  have hcounter := @registerReminder_sameCounter env s scheduleId chainId attempt triggerAt
  rcases registerReminder_outcome env s scheduleId chainId attempt triggerAt with ⟨-, hsame⟩ | ⟨row, hadds⟩
  · exact h.same hsame hcounter
  · constructor
    · obtain ⟨timingTaskId, htiming, -⟩ := hadds.timing
      refine h.chains.add hadds.mem ?_ ?_ ?_ hadds.business ?_
      · rw [hadds.chainId_eq, hadds.scheduleId_eq, hadds.attempt_eq]
        exact hchain
      · rw [hadds.chainId_eq, hadds.attempt_eq]
        exact hbelow
      · rw [hadds.scheduleId_eq]
        exact hnone
      · rw [htiming]
        rfl
    · intro hrunning a ha
      rw [hcounter.running] at hrunning
      rw [hcounter.sequence]
      rcases (hadds.mem a).1 ha with hold | rfl
      · exact h.issued hrunning a hold
      · rw [hadds.chainId_eq]
        exact hissued hrunning

/-- A schedule without a pending task gets a chain of its own. -/
theorem newChain_sound (h : SoundService s) (hrunning : s.running = true) (hroom : s.chainSequence < int64Max)
    {scheduleId triggerAt : ℤ}
    (hnone : ∀ b ∈ s.reminders.tasks.rows, b.scheduleId = scheduleId → b.isPending = false) :
    SoundService (registerReminder env s.allocateChainId.2 scheduleId s.allocateChainId.1 1 triggerAt).2 := by
  rw [allocateChainId_eq hroom]
  have hnext : SoundService { s with chainSequence := s.chainSequence + 1 } :=
    ⟨h.chains, fun _ a ha => (h.issued hrunning a ha).trans (by dsimp only; omega)⟩
  refine registerReminder_sound hnext (fun _ => le_rfl) (fun b hb hchain => ?_) (fun k hk hlt => ?_) hnone
  · have hle : b.chainId ≤ s.chainSequence := h.issued hrunning b hb
    omega
  · omega

/-! ## Cancelling and synchronising -/

theorem cancelledTask_quiet (env : ReminderEnv) (a task : ScheduleReminderTask) :
    Quiet a (cancelledTask env task) := by
  refine Quiet.of_over rfl ?_ ?_
  · show ScheduleReminderBusinessStatus.cancelled ≠ .acknowledged
    decide
  · show ScheduleReminderBusinessStatus.cancelled ≠ .waitingAcknowledgement
    decide

theorem cancelPendingTasks_quiet (env : ReminderEnv) (s : ScheduleReminderService) (scheduleId : ℤ) :
    RewritesTasks Quiet s.reminders (cancelPendingTasks env s scheduleId).2.reminders := by
  have hloop : ∀ (tasks : List ScheduleReminderTask) (state : Status × ScheduleReminderService),
      RewritesTasks Quiet s.reminders state.2.reminders → (∀ task ∈ tasks, task ∈ s.reminders.tasks.rows) →
        RewritesTasks Quiet s.reminders (tasks.foldl (cancelPendingTask env none) state).2.reminders := by
    intro tasks
    induction tasks with
    | nil => exact fun state h _ => h
    | cons task tasks ih =>
        intro state h htasks
        refine ih _ ?_ fun other hother => htasks other (List.mem_cons_of_mem _ hother)
        rcases cancelPendingTask_cases env state task with ⟨-, heq⟩ | ⟨-, cancelled, hsame, -, heq⟩
        · rwa [heq]
        · rw [heq]
          split
          · rwa [hsame]
          · rw [updateTask_reminders, hsame]
            exact h.update (htasks task (List.mem_cons_self ..)) ⟨rfl, rfl, rfl, rfl, rfl, rfl⟩
              (cancelledTask_quiet env task task)
  exact hloop _ (.success, s) (RewritesTasks.refl Quiet.refl _) fun task htask => (List.mem_filter.1 htask).1

theorem cancelPendingTasks_none {scheduleId : ℤ} (h : (cancelPendingTasks env s scheduleId).1.ok = true) :
    ∀ b ∈ (cancelPendingTasks env s scheduleId).2.reminders.tasks.rows, b.scheduleId = scheduleId →
      b.isPending = false := by
  intro b hb hschedule
  rw [Bool.eq_false_iff]
  intro hpending
  have hpair : (b.scheduleId, b.triggerAt) ∈ pendingPairs (cancelPendingTasks env s scheduleId).2 :=
    ⟨b, hb, hpending, rfl⟩
  rw [pendingPairs_cancelPendingTasks h] at hpair
  exact hpair.2 hschedule

theorem cancelPendingTasks_sound (h : SoundService s) (scheduleId : ℤ) :
    SoundService (cancelPendingTasks env s scheduleId).2 :=
  h.quiet (cancelPendingTasks_quiet env s scheduleId) (cancelPendingTasks_sameCounter s scheduleId)

theorem synchronizeSchedule_sound (h : SoundService s) (hroom : s.chainSequence < int64Max) (scheduleId : ℤ) :
    SoundService (synchronizeSchedule env s scheduleId).2 := by
  have hcancelled : SoundService (cancelPendingTasks env s scheduleId).2 := cancelPendingTasks_sound h scheduleId
  have hcounter := @cancelPendingTasks_sameCounter env s scheduleId
  unfold synchronizeSchedule
  split
  · exact h
  · next hrunning =>
      split
      · exact h
      · dsimp only
        split
        · exact hcancelled
        · next hok =>
            split
            · exact hcancelled
            · split
              · exact hcancelled
              · refine newChain_sound hcancelled ?_ ?_ (cancelPendingTasks_none (by simpa using hok))
                · rw [hcounter.running]
                  simpa using hrunning
                · rwa [hcounter.sequence]

theorem cancelScheduleReminder_sound (h : SoundService s) (scheduleId : ℤ) :
    SoundService (cancelScheduleReminder env s scheduleId).2 := by
  unfold cancelScheduleReminder
  split
  · exact h
  · exact cancelPendingTasks_sound h scheduleId

theorem suspendRuleReminders_sound (h : SoundService s) (ruleId : ℤ) :
    SoundService (suspendRuleReminders env s ruleId).2 := by
  have hloop : ∀ (schedules : List Schedule) (state : Status × ScheduleReminderService), SoundService state.2 →
      SoundService (schedules.foldl (suspendSchedule env ruleId) state).2 := by
    intro schedules
    induction schedules with
    | nil => exact fun state hstate => hstate
    | cons schedule schedules ih =>
        intro state hstate
        refine ih _ ?_
        unfold suspendSchedule
        split
        · exact hstate
        · exact cancelPendingTasks_sound hstate schedule.id
  have hsuspended := hloop s.repo.findAll (.success, s) h
  unfold suspendRuleReminders
  split
  · exact h
  · dsimp only
    split
    · exact hsuspended
    · next retry _ =>
        have hwithout : SoundService { (s.repo.findAll.foldl (suspendSchedule env ruleId) (.success, s)).2 with
            generationRetries := (s.repo.findAll.foldl (suspendSchedule env ruleId)
              (.success, s)).2.generationRetries.filter fun entry => entry.1 != ruleId } :=
          ⟨hsuspended.chains, hsuspended.issued⟩
        split <;> exact cancelTiming_sound hwithout retry.taskId

end ScheduleReminderService

end VoiceLife
