import VoiceLife.Timing.EspTimingRuntime

/-! # No wake-up of the runner task is lost

The runner task sleeps until it is notified. The invariants below say who still has to notify it: a
client between sending a command and its notification, the task of the timer, or the owner. They are
kept by every step of every party, so a task that sleeps while nobody is about to wake it has nothing
to do: no command waits, and the timer is set for the next task.
-/

namespace VoiceLife

open Run InMemoryTimingTaskRunner

/-! ## Places -/

/-- The runner task is on its way to its end. -/
def RunnerTask.ending : RunnerTask → Bool
  | .draining stop | .starting stop | .processing stop _ _ | .handling stop _ _ _ => stop
  | .clearing _ | .giving | .finished => true
  | _ => false

/-- The runner task looks into the queue before it sleeps again. -/
def RunnerTask.drains : RunnerTask → Bool
  | .woken | .draining _ => true
  | _ => false

/-- The runner task has not ended, and it has no look into the queue before it. -/
def RunnerTask.works : RunnerTask → Bool
  | .woken | .draining _ | .finished | .aborted => false
  | _ => true

theorem RunnerTask.drains_of_works {task : RunnerTask} (h : task.works = true) :
    task.drains = false ∧ task ≠ .woken ∧ task ≠ .finished ∧ task ≠ .aborted := by
  cases task <;> simp_all [works, drains]

/-- How many commands the runner still has, where the place tells. -/
def RunnerTask.left : RunnerTask → Option ℕ
  | .processing _ count _ | .handling _ count _ _ => some count
  | .arming _ | .delaying | .clearing _ | .giving | .finished => some 0
  | _ => none

/-- The runner task has begun to quiesce the timer. -/
def RunnerTask.quiesces : RunnerTask → Bool
  | .clearing .begin => false
  | .clearing _ | .giving | .finished => true
  | _ => false

/-- The owner has set `stopping_`. -/
def Owner.hasStopped : Owner → Bool
  | .running | .closed => false
  | _ => true

/-- The owner has joined the runner task. -/
def Owner.hasJoined : Owner → Bool
  | .joined | .deleted => true
  | _ => false

/-- The timer task is on its way to the callback. -/
def TimerEntry.calls : TimerEntry → Bool
  | .dispatched | .accessing | .calling => true
  | _ => false

/-! ## What a batch leaves alone -/

namespace InMemoryTimingTaskRunner

theorem applyRegisterTask_frame (r : InMemoryTimingTaskRunner) (command : RegisterTaskCommand)
    (appliedAt : ℤ) : (r.applyRegisterTask command appliedAt).2.commands = r.commands ∧
      (r.applyRegisterTask command appliedAt).2.log = r.log ∧
      (r.applyRegisterTask command appliedAt).2.callbackAppliedAt = r.callbackAppliedAt := by
  unfold applyRegisterTask
  split_ifs
  · exact ⟨rfl, rfl, rfl⟩
  · exact ⟨rfl, rfl, rfl⟩

theorem applyCancelTask_frame (r : InMemoryTimingTaskRunner) (taskId : TaskId) (appliedAt : ℤ) :
    (r.applyCancelTask taskId appliedAt).2.commands = r.commands ∧
      (r.applyCancelTask taskId appliedAt).2.log = r.log ∧
      (r.applyCancelTask taskId appliedAt).2.callbackAppliedAt = r.callbackAppliedAt := by
  rcases applyCancelTask_cases r taskId appliedAt with ⟨node, hnode, terminalTasks, -, h⟩ | ⟨-, h⟩
  · rw [h]
    exact ⟨rfl, rfl, rfl⟩
  · rw [h]
    exact ⟨rfl, rfl, rfl⟩

/-- The queue of the runner is empty and nothing has been put into it since a log was written. -/
structure QueueQuiet (log : List TimingEvent) (r : InMemoryTimingTaskRunner) : Prop where
  commands_eq : r.commands = []
  submissions_eq : submissions r.log = submissions log

namespace QueueQuiet

variable {log : List TimingEvent} {r : InMemoryTimingTaskRunner}

theorem record (h : QueueQuiet log r) (event : TimingEvent) (hevent : submissions [event] = []) :
    QueueQuiet log (r.record event) := by
  refine ⟨h.commands_eq, ?_⟩
  rw [InMemoryTimingTaskRunner.record, submissions_append, hevent, List.append_nil, h.submissions_eq]

theorem processPendingCommands (h : QueueQuiet log r) (appliedAt : ℤ) :
    QueueQuiet log (r.processPendingCommands appliedAt).2 ∧
      (r.processPendingCommands appliedAt).2.callbackAppliedAt = r.callbackAppliedAt := by
  unfold InMemoryTimingTaskRunner.processPendingCommands
  split_ifs
  · exact ⟨h, rfl⟩
  · rw [h.commands_eq]
    exact ⟨⟨rfl, h.submissions_eq⟩, rfl⟩

/-- In a callback the commands of client code are applied at once. -/
theorem runScript (h : QueueQuiet log r) (script : Script) {appliedAt : ℤ}
    (hcontext : r.callbackAppliedAt = some appliedAt) : QueueQuiet log (r.runScript script) ∧
      (r.runScript script).callbackAppliedAt = some appliedAt := by
  unfold InMemoryTimingTaskRunner.runScript
  -- a command inside a callback is applied at once, so it neither waits nor counts as submitted
  induction script generalizing r with
  | done => exact ⟨h, hcontext⟩
  | observe next ih =>
      rw [runWith]
      exact ih _ h hcontext
  | registerTask taskId triggerAt callback onResult next _ ihResult ihNext =>
      obtain ⟨hcommands, hlog, happlied⟩ :=
        applyRegisterTask_frame r ⟨taskId, triggerAt, callback, onResult⟩ appliedAt
      rw [runWith, hcontext]
      have hquiet : QueueQuiet log (r.applyRegisterTask ⟨taskId, triggerAt, callback, onResult⟩ appliedAt).2 :=
        ⟨hcommands.trans h.commands_eq, hlog ▸ h.submissions_eq⟩
      obtain ⟨hresult, hcontext'⟩ := ihResult _
        (hquiet.record (.registerResult false taskId triggerAt _) rfl) (happlied.trans hcontext)
      exact ihNext hresult hcontext'
  | cancelTask taskId onResult next ihResult ihNext =>
      obtain ⟨hcommands, hlog, happlied⟩ := applyCancelTask_frame r taskId appliedAt
      rw [runWith, hcontext]
      have hquiet : QueueQuiet log (r.applyCancelTask taskId appliedAt).2 :=
        ⟨hcommands.trans h.commands_eq, hlog ▸ h.submissions_eq⟩
      obtain ⟨hresult, hcontext'⟩ := ihResult _
        (hquiet.record (.cancelResult false taskId _) rfl) (happlied.trans hcontext)
      exact ihNext hresult hcontext'
  | processPendingCommands appliedAt' next ih =>
      rw [runWith]
      obtain ⟨hquiet, hcontext'⟩ := h.processPendingCommands appliedAt'
      exact ih _ hquiet (hcontext'.trans hcontext)

theorem runBatch (now : ℤ) {dueTaskIds : List TaskId} (h : QueueQuiet log r) (processed skipped : ℕ) :
    QueueQuiet log (InMemoryTimingTaskRunner.runBatch now dueTaskIds (processed, skipped, r)).2.2 := by
  induction dueTaskIds generalizing r processed skipped with
  | nil => exact h
  | cons dueTaskId dueTaskIds ih =>
      rw [InMemoryTimingTaskRunner.runBatch]
      split
      · exact ih h _ _
      · next node hnode =>
          refine ih ?_ _ _
          have hinvoked : QueueQuiet log (({ r.erase node (OrderedIndex.find?_eq_some.1 hnode).1 with
              callbackAppliedAt := some now }).record
                (.invoked node.value.task.id node.value.task.triggerAt)) :=
            QueueQuiet.record (r := { r.erase node _ with callbackAppliedAt := some now })
              ⟨h.commands_eq, h.submissions_eq⟩ (.invoked _ _) rfl
          obtain ⟨hrun, -⟩ := hinvoked.runScript node.value.callback rfl
          exact ⟨hrun.commands_eq, hrun.submissions_eq⟩

theorem runDueTasks (h : QueueQuiet log r) (now : ℤ) : QueueQuiet log (r.runDueTasks now).2 := by
  unfold InMemoryTimingTaskRunner.runDueTasks
  exact (((h.processPendingCommands now).1.record (.batchTaken now) rfl).runBatch now 0 0).record
    (.batchDone _) rfl

end QueueQuiet

end InMemoryTimingTaskRunner

namespace EspTimingTaskRuntime

/-! ## The invariants -/

/-- The flags tell where the owner is, and every wake-up that is needed has been given or is still to
come. -/
structure Control (s : EspTimingTaskRuntime) : Prop where
  accepting_eq : s.accepting = (s.owner = .running)
  stopping_eq : s.stopping = s.owner.hasStopped
  wakeTask_eq : s.wakeTask = !s.owner.hasJoined
  asserted_eq : s.asserted = false
  sent : s.submission = .sent → s.owner = .running
  ending : s.task.ending = true → s.stopping = true
  queue_signalled : s.commandQueue ≠ [] →
    s.notified = true ∨ s.submission = .sent ∨ s.task.drains = true
  queue_drained : s.task.ending = true → s.task.drains = false → s.commandQueue = []
  stop_signalled : s.owner = .signalled →
    s.notified = true ∨ s.task = .woken ∨ s.task.ending = true ∨ s.task = .aborted
  stopped : s.stopped = true → s.task = .finished ∧ s.owner.hasJoined = false
  finished : s.task = .finished → s.stopped = true ∨ s.owner.hasJoined = true
  joined : s.owner.hasJoined = true → s.task = .finished

/-- The barrier of `ClearExpiryCallbackAndWait`: the runner task waits for one entry of the timer task
that has taken the barrier, and none can follow it. -/
structure Barrier (task : RunnerTask) (timer : EspOneShotTimer) : Prop where
  quiescing_eq : task ≠ .aborted → timer.quiescing = task.quiesces
  accessing_iff : timer.callbackAccessingOwner = true ↔ timer.entry ≠ .idle ∧ timer.entry ≠ .dispatched
  quiesced_callback : timer.quiescedCallback = true → task = .giving ∨ task = .finished
  callback : timer.callback = true ∨ task = .giving ∨ task = .finished
  armed : timer.barrierArmed = true → task = .clearing .waiting ∧ timer.quiesced = false ∧
    timer.entry ≠ .completing ∧ (timer.alarm.isSome = true ∨ timer.entry = .dispatched ∨
      timer.entry = .accessing ∨ timer.entry = .quiescing)
  completing : timer.entry = .completing → task = .clearing .waiting ∧ timer.barrierArmed = false ∧
    timer.alarm = none ∧ timer.quiesced = false
  given : timer.quiesced = true → task = .clearing .waiting ∧ timer.barrierArmed = false ∧
    timer.alarm = none ∧ (timer.entry = .leaving ∨ timer.entry = .idle)
  waiting : task = .clearing .waiting →
    timer.barrierArmed = true ∨ timer.entry = .completing ∨ timer.quiesced = true
  passed : task = .clearing .spinning ∨ task = .giving ∨ task = .finished →
    timer.alarm = none ∧ (timer.entry = .leaving ∨ timer.entry = .idle)
  ended : task = .giving ∨ task = .finished → timer.entry = .idle ∧ timer.callback = false
  entered : timer.entry = .quiescing → timer.quiescing = true

/-- The timer is set for a wake-up, or not running if there is none. -/
def SetFor (alarm : Option Alarm) : Option ℤ → Prop
  | none => alarm = none
  | some wakeAt => ∃ armedAt, alarm = some ⟨armedAt, (max 1 (wakeAt - armedAt)).toNat⟩

/-- The commands that were accepted are those that the runner was given and those in the queue, and the
runner refines its specification. -/
structure Carried (s : EspTimingTaskRuntime) : Prop where
  reached : Reached none s.runner
  accepted_eq : s.accepted = submissions s.runner.log ++ s.commandQueue.map PendingCommand.order
  left : ∀ count, s.task.left = some count → s.runner.commands.length = count
  idle : s.task = .waiting ∨ s.task = .woken → s.stopping = true ∨ s.runner.commands = []
  next : ∀ nextWakeAt, s.task = .arming nextWakeAt → nextWakeAt = s.runner.nextWakeAt
  set : s.task = .waiting → s.stopping = true ∨ s.notified = true ∨ s.timer.entry.calls = true ∨
    SetFor s.timer.alarm s.runner.nextWakeAt

variable {s : EspTimingTaskRuntime}

/-! ## Notifications -/

namespace Control

/-- As long as the owner has not joined the runner task, the wake port knows it. -/
theorem notify_eq (h : Control s) (howner : s.owner.hasJoined = false) :
    s.notify = { s with notified := true } := by
  rw [EspTimingTaskRuntime.notify, h.wakeTask_eq, howner]
  rfl

theorem notify (h : Control s) (howner : s.owner.hasJoined = false) : Control s.notify := by
  rw [h.notify_eq howner]
  exact ⟨h.accepting_eq, h.stopping_eq, h.wakeTask_eq, h.asserted_eq, h.sent, h.ending,
    fun _ => .inl rfl, h.queue_drained, fun _ => .inl rfl, h.stopped, h.finished, h.joined⟩

/-- Only before the owner closes the entrance, commands are sent. -/
theorem running_of_sends (h : Control s) {memory : Bool} (hsends : s.sends memory = true) :
    s.owner = .running := by
  simp only [sends, Bool.and_eq_true] at hsends
  exact h.accepting_eq.mp hsends.1.1

/-- What the runner and the timer are is of no account. -/
theorem setPorts (h : Control s) (runner : InMemoryTimingTaskRunner) (timer : EspOneShotTimer) :
    Control { s with runner, timer } :=
  ⟨h.accepting_eq, h.stopping_eq, h.wakeTask_eq, h.asserted_eq, h.sent, h.ending, h.queue_signalled,
    h.queue_drained, h.stop_signalled, h.stopped, h.finished, h.joined⟩

/-- From a place before the end to another one, only what wakes the runner task has to be looked at. -/
theorem moveTo (h : Control s) (hplain : s.task ≠ .finished) {task : RunnerTask} (hplain' : task ≠ .finished)
    {runner : InMemoryTimingTaskRunner} {timer : EspOneShotTimer} {commandQueue : List PendingCommand}
    {notified : Bool} (hending : task.ending = true → s.stopping = true)
    (hqueue : commandQueue ≠ [] → notified = true ∨ s.submission = .sent ∨ task.drains = true)
    (hdrained : task.ending = true → task.drains = false → commandQueue = [])
    (hsignalled : s.owner = .signalled →
      notified = true ∨ task = .woken ∨ task.ending = true ∨ task = .aborted) :
    Control { s with runner, timer, commandQueue, notified, task } := by
  have hstopped : s.stopped ≠ true := fun hset => hplain (h.stopped hset).1
  have hjoined : s.owner.hasJoined ≠ true := fun hset => hplain (h.joined hset)
  exact ⟨h.accepting_eq, h.stopping_eq, h.wakeTask_eq, h.asserted_eq, h.sent, hending, hqueue, hdrained,
    hsignalled, fun hset => absurd hset hstopped, fun hset => absurd hset hplain',
    fun hset => absurd hset hjoined⟩

/-- The runner task goes on without looking into the queue, with any runner and timer. -/
theorem goTo (h : Control s) {place task : RunnerTask} {runner : InMemoryTimingTaskRunner}
    {timer : EspOneShotTimer} (htask : s.task = place) (hending : task.ending = place.ending)
    (hworks : place.works = true) (hworks' : task.works = true) :
    Control { s with runner, timer, task } := by
  subst htask
  obtain ⟨hdrains, hwoken, hfinished, haborted⟩ := RunnerTask.drains_of_works hworks
  obtain ⟨hdrains', -, hfinished', -⟩ := RunnerTask.drains_of_works hworks'
  refine h.moveTo hfinished hfinished' ?_ ?_ ?_ ?_
  · exact fun hset => h.ending (hending ▸ hset)
  · intro hqueue
    have hsignalled := h.queue_signalled hqueue
    rw [hdrains] at hsignalled
    rw [hdrains']
    exact hsignalled
  · exact fun hset _ => h.queue_drained (hending ▸ hset) hdrains
  · intro howner
    rcases h.stop_signalled howner with hset | hset | hset | hset
    -- a task that was not at a wake-up keeps the reason why it will see the owner's signal
    · exact .inl hset
    · exact absurd hset hwoken
    · exact .inr (.inr (.inl (hending.trans hset)))
    · exact absurd hset haborted

theorem abort (h : Control s) {place : RunnerTask} {timer : EspOneShotTimer} (htask : s.task = place)
    (hworks : place.works = true) : Control { s with timer, task := .aborted } := by
  subst htask
  obtain ⟨hdrains, -, hfinished, -⟩ := RunnerTask.drains_of_works hworks
  refine h.moveTo hfinished (by simp) (by simp [RunnerTask.ending]) (fun hqueue => ?_)
    (by simp [RunnerTask.ending]) fun _ => .inr (.inr (.inr rfl))
  have hsignalled := h.queue_signalled hqueue
  rw [hdrains] at hsignalled
  exact hsignalled

end Control

/-- A handler changes neither the timer nor, but for its progress, the place of the runner task. -/
theorem enqueue_frame (s : EspTimingTaskRuntime) (memory : Bool) (command : PendingCommand) :
    (s.enqueue memory command).timer = s.timer ∧ (s.enqueue memory command).task = s.task ∧
      (s.enqueue memory command).runner = s.runner := by
  unfold enqueue notify
  split
  · split_ifs
    · exact ⟨rfl, rfl, rfl⟩
    · exact ⟨rfl, rfl, rfl⟩
    · exact ⟨rfl, rfl, rfl⟩
  · exact ⟨rfl, rfl, rfl⟩

/-! ## Control -/

namespace Control

/-- A client goes on in `Enqueue`, and if it had to notify, it has done so. -/
theorem submitTo (h : Control s) {submission : Submission} {notified : Bool}
    (hsubmission : submission ≠ .sent) (hnotified : s.notified = true → notified = true)
    (hsent : s.submission = .sent → notified = true) : Control { s with submission, notified } :=
  ⟨h.accepting_eq, h.stopping_eq, h.wakeTask_eq, h.asserted_eq, fun hset => absurd hset hsubmission,
    h.ending, fun hqueue => (h.queue_signalled hqueue).elim (.inl ∘ hnotified) (Or.imp hsent .inr),
    h.queue_drained, fun howner => (h.stop_signalled howner).imp_left hnotified, h.stopped, h.finished,
    h.joined⟩

theorem call (h : Control s) (command : PendingCommand) : Control (s.call command) := by
  unfold EspTimingTaskRuntime.call
  split
  · next hfree =>
      split_ifs with hdeleted
      · exact h
      · exact h.submitTo (by simp) id (by simp [hfree])
  · exact h

theorem send (h : Control s) (hrunning : s.owner = .running) (command : PendingCommand)
    {submission : Submission} (hsignal : s.notified = true ∨ submission = .sent) :
    Control { s.send command with submission } := by
  have hending : s.task.ending = false := by
    rw [Bool.eq_false_iff]
    intro hset
    -- a task on its way to its end has seen that the owner stopped, but the owner is running
    have hstopping := h.ending hset
    rw [h.stopping_eq, hrunning] at hstopping
    cases hstopping
  refine ⟨h.accepting_eq, h.stopping_eq, h.wakeTask_eq, h.asserted_eq, fun _ => hrunning, h.ending,
    fun _ => hsignal.imp_right .inl, fun hset => ?_, h.stop_signalled, h.stopped, h.finished, h.joined⟩
  rw [EspTimingTaskRuntime.send, hending] at hset
  cases hset

theorem submit (h : Control s) (memory : Bool) : Control (s.submit memory) := by
  unfold EspTimingTaskRuntime.submit
  split
  · exact h
  · next command hholding =>
      split_ifs with hsends
      · exact h.send (h.running_of_sends hsends) _ (.inr rfl)
      · exact h.submitTo (by simp) id (by simp [hholding])
  · next hsent =>
      rw [h.notify_eq (by rw [h.sent hsent]; rfl)]
      exact h.submitTo (by simp) (fun _ => rfl) fun _ => rfl

/-- The timer task only calls the callback while the owner has not joined the runner task. -/
theorem owner_of_calls (h : Control s) (hbarrier : Barrier s.task s.timer)
    (hcall : s.timer.taskStep.1 = true) : s.owner.hasJoined = false := by
  have hcalls : s.timer.taskStep.1 = true → s.timer.entry = .calling := by
    unfold EspOneShotTimer.taskStep
    split <;> try split_ifs
    all_goals simp_all
  rw [Bool.eq_false_iff]
  intro hjoined
  have hidle := (hbarrier.ended (.inr (h.joined hjoined))).1
  rw [hcalls hcall] at hidle
  cases hidle

theorem timerTask (h : Control s) (hbarrier : Barrier s.task s.timer) : Control s.timerTask := by
  have hset := h.setPorts s.runner s.timer.taskStep.2
  unfold EspTimingTaskRuntime.timerTask
  dsimp only
  split_ifs with hcall
  · exact hset.notify (h.owner_of_calls hbarrier hcall)
  · exact hset

theorem enqueue (h : Control s) (memory : Bool) (command : PendingCommand) :
    Control (s.enqueue memory command) := by
  unfold EspTimingTaskRuntime.enqueue
  split
  · next hfree =>
      split_ifs with hsends
      · have hrunning := h.running_of_sends hsends
        have hnotified := h.notify (by rw [hrunning]; rfl)
        rw [h.notify_eq (by rw [hrunning]; rfl)] at hnotified
        have hsent := @send _ hnotified hrunning command s.submission (.inl rfl)
        -- a handler notifies at once, so sending and notifying is one step here
        have heq : (s.send command).notify =
            { ({ s with notified := true } : EspTimingTaskRuntime).send command with
              submission := s.submission } := by
          rw [EspTimingTaskRuntime.notify, if_pos]
          · rfl
          · exact h.wakeTask_eq.trans (by rw [hrunning]; rfl)
        rw [heq]
        exact hsent
      · exact h
  · exact h

/-- The owner goes on, and has joined the runner task if it had before. -/
theorem ownerTo (h : Control s) {owner : Owner} (hjoined : owner.hasJoined = s.owner.hasJoined)
    {accepting stopping notified : Bool} (haccepting : accepting = (owner = .running))
    (hstopping : stopping = owner.hasStopped) (hset : s.stopping = true → stopping = true)
    (hsent : s.submission ≠ .sent) (hnotified : s.notified = true → notified = true)
    (hsignalled : owner = .signalled → notified = true) :
    Control { s with accepting, stopping, notified, owner } := by
  refine ⟨haccepting, hstopping, ?_, h.asserted_eq, fun hset => absurd hset hsent,
    fun hending => hset (h.ending hending), fun hqueue => (h.queue_signalled hqueue).imp_left hnotified,
    h.queue_drained, fun howner => .inl (hsignalled howner), ?_, ?_, ?_⟩
  · rw [hjoined]
    exact h.wakeTask_eq
  · rw [hjoined]
    exact h.stopped
  · rw [hjoined]
    exact h.finished
  · rw [hjoined]
    exact h.joined

theorem stop (h : Control s) : Control s.stop := by
  -- only the owner that runs leaves `Enqueue` to a client that still has to notify
  have hsent : s.owner ≠ .running → s.submission ≠ .sent := fun howner hset => howner (h.sent hset)
  unfold EspTimingTaskRuntime.stop
  split
  · next howner =>
      split
      · next hfree =>
          exact h.ownerTo (by rw [howner]; rfl) (by simp) (h.stopping_eq.trans (by rw [howner]; rfl)) id
            (by simp [hfree]) id (by simp)
      · exact h
  · next howner =>
      exact h.ownerTo (by rw [howner]; rfl) (h.accepting_eq.trans (by simp [howner])) rfl (fun _ => rfl)
        (hsent (by simp [howner])) id (by simp)
  · next howner =>
      rw [h.notify_eq (by rw [howner]; rfl)]
      exact h.ownerTo (by rw [howner]; rfl) (h.accepting_eq.trans (by simp [howner]))
        (h.stopping_eq.trans (by rw [howner]; rfl)) id (hsent (by simp [howner])) (fun _ => rfl) fun _ => rfl
  · next howner =>
      split_ifs with hstopped
      · have htask := (h.stopped hstopped).1
        exact ⟨h.accepting_eq.trans (by simp [howner]), h.stopping_eq.trans (by rw [howner]; rfl), rfl,
          h.asserted_eq, fun hset => absurd hset (hsent (by simp [howner])), h.ending, h.queue_signalled,
          h.queue_drained, by simp, by simp, fun _ => .inr rfl, fun _ => htask⟩
      · exact h
  · next howner =>
      have htask := h.joined (by rw [howner]; rfl)
      have hqueue := h.queue_drained (by rw [htask]; rfl) (by rw [htask]; rfl)
      split
      · next hcommand =>
          rw [hqueue] at hcommand
          cases hcommand
      · split
        · next hfree =>
            exact h.ownerTo (by rw [howner]; rfl) (h.accepting_eq.trans (by simp [howner]))
              (h.stopping_eq.trans (by rw [howner]; rfl)) id (by simp [hfree]) id (by simp)
        · exact h
  · exact h

theorem clearStep (h : Control s) {phase : Clearing} (htask : s.task = .clearing phase)
    (answers : Answers) : Control ((s.clearStep answers phase).getD { s with task := .aborted }) := by
  unfold EspTimingTaskRuntime.clearStep
  cases phase with
  | begin =>
      dsimp only
      split_ifs
      · exact h.goTo htask rfl rfl rfl
      · exact h.goTo htask rfl rfl rfl
  | stop =>
      dsimp only
      split
      · exact h.goTo htask rfl rfl rfl
      · exact h.abort htask rfl
  | semaphore => exact h.goTo htask rfl rfl rfl
  | barrier =>
      dsimp only
      split
      · exact h.goTo htask rfl rfl rfl
      · exact h.abort htask rfl
  | waiting =>
      dsimp only
      split_ifs
      · exact h.goTo htask rfl rfl rfl
      · exact h
  | spinning =>
      dsimp only
      split_ifs
      · exact h
      · exact h.goTo htask rfl rfl rfl

theorem handleStep (h : Control s) {stop : Bool} {count : ℕ} {appliedAt : ℤ} {handler : Script}
    (htask : s.task = .handling stop count appliedAt handler) (memory : Bool) :
    Control (s.handleStep memory stop count appliedAt handler) := by
  unfold EspTimingTaskRuntime.handleStep
  cases handler with
  | done => exact h.goTo htask rfl rfl rfl
  | observe next => exact h.goTo htask rfl rfl rfl
  | registerTask taskId triggerAt callback onResult next =>
      exact (h.enqueue memory _).goTo ((s.enqueue_frame _ _).2.1.trans htask) rfl rfl rfl
  | cancelTask taskId onResult next =>
      exact (h.enqueue memory _).goTo ((s.enqueue_frame _ _).2.1.trans htask) rfl rfl rfl
  | processPendingCommands appliedAt next => exact h.goTo htask rfl rfl rfl

theorem armStep (h : Control s) {nextWakeAt : Option ℤ} (htask : s.task = .arming nextWakeAt)
    (answers : Answers) : Control (s.armStep answers nextWakeAt) := by
  unfold EspTimingTaskRuntime.armStep
  dsimp only
  split_ifs
  · exact h.goTo htask rfl rfl rfl
  · exact h.abort htask rfl
  · exact h.goTo htask rfl rfl rfl

theorem runnerTask (h : Control s) (answers : Answers) : Control (s.runnerTask answers) := by
  unfold EspTimingTaskRuntime.runnerTask
  cases htask : s.task with
  | handling stop count appliedAt handler => exact h.handleStep htask _
  | arming nextWakeAt => exact h.armStep htask answers
  | clearing phase => exact h.clearStep htask answers
  | finished => exact h
  | aborted => exact h
  | waiting =>
      dsimp only
      split_ifs
      · exact h.moveTo (by simp [htask]) (by simp) (by simp [RunnerTask.ending]) (fun _ => .inr (.inr rfl))
          (by simp [RunnerTask.ending]) fun _ => .inr (.inl rfl)
      · exact h
  | woken =>
      -- the owner signals after it has set `stopping_`, so the task that it woke sees it
      have hstop : s.owner = .signalled → s.stopping = true := fun howner =>
        h.stopping_eq.trans (by rw [howner]; rfl)
      exact h.moveTo (by simp [htask]) (by simp) id (fun _ => .inr (.inr rfl)) (by simp [RunnerTask.drains])
        fun howner => .inr (.inr (.inl (hstop howner)))
  | draining stop =>
      dsimp only
      split
      · have hsignalled := h.stop_signalled
        rw [htask] at hsignalled
        exact h.moveTo (by simp [htask]) (by simp) (fun hset => h.ending (htask ▸ hset))
          (fun _ => .inr (.inr rfl)) (by simp [RunnerTask.drains]) hsignalled
      · next hempty =>
          cases stop with
          | true =>
              exact h.moveTo (by simp [htask]) (by simp) (fun _ => h.ending (by rw [htask]; rfl))
                (fun hqueue => absurd hempty hqueue) (fun _ _ => hempty) fun _ => .inr (.inr (.inl rfl))
          | false =>
              refine h.moveTo (by simp [htask]) (by simp) (by simp [RunnerTask.ending])
                (fun hqueue => absurd hempty hqueue) (fun _ _ => hempty) fun howner => .inl ?_
              exact (h.stop_signalled howner).resolve_right (by simp [htask, RunnerTask.ending])
  | checking =>
      dsimp only
      split_ifs
      · exact h.goTo htask rfl rfl rfl
      · exact h.goTo htask rfl rfl rfl
  | starting stop =>
      dsimp only
      split_ifs with hdone
      · exact h.goTo htask hdone.1.symm rfl rfl
      · exact h.goTo htask rfl rfl rfl
  | processing stop count appliedAt =>
      cases count with
      | zero =>
          dsimp only
          split_ifs with hstop
          · exact h.goTo htask hstop.symm rfl rfl
          · have hfalse : stop = false := Bool.eq_false_iff.2 hstop
            exact h.goTo htask hfalse.symm rfl rfl
      | succ count =>
          dsimp only [applyNext]
          split
          · exact h
          · exact h.goTo htask rfl rfl rfl
          · exact h.goTo htask rfl rfl rfl
  | delaying =>
      refine h.moveTo (by simp [htask]) (by simp) (by simp [RunnerTask.ending]) (fun _ => .inr (.inr rfl))
        (by simp [RunnerTask.ending]) fun howner => .inl ?_
      exact (h.stop_signalled howner).resolve_right (by simp [htask, RunnerTask.ending])
  | giving =>
      have hempty := h.queue_drained (by rw [htask]; rfl) (by rw [htask]; rfl)
      have hjoined : s.owner.hasJoined = false := by
        rw [Bool.eq_false_iff]
        intro hset
        rw [h.joined hset] at htask
        cases htask
      exact ⟨h.accepting_eq, h.stopping_eq, h.wakeTask_eq, h.asserted_eq, h.sent,
        fun _ => h.ending (by rw [htask]; rfl), fun hqueue => absurd hempty hqueue, fun _ _ => hempty,
        fun _ => .inr (.inr (.inl rfl)), fun _ => ⟨rfl, hjoined⟩, fun _ => .inl rfl, fun _ => rfl⟩

end Control

/-! ## The barrier -/

namespace Barrier

variable {task : RunnerTask} {timer : EspOneShotTimer}

/-- An entry of the timer task that is under way, and an alarm too, tell that the barrier has been neither
given nor passed. -/
theorem open_of_busy (h : Barrier task timer)
    (hbusy : timer.alarm.isSome = true ∨ timer.entry ≠ .leaving ∧ timer.entry ≠ .idle) :
    timer.quiesced = false ∧ ¬(task = .clearing .spinning ∨ task = .giving ∨ task = .finished) := by
  have hnot : ¬(timer.alarm = none ∧ (timer.entry = .leaving ∨ timer.entry = .idle)) := by
    rintro ⟨halarm, hentry⟩
    rcases hbusy with hset | ⟨hleaving, hidle⟩
    · rw [halarm] at hset
      cases hset
    · exact hentry.elim hleaving hidle
  refine ⟨?_, fun hset => hnot (h.passed hset)⟩
  rw [Bool.eq_false_iff]
  exact fun hset => hnot ⟨(h.given hset).2.2.1, (h.given hset).2.2.2⟩

/-- The timer task goes on without taking the barrier. -/
theorem advance (h : Barrier task timer)
    (hbusy : timer.alarm.isSome = true ∨ timer.entry ≠ .leaving ∧ timer.entry ≠ .idle)
    (hplace : timer.entry ≠ .completing) {entry : TimerEntry} (hplace' : entry ≠ .completing)
    {alarm : Option Alarm} {callbackAccessingOwner : Bool}
    (haccessing : callbackAccessingOwner = true ↔ entry ≠ .idle ∧ entry ≠ .dispatched)
    (harmed : timer.barrierArmed = true → alarm.isSome = true ∨ entry = .dispatched ∨
      entry = .accessing ∨ entry = .quiescing)
    (hentered : entry = .quiescing → timer.quiescing = true) :
    Barrier task { timer with alarm, entry, callbackAccessingOwner } := by
  obtain ⟨hquiesced, hopen⟩ := h.open_of_busy hbusy
  have hset : timer.quiesced ≠ true := by simp [hquiesced]
  refine ⟨h.quiescing_eq, haccessing, h.quiesced_callback, h.callback, fun hbarrier => ?_,
    fun hset => absurd hset hplace', fun hgiven => absurd hgiven hset, fun htask => ?_,
    fun hpassed => absurd hpassed hopen, fun hended => absurd (.inr hended) hopen, hentered⟩
  · exact ⟨(h.armed hbarrier).1, hquiesced, hplace', harmed hbarrier⟩
  · exact .inl ((h.waiting htask).resolve_right (not_or.2 ⟨hplace, hset⟩))

theorem taskStep (h : Barrier task timer) : Barrier task timer.taskStep.2 := by
  unfold EspOneShotTimer.taskStep
  cases hentry : timer.entry with
  | idle =>
      dsimp only
      split_ifs with halarm
      · have haccessing := h.accessing_iff
        rw [hentry] at haccessing
        exact h.advance (.inl halarm) (by simp [hentry]) (by simp) (by simpa using haccessing)
          (fun _ => .inr (.inl rfl)) (by simp)
      · exact h
  | dispatched =>
      exact h.advance (.inr (by simp [hentry])) (by simp [hentry]) (by simp) (by simp)
        (fun _ => .inr (.inr (.inl rfl))) (by simp)
  | accessing =>
      have haccessing : timer.callbackAccessingOwner = true := h.accessing_iff.2 (by simp [hentry])
      dsimp only
      split_ifs with hquiescing
      · exact h.advance (.inr (by simp [hentry])) (by simp [hentry]) (by simp) (by simp [haccessing])
          (fun _ => .inr (.inr (.inr rfl))) fun _ => hquiescing
      · refine h.advance (.inr (by simp [hentry])) (by simp [hentry]) (by simp) (by simp [haccessing])
          (fun hset => ?_) (by simp)
        -- an armed barrier waits in a timer that quiesces, and this one does not
        have htask := (h.armed hset).1
        refine absurd ((h.quiescing_eq (by simp [htask])).trans ?_) hquiescing
        rw [htask]
        rfl
  | calling =>
      have haccessing : timer.callbackAccessingOwner = true := h.accessing_iff.2 (by simp [hentry])
      refine h.advance (.inr (by simp [hentry])) (by simp [hentry]) (by simp) (by simp [haccessing])
        (fun hset => .inl ?_) (by simp)
      exact (h.armed hset).2.2.2.resolve_right (by simp [hentry])
  | quiescing =>
      have haccessing : timer.callbackAccessingOwner = true := h.accessing_iff.2 (by simp [hentry])
      dsimp only
      split_ifs with harmed
      · obtain ⟨htask, hquiesced, -⟩ := h.armed harmed
        exact ⟨h.quiescing_eq, by simp [haccessing], h.quiesced_callback, h.callback, by simp,
          fun _ => ⟨htask, rfl, rfl, hquiesced⟩, by simp [hquiesced], fun _ => .inr (.inl rfl),
          by simp [htask], by simp [htask], by simp⟩
      · exact h.advance (.inr (by simp [hentry])) (by simp [hentry]) (by simp) (by simp [haccessing])
          (fun hset => absurd hset harmed) (by simp)
  | completing =>
      have haccessing : timer.callbackAccessingOwner = true := h.accessing_iff.2 (by simp [hentry])
      obtain ⟨htask, harmed, halarm, -⟩ := h.completing hentry
      exact ⟨h.quiescing_eq, by simp [haccessing], h.quiesced_callback, h.callback, by simp [harmed], by simp,
        fun _ => ⟨htask, harmed, halarm, .inl rfl⟩, fun _ => .inr (.inr rfl), by simp [htask],
        by simp [htask], by simp⟩
  | leaving =>
      refine ⟨h.quiescing_eq, by simp, h.quiesced_callback, h.callback, fun hset => ?_, by simp, fun hset => ?_,
        fun htask => ?_, fun hset => ⟨(h.passed hset).1, .inr rfl⟩, fun hset => ⟨rfl, (h.ended hset).2⟩,
        by simp⟩
      · obtain ⟨htask, hquiesced, -, hway⟩ := h.armed hset
        exact ⟨htask, hquiesced, by simp, .inl (hway.resolve_right (by simp [hentry]))⟩
      · obtain ⟨htask, harmed, halarm, -⟩ := h.given hset
        exact ⟨htask, harmed, halarm, .inr rfl⟩
      · exact (h.waiting htask).imp_right (Or.imp_left fun hset => by simp [hentry] at hset)

/-- Only while the runner task waits for it, the barrier is armed, or taken, or given. -/
theorem unarmed (h : Barrier task timer) (htask : task ≠ .clearing .waiting) :
    timer.barrierArmed ≠ true ∧ timer.entry ≠ .completing ∧ timer.quiesced ≠ true :=
  ⟨fun hset => htask (h.armed hset).1, fun hset => htask (h.completing hset).1,
    fun hset => htask (h.given hset).1⟩

/-- From a place before the barrier to another place that does not wait for it. -/
theorem moveTo (h : Barrier task timer) (htask : task ≠ .clearing .waiting)
    (hpast : ¬(task = .giving ∨ task = .finished)) {task' : RunnerTask}
    (htask' : task' ≠ .clearing .waiting)
    (hpast' : ¬(task' = .clearing .spinning ∨ task' = .giving ∨ task' = .finished))
    {alarm : Option Alarm} {quiescing quiesced : Bool} (hquiescing : task' ≠ .aborted → quiescing = task'.quiesces)
    (hentered : timer.quiescing = true → quiescing = true) (hquiesced : quiesced = true → timer.quiesced = true) :
    Barrier task' { timer with alarm, quiescing, quiesced } := by
  obtain ⟨harmed, hcompleting, hgiven⟩ := h.unarmed htask
  exact ⟨hquiescing, h.accessing_iff, fun hset => absurd (h.quiesced_callback hset) hpast,
    .inl (h.callback.resolve_right hpast), fun hset => absurd hset harmed,
    fun hset => absurd hset hcompleting, fun hset => absurd (hquiesced hset) hgiven,
    fun hset => absurd hset htask', fun hset => absurd hset hpast', fun hset => absurd (.inr hset) hpast',
    fun hset => hentered (h.entered hset)⟩

/-- Outside `ClearExpiryCallbackAndWait`, starting or stopping the timer keeps the barrier, and so does
going on to another place outside. -/
theorem goOn (h : Barrier task timer) (htask : task.quiesces = false) {task' : RunnerTask}
    (htask' : task'.quiesces = false) (hplain : task ≠ .aborted) (alarm : Option Alarm) :
    Barrier task' { timer with alarm } := by
  have hne : ∀ {from' place : RunnerTask}, from'.quiesces = false → place.quiesces = true →
      from' ≠ place := by
    rintro from' place hfrom hplace rfl
    rw [hfrom] at hplace
    cases hplace
  refine h.moveTo (hne htask rfl) (not_or.2 ⟨hne htask rfl, hne htask rfl⟩) (hne htask' rfl)
    (not_or.2 ⟨hne htask' rfl, not_or.2 ⟨hne htask' rfl, hne htask' rfl⟩⟩) ?_ id id
  exact fun _ => (h.quiescing_eq hplain).trans (htask.trans htask'.symm)

theorem clearStep {phase : Clearing} (h : Barrier s.task s.timer) (htask : s.task = .clearing phase)
    (answers : Answers) : Barrier
      ((s.clearStep answers phase).getD { s with task := .aborted }).task
      ((s.clearStep answers phase).getD { s with task := .aborted }).timer := by
  unfold EspTimingTaskRuntime.clearStep
  rw [htask] at h
  have hquiescing := h.quiescing_eq (by simp)
  cases phase with
  | begin =>
      dsimp only
      split_ifs with hquiesced
      · exact absurd (h.quiesced_callback hquiesced) (by simp)
      · exact h.moveTo (by simp) (by simp) (by simp) (by simp) (fun _ => rfl) (fun _ => rfl) id
  | stop =>
      dsimp only [EspOneShotTimer.stop]
      by_cases hanswer : answers.stop = .ok ∨ answers.stop = .invalidState
      · rw [if_pos hanswer]
        exact h.moveTo (by simp) (by simp) (by simp) (by simp) (fun _ => hquiescing) id id
      · rw [if_neg hanswer]
        exact h.moveTo (by simp) (by simp) (by simp) (by simp) (by simp) id id
  | semaphore =>
      exact h.moveTo (by simp) (by simp) (by simp) (by simp) (fun _ => hquiescing) id (by simp)
  | barrier =>
      obtain ⟨-, hcompleting, hgiven⟩ := h.unarmed (by simp)
      dsimp only
      split
      · exact ⟨fun _ => hquiescing, h.accessing_iff, fun hset => absurd (h.quiesced_callback hset) (by simp),
          .inl (h.callback.resolve_right (by simp)),
          fun _ => ⟨rfl, Bool.eq_false_iff.2 hgiven, hcompleting, .inl rfl⟩,
          fun hset => absurd hset hcompleting, fun hset => absurd hset hgiven, fun _ => .inl rfl, by simp,
          by simp, h.entered⟩
      · exact h.moveTo (by simp) (by simp) (by simp) (by simp) (by simp) id id
  | waiting =>
      dsimp only
      split_ifs with hgiven
      · obtain ⟨-, harmed, halarm, hentry⟩ := h.given hgiven
        have hcompleting : s.timer.entry ≠ .completing := by
          rcases hentry with hentry | hentry
          · simp [hentry]
          · simp [hentry]
        exact ⟨fun _ => hquiescing, h.accessing_iff, fun hset => absurd (h.quiesced_callback hset) (by simp),
          .inl (h.callback.resolve_right (by simp)), by simp [harmed], fun hset => absurd hset hcompleting,
          by simp, by simp, fun _ => ⟨halarm, hentry⟩, by simp, h.entered⟩
      · rwa [Option.getD_some, htask]
  | spinning =>
      obtain ⟨harmed, hcompleting, hgiven⟩ := h.unarmed (by simp)
      dsimp only
      split_ifs with haccessing
      · rwa [Option.getD_some, htask]
      · -- the entry that took the barrier is the last one, and it has left
        have hidle : s.timer.entry = .idle := by
          refine (h.passed (.inl rfl)).2.resolve_left fun hleaving => haccessing (h.accessing_iff.2 ?_)
          simp [hleaving]
        exact ⟨fun _ => hquiescing, h.accessing_iff, fun _ => .inl rfl, .inr (.inl rfl),
          fun hset => absurd hset harmed, fun hset => absurd hset hcompleting,
          fun hset => absurd hset hgiven, by simp, fun _ => ⟨(h.passed (.inl rfl)).1, .inr hidle⟩,
          fun _ => ⟨hidle, rfl⟩, h.entered⟩

end Barrier

theorem Barrier.armStep {nextWakeAt : Option ℤ} (h : Barrier s.task s.timer)
    (htask : s.task = .arming nextWakeAt) (answers : Answers) :
    Barrier (s.armStep answers nextWakeAt).task (s.armStep answers nextWakeAt).timer := by
  have halarm : ∃ alarm, (s.armStep answers nextWakeAt).timer = { s.timer with alarm } := by
    unfold EspTimingTaskRuntime.armStep EspOneShotTimer.armAfter EspOneShotTimer.disarm EspOneShotTimer.stop
    cases nextWakeAt with
    | none =>
        dsimp only
        by_cases hstop : answers.stop = .ok ∨ answers.stop = .invalidState
        · rw [if_pos hstop]
          exact ⟨_, rfl⟩
        · rw [if_neg hstop]
          exact ⟨s.timer.alarm, rfl⟩
    | some wakeAt =>
        dsimp only
        by_cases hstop : answers.stop = .ok ∨ answers.stop = .invalidState
        · rw [if_pos hstop]
          cases answers.start <;> exact ⟨_, rfl⟩
        · rw [if_neg hstop]
          exact ⟨s.timer.alarm, rfl⟩
  have hplace : (s.armStep answers nextWakeAt).task.quiesces = false := by
    unfold EspTimingTaskRuntime.armStep
    dsimp only
    split_ifs <;> rfl
  obtain ⟨alarm, halarm⟩ := halarm
  rw [halarm]
  rw [htask] at h
  exact h.goOn rfl hplace (by simp) alarm

theorem Barrier.runnerTask (h : Barrier s.task s.timer) (answers : Answers) :
    Barrier (s.runnerTask answers).task (s.runnerTask answers).timer := by
  have hgo : ∀ (task : RunnerTask), s.task.quiesces = false → s.task ≠ .aborted →
      task.quiesces = false → Barrier task s.timer := fun task hfrom hplain hto =>
    h.goOn hfrom hto hplain s.timer.alarm
  unfold EspTimingTaskRuntime.runnerTask
  cases htask : s.task with
  | arming nextWakeAt => exact h.armStep htask answers
  | clearing phase => exact h.clearStep htask answers
  | finished => exact h
  | aborted => exact h
  | giving =>
      rw [htask] at h
      obtain ⟨harmed, hcompleting, hgiven⟩ := h.unarmed (by simp)
      obtain ⟨hidle, hcallback⟩ := h.ended (.inl rfl)
      exact ⟨fun _ => h.quiescing_eq (by simp), h.accessing_iff, fun _ => .inr rfl, .inr (.inr rfl),
        fun hset => absurd hset harmed, fun hset => absurd hset hcompleting, fun hset => absurd hset hgiven,
        by simp, fun _ => h.passed (.inr (.inl rfl)), fun _ => ⟨hidle, hcallback⟩, h.entered⟩
  | handling stop count appliedAt handler =>
      have hplace : ∀ {t : EspTimingTaskRuntime} (task : RunnerTask), t.timer = s.timer →
          task.quiesces = false → Barrier task t.timer := by
        intro t task htimer hto
        rw [htimer]
        exact hgo task (by rw [htask]; rfl) (by simp [htask]) hto
      dsimp only [handleStep]
      cases handler with
      | done => exact hplace _ rfl rfl
      | observe next => exact hplace _ rfl rfl
      | registerTask taskId triggerAt callback onResult next =>
          exact hplace _ (s.enqueue_frame _ _).1 rfl
      | cancelTask taskId onResult next => exact hplace _ (s.enqueue_frame _ _).1 rfl
      | processPendingCommands appliedAt next => exact hplace _ rfl rfl
  | waiting =>
      dsimp only
      split_ifs
      · exact hgo _ (by rw [htask]; rfl) (by simp [htask]) rfl
      · exact h
  | woken => exact hgo _ (by rw [htask]; rfl) (by simp [htask]) rfl
  | draining stop =>
      dsimp only
      split
      · exact htask ▸ h
      · refine hgo _ (by rw [htask]; rfl) (by simp [htask]) ?_
        cases stop <;> rfl
  | checking =>
      refine hgo _ (by rw [htask]; rfl) (by simp [htask]) ?_
      split_ifs <;> rfl
  | starting stop =>
      dsimp only
      split_ifs
      · exact hgo _ (by rw [htask]; rfl) (by simp [htask]) rfl
      · exact hgo _ (by rw [htask]; rfl) (by simp [htask]) rfl
  | processing stop count appliedAt =>
      cases count with
      | zero =>
          dsimp only
          split_ifs
          · exact hgo _ (by rw [htask]; rfl) (by simp [htask]) rfl
          · exact hgo _ (by rw [htask]; rfl) (by simp [htask]) rfl
      | succ count =>
          dsimp only [applyNext]
          split
          · exact h
          · exact hgo _ (by rw [htask]; rfl) (by simp [htask]) rfl
          · exact hgo _ (by rw [htask]; rfl) (by simp [htask]) rfl
  | delaying => exact hgo _ (by rw [htask]; rfl) (by simp [htask]) rfl

/-! ## What is carried -/

namespace Carried

/-- A step that leaves the runner, the queue and the places alone. -/
theorem frame (h : Carried s) {t : EspTimingTaskRuntime} (hrunner : t.runner = s.runner)
    (haccepted : t.accepted = s.accepted) (hqueue : t.commandQueue = s.commandQueue)
    (htask : t.task = s.task) (hstopping : s.stopping = true → t.stopping = true)
    (hset : s.task = .waiting → t.stopping = true ∨ t.notified = true ∨ t.timer.entry.calls = true ∨
      SetFor t.timer.alarm s.runner.nextWakeAt) : Carried t := by
  refine ⟨hrunner ▸ h.reached, ?_, ?_, ?_, ?_, ?_⟩
  · rw [haccepted, hrunner, hqueue]
    exact h.accepted_eq
  · rw [htask, hrunner]
    exact h.left
  · rw [htask, hrunner]
    exact fun hidle => (h.idle hidle).imp_left hstopping
  · rw [htask, hrunner]
    exact h.next
  · rw [htask, hrunner]
    exact hset

theorem notify (h : Carried s) : Carried s.notify := by
  unfold EspTimingTaskRuntime.notify
  split_ifs
  · exact h.frame rfl rfl rfl rfl id fun _ => .inr (.inl rfl)
  · exact h.frame rfl rfl rfl rfl id h.set

theorem call (h : Carried s) (command : PendingCommand) : Carried (s.call command) := by
  unfold EspTimingTaskRuntime.call
  split
  · split_ifs
    · exact h
    · exact h.frame rfl rfl rfl rfl id h.set
  · exact h

theorem send (h : Carried s) (command : PendingCommand) (submission : Submission) :
    Carried { s.send command with submission } := by
  refine ⟨h.reached, ?_, h.left, h.idle, h.next, h.set⟩
  change s.accepted ++ [command.order] = _ ++ (s.commandQueue ++ [command]).map PendingCommand.order
  rw [h.accepted_eq, List.map_append, List.append_assoc]
  rfl

theorem submit (h : Carried s) (memory : Bool) : Carried (s.submit memory) := by
  unfold EspTimingTaskRuntime.submit
  split
  · exact h
  · split_ifs
    · exact h.send _ _
    · exact h.frame rfl rfl rfl rfl id h.set
  · exact h.notify.frame rfl rfl rfl rfl id h.notify.set

theorem enqueue (h : Carried s) (memory : Bool) (command : PendingCommand) :
    Carried (s.enqueue memory command) := by
  unfold EspTimingTaskRuntime.enqueue
  split
  · split_ifs
    · exact (h.send command s.submission).notify
    · exact h
  · exact h

/-- The timer task notifies the runner task at the end of what an alarm began. -/
theorem timerTask (h : Carried s) (hcontrol : Control s) (hbarrier : Barrier s.task s.timer) :
    Carried s.timerTask := by
  have hstep : s.task = .waiting → s.stopping = true ∨ s.notified = true ∨
      s.timer.taskStep.1 = true ∨ s.timer.taskStep.2.entry.calls = true ∨
      SetFor s.timer.taskStep.2.alarm s.runner.nextWakeAt := by
    intro htask
    have hquiescing : s.timer.quiescing = false := by
      rw [hbarrier.quiescing_eq (by simp [htask]), htask]
      rfl
    have hcallback : s.timer.callback = true := hbarrier.callback.resolve_right (by simp [htask])
    refine (h.set htask).imp_right (Or.imp_right fun hset => ?_)
    unfold EspOneShotTimer.taskStep
    -- what an alarm began ends in a call of the callback; every other entry leaves the alarm set
    cases hentry : s.timer.entry with
    | idle =>
        dsimp only
        split_ifs
        · exact .inr (.inl rfl)
        · exact .inr hset
    | dispatched => exact .inr (.inl rfl)
    | accessing =>
        rw [hquiescing]
        exact .inr (.inl rfl)
    | calling => exact .inl hcallback
    | quiescing =>
        rw [hbarrier.entered hentry] at hquiescing
        cases hquiescing
    | completing =>
        rw [hentry] at hset
        exact .inr (.inr (hset.resolve_left (by simp [TimerEntry.calls])))
    | leaving =>
        rw [hentry] at hset
        exact .inr (.inr (hset.resolve_left (by simp [TimerEntry.calls])))
  unfold EspTimingTaskRuntime.timerTask
  dsimp only
  split_ifs with hcall
  · have hcarried : Carried { s with notified := true } := h.frame rfl rfl rfl rfl id fun _ => .inr (.inl rfl)
    rw [(hcontrol.setPorts s.runner s.timer.taskStep.2).notify_eq (hcontrol.owner_of_calls hbarrier hcall)]
    exact hcarried.frame rfl rfl rfl rfl id fun _ => .inr (.inl rfl)
  · exact h.frame rfl rfl rfl rfl id fun htask => (hstep htask).imp_right (Or.imp_right (·.resolve_left hcall))

/-- The owner finds the queue empty when it has joined the runner task. -/
theorem stop (h : Carried s) (hcontrol : Control s) : Carried s.stop := by
  unfold EspTimingTaskRuntime.stop
  split
  · split
    · exact h.frame rfl rfl rfl rfl id h.set
    · exact h
  · exact h.frame rfl rfl rfl rfl (fun _ => rfl) fun _ => .inl rfl
  · exact h.notify.frame rfl rfl rfl rfl id h.notify.set
  · split_ifs
    · exact h.frame rfl rfl rfl rfl id h.set
    · exact h
  · next howner =>
      have htask := hcontrol.joined (by rw [howner]; rfl)
      have hqueue := hcontrol.queue_drained (by rw [htask]; rfl) (by rw [htask]; rfl)
      rw [hqueue]
      dsimp only
      split
      · exact h.frame rfl rfl hqueue.symm rfl id h.set
      · exact h
  · exact h

/-- The runner task goes on with the same runner. -/
theorem goOn (h : Carried s) {task : RunnerTask} (timer : EspOneShotTimer) (notified : Bool)
    (hleft : ∀ count, task.left = some count → s.runner.commands.length = count)
    (hidle : task = .waiting ∨ task = .woken → s.stopping = true ∨ s.runner.commands = [])
    (hnext : ∀ nextWakeAt, task ≠ .arming nextWakeAt)
    (hset : task = .waiting → s.stopping = true ∨ SetFor timer.alarm s.runner.nextWakeAt) :
    Carried { s with task, timer, notified } :=
  ⟨h.reached, h.accepted_eq, hleft, hidle, fun nextWakeAt htask => absurd htask (hnext nextWakeAt),
    fun htask => (hset htask).imp_right fun h => .inr (.inr h)⟩

end Carried

/-- `ClearExpiryCallbackAndWait` goes on to another of its places, or to its end. -/
theorem clearStep_cases {t : EspTimingTaskRuntime} {answers : Answers} {phase : Clearing}
    (htask : s.task = .clearing phase) (h : s.clearStep answers phase = some t) :
    ∃ timer task, t = { s with timer, task } ∧ ((∃ phase', task = .clearing phase') ∨ task = .giving) := by
  unfold EspTimingTaskRuntime.clearStep at h
  cases phase with
  | begin =>
      dsimp only at h
      split_ifs at h
      · exact ⟨_, _, (Option.some.inj h).symm, .inr rfl⟩
      · exact ⟨_, _, (Option.some.inj h).symm, .inl ⟨_, rfl⟩⟩
  | stop =>
      dsimp only at h
      split at h
      · exact ⟨_, _, (Option.some.inj h).symm, .inl ⟨_, rfl⟩⟩
      · cases h
  | semaphore => exact ⟨_, _, (Option.some.inj h).symm, .inl ⟨_, rfl⟩⟩
  | barrier =>
      dsimp only at h
      split at h
      · exact ⟨_, _, (Option.some.inj h).symm, .inl ⟨_, rfl⟩⟩
      · cases h
  | waiting =>
      dsimp only at h
      split_ifs at h
      · exact ⟨_, _, (Option.some.inj h).symm, .inl ⟨_, rfl⟩⟩
      · exact ⟨s.timer, s.task, (Option.some.inj h).symm, .inl ⟨_, htask⟩⟩
  | spinning =>
      dsimp only at h
      split_ifs at h
      · exact ⟨s.timer, s.task, (Option.some.inj h).symm, .inl ⟨_, htask⟩⟩
      · exact ⟨_, _, (Option.some.inj h).symm, .inr rfl⟩

/-- The end of `ProcessWake` sets the timer, or tries again, or aborts. -/
theorem armStep_cases (s : EspTimingTaskRuntime) (answers : Answers) (nextWakeAt : Option ℤ) :
    ∃ timer task, s.armStep answers nextWakeAt = { s with timer, task } ∧
      (task = .waiting ∧ SetFor timer.alarm nextWakeAt ∨ task = .delaying ∨ task = .aborted) := by
  refine ⟨_, _, rfl, ?_⟩
  unfold EspOneShotTimer.armAfter EspOneShotTimer.disarm EspOneShotTimer.stop
  by_cases hstop : answers.stop = .ok ∨ answers.stop = .invalidState
  · rw [if_pos hstop]
    cases nextWakeAt with
    | none => exact .inl ⟨rfl, rfl⟩
    | some wakeAt =>
        cases answers.start with
        | ok =>
            refine .inl ⟨rfl, answers.clock, congrArg (fun delay => some (Alarm.mk _ delay)) ?_⟩
            split_ifs <;> omega
        | noMem => exact .inr (.inl rfl)
        | invalidState => exact .inr (.inr rfl)
        | fail => exact .inr (.inr rfl)
  · rw [if_neg hstop]
    cases nextWakeAt with
    | none => exact .inr (.inr rfl)
    | some wakeAt => exact .inr (.inr rfl)

namespace Carried

theorem handleStep (h : Carried s) {stop : Bool} {count : ℕ} {appliedAt : ℤ} {handler : Script}
    (htask : s.task = .handling stop count appliedAt handler) (memory : Bool) :
    Carried (s.handleStep memory stop count appliedAt handler) := by
  have hgo : ∀ {t : EspTimingTaskRuntime} (task : RunnerTask), Carried t → t.runner = s.runner →
      task.left = some count → task ≠ .waiting → task ≠ .woken → (∀ next, task ≠ .arming next) →
      Carried { t with task } := by
    intro t task ht hrunner hleft hwaiting hwoken harming
    refine ht.goOn t.timer t.notified ?_ ?_ harming (absurd · hwaiting)
    · rintro count' hcount
      rw [hrunner, ← Option.some.inj (hleft.symm.trans hcount)]
      exact h.left count (by rw [htask]; rfl)
    · exact fun hidle => absurd hidle (not_or.2 ⟨hwaiting, hwoken⟩)
  unfold EspTimingTaskRuntime.handleStep
  cases handler with
  | done => exact hgo _ h rfl rfl (by simp) (by simp) (by simp)
  | observe next => exact hgo _ h rfl rfl (by simp) (by simp) (by simp)
  | registerTask taskId triggerAt callback onResult next =>
      exact hgo _ (h.enqueue memory _) (s.enqueue_frame _ _).2.2 rfl (by simp) (by simp) (by simp)
  | cancelTask taskId onResult next =>
      exact hgo _ (h.enqueue memory _) (s.enqueue_frame _ _).2.2 rfl (by simp) (by simp) (by simp)
  | processPendingCommands appliedAt next => exact hgo _ h rfl rfl (by simp) (by simp) (by simp)

/-- The timer is set for the task that the batch left as the next one. -/
theorem armStep (h : Carried s) {nextWakeAt : Option ℤ} (htask : s.task = .arming nextWakeAt)
    (answers : Answers) : Carried (s.armStep answers nextWakeAt) := by
  have hleft := h.left 0 (by rw [htask]; rfl)
  have hempty : s.runner.commands = [] := List.length_eq_zero_iff.1 hleft
  rw [h.next nextWakeAt htask]
  obtain ⟨timer, task, heq, hplace⟩ := armStep_cases s answers s.runner.nextWakeAt
  rw [heq]
  rcases hplace with ⟨rfl, hset⟩ | rfl | rfl
  · exact h.goOn timer s.notified (by simp [RunnerTask.left]) (fun _ => .inr hempty) (by simp) fun _ => .inr hset
  · refine h.goOn timer s.notified ?_ (by simp) (by simp) (by simp)
    exact fun count hcount => hleft.trans (Option.some.inj hcount)
  · exact h.goOn timer s.notified (by simp [RunnerTask.left]) (by simp) (by simp) (by simp)

/-- A command of the queue takes effect, and its handler is next. -/
theorem applyNext (h : Carried s) {stop : Bool} {count : ℕ} {appliedAt : ℤ}
    (htask : s.task = .processing stop (count + 1) appliedAt) :
    Carried (s.applyNext stop count appliedAt) := by
  have hleft := h.left (count + 1) (by rw [htask]; rfl)
  have hplace : ∀ {runner : InMemoryTimingTaskRunner} {handler : Script}, Reached none runner →
      submissions runner.log = submissions s.runner.log → runner.commands.length = count →
      Carried { s with runner, task := .handling stop count appliedAt handler } := by
    intro runner handler hreached hlog hcommands
    refine ⟨hreached, ?_, ?_, by simp, by simp, by simp⟩
    · rw [h.accepted_eq, hlog]
    · exact fun count' hcount => hcommands.trans (Option.some.inj hcount)
  unfold EspTimingTaskRuntime.applyNext
  split
  · next hnil =>
      rw [hnil] at hleft
      cases hleft
  · next command commands hcommands =>
      obtain ⟨hrest, hlog, -⟩ :=
        applyRegisterTask_frame { s.runner with commands } command appliedAt
      rw [hcommands] at hleft
      refine hplace (h.reached.register command appliedAt hcommands) ?_ ?_
      · rw [record, submissions_append, hlog]
        exact List.append_nil _
      · exact (congrArg List.length hrest).trans (Nat.succ_injective hleft)
  · next command commands hcommands =>
      obtain ⟨hrest, hlog, -⟩ :=
        applyCancelTask_frame { s.runner with commands } command.taskId appliedAt
      rw [hcommands] at hleft
      refine hplace (h.reached.cancel command appliedAt hcommands) ?_ ?_
      · rw [record, submissions_append, hlog]
        exact List.append_nil _
      · exact (congrArg List.length hrest).trans (Nat.succ_injective hleft)

/-- With no command left, the rest of `RunDueTasks` is a batch. -/
theorem runBatch (h : Carried s) {appliedAt : ℤ} (htask : s.task = .processing false 0 appliedAt) :
    Carried { s with
      runner := (({ s.runner with processingCommands := false }).runDueTasks appliedAt).2
      task := .arming (({ s.runner with processingCommands := false }).runDueTasks appliedAt).1.nextWakeAt } := by
  have hleft := h.left 0 (by rw [htask]; rfl)
  -- the queue of the runner is empty, and the callbacks of the batch put nothing into it
  have hquiet : QueueQuiet s.runner.log ({ s.runner with processingCommands := false }) :=
    ⟨List.length_eq_zero_iff.1 hleft, rfl⟩
  obtain ⟨hcommands, hlog⟩ := hquiet.runDueTasks appliedAt
  refine ⟨(h.reached.setProcessing false).runDueTasks appliedAt, ?_, ?_, by simp, ?_, by simp⟩
  · dsimp only
    rw [hlog]
    exact h.accepted_eq
  · dsimp only
    rw [hcommands]
    exact fun count hcount => Option.some.inj hcount
  · intro nextWakeAt hnext
    cases hnext
    rfl

theorem runnerTask (h : Carried s) (answers : Answers) : Carried (s.runnerTask answers) := by
  unfold EspTimingTaskRuntime.runnerTask
  cases htask : s.task with
  | handling stop count appliedAt handler => exact h.handleStep htask _
  | arming nextWakeAt => exact h.armStep htask answers
  | finished => exact h
  | aborted => exact h
  | waiting =>
      dsimp only
      split_ifs
      · refine h.goOn s.timer false (by simp [RunnerTask.left]) ?_ (by simp) (by simp)
        exact fun _ => h.idle (.inl htask)
      · exact h
  | woken => exact h.goOn s.timer s.notified (by simp [RunnerTask.left]) (by simp) (by simp) (by simp)
  | draining stop =>
      dsimp only
      split
      · next command commandQueue hqueue =>
          refine ⟨h.reached.enqueue command, ?_, by simp [RunnerTask.left], by simp, by simp, by simp⟩
          rw [h.accepted_eq, hqueue, InMemoryTimingTaskRunner.enqueue, record, submissions_append,
            List.append_assoc]
          rfl
      · next hqueue =>
          cases stop with
          | true => exact h.goOn s.timer s.notified (by simp [RunnerTask.left]) (by simp) (by simp) (by simp)
          | false => exact h.goOn s.timer s.notified (by simp [RunnerTask.left]) (by simp) (by simp) (by simp)
  | checking =>
      dsimp only
      split_ifs with hstopping
      · exact h.goOn s.timer s.notified (by simp [RunnerTask.left]) (fun _ => .inl hstopping) (by simp)
          fun _ => .inl hstopping
      · exact h.goOn s.timer s.notified (by simp [RunnerTask.left]) (by simp) (by simp) (by simp)
  | starting stop =>
      dsimp only
      split_ifs with hdone
      · refine h.goOn s.timer s.notified ?_ (by simp) (by simp) (by simp)
        exact fun count hcount => hdone.2 ▸ Option.some.inj hcount
      · refine ⟨h.reached.setProcessing true, h.accepted_eq, ?_, by simp, by simp, by simp⟩
        exact fun count hcount => Option.some.inj hcount
  | processing stop count appliedAt =>
      cases count with
      | zero =>
          cases stop with
          | true =>
              exact ⟨h.reached.setProcessing false, h.accepted_eq, by simp [RunnerTask.left], by simp, by simp,
                by simp⟩
          | false => exact h.runBatch htask
      | succ count => exact h.applyNext htask
  | delaying => exact h.goOn s.timer s.notified (by simp [RunnerTask.left]) (by simp) (by simp) (by simp)
  | clearing phase =>
      have hzero := h.left 0 (by rw [htask]; rfl)
      dsimp only
      cases hstep : s.clearStep answers phase with
      | none =>
          rw [Option.getD_none]
          exact h.goOn s.timer s.notified (by simp [RunnerTask.left]) (by simp) (by simp) (by simp)
      | some t =>
          obtain ⟨timer, task, rfl, ⟨phase', rfl⟩ | rfl⟩ := clearStep_cases htask hstep
          all_goals rw [Option.getD_some]
          · exact h.goOn timer s.notified (fun count hcount => hzero.trans (Option.some.inj hcount))
              (by simp) (by simp) (by simp)
          · exact h.goOn timer s.notified (fun count hcount => hzero.trans (Option.some.inj hcount))
              (by simp) (by simp) (by simp)
  | giving =>
      refine ⟨h.reached, h.accepted_eq, ?_, by simp, by simp, by simp⟩
      exact fun count hcount => (h.left 0 (by rw [htask]; rfl)).trans (Option.some.inj hcount)

end Carried

/-! ## Runs -/

/-- What holds in every state of a run. -/
structure Sound (s : EspTimingTaskRuntime) : Prop where
  control : Control s
  barrier : Barrier s.task s.timer
  carried : Carried s

theorem sound_start : Sound {} := by
  refine ⟨?_, ?_, ⟨⟨{}, ⟨.nil, by simp, by simp, rfl⟩, rfl, rfl⟩, rfl, by simp [RunnerTask.left],
    fun _ => .inr rfl, by simp, fun _ => .inr (.inr (.inr rfl))⟩⟩
  · constructor <;> simp [RunnerTask.ending, Owner.hasStopped, Owner.hasJoined]
  · constructor <;> simp [RunnerTask.quiesces]

@[simp] theorem notify_timer (s : EspTimingTaskRuntime) : s.notify.timer = s.timer := by
  unfold notify
  split_ifs <;> rfl

@[simp] theorem notify_task (s : EspTimingTaskRuntime) : s.notify.task = s.task := by
  unfold notify
  split_ifs <;> rfl

/-- Clients and the owner have no part in the barrier. -/
theorem barrier_frame (s : EspTimingTaskRuntime) :
    (∀ command, (s.call command).timer = s.timer ∧ (s.call command).task = s.task) ∧
      (∀ memory, (s.submit memory).timer = s.timer ∧ (s.submit memory).task = s.task) ∧
      s.stop.timer = s.timer ∧ s.stop.task = s.task := by
  refine ⟨fun command => ?_, fun memory => ?_, ?_⟩
  · unfold call
    split
    · split_ifs <;> exact ⟨rfl, rfl⟩
    · exact ⟨rfl, rfl⟩
  · unfold submit
    split
    · exact ⟨rfl, rfl⟩
    · split_ifs <;> exact ⟨rfl, rfl⟩
    · exact ⟨s.notify_timer, s.notify_task⟩
  · unfold stop
    split
    · split <;> exact ⟨rfl, rfl⟩
    · exact ⟨rfl, rfl⟩
    · exact ⟨s.notify_timer, s.notify_task⟩
    · split_ifs <;> exact ⟨rfl, rfl⟩
    · split
      · exact ⟨rfl, rfl⟩
      · split <;> exact ⟨rfl, rfl⟩
    · exact ⟨rfl, rfl⟩

theorem Sound.step (h : Sound s) (action : Action) : Sound (s.step action) := by
  obtain ⟨hcontrol, hbarrier, hcarried⟩ := h
  obtain ⟨hcall, hsubmit, hstop⟩ := s.barrier_frame
  cases action with
  | call command =>
      refine ⟨hcontrol.call command, ?_, hcarried.call command⟩
      rw [EspTimingTaskRuntime.step, (hcall command).1, (hcall command).2]
      exact hbarrier
  | submit memory =>
      refine ⟨hcontrol.submit memory, ?_, hcarried.submit memory⟩
      rw [EspTimingTaskRuntime.step, (hsubmit memory).1, (hsubmit memory).2]
      exact hbarrier
  | timerTask =>
      refine ⟨hcontrol.timerTask hbarrier, ?_, hcarried.timerTask hcontrol hbarrier⟩
      unfold EspTimingTaskRuntime.step EspTimingTaskRuntime.timerTask
      dsimp only
      split_ifs
      · rw [notify_task, notify_timer]
        exact hbarrier.taskStep
      · exact hbarrier.taskStep
  | runnerTask answers =>
      exact ⟨hcontrol.runnerTask answers, hbarrier.runnerTask answers, hcarried.runnerTask answers⟩
  | stop =>
      refine ⟨hcontrol.stop, ?_, hcarried.stop hcontrol⟩
      rw [EspTimingTaskRuntime.step, hstop.1, hstop.2]
      exact hbarrier

theorem sound_run (actions : List Action) : AllStates step Sound {} actions :=
  allStates_of_invariant (fun _ action h => h.step action) sound_start

/-! ## Results -/

/-- Somebody has notified the runner task, or is on the way to do so. -/
def Signalled (s : EspTimingTaskRuntime) : Prop :=
  s.notified = true ∨ s.submission = .sent ∨ s.owner = .stopping ∨ s.timer.entry.calls = true

/-- **No wake-up is lost.** While the runner task sleeps and nobody is about to wake it, no command
waits and the timer is set for the earliest task that is pending. -/
theorem no_lost_wakeup (actions : List Action) :
    AllStates step (fun s => s.task = .waiting → ¬ s.Signalled →
      s.commandQueue = [] ∧ s.runner.commands = [] ∧
        ∃ wakeAt, IsNextWake {task | task ∈ pendingTasks s.runner.log} wakeAt ∧
          SetFor s.timer.alarm wakeAt) {} actions := by
  intro done hdone htask hsignalled
  obtain ⟨hcontrol, hbarrier, hcarried⟩ := sound_run actions done hdone
  generalize run step {} done = s at *
  simp only [Signalled, not_or] at hsignalled
  obtain ⟨hnotified, hsent, howner, hentry⟩ := hsignalled
  -- an owner that stopped has signalled the task, is about to, or has seen it end
  have hstopping : ¬ s.stopping = true := by
    rw [hcontrol.stopping_eq]
    cases hplace : s.owner with
    | running => simp [Owner.hasStopped]
    | closed => simp [Owner.hasStopped]
    | stopping => exact absurd hplace howner
    | signalled =>
        have hwoken := hcontrol.stop_signalled hplace
        rw [htask] at hwoken
        simp [hnotified, RunnerTask.ending] at hwoken
    | joined =>
        have hfinished := hcontrol.joined (by rw [hplace]; rfl)
        rw [htask] at hfinished
        cases hfinished
    | deleted =>
        have hfinished := hcontrol.joined (by rw [hplace]; rfl)
        rw [htask] at hfinished
        cases hfinished
  refine ⟨?_, (hcarried.idle (.inl htask)).resolve_left hstopping, s.runner.nextWakeAt, ?_, ?_⟩
  · by_contra hqueue
    rcases hcontrol.queue_signalled hqueue with hset | hset | hset
    · exact hnotified hset
    · exact hsent hset
    · rw [htask] at hset
      cases hset
  · obtain ⟨t, hsim, -⟩ := hcarried.reached
    have hpending : t.pending = {task | task ∈ pendingTasks s.runner.log} :=
      Set.ext (Reflects.of_trace hsim.trace).pending
    rw [← hpending]
    exact hsim.nextWakeAt
  · exact (((hcarried.set htask).resolve_left hstopping).resolve_left hnotified).resolve_left hentry

-- the timer is set for the time that is left when the task of a command is registered
example :
    let s := run step {} ([Action.call (.register ⟨⟨"a", by decide⟩, 5, .done, fun _ => .done⟩), .submit true,
      .submit true] ++ List.replicate 10 (Action.runnerTask { clock := 2 }))
    s.task.left = none ∧ s.notified = false ∧ s.timer.alarm = some ⟨2, 3⟩ := by
  decide +kernel

/-- **Accepted commands take effect in order, once, and all of them before the runtime is gone.** The
log of the runner meets its specification, and the commands that were accepted are those that have
taken effect and then those that wait. -/
theorem accepted_in_order (actions : List Action) :
    AllStates step (fun s => TimingSpec s.runner.log ∧
      s.accepted = applications s.runner.log ++ (s.runner.commands ++ s.commandQueue).map PendingCommand.order ∧
      (s.task = .finished → s.accepted = applications s.runner.log)) {} actions := by
  intro done hdone
  obtain ⟨hcontrol, -, hcarried⟩ := sound_run actions done hdone
  generalize run step {} done = s at *
  obtain ⟨t, hsim, -⟩ := hcarried.reached
  have haccepted : s.accepted =
      applications s.runner.log ++ (s.runner.commands ++ s.commandQueue).map PendingCommand.order := by
    rw [hcarried.accepted_eq, (Reflects.of_trace hsim.trace).queue, hsim.queue, List.map_append,
      List.append_assoc]
  -- the task ends only when it has drained the queue and has no command left
  refine ⟨timingSpec_of_trace hsim.trace, haccepted, fun htask => ?_⟩
  have hqueue := hcontrol.queue_drained (by rw [htask]; rfl) (by rw [htask]; rfl)
  have hcommands := List.length_eq_zero_iff.1 (hcarried.left 0 (by rw [htask]; rfl))
  rw [haccepted, hqueue, hcommands]
  exact List.append_nil _

/-- The runner task cannot take a step. -/
def Blocked (s : EspTimingTaskRuntime) : Prop :=
  s.task = .waiting ∧ s.notified = false ∨ s.task = .clearing .waiting ∧ s.timer.quiesced = false ∨
    s.task = .clearing .spinning ∧ s.timer.callbackAccessingOwner = true

/-- **Stopping is orderly.** The wake port is never used after it forgot the runner task. When the
runner task has ended, the timer is off, the timer task is not in the callback and never calls it
again, and no client is about to notify. While the owner waits, the runner task has ended or aborted,
or is not blocked, or is blocked by an entry of the timer task that is under way. -/
theorem stop_is_orderly (actions : List Action) :
    AllStates step (fun s => s.asserted = false ∧
      (s.task = .finished → s.timer.alarm = none ∧ s.timer.entry = .idle ∧ s.timer.callback = false ∧
        s.submission ≠ .sent) ∧
      (s.owner = .signalled → s.task = .aborted ∨ s.stopped = true ∨ s.task ≠ .finished ∧
        (s.Blocked → s.timer.alarm.isSome = true ∨ s.timer.entry ≠ .idle))) {} actions := by
  intro done hdone
  obtain ⟨hcontrol, hbarrier, hcarried⟩ := sound_run actions done hdone
  generalize run step {} done = s at *
  refine ⟨hcontrol.asserted_eq, fun htask => ?_, fun howner => ?_⟩
  · obtain ⟨hidle, hcallback⟩ := hbarrier.ended (.inr htask)
    refine ⟨(hbarrier.passed (.inr (.inr htask))).1, hidle, hcallback, fun hsent => ?_⟩
    have hstopping := hcontrol.ending (by rw [htask]; rfl)
    rw [hcontrol.stopping_eq, hcontrol.sent hsent] at hstopping
    cases hstopping
  · by_cases haborted : s.task = .aborted
    · exact .inl haborted
    by_cases hstopped : s.stopped = true
    · exact .inr (.inl hstopped)
    refine .inr (.inr ⟨fun htask => ?_, ?_⟩)
    · rcases hcontrol.finished htask with hset | hset
      · exact hstopped hset
      · rw [howner] at hset
        cases hset
    · rintro (⟨htask, hnotified⟩ | ⟨htask, hquiesced⟩ | ⟨-, haccessing⟩)
      · have hwoken := hcontrol.stop_signalled howner
        rw [htask] at hwoken
        simp [hnotified, RunnerTask.ending] at hwoken
      -- the barrier is armed for an entry under way, is being given, or has been given
      · rcases hbarrier.waiting htask with harmed | hcompleting | hset
        · refine (hbarrier.armed harmed).2.2.2.imp_right ?_
          rintro (hentry | hentry | hentry) hidle
          all_goals
            rw [hidle] at hentry
            cases hentry
        · exact .inr (by simp [hcompleting])
        · rw [hquiesced] at hset
          cases hset
      · exact .inr (hbarrier.accessing_iff.1 haccessing).1

-- `stopping_` is set before the owner notifies, so a task that a client woke may end in between: the
-- owner then notifies a task that has been deleted
example :
    let s := run step {} ([Action.call (.cancel ⟨⟨"a", by decide⟩, fun _ => .done⟩), .submit true, .submit true,
      .stop, .stop] ++ List.replicate 13 (Action.runnerTask {}) ++ List.replicate 6 Action.timerTask ++
      List.replicate 3 (Action.runnerTask {}))
    s.owner = .stopping ∧ s.stopped = true := by
  decide +kernel

end EspTimingTaskRuntime

end VoiceLife
