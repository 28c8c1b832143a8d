import VoiceLife.Timing.TimingSpec

/-! # The timing runner meets its specification

The log of the runner is a trace of the abstract runner, whatever its client does. Client code runs
in one of two phases: outside a batch, where its commands are queued, or in a callback of a batch,
where they are applied at once and the tasks still to be run are known.
-/

namespace VoiceLife

open Run InMemoryTimingTaskRunner

/-! ## The relation -/

/-- The abstract state has the tasks and commands of the runner, and its log as its trace. -/
structure Simulates (r : InMemoryTimingTaskRunner) (s : TimingState) : Prop where
  trace : Trace TimingStep {} r.log s
  used : ∀ id, id ∈ s.used ↔ id ∈ r.usedTaskIds
  pending : ∀ task, task ∈ s.pending ↔ ∃ pending ∈ r.pendingTasks.values, pending.rank = task
  queue : s.queue = r.commands.map PendingCommand.order

/-- The due tasks are the pending tasks of a list, whose identifiers are not given to new tasks. -/
structure DueFrom (s : TimingState) (rest : List TimedTask) : Prop where
  due_eq : s.due = some {task | task ∈ s.pending ∧ task ∈ rest}
  used : ∀ task ∈ rest, task.id ∈ s.used
  eq_of_id : ∀ task ∈ rest, ∀ other ∈ s.pending, other.id = task.id → other = task

/-- Outside a batch, or in a callback with the rest of the batch. -/
def InPhase (r : InMemoryTimingTaskRunner) (s : TimingState) : Option (List TimedTask) → Prop
  | none => s.due = none ∧ r.callbackAppliedAt = none
  | some rest => r.callbackAppliedAt.isSome = true ∧ DueFrom s rest

/-- The runner refines an abstract state while client code runs. -/
def Reached (phase : Option (List TimedTask)) (r : InMemoryTimingTaskRunner) : Prop :=
  ∃ s, Simulates r s ∧ InPhase r s phase

/-- The runner refines an abstract state between two callbacks of a batch. -/
def Between (rest : List TimedTask) (r : InMemoryTimingTaskRunner) : Prop :=
  ∃ s, Simulates r s ∧ r.callbackAppliedAt = none ∧ DueFrom s rest

/-! ## Due tasks -/

namespace DueFrom

variable {s : TimingState} {rest : List TimedTask}

theorem register (h : DueFrom s rest) {id : TaskId} {triggerAt : ℤ} {queue : List TaskOrder}
    (hfresh : id ∉ s.used) :
    DueFrom { s with
      used := insert id s.used, pending := insert (toLex (triggerAt, id)) s.pending, queue } rest := by
  have hnew : ∀ task ∈ rest, task.id ≠ id := by
    intro task htask hid
    exact hfresh (hid ▸ h.used task htask)
  refine ⟨?_, fun task htask => Or.inr (h.used task htask), ?_⟩
  · refine h.due_eq.trans (congrArg some (Set.ext fun task => ?_))
    constructor
    · rintro ⟨hpending, htask⟩
      exact ⟨Or.inr hpending, htask⟩
    · rintro ⟨rfl | hpending, htask⟩
      · exact absurd rfl (hnew _ htask)
      · exact ⟨hpending, htask⟩
  · rintro task htask other (rfl | hother) hid
    · exact absurd hid.symm (hnew task htask)
    · exact h.eq_of_id task htask other hother hid

theorem remove (h : DueFrom s rest) (task : TimedTask) {queue : List TaskOrder} :
    DueFrom { s.remove task with queue } rest := by
  refine ⟨?_, h.used, fun task' htask' other hother => h.eq_of_id task' htask' other hother.1⟩
  rw [TimingState.remove, h.due_eq]
  refine congrArg some (Set.ext fun other => ?_)
  exact and_right_comm

/-- A first task that is no longer pending is skipped. -/
theorem skip {task : TimedTask} (h : DueFrom s (task :: rest)) (hnot : task ∉ s.pending) :
    DueFrom s rest := by
  refine ⟨?_, fun other hother => h.used other (List.mem_cons_of_mem _ hother),
    fun other hother => h.eq_of_id other (List.mem_cons_of_mem _ hother)⟩
  refine h.due_eq.trans (congrArg some (Set.ext fun other => and_congr_right fun hother => ?_))
  rw [List.mem_cons, or_iff_right]
  rintro rfl
  exact hnot hother

/-- A first task that is pending is taken. -/
theorem take {task : TimedTask} (h : DueFrom s (task :: rest)) : DueFrom (s.remove task) rest := by
  refine ⟨?_, fun other hother => h.used other (List.mem_cons_of_mem _ hother),
    fun other hother later hlater => h.eq_of_id other (List.mem_cons_of_mem _ hother) later hlater.1⟩
  rw [TimingState.remove, h.due_eq]
  refine congrArg some (Set.ext fun other => ?_)
  constructor
  · rintro ⟨⟨hpending, hmem⟩, hne⟩
    exact ⟨⟨hpending, hne⟩, (List.mem_cons.1 hmem).resolve_left hne⟩
  · rintro ⟨⟨hpending, hne⟩, hmem⟩
    exact ⟨⟨hpending, List.mem_cons_of_mem _ hmem⟩, hne⟩

end DueFrom

/-! ## Applying a command -/

/-- Where the runner takes a command from. -/
def TakesCommand (r : InMemoryTimingTaskRunner) (phase : Option (List TimedTask))
    (command : PendingCommand) (commands : List PendingCommand) : Bool → Prop
  | true => r.commands = command :: commands
  | false => r.commands = commands ∧ phase.isSome = true

variable {r : InMemoryTimingTaskRunner}

theorem Simulates.takesOrder {s : TimingState}
    {phase : Option (List TimedTask)} (h : Simulates r s) (hphase : InPhase r s phase)
    {command : PendingCommand} {commands : List PendingCommand} {queued : Bool}
    (hcommand : TakesCommand r phase command commands queued) :
    TakesOrder s command.order (commands.map PendingCommand.order) queued := by
  cases queued with
  | true =>
      have htake : r.commands = command :: commands := hcommand
      exact h.queue.trans (by rw [htake, List.map_cons])
  | false =>
      obtain ⟨htake, hsome⟩ := hcommand
      refine ⟨h.queue.trans (by rw [htake]), ?_⟩
      cases phase with
      | none => cases hsome
      | some rest =>
          rw [hphase.2.due_eq]
          rfl

/-- What a cancellation does: it takes the node of the identifier, or nothing. -/
theorem applyCancelTask_cases (r : InMemoryTimingTaskRunner) (taskId : TaskId) (appliedAt : ℤ) :
    (∃ (node : Node PendingTask) (h : node ∈ r.pendingTasks.nodes) (terminalTasks : List Task),
      node.value.id = taskId ∧ r.applyCancelTask taskId appliedAt =
        (.cancelled, { r.erase node h with terminalTasks })) ∨
      (∀ pending ∈ r.pendingTasks.values, pending.id ≠ taskId) ∧
        r.applyCancelTask taskId appliedAt = (.notFound, r) := by
  unfold applyCancelTask
  split
  · next node h =>
      obtain ⟨hmem, hid⟩ := OrderedIndex.find?_eq_some.1 h
      exact Or.inl ⟨node, hmem, _, hid, rfl⟩
  · next h => exact Or.inr ⟨OrderedIndex.find?_eq_none.1 h, rfl⟩

namespace Reached

variable {phase : Option (List TimedTask)} {r : InMemoryTimingTaskRunner}

theorem enqueue (h : Reached none r) (command : PendingCommand) :
    Reached none (r.enqueue command) := by
  obtain ⟨s, hsim, hdue, hcontext⟩ := h
  refine ⟨_, ⟨hsim.trace.snoc (.submit command.order hdue), hsim.used, hsim.pending, ?_⟩, hdue,
    hcontext⟩
  simp [InMemoryTimingTaskRunner.enqueue, record, hsim.queue]

/-- A registration is a step of the abstract runner. -/
theorem register (h : Reached phase r) (command : RegisterTaskCommand)
    {commands : List PendingCommand} {queued : Bool} (appliedAt : ℤ)
    (hcommand : TakesCommand r phase (.register command) commands queued) :
    Reached phase ((applyRegisterTask { r with commands } command appliedAt).2.record
      (.registerResult queued command.taskId command.triggerAt
        (applyRegisterTask { r with commands } command appliedAt).1)) := by
  obtain ⟨s, hsim, hphase⟩ := h
  have htakes := hsim.takesOrder hphase hcommand
  unfold applyRegisterTask
  dsimp only
  split_ifs with hused
  · refine ⟨_, ⟨hsim.trace.snoc (.duplicate htakes ((hsim.used _).2 hused)), hsim.used, hsim.pending,
      rfl⟩, ?_⟩
    cases phase with
    | none => exact hphase
    | some rest => exact ⟨hphase.1, hphase.2.due_eq, hphase.2.used, hphase.2.eq_of_id⟩
  · have hfresh : command.taskId ∉ s.used := fun hmem => hused ((hsim.used _).1 hmem)
    refine ⟨_, ⟨hsim.trace.snoc (.register htakes hfresh), ?_, ?_, rfl⟩, ?_⟩
    · intro id
      simp [record, hsim.used, or_comm]
    · intro task
      simp only [record, OrderedIndex.mem_insert, or_and_right, exists_or, exists_eq_left,
        Set.mem_insert_iff, hsim.pending]
      exact or_congr_left eq_comm
    · cases phase with
      | none => exact hphase
      | some rest => exact ⟨hphase.1, hphase.2.register hfresh⟩

/-- A cancellation is a step of the abstract runner. -/
theorem cancel (h : Reached phase r) (command : CancelTaskCommand)
    {commands : List PendingCommand} {queued : Bool} (appliedAt : ℤ)
    (hcommand : TakesCommand r phase (.cancel command) commands queued) :
    Reached phase ((applyCancelTask { r with commands } command.taskId appliedAt).2.record
      (.cancelResult queued command.taskId
        (applyCancelTask { r with commands } command.taskId appliedAt).1)) := by
  obtain ⟨s, hsim, hphase⟩ := h
  have htakes := hsim.takesOrder hphase hcommand
  rcases applyCancelTask_cases { r with commands } command.taskId appliedAt with
    ⟨node, hnode, terminalTasks, hid, happly⟩ | ⟨hmissing, happly⟩
  · rw [happly]
    have hpending : toLex (node.value.task.triggerAt, command.taskId) ∈ s.pending := by
      rw [← hid, hsim.pending]
      exact ⟨node.value, List.mem_map_of_mem hnode, rfl⟩
    have herase : ∀ pending, pending ∈ (r.pendingTasks.erase node hnode).values ↔
        pending ∈ r.pendingTasks.values ∧ pending.id ≠ node.value.id :=
      fun pending => OrderedIndex.mem_erase
    refine ⟨_, ⟨hsim.trace.snoc (.cancel _ htakes hpending), hsim.used, ?_, rfl⟩, ?_⟩
    · intro task
      refine ((Reflects.of_trace hsim.trace).mem_remove hpending).trans ?_
      rw [hsim.pending]
      constructor
      · rintro ⟨⟨pending, hmem, rfl⟩, hne⟩
        refine ⟨pending, (herase pending).2 ⟨hmem, ?_⟩, rfl⟩
        rw [hid]
        exact hne
      · rintro ⟨pending, hmem, rfl⟩
        obtain ⟨hmem, hne⟩ := (herase pending).1 hmem
        refine ⟨⟨pending, hmem, rfl⟩, ?_⟩
        rw [hid] at hne
        exact hne
    · cases phase with
      | none =>
          refine ⟨?_, hphase.2⟩
          rw [TimingState.remove, hphase.1]
          rfl
      | some rest => exact ⟨hphase.1, hphase.2.remove _⟩
  · rw [happly]
    have hnone : ∀ task ∈ s.pending, task.id ≠ command.taskId := by
      intro task htask
      obtain ⟨pending, hmem, rfl⟩ := (hsim.pending task).1 htask
      exact hmissing pending hmem
    refine ⟨_, ⟨hsim.trace.snoc (.notFound htakes hnone), hsim.used, hsim.pending, rfl⟩, ?_⟩
    cases phase with
    | none => exact hphase
    | some rest => exact ⟨hphase.1, hphase.2.due_eq, hphase.2.used, hphase.2.eq_of_id⟩

/-! ## Client code -/

/-- Client code keeps the relation if `ProcessPendingCommands` does. -/
theorem runWith {process : ℤ → InMemoryTimingTaskRunner → ℕ × InMemoryTimingTaskRunner}
    (hprocess : ∀ phase appliedAt r, Reached phase r → Reached phase (process appliedAt r).2)
    (script : Script) (h : Reached phase r) :
    Reached phase (InMemoryTimingTaskRunner.runWith process script r) := by
  induction script generalizing r with
  | done => exact h
  | observe next ih =>
      rw [InMemoryTimingTaskRunner.runWith]
      exact ih _ h
  | registerTask taskId triggerAt callback onResult next _ ihResult ihNext =>
      rw [InMemoryTimingTaskRunner.runWith]
      cases phase with
      | none =>
          rw [h.choose_spec.2.2]
          exact ihNext (h.enqueue _)
      | some rest =>
          obtain ⟨appliedAt, happlied⟩ := Option.isSome_iff_exists.1 h.choose_spec.2.1
          rw [happlied]
          exact ihNext (ihResult _ (h.register ⟨taskId, triggerAt, callback, onResult⟩ appliedAt ⟨rfl, rfl⟩))
  | cancelTask taskId onResult next ihResult ihNext =>
      rw [InMemoryTimingTaskRunner.runWith]
      cases phase with
      | none =>
          rw [h.choose_spec.2.2]
          exact ihNext (h.enqueue _)
      | some rest =>
          obtain ⟨appliedAt, happlied⟩ := Option.isSome_iff_exists.1 h.choose_spec.2.1
          rw [happlied]
          exact ihNext (ihResult _ (h.cancel ⟨taskId, onResult⟩ appliedAt ⟨rfl, rfl⟩))
  | processPendingCommands appliedAt next ih =>
      rw [InMemoryTimingTaskRunner.runWith]
      exact ih _ (hprocess phase appliedAt r h)

/-! ## The queue -/

theorem applyCommand (h : Reached phase r) (appliedAt : ℤ) {command : PendingCommand}
    {commands : List PendingCommand} (htake : r.commands = command :: commands) :
    Reached phase (InMemoryTimingTaskRunner.applyCommand { r with commands } appliedAt command) := by
  have hcommand : TakesCommand r phase command commands true := htake
  cases command with
  | register command =>
      exact (h.register command appliedAt hcommand).runWith (fun _ _ _ h => h) _
  | cancel command =>
      exact (h.cancel command appliedAt hcommand).runWith (fun _ _ _ h => h) _

theorem processCommands (h : Reached phase r) (appliedAt : ℤ) (count : ℕ) :
    Reached phase (InMemoryTimingTaskRunner.processCommands appliedAt count r) := by
  induction count generalizing r with
  | zero => exact h
  | succ count ih =>
      rw [InMemoryTimingTaskRunner.processCommands]
      cases hcommands : r.commands with
      | nil => exact h
      | cons command commands => exact ih (h.applyCommand appliedAt hcommands)

/-- The relation does not see whether commands are being processed. -/
theorem setProcessing (h : Reached phase r) (processingCommands : Bool) :
    Reached phase { r with processingCommands } := by
  obtain ⟨s, hsim, hphase⟩ := h
  refine ⟨s, ⟨hsim.trace, hsim.used, hsim.pending, hsim.queue⟩, ?_⟩
  cases phase with
  | none => exact hphase
  | some rest => exact hphase

theorem processPendingCommands (h : Reached phase r) (appliedAt : ℤ) :
    Reached phase (InMemoryTimingTaskRunner.processPendingCommands appliedAt r).2 := by
  unfold InMemoryTimingTaskRunner.processPendingCommands
  split_ifs
  · exact h
  · exact ((h.setProcessing true).processCommands appliedAt _).setProcessing false

theorem runScript (h : Reached phase r) (script : Script) : Reached phase (r.runScript script) :=
  h.runWith (fun _ appliedAt _ h => h.processPendingCommands appliedAt) script

end Reached

/-! ## Batches -/

namespace Between

variable {task : TimedTask} {rest : List TimedTask} {r : InMemoryTimingTaskRunner}

/-- A due task that has been cancelled is skipped. -/
theorem skip (h : Between (task :: rest) r) (hnone : r.pendingTasks.find? task.id = none) :
    Between rest r := by
  obtain ⟨s, hsim, hcontext, hdue⟩ := h
  refine ⟨s, hsim, hcontext, hdue.skip fun hmem => ?_⟩
  obtain ⟨pending, hpending, rfl⟩ := (hsim.pending task).1 hmem
  exact OrderedIndex.find?_eq_none.1 hnone pending hpending rfl

/-- A due task that is still pending is the least one left, and its callback runs. -/
theorem invoke (h : Between (task :: rest) r) (hsorted : (task :: rest).Pairwise (· ≤ ·)) (now : ℤ)
    {node : Node PendingTask} (hnode : node ∈ r.pendingTasks.nodes)
    (hid : node.value.id = task.id) : Between rest (r.invoke now node hnode) := by
  obtain ⟨s, hsim, -, hdue⟩ := h
  have hpending : node.value.rank ∈ s.pending :=
    (hsim.pending _).2 ⟨node.value, List.mem_map_of_mem hnode, rfl⟩
  have hrank : node.value.rank = task :=
    hdue.eq_of_id task List.mem_cons_self node.value.rank hpending hid
  subst hrank
  have hleast : IsLeast {other | other ∈ s.pending ∧ other ∈ node.value.rank :: rest}
      node.value.rank := by
    refine ⟨⟨hpending, List.mem_cons_self⟩, ?_⟩
    rintro other ⟨-, hother⟩
    rcases List.mem_cons.1 hother with rfl | hother
    · exact le_rfl
    · exact (List.pairwise_cons.1 hsorted).1 other hother
  have hstep := TimingStep.invoke hdue.due_eq hleast
  have herase : ∀ pending, pending ∈ (r.pendingTasks.erase node hnode).values ↔
      pending ∈ r.pendingTasks.values ∧ pending.id ≠ node.value.id :=
    fun pending => OrderedIndex.mem_erase
  have hstart : Reached (some rest) (({ r.erase node hnode with
      callbackAppliedAt := some now }).record
        (.invoked node.value.task.id node.value.task.triggerAt)) := by
    refine ⟨_, ⟨hsim.trace.snoc hstep, hsim.used, ?_, hsim.queue⟩, rfl, ?_⟩
    · intro other
      refine ((Reflects.of_trace hsim.trace).mem_remove hpending).trans ?_
      rw [hsim.pending]
      constructor
      · rintro ⟨⟨pending, hmem, rfl⟩, hne⟩
        exact ⟨pending, (herase pending).2 ⟨hmem, hne⟩, rfl⟩
      · rintro ⟨pending, hmem, rfl⟩
        obtain ⟨hmem, hne⟩ := (herase pending).1 hmem
        exact ⟨⟨pending, hmem, rfl⟩, hne⟩
    · exact hdue.take
  obtain ⟨s', hsim', -, hdue'⟩ := hstart.runScript node.value.callback
  exact ⟨s', ⟨hsim'.trace, hsim'.used, hsim'.pending, hsim'.queue⟩, rfl, hdue'⟩

/-- The loop of a batch runs or skips every task that was due. -/
theorem runBatch (now : ℤ) (h : Between rest r) (hsorted : rest.Pairwise (· ≤ ·))
    (processedCount skippedCount : ℕ) :
    Between [] (InMemoryTimingTaskRunner.runBatch now (rest.map TimedTask.id)
      (processedCount, skippedCount, r)).2.2 := by
  induction rest generalizing r processedCount skippedCount with
  | nil => exact h
  | cons task rest ih =>
      rw [List.map_cons, InMemoryTimingTaskRunner.runBatch]
      have hrest := (List.pairwise_cons.1 hsorted).2
      split
      · next hnone => exact ih (h.skip hnone) hrest _ _
      · next node hsome =>
          exact ih (h.invoke hsorted now _ (OrderedIndex.find?_eq_some.1 hsome).2) hrest _ _

end Between

/-- The earliest pending task wakes the runner next. -/
theorem Simulates.nextWakeAt {s : TimingState} (h : Simulates r s) :
    IsNextWake s.pending r.nextWakeAt := by
  unfold InMemoryTimingTaskRunner.nextWakeAt
  cases hhead : r.pendingTasks.values.head? with
  | none =>
      have hempty := List.head?_eq_none_iff.1 hhead
      refine Set.eq_empty_of_forall_notMem fun task htask => ?_
      obtain ⟨pending, hpending, -⟩ := (h.pending task).1 htask
      rw [hempty] at hpending
      cases hpending
  | some first =>
      refine ⟨⟨first.rank, (h.pending _).2 ⟨first, List.mem_of_mem_head? hhead, rfl⟩, rfl⟩, ?_⟩
      rintro wake ⟨task, htask, rfl⟩
      obtain ⟨pending, hpending, rfl⟩ := (h.pending task).1 htask
      exact Prod.Lex.monotone_fst _ _ (OrderedIndex.head?_values_le hhead hpending)

/-- `RunDueTasks` takes a batch, runs it and closes it. -/
theorem Reached.runDueTasks (h : Reached none r) (now : ℤ) : Reached none (r.runDueTasks now).2 := by
  obtain ⟨s, hsim, hdue, hcontext⟩ := h.processPendingCommands now
  generalize hr : (InMemoryTimingTaskRunner.processPendingCommands now r).2 = taken at *
  have hupTo : ∀ pending, pending ∈ taken.pendingTasks.upTo
      (fun pending => decide (pending.task.triggerAt ≤ now)) ↔
        pending ∈ taken.pendingTasks.values ∧ decide (pending.task.triggerAt ≤ now) = true := by
    intro pending
    apply OrderedIndex.mem_upTo
    intro v w hle hw
    rw [decide_eq_true_eq] at hw ⊢
    exact le_trans (Prod.Lex.monotone_fst _ _ hle) hw
  have hsorted := taken.pendingTasks.sorted_upTo fun pending =>
    decide (pending.task.triggerAt ≤ now)
  unfold InMemoryTimingTaskRunner.runDueTasks
  rw [hr]
  dsimp only
  rw [show (taken.record (.batchTaken now)).pendingTasks = taken.pendingTasks from rfl]
  generalize taken.pendingTasks.upTo (fun pending => decide (pending.task.triggerAt ≤ now)) = due at *
  have hstart : Between (due.map PendingTask.rank) (taken.record (.batchTaken now)) := by
    refine ⟨_, ⟨hsim.trace.snoc (.take now hdue), hsim.used, hsim.pending, hsim.queue⟩, hcontext,
      ?_, ?_, ?_⟩
    · refine congrArg some (Set.ext fun task => and_congr_right fun htask => ?_)
      obtain ⟨pending, hpending, rfl⟩ := (hsim.pending task).1 htask
      constructor
      · intro hle
        exact List.mem_map_of_mem ((hupTo pending).2 ⟨hpending, decide_eq_true hle⟩)
      · intro hmem
        obtain ⟨other, hother, hsame⟩ := List.mem_map.1 hmem
        rw [← hsame]
        exact of_decide_eq_true ((hupTo other).1 hother).2
    · intro task htask
      obtain ⟨pending, hpending, rfl⟩ := List.mem_map.1 htask
      exact (hsim.used _).2 (taken.id_used pending ((hupTo pending).1 hpending).1)
    · intro task htask other hother hid
      obtain ⟨pending, hpending, rfl⟩ := List.mem_map.1 htask
      exact (Reflects.of_trace hsim.trace).eq_of_id_eq hother
        ((hsim.pending _).2 ⟨pending, ((hupTo pending).1 hpending).1, rfl⟩) hid
  obtain ⟨s', hsim', hcontext', hempty⟩ := hstart.runBatch now (List.pairwise_map.2 hsorted) 0 0
  rw [List.map_map, show TimedTask.id ∘ PendingTask.rank = PendingTask.id from rfl] at hsim' hcontext'
  have hclosed : s'.due = some ∅ := by
    rw [hempty.due_eq]
    exact congrArg some (Set.eq_empty_of_forall_notMem fun task htask => by cases htask.2)
  exact ⟨_, ⟨hsim'.trace.snoc (.finish hclosed hsim'.nextWakeAt), hsim'.used, hsim'.pending,
    hsim'.queue⟩, rfl, hcontext'⟩

/-! ## Runs -/

theorem reached_step (h : Reached none r) (call : TimingCall) : Reached none (call.step r) := by
  cases call with
  | client script => exact h.runScript script
  | runDueTasks now => exact h.runDueTasks now

-- of two tasks that are due together, the first one cancels the second
example : (invocations (Run.run TimingCall.step {}
    [.client (.registerTask ⟨"b", by decide⟩ 5 .done (fun _ => .done)
      (.registerTask ⟨"a", by decide⟩ 5 (.cancelTask ⟨"b", by decide⟩ (fun _ => .done) .done)
        (fun _ => .done) .done)), .runDueTasks 7]).log).map (fun task => task.id.value) = ["a"] := by
  decide +kernel

/-! ## The guard of `ProcessPendingCommands` -/

theorem runWith_processingCommands
    {process : ℤ → InMemoryTimingTaskRunner → ℕ × InMemoryTimingTaskRunner}
    (hprocess : ∀ appliedAt r, (process appliedAt r).2.processingCommands = r.processingCommands)
    (script : Script) (r : InMemoryTimingTaskRunner) :
    (runWith process script r).processingCommands = r.processingCommands := by
  induction script generalizing r with
  | done => rfl
  | observe next ih =>
      rw [runWith]
      exact ih _ r
  | registerTask taskId triggerAt callback onResult next _ ihResult ihNext =>
      rw [runWith]
      cases r.callbackAppliedAt with
      | none => exact ihNext _
      | some appliedAt =>
          refine (ihNext _).trans ((ihResult _ _).trans ?_)
          unfold applyRegisterTask
          split_ifs <;> rfl
  | cancelTask taskId onResult next ihResult ihNext =>
      rw [runWith]
      cases r.callbackAppliedAt with
      | none => exact ihNext _
      | some appliedAt =>
          refine (ihNext _).trans ((ihResult _ _).trans ?_)
          rcases applyCancelTask_cases r taskId appliedAt with ⟨_, _, _, -, h⟩ | ⟨-, h⟩ <;>
            rw [h] <;> rfl
  | processPendingCommands appliedAt next ih =>
      rw [runWith]
      exact (ih _ _).trans (hprocess appliedAt r)

/-- While commands are processed, the handlers of the queue run as any client code does: the guard
answers their calls of `ProcessPendingCommands` with 0. -/
theorem runWith_processNested (script : Script)
    (h : r.processingCommands = true) : runWith processNested script r = r.runScript script := by
  have hsame : ∀ script (r : InMemoryTimingTaskRunner), r.processingCommands = true →
      (runWith processNested script r).processingCommands = true := by
    intro script r h
    rw [runWith_processingCommands (fun _ _ => rfl), h]
  unfold runScript
  induction script generalizing r with
  | done => rfl
  | observe next ih =>
      rw [runWith, runWith]
      exact ih _ h
  | registerTask taskId triggerAt callback onResult next _ ihResult ihNext =>
      rw [runWith, runWith]
      cases r.callbackAppliedAt with
      | none => exact ihNext h
      | some appliedAt =>
          have happlied : ∀ event, ((r.applyRegisterTask ⟨taskId, triggerAt, callback, onResult⟩
              appliedAt).2.record event).processingCommands = true := by
            intro event
            unfold applyRegisterTask
            split_ifs <;> exact h
          dsimp only
          rw [← ihResult _ (happlied _), ihNext (hsame _ _ (happlied _))]
  | cancelTask taskId onResult next ihResult ihNext =>
      rw [runWith, runWith]
      cases r.callbackAppliedAt with
      | none => exact ihNext h
      | some appliedAt =>
          have happlied : ∀ event, ((r.applyCancelTask taskId appliedAt).2.record
              event).processingCommands = true := by
            intro event
            rcases applyCancelTask_cases r taskId appliedAt with ⟨_, _, _, -, heq⟩ | ⟨-, heq⟩ <;>
              rw [heq] <;> exact h
          dsimp only
          rw [← ihResult _ (happlied _), ihNext (hsame _ _ (happlied _))]
  | processPendingCommands appliedAt next ih =>
      rw [runWith, runWith, InMemoryTimingTaskRunner.processPendingCommands, if_pos h]
      exact ih _ h

end VoiceLife
