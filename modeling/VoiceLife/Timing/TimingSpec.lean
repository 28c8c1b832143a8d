import VoiceLife.Lib.Run
import VoiceLife.Timing.TimingTask

/-! # What a timing runner is for

The abstract runner knows which tasks are pending, which identifiers are used, which commands wait
and, within a batch, which due tasks it still has to run. Its traces are the logs a runner may write,
and `TimingSpec` says what every such log satisfies.
-/

namespace VoiceLife

open Run

/-- A task as the order of a batch sees it: the trigger time first, then the identifier. -/
abbrev TimedTask := ℤ ×ₗ TaskId

namespace TimedTask

/-- The trigger time. -/
def triggerAt (task : TimedTask) : ℤ := (ofLex task).1

/-- The identifier. -/
def id (task : TimedTask) : TaskId := (ofLex task).2

@[simp] theorem triggerAt_toLex (triggerAt : ℤ) (id : TaskId) :
    TimedTask.triggerAt (toLex (triggerAt, id)) = triggerAt := rfl

@[simp] theorem id_toLex (triggerAt : ℤ) (id : TaskId) :
    TimedTask.id (toLex (triggerAt, id)) = id := rfl

end TimedTask

/-! ## Reading a log -/

/-- The tasks that were registered. -/
def registrations (log : List TimingEvent) : List TimedTask :=
  log.filterMap fun
    | .registerResult _ id triggerAt .registered => some (toLex (triggerAt, id))
    | _ => none

/-- The identifiers that were cancelled. -/
def cancellations (log : List TimingEvent) : List TaskId :=
  log.filterMap fun
    | .cancelResult _ id .cancelled => some id
    | _ => none

/-- The tasks whose callbacks ran. -/
def invocations (log : List TimingEvent) : List TimedTask :=
  log.filterMap fun
    | .invoked id triggerAt => some (toLex (triggerAt, id))
    | _ => none

/-- The commands that were put into the queue. -/
def submissions (log : List TimingEvent) : List TaskOrder :=
  log.filterMap fun
    | .submitted order => some order
    | _ => none

/-- The commands of the queue that took effect. -/
def applications (log : List TimingEvent) : List TaskOrder :=
  log.filterMap fun
    | .registerResult true id triggerAt _ => some (.register id triggerAt)
    | .cancelResult true id _ => some (.cancel id)
    | _ => none

/-- The tasks that are pending after a log. -/
def pendingTasks (log : List TimingEvent) : List TimedTask :=
  (registrations log).filter fun task =>
    task.id ∉ cancellations log ∧ task.id ∉ (invocations log).map TimedTask.id

/-- The earliest trigger time of some tasks, if there are any. -/
def IsNextWake (tasks : Set TimedTask) : Option ℤ → Prop
  | none => tasks = ∅
  | some wake => IsLeast (TimedTask.triggerAt '' tasks) wake

/-- The specification of a timing runner, as a property of its log. -/
structure TimingSpec (log : List TimingEvent) : Prop where
  /-- A registration succeeds exactly if it is the first one of its identifier. -/
  registered_once : ∀ before queued id triggerAt result after,
    log = before ++ TimingEvent.registerResult queued id triggerAt result :: after →
      (result = .registered ↔ id ∉ (registrations before).map TimedTask.id)
  /-- A callback runs for a pending task: registered, not cancelled and not run before. -/
  invoked_once : ∀ before id triggerAt after, log = before ++ TimingEvent.invoked id triggerAt :: after →
    toLex (triggerAt, id) ∈ pendingTasks before
  /-- Queued commands take effect in the order of their submission. -/
  submission_order : applications log <+: submissions log
  /-- A batch runs, in order, the tasks that were due when it was taken and not cancelled since. -/
  batch : ∀ before now batch result after,
    log = before ++ TimingEvent.batchTaken now :: (batch ++ TimingEvent.batchDone result :: after) →
    (∀ now', .batchTaken now' ∉ batch) →
    (invocations batch).Pairwise (· < ·) ∧
      (∀ task, task ∈ invocations batch ↔ task ∈ pendingTasks before ∧ task.triggerAt ≤ now ∧
        task.id ∉ cancellations batch) ∧
      ∀ task ∈ registrations batch, task ∉ invocations batch
  /-- Callbacks only run in a batch. -/
  invoked_in_batch : ∀ before id triggerAt after,
    log = before ++ TimingEvent.invoked id triggerAt :: after →
    ∃ earlier now batch, before = earlier ++ TimingEvent.batchTaken now :: batch ∧
      ∀ result, .batchDone result ∉ batch
  /-- A batch answers with the earliest trigger time that is left. -/
  next_wake : ∀ before result after, log = before ++ TimingEvent.batchDone result :: after →
    IsNextWake {task | task ∈ pendingTasks before} result.nextWakeAt

/-! ## The abstract runner -/

/-- The state of the abstract runner. -/
structure TimingState where
  used : Set TaskId := ∅
  pending : Set TimedTask := ∅
  queue : List TaskOrder := []
  due : Option (Set TimedTask) := none

/-- Where a command comes from: the head of the queue, or a callback of a batch. -/
def TakesOrder (s : TimingState) (order : TaskOrder) (queue : List TaskOrder) : Bool → Prop
  | true => s.queue = order :: queue
  | false => s.queue = queue ∧ s.due.isSome = true

/-- A task is no longer pending, nor due. -/
def TimingState.remove (s : TimingState) (task : TimedTask) : TimingState :=
  { s with pending := s.pending \ {task}, due := s.due.map (· \ {task}) }

/-- The steps of the abstract runner. -/
inductive TimingStep : TimingState → TimingEvent → TimingState → Prop where
  | submit {s : TimingState} (order : TaskOrder) (hdue : s.due = none) :
      TimingStep s (.submitted order) { s with queue := s.queue ++ [order] }
  | register {s : TimingState} {queue queued id triggerAt}
      (hqueue : TakesOrder s (.register id triggerAt) queue queued) (hfresh : id ∉ s.used) :
      TimingStep s (.registerResult queued id triggerAt .registered)
        { s with
          used := insert id s.used, pending := insert (toLex (triggerAt, id)) s.pending, queue }
  | duplicate {s : TimingState} {queue queued id triggerAt}
      (hqueue : TakesOrder s (.register id triggerAt) queue queued) (hused : id ∈ s.used) :
      TimingStep s (.registerResult queued id triggerAt .duplicate) { s with queue }
  | cancel {s : TimingState} {queue queued id} (triggerAt : ℤ)
      (hqueue : TakesOrder s (.cancel id) queue queued)
      (hpending : toLex (triggerAt, id) ∈ s.pending) :
      TimingStep s (.cancelResult queued id .cancelled)
        { s.remove (toLex (triggerAt, id)) with queue }
  | notFound {s : TimingState} {queue queued id} (hqueue : TakesOrder s (.cancel id) queue queued)
      (hmissing : ∀ task ∈ s.pending, task.id ≠ id) :
      TimingStep s (.cancelResult queued id .notFound) { s with queue }
  | take {s : TimingState} (now : ℤ) (hdue : s.due = none) :
      TimingStep s (.batchTaken now)
        { s with due := some {task ∈ s.pending | task.triggerAt ≤ now} }
  | invoke {s : TimingState} {due : Set TimedTask} {id triggerAt} (hdue : s.due = some due)
      (hleast : IsLeast due (toLex (triggerAt, id))) :
      TimingStep s (.invoked id triggerAt) (s.remove (toLex (triggerAt, id)))
  | finish {s : TimingState} {result : RunDueTasksResult} (hdue : s.due = some ∅)
      (hwake : IsNextWake s.pending result.nextWakeAt) :
      TimingStep s (.batchDone result) { s with due := none }

/-! ## What the state knows about its log -/

@[simp] theorem registrations_append (log log' : List TimingEvent) :
    registrations (log ++ log') = registrations log ++ registrations log' :=
  List.filterMap_append

@[simp] theorem cancellations_append (log log' : List TimingEvent) :
    cancellations (log ++ log') = cancellations log ++ cancellations log' :=
  List.filterMap_append

@[simp] theorem invocations_append (log log' : List TimingEvent) :
    invocations (log ++ log') = invocations log ++ invocations log' :=
  List.filterMap_append

@[simp] theorem submissions_append (log log' : List TimingEvent) :
    submissions (log ++ log') = submissions log ++ submissions log' :=
  List.filterMap_append

@[simp] theorem applications_append (log log' : List TimingEvent) :
    applications (log ++ log') = applications log ++ applications log' :=
  List.filterMap_append

theorem mem_pendingTasks {log : List TimingEvent} {task : TimedTask} :
    task ∈ pendingTasks log ↔ task ∈ registrations log ∧ task.id ∉ cancellations log ∧
      task.id ∉ (invocations log).map TimedTask.id := by
  simp [pendingTasks, List.mem_filter]

/-- The state and the log agree. -/
structure Reflects (s : TimingState) (log : List TimingEvent) : Prop where
  used : ∀ id, id ∈ s.used ↔ id ∈ (registrations log).map TimedTask.id
  unique : ((registrations log).map TimedTask.id).Nodup
  pending : ∀ task, task ∈ s.pending ↔ task ∈ pendingTasks log
  cancelled_used : ∀ id ∈ cancellations log, id ∈ s.used
  invoked_used : ∀ task ∈ invocations log, task.id ∈ s.used
  not_both : ∀ task ∈ invocations log, task.id ∉ cancellations log
  due_pending : ∀ due, s.due = some due → due ⊆ s.pending
  queue : submissions log = applications log ++ s.queue

namespace Reflects

variable {s s' : TimingState} {log : List TimingEvent}

/-- An event that neither registers, cancels nor runs a task. -/
theorem of_same (h : Reflects s log) {event : TimingEvent}
    (hregistrations : registrations [event] = []) (hcancellations : cancellations [event] = [])
    (hinvocations : invocations [event] = []) (hused : s'.used = s.used)
    (hpending : s'.pending = s.pending) (hdue : ∀ due, s'.due = some due → due ⊆ s.pending)
    (hqueue : submissions log ++ submissions [event] =
      applications log ++ applications [event] ++ s'.queue) : Reflects s' (log ++ [event]) := by
  have hr : registrations (log ++ [event]) = registrations log := by
    rw [registrations_append, hregistrations, List.append_nil]
  have hc : cancellations (log ++ [event]) = cancellations log := by
    rw [cancellations_append, hcancellations, List.append_nil]
  have hi : invocations (log ++ [event]) = invocations log := by
    rw [invocations_append, hinvocations, List.append_nil]
  refine ⟨?_, ?_, ?_, ?_, ?_, ?_, ?_, ?_⟩
  · rw [hused, hr]
    exact h.used
  · rw [hr]
    exact h.unique
  · intro task
    rw [hpending, h.pending, mem_pendingTasks, mem_pendingTasks, hr, hc, hi]
  · rw [hused, hc]
    exact h.cancelled_used
  · rw [hused, hi]
    exact h.invoked_used
  · rw [hi, hc]
    exact h.not_both
  · rw [hpending]
    exact hdue
  · rw [submissions_append, applications_append]
    exact hqueue

/-- The queue of a step that takes a command. -/
theorem queue_eq (h : Reflects s log) {order : TaskOrder} {queue : List TaskOrder} {queued : Bool}
    (hqueue : TakesOrder s order queue queued) :
    submissions log = applications log ++ (if queued then [order] else []) ++ queue := by
  rw [h.queue]
  cases queued with
  | true => simp [show s.queue = order :: queue from hqueue]
  | false => simp [show s.queue = queue from hqueue.1]

/-- A pending task with the identifier is the pending task. -/
theorem eq_of_id_eq (h : Reflects s log) {task task' : TimedTask} (hmem : task ∈ s.pending)
    (hmem' : task' ∈ s.pending) (hid : task.id = task'.id) : task = task' := by
  rw [h.pending, mem_pendingTasks] at hmem hmem'
  exact List.inj_on_of_nodup_map h.unique hmem.1 hmem'.1 hid

/-- Removing a task leaves the tasks with other identifiers. -/
theorem mem_remove (h : Reflects s log) {task task' : TimedTask} (hmem : task ∈ s.pending) :
    task' ∈ (s.remove task).pending ↔ task' ∈ s.pending ∧ task'.id ≠ task.id := by
  refine ⟨fun hrest => ⟨hrest.1, fun hid => hrest.2 (h.eq_of_id_eq hrest.1 hmem hid)⟩, ?_⟩
  rintro ⟨hpending, hne⟩
  refine ⟨hpending, ?_⟩
  rintro rfl
  exact hne rfl

theorem due_remove (h : Reflects s log) (task : TimedTask) :
    ∀ due, (s.remove task).due = some due → due ⊆ (s.remove task).pending := by
  intro due hdue
  obtain ⟨due', hdue', rfl⟩ := Option.map_eq_some_iff.1 hdue
  exact Set.sdiff_subset_sdiff_left (h.due_pending due' hdue')

theorem register_step (h : Reflects s log) {queue : List TaskOrder} {queued : Bool} {id : TaskId}
    {triggerAt : ℤ} (hqueue : TakesOrder s (.register id triggerAt) queue queued)
    (hfresh : id ∉ s.used) :
    Reflects { s with
      used := insert id s.used, pending := insert (toLex (triggerAt, id)) s.pending, queue }
      (log ++ [TimingEvent.registerResult queued id triggerAt .registered]) := by
  have hr : registrations (log ++ [TimingEvent.registerResult queued id triggerAt .registered]) =
      registrations log ++ [toLex (triggerAt, id)] := registrations_append _ _
  have hc : cancellations (log ++ [TimingEvent.registerResult queued id triggerAt .registered]) =
      cancellations log := (cancellations_append _ _).trans (List.append_nil _)
  have hi : invocations (log ++ [TimingEvent.registerResult queued id triggerAt .registered]) =
      invocations log := (invocations_append _ _).trans (List.append_nil _)
  have hnew : id ∉ (registrations log).map TimedTask.id := by
    rwa [← h.used]
  refine ⟨?_, ?_, ?_, ?_, ?_, ?_, ?_, ?_⟩
  · intro other
    rw [hr, List.map_append, List.mem_append, ← h.used]
    simp [or_comm]
  · rw [hr, List.map_append]
    exact List.nodup_append_comm.1 (List.nodup_cons.2 ⟨hnew, h.unique⟩)
  · intro task
    rw [Set.mem_insert_iff, h.pending, mem_pendingTasks, mem_pendingTasks, hr, hc, hi,
      List.mem_append, List.mem_singleton]
    constructor
    · rintro (rfl | ⟨hmem, hrest⟩)
      · refine ⟨Or.inr rfl, fun hcancelled => hfresh (h.cancelled_used id hcancelled), ?_⟩
        intro hinvoked
        obtain ⟨other, hother, hid⟩ := List.mem_map.1 hinvoked
        have := h.invoked_used other hother
        rw [hid] at this
        exact hfresh this
      · exact ⟨Or.inl hmem, hrest⟩
    · rintro ⟨hmem | rfl, hrest⟩
      · exact Or.inr ⟨hmem, hrest⟩
      · exact Or.inl rfl
  · rw [hc]
    intro other hother
    exact Or.inr (h.cancelled_used other hother)
  · rw [hi]
    intro other hother
    exact Or.inr (h.invoked_used other hother)
  · rw [hi, hc]
    exact h.not_both
  · intro due hdue
    exact (h.due_pending due hdue).trans (Set.subset_insert _ _)
  · rw [submissions_append, applications_append, h.queue_eq hqueue]
    cases queued <;> simp [submissions, applications]

theorem cancel_step (h : Reflects s log) {queue : List TaskOrder} {queued : Bool} {id : TaskId}
    {triggerAt : ℤ} (hqueue : TakesOrder s (.cancel id) queue queued)
    (hpending : toLex (triggerAt, id) ∈ s.pending) :
    Reflects { s.remove (toLex (triggerAt, id)) with queue }
      (log ++ [TimingEvent.cancelResult queued id .cancelled]) := by
  have hr : registrations (log ++ [TimingEvent.cancelResult queued id .cancelled]) = registrations log :=
    (registrations_append _ _).trans (List.append_nil _)
  have hc : cancellations (log ++ [TimingEvent.cancelResult queued id .cancelled]) =
      cancellations log ++ [id] := cancellations_append _ _
  have hi : invocations (log ++ [TimingEvent.cancelResult queued id .cancelled]) = invocations log :=
    (invocations_append _ _).trans (List.append_nil _)
  have hin := (mem_pendingTasks.1 ((h.pending _).1 hpending))
  have hused : id ∈ s.used := (h.used id).2 (List.mem_map_of_mem hin.1)
  refine ⟨?_, ?_, ?_, ?_, ?_, ?_, h.due_remove _, ?_⟩
  · rw [hr]
    exact h.used
  · rw [hr]
    exact h.unique
  · intro task
    refine (h.mem_remove hpending).trans ?_
    rw [h.pending, mem_pendingTasks, mem_pendingTasks, hr, hc, hi, List.mem_append, not_or,
      List.mem_singleton]
    simp only [TimedTask.id_toLex]
    tauto
  · rw [hc]
    intro other hother
    rcases List.mem_append.1 hother with hother | hother
    · exact h.cancelled_used other hother
    · rw [List.mem_singleton.1 hother]
      exact hused
  · rw [hi]
    exact h.invoked_used
  · rw [hi, hc]
    intro task htask hcancelled
    rcases List.mem_append.1 hcancelled with hcancelled | hcancelled
    · exact h.not_both task htask hcancelled
    · -- a pending task has not been invoked
      apply hin.2.2
      rw [TimedTask.id_toLex, ← List.mem_singleton.1 hcancelled]
      exact List.mem_map_of_mem htask
  · rw [submissions_append, applications_append, h.queue_eq hqueue]
    cases queued <;> simp [submissions, applications]

theorem invoke_step (h : Reflects s log) {id : TaskId} {triggerAt : ℤ}
    (hpending : toLex (triggerAt, id) ∈ s.pending) :
    Reflects (s.remove (toLex (triggerAt, id))) (log ++ [TimingEvent.invoked id triggerAt]) := by
  have hr : registrations (log ++ [TimingEvent.invoked id triggerAt]) = registrations log :=
    (registrations_append _ _).trans (List.append_nil _)
  have hc : cancellations (log ++ [TimingEvent.invoked id triggerAt]) = cancellations log :=
    (cancellations_append _ _).trans (List.append_nil _)
  have hi : invocations (log ++ [TimingEvent.invoked id triggerAt]) =
      invocations log ++ [toLex (triggerAt, id)] := invocations_append _ _
  have hin := (mem_pendingTasks.1 ((h.pending _).1 hpending))
  have hused : id ∈ s.used := (h.used id).2 (List.mem_map_of_mem hin.1)
  refine ⟨?_, ?_, ?_, ?_, ?_, ?_, h.due_remove _, ?_⟩
  · rw [hr]
    exact h.used
  · rw [hr]
    exact h.unique
  · intro task
    refine (h.mem_remove hpending).trans ?_
    rw [h.pending, mem_pendingTasks, mem_pendingTasks, hr, hc, hi, List.map_append, List.mem_append,
      not_or, List.map_cons, List.map_nil, List.mem_singleton]
    tauto
  · rw [hc]
    exact h.cancelled_used
  · rw [hi]
    intro task htask
    rcases List.mem_append.1 htask with htask | htask
    · exact h.invoked_used task htask
    · rw [List.mem_singleton.1 htask]
      exact hused
  · rw [hi, hc]
    intro task htask
    rcases List.mem_append.1 htask with htask | htask
    · exact h.not_both task htask
    · rw [List.mem_singleton.1 htask]
      exact hin.2.1
  · rw [submissions_append, applications_append, h.queue]
    simp [submissions, applications, TimingState.remove]

/-- A step keeps state and log in agreement. -/
theorem step (h : Reflects s log) {event : TimingEvent} (hstep : TimingStep s event s') :
    Reflects s' (log ++ [event]) := by
  cases hstep with
  | submit order hdue =>
      refine h.of_same rfl rfl rfl rfl rfl h.due_pending ?_
      rw [h.queue]
      simp [submissions, applications]
  | register hqueue hfresh => exact h.register_step hqueue hfresh
  | @duplicate queue queued id triggerAt hqueue hused =>
      refine h.of_same rfl rfl rfl rfl rfl h.due_pending ?_
      rw [h.queue_eq hqueue]
      cases queued <;> simp [submissions, applications]
  | cancel triggerAt hqueue hpending => exact h.cancel_step hqueue hpending
  | @notFound queue queued id hqueue hmissing =>
      refine h.of_same rfl rfl rfl rfl rfl h.due_pending ?_
      rw [h.queue_eq hqueue]
      cases queued <;> simp [submissions, applications]
  | take now hdue =>
      refine h.of_same rfl rfl rfl rfl rfl ?_ ?_
      · rintro due hsome
        cases hsome
        exact Set.sep_subset _ _
      · rw [h.queue]
        simp [submissions, applications]
  | invoke hdue hleast => exact h.invoke_step (h.due_pending _ hdue hleast.1)
  | finish hdue hwake =>
      refine h.of_same rfl rfl rfl rfl rfl (fun due hsome => by cases hsome) ?_
      rw [h.queue]
      simp [submissions, applications]

/-- Every trace of the abstract runner ends in a state that agrees with its log. -/
theorem of_trace (h : Trace TimingStep {} log s) : Reflects s log := by
  induction h with
  | nil =>
      refine ⟨?_, ?_, ?_, ?_, ?_, ?_, ?_, rfl⟩ <;> simp [registrations, cancellations, invocations,
        pendingTasks]
  | snoc _ hstep ih => exact ih.step hstep

end Reflects

/-! ## Batches -/

/-- How far a batch has come: of the tasks it started with, some have run, in order, some have been
cancelled and the rest are due and come later. -/
structure BatchProgress (start due : Set TimedTask) (batch : List TimingEvent) : Prop where
  due_subset : due ⊆ start
  invoked_mem : ∀ task ∈ invocations batch, task ∈ start
  covered : ∀ task ∈ start, task ∈ due ∨ task ∈ invocations batch ∨ task.id ∈ cancellations batch
  ordered : (invocations batch).Pairwise (· < ·)
  before_due : ∀ task ∈ invocations batch, ∀ later ∈ due, task < later

namespace BatchProgress

variable {start due : Set TimedTask} {batch : List TimingEvent}

theorem refl (start : Set TimedTask) : BatchProgress start start [] := by
  refine ⟨subset_rfl, ?_, fun task htask => Or.inl htask, List.Pairwise.nil, ?_⟩ <;>
    simp [invocations]

/-- An event that neither runs nor cancels a task. -/
theorem of_same (h : BatchProgress start due batch) {event : TimingEvent}
    (hinvocations : invocations [event] = []) (hcancellations : cancellations [event] = []) :
    BatchProgress start due (batch ++ [event]) := by
  have hi : invocations (batch ++ [event]) = invocations batch := by
    rw [invocations_append, hinvocations, List.append_nil]
  have hc : cancellations (batch ++ [event]) = cancellations batch := by
    rw [cancellations_append, hcancellations, List.append_nil]
  refine ⟨h.due_subset, ?_, ?_, ?_, ?_⟩
  · rw [hi]
    exact h.invoked_mem
  · rw [hi, hc]
    exact h.covered
  · rw [hi]
    exact h.ordered
  · rw [hi]
    exact h.before_due

theorem cancel (h : BatchProgress start due batch) (queued : Bool) (id : TaskId) (triggerAt : ℤ) :
    BatchProgress start (due \ {toLex (triggerAt, id)})
      (batch ++ [TimingEvent.cancelResult queued id .cancelled]) := by
  have hi : invocations (batch ++ [TimingEvent.cancelResult queued id .cancelled]) = invocations batch :=
    (invocations_append _ _).trans (List.append_nil _)
  have hc : cancellations (batch ++ [TimingEvent.cancelResult queued id .cancelled]) =
      cancellations batch ++ [id] := cancellations_append _ _
  refine ⟨Set.sdiff_subset.trans h.due_subset, ?_, ?_, ?_, ?_⟩
  · rw [hi]
    exact h.invoked_mem
  · rw [hi, hc]
    intro task htask
    rcases h.covered task htask with hdue | hinvoked | hcancelled
    · by_cases hsame : task = toLex (triggerAt, id)
      · refine Or.inr (Or.inr (List.mem_append_right _ ?_))
        rw [hsame]
        exact List.mem_singleton_self _
      · exact Or.inl ⟨hdue, hsame⟩
    · exact Or.inr (Or.inl hinvoked)
    · exact Or.inr (Or.inr (List.mem_append_left _ hcancelled))
  · rw [hi]
    exact h.ordered
  · rw [hi]
    intro task htask later hlater
    exact h.before_due task htask later hlater.1

theorem invoke (h : BatchProgress start due batch) {id : TaskId} {triggerAt : ℤ}
    (hleast : IsLeast due (toLex (triggerAt, id))) :
    BatchProgress start (due \ {toLex (triggerAt, id)}) (batch ++ [TimingEvent.invoked id triggerAt]) := by
  have hi : invocations (batch ++ [TimingEvent.invoked id triggerAt]) =
      invocations batch ++ [toLex (triggerAt, id)] := invocations_append _ _
  have hc : cancellations (batch ++ [TimingEvent.invoked id triggerAt]) = cancellations batch :=
    (cancellations_append _ _).trans (List.append_nil _)
  refine ⟨Set.sdiff_subset.trans h.due_subset, ?_, ?_, ?_, ?_⟩
  · rw [hi]
    intro task htask
    rcases List.mem_append.1 htask with htask | htask
    · exact h.invoked_mem task htask
    · rw [List.mem_singleton.1 htask]
      exact h.due_subset hleast.1
  · rw [hi, hc]
    intro task htask
    rcases h.covered task htask with hdue | hinvoked | hcancelled
    · by_cases hsame : task = toLex (triggerAt, id)
      · refine Or.inr (Or.inl (List.mem_append_right _ ?_))
        rw [hsame]
        exact List.mem_singleton_self _
      · exact Or.inl ⟨hdue, hsame⟩
    · exact Or.inr (Or.inl (List.mem_append_left _ hinvoked))
    · exact Or.inr (Or.inr hcancelled)
  · rw [hi, List.pairwise_append]
    refine ⟨h.ordered, List.pairwise_singleton _ _, ?_⟩
    intro task htask later hlater
    rw [List.mem_singleton.1 hlater]
    exact h.before_due task htask _ hleast.1
  · rw [hi]
    intro task htask later hlater
    rcases List.mem_append.1 htask with htask | htask
    · exact h.before_due task htask later hlater.1
    · rw [List.mem_singleton.1 htask]
      exact lt_of_le_of_ne (hleast.2 hlater.1) fun hsame => hlater.2 hsame.symm

/-- A batch that is still open has made progress. -/
theorem of_trace {s s' : TimingState} (hdue : s.due = some start) (h : Trace TimingStep s batch s')
    (hopen : ∀ now, .batchTaken now ∉ batch) :
    s'.due = none ∨ ∃ due, s'.due = some due ∧ BatchProgress start due batch := by
  induction h with
  | nil => exact Or.inr ⟨start, hdue, refl start⟩
  | @snoc events event t u htrace hstep ih =>
      have ih := ih fun now hmem => hopen now (List.mem_append_left _ hmem)
      have hevent : ∀ now, event ≠ .batchTaken now := by
        rintro now rfl
        exact hopen now (List.mem_append_right _ (List.mem_singleton_self _))
      cases hstep with
      | submit order hnone => exact Or.inl hnone
      | register hqueue hfresh =>
          rcases ih with hnone | ⟨due, hsome, hprogress⟩
          · exact Or.inl hnone
          · exact Or.inr ⟨due, hsome, hprogress.of_same rfl rfl⟩
      | duplicate hqueue hused =>
          rcases ih with hnone | ⟨due, hsome, hprogress⟩
          · exact Or.inl hnone
          · exact Or.inr ⟨due, hsome, hprogress.of_same rfl rfl⟩
      | @cancel queue queued id triggerAt hqueue hpending =>
          rcases ih with hnone | ⟨due, hsome, hprogress⟩
          · refine Or.inl ?_
            rw [TimingState.remove, hnone]
            rfl
          · refine Or.inr ⟨_, ?_, hprogress.cancel queued id triggerAt⟩
            rw [TimingState.remove, hsome]
            rfl
      | notFound hqueue hmissing =>
          rcases ih with hnone | ⟨due, hsome, hprogress⟩
          · exact Or.inl hnone
          · exact Or.inr ⟨due, hsome, hprogress.of_same rfl rfl⟩
      | take now _ => exact absurd rfl (hevent now)
      | invoke hsome hleast =>
          rcases ih with hnone | ⟨due, hsome', hprogress⟩
          · rw [hnone] at hsome
            cases hsome
          · rw [hsome', Option.some_inj] at hsome
            subst hsome
            refine Or.inr ⟨_, ?_, hprogress.invoke hleast⟩
            rw [TimingState.remove, hsome']
            rfl
      | finish _ _ => exact Or.inl rfl

end BatchProgress

/-- A batch is open only after it has been taken. -/
theorem exists_batchTaken {s : TimingState} {log : List TimingEvent}
    (h : Trace TimingStep {} log s) (hdue : s.due.isSome = true) :
    ∃ earlier now batch, log = earlier ++ TimingEvent.batchTaken now :: batch ∧
      ∀ result, .batchDone result ∉ batch := by
  induction h with
  | nil => cases hdue
  | @snoc events event t u htrace hstep ih =>
      have hextend : t.due.isSome = true → (∀ result, event ≠ .batchDone result) →
          ∃ earlier now batch, events ++ [event] = earlier ++ TimingEvent.batchTaken now :: batch ∧
            ∀ result, .batchDone result ∉ batch := by
        intro hsome hevent
        obtain ⟨earlier, now, batch, hlog, hopen⟩ := ih hsome
        refine ⟨earlier, now, batch ++ [event], by simp [hlog], fun result hmem => ?_⟩
        rcases List.mem_append.1 hmem with hmem | hmem
        · exact hopen result hmem
        · exact hevent result (List.mem_singleton.1 hmem).symm
      cases hstep with
      | submit order hnone => exact hextend hdue fun _ h => by cases h
      | register hqueue hfresh => exact hextend hdue fun _ h => by cases h
      | duplicate hqueue hused => exact hextend hdue fun _ h => by cases h
      | cancel triggerAt hqueue hpending =>
          refine hextend ?_ fun _ h => by cases h
          rwa [TimingState.remove, Option.isSome_map] at hdue
      | notFound hqueue hmissing => exact hextend hdue fun _ h => by cases h
      | take now _ => exact ⟨events, now, [], rfl, fun _ h => by cases h⟩
      | invoke hsome hleast =>
          refine hextend ?_ fun _ h => by cases h
          rw [hsome]
          rfl
      | finish _ _ => cases hdue

/-- Every trace of the abstract runner meets the specification. -/
theorem timingSpec_of_trace {s : TimingState} {log : List TimingEvent}
    (h : Trace TimingStep {} log s) : TimingSpec log := by
  refine ⟨?_, ?_, ?_, ?_, ?_, ?_⟩
  · rintro before queued id triggerAt result after rfl
    obtain ⟨t, t', hbefore, hstep, -⟩ := h.split_cons
    rw [← (Reflects.of_trace hbefore).used]
    cases hstep with
    | register _ hfresh => exact iff_of_true rfl hfresh
    | duplicate _ hused => exact iff_of_false (fun h => by cases h) (not_not.2 hused)
  · rintro before id triggerAt after rfl
    obtain ⟨t, t', hbefore, hstep, -⟩ := h.split_cons
    have hreflects := Reflects.of_trace hbefore
    cases hstep with
    | invoke hdue hleast => exact (hreflects.pending _).1 (hreflects.due_pending _ hdue hleast.1)
  · rw [(Reflects.of_trace h).queue]
    exact List.prefix_append _ _
  · rintro before now batch result after rfl hopen
    obtain ⟨t, t', hbefore, htake, hrest⟩ := h.split_cons
    obtain ⟨u, u', hbatch, hfinish, -⟩ := hrest.split_cons
    have hreflects := Reflects.of_trace hbefore
    have hend := Reflects.of_trace ((hbefore.snoc htake).append hbatch)
    cases htake with
    | take _ hnone =>
        cases hfinish with
        | finish hempty hwake =>
            rcases BatchProgress.of_trace rfl hbatch hopen with hclosed | ⟨due, hdue, hprogress⟩
            · rw [hclosed] at hempty
              cases hempty
            · rw [hdue, Option.some_inj] at hempty
              subst hempty
              have hinvoked : ∀ task, task ∈ invocations batch ↔ task ∈ pendingTasks before ∧
                  task.triggerAt ≤ now ∧ task.id ∉ cancellations batch := by
                intro task
                rw [← and_assoc, ← hreflects.pending]
                constructor
                · intro htask
                  refine ⟨hprogress.invoked_mem task htask, fun hcancelled => ?_⟩
                  apply hend.not_both task
                  · exact (invocations_append _ _).symm ▸ List.mem_append_right _ htask
                  · exact (cancellations_append _ _).symm ▸ List.mem_append_right _ hcancelled
                · rintro ⟨hstart, hcancelled⟩
                  rcases hprogress.covered task hstart with hdue | hinvoked | hcancelled'
                  · cases hdue
                  · exact hinvoked
                  · exact absurd hcancelled' hcancelled
              refine ⟨hprogress.ordered, hinvoked, ?_⟩
              intro task hregistered htask
              have hearlier := (mem_pendingTasks.1 ((hinvoked task).1 htask).1).1
              have hunique := hend.unique
              rw [registrations_append, registrations_append, List.map_append,
                List.map_append, List.nodup_append] at hunique
              exact hunique.2.2 task.id (List.mem_append_left _ (List.mem_map_of_mem hearlier))
                task.id (List.mem_map_of_mem hregistered) rfl
  · rintro before id triggerAt after rfl
    obtain ⟨t, t', hbefore, hstep, -⟩ := h.split_cons
    cases hstep with
    | invoke hdue hleast =>
        apply exists_batchTaken hbefore
        rw [hdue]
        rfl
  · rintro before result after rfl
    obtain ⟨t, t', hbefore, hstep, -⟩ := h.split_cons
    have hpending : t.pending = {task | task ∈ pendingTasks before} :=
      Set.ext fun task => (Reflects.of_trace hbefore).pending task
    cases hstep with
    | finish hempty hwake => rwa [hpending] at hwake

end VoiceLife
