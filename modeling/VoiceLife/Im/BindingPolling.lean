import VoiceLife.Im.PairingController
import VoiceLife.Lib.Run

/-! # `im_binding_polling_lease.h` and the polling tasks of `runtime.cc`

The MCP worker starts binding sessions, and a task polls them until they end. A lease on the
generation of the session decides whether the worker creates a task or an exiting one takes the new
session over. Each lease operation, each call of the use case and each enqueued result is one step.
-/

namespace VoiceLife.Im

open DecimalText

/-! ## The lease -/

/-- `BindingPollingLease`: the generation that a task polls for, zero if there is none. -/
structure BindingPollingLease where
  generation : ℕ := 0

namespace BindingPollingLease

/-- `Acquire`: whether the caller has to create a task. -/
def acquire (lease : BindingPollingLease) (generation : ℕ) : Bool × BindingPollingLease :=
  if lease.generation = generation then (false, lease)
  else (lease.generation == 0, { generation })

/-- `Release`. -/
def release (lease : BindingPollingLease) (generation : ℕ) : Bool × BindingPollingLease :=
  if lease.generation = generation then (true, { generation := 0 }) else (false, lease)

end BindingPollingLease

/-! ## The worker and the tasks -/

/-- Where the MCP worker is: between two calls of `Start`, or in `StartBindingPolling`. -/
inductive StartPolling where
  | idle
  | acquiring (generation : ℕ)
  | creating (generation : ℕ)
  | releasing (generation : ℕ)
  | aborting (generation : ℕ)
  | enqueuing (result : BindingResult)

/-- Where a task is in `BindingPollLoop`; `owner` is its `owner_generation`. -/
inductive PollTask where
  | reading
  | polling (owner : ℕ)
  | enqueuing (owner : ℕ) (result : BindingResult)
  | checking (owner : ℕ)
  | releasing (owner : ℕ)
  | stopped

/-- The use case, the lease, the worker, the tasks created so far and the results they enqueued. -/
structure PollingSystem where
  useCase : BindingUseCase
  lease : BindingPollingLease := {}
  worker : StartPolling := .idle
  tasks : List PollTask := []
  enqueued : List BindingResult := []

/-- One step: a call of `Start`, or what the worker or a task does next. The gateway answers
anything, and a task is created or not. -/
inductive PollingStep where
  | start (expiresInMinutes : ℤ) (created : PairingCreateResult)
  | worker (taskCreated : Bool)
  | task (index : ℕ) (queried : PairingQueryResult)

namespace PollingSystem

/-- `Start` of an idle worker; a pending session is followed by `StartBindingPolling`. -/
def startBinding (s : PollingSystem) (expiresInMinutes : ℤ) (created : PairingCreateResult) :
    PollingSystem :=
  match s.worker with
  | .idle =>
    let started := s.useCase.start expiresInMinutes created
    { s with
      useCase := started.2
      worker := if started.1.state = .pending then .acquiring started.1.generation else .idle }
  | _ => s

/-- `StartBindingPolling`. -/
def startBindingPolling (s : PollingSystem) (taskCreated : Bool) : PollingSystem :=
  match s.worker with
  | .idle => s
  | .acquiring generation =>
    let acquired := s.lease.acquire generation
    { s with
      lease := acquired.2
      worker := if acquired.1 then .creating generation else .idle }
  | .creating generation =>
    if taskCreated then { s with tasks := s.tasks ++ [.reading], worker := .idle }
    else { s with worker := .releasing generation }
  | .releasing generation =>
    let released := s.lease.release generation
    { s with
      lease := released.2
      worker := if released.1 then .aborting generation else .idle }
  | .aborting generation =>
    let aborted := s.useCase.abortPending generation
    { s with useCase := aborted.2, worker := .enqueuing aborted.1 }
  | .enqueuing result => { s with enqueued := s.enqueued ++ [result], worker := .idle }

/-- `BindingPollLoop`. -/
def bindingPollLoop (s : PollingSystem) (index : ℕ) (queried : PairingQueryResult) :
    PollingSystem :=
  match s.tasks[index]? with
  | none => s
  | some .reading => { s with tasks := s.tasks.set index (.polling s.lease.generation) }
  | some (.polling owner) =>
    let polled := s.useCase.poll queried
    { s with
      useCase := polled.2
      tasks := s.tasks.set index
        (if polled.1.state.isOpen then .reading else .enqueuing owner polled.1) }
  | some (.enqueuing owner result) =>
    { s with
      enqueued := s.enqueued ++ [result]
      tasks := s.tasks.set index (.checking owner) }
  | some (.checking owner) =>
    { s with tasks := s.tasks.set index (if s.useCase.active then .reading else .releasing owner) }
  | some (.releasing owner) =>
    let released := s.lease.release owner
    { s with
      lease := released.2
      tasks := s.tasks.set index (if released.1 then .stopped else .reading) }
  | some .stopped => s

/-- The system after a step. -/
def step (s : PollingSystem) : PollingStep → PollingSystem
  | .start expiresInMinutes created => s.startBinding expiresInMinutes created
  | .worker taskCreated => s.startBindingPolling taskCreated
  | .task index queried => s.bindingPollLoop index queried

/-- A bound use case without a session, and no task. -/
def initial (ready : Bool) (userId : Option String) (generation : ℕ) : PollingSystem :=
  { useCase := { ready, userId, generation } }

/-! ## What holds of the pollers and the results -/

end PollingSystem

/-- The task may still call `Poll`. -/
def PollTask.isLive : PollTask → Bool
  | .stopped => false
  | _ => true

/-- The generation that the task has read from the lease. -/
def PollTask.owner : PollTask → Option ℕ
  | .reading | .stopped => none
  | .polling owner | .enqueuing owner _ | .checking owner | .releasing owner => some owner

/-- The result that the task is about to enqueue. -/
def PollTask.result : PollTask → List BindingResult
  | .enqueuing _ result => [result]
  | _ => []

/-- The result that the worker is about to enqueue. -/
def StartPolling.result : StartPolling → List BindingResult
  | .enqueuing result => [result]
  | _ => []

namespace PollingSystem

/-- The number of tasks that may still call `Poll`. -/
def livePollers (s : PollingSystem) : ℕ :=
  s.tasks.countP PollTask.isLive

/-- The terminal results that have been enqueued or are about to be. -/
def results (s : PollingSystem) : List BindingResult :=
  s.enqueued ++ s.tasks.flatMap PollTask.result ++ s.worker.result

/-- Poller, lease and session are in step, and each session reports its outcome once. A result that is
about to be enqueued counts, as its holder enqueues it next. -/
structure InStep (s : PollingSystem) : Prop where
  at_most_one : s.livePollers ≤ 1
  polled : s.useCase.active = true → s.worker = .idle →
    s.livePollers = 1 ∧ s.lease.generation ≠ 0
  released : s.livePollers = 0 → s.worker = .idle → s.lease.generation = 0
  once : ∀ generation, s.results.countP (·.generation = generation) ≤ 1

/-- The step begins no session that would use up the generations. -/
def CounterFits (s : PollingSystem) : PollingStep → Prop
  | .start _ _ => s.useCase.generation + 1 < uint64Size
  | _ => True

/-- The step calls neither `Poll` nor `AbortPending` without a session. -/
def FindsSession (s : PollingSystem) : PollingStep → Prop
  | .start _ _ => True
  | .worker _ => ∀ generation, s.worker = .aborting generation → s.useCase.active = true
  | .task index _ => ∀ owner, s.tasks[index]? = some (.polling owner) → s.useCase.active = true

instance (s : PollingSystem) : ∀ op, Decidable (CounterFits s op)
  | .start _ _ => inferInstanceAs (Decidable (_ < _))
  | .worker _ | .task _ _ => isTrue trivial

instance (s : PollingSystem) : ∀ op, Decidable (FindsSession s op)
  | .start _ _ => isTrue trivial
  | .worker _ =>
    match hworker : s.worker with
    | .aborting generation =>
      decidable_of_iff (s.useCase.active = true)
        ⟨fun hactive _ _ => hactive, fun hfinds => hfinds generation hworker⟩
    | .idle | .acquiring _ | .creating _ | .releasing _ | .enqueuing _ =>
      isTrue fun _ haborting => by rw [hworker] at haborting; cases haborting
  | .task index _ =>
    match htask : s.tasks[index]? with
    | some (.polling owner) =>
      decidable_of_iff (s.useCase.active = true)
        ⟨fun hactive _ _ => hactive, fun hfinds => hfinds owner htask⟩
    | none | some .reading | some (.enqueuing _ _) | some (.checking _) | some (.releasing _)
    | some .stopped =>
      isTrue fun _ hpolling => by rw [htask] at hpolling; cases hpolling

/-! ## The one task that runs -/

/-- All tasks have stopped, or all but the last. -/
def Runs (tasks : List PollTask) : Option PollTask → Prop
  | none => ∀ t ∈ tasks, t = .stopped
  | some live => live ≠ .stopped ∧ ∃ done, tasks = done ++ [live] ∧ ∀ t ∈ done, t = .stopped

theorem Runs.getElem? {tasks : List PollTask} {live : Option PollTask} (h : Runs tasks live)
    {index : ℕ} {t : PollTask} (ht : tasks[index]? = some t) (hlive : t ≠ .stopped) :
    live = some t ∧ (∀ t', t' ≠ .stopped → Runs (tasks.set index t') (some t')) ∧
      Runs (tasks.set index .stopped) none := by
  cases live with
  | none => exact absurd (h t (List.mem_of_getElem? ht)) hlive
  | some last =>
      obtain ⟨-, done, rfl, hdone⟩ := h
      rcases lt_trichotomy index done.length with hlt | heq | hgt
      · rw [List.getElem?_append_left hlt] at ht
        exact absurd (hdone t (List.mem_of_getElem? ht)) hlive
      · subst heq
        rw [List.getElem?_append_right le_rfl, Nat.sub_self] at ht
        cases ht
        have hset : ∀ t', (done ++ [t]).set done.length t' = done ++ [t'] := by
          intro t'
          rw [List.set_append_right _ _ le_rfl, Nat.sub_self]
          rfl
        refine ⟨rfl, fun t' ht' => ⟨ht', done, hset t', hdone⟩, ?_⟩
        rw [hset]
        intro t' ht'
        rcases List.mem_append.1 ht' with hmem | hmem
        · exact hdone t' hmem
        · exact List.mem_singleton.1 hmem
      · rw [List.getElem?_eq_none (by simp; omega)] at ht
        cases ht

theorem Runs.append {tasks : List PollTask} (h : Runs tasks none) {t : PollTask}
    (ht : t ≠ .stopped) : Runs (tasks ++ [t]) (some t) :=
  ⟨ht, tasks, rfl, h⟩

theorem Runs.livePollers {s : PollingSystem} {live : Option PollTask} (h : Runs s.tasks live) :
    s.livePollers = if live.isSome then 1 else 0 := by
  have hstopped : ∀ done : List PollTask, (∀ t ∈ done, t = .stopped) →
      done.countP PollTask.isLive = 0 := by
    intro done hdone
    rw [List.countP_eq_zero]
    intro t ht
    rw [hdone t ht]
    exact Bool.false_ne_true
  unfold PollingSystem.livePollers
  cases live with
  | none => exact hstopped _ h
  | some last =>
      obtain ⟨hlast, done, htasks, hdone⟩ := h
      rw [htasks, List.countP_append, hstopped done hdone]
      cases last with
      | stopped => exact absurd rfl hlast
      | _ => rfl

/-- What the place of the worker says about task, lease and session. -/
def WorkerInv (s : PollingSystem) (live : Option PollTask) : StartPolling → Prop
  | .idle =>
    (live = none → s.lease.generation = 0 ∧ s.useCase.active = false) ∧
      (live ≠ none → s.lease.generation = s.useCase.generation ∧ s.lease.generation ≠ 0)
  | .acquiring generation =>
    generation = s.useCase.generation ∧ generation ≠ 0 ∧
      (live = none → s.lease.generation = 0) ∧
      (live ≠ none → s.lease.generation ≠ 0 ∧ s.lease.generation < generation)
  | .creating generation | .releasing generation =>
    live = none ∧ s.lease.generation = generation ∧ generation = s.useCase.generation ∧
      generation ≠ 0
  | .aborting generation =>
    live = none ∧ s.lease.generation = 0 ∧ generation = s.useCase.generation
  | .enqueuing _ => live = none ∧ s.lease.generation = 0 ∧ s.useCase.active = false

/-- Who owns the lease. A task that is about to release it holds an earlier generation than a session
that has begun in the meantime. -/
structure Ownership (s : PollingSystem) (live : Option PollTask) : Prop where
  runs : Runs s.tasks live
  owner_le : ∀ t owner, live = some t → t.owner = some owner → owner ≤ s.useCase.generation
  releasing : ∀ owner, live = some (.releasing owner) → s.useCase.active = true →
    owner < s.useCase.generation
  worker : WorkerInv s live s.worker

theorem Ownership.lease_le {s : PollingSystem} {live : Option PollTask} (h : Ownership s live) :
    s.lease.generation ≤ s.useCase.generation := by
  have hworker := h.worker
  cases hs : s.worker with
  | idle =>
      rw [hs] at hworker
      by_cases hlive : live = none
      · rw [(hworker.1 hlive).1]
        exact Nat.zero_le _
      · exact (hworker.2 hlive).1.le
  | acquiring generation =>
      rw [hs] at hworker
      obtain ⟨hgeneration, -, hnone, hsome⟩ := hworker
      by_cases hlive : live = none
      · rw [hnone hlive]
        exact Nat.zero_le _
      · rw [← hgeneration]
        exact (hsome hlive).2.le
  | creating generation =>
      rw [hs] at hworker
      exact (hworker.2.1.trans hworker.2.2.1).le
  | releasing generation =>
      rw [hs] at hworker
      exact (hworker.2.1.trans hworker.2.2.1).le
  | aborting generation =>
      rw [hs] at hworker
      rw [hworker.2.1]
      exact Nat.zero_le _
  | enqueuing request =>
      rw [hs] at hworker
      rw [hworker.2.1]
      exact Nat.zero_le _

/-! ## One step at a time -/

variable {s : PollingSystem} {live : Option PollTask}

theorem generation_succ (hfits : s.useCase.generation + 1 < uint64Size) :
    (s.useCase.generation + 1) % uint64Size = s.useCase.generation + 1 :=
  Nat.mod_eq_of_lt hfits

theorem Ownership.startBinding (h : Ownership s live) (expiresInMinutes : ℤ)
    (created : PairingCreateResult) (hfits : s.useCase.generation + 1 < uint64Size) :
    Ownership (s.startBinding expiresInMinutes created) live := by
  have hworker := h.worker
  unfold PollingSystem.startBinding
  cases hs : s.worker with
  | idle =>
      rw [hs] at hworker
      dsimp only
      rcases s.useCase.start_cases expiresInMinutes created with hbegins | hkeeps
      · rw [if_pos hbegins.state]
        have hnew := hbegins.generation
        have hresult := hbegins.result_generation
        rw [generation_succ hfits] at hnew hresult
        refine ⟨h.runs, ?_, ?_, ?_⟩
        · intro t owner hlive howner
          have := h.owner_le t owner hlive howner
          dsimp only
          omega
        · intro owner hlive _
          have := h.owner_le _ owner hlive rfl
          dsimp only
          omega
        · refine ⟨hresult.trans hnew.symm, by omega, fun hnone => (hworker.1 hnone).1, ?_⟩
          intro hsome
          have := hworker.2 hsome
          dsimp only
          omega
      · rw [if_neg hkeeps.state]
        refine ⟨h.runs, ?_, ?_, ?_⟩
        · intro t owner hlive howner
          exact (h.owner_le t owner hlive howner).trans hkeeps.generation.ge
        · intro owner hlive hactive
          have := h.releasing owner hlive (hkeeps.active.symm.trans hactive)
          exact this.trans_le hkeeps.generation.ge
        · exact ⟨fun hnone => ⟨(hworker.1 hnone).1, hkeeps.active.trans (hworker.1 hnone).2⟩,
            fun hsome => ⟨(hworker.2 hsome).1.trans hkeeps.generation.symm, (hworker.2 hsome).2⟩⟩
  | _ => exact h

theorem Ownership.startBindingPolling (h : Ownership s live) (taskCreated : Bool) :
    ∃ live', Ownership (s.startBindingPolling taskCreated) live' := by
  have hworker := h.worker
  unfold PollingSystem.startBindingPolling
  cases hs : s.worker with
  | idle => exact ⟨live, h⟩
  | acquiring generation =>
      rw [hs] at hworker
      obtain ⟨hgeneration, hpos, hfree, hheld⟩ := hworker
      refine ⟨live, h.runs, h.owner_le, h.releasing, ?_⟩
      have hne : s.lease.generation ≠ generation := by
        by_cases hlive : live = none
        · have := hfree hlive
          omega
        · have := hheld hlive
          omega
      dsimp only
      rw [BindingPollingLease.acquire, if_neg hne]
      cases hlive : live with
      | none =>
          rw [show (s.lease.generation == 0) = true from beq_iff_eq.2 (hfree hlive)]
          exact ⟨rfl, rfl, hgeneration, hpos⟩
      | some t =>
          -- a task is alive and takes the session over
          have hsome := hheld (by rw [hlive]; exact Option.some_ne_none t)
          rw [show (s.lease.generation == 0) = false from beq_eq_false_iff_ne.2 hsome.1]
          exact ⟨fun hnone => absurd hnone (Option.some_ne_none t), fun _ => ⟨hgeneration, hpos⟩⟩
  | creating generation =>
      rw [hs] at hworker
      obtain ⟨hlive, hlease, hgeneration, hpos⟩ := hworker
      subst hlive
      dsimp only
      cases taskCreated with
      | true =>
          refine ⟨some .reading, h.runs.append PollTask.noConfusion, ?_, ?_, ?_⟩
          · rintro t owner ⟨⟩ howner
            cases howner
          · intro owner hreading
            cases hreading
          · exact ⟨fun hnone => absurd hnone (Option.some_ne_none _),
              fun _ => ⟨hlease.trans hgeneration, fun hzero => hpos (hlease.symm.trans hzero)⟩⟩
      | false => exact ⟨none, h.runs, h.owner_le, h.releasing, rfl, hlease, hgeneration, hpos⟩
  | releasing generation =>
      rw [hs] at hworker
      obtain ⟨hlive, hlease, hgeneration, -⟩ := hworker
      refine ⟨live, h.runs, h.owner_le, h.releasing, ?_⟩
      dsimp only
      rw [BindingPollingLease.release, if_pos hlease]
      exact ⟨hlive, rfl, hgeneration⟩
  | aborting generation =>
      rw [hs] at hworker
      obtain ⟨hlive, hlease, hgeneration⟩ := hworker
      subst hlive hgeneration
      refine ⟨none, h.runs, fun _ _ hnone _ => absurd hnone.symm (Option.some_ne_none _),
        fun _ hnone _ => absurd hnone.symm (Option.some_ne_none _), rfl, hlease, ?_⟩
      dsimp only
      cases hactive : s.useCase.active with
      | true => exact (BindingUseCase.abortPending_active hactive).2.2.1
      | false =>
          rw [BindingUseCase.abortPending_other (Or.inr hactive)]
          exact hactive
  | enqueuing result =>
      rw [hs] at hworker
      obtain ⟨hlive, hlease, hactive⟩ := hworker
      exact ⟨live, h.runs, h.owner_le, h.releasing, fun _ => ⟨hlease, hactive⟩,
        fun hsome => absurd hlive hsome⟩

/-- A change of the use case that keeps its generation and begins no session. -/
theorem WorkerInv.congr {s' : PollingSystem} {worker : StartPolling} (h : WorkerInv s live worker)
    {t t' : PollTask} (hlive : live = some t) (hlease : s'.lease = s.lease)
    (hgeneration : s'.useCase.generation = s.useCase.generation) :
    WorkerInv s' (some t') worker := by
  subst hlive
  cases worker <;> unfold WorkerInv at h ⊢ <;> rw [hlease, hgeneration]
  · exact ⟨fun hnone => absurd hnone (Option.some_ne_none _), fun _ => h.2 (Option.some_ne_none _)⟩
  · exact ⟨h.1, h.2.1, fun hnone => absurd hnone (Option.some_ne_none _),
      fun _ => h.2.2.2 (Option.some_ne_none _)⟩
  all_goals exact absurd h.1 (Option.some_ne_none _)

theorem Ownership.bindingPollLoop (h : Ownership s live) (index : ℕ)
    (queried : PairingQueryResult) :
    ∃ live', Ownership (s.bindingPollLoop index queried) live' := by
  have hlease := h.lease_le
  unfold PollingSystem.bindingPollLoop
  cases ht : s.tasks[index]? with
  | none => exact ⟨live, h⟩
  | some t =>
      by_cases hstopped : t = .stopped
      · rw [hstopped]
        exact ⟨live, h⟩
      obtain ⟨hlive, hset, hstop⟩ := h.runs.getElem? ht hstopped
      cases t with
      | reading =>
          refine ⟨_, hset (.polling s.lease.generation) PollTask.noConfusion, ?_, ?_,
            h.worker.congr hlive rfl rfl⟩
          · rintro t owner ⟨⟩ ⟨⟩
            exact hlease
          · intro owner hpolling
            cases hpolling
      | polling owner =>
          have howner := h.owner_le _ owner hlive rfl
          have hgeneration : (s.useCase.poll queried).2.generation = s.useCase.generation := by
            cases hactive : s.useCase.active with
            | true => exact (BindingUseCase.poll_active hactive queried).2.1
            | false => rw [BindingUseCase.poll_idle hactive]
          dsimp only
          cases (s.useCase.poll queried).1.state.isOpen with
          | true =>
              refine ⟨_, hset .reading PollTask.noConfusion, ?_, ?_,
                h.worker.congr hlive rfl hgeneration⟩
              · rintro t owner' ⟨⟩ howner'
                cases howner'
              · intro owner' hreading
                cases hreading
          | false =>
              refine ⟨_, hset (.enqueuing owner (s.useCase.poll queried).1) PollTask.noConfusion,
                ?_, ?_, h.worker.congr hlive rfl hgeneration⟩
              · rintro t owner' ⟨⟩ ⟨⟩
                exact howner.trans hgeneration.ge
              · intro owner' henqueuing
                cases henqueuing
      | enqueuing owner result =>
          refine ⟨_, hset (.checking owner) PollTask.noConfusion, ?_, ?_,
            h.worker.congr hlive rfl rfl⟩
          · rintro t owner' ⟨⟩ ⟨⟩
            exact h.owner_le _ owner hlive rfl
          · intro owner' hchecking
            cases hchecking
      | checking owner =>
          dsimp only
          cases hactive : s.useCase.active with
          | true =>
              refine ⟨_, hset .reading PollTask.noConfusion, ?_, ?_,
                h.worker.congr hlive rfl rfl⟩
              · rintro t owner' ⟨⟩ howner'
                cases howner'
              · intro owner' hreading
                cases hreading
          | false =>
              refine ⟨_, hset (.releasing owner) PollTask.noConfusion, ?_, ?_,
                h.worker.congr hlive rfl rfl⟩
              · rintro t owner' ⟨⟩ ⟨⟩
                exact h.owner_le _ owner hlive rfl
              · intro owner' _ hsession
                rw [show s.useCase.active = true from hsession] at hactive
                cases hactive
      | releasing owner =>
          dsimp only
          by_cases howns : s.lease.generation = owner
          · rw [BindingPollingLease.release, if_pos howns]
            refine ⟨none, hstop, fun _ _ hnone _ => absurd hnone.symm (Option.some_ne_none _),
              fun _ hnone _ => absurd hnone.symm (Option.some_ne_none _), ?_⟩
            have hworker := h.worker
            have hreleasing := h.releasing owner hlive
            subst hlive
            dsimp only
            cases hs : s.worker <;> rw [hs] at hworker <;> unfold WorkerInv at hworker ⊢
            · -- the released generation is the current one, so no session has begun since
              refine ⟨fun _ => ⟨rfl, ?_⟩, fun hnone => absurd rfl hnone⟩
              have hcurrent := hworker.2 (Option.some_ne_none _)
              rw [← Bool.not_eq_true]
              intro hactive
              have := hreleasing hactive
              omega
            · exact ⟨hworker.1, hworker.2.1, fun _ => rfl, fun hnone => absurd rfl hnone⟩
            all_goals exact absurd hworker.1 (Option.some_ne_none _)
          · rw [BindingPollingLease.release, if_neg howns]
            refine ⟨_, hset .reading PollTask.noConfusion, ?_, ?_, h.worker.congr hlive rfl rfl⟩
            · rintro t owner' ⟨⟩ howner'
              cases howner'
            · intro owner' hreading
              cases hreading
      | stopped => exact absurd rfl hstopped

/-! ## The results of the sessions -/

/-- What the step makes a result of: a poll that ends a session, or finds none, and an abort. -/
def added (s : PollingSystem) : PollingStep → List BindingResult
  | .start _ _ => []
  | .worker _ =>
    match s.worker with
    | .aborting generation => [(s.useCase.abortPending generation).1]
    | _ => []
  | .task index queried =>
    match s.tasks[index]? with
    | some (.polling _) =>
      if (s.useCase.poll queried).1.state.isOpen then [] else [(s.useCase.poll queried).1]
    | _ => []

theorem flatMap_set {α β : Type*} (f : α → List β) {list : List α} {index : ℕ} {a b : α}
    (ha : list[index]? = some a) :
    ((list.set index b).flatMap f : Multiset β) + (f a : Multiset β) =
      (list.flatMap f : Multiset β) + (f b : Multiset β) := by
  induction list generalizing index with
  | nil => cases ha
  | cons head tail ih =>
      cases index with
      | zero =>
          cases ha
          simp only [List.set_cons_zero, List.flatMap_cons, ← Multiset.coe_add]
          abel
      | succ index =>
          have htail := ih (show tail[index]? = some a from ha)
          simp only [List.set_cons_succ, List.flatMap_cons, ← Multiset.coe_add]
          rw [add_assoc, htail, add_assoc]

/-- A step of a task whose place holds no result before and none afterwards. -/
theorem flatMap_set_nil {index : ℕ} {t t' : PollTask} {tasks : List PollTask}
    (ht : tasks[index]? = some t) (h : t.result = []) (h' : t'.result = []) :
    ((tasks.set index t').flatMap PollTask.result : Multiset BindingResult) =
      (tasks.flatMap PollTask.result : Multiset BindingResult) := by
  have hset := flatMap_set PollTask.result (b := t') ht
  rw [h, h'] at hset
  simpa using hset

/-- No step loses a result. -/
theorem results_step (s : PollingSystem) (op : PollingStep) :
    ((s.step op).results : Multiset BindingResult) =
      (s.results : Multiset BindingResult) + (s.added op : Multiset BindingResult) := by
  unfold results
  simp only [← Multiset.coe_add]
  cases op with
  | start expiresInMinutes created =>
      cases hs : s.worker with
      | idle =>
          simp only [step, startBinding, added, hs]
          split_ifs <;> simp [StartPolling.result]
      | _ => simp [step, startBinding, added, hs]
  | worker taskCreated =>
      cases hs : s.worker with
      | idle => simp [step, startBindingPolling, added, hs]
      | acquiring generation =>
          simp only [step, startBindingPolling, added, hs]
          split_ifs <;> simp [StartPolling.result]
      | creating generation =>
          simp only [step, startBindingPolling, added, hs]
          split_ifs <;> simp [StartPolling.result, PollTask.result]
      | releasing generation =>
          simp only [step, startBindingPolling, added, hs]
          split_ifs <;> simp [StartPolling.result]
      | aborting generation =>
          simp [step, startBindingPolling, added, hs, StartPolling.result]
      | enqueuing result =>
          simp only [step, startBindingPolling, added, hs, StartPolling.result,
            ← Multiset.coe_add, Multiset.coe_nil, add_zero]
          abel
  | task index queried =>
      cases ht : s.tasks[index]? with
      | none => simp [step, bindingPollLoop, added, ht]
      | some t =>
          cases t with
          | reading =>
              simp only [step, bindingPollLoop, added, ht, Multiset.coe_nil, add_zero]
              rw [flatMap_set_nil ht rfl rfl]
          | polling owner =>
              simp only [step, bindingPollLoop, added, ht]
              split_ifs with hopen
              · rw [flatMap_set_nil ht rfl rfl, Multiset.coe_nil, add_zero]
              · have hset := flatMap_set PollTask.result
                  (b := PollTask.enqueuing owner (s.useCase.poll queried).1) ht
                simp only [PollTask.result, Multiset.coe_nil, add_zero] at hset
                rw [hset]
                abel
          | enqueuing owner result =>
              have hset := flatMap_set PollTask.result (b := PollTask.checking owner) ht
              simp only [PollTask.result, Multiset.coe_nil, add_zero] at hset
              simp only [step, bindingPollLoop, added, ht, ← Multiset.coe_add, Multiset.coe_nil,
                add_zero]
              rw [← hset]
              abel
          | checking owner =>
              simp only [step, bindingPollLoop, added, ht, Multiset.coe_nil, add_zero]
              rw [flatMap_set_nil ht rfl (by split_ifs <;> rfl)]
          | releasing owner =>
              simp only [step, bindingPollLoop, added, ht, Multiset.coe_nil, add_zero]
              rw [flatMap_set_nil ht rfl (by split_ifs <;> rfl)]
          | stopped => simp [step, bindingPollLoop, added, ht]

theorem mem_results_step {op : PollingStep} {r : BindingResult} :
    r ∈ (s.step op).results ↔ r ∈ s.results ∨ r ∈ s.added op := by
  rw [← Multiset.mem_coe, results_step, Multiset.mem_add, Multiset.mem_coe, Multiset.mem_coe]

/-- The results tell which sessions have ended: none is later than the current generation, and the
current one has a result exactly if there is no session. -/
structure Accounted (s : PollingSystem) : Prop where
  settled : s.useCase.Settled
  below : ∀ r ∈ s.results, r.generation ≤ s.useCase.generation
  fresh : s.useCase.active = true → ∀ r ∈ s.results, r.generation ≠ s.useCase.generation
  ended : s.useCase.active = false → s.tasks ≠ [] ∨ s.worker ≠ .idle →
    ∃ r ∈ s.results, r.generation = s.useCase.generation

theorem tasks_ne_nil {index : ℕ} {t : PollTask} (ht : s.tasks[index]? = some t) : s.tasks ≠ [] := by
  intro hnil
  rw [hnil] at ht
  cases ht

/-- A new result belongs to the current generation; it is made with a session that it ends, or
without one. -/
theorem added_cases (h : Accounted s) (howned : Ownership s live) (op : PollingStep) :
    (s.added op = [] ∧ FindsSession s op) ∨
      ∃ r, s.added op = [r] ∧ r.generation = s.useCase.generation ∧
        (s.tasks ≠ [] ∨ s.worker ≠ .idle) ∧ (FindsSession s op ↔ s.useCase.active = true) := by
  cases op with
  | start expiresInMinutes created => exact Or.inl ⟨rfl, trivial⟩
  | worker taskCreated =>
      have hworker := howned.worker
      cases hs : s.worker with
      | aborting generation =>
          rw [hs] at hworker
          obtain ⟨-, -, hgeneration⟩ := hworker
          refine Or.inr ⟨(s.useCase.abortPending generation).1, by simp only [added, hs], ?_,
            Or.inr StartPolling.noConfusion, ?_⟩
          · cases hactive : s.useCase.active with
            | true =>
                rw [hgeneration]
                exact (BindingUseCase.abortPending_active hactive).1
            | false =>
                rw [BindingUseCase.abortPending_other (Or.inr hactive)]
                rfl
          · exact ⟨fun hfinds => hfinds generation hs, fun hactive _ _ => hactive⟩
      | _ =>
          refine Or.inl ⟨by simp only [added, hs], ?_⟩
          intro generation haborting
          rw [hs] at haborting
          cases haborting
  | task index queried =>
      cases ht : s.tasks[index]? with
      | none =>
          refine Or.inl ⟨by simp only [added, ht], ?_⟩
          intro owner hpolling
          rw [ht] at hpolling
          cases hpolling
      | some t =>
          cases t with
          | polling owner =>
              have hfinds : FindsSession s (.task index queried) ↔ s.useCase.active = true :=
                ⟨fun hfinds => hfinds owner ht, fun hactive _ _ => hactive⟩
              cases hactive : s.useCase.active with
              | true =>
                  have hpoll := BindingUseCase.poll_active hactive queried
                  cases hopen : (s.useCase.poll queried).1.state.isOpen with
                  | true =>
                      exact Or.inl ⟨by simp only [added, ht, hopen, if_true], hfinds.2 hactive⟩
                  | false =>
                      refine Or.inr ⟨_, by simp only [added, ht, hopen]; rfl, hpoll.1,
                        Or.inl (tasks_ne_nil ht), ?_⟩
                      rw [hfinds, hactive]
              | false =>
                  have hopen : (s.useCase.poll queried).1.state.isOpen = false := by
                    rw [BindingUseCase.poll_idle hactive]
                    exact h.settled hactive
                  refine Or.inr ⟨_, by simp only [added, ht, hopen]; rfl, ?_,
                    Or.inl (tasks_ne_nil ht), ?_⟩
                  · rw [BindingUseCase.poll_idle hactive]
                    rfl
                  · rw [hfinds, hactive]
          | _ =>
              refine Or.inl ⟨by simp only [added, ht], ?_⟩
              intro owner hpolling
              rw [ht] at hpolling
              cases hpolling

/-- The step has begun a session under a later generation. -/
def BeginsLater (s s' : PollingSystem) : Prop :=
  s'.useCase.active = true ∧ s.useCase.generation < s'.useCase.generation

/-- The step has kept the generation; the session goes on, or a new result reports its end. -/
structure KeepsGeneration (s : PollingSystem) (op : PollingStep) : Prop where
  generation : (s.step op).useCase.generation = s.useCase.generation
  settled : (s.step op).useCase.Settled
  active : (s.step op).useCase.active = true → s.useCase.active = true ∧ s.added op = []
  inactive : (s.step op).useCase.active = false → s.useCase.active = false ∨ s.added op ≠ []
  started : (s.step op).tasks ≠ [] ∨ (s.step op).worker ≠ .idle →
    s.tasks ≠ [] ∨ s.worker ≠ .idle

/-- A step that does not touch the use case and makes no result. -/
theorem KeepsGeneration.of_useCase_eq (h : Accounted s) {op : PollingStep}
    (huseCase : (s.step op).useCase = s.useCase) (hadded : s.added op = [])
    (hstarted : s.tasks ≠ [] ∨ s.worker ≠ .idle) : KeepsGeneration s op := by
  refine ⟨by rw [huseCase], by rw [huseCase]; exact h.settled, ?_, ?_, fun _ => hstarted⟩
  · rw [huseCase]
    exact fun hactive => ⟨hactive, hadded⟩
  · rw [huseCase]
    exact Or.inl

theorem useCase_start (h : Accounted s) (expiresInMinutes : ℤ) (created : PairingCreateResult)
    (hfits : s.useCase.generation + 1 < uint64Size) :
    BeginsLater s (s.step (.start expiresInMinutes created)) ∨
      KeepsGeneration s (.start expiresInMinutes created) := by
  by_cases hs : s.worker = .idle
  · rcases s.useCase.start_cases expiresInMinutes created with hbegins | hkeeps
    · refine Or.inl ⟨?_, ?_⟩
      · simp only [step, startBinding, hs]
        exact hbegins.active
      · simp only [step, startBinding, hs, hbegins.generation, generation_succ hfits]
        exact Nat.lt_succ_self _
    · refine Or.inr ⟨?_, ?_, ?_, ?_, ?_⟩ <;> simp only [step, startBinding, hs]
      · exact hkeeps.generation
      · exact hkeeps.settled h.settled
      · exact fun hactive => ⟨hkeeps.active.symm.trans hactive, rfl⟩
      · exact fun hinactive => Or.inl (hkeeps.active.symm.trans hinactive)
      · rw [if_neg hkeeps.state]
        exact id
  · refine Or.inr (KeepsGeneration.of_useCase_eq h ?_ rfl (Or.inr hs))
    cases hworker : s.worker with
    | idle => exact absurd hworker hs
    | _ => simp only [step, startBinding, hworker]

theorem useCase_worker (h : Accounted s) (howned : Ownership s live) (taskCreated : Bool) :
    KeepsGeneration s (.worker taskCreated) := by
  have hworker := howned.worker
  cases hs : s.worker with
  | idle =>
      refine ⟨?_, ?_, ?_, ?_, ?_⟩ <;> simp only [step, startBindingPolling, added, hs]
      · exact h.settled
      · exact fun hactive => ⟨hactive, trivial⟩
      · exact Or.inl
      · exact id
  | aborting generation =>
      rw [hs] at hworker
      obtain ⟨-, -, hgeneration⟩ := hworker
      cases hactive : s.useCase.active with
      | true =>
          have haborts := BindingUseCase.abortPending_active hactive
          rw [← hgeneration] at haborts
          refine ⟨?_, ?_, ?_, ?_, fun _ => Or.inr (by rw [hs]; exact StartPolling.noConfusion)⟩ <;>
            simp only [step, startBindingPolling, added, hs]
          · exact haborts.2.1.trans hgeneration
          · exact haborts.2.2.2
          · intro hstill
            rw [haborts.2.2.1] at hstill
            cases hstill
          · exact fun _ => Or.inr (List.cons_ne_nil _ _)
      | false =>
          have hother : s.useCase.abortPending generation = (s.useCase.stateResult, s.useCase) :=
            BindingUseCase.abortPending_other (Or.inr hactive)
          refine ⟨?_, ?_, ?_, ?_, fun _ => Or.inr (by rw [hs]; exact StartPolling.noConfusion)⟩ <;>
            simp only [step, startBindingPolling, added, hs, hother]
          · exact h.settled
          · intro hstill
            rw [hactive] at hstill
            cases hstill
          · exact fun _ => Or.inl hactive
  | creating generation =>
      refine KeepsGeneration.of_useCase_eq h ?_ (by simp only [added, hs])
        (Or.inr (by rw [hs]; exact StartPolling.noConfusion))
      simp only [step, startBindingPolling, hs]
      split_ifs <;> rfl
  | _ =>
      refine KeepsGeneration.of_useCase_eq h ?_ (by simp only [added, hs])
        (Or.inr (by rw [hs]; exact StartPolling.noConfusion))
      simp only [step, startBindingPolling, hs]

theorem useCase_task (h : Accounted s) (index : ℕ) (queried : PairingQueryResult) :
    KeepsGeneration s (.task index queried) := by
  cases ht : s.tasks[index]? with
  | none =>
      refine ⟨?_, ?_, ?_, ?_, ?_⟩ <;> simp only [step, bindingPollLoop, added, ht]
      · exact h.settled
      · exact fun hactive => ⟨hactive, trivial⟩
      · exact Or.inl
      · exact id
  | some t =>
      have hstarted : s.tasks ≠ [] ∨ s.worker ≠ .idle := Or.inl (tasks_ne_nil ht)
      cases t with
      | polling owner =>
          cases hactive : s.useCase.active with
          | true =>
              obtain ⟨-, hgeneration, hopen, hsettled⟩ :=
                BindingUseCase.poll_active hactive queried
              refine ⟨?_, ?_, ?_, ?_, fun _ => hstarted⟩ <;>
                simp only [step, bindingPollLoop, added, ht]
              · exact hgeneration
              · exact hsettled
              · intro hstill
                rw [if_pos (hopen.trans hstill)]
                exact ⟨hactive, rfl⟩
              · intro hended
                rw [if_neg (by rw [hopen, hended]; exact Bool.false_ne_true)]
                exact Or.inr (List.cons_ne_nil _ _)
          | false =>
              have hidle := BindingUseCase.poll_idle hactive queried
              refine ⟨?_, ?_, ?_, ?_, fun _ => hstarted⟩ <;>
                simp only [step, bindingPollLoop, added, ht, hidle]
              · exact h.settled
              · intro hstill
                rw [hactive] at hstill
                cases hstill
              · exact fun _ => Or.inl hactive
      | _ =>
          refine KeepsGeneration.of_useCase_eq h ?_ (by simp only [added, ht]) hstarted
          simp only [step, bindingPollLoop, ht]

/-- What a step does to the session. -/
theorem useCase_step (h : Accounted s) (howned : Ownership s live) {op : PollingStep}
    (hfits : CounterFits s op) : BeginsLater s (s.step op) ∨ KeepsGeneration s op := by
  cases op with
  | start expiresInMinutes created => exact useCase_start h expiresInMinutes created hfits
  | worker taskCreated => exact Or.inr (useCase_worker h howned taskCreated)
  | task index queried => exact Or.inr (useCase_task h index queried)

theorem Accounted.step (h : Accounted s) (howned : Ownership s live) {op : PollingStep}
    (hfits : CounterFits s op) : Accounted (s.step op) := by
  have hadded : ∀ r ∈ s.added op, r.generation = s.useCase.generation := by
    intro r hr
    rcases added_cases h howned op with ⟨hnil, -⟩ | ⟨r', hone, hgeneration, -⟩
    · rw [hnil] at hr
      cases hr
    · rw [hone, List.mem_singleton] at hr
      rw [hr, hgeneration]
  have hbelow : ∀ r ∈ (s.step op).results, r.generation ≤ s.useCase.generation := by
    intro r hr
    rcases mem_results_step.1 hr with hold | hnew
    · exact h.below r hold
    · exact (hadded r hnew).le
  rcases useCase_step h howned hfits with ⟨hactive, hlater⟩ | hkeeps
  · refine ⟨?_, fun r hr => (hbelow r hr).trans hlater.le, ?_, ?_⟩
    · intro hinactive
      rw [hactive] at hinactive
      cases hinactive
    · exact fun _ r hr => ((hbelow r hr).trans_lt hlater).ne
    · intro hinactive
      rw [hactive] at hinactive
      cases hinactive
  · refine ⟨hkeeps.settled, ?_, ?_, ?_⟩
    · rw [hkeeps.generation]
      exact hbelow
    · intro hactive r hr
      obtain ⟨hbefore, hnone⟩ := hkeeps.active hactive
      rw [hkeeps.generation]
      rcases mem_results_step.1 hr with hold | hnew
      · exact h.fresh hbefore r hold
      · rw [hnone] at hnew
        cases hnew
    · intro hinactive hstarted
      rw [hkeeps.generation]
      by_cases hnew : s.added op = []
      · have hbefore := (hkeeps.inactive hinactive).resolve_right (not_not.2 hnew)
        obtain ⟨r, hr, hgeneration⟩ := h.ended hbefore (hkeeps.started hstarted)
        exact ⟨r, mem_results_step.2 (Or.inl hr), hgeneration⟩
      · obtain ⟨r, hr⟩ := List.exists_mem_of_ne_nil _ hnew
        exact ⟨r, mem_results_step.2 (Or.inr hr), hadded r hr⟩

/-- A step keeps the results apart exactly if it finds a session. -/
theorem once_step (h : Accounted s) (howned : Ownership s live) (op : PollingStep)
    (honce : ∀ generation, s.results.countP (·.generation = generation) ≤ 1) :
    (∀ generation, (s.step op).results.countP (·.generation = generation) ≤ 1) ↔
      FindsSession s op := by
  have hcount : ∀ generation, (s.step op).results.countP (·.generation = generation) =
      s.results.countP (·.generation = generation) +
        (s.added op).countP (·.generation = generation) := by
    intro generation
    have hresults := congrArg (Multiset.countP fun r => r.generation = generation)
      (results_step s op)
    rwa [Multiset.countP_add, Multiset.coe_countP, Multiset.coe_countP, Multiset.coe_countP]
      at hresults
  rcases added_cases h howned op with ⟨hnil, hfinds⟩ | ⟨r, hone, hgeneration, hstarted, hfinds⟩
  · refine iff_of_true (fun generation => ?_) hfinds
    rw [hcount, hnil]
    exact honce generation
  · rw [hfinds]
    constructor
    · intro hnext
      by_contra hinactive
      rw [Bool.not_eq_true] at hinactive
      -- the session has a result already, and gets another
      obtain ⟨r', hr', hsame⟩ := h.ended hinactive hstarted
      have hbefore : 0 < s.results.countP (·.generation = s.useCase.generation) :=
        List.countP_pos_iff.2 ⟨r', hr', decide_eq_true hsame⟩
      have := hnext s.useCase.generation
      rw [hcount, hone, List.countP_singleton, if_pos (decide_eq_true hgeneration)] at this
      omega
    · intro hactive generation
      rw [hcount, hone, List.countP_singleton]
      split_ifs with hsame
      · have hzero : s.results.countP (·.generation = generation) = 0 := by
          rw [List.countP_eq_zero]
          intro r' hr' hequal
          apply h.fresh hactive r' hr'
          rw [of_decide_eq_true hequal, ← hgeneration, of_decide_eq_true hsame]
        omega
      · exact honce generation

/-! ## Whole runs -/

/-- Pollers and lease are in step in every owned state. -/
theorem Ownership.inStep (h : Ownership s live)
    (honce : ∀ generation, s.results.countP (·.generation = generation) ≤ 1) : InStep s := by
  have hlivePollers := h.runs.livePollers
  have hworker := h.worker
  refine ⟨?_, ?_, ?_, honce⟩
  · rw [hlivePollers]
    split_ifs <;> omega
  · intro hactive hidle
    rw [hidle] at hworker
    cases live with
    | none =>
        rw [(hworker.1 rfl).2] at hactive
        cases hactive
    | some t => exact ⟨hlivePollers, (hworker.2 (Option.some_ne_none t)).2⟩
  · intro hnone hidle
    rw [hidle] at hworker
    cases live with
    | none => exact (hworker.1 rfl).1
    | some t =>
        rw [hlivePollers] at hnone
        cases hnone

/-- In every run within the generations, pollers, lease and results stay in step exactly if no step
calls `Poll` or `AbortPending` without a session. -/
theorem allStates_inStep_iff (ready : Bool) (userId : Option String) (generation : ℕ)
    (ops : List PollingStep)
    (hfits : Run.AllSteps step CounterFits (initial ready userId generation) ops) :
    Run.AllStates step InStep (initial ready userId generation) ops ↔
      Run.AllSteps step FindsSession (initial ready userId generation) ops := by
  have hrun : ∀ (s : PollingSystem) (live : Option PollTask), Ownership s live → Accounted s →
      InStep s → Run.AllSteps step CounterFits s ops →
        (Run.AllStates step InStep s ops ↔ Run.AllSteps step FindsSession s ops) := by
    clear hfits
    induction ops with
    | nil =>
        intro s live _ _ hgood _
        refine iff_of_true (fun done hdone => ?_) trivial
        rw [List.prefix_nil.1 hdone]
        exact hgood
    | cons op ops ih =>
        intro s live howned haccounted hgood hfits
        have hnext : ∃ live', Ownership (s.step op) live' := by
          cases op with
          | start expiresInMinutes created =>
              exact ⟨live, howned.startBinding expiresInMinutes created hfits.1⟩
          | worker taskCreated => exact howned.startBindingPolling taskCreated
          | task index queried => exact howned.bindingPollLoop index queried
        obtain ⟨live', hnext⟩ := hnext
        have honce := once_step haccounted howned op hgood.once
        rw [Run.allStates_cons]
        constructor
        · rintro ⟨-, hall⟩
          have hstep : InStep (s.step op) := hall [] List.nil_prefix
          refine ⟨honce.1 hstep.once, (ih _ _ hnext ?_ hstep hfits.2).1 hall⟩
          exact haccounted.step howned hfits.1
        · rintro ⟨hfinds, hall⟩
          have hstep : InStep (s.step op) := hnext.inStep (honce.2 hfinds)
          refine ⟨hgood, (ih _ _ hnext ?_ hstep hfits.2).2 hall⟩
          exact haccounted.step howned hfits.1
  have howned : Ownership (initial ready userId generation) none :=
    ⟨fun t ht => absurd ht List.not_mem_nil, fun _ _ hnone _ => absurd hnone.symm (Option.some_ne_none _),
      fun _ hnone _ => absurd hnone.symm (Option.some_ne_none _), fun _ => ⟨rfl, rfl⟩,
      fun hnone => absurd rfl hnone⟩
  refine hrun _ none howned ⟨fun _ => rfl, ?_, ?_, ?_⟩ (howned.inStep fun _ => Nat.zero_le _) hfits
  · exact fun r hr => absurd hr List.not_mem_nil
  · exact fun _ r hr => absurd hr List.not_mem_nil
  · rintro - (htasks | hworker)
    · exact absurd rfl htasks
    · exact absurd rfl hworker

/-- A session of ten minutes, and an answer that ends it. -/
def createdAtMidnight : PairingCreateResult :=
  { status := .success
    value := some {
      session := {
        id := "session"
        expiresAt := ascii "2026-08-03T00:10:00Z"
        createdAt := ascii "2026-08-03T00:00:00Z" }
      displayCode := ascii "123456" }
    wallNow := 1785715200000 }

/-- One session from `Start` to the exit of its task. -/
def loneSession : List PollingStep :=
  [.start 10 createdAtMidnight, .worker true, .worker true] ++
    List.replicate 5 (.task 0 { status := .rejected, now := 3000 })

/-- Its pollers, lease and results are in step. -/
theorem loneSession_inStep :
    Run.AllStates step InStep (initial true (some "user") 0) loneSession :=
  (allStates_inStep_iff true (some "user") 0 loneSession (by decide +kernel)).2
    (by decide +kernel)

/-- A second session begins while the task of the first one is about to check; the task reads the
lease before the worker moves it on. -/
def adoptedSession : List PollingStep :=
  [PollingStep.start 10 createdAtMidnight, .worker true, .worker true] ++
    List.replicate 3 (PollingStep.task 0 { status := .rejected, now := 3000 }) ++
    [PollingStep.start 10 createdAtMidnight] ++
    List.replicate 2 (PollingStep.task 0 { status := .rejected, now := 3000 }) ++ [PollingStep.worker true] ++
    List.replicate 7 (PollingStep.task 0 { status := .rejected, now := 3000 })

/-- The task ends the second session under the generation of the first. It cannot release the lease,
polls once more and reports the second session twice. -/
theorem adoptedSession_reports_twice :
    ¬ ∀ (ops : List PollingStep) (generation : ℕ),
      (Run.run step (initial true (some "user") 0) ops).enqueued.countP
        (·.generation = generation) ≤ 1 := by
  intro h
  exact absurd (h adoptedSession 2) (by decide +kernel)

end PollingSystem

end VoiceLife.Im
