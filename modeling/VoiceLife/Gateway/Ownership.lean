import VoiceLife.Gateway.Soundness

/-! # Ownership of a dispatch

A claim token that a delivery has lost never comes back, and without it a dispatch writes nothing. With
it, a dispatch stores one attempt under the next number, sends it once and completes it. `PhaseChange`
says what a step does to one dispatch and to the attempts; the invariants follow from it.
-/

namespace VoiceLife.Gateway

variable {ports : Ports} {ids : IdGenerator} {settling : OutboxEventId → Prop}
  {store store' : ImStore}

/-! ## Claim tokens -/

/-- The token is the claim token of the stored delivery. -/
def HasClaim (store : ImStore) (deliveryId : DeliveryId) (claimToken : JsString) : Prop :=
  ∃ delivery, store.deliveries.get? deliveryId = some delivery ∧
    delivery.claimToken = some claimToken

theorem Holds.hasClaim {deliveryId : DeliveryId} {claimToken : JsString}
    (h : Holds store deliveryId claimToken) : HasClaim store deliveryId claimToken := by
  obtain ⟨delivery, hget, -, htoken⟩ := h
  exact ⟨delivery, hget, htoken⟩

/-- A token in use that is not the claim of a delivery does not become it. -/
theorem Effect.hasClaim (heffect : Effect ids settling store store') {deliveryId : DeliveryId}
    {claimToken : JsString} (hknown : Known ids store claimToken)
    (h : HasClaim store' deliveryId claimToken) : HasClaim store deliveryId claimToken := by
  obtain ⟨delivery, hget, htoken⟩ := h
  cases heffect with
  | marks hmarks =>
      rw [hmarks.deliveries] at hget
      exact ⟨delivery, hget, htoken⟩
  | creates hcreates =>
      rw [hcreates.deliveries, KeyTable.get?_set] at hget
      split_ifs at hget
      · cases hget
        rw [hcreates.claimToken] at htoken
        cases htoken
      · exact ⟨delivery, hget, htoken⟩
  | @writes before after appended hwrites =>
      rw [hwrites.deliveries, KeyTable.get?_set] at hget
      split_ifs at hget with hkey
      · cases hget
        have hid : before.id = deliveryId := hwrites.same.id_eq.symm.trans hkey
        rcases hwrites.claimToken with hnone | hsame | ⟨fresh, hfresh, hnew⟩
        · rw [hnone] at htoken
          cases htoken
        · rw [hsame] at htoken
          exact ⟨before, hid ▸ hwrites.stored, htoken⟩
        · rw [hnew] at htoken
          cases htoken
          exact absurd hknown hfresh.not_known
      · exact ⟨delivery, hget, htoken⟩

theorem Effects.hasClaim (heffects : Effects ids settling store store') {deliveryId : DeliveryId}
    {claimToken : JsString} (hknown : Known ids store claimToken)
    (h : HasClaim store' deliveryId claimToken) : HasClaim store deliveryId claimToken := by
  induction heffects with
  | refl => exact h
  | tail hbefore heffect ih =>
      exact ih (heffect.hasClaim (hknown.mono (Effects.idsUsed_le hbefore)) h)

/-- Without its claim a dispatch writes nothing. -/
theorem advanceDispatch_lost {owner : Option WorkerTask} {answers : Answers} {phase : DispatchPhase}
    (htarget : Targets store phase.target)
    (hlost : ¬ HasClaim store phase.target.id phase.claimToken) :
    (advanceDispatch ports owner answers store phase).2 = store := by
  rcases advanceDispatch_cases (rfl : advanceDispatch ports owner answers store phase = _) htarget with
    ⟨result, -, hends⟩ | ⟨attempt, delivery, -, -, hheld, -⟩ | ⟨attempt, -, -, hstore⟩
  · rcases hends with ⟨-, hstore, -⟩ | ⟨hheld, -⟩
    · exact hstore
    · exact absurd hheld.hasClaim hlost
  · exact absurd hheld.hasClaim hlost
  · exact hstore

/-! ## Attempts -/

/-- The numbers of the attempts of a delivery, in the order of their rows, are 1 to n. -/
def AttemptsNumbered (store : ImStore) : Prop :=
  ∀ deliveryId, (store.attemptsOf deliveryId).map DeliveryAttempt.attemptNo =
    List.range' 1 (store.attemptsOf deliveryId).length

theorem AttemptsNumbered.attemptNo_le (h : AttemptsNumbered store) {attempt : DeliveryAttempt}
    (hmem : attempt ∈ store.attempts.rows) :
    attempt.attemptNo < store.nextAttemptNo attempt.deliveryId := by
  have hrow : attempt ∈ store.attemptsOf attempt.deliveryId :=
    List.mem_filter.2 ⟨hmem, decide_eq_true rfl⟩
  have hnumber := List.mem_map_of_mem (f := DeliveryAttempt.attemptNo) hrow
  rw [h attempt.deliveryId, List.mem_range'_1] at hnumber
  rw [ImStore.nextAttemptNo, Nat.add_comm]
  exact hnumber.2

/-- A new attempt has a number that is not in use. -/
theorem AddsAttempt.absent {deliveryId : DeliveryId} {attempt : DeliveryAttempt}
    (h : AddsAttempt ids store store' deliveryId attempt) (hnumbered : AttemptsNumbered store) :
    store.attempts.get? (key attempt) = none := by
  rw [KeyTable.get?_eq_none]
  intro found hfound hkey
  obtain ⟨hdelivery, hno⟩ := attemptKey_inj hkey
  have hlt := hnumbered.attemptNo_le hfound
  rw [hdelivery, hno, h.ofDelivery, h.numbered] at hlt
  exact lt_irrefl _ hlt

theorem AttemptsNumbered.of_eq (h : AttemptsNumbered store)
    (hattempts : store'.attempts = store.attempts) : AttemptsNumbered store' := by
  intro deliveryId
  rw [ImStore.attemptsOf, hattempts]
  exact h deliveryId

theorem AttemptsNumbered.adds {deliveryId : DeliveryId} {attempt : DeliveryAttempt}
    (h : AttemptsNumbered store) (hadds : AddsAttempt ids store store' deliveryId attempt) :
    AttemptsNumbered store' := by
  intro other
  have hrows : store'.attempts.rows = store.attempts.rows ++ [attempt] := by
    rw [hadds.attempts, KeyTable.rows_set_of_fresh (hadds.absent h)]
  by_cases hother : attempt.deliveryId = other
  · have hattempts : store'.attemptsOf other = store.attemptsOf other ++ [attempt] := by
      rw [ImStore.attemptsOf, hrows, List.filter_append,
        List.filter_cons_of_pos (by simpa using hother), List.filter_nil, ImStore.attemptsOf]
    have hno : attempt.attemptNo = 1 + (store.attemptsOf other).length := by
      rw [hadds.numbered, ← hadds.ofDelivery, hother, ImStore.nextAttemptNo, Nat.add_comm]
    rw [hattempts, List.map_append, h other, List.length_append, List.length_singleton,
      List.range'_1_concat, List.map_singleton, hno]
  · have hattempts : store'.attemptsOf other = store.attemptsOf other := by
      rw [ImStore.attemptsOf, hrows, List.filter_append,
        List.filter_cons_of_neg (by simpa using hother), List.filter_nil, List.append_nil,
        ImStore.attemptsOf]
    rw [hattempts]
    exact h other

/-- A row that is written again keeps its number. -/
theorem AttemptsNumbered.completes {attempt attempt' : DeliveryAttempt} (h : AttemptsNumbered store)
    (hmem : attempt ∈ store.attempts.rows) (hdelivery : attempt'.deliveryId = attempt.deliveryId)
    (hno : attempt'.attemptNo = attempt.attemptNo)
    (hattempts : store'.attempts = store.attempts.set attempt') : AttemptsNumbered store' := by
  have hkey : key attempt = key attempt' := congrArg₂ attemptKey hdelivery.symm hno.symm
  intro deliveryId
  have hrows : store'.attemptsOf deliveryId = (store.attemptsOf deliveryId).map
      fun found => if key found = key attempt' then attempt' else found := by
    rw [ImStore.attemptsOf, hattempts, KeyTable.rows_set_of_mem hmem hkey, List.filter_map,
      ImStore.attemptsOf]
    refine congrArg (List.map _) (List.filter_congr fun found hfound => ?_)
    rw [Function.comp_apply]
    split_ifs with hfoundKey
    · rw [(attemptKey_inj hfoundKey).1]
    · rfl
  rw [hrows, List.length_map, ← h deliveryId, List.map_map]
  refine List.map_congr_left fun found hfound => ?_
  rw [Function.comp_apply]
  split_ifs with hfoundKey
  · exact (attemptKey_inj hfoundKey).2.symm
  · rfl

/-! ## The dispatches of the calls -/

/-- The dispatch of a call, between two of its transactions. -/
def phaseAt (calls : List Call) (index : ℕ) : Option DispatchPhase :=
  calls[index]?.bind fun call => call.dispatch.map Prod.snd

theorem phaseAt_eq_some {calls : List Call} {index : ℕ} {phase : DispatchPhase} :
    phaseAt calls index = some phase ↔ ∃ owner, calls[index]? = some (.dispatching owner phase) := by
  unfold phaseAt
  cases calls[index]? with
  | none => simp
  | some call => cases call <;> simp [Call.dispatch]

theorem phaseAt_append_of_ne {calls : List Call} {call : Call} {index : ℕ}
    (h : index ≠ calls.length) : phaseAt (calls ++ [call]) index = phaseAt calls index := by
  unfold phaseAt
  rcases Nat.lt_or_gt_of_ne h with hlt | hgt
  · rw [List.getElem?_append_left hlt]
  · rw [List.getElem?_eq_none (by simpa using hgt), List.getElem?_eq_none (Nat.le_of_lt hgt)]

theorem phaseAt_length (calls : List Call) : phaseAt calls calls.length = none := by
  rw [phaseAt, List.getElem?_eq_none le_rfl]
  rfl

theorem phaseAt_append_length (calls : List Call) (call : Call) :
    phaseAt (calls ++ [call]) calls.length = call.dispatch.map Prod.snd := by
  rw [phaseAt, List.getElem?_concat_length]
  rfl

/-- What happens to one dispatch, and with it to the attempts and the channel. -/
inductive PhaseChange (ids : IdGenerator) (store store' : ImStore) :
    Option DispatchPhase → Option DispatchPhase → List DeliveryAttempt → Prop where
  | idle (phase : Option DispatchPhase) (hattempts : store'.attempts = store.attempts) :
      PhaseChange ids store store' phase none []
  | fails (phase : Option DispatchPhase) {deliveryId : DeliveryId} {attempt : DeliveryAttempt}
      (hadds : AddsAttempt ids store store' deliveryId attempt) :
      PhaseChange ids store store' phase none []
  | claims {target : Delivery} {claimToken : JsString} (hfresh : ¬ Known ids store claimToken)
      (hattempts : store'.attempts = store.attempts) :
      PhaseChange ids store store' none (some (.prepared target claimToken)) []
  | gates {target : Delivery} {claimToken : JsString} {attempt : DeliveryAttempt}
      (hadds : AddsAttempt ids store store' target.id attempt)
      (hcompleted : attempt.completedAt = none) :
      PhaseChange ids store store' (some (.prepared target claimToken))
        (some (.gated target claimToken attempt)) []
  | sends {target : Delivery} {claimToken : JsString} {attempt : DeliveryAttempt}
      {acceptance : ImSendAcceptance} (hattempts : store'.attempts = store.attempts) :
      PhaseChange ids store store' (some (.gated target claimToken attempt))
        (some (.sent target claimToken attempt acceptance)) [attempt]
  | completes {target : Delivery} {claimToken : JsString} {attempt : DeliveryAttempt}
      {acceptance : ImSendAcceptance} (completionTime : IsoDateTime)
      (hattempts : store'.attempts =
        store.attempts.set (completedAttempt attempt acceptance completionTime)) :
      PhaseChange ids store store' (some (.sent target claimToken attempt acceptance)) none []

theorem startDispatch_phaseChange {owner : Option WorkerTask} {claimTime now : IsoDateTime}
    {deliveryId : DeliveryId} {next : Call}
    (h : startDispatch ports owner claimTime now deliveryId store = (next, store')) :
    PhaseChange ports.ids store store' none (next.dispatch.map Prod.snd) [] := by
  rcases startDispatch_cases h with ⟨error, rfl, rfl, -⟩ |
    ⟨delivery, result, attempt, rfl, -, -, -, -, hadds⟩ |
    ⟨delivery, target, rfl, -, -, -, -, hused, hattempts⟩
  · rw [(afterDispatchError_events owner error).2]
    exact .idle none rfl
  · rw [(afterDispatch_events owner result).2]
    exact .fails none hadds
  · refine .claims ?_ hattempts
    have hgenerated : Generated ports.ids store store' (ports.ids.nth store.idsUsed) :=
      ⟨store.idsUsed, le_rfl, hused ▸ Nat.lt_succ_self _, rfl⟩
    exact hgenerated.not_known

theorem advanceDispatch_phaseChange {owner : Option WorkerTask} {answers : Answers}
    {phase : DispatchPhase} (htarget : Targets store phase.target) :
    PhaseChange ports.ids store (advanceDispatch ports owner answers store phase).2 (some phase)
      ((advanceDispatch ports owner answers store phase).1.dispatch.map Prod.snd)
      (transmission (.dispatching owner phase)) := by
  cases phase with
  | prepared target claimToken =>
      dsimp only [advanceDispatch]
      split
      · obtain ⟨hends, hadds⟩ := recordPreSendFailure_ends
          (rfl : recordPreSendFailure ports.ids ports.addMinutes answers.now target claimToken
            store = _) htarget
        rw [(afterDispatch_events owner _).2]
        rcases hends with ⟨-, hstore, -⟩ | ⟨hheld, -⟩
        · exact .idle _ (congrArg ImStore.attempts hstore)
        · obtain ⟨attempt, hadds, -⟩ := hadds hheld
          exact .fails _ hadds
      · split
        · rename_i result _ hgate
          rw [(afterDispatch_events owner result).2]
          exact .idle _ (congrArg ImStore.attempts (gateTransaction_lost hgate htarget).2.1)
        · rename_i attempt _ hgate
          obtain ⟨-, -, hadds, hcompleted⟩ := gateTransaction_owned hgate htarget
          exact .gates hadds hcompleted
  | gated target claimToken attempt => exact .sends rfl
  | sent target claimToken attempt acceptance =>
      dsimp only [advanceDispatch]
      obtain ⟨hends, hattempts⟩ := completeTransaction_ends
        (rfl : completeTransaction ports.ids ports.addMinutes answers.now target claimToken attempt
          acceptance store = _) htarget
      rw [(afterDispatch_events owner _).2]
      rcases hends with ⟨-, hstore, -⟩ | ⟨hheld, -⟩
      · exact .idle _ (congrArg ImStore.attempts hstore)
      · exact .completes answers.now (hattempts hheld)

/-- What a step does to the dispatches: at most one of them changes, and only its attempt is sent. -/
structure DispatchStep (ports : Ports) (state state' : GatewayState) (index : ℕ)
    (transmitted : List DeliveryAttempt) : Prop where
  change : PhaseChange ports.ids state.store state'.store (phaseAt state.calls index)
    (phaseAt state'.calls index) transmitted
  others : ∀ other, other ≠ index → phaseAt state'.calls other = phaseAt state.calls other
  sent : state'.sent = state.sent ++ transmitted.map fun attempt => (index, attempt)

/-- The call that a step works on is a new one, or one that advances or crashes. -/
def WorksOn (state : GatewayState) (event : GatewayEvent) (index : ℕ) : Prop :=
  index = state.calls.length ∨ event = .crash index ∨ ∃ answers, event = .advance index answers

variable {state : GatewayState}

/-- A step that leaves the calls and the attempts alone. -/
theorem DispatchStep.of_store {store' : ImStore} (h : store'.attempts = state.store.attempts) :
    DispatchStep ports state { state with store := store' } state.calls.length [] where
  change := by
    rw [phaseAt_length]
    exact .idle none h
  others _ _ := rfl
  sent := (List.append_nil _).symm

/-- A step that adds a call. -/
theorem DispatchStep.of_call {store' : ImStore} {call : Call}
    (h : PhaseChange ports.ids state.store store' none (call.dispatch.map Prod.snd) []) :
    DispatchStep ports state { state with store := store', calls := state.calls ++ [call] }
      state.calls.length [] where
  change := by
    rw [phaseAt_length, phaseAt_append_length]
    exact h
  others _ hne := phaseAt_append_of_ne hne
  sent := (List.append_nil _).symm

/-- A step that adds a call without a dispatch. -/
theorem DispatchStep.of_idle_call {store' : ImStore} {call : Call} (hnone : call.dispatch = none)
    (h : store'.attempts = state.store.attempts) :
    DispatchStep ports state { state with store := store', calls := state.calls ++ [call] }
      state.calls.length [] := by
  refine DispatchStep.of_call ?_
  rw [hnone]
  exact .idle none h

/-- A step that changes a call. -/
theorem DispatchStep.of_set {state' : GatewayState} {index : ℕ} {call next : Call}
    {transmitted : List DeliveryAttempt} (hget : state.calls[index]? = some call)
    (hcalls : state'.calls = state.calls.set index next)
    (hsent : state'.sent = state.sent ++ transmitted.map fun attempt => (index, attempt))
    (h : PhaseChange ports.ids state.store state'.store (call.dispatch.map Prod.snd)
      (next.dispatch.map Prod.snd) transmitted) :
    DispatchStep ports state state' index transmitted where
  change := by
    obtain ⟨hlt, -⟩ := List.getElem?_eq_some_iff.1 hget
    rw [hcalls, phaseAt, hget, phaseAt, List.getElem?_set_self hlt]
    exact h
  others other hne := by
    rw [hcalls, phaseAt, List.getElem?_set_ne hne.symm, phaseAt]
  sent := hsent

theorem DispatchStep.triggered
    {result : Except ImGatewayError ((ReminderActionCommand × Bool) × ImStore)}
    (h : ∀ answer store', result = .ok (answer, store') → KeepsDeliveries state.store store') :
    DispatchStep ports state (state.triggered result) state.calls.length [] := by
  unfold GatewayState.triggered
  split
  · exact DispatchStep.of_store rfl
  · have hattempts := (h _ _ rfl).attempts
    split
    · exact DispatchStep.of_idle_call rfl hattempts
    · exact DispatchStep.of_store hattempts

theorem DispatchStep.committed {α : Type} {result : Except ImGatewayError (α × ImStore)}
    (h : ∀ answer store', result = .ok (answer, store') →
      store'.attempts = state.store.attempts) :
    DispatchStep ports state (state.committed result) state.calls.length [] := by
  unfold GatewayState.committed
  split
  · exact DispatchStep.of_store rfl
  · exact DispatchStep.of_store (h _ _ rfl)

theorem createDeliveries_attempts {capabilities : CapabilityResolver} {now : IsoDateTime}
    {input : SubmissionInput} {submission : NotificationSubmission}
    (h : createDeliveries ids capabilities now input store = .ok (submission, store')) :
    store'.attempts = store.attempts := by
  have hloop : ∀ {bindings : List ImBinding} {before after : ImStore}
      {listed : List SubmittedDelivery},
      createDeliveryLoop ids capabilities now input before bindings = .ok (listed, after) →
        after.attempts = before.attempts := by
    intro bindings
    induction bindings with
    | nil =>
        intro before after listed h
        cases h
        rfl
    | cons binding bindings ih =>
        intro before after listed h
        rw [createDeliveryLoop] at h
        split at h
        · cases h
        · rename_i result middle hcreate
          split at h <;> cases h
          rename_i hrest
          rw [ih hrest]
          rcases createDelivery_cases hcreate with ⟨rfl, -⟩ | ⟨delivery, event, hcreates, -⟩
          · rfl
          · exact hcreates.attempts
  rcases createDeliveries_cases h with ⟨record, -, -, -, rfl⟩ | ⟨-, listed, middle, hcreate, -, rfl⟩
  · rfl
  · have hattempts := hloop hcreate
    exact hattempts

theorem advanceCall_phaseChange {answers : Answers} {call : Call}
    (hdistinct : DistinctEvents store.outbox) (hcall : CallSound ports.ids store call) :
    PhaseChange ports.ids store (advanceCall ports answers store call).2
      (call.dispatch.map Prod.snd)
      ((advanceCall ports answers store call).1.dispatch.map Prod.snd) (transmission call) := by
  cases call with
  | dispatching owner phase =>
      exact advanceDispatch_phaseChange (hcall.dispatch (owner, phase) rfl).target
  | reading task =>
      have hnone : (processEvent task
          (store.deliveries.get? task.event.aggregateId)).dispatch = none := by
        unfold processEvent
        split
        · rfl
        · split
          · rfl
          · split <;> rfl
      dsimp only [advanceCall]
      rw [hnone]
      exact .idle _ rfl
  | claiming task =>
      exact startDispatch_phaseChange (rfl : startDispatch ports (some task) answers.claimTime
        answers.now task.event.aggregateId store = _)
  | deadLettering task insideTry =>
      dsimp only [advanceCall, deadLetterCall]
      split
      · rename_i hmark
        obtain ⟨delivery, -, -, -, hattempts⟩ := markDeadLetter_writes ports.ids hmark
        exact .idle _ hattempts
      · split
        · rw [(afterDispatchError_events (some task) _).2]
          exact .idle _ rfl
        · exact .idle _ rfl
  | publishing task =>
      have hmarks : Marks (fun eventId => task.event.id = eventId) store
          (store.markPublished task.event.id answers.now) :=
        markPublished_marks answers.now hdistinct rfl
      dsimp only [advanceCall]
      rw [(nextTask_events task.rest).2]
      exact .idle _ hmarks.attempts
  | failing task =>
      have hmarks : Marks (fun eventId => task.event.id = eventId) store
          (store.markFailed task.event.id) := markFailed_marks hdistinct rfl
      dsimp only [advanceCall]
      rw [(nextTask_events task.rest).2]
      exact .idle _ hmarks.attempts
  | publishingCommands commands =>
      cases commands with
      | nil => exact .idle _ rfl
      | cons command commands =>
          exact .idle _ (dispatchTransaction_keepsDeliveries answers.now command store).attempts
  | finished => exact .idle _ rfl

theorem step_dispatchStep (hsound : Sound ports state) (event : GatewayEvent) :
    ∃ index transmitted, WorksOn state event index ∧
      DispatchStep ports state (step ports state event) index transmitted := by
  have hstore : DispatchStep ports state (step ports state event) state.calls.length [] →
      ∃ index transmitted, WorksOn state event index ∧
        DispatchStep ports state (step ports state event) index transmitted :=
    fun h => ⟨state.calls.length, [], Or.inl rfl, h⟩
  cases event with
  | directory channelAccounts identities bindings => exact hstore (DispatchStep.of_store rfl)
  | submit capabilities now input =>
      exact hstore (DispatchStep.committed fun _ _ => createDeliveries_attempts)
  | retryDeadLetter now deliveryId =>
      refine hstore (DispatchStep.committed fun _ _ h => ?_)
      obtain ⟨delivery, event, -, hattempts⟩ := retryDeadLetter_writes h
      exact hattempts
  | markDeadLetter now deliveryId =>
      refine hstore (DispatchStep.committed fun _ _ h => ?_)
      obtain ⟨delivery, -, -, -, hattempts⟩ := markDeadLetter_writes ports.ids h
      exact hattempts
  | recordReceipt now receipt =>
      refine hstore ?_
      dsimp only [step]
      split
      · exact DispatchStep.of_store rfl
      · rename_i hreceipt
        rcases recordReceipt_cases hreceipt with hidle | ⟨delivery, delivery', appended, -, hattempts⟩
        · exact DispatchStep.of_store hidle.attempts
        · exact DispatchStep.of_store hattempts
  | dispatch claimTime now deliveryId =>
      exact hstore (DispatchStep.of_call (startDispatch_phaseChange
        (rfl : startDispatch ports none claimTime now deliveryId state.store = _)))
  | runOnce now leaseUntil limit =>
      have hmarks : Marks state.settles state.store
          (state.store.claimPending now leaseUntil limit).2 :=
        claimPending_marks now leaseUntil limit hsound.store.distinct
      exact hstore (DispatchStep.of_idle_call (nextTask_events _).2 hmarks.attempts)
  | execute now token action params actualIdentityId =>
      refine hstore (DispatchStep.triggered fun answer store' h => ?_)
      unfold executeAction at h
      split at h
      · cases h
      · split at h
        · cases h
        · exact triggerPrepared_keepsDeliveries h
  | triggerPrepared now command =>
      exact hstore (DispatchStep.triggered fun answer store' => triggerPrepared_keepsDeliveries)
  | recordResult now commandId deviceId result =>
      refine hstore ?_
      dsimp only [step]
      split
      · exact DispatchStep.of_store rfl
      · rename_i hresult
        have hattempts := (recordResult_cases hresult).1.keepsDeliveries.attempts
        split
        · exact DispatchStep.of_idle_call rfl hattempts
        · exact DispatchStep.of_store hattempts
  | recordDeviceActionStatus now report =>
      exact hstore (DispatchStep.committed fun _ _ h =>
        (recordDeviceActionStatus_keepsDeliveries h).attempts)
  | expireDue now =>
      exact hstore (DispatchStep.of_store
        (expireDue_changesOpen now state.store).keepsDeliveries.attempts)
  | recoverStaleProcessing now staleBefore =>
      exact hstore (DispatchStep.of_idle_call rfl
        (recoverStaleProcessing_changesOpen now staleBefore state.store).keepsDeliveries.attempts)
  | markProcessing now actionId deviceId reminderTriggerId =>
      refine hstore ?_
      dsimp only [step]
      split
      · exact DispatchStep.of_store rfl
      · rename_i hmark
        exact DispatchStep.of_store (markProcessing_changesOpen hmark).keepsDeliveries.attempts
  | replayPending now deviceId reminderTriggerId =>
      have h : DispatchStep ports state _ state.calls.length [] := DispatchStep.of_store
        (replayPending_changesOpen now deviceId reminderTriggerId state.store).keepsDeliveries.attempts
      exact hstore ⟨h.change, h.others, h.sent⟩
  | advance index answers =>
      cases hget : state.calls[index]? with
      | none =>
          have hsame : step ports state (.advance index answers) = state := by
            simp only [step, hget]
          rw [hsame] at hstore ⊢
          exact hstore (DispatchStep.of_store rfl)
      | some call =>
          have hsame : step ports state (.advance index answers) =
              { store := (advanceCall ports answers state.store call).2
                calls := state.calls.set index (advanceCall ports answers state.store call).1
                published := state.published ++ publication call
                sent := state.sent ++ (transmission call).map fun attempt => (index, attempt) } := by
            simp only [step, hget]
          refine ⟨index, transmission call, Or.inr (Or.inr ⟨answers, rfl⟩), ?_⟩
          rw [hsame]
          exact DispatchStep.of_set hget rfl rfl (advanceCall_phaseChange hsound.store.distinct
            (hsound.calls call (List.mem_of_getElem? hget)))
  | crash index =>
      cases hget : state.calls[index]? with
      | none =>
          have hsame : step ports state (.crash index) = state := by
            have hle := List.getElem?_eq_none_iff.1 hget
            simp only [step, List.set_eq_of_length_le hle]
          rw [hsame] at hstore ⊢
          exact hstore (DispatchStep.of_store rfl)
      | some call =>
          exact ⟨index, [], Or.inr (Or.inl rfl),
            DispatchStep.of_set hget rfl (List.append_nil _).symm (.idle _ rfl)⟩

/-! ## Invariants of the dispatches -/

/-- The keys of the attempts that were sent. -/
def sentKeys (state : GatewayState) : List JsString :=
  state.sent.map fun entry => key entry.2

/-- Dispatches have different tokens, and the attempt of a dispatch is stored, not completed and its own;
what was sent is stored and was sent once. -/
structure Owned (state : GatewayState) : Prop where
  numbered : AttemptsNumbered state.store
  tokens : ∀ index index' phase phase', phaseAt state.calls index = some phase →
    phaseAt state.calls index' = some phase' → phase.claimToken = phase'.claimToken →
      index = index'
  stored : ∀ index phase attempt, phaseAt state.calls index = some phase →
    attempt ∈ phase.attempt → attempt ∈ state.store.attempts.rows ∧ attempt.completedAt = none
  attempts : ∀ index index' phase phase' attempt, phaseAt state.calls index = some phase →
    phaseAt state.calls index' = some phase' → attempt ∈ phase.attempt → attempt ∈ phase'.attempt →
      index = index'
  sentStored : ∀ sentKey ∈ sentKeys state, (state.store.attempts.get? sentKey).isSome
  sentOnce : (sentKeys state).Nodup
  unsent : ∀ index target claimToken attempt,
    phaseAt state.calls index = some (.gated target claimToken attempt) →
      key attempt ∉ sentKeys state

theorem Owned.init : Owned {} where
  numbered _ := rfl
  tokens _ _ _ _ h := by cases h
  stored _ _ _ h := by cases h
  attempts _ _ _ _ _ h := by cases h
  sentStored _ h := absurd h List.not_mem_nil
  sentOnce := List.nodup_nil
  unsent _ _ _ _ h := by cases h

/-! ### What one change does -/

variable {before after : Option DispatchPhase} {transmitted : List DeliveryAttempt}

/-- A row stays, unless it is the attempt of the dispatch that is completed. -/
theorem PhaseChange.row (h : PhaseChange ids store store' before after transmitted)
    (hnumbered : AttemptsNumbered store)
    (hstored : ∀ phase attempt, before = some phase → attempt ∈ phase.attempt →
      attempt ∈ store.attempts.rows)
    {attempt : DeliveryAttempt} (hmem : attempt ∈ store.attempts.rows) :
    attempt ∈ store'.attempts.rows ∨ after = none ∧ ∃ target claimToken acceptance completionTime,
      before = some (.sent target claimToken attempt acceptance) ∧
        completedAttempt attempt acceptance completionTime ∈ store'.attempts.rows := by
  have hkept : store'.attempts = store.attempts → attempt ∈ store'.attempts.rows := by
    intro heq
    rw [heq]
    exact hmem
  have hadded : ∀ {deliveryId : DeliveryId} {added : DeliveryAttempt},
      AddsAttempt ids store store' deliveryId added → attempt ∈ store'.attempts.rows := by
    intro deliveryId added hadds
    rw [hadds.attempts, KeyTable.rows_set_of_fresh (hadds.absent hnumbered)]
    exact List.mem_append_left _ hmem
  cases h with
  | idle _ hattempts => exact Or.inl (hkept hattempts)
  | fails _ hadds => exact Or.inl (hadded hadds)
  | claims _ hattempts => exact Or.inl (hkept hattempts)
  | gates hadds _ => exact Or.inl (hadded hadds)
  | sends hattempts => exact Or.inl (hkept hattempts)
  | @completes target claimToken own acceptance completionTime hattempts =>
      rw [hattempts]
      by_cases hkey : key attempt = key (completedAttempt own acceptance completionTime)
      · have hown : own ∈ store.attempts.rows := hstored _ own rfl rfl
        have heq : attempt = own := store.attempts.eq_of_key_eq hmem hown hkey
        rw [heq]
        exact Or.inr ⟨rfl, target, claimToken, acceptance, completionTime, rfl,
          KeyTable.mem_set.2 (Or.inl rfl)⟩
      · exact Or.inl (KeyTable.mem_set.2 (Or.inr ⟨hmem, hkey⟩))

theorem PhaseChange.numbered (h : PhaseChange ids store store' before after transmitted)
    (hnumbered : AttemptsNumbered store)
    (hstored : ∀ phase attempt, before = some phase → attempt ∈ phase.attempt →
      attempt ∈ store.attempts.rows) : AttemptsNumbered store' := by
  cases h with
  | idle _ hattempts => exact hnumbered.of_eq hattempts
  | fails _ hadds => exact hnumbered.adds hadds
  | claims _ hattempts => exact hnumbered.of_eq hattempts
  | gates hadds _ => exact hnumbered.adds hadds
  | sends hattempts => exact hnumbered.of_eq hattempts
  | @completes target claimToken attempt acceptance completionTime hattempts =>
      have hrow : attempt ∈ store.attempts.rows := hstored _ attempt rfl rfl
      have hdelivery : (completedAttempt attempt acceptance completionTime).deliveryId =
          attempt.deliveryId := rfl
      exact hnumbered.completes hrow hdelivery rfl hattempts

/-- A dispatch keeps its token, or starts with a new one. -/
theorem PhaseChange.claimToken {phase : DispatchPhase}
    (h : PhaseChange ids store store' before (some phase) transmitted) :
    (∃ phase', before = some phase' ∧ phase'.claimToken = phase.claimToken) ∨
      ¬ Known ids store phase.claimToken := by
  cases h with
  | claims hfresh _ => exact Or.inr hfresh
  | gates _ _ => exact Or.inl ⟨_, rfl, rfl⟩
  | sends _ => exact Or.inl ⟨_, rfl, rfl⟩

/-- A dispatch keeps its attempt, or stores a new one. -/
theorem PhaseChange.attempt {phase : DispatchPhase} {attempt : DeliveryAttempt}
    (h : PhaseChange ids store store' before (some phase) transmitted)
    (hnumbered : AttemptsNumbered store) (hmem : attempt ∈ phase.attempt) :
    (∃ phase', before = some phase' ∧ attempt ∈ phase'.attempt) ∨
      store.attempts.get? (key attempt) = none ∧ attempt ∈ store'.attempts.rows ∧
        attempt.completedAt = none := by
  cases h with
  | claims _ _ => cases hmem
  | gates hadds hcompleted =>
      cases hmem
      refine Or.inr ⟨hadds.absent hnumbered, ?_, hcompleted⟩
      rw [hadds.attempts]
      exact KeyTable.mem_set.2 (Or.inl rfl)
  | sends _ => exact Or.inl ⟨_, rfl, hmem⟩

/-- What is sent is the attempt that the dispatch stored before. -/
theorem PhaseChange.transmits (h : PhaseChange ids store store' before after transmitted) :
    transmitted = [] ∨ ∃ target claimToken attempt acceptance, transmitted = [attempt] ∧
      before = some (.gated target claimToken attempt) ∧
      after = some (.sent target claimToken attempt acceptance) := by
  cases h with
  | sends _ => exact Or.inr ⟨_, _, _, _, rfl, rfl, rfl⟩
  | _ => exact Or.inl rfl

variable {state' : GatewayState} {index : ℕ}

theorem DispatchStep.phase_cases (h : DispatchStep ports state state' index transmitted)
    {other : ℕ} {phase : DispatchPhase} (hphase : phaseAt state'.calls other = some phase) :
    (other ≠ index ∧ phaseAt state.calls other = some phase) ∨
      (other = index ∧ PhaseChange ports.ids state.store state'.store (phaseAt state.calls index)
        (some phase) transmitted) := by
  by_cases hother : other = index
  · have hchange := h.change
    rw [← hother, hphase, hother] at hchange
    exact Or.inr ⟨hother, hchange⟩
  · rw [h.others other hother] at hphase
    exact Or.inl ⟨hother, hphase⟩

theorem DispatchStep.sentKeys_eq (h : DispatchStep ports state state' index transmitted) :
    sentKeys state' = sentKeys state ++ transmitted.map key := by
  rw [sentKeys, h.sent, List.map_append, List.map_map, sentKeys]
  rfl

/-! ### What a step preserves -/

theorem Sound.claimToken_known (h : Sound ports state) {phase : DispatchPhase}
    (hphase : phaseAt state.calls index = some phase) :
    Known ports.ids state.store phase.claimToken := by
  obtain ⟨owner, hget⟩ := phaseAt_eq_some.1 hphase
  exact ((h.calls _ (List.mem_of_getElem? hget)).dispatch (owner, phase) rfl).claimToken

theorem Owned.tokens_step (howned : Owned state) (hsound : Sound ports state)
    (h : DispatchStep ports state state' index transmitted) {other other' : ℕ}
    {phase phase' : DispatchPhase} (hphase : phaseAt state'.calls other = some phase)
    (hphase' : phaseAt state'.calls other' = some phase')
    (htoken : phase.claimToken = phase'.claimToken) : other = other' := by
  have hnew : ∀ {other : ℕ} {phase new : DispatchPhase}, phaseAt state.calls other = some phase →
      PhaseChange ports.ids state.store state'.store (phaseAt state.calls index) (some new)
        transmitted → phase.claimToken = new.claimToken → other = index := by
    intro other phase new hphase hchange htoken
    rcases hchange.claimToken with ⟨old, hold, hkept⟩ | hfresh
    · exact howned.tokens other index phase old hphase hold (htoken.trans hkept.symm)
    · rw [← htoken] at hfresh
      exact absurd (hsound.claimToken_known hphase) hfresh
  rcases h.phase_cases hphase with ⟨-, hold⟩ | ⟨rfl, hchange⟩
  · rcases h.phase_cases hphase' with ⟨-, hold'⟩ | ⟨rfl, hchange⟩
    · exact howned.tokens other other' phase phase' hold hold' htoken
    · exact hnew hold hchange htoken
  · rcases h.phase_cases hphase' with ⟨-, hold'⟩ | ⟨rfl, -⟩
    · exact (hnew hold' hchange htoken.symm).symm
    · rfl

theorem Owned.stored_step (howned : Owned state)
    (h : DispatchStep ports state state' index transmitted) {other : ℕ} {phase : DispatchPhase}
    {attempt : DeliveryAttempt} (hphase : phaseAt state'.calls other = some phase)
    (hattempt : attempt ∈ phase.attempt) :
    attempt ∈ state'.store.attempts.rows ∧ attempt.completedAt = none := by
  have hstored : ∀ phase attempt, phaseAt state.calls index = some phase →
      attempt ∈ phase.attempt → attempt ∈ state.store.attempts.rows :=
    fun phase attempt hphase hattempt => (howned.stored index phase attempt hphase hattempt).1
  rcases h.phase_cases hphase with ⟨hne, hold⟩ | ⟨rfl, hchange⟩
  · obtain ⟨hrow, hcompleted⟩ := howned.stored other phase attempt hold hattempt
    refine ⟨?_, hcompleted⟩
    rcases h.change.row howned.numbered hstored hrow with hkept |
      ⟨-, target, claimToken, acceptance, completionTime, hsent, -⟩
    · exact hkept
    · exact absurd (howned.attempts other index _ _ attempt hold hsent hattempt rfl) hne
  · rcases hchange.attempt howned.numbered hattempt with ⟨old, hold, hown⟩ | ⟨-, hrow, hcompleted⟩
    · obtain ⟨hrow, hcompleted⟩ := howned.stored other old attempt hold hown
      refine ⟨?_, hcompleted⟩
      rcases hchange.row howned.numbered hstored hrow with hkept | ⟨hnone, -⟩
      · exact hkept
      · cases hnone
    · exact ⟨hrow, hcompleted⟩

theorem Owned.attempts_step (howned : Owned state)
    (h : DispatchStep ports state state' index transmitted) {other other' : ℕ}
    {phase phase' : DispatchPhase} {attempt : DeliveryAttempt}
    (hphase : phaseAt state'.calls other = some phase)
    (hphase' : phaseAt state'.calls other' = some phase') (hattempt : attempt ∈ phase.attempt)
    (hattempt' : attempt ∈ phase'.attempt) : other = other' := by
  have hnew : ∀ {other : ℕ} {phase new : DispatchPhase}, phaseAt state.calls other = some phase →
      attempt ∈ phase.attempt →
      PhaseChange ports.ids state.store state'.store (phaseAt state.calls index) (some new)
        transmitted → attempt ∈ new.attempt → other = index := by
    intro other phase new hphase hattempt hchange hown
    rcases hchange.attempt howned.numbered hown with ⟨old, hold, hown⟩ | ⟨habsent, -⟩
    · exact howned.attempts other index phase old attempt hphase hold hattempt hown
    · have hrow := (howned.stored other phase attempt hphase hattempt).1
      rw [KeyTable.get?_key hrow] at habsent
      cases habsent
  rcases h.phase_cases hphase with ⟨-, hold⟩ | ⟨rfl, hchange⟩
  · rcases h.phase_cases hphase' with ⟨-, hold'⟩ | ⟨rfl, hchange⟩
    · exact howned.attempts other other' phase phase' attempt hold hold' hattempt hattempt'
    · exact hnew hold hattempt hchange hattempt'
  · rcases h.phase_cases hphase' with ⟨-, hold'⟩ | ⟨rfl, -⟩
    · exact (hnew hold' hattempt' hchange hattempt).symm
    · rfl

/-- A key in use stays in use. -/
theorem Owned.isSome_step (howned : Owned state)
    (h : DispatchStep ports state state' index transmitted) {attemptKey : JsString}
    (hsome : (state.store.attempts.get? attemptKey).isSome) :
    (state'.store.attempts.get? attemptKey).isSome := by
  obtain ⟨attempt, hget⟩ := Option.isSome_iff_exists.1 hsome
  obtain ⟨hrow, rfl⟩ := KeyTable.get?_eq_some.1 hget
  have hcases := h.change.row howned.numbered
    (fun phase attempt hphase hattempt => (howned.stored index phase attempt hphase hattempt).1) hrow
  rcases hcases with hkept | ⟨-, target, claimToken, acceptance, completionTime, -, hrow'⟩
  · exact Option.isSome_iff_exists.2 ⟨attempt, KeyTable.get?_key hkept⟩
  · exact Option.isSome_iff_exists.2 ⟨_, KeyTable.get?_eq_some.2 ⟨hrow', rfl⟩⟩

theorem Owned.step (howned : Owned state) (hsound : Sound ports state)
    (h : DispatchStep ports state state' index transmitted) : Owned state' where
  numbered := h.change.numbered howned.numbered fun phase attempt hphase hattempt =>
    (howned.stored index phase attempt hphase hattempt).1
  tokens _ _ _ _ hphase hphase' htoken := howned.tokens_step hsound h hphase hphase' htoken
  stored _ _ _ hphase hattempt := howned.stored_step h hphase hattempt
  attempts _ _ _ _ _ hphase hphase' hattempt hattempt' :=
    howned.attempts_step h hphase hphase' hattempt hattempt'
  sentStored sentKey hmem := by
    refine howned.isSome_step h ?_
    rw [h.sentKeys_eq, List.mem_append] at hmem
    rcases hmem with hold | hnew
    · exact howned.sentStored sentKey hold
    · rcases h.change.transmits with hnone | ⟨target, claimToken, attempt, _, hone, hgated, -⟩
      · rw [hnone] at hnew
        exact absurd hnew List.not_mem_nil
      · rw [hone, List.map_singleton, List.mem_singleton] at hnew
        have hrow := (howned.stored index _ attempt hgated rfl).1
        rw [hnew, KeyTable.get?_key hrow]
        rfl
  sentOnce := by
    rw [h.sentKeys_eq]
    rcases h.change.transmits with hnone | ⟨target, claimToken, attempt, _, hone, hgated, -⟩
    · rw [hnone, List.map_nil, List.append_nil]
      exact howned.sentOnce
    · rw [hone, List.map_singleton, ← List.concat_eq_append]
      exact howned.sentOnce.concat (howned.unsent index target claimToken attempt hgated)
  unsent other target claimToken attempt hphase := by
    rw [h.sentKeys_eq, List.mem_append]
    rintro (hold | hnew)
    · rcases h.phase_cases hphase with ⟨-, hgated⟩ | ⟨rfl, hchange⟩
      · exact howned.unsent other target claimToken attempt hgated hold
      · cases hbefore : phaseAt state.calls other with
        | none =>
            rw [hbefore] at hchange
            cases hchange
        | some phase =>
            rw [hbefore] at hchange
            cases hchange with
            | gates hadds _ =>
                have hsome := howned.sentStored _ hold
                rw [hadds.absent howned.numbered] at hsome
                cases hsome
    · rcases h.change.transmits with hnone | ⟨target', claimToken', sent, _, hone, hgated, hsent⟩
      · rw [hnone] at hnew
        exact absurd hnew List.not_mem_nil
      · rw [hone, List.map_singleton, List.mem_singleton] at hnew
        rcases h.phase_cases hphase with ⟨hne, hold⟩ | ⟨rfl, -⟩
        · have hrow := (howned.stored other _ attempt hold rfl).1
          have hrow' := (howned.stored index _ sent hgated rfl).1
          have heq : attempt = sent := state.store.attempts.eq_of_key_eq hrow hrow' hnew
          exact hne (howned.attempts other index _ _ attempt hold hgated rfl (congrArg some heq.symm))
        · rw [hphase] at hsent
          cases hsent

theorem owned_run (ports : Ports) (events : List GatewayEvent) :
    Run.AllStates (step ports) (fun state => Sound ports state ∧ Owned state) {} events := by
  refine Run.allStates_of_invariant (fun state event h => ?_) ⟨Sound.init ports, Owned.init⟩
  obtain ⟨hsound, howned⟩ := h
  obtain ⟨index, transmitted, -, hstep⟩ := step_dispatchStep hsound event
  exact ⟨(step_steps hsound event).sound hsound, howned.step hsound hstep⟩

/-! ## Runs -/

/-- The dispatch stored this attempt in an earlier step, as a new row. -/
def StoredBy (ports : Ports) (done : List GatewayEvent) (index : ℕ) (target : Delivery)
    (claimToken : JsString) (attempt : DeliveryAttempt) : Prop :=
  ∃ before event, before ++ [event] <+: done ∧
    phaseAt (Run.run (step ports) {} before).calls index = some (.prepared target claimToken) ∧
    phaseAt (Run.run (step ports) {} (before ++ [event])).calls index =
      some (.gated target claimToken attempt) ∧
    (Run.run (step ports) {} before).store.attempts.get? (key attempt) = none ∧
    (Run.run (step ports) {} (before ++ [event])).store.attempts.get? (key attempt) = some attempt

theorem run_concat (ports : Ports) (done : List GatewayEvent) (event : GatewayEvent) :
    Run.run (step ports) {} (done ++ [event]) =
      step ports (Run.run (step ports) {} done) event := by
  rw [Run.run_append, Run.run_cons, Run.run_nil]

theorem StoredBy.mono {done : List GatewayEvent} {target : Delivery} {claimToken : JsString}
    {attempt : DeliveryAttempt} (h : StoredBy ports done index target claimToken attempt)
    (event : GatewayEvent) : StoredBy ports (done ++ [event]) index target claimToken attempt := by
  obtain ⟨before, stored, hpre, hrest⟩ := h
  exact ⟨before, stored, hpre.trans (List.prefix_append _ _), hrest⟩

/-- A dispatch that has an attempt stored it. -/
theorem storedBy_of_phase (ports : Ports) (done : List GatewayEvent) (index : ℕ)
    (phase : DispatchPhase) (attempt : DeliveryAttempt)
    (hphase : phaseAt (Run.run (step ports) {} done).calls index = some phase)
    (hattempt : attempt ∈ phase.attempt) :
    StoredBy ports done index phase.target phase.claimToken attempt := by
  induction done using List.reverseRecOn generalizing phase with
  | nil => cases hphase
  | append_singleton done event ih =>
      obtain ⟨hsound, howned⟩ := owned_run ports done done List.prefix_rfl
      obtain ⟨worked, transmitted, -, hstep⟩ := step_dispatchStep hsound event
      rw [run_concat] at hphase
      rcases hstep.phase_cases hphase with ⟨-, hold⟩ | ⟨rfl, hchange⟩
      · exact (ih phase hold hattempt).mono event
      · cases hbefore : phaseAt (Run.run (step ports) {} done).calls index with
        | none =>
            rw [hbefore] at hchange
            cases hchange
            cases hattempt
        | some old =>
            rw [hbefore] at hchange
            cases hchange with
            | gates hadds hcompleted =>
                cases hattempt
                refine ⟨done, event, List.prefix_rfl, hbefore, ?_, hadds.absent howned.numbered, ?_⟩
                · rw [run_concat]
                  exact hphase
                · rw [run_concat, hadds.attempts, KeyTable.get?_set_self]
            | sends hattempts => exact (ih _ hbefore hattempt).mono event

/-- A step that rewrites an attempt completes it, for the dispatch that has it. -/
theorem rewrites_own (hsound : Sound ports state) (howned : Owned state) {event : GatewayEvent}
    {attempt : DeliveryAttempt} (hrow : attempt ∈ state.store.attempts.rows)
    (hrewritten : attempt ∉ (step ports state event).store.attempts.rows) :
    ∃ index answers target claimToken acceptance, event = .advance index answers ∧
      phaseAt state.calls index = some (.sent target claimToken attempt acceptance) := by
  obtain ⟨index, transmitted, hworks, hstep⟩ := step_dispatchStep hsound event
  have hcases := hstep.change.row howned.numbered
    (fun phase attempt hphase hattempt => (howned.stored index phase attempt hphase hattempt).1) hrow
  rcases hcases with hkept | ⟨-, target, claimToken, acceptance, completionTime, hsent, -⟩
  · exact absurd hkept hrewritten
  · rcases hworks with rfl | rfl | ⟨answers, rfl⟩
    · rw [phaseAt_length] at hsent
      cases hsent
    · exact absurd hrow hrewritten
    · exact ⟨index, answers, target, claimToken, acceptance, rfl, hsent⟩

/-- A token in use that a delivery has lost stays lost. -/
theorem hasClaim_of_later (ports : Ports) (events done more : List GatewayEvent)
    (hpre : done ++ more <+: events) {deliveryId : DeliveryId} {claimToken : JsString}
    (hknown : Known ports.ids (Run.run (step ports) {} done).store claimToken)
    (h : HasClaim (Run.run (step ports) {} (done ++ more)).store deliveryId claimToken) :
    HasClaim (Run.run (step ports) {} done).store deliveryId claimToken := by
  have hsteps : Run.AllSteps (step ports) (fun state _ => Sound ports state) {} events := by
    rw [Run.allSteps_iff_forall_prefix]
    exact fun done event hpre =>
      sound_run ports events done ((List.prefix_append _ _).trans hpre)
  have hrel := Run.rel_of_allSteps
    (fun earlier later : GatewayState => Known ports.ids earlier.store claimToken →
      Known ports.ids later.store claimToken ∧
        (HasClaim later.store deliveryId claimToken → HasClaim earlier.store deliveryId claimToken))
    (fun _ hknown => ⟨hknown, id⟩)
    (fun _ _ _ h h' hknown =>
      ⟨(h' (h hknown).1).1, fun hlater => (h hknown).2 ((h' (h hknown).1).2 hlater)⟩)
    (fun state event hsound hknown =>
      have heffects := (step_steps hsound event).effects
      ⟨hknown.mono heffects.idsUsed_le, heffects.hasClaim hknown⟩) hsteps done more hpre
  exact (hrel hknown).2 h

/-- In every run, a dispatch that has lost its claim writes nothing any more; an attempt is sent at most
once, and by the dispatch that stored it; the attempts of a delivery are numbered 1 to n, and only the
dispatch that stored an attempt writes it again; a completed attempt stays as it is. -/
theorem dispatch_ownership (ports : Ports) (events : List GatewayEvent) :
    (∀ done index answers, done ++ [.advance index answers] <+: events → ∀ phase,
      phaseAt (Run.run (step ports) {} done).calls index = some phase →
      ∀ earlier, earlier <+: done → ∀ phase',
        phaseAt (Run.run (step ports) {} earlier).calls index = some phase' →
        phase'.claimToken = phase.claimToken → phase'.target.id = phase.target.id →
        ¬ HasClaim (Run.run (step ports) {} earlier).store phase.target.id phase.claimToken →
          (Run.run (step ports) {} (done ++ [.advance index answers])).store =
            (Run.run (step ports) {} done).store) ∧
    (∀ done, done <+: events → (sentKeys (Run.run (step ports) {} done)).Nodup) ∧
    (∀ done event, done ++ [event] <+: events →
      (Run.run (step ports) {} (done ++ [event])).sent = (Run.run (step ports) {} done).sent ∨
      ∃ index target claimToken attempt, (Run.run (step ports) {} (done ++ [event])).sent =
          (Run.run (step ports) {} done).sent ++ [(index, attempt)] ∧
        phaseAt (Run.run (step ports) {} done).calls index =
          some (.gated target claimToken attempt) ∧
        StoredBy ports done index target claimToken attempt) ∧
    (∀ done, done <+: events → ∀ deliveryId,
      ((Run.run (step ports) {} done).store.attemptsOf deliveryId).map DeliveryAttempt.attemptNo =
        List.range' 1 ((Run.run (step ports) {} done).store.attemptsOf deliveryId).length) ∧
    (∀ done event, done ++ [event] <+: events →
      ∀ attempt ∈ (Run.run (step ports) {} done).store.attempts.rows,
        attempt ∉ (Run.run (step ports) {} (done ++ [event])).store.attempts.rows →
          attempt.completedAt = none ∧ ∃ index answers target claimToken acceptance,
            event = .advance index answers ∧ phaseAt (Run.run (step ports) {} done).calls index =
              some (.sent target claimToken attempt acceptance) ∧
            StoredBy ports done index target claimToken attempt) := by
  refine ⟨?_, ?_, ?_, ?_, ?_⟩
  · intro done index answers hpre phase hphase earlier hearlier phase' hphase' htoken htarget hlost
    obtain ⟨hsound, -⟩ :=
      owned_run ports events done ((List.prefix_append _ _).trans hpre)
    obtain ⟨more, rfl⟩ := hearlier
    have hmore : earlier ++ more <+: events := (List.prefix_append _ _).trans hpre
    obtain ⟨hearlierSound, -⟩ :=
      owned_run ports events earlier ((List.prefix_append _ _).trans hmore)
    have hknown := hearlierSound.claimToken_known hphase'
    rw [htoken] at hknown
    have hlater : ¬ HasClaim (Run.run (step ports) {} (earlier ++ more)).store phase.target.id
        phase.claimToken :=
      fun h => hlost (hasClaim_of_later ports events earlier more hmore hknown h)
    obtain ⟨owner, hget⟩ := phaseAt_eq_some.1 hphase
    have hdispatch := (hsound.calls _ (List.mem_of_getElem? hget)).dispatch (owner, phase) rfl
    rw [run_concat]
    simp only [step, hget, advanceCall]
    exact advanceDispatch_lost hdispatch.target hlater
  · intro done hdone
    exact (owned_run ports events done hdone).2.sentOnce
  · intro done event hpre
    obtain ⟨hsound, -⟩ :=
      owned_run ports events done ((List.prefix_append _ _).trans hpre)
    obtain ⟨index, transmitted, -, hstep⟩ := step_dispatchStep hsound event
    rw [run_concat, hstep.sent]
    rcases hstep.change.transmits with hnone | ⟨target, claimToken, attempt, _, hone, hgated, -⟩
    · rw [hnone]
      exact Or.inl (List.append_nil _)
    · rw [hone]
      exact Or.inr ⟨index, target, claimToken, attempt, rfl, hgated,
        storedBy_of_phase ports done index _ attempt hgated rfl⟩
  · intro done hdone
    exact (owned_run ports events done hdone).2.numbered
  · intro done event hpre attempt hrow hrewritten
    obtain ⟨hsound, howned⟩ :=
      owned_run ports events done ((List.prefix_append _ _).trans hpre)
    rw [run_concat] at hrewritten
    obtain ⟨index, answers, target, claimToken, acceptance, hevent, hphase⟩ :=
      rewrites_own hsound howned hrow hrewritten
    exact ⟨(howned.stored index _ attempt hphase rfl).2, index, answers, target, claimToken,
      acceptance, hevent, hphase, storedBy_of_phase ports done index _ attempt hphase rfl⟩

end VoiceLife.Gateway
