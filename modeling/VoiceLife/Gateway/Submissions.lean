import VoiceLife.Gateway.ActionEffects
import VoiceLife.Gateway.Soundness

/-! # Submissions

A submission is recorded once for its business event and kind. Later ones get its answer, or a conflict if
their payload is another JSON value. Every delivery has its business key for itself and exactly one event
that requests it.
-/

namespace VoiceLife.Gateway

variable {ports : Ports} {ids : IdGenerator} {settling : OutboxEventId → Prop}
  {store store' : ImStore} {state : GatewayState}

/-! ## Deliveries and the events that request them -/

/-- The business key of a delivery. -/
def Delivery.businessKey (delivery : Delivery) : EventId × BindingId × DeliveryKind :=
  (delivery.businessEventId, delivery.bindingId, delivery.kind)

/-- The events that request a delivery. -/
def requestedEvents (store : ImStore) (deliveryId : DeliveryId) : List ImOutboxEvent :=
  store.outbox.filter fun event =>
    event.aggregateId = deliveryId ∧ event.eventType = .requested

/-- Deliveries have different business keys and one event each that requests them. -/
structure DeliveriesRequested (store : ImStore) : Prop where
  unique : ∀ delivery ∈ store.deliveries.rows, ∀ other ∈ store.deliveries.rows,
    delivery.businessKey = other.businessKey → delivery = other
  requested : ∀ delivery ∈ store.deliveries.rows,
    ∃ event, requestedEvents store delivery.id = [event]

theorem SameDelivery.businessKey_eq {delivery delivery' : Delivery}
    (h : SameDelivery delivery delivery') : delivery'.businessKey = delivery.businessKey := by
  obtain ⟨_, _, _, _, _, _, rfl⟩ := h
  rfl

theorem requestedEvents_append {deliveryId : DeliveryId} {appended : List ImOutboxEvent}
    (houtbox : store'.outbox = store.outbox ++ appended)
    (hother : ∀ event ∈ appended, event.aggregateId = deliveryId → event.eventType ≠ .requested) :
    requestedEvents store' deliveryId = requestedEvents store deliveryId := by
  have hnil : appended.filter (fun event =>
      decide (event.aggregateId = deliveryId ∧ event.eventType = .requested)) = [] := by
    refine List.filter_eq_nil_iff.2 fun event hevent => ?_
    rw [decide_eq_true_eq]
    rintro ⟨haggregate, hrequested⟩
    exact hother event hevent haggregate hrequested
  rw [requestedEvents, houtbox, List.filter_append, hnil, List.append_nil, requestedEvents]

theorem Marks.deliveriesRequested (hmarks : Marks settling store store')
    (h : DeliveriesRequested store) : DeliveriesRequested store' := by
  obtain ⟨mark, houtbox, hmark⟩ := hmarks.outbox
  constructor
  · rw [hmarks.deliveries]
    exact h.unique
  · rw [hmarks.deliveries]
    intro delivery hmem
    obtain ⟨event, hevent⟩ := h.requested delivery hmem
    have hfilter : store.outbox.filter ((fun event => decide (event.aggregateId = delivery.id ∧
        event.eventType = .requested)) ∘ mark) = requestedEvents store delivery.id := by
      refine List.filter_congr fun event hevent => ?_
      rw [Function.comp_apply, (hmark event hevent).1.aggregateId, (hmark event hevent).1.eventType]
    refine ⟨mark event, ?_⟩
    rw [requestedEvents, houtbox, List.filter_map, hfilter, hevent, List.map_singleton]

theorem Creates.deliveriesRequested {created : Delivery} {event : ImOutboxEvent}
    (hcreates : Creates ids store store' created event) (hsound : StoreSound ids store)
    (h : DeliveriesRequested store) : DeliveriesRequested store' := by
  have hnew := hcreates.get?_eq_none hsound
  have hmem : ∀ delivery, delivery ∈ store'.deliveries.rows ↔
      delivery ∈ store.deliveries.rows ∨ delivery = created := by
    intro delivery
    rw [hcreates.deliveries, KeyTable.rows_set_of_fresh hnew, List.mem_append, List.mem_singleton]
  have habsent : ∀ delivery ∈ store.deliveries.rows,
      delivery.businessKey ≠ created.businessKey := by
    intro delivery hdelivery hkey
    obtain ⟨hevent, hrest⟩ := Prod.mk.inj hkey
    obtain ⟨hbinding, hkind⟩ := Prod.mk.inj hrest
    exact List.find?_eq_none.1 hcreates.absent delivery hdelivery
      (decide_eq_true ⟨hevent, hbinding, hkind⟩)
  constructor
  · intro left hleft right hright hkey
    rcases (hmem left).1 hleft with hl | rfl <;> rcases (hmem right).1 hright with hr | rfl
    · exact h.unique left hl right hr hkey
    · exact absurd hkey (habsent left hl)
    · exact absurd hkey.symm (habsent right hr)
    · rfl
  · intro delivery hdelivery
    rcases (hmem delivery).1 hdelivery with hold | rfl
    · obtain ⟨found, hfound⟩ := h.requested delivery hold
      refine ⟨found, ?_⟩
      rw [requestedEvents_append hcreates.outbox, hfound]
      intro appended happended haggregate
      rw [List.mem_singleton.1 happended, hcreates.aggregateId] at haggregate
      exact absurd haggregate.symm (KeyTable.get?_eq_none.1 hnew delivery hold)
    · -- no event of the store is about the new delivery
      have hnone : requestedEvents store delivery.id = [] := by
        refine List.filter_eq_nil_iff.2 fun found hfound => ?_
        rw [decide_eq_true_eq]
        rintro ⟨haggregate, -⟩
        have hsome := (hsound.events found hfound).2
        rw [haggregate, hnew] at hsome
        cases hsome
      have hself : [event].filter (fun event => decide (event.aggregateId = delivery.id ∧
          event.eventType = .requested)) = [event] := by
        simp [hcreates.aggregateId, hcreates.requested]
      refine ⟨event, ?_⟩
      rw [requestedEvents, hcreates.outbox, List.filter_append, ← requestedEvents, hnone, hself,
        List.nil_append]

theorem Writes.deliveriesRequested {before after : Delivery} {appended : Option ImOutboxEvent}
    (hwrites : Writes ids store store' before after appended)
    (h : DeliveriesRequested store) : DeliveriesRequested store' := by
  have hbefore := (KeyTable.get?_eq_some.1 hwrites.stored).1
  have horigin : ∀ delivery ∈ store'.deliveries.rows, ∃ old ∈ store.deliveries.rows,
      SameDelivery old delivery := by
    intro delivery hmem
    rw [hwrites.deliveries] at hmem
    rcases KeyTable.mem_set_of_mem hmem with rfl | hold
    · exact ⟨before, hbefore, hwrites.same⟩
    · exact ⟨delivery, hold, SameDelivery.refl delivery⟩
  constructor
  · intro left hleft right hright hkey
    obtain ⟨oldLeft, hl, hsameLeft⟩ := horigin left hleft
    obtain ⟨oldRight, hr, hsameRight⟩ := horigin right hright
    rw [hsameLeft.businessKey_eq, hsameRight.businessKey_eq] at hkey
    refine store'.deliveries.eq_of_key_eq hleft hright ?_
    exact (hsameLeft.id_eq.trans (congrArg Delivery.id (h.unique oldLeft hl oldRight hr hkey))).trans
      hsameRight.id_eq.symm
  · intro delivery hmem
    obtain ⟨old, hold, hsame⟩ := horigin delivery hmem
    obtain ⟨event, hevent⟩ := h.requested old hold
    refine ⟨event, ?_⟩
    rw [hsame.id_eq, requestedEvents_append hwrites.outbox, hevent]
    intro found hfound _
    exact hwrites.notRequested found (Option.mem_toList.1 hfound)

theorem Effects.deliveriesRequested (heffects : Effects ids settling store store')
    (hsound : StoreSound ids store) (h : DeliveriesRequested store) :
    DeliveriesRequested store' := by
  induction heffects with
  | refl => exact h
  | tail hbefore heffect ih =>
      cases heffect with
      | marks hmarks => exact hmarks.deliveriesRequested ih
      | creates hcreates => exact hcreates.deliveriesRequested (Effects.storeSound hbefore hsound) ih
      | writes hwrites => exact hwrites.deliveriesRequested ih

/-! ## Records of submissions -/

/-- Only submissions write records. -/
theorem advanceCall_intentSubmissions (answers : Answers) (store : ImStore) (call : Call) :
    (advanceCall ports answers store call).2.intentSubmissions = store.intentSubmissions := by
  cases call with
  | dispatching owner phase =>
      exact (advanceDispatch_untouched ports owner answers store phase).intentSubmissions
  | reading task => rfl
  | claiming task => exact (startDispatch_untouched ports _ _ _ _ store).intentSubmissions
  | deadLettering task insideTry =>
      dsimp only [advanceCall, deadLetterCall]
      split
      · rename_i hmark
        obtain ⟨delivery, hwrites, -⟩ := markDeadLetter_writes ports.ids hmark
        exact hwrites.intentSubmissions
      · split <;> rfl
  | publishing task => exact (markPublished_untouched _ _ store).intentSubmissions
  | failing task => exact (markFailed_untouched _ store).intentSubmissions
  | publishingCommands commands =>
      cases commands with
      | nil => rfl
      | cons command rest =>
          exact (dispatchTransaction_keepsDeliveries answers.now command store).intentSubmissions
  | finished => rfl

theorem triggered_intentSubmissions
    {result : Except ImGatewayError ((ReminderActionCommand × Bool) × ImStore)}
    (h : ∀ answer store', result = .ok (answer, store') →
      store'.intentSubmissions = state.store.intentSubmissions) :
    (state.triggered result).store.intentSubmissions = state.store.intentSubmissions := by
  unfold GatewayState.triggered
  split
  · rfl
  · split <;> exact h _ _ rfl

theorem committed_intentSubmissions {α : Type} {result : Except ImGatewayError (α × ImStore)}
    (h : ∀ answer store', result = .ok (answer, store') →
      store'.intentSubmissions = state.store.intentSubmissions) :
    (state.committed result).store.intentSubmissions = state.store.intentSubmissions := by
  unfold GatewayState.committed
  split
  · rfl
  · exact h _ _ rfl

theorem step_intentSubmissions (ports : Ports) (state : GatewayState) (event : GatewayEvent) :
    (step ports state event).store.intentSubmissions = state.store.intentSubmissions ∨
      ∃ capabilities now input submission, event = .submit capabilities now input ∧
        createDeliveries ports.ids capabilities now input state.store =
          .ok (submission, (step ports state event).store) := by
  cases event with
  | directory | expireDue | replayPending | crash => exact Or.inl rfl
  | submit capabilities now input =>
      cases hcreate : createDeliveries ports.ids capabilities now input state.store with
      | error error =>
          left
          simp only [step, hcreate, GatewayState.committed]
      | ok result =>
          refine Or.inr ⟨capabilities, now, input, result.1, rfl, ?_⟩
          simp only [step, hcreate, GatewayState.committed]
  | retryDeadLetter now deliveryId =>
      refine Or.inl (committed_intentSubmissions fun _ _ h => ?_)
      obtain ⟨delivery, event, hwrites, -⟩ := retryDeadLetter_writes h
      exact hwrites.intentSubmissions
  | markDeadLetter now deliveryId =>
      refine Or.inl (committed_intentSubmissions fun _ _ h => ?_)
      obtain ⟨delivery, hwrites, -⟩ := markDeadLetter_writes ports.ids h
      exact hwrites.intentSubmissions
  | recordReceipt now receipt =>
      left
      dsimp only [step]
      split
      · rfl
      · rename_i hreceipt
        exact (recordReceipt_untouched hreceipt).intentSubmissions
  | dispatch claimTime now deliveryId =>
      exact Or.inl (startDispatch_untouched ports none _ _ _ state.store).intentSubmissions
  | runOnce now leaseUntil limit =>
      exact Or.inl (claimPending_untouched now leaseUntil limit state.store).intentSubmissions
  | execute now token action params actualIdentityId =>
      refine Or.inl (triggered_intentSubmissions fun _ _ h => ?_)
      obtain ⟨claims, -, htrigger⟩ := executeAction_ok h
      exact (triggerPrepared_keepsDeliveries htrigger).intentSubmissions
  | triggerPrepared now command =>
      refine Or.inl (triggered_intentSubmissions fun _ _ h => ?_)
      exact (triggerPrepared_keepsDeliveries h).intentSubmissions
  | recordResult now commandId deviceId result =>
      left
      dsimp only [step]
      split
      · rfl
      · rename_i hresult
        have hkeeps := (recordResult_cases hresult).1.keepsDeliveries.intentSubmissions
        split <;> exact hkeeps
  | recordDeviceActionStatus now report =>
      refine Or.inl (committed_intentSubmissions fun _ _ h => ?_)
      exact (recordDeviceActionStatus_keepsDeliveries h).intentSubmissions
  | recoverStaleProcessing now staleBefore => exact Or.inl rfl
  | markProcessing now actionId deviceId reminderTriggerId =>
      left
      dsimp only [step]
      split
      · rfl
      · rename_i hmark
        exact (markProcessing_changesOpen hmark).keepsDeliveries.intentSubmissions
  | advance index answers =>
      left
      dsimp only [step]
      split
      · rfl
      · exact advanceCall_intentSubmissions answers state.store _

/-- The record of a submission that created its deliveries. -/
def SubmissionInput.record (input : SubmissionInput) (now : IsoDateTime)
    (listed : List SubmittedDelivery) : IntentSubmissionRecord :=
  { input.claim now with submission := input.answer listed }

/-- A submission without a record stores one with its answer. -/
theorem finalizeClaim_rows {capabilities : CapabilityResolver} {now : IsoDateTime}
    {input : SubmissionInput} {listed : List SubmittedDelivery} {middle : ImStore}
    (habsent : store.intentSubmissions.get? (key (input.claim now)) = none)
    (hloop : createDeliveryLoop ids capabilities now input (input.reserve now store)
      (input.selected store) = .ok (listed, middle)) :
    (middle.finalizeClaim (input.record now listed)).intentSubmissions.rows =
      store.intentSubmissions.rows ++ [input.record now listed] := by
  have hmiddle : middle.intentSubmissions = store.intentSubmissions.set (input.claim now) :=
    (createDeliveryLoop_untouched hloop).intentSubmissions
  have hset : middle.intentSubmissions.set (input.record now listed) =
      store.intentSubmissions.set (input.record now listed) := by
    rw [hmiddle]
    exact KeyTable.set_set rfl
  rw [ImStore.finalizeClaim, hset]
  exact KeyTable.rows_set_of_fresh habsent

/-- A listed delivery is stored under its business key. -/
def Listed (store : ImStore) (businessEventId : EventId) (kind : DeliveryKind)
    (submitted : SubmittedDelivery) : Prop :=
  ∃ delivery, store.deliveries.get? submitted.deliveryId = some delivery ∧
    delivery.businessKey = (businessEventId, submitted.bindingId, kind)

theorem Listed.effects {businessEventId : EventId} {kind : DeliveryKind}
    {submitted : SubmittedDelivery} (h : Listed store businessEventId kind submitted)
    (heffects : Effects ids settling store store') (hsound : StoreSound ids store) :
    Listed store' businessEventId kind submitted := by
  obtain ⟨delivery, hget, hkey⟩ := h
  obtain ⟨delivery', hget', hsame⟩ := heffects.delivery hsound hget
  exact ⟨delivery', hget', hsame.businessKey_eq.trans hkey⟩

theorem createDelivery_listed {capabilities : CapabilityResolver} {now : IsoDateTime}
    {input : SubmissionInput} {binding : ImBinding} {result : Option SubmittedDelivery}
    (h : createDelivery ids capabilities now input store binding = .ok (result, store')) :
    ∀ submitted ∈ result, Listed store' input.businessEventId input.kind submitted := by
  rcases createDelivery_cases h with ⟨rfl, hexisting⟩ |
    ⟨delivery, event, hcreates, hevent, hbinding, hkind, rfl⟩
  · intro submitted hsubmitted
    obtain ⟨existing, hfound, rfl⟩ := hexisting submitted hsubmitted
    have hkey := List.find?_some hfound
    rw [decide_eq_true_eq] at hkey
    refine ⟨existing, KeyTable.get?_key (List.mem_of_find?_eq_some hfound), ?_⟩
    rw [Delivery.businessKey, hkey.1, hkey.2.1, hkey.2.2]
  · rintro _ ⟨⟩
    refine ⟨delivery, ?_, ?_⟩
    · rw [hcreates.deliveries]
      exact KeyTable.get?_set_self _ delivery
    · rw [Delivery.businessKey, hevent, hbinding, hkind]

theorem createDeliveryLoop_listed {capabilities : CapabilityResolver} {now : IsoDateTime}
    {input : SubmissionInput} {bindings : List ImBinding} {listed : List SubmittedDelivery}
    (hsound : StoreSound ids store)
    (h : createDeliveryLoop ids capabilities now input store bindings = .ok (listed, store')) :
    ∀ submitted ∈ listed, Listed store' input.businessEventId input.kind submitted := by
  induction bindings generalizing store listed with
  | nil =>
      cases h
      exact fun _ hmem => absurd hmem List.not_mem_nil
  | cons binding bindings ih =>
      rw [createDeliveryLoop] at h
      split at h
      · cases h
      · rename_i result middle hcreate
        split at h <;> cases h
        rename_i rest _ hloop
        have hmiddle : Effects ids (fun _ => False) store middle := by
          rcases createDelivery_cases hcreate with ⟨rfl, -⟩ | ⟨delivery, event, hcreates, -⟩
          · exact Relation.ReflTransGen.refl
          · exact Relation.ReflTransGen.single (Effect.creates hcreates)
        have hmiddleSound := hmiddle.storeSound hsound
        intro submitted hsubmitted
        rcases List.mem_append.1 hsubmitted with hfirst | hrest
        · have hlisted := createDelivery_listed hcreate submitted (Option.mem_toList.1 hfirst)
          have heffects : Effects ids (fun _ => False) middle store' :=
            createDeliveryLoop_effects hloop
          exact hlisted.effects heffects hmiddleSound
        · exact ih hmiddleSound hloop submitted hrest

/-! ## Runs -/

/-- The delivery side is sound, and recorded answers list stored deliveries. -/
structure SubmissionsSound (ports : Ports) (state : GatewayState) : Prop extends Sound ports state where
  requested : DeliveriesRequested state.store
  listed : ∀ record ∈ state.store.intentSubmissions.rows, ∀ submitted ∈ record.submission.deliveries,
    Listed state.store record.businessEventId record.kind submitted

/-- Records stay as they are. -/
def KeepsRecords (store store' : ImStore) : Prop :=
  ∀ record ∈ store.intentSubmissions.rows, record ∈ store'.intentSubmissions.rows

/-- The record that answers a submission. -/
def Recorded (store : ImStore) (input : SubmissionInput) (submission : NotificationSubmission) : Prop :=
  ∃ record ∈ store.intentSubmissions.rows, record.businessEventId = input.businessEventId ∧
    record.kind = input.kind ∧ record.requestFingerprint = canonicalizeJson input.payload.value ∧
    record.submission = submission

/-- A successful submission finds its record, or adds it with deliveries that it lists. -/
theorem createDeliveries_recorded {capabilities : CapabilityResolver} {now : IsoDateTime}
    {input : SubmissionInput} {submission : NotificationSubmission} (hsound : StoreSound ids store)
    (h : createDeliveries ids capabilities now input store = .ok (submission, store')) :
    Recorded store' input submission ∧ KeepsRecords store store' ∧
      ∀ record ∈ store'.intentSubmissions.rows, record ∈ store.intentSubmissions.rows ∨
        ∀ submitted ∈ record.submission.deliveries,
          Listed store' record.businessEventId record.kind submitted := by
  rcases createDeliveries_cases h with ⟨record, hget, hfingerprint, rfl, rfl⟩ |
    ⟨habsent, listed, middle, hloop, rfl, rfl⟩
  · obtain ⟨hmem, hkey⟩ := KeyTable.get?_eq_some.1 hget
    obtain ⟨hevent, hkind⟩ := intentSubmissionKey_inj hkey
    exact ⟨⟨record, hmem, hevent, hkind, hfingerprint, rfl⟩, fun _ => id, fun _ => Or.inl⟩
  · have hrows := finalizeClaim_rows habsent hloop
    rw [SubmissionInput.record] at hrows
    unfold Recorded KeepsRecords
    rw [hrows]
    refine ⟨?_, fun record hmem => List.mem_append_left _ hmem, fun record hmem => ?_⟩
    · exact ⟨_, List.mem_append_right _ (List.mem_singleton_self _), rfl, rfl, rfl, rfl⟩
    · rcases List.mem_append.1 hmem with hold | hnew
      · exact Or.inl hold
      · rw [List.mem_singleton.1 hnew]
        have hreserved : StoreSound ids (input.reserve now store) :=
          ⟨hsound.distinct, hsound.events, hsound.deliveries⟩
        have hlisted := createDeliveryLoop_listed hreserved hloop
        exact Or.inr fun submitted hsubmitted => hlisted submitted hsubmitted

theorem step_submissionsSound (h : SubmissionsSound ports state) (event : GatewayEvent) :
    SubmissionsSound ports (step ports state event) ∧
      KeepsRecords state.store (step ports state event).store := by
  have hsteps := step_steps h.toSound event
  have hkept : ∀ record ∈ state.store.intentSubmissions.rows,
      ∀ submitted ∈ record.submission.deliveries,
        Listed (step ports state event).store record.businessEventId record.kind submitted := by
    intro record hmem submitted hsubmitted
    exact (h.listed record hmem submitted hsubmitted).effects hsteps.effects h.store
  have hrequested := hsteps.effects.deliveriesRequested h.store h.requested
  rcases step_intentSubmissions ports state event with hsame |
    ⟨capabilities, now, input, submission, -, hcreate⟩
  · refine ⟨⟨hsteps.sound h.toSound, hrequested, ?_⟩, ?_⟩
    · rw [hsame]
      exact hkept
    · unfold KeepsRecords
      rw [hsame]
      exact fun _ => id
  · obtain ⟨-, hkeeps, hnew⟩ := createDeliveries_recorded h.store hcreate
    refine ⟨⟨hsteps.sound h.toSound, hrequested, fun record hmem => ?_⟩, hkeeps⟩
    rcases hnew record hmem with hold | hlisted
    · exact hkept record hold
    · exact hlisted

theorem submissionsSound_run (ports : Ports) (events : List GatewayEvent) :
    Run.AllStates (step ports) (SubmissionsSound ports) {} events := by
  refine Run.allStates_of_invariant (fun _ event h => (step_submissionsSound h event).1) ?_
  exact ⟨Sound.init ports, ⟨fun _ h => absurd h List.not_mem_nil, fun _ h => absurd h List.not_mem_nil⟩,
    fun _ h => absurd h List.not_mem_nil⟩

/-- A submission in a run. -/
structure Submission (events : List GatewayEvent) where
  done : List GatewayEvent
  capabilities : CapabilityResolver
  now : IsoDateTime
  input : SubmissionInput
  happens : done ++ [GatewayEvent.submit capabilities now input] <+: events

namespace Submission

variable {events : List GatewayEvent}

/-- The event of a submission. -/
def event (x : Submission events) : GatewayEvent :=
  .submit x.capabilities x.now x.input

/-- The state in which a submission starts. -/
def before (ports : Ports) (x : Submission events) : GatewayState :=
  Run.run (step ports) {} x.done

/-- The submission succeeds. -/
def Answers (ports : Ports) (x : Submission events) (submission : NotificationSubmission) : Prop :=
  ∃ store', createDeliveries ports.ids x.capabilities x.now x.input (x.before ports).store =
    .ok (submission, store')

/-- The submission fails with `idempotency_conflict` and changes nothing. -/
def Conflicts (ports : Ports) (x : Submission events) : Prop :=
  (∃ message, createDeliveries ports.ids x.capabilities x.now x.input (x.before ports).store =
    .error ⟨.idempotencyConflict, message⟩) ∧
  step ports (x.before ports) x.event = x.before ports

/-- The submissions are for one business event and kind. -/
def SameIntent (x y : Submission events) : Prop :=
  x.input.businessEventId = y.input.businessEventId ∧ x.input.kind = y.input.kind

theorem before_sound (ports : Ports) (x : Submission events) :
    SubmissionsSound ports (x.before ports) :=
  submissionsSound_run ports events x.done ((List.prefix_append _ _).trans x.happens)

variable {submission : NotificationSubmission}

theorem step_store {x : Submission events}
    (h : createDeliveries ports.ids x.capabilities x.now x.input (x.before ports).store =
      .ok (submission, store')) : (step ports (x.before ports) x.event).store = store' := by
  simp only [event, step, h, GatewayState.committed]

/-- A successful submission is recorded from then on. -/
theorem Answers.recorded {x : Submission events}
    (h : x.Answers ports submission) {done : List GatewayEvent} (hafter : x.done ++ [x.event] <+: done)
    (hdone : done <+: events) : Recorded (Run.run (step ports) {} done).store x.input submission := by
  obtain ⟨store', hcreate⟩ := h
  obtain ⟨⟨record, hmem, hrecord⟩, -, -⟩ :=
    createDeliveries_recorded (x.before_sound ports).store hcreate
  have hsteps : Run.AllSteps (step ports) (fun state _ => SubmissionsSound ports state) {} events := by
    rw [Run.allSteps_iff_forall_prefix]
    exact fun done event hpre =>
      submissionsSound_run ports events done ((List.prefix_append _ _).trans hpre)
  obtain ⟨more, rfl⟩ := hafter
  have hkeeps := Run.rel_of_allSteps (fun before after => KeepsRecords before.store after.store)
    (fun _ _ hmem => hmem) (fun _ _ _ h h' record hmem => h' record (h record hmem))
    (fun state event h => (step_submissionsSound h event).2) hsteps _ more hdone
  refine ⟨record, hkeeps record ?_, hrecord⟩
  rw [Run.run_append, Run.run_cons, Run.run_nil, ← before, step_store hcreate]
  exact hmem

/-- The answer of a submission whose intent is recorded. -/
theorem createDeliveries_of_recorded {x y : Submission events}
    (hsame : x.SameIntent y) (h : Recorded (y.before ports).store x.input submission) :
    createDeliveries ports.ids y.capabilities y.now y.input (y.before ports).store =
      if canonicalizeJson x.input.payload.value ≠ canonicalizeJson y.input.payload.value then
        .error ⟨.idempotencyConflict,
          "Business event ID was already used with different contract content"⟩
      else .ok (submission, (y.before ports).store) := by
  obtain ⟨record, hmem, hevent, hkind, hfingerprint, rfl⟩ := h
  have hget : (y.before ports).store.intentSubmissions.get?
      (intentSubmissionKey (y.input.claim y.now).businessEventId (y.input.claim y.now).kind) =
        some record := by
    refine KeyTable.get?_eq_some.2 ⟨hmem, ?_⟩
    exact congrArg₂ intentSubmissionKey (hevent.trans hsame.1) (hkind.trans hsame.2)
  rw [createDeliveries, ImStore.createSubmissionIfAbsent, hget, ← hfingerprint]

/-- A later submission starts with the record of an earlier one. -/
theorem Answers.recorded_before {x y : Submission events}
    (h : x.Answers ports submission) (hlt : x.done.length < y.done.length) :
    Recorded (y.before ports).store x.input submission := by
  have hy : y.done <+: events := (List.prefix_append _ _).trans y.happens
  exact h.recorded (List.prefix_of_prefix_length_le x.happens hy (by simpa using hlt)) hy

theorem eq_of_length_eq {x y : Submission events} (h : x.done.length = y.done.length) :
    x.done = y.done ∧ x.event = y.event := by
  have hpre : x.done ++ [x.event] <+: y.done ++ [y.event] :=
    List.prefix_of_prefix_length_le x.happens y.happens (by simp [h])
  have heq := hpre.eq_of_length (by simp [h])
  obtain ⟨hdone, hevent⟩ := List.append_inj heq h
  exact ⟨hdone, List.singleton_inj.1 hevent⟩

theorem Answers.unique {x y : Submission events} {submission submission' : NotificationSubmission}
    (hsame : x.SameIntent y) (hx : x.Answers ports submission) (hy : y.Answers ports submission') :
    submission = submission' := by
  have hlater : ∀ {x y : Submission events} {submission submission' : NotificationSubmission},
      x.done.length < y.done.length → x.SameIntent y → x.Answers ports submission →
        y.Answers ports submission' → submission = submission' := by
    rintro x y submission submission' hlt hsame hx ⟨store', hcreate⟩
    rw [createDeliveries_of_recorded hsame (hx.recorded_before hlt)] at hcreate
    split at hcreate <;> cases hcreate
    rfl
  rcases lt_trichotomy x.done.length y.done.length with hlt | heq | hgt
  · exact hlater hlt hsame hx hy
  · obtain ⟨store', hcreate⟩ := hx
    obtain ⟨store'', hcreate'⟩ := hy
    obtain ⟨hdone, hevent⟩ := eq_of_length_eq heq
    injection hevent with hcapabilities hnow hinput
    rw [before, hdone, hcapabilities, hnow, hinput, ← before, hcreate'] at hcreate
    cases hcreate
    rfl
  · exact (hlater hgt ⟨hsame.1.symm, hsame.2.symm⟩ hy hx).symm

theorem Answers.conflicts {x y : Submission events}
    (hsame : x.SameIntent y) (hx : x.Answers ports submission) (hlt : x.done.length < y.done.length)
    (hpayload : ¬ x.input.payload.value.Same y.input.payload.value) : y.Conflicts ports := by
  have hcreate := createDeliveries_of_recorded hsame (hx.recorded_before hlt)
  rw [if_pos (mt (canonicalizeJson_eq_iff x.input.payload y.input.payload).1 hpayload)] at hcreate
  refine ⟨⟨_, hcreate⟩, ?_⟩
  simp only [event, step, hcreate, GatewayState.committed]

end Submission

/-- A listed delivery is the only one with its business key, and has one event that requests it. -/
def ListedOnce (store : ImStore) (businessEventId : EventId) (kind : DeliveryKind)
    (submitted : SubmittedDelivery) : Prop :=
  (∃ delivery ∈ store.deliveries.rows, delivery.id = submitted.deliveryId ∧
    ∀ other ∈ store.deliveries.rows,
      other.businessKey = (businessEventId, submitted.bindingId, kind) ↔ other = delivery) ∧
  ∃ event, requestedEvents store submitted.deliveryId = [event]

end VoiceLife.Gateway
