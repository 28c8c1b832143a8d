import VoiceLife.Gateway.Effects

/-! # What a step does to actions and facts

Deliveries leave actions and facts alone. Every other step moves open actions on, creates an action, stores
a fact, or is the internal dispatch of a command.
-/

namespace VoiceLife.Gateway

variable {ports : Ports} {ids : IdGenerator} {store store' store'' : ImStore}

/-- Actions and facts are untouched. -/
structure SameActions (store store' : ImStore) : Prop where
  actions : store'.actions = store.actions
  facts : store'.reminderActionFacts = store.reminderActionFacts

theorem SameActions.refl (store : ImStore) : SameActions store store :=
  ⟨rfl, rfl⟩

/-- Neither actions, nor facts, nor records of submissions are touched. -/
structure Untouched (store store' : ImStore) : Prop extends SameActions store store' where
  intentSubmissions : store'.intentSubmissions = store.intentSubmissions

theorem Untouched.refl (store : ImStore) : Untouched store store :=
  ⟨SameActions.refl store, rfl⟩

theorem Untouched.trans (h : Untouched store store') (h' : Untouched store' store'') :
    Untouched store store'' :=
  ⟨⟨h'.actions.trans h.actions, h'.facts.trans h.facts⟩,
    h'.intentSubmissions.trans h.intentSubmissions⟩

theorem Frame.untouched (h : Frame store store') : Untouched store store' :=
  ⟨⟨h.actions, h.facts⟩, h.intentSubmissions⟩

/-! ## Deliveries -/

theorem createDeliveryLoop_untouched {capabilities : CapabilityResolver} {now : IsoDateTime}
    {input : SubmissionInput} {bindings : List ImBinding} {listed : List SubmittedDelivery}
    (h : createDeliveryLoop ids capabilities now input store bindings = .ok (listed, store')) :
    Untouched store store' := by
  induction bindings generalizing store listed with
  | nil =>
      cases h
      exact Untouched.refl _
  | cons binding bindings ih =>
      rw [createDeliveryLoop] at h
      split at h
      · cases h
      · rename_i result middle hcreate
        split at h <;> cases h
        rename_i hloop
        rcases createDelivery_cases hcreate with ⟨rfl, -⟩ | ⟨delivery, event, hcreates, -⟩
        · exact ih hloop
        · exact hcreates.toFrame.untouched.trans (ih hloop)

theorem createDeliveries_sameActions {capabilities : CapabilityResolver} {now : IsoDateTime}
    {input : SubmissionInput} {submission : NotificationSubmission}
    (h : createDeliveries ids capabilities now input store = .ok (submission, store')) :
    SameActions store store' := by
  rcases createDeliveries_cases h with ⟨record, -, -, -, rfl⟩ | ⟨-, listed, middle, hloop, -, rfl⟩
  · exact SameActions.refl store'
  · have hreserved := createDeliveryLoop_untouched hloop
    exact ⟨hreserved.actions, hreserved.facts⟩

theorem recordReceipt_untouched {addMinutes : AddMinutes} {now : IsoDateTime}
    {receipt : NormalizedDeliveryReceipt}
    (h : recordReceipt ids addMinutes now receipt store = .ok store') :
    Untouched store store' := by
  rcases recordReceipt_cases h with hidle | ⟨delivery, delivery', appended, hwrites, -⟩
  · exact hidle.toFrame.untouched
  · exact hwrites.toFrame.untouched

theorem saveIfClaimed_untouched {delivery : Delivery} {claimToken : JsString}
    (h : store.saveIfClaimed delivery claimToken = some store') : Untouched store store' := by
  rw [(saveIfClaimed_eq_some.1 h).1]
  exact ⟨⟨rfl, rfl⟩, rfl⟩

theorem startDispatch_untouched (ports : Ports) (owner : Option WorkerTask)
    (claimTime now : IsoDateTime) (deliveryId : DeliveryId) (store : ImStore) :
    Untouched store (startDispatch ports owner claimTime now deliveryId store).2 := by
  generalize hstart : startDispatch ports owner claimTime now deliveryId store = result
  rcases startDispatch_cases hstart with ⟨error, -, hstore, -⟩ |
    ⟨delivery, result, attempt, -, hwrites, -⟩ | ⟨delivery, target, -, hwrites, -⟩
  · rw [hstore]
    exact Untouched.refl store
  · exact hwrites.toFrame.untouched
  · exact hwrites.toFrame.untouched

theorem gateTransaction_untouched (ids : IdGenerator) (now : IsoDateTime) (target : Delivery)
    (claimToken : JsString) (renderedPayload : Json) (store : ImStore) :
    Untouched store (gateTransaction ids now target claimToken renderedPayload store).2 := by
  unfold gateTransaction
  split
  · exact Untouched.refl store
  · rename_i hsave
    exact (saveIfClaimed_untouched hsave).trans ⟨⟨rfl, rfl⟩, rfl⟩

theorem advanceDispatch_untouched (ports : Ports) (owner : Option WorkerTask) (answers : Answers)
    (store : ImStore) (phase : DispatchPhase) :
    Untouched store (advanceDispatch ports owner answers store phase).2 := by
  cases phase with
  | prepared target claimToken =>
      dsimp only [advanceDispatch]
      split
      · dsimp only [recordPreSendFailure]
        split
        · exact Untouched.refl store
        · rename_i hsave
          have hsaved := saveIfClaimed_untouched hsave
          split <;> exact hsaved.trans ⟨⟨rfl, rfl⟩, rfl⟩
      · rename_i renderedPayload _
        have hgate := gateTransaction_untouched ports.ids answers.now target claimToken
          renderedPayload store
        split
        · rename_i hlost
          rw [hlost] at hgate
          exact hgate
        · rename_i howned
          rw [howned] at hgate
          exact hgate
  | gated target claimToken attempt => exact Untouched.refl store
  | sent target claimToken attempt acceptance =>
      dsimp only [advanceDispatch, completeTransaction]
      split
      · exact Untouched.refl store
      · rename_i hsave
        have hsaved := saveIfClaimed_untouched hsave
        split <;> exact hsaved.trans ⟨⟨rfl, rfl⟩, rfl⟩

theorem claimPending_untouched (now leaseUntil : IsoDateTime) (limit : ℕ) (store : ImStore) :
    Untouched store (store.claimPending now leaseUntil limit).2 := by
  have hfold : ∀ (claimed : List ImOutboxEvent) (before : ImStore),
      Untouched before (claimed.foldl ImStore.replaceOutbox before) := by
    intro claimed
    induction claimed with
    | nil => exact Untouched.refl
    | cons event claimed ih =>
        intro before
        have hreplace : Untouched before (before.replaceOutbox event) := ⟨⟨rfl, rfl⟩, rfl⟩
        exact hreplace.trans (ih _)
  exact hfold _ store

theorem markPublished_untouched (eventId : OutboxEventId) (publishedAt : IsoDateTime)
    (store : ImStore) : Untouched store (store.markPublished eventId publishedAt) := by
  unfold ImStore.markPublished
  split <;> exact ⟨⟨rfl, rfl⟩, rfl⟩

theorem markFailed_untouched (eventId : OutboxEventId) (store : ImStore) :
    Untouched store (store.markFailed eventId) := by
  unfold ImStore.markFailed
  split <;> exact ⟨⟨rfl, rfl⟩, rfl⟩

/-! ## Steps -/

/-- What a step does to actions and facts. -/
inductive ActionEffect (publishing : ReminderActionCommand → Prop) (store store' : ImStore) : Prop where
  | same (h : SameActions store store')
  | changes (h : ChangesOpen store store')
  | creates {command : TriggerPreparedActionCommand} {action : ImAction}
      (h : CreatesAction store store' command action)
  | reports {middle : ImStore} {fact : DeviceReminderActionFact}
      (hfact : StoresFact store middle fact) (h : ChangesOpen middle store')
  | dispatches {now : IsoDateTime} {command : ReminderActionCommand} (hcommand : publishing command)
      (hstore : store' = dispatchTransaction now command store)

variable {publishing : ReminderActionCommand → Prop} {state : GatewayState}

theorem ActionEffect.refl (store : ImStore) : ActionEffect publishing store store :=
  .same (SameActions.refl store)

theorem ActionEffect.triggered
    {result : Except ImGatewayError ((ReminderActionCommand × Bool) × ImStore)}
    (h : ∀ answer store', result = .ok (answer, store') →
      ActionEffect publishing state.store store') :
    ActionEffect publishing state.store (state.triggered result).store := by
  unfold GatewayState.triggered
  split
  · exact ActionEffect.refl state.store
  · split <;> exact h _ _ rfl

theorem ActionEffect.committed {α : Type} {result : Except ImGatewayError (α × ImStore)}
    (h : ∀ answer store', result = .ok (answer, store') →
      ActionEffect publishing state.store store') :
    ActionEffect publishing state.store (state.committed result).store := by
  unfold GatewayState.committed
  split
  · exact ActionEffect.refl state.store
  · exact h _ _ rfl

theorem triggerPrepared_effect {now : IsoDateTime} {command : TriggerPreparedActionCommand}
    {answer : ReminderActionCommand × Bool}
    (h : triggerPrepared ids now command store = .ok (answer, store')) :
    ActionEffect publishing store store' := by
  rcases triggerPrepared_cases h with ⟨rfl, -⟩ | ⟨action, hcreates, -⟩
  · exact ActionEffect.refl store'
  · exact .creates hcreates

/-- `execute` triggers the command of a token that has not expired. -/
theorem executeAction_ok {now : IsoDateTime} {token : JsString} {action : ReminderActionKind}
    {params : Option Json} {actualIdentityId : Option ExternalIdentityId}
    {result : (ReminderActionCommand × Bool) × ImStore}
    (h : executeAction ports now token action params actualIdentityId store = .ok result) :
    ∃ claims, ports.verify token = some claims ∧ triggerPrepared ports.ids now
      ⟨claims, action, ports.fingerprint token, actualIdentityId, params⟩ store = .ok result := by
  unfold executeAction at h
  split at h
  · cases h
  · rename_i claims hverify
    split at h
    · cases h
    · exact ⟨claims, hverify, h⟩

/-- The command that the next step of a call dispatches. -/
def dispatchesCommand (state : GatewayState) : GatewayEvent → Option ReminderActionCommand
  | .advance index _ =>
    match state.calls[index]? with
    | some (.publishingCommands (command :: _)) => some command
    | _ => none
  | _ => none

theorem advanceCall_effect {answers : Answers} {call : Call} :
    ActionEffect (fun command => ∃ rest, call = .publishingCommands (command :: rest)) store
      (advanceCall ports answers store call).2 := by
  cases call with
  | dispatching owner phase => exact .same (advanceDispatch_untouched ports owner answers store phase).toSameActions
  | reading task => exact ActionEffect.refl store
  | claiming task => exact .same (startDispatch_untouched ports _ _ _ _ store).toSameActions
  | deadLettering task insideTry =>
      dsimp only [advanceCall, deadLetterCall]
      split
      · rename_i hmark
        obtain ⟨delivery, hwrites, -⟩ := markDeadLetter_writes ports.ids hmark
        exact .same hwrites.toFrame.untouched.toSameActions
      · split <;> exact ActionEffect.refl store
  | publishing task => exact .same (markPublished_untouched _ _ store).toSameActions
  | failing task => exact .same (markFailed_untouched _ store).toSameActions
  | publishingCommands commands =>
      cases commands with
      | nil => exact ActionEffect.refl store
      | cons command rest => exact .dispatches ⟨rest, rfl⟩ rfl
  | finished => exact ActionEffect.refl store

theorem step_actionEffect (ports : Ports) (state : GatewayState) (event : GatewayEvent) :
    ActionEffect (fun command => dispatchesCommand state event = some command) state.store
      (step ports state event).store := by
  cases event with
  | directory channelAccounts identities bindings => exact .same ⟨rfl, rfl⟩
  | submit capabilities now input =>
      exact .committed fun _ _ h => .same (createDeliveries_sameActions h)
  | retryDeadLetter now deliveryId =>
      refine .committed fun _ _ h => ?_
      obtain ⟨delivery, event, hwrites, -⟩ := retryDeadLetter_writes h
      exact .same hwrites.toFrame.untouched.toSameActions
  | markDeadLetter now deliveryId =>
      refine .committed fun _ _ h => ?_
      obtain ⟨delivery, hwrites, -⟩ := markDeadLetter_writes ports.ids h
      exact .same hwrites.toFrame.untouched.toSameActions
  | recordReceipt now receipt =>
      dsimp only [step]
      split
      · exact ActionEffect.refl state.store
      · rename_i hreceipt
        exact .same (recordReceipt_untouched hreceipt).toSameActions
  | dispatch claimTime now deliveryId =>
      exact .same (startDispatch_untouched ports none claimTime now deliveryId state.store).toSameActions
  | runOnce now leaseUntil limit =>
      exact .same (claimPending_untouched now leaseUntil limit state.store).toSameActions
  | execute now token action params actualIdentityId =>
      refine .triggered fun answer store' h => ?_
      obtain ⟨claims, -, htrigger⟩ := executeAction_ok h
      exact triggerPrepared_effect htrigger
  | triggerPrepared now command => exact .triggered fun _ _ => triggerPrepared_effect
  | recordResult now commandId deviceId result =>
      dsimp only [step]
      split
      · exact ActionEffect.refl state.store
      · rename_i hresult
        split <;> exact .changes (recordResult_cases hresult).1
  | recordDeviceActionStatus now report =>
      refine .committed fun _ _ h => ?_
      obtain ⟨middle, hchanges, ⟨rfl, -⟩ | hstores⟩ := recordDeviceActionStatus_cases h
      · exact .changes hchanges
      · exact .reports hstores hchanges
  | expireDue now => exact .changes (expireDue_changesOpen now state.store)
  | recoverStaleProcessing now staleBefore =>
      exact .changes (recoverStaleProcessing_changesOpen now staleBefore state.store)
  | markProcessing now actionId deviceId reminderTriggerId =>
      dsimp only [step]
      split
      · exact ActionEffect.refl state.store
      · rename_i hmark
        exact .changes (markProcessing_changesOpen hmark)
  | replayPending now deviceId reminderTriggerId =>
      exact .changes (replayPending_changesOpen now deviceId reminderTriggerId state.store)
  | advance index answers =>
      dsimp only [step]
      split
      · exact ActionEffect.refl state.store
      · rename_i call hget
        have heffect : ActionEffect _ state.store (advanceCall ports answers state.store call).2 :=
          advanceCall_effect
        cases heffect with
        | same h => exact .same h
        | changes h => exact .changes h
        | creates h => exact .creates h
        | reports hfact h => exact .reports hfact h
        | dispatches hcommand hstore =>
            obtain ⟨rest, rfl⟩ := hcommand
            refine .dispatches ?_ hstore
            simp only [dispatchesCommand, hget]
  | crash index => exact ActionEffect.refl state.store

end VoiceLife.Gateway
