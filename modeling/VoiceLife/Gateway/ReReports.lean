import VoiceLife.Gateway.TerminalActions

/-! # Reporting the result of a terminal action again

`recordResult` answers a repeated report from the stored result, and not from the status. The two agree
whenever a report has ended the action; `expireDue` ends an action without writing a result.
-/

namespace VoiceLife.Gateway

variable {ports : Ports} {store store' store'' : ImStore}

/-! ## Results that say what the status says -/

/-- The stored result of an action says what its status says. -/
def ImAction.Reported (action : ImAction) : Prop :=
  ∃ result, action.result = some result ∧ toActionStatus result.status = action.status

/-- Every action in an end state has such a result. -/
def TerminalReported (store : ImStore) : Prop :=
  ∀ action ∈ store.actions.rows, action.status.isTerminal → action.Reported

/-- Rows are only written with a fitting result, or in a state that is no end. -/
def WritesReported (store store' : ImStore) : Prop :=
  ∀ action ∈ store'.actions.rows, action ∈ store.actions.rows ∨
    (action.status.isTerminal → action.Reported)

theorem WritesReported.of_eq (h : store'.actions = store.actions) : WritesReported store store' := by
  intro action hmem
  rw [h] at hmem
  exact Or.inl hmem

theorem WritesReported.refl (store : ImStore) : WritesReported store store :=
  WritesReported.of_eq rfl

theorem WritesReported.trans (h : WritesReported store store') (h' : WritesReported store' store'') :
    WritesReported store store'' := by
  intro action hmem
  rcases h' action hmem with hkept | hwritten
  · exact h action hkept
  · exact Or.inr hwritten

theorem WritesReported.terminalReported (h : WritesReported store store')
    (hreported : TerminalReported store) : TerminalReported store' := by
  intro action hmem
  rcases h action hmem with hkept | hwritten
  · exact hreported action hkept
  · exact hwritten

theorem WritesReported.saveAction {action : ImAction}
    (h : action.status.isTerminal → action.Reported) :
    WritesReported store (store.saveAction action) := by
  intro found hmem
  rcases KeyTable.mem_set.1 hmem with rfl | ⟨hkept, -⟩
  · exact Or.inr h
  · exact Or.inl hkept

theorem WritesReported.setAll_map {p : ImAction → Bool} {change : ImAction → ImAction}
    (hid : ∀ action, (change action).id = action.id)
    (h : ∀ action ∈ store.actions.rows, p action = true → (change action).status.isTerminal →
      (change action).Reported) :
    WritesReported store { store with
      actions := store.actions.setAll ((store.actions.rows.filter p).map change) } := by
  intro found hmem
  obtain ⟨action, hstored, rfl⟩ := (KeyTable.mem_setAll_map hid).1 hmem
  by_cases hp : p action = true
  · rw [if_pos hp]
    exact Or.inr (h action hstored hp)
  · rw [if_neg hp]
    exact Or.inl hstored

theorem WritesReported.createActionIfAbsent {action : ImAction} {answer : ImAction × Bool}
    (h : action.status.isTerminal → action.Reported)
    (hcreate : store.createActionIfAbsent action = (answer, store')) :
    WritesReported store store' := by
  unfold ImStore.createActionIfAbsent at hcreate
  split at hcreate
  · cases hcreate
    exact WritesReported.refl store
  · split at hcreate <;> cases hcreate
    · exact WritesReported.refl store
    · exact WritesReported.saveAction h

/-! ## The transactions -/

variable {now : IsoDateTime}

theorem newAction_reported {operationId : OperationId}
    {command : TriggerPreparedActionCommand} {actionParams : Option Json} {delivery : Delivery}
    {binding : ImBinding} {metadata : StrongReminderMetadata}
    {settled : Option ReminderActionStatusReport}
    (h : (newAction operationId now command actionParams delivery binding metadata
      settled).status.isTerminal) :
    (newAction operationId now command actionParams delivery binding metadata settled).Reported := by
  cases settled with
  | none => cases h
  | some report =>
      by_cases hkind : report.action = command.actionType
      · refine ⟨toReminderActionResult report, ?_, ?_⟩
        · simp only [newAction, newActionResult, Option.map_some, if_pos hkind]
        · simp only [newAction, newActionStatus, if_pos hkind, toReminderActionResult]
      · refine ⟨supersededResult report, ?_, ?_⟩
        · simp only [newAction, newActionResult, Option.map_some, if_neg hkind]
        · simp only [newAction, newActionStatus, if_neg hkind, supersededResult, toActionStatus]

theorem triggerPrepared_writesReported {ids : IdGenerator}
    {command : TriggerPreparedActionCommand} {answer : ReminderActionCommand × Bool}
    (h : triggerPrepared ids now command store = .ok (answer, store')) :
    WritesReported store store' := by
  unfold triggerPrepared at h
  split at h
  · cases h
  unfold triggerTransaction at h
  split at h
  · cases h
  split at h
  · split at h <;> cases h
    exact WritesReported.refl store
  split at h
  · split at h <;> cases h
    exact WritesReported.refl store
  split at h
  · cases h
  dsimp only at h
  -- the generated operation id leaves the actions alone
  have hid : WritesReported store (store.nextId ids).2 := WritesReported.of_eq rfl
  split at h
  · rename_i hcreate
    split at h <;> cases h
    exact hid.trans (WritesReported.createActionIfAbsent newAction_reported hcreate)
  · rename_i hcreate
    cases h
    exact hid.trans (WritesReported.createActionIfAbsent newAction_reported hcreate)

theorem recordResult_writesReported {commandId : ActionId}
    {deviceId : DeviceId} {result : ReminderActionResult} {action : ImAction}
    (h : recordResult now commandId deviceId result store = .ok (action, store')) :
    WritesReported store store' := by
  unfold recordResult at h
  split at h
  · cases h
  split at h
  · cases h
  split at h
  · cases h
  split at h
  · split at h <;> cases h
    exact WritesReported.refl store
  · cases h
    exact WritesReported.saveAction fun _ => ⟨result, rfl, rfl⟩

theorem settledAction_reported (report : ReminderActionStatusReport) (now : IsoDateTime)
    (action : ImAction) : (settledAction report now action).Reported := by
  by_cases hkind : action.actionType = report.action
  · refine ⟨toReminderActionResult report, ?_, ?_⟩
    · simp only [settledAction, if_pos hkind]
    · simp only [settledAction, if_pos hkind, toReminderActionResult]
  · refine ⟨supersededResult report, ?_, ?_⟩
    · simp only [settledAction, if_neg hkind]
    · simp only [settledAction, if_neg hkind, supersededResult, toActionStatus]

theorem settleActions_writesReported (report : ReminderActionStatusReport) (now : IsoDateTime)
    (store : ImStore) : WritesReported store (settleActions report now store).2 := by
  unfold settleActions
  split
  · exact WritesReported.refl store
  · split
    · exact WritesReported.refl store
    · refine WritesReported.setAll_map (fun action => (settledAction_same report now action).id_eq) ?_
      exact fun action _ _ _ => settledAction_reported report now action

theorem storeFact_actions {report : ReminderActionStatusReport}
    (h : storeFact report now store = .ok store') : store'.actions = store.actions := by
  unfold storeFact at h
  split at h
  · cases h
    rfl
  · dsimp only at h
    unfold ImStore.createFactIfAbsent at h
    split at h
    · rename_i hcreate
      cases h
      split at hcreate
      · cases hcreate
      · split at hcreate <;> cases hcreate
        rfl
    · rename_i hcreate
      split at h
      · cases h
        split at hcreate
        · cases hcreate
          rfl
        · split at hcreate <;> cases hcreate
          rfl
      · split at h <;> cases h

theorem recordDeviceActionStatus_writesReported
    {report : ReminderActionStatusReport} {answer : Option ImAction}
    (h : recordDeviceActionStatus now report store = .ok (answer, store')) :
    WritesReported store store' := by
  have htransaction : ∀ answer, reportTransaction now report store = .ok (answer, store') →
      WritesReported store store' := by
    intro answer h
    unfold reportTransaction at h
    split at h
    · cases h
    split at h
    · cases h
    · rename_i middle hfact
      have hsettle : (settleActions report now middle).2 = store' :=
        congrArg Prod.snd (Except.ok.inj h)
      rw [← hsettle]
      exact (WritesReported.of_eq (storeFact_actions hfact)).trans
        (settleActions_writesReported report now middle)
  unfold recordDeviceActionStatus at h
  split at h
  · cases h
  split at h
  · exact htransaction _ h
  split at h
  · cases h
  split at h
  · exact htransaction _ h
  split at h
  · cases h
    exact WritesReported.refl store
  · exact htransaction _ h

theorem recoverStaleProcessing_writesReported (now staleBefore : IsoDateTime) (store : ImStore) :
    WritesReported store (recoverStaleProcessing now staleBefore store).2 := by
  refine WritesReported.setAll_map ?_ ?_
  · exact fun action => rfl
  · intro action _ _ hterminal
    cases hterminal

theorem markProcessing_writesReported {actionId : ActionId}
    {deviceId : DeviceId} {reminderTriggerId : ReminderTriggerId}
    (h : markProcessing now actionId deviceId reminderTriggerId store = .ok store') :
    WritesReported store store' := by
  unfold markProcessing at h
  dsimp only at h
  split at h
  · cases h
  split at h
  · cases h
  split at h <;> cases h
  · exact WritesReported.refl store
  · apply WritesReported.saveAction
    intro hterminal
    cases hterminal

theorem replayPending_writesReported (now : IsoDateTime) (deviceId : DeviceId)
    (reminderTriggerId : ReminderTriggerId) (store : ImStore) :
    WritesReported store (replayPending now deviceId reminderTriggerId store).2 := by
  unfold replayPending ImStore.findPendingByDeviceAndTrigger
  dsimp only
  rw [List.filter_filter]
  refine WritesReported.setAll_map ?_ ?_
  · exact fun action => rfl
  · intro action _ _ hterminal
    cases hterminal

theorem dispatchTransaction_writesReported (now : IsoDateTime) (command : ReminderActionCommand)
    (store : ImStore) : WritesReported store (dispatchTransaction now command store) := by
  unfold dispatchTransaction
  split
  · exact WritesReported.refl store
  · split
    · exact WritesReported.refl store
    · apply WritesReported.saveAction
      intro hterminal
      cases hterminal

/-! ## Steps -/

theorem WritesReported.of_sameActions (h : SameActions store store') : WritesReported store store' :=
  WritesReported.of_eq h.actions

theorem WritesReported.committed {α : Type} {state : GatewayState}
    {result : Except ImGatewayError (α × ImStore)}
    (h : ∀ answer store', result = .ok (answer, store') → WritesReported state.store store') :
    WritesReported state.store (state.committed result).store := by
  unfold GatewayState.committed
  split
  · exact WritesReported.refl state.store
  · exact h _ _ rfl

theorem WritesReported.triggered {state : GatewayState}
    {result : Except ImGatewayError ((ReminderActionCommand × Bool) × ImStore)}
    (h : ∀ answer store', result = .ok (answer, store') → WritesReported state.store store') :
    WritesReported state.store (state.triggered result).store := by
  unfold GatewayState.triggered
  split
  · exact WritesReported.refl state.store
  · split <;> exact h _ _ rfl

theorem advanceCall_writesReported (answers : Answers) (call : Call) :
    WritesReported store (advanceCall ports answers store call).2 := by
  cases call with
  | publishingCommands commands =>
      cases commands with
      | nil => exact WritesReported.refl store
      | cons command rest => exact dispatchTransaction_writesReported answers.now command store
  | dispatching owner phase =>
      exact .of_sameActions (advanceDispatch_untouched ports owner answers store phase).toSameActions
  | reading task => exact WritesReported.refl store
  | claiming task =>
      exact .of_sameActions (startDispatch_untouched ports _ _ _ _ store).toSameActions
  | deadLettering task insideTry =>
      dsimp only [advanceCall, deadLetterCall]
      split
      · rename_i hmark
        obtain ⟨delivery, hwrites, -⟩ := markDeadLetter_writes ports.ids hmark
        exact .of_sameActions hwrites.toFrame.untouched.toSameActions
      · split <;> exact WritesReported.refl store
  | publishing task => exact .of_sameActions (markPublished_untouched _ _ store).toSameActions
  | failing task => exact .of_sameActions (markFailed_untouched _ store).toSameActions
  | finished => exact WritesReported.refl store

/-- The expiry of actions whose stored result is not an expiry. -/
def expiresUnreported (state : GatewayState) : GatewayEvent → Bool
  | .expireDue now => (state.store.findExpiredActions now).any fun action =>
      action.result.map ReminderActionResult.status ≠ some .expired
  | _ => false

theorem step_writesReported (ports : Ports) (state : GatewayState) {event : GatewayEvent}
    (hevent : expiresUnreported state event = false) :
    WritesReported state.store (step ports state event).store := by
  cases event with
  | directory channelAccounts identities bindings => exact WritesReported.of_eq rfl
  | submit capabilities now input =>
      exact .committed fun _ _ h => .of_sameActions (createDeliveries_sameActions h)
  | retryDeadLetter now deliveryId =>
      refine .committed fun _ _ h => ?_
      obtain ⟨delivery, event, hwrites, -⟩ := retryDeadLetter_writes h
      exact .of_sameActions hwrites.toFrame.untouched.toSameActions
  | markDeadLetter now deliveryId =>
      refine .committed fun _ _ h => ?_
      obtain ⟨delivery, hwrites, -⟩ := markDeadLetter_writes ports.ids h
      exact .of_sameActions hwrites.toFrame.untouched.toSameActions
  | recordReceipt now receipt =>
      dsimp only [step]
      split
      · exact WritesReported.refl state.store
      · rename_i hreceipt
        exact .of_sameActions (recordReceipt_untouched hreceipt).toSameActions
  | dispatch claimTime now deliveryId =>
      exact .of_sameActions
        (startDispatch_untouched ports none claimTime now deliveryId state.store).toSameActions
  | runOnce now leaseUntil limit =>
      exact .of_sameActions (claimPending_untouched now leaseUntil limit state.store).toSameActions
  | execute now token action params actualIdentityId =>
      refine .triggered fun answer store' h => ?_
      obtain ⟨claims, -, htrigger⟩ := executeAction_ok h
      exact triggerPrepared_writesReported htrigger
  | triggerPrepared now command => exact .triggered fun _ _ => triggerPrepared_writesReported
  | recordResult now commandId deviceId result =>
      dsimp only [step]
      split
      · exact WritesReported.refl state.store
      · rename_i hresult
        split <;> exact recordResult_writesReported hresult
  | recordDeviceActionStatus now report =>
      exact .committed fun _ _ => recordDeviceActionStatus_writesReported
  | expireDue now =>
      refine WritesReported.setAll_map (fun action => ?_) fun action hmem hdue _ => ?_
      · rfl
      -- an action that expires here has the result of an earlier expiry
      · have hresult := List.any_eq_false.1 hevent action (List.mem_filter.2 ⟨hmem, hdue⟩)
        rw [decide_eq_true_eq, not_not, Option.map_eq_some_iff] at hresult
        obtain ⟨result, hresult, hexpired⟩ := hresult
        exact ⟨result, hresult, by rw [hexpired]; rfl⟩
  | recoverStaleProcessing now staleBefore =>
      exact recoverStaleProcessing_writesReported now staleBefore state.store
  | markProcessing now actionId deviceId reminderTriggerId =>
      dsimp only [step]
      split
      · exact WritesReported.refl state.store
      · rename_i hmark
        exact markProcessing_writesReported hmark
  | replayPending now deviceId reminderTriggerId =>
      exact replayPending_writesReported now deviceId reminderTriggerId state.store
  | advance index answers =>
      dsimp only [step]
      split
      · exact WritesReported.refl state.store
      · exact advanceCall_writesReported answers _
  | crash index => exact WritesReported.refl state.store

/-- The expiry of an action without such a result leaves an action that says nothing of it. -/
theorem expireDue_unreported {state : GatewayState} {event : GatewayEvent}
    (h : expiresUnreported state event = true) :
    ¬ TerminalReported (step ports state event).store := by
  intro hreported
  cases event with
  | expireDue now =>
      obtain ⟨action, hdue, hresult⟩ := List.any_eq_true.1 h
      obtain ⟨hmem, hopen⟩ := List.mem_filter.1 hdue
      rw [decide_eq_true_eq] at hresult
      have hexpired : { action with status := .expired, updatedAt := now } ∈
          (expireDue now state.store).actions.rows := by
        refine (KeyTable.mem_setAll_map (fun action => ?_)).2 ⟨action, hmem, (if_pos hopen).symm⟩
        rfl
      obtain ⟨result, hstored, hstatus⟩ := hreported _ hexpired rfl
      apply hresult
      rw [show action.result = some result from hstored, Option.map_some]
      cases hkind : result.status with
      | expired => rfl
      | _ =>
          rw [hkind] at hstatus
          cases hstatus
  | _ => cases h

theorem terminalReported_step_iff (ports : Ports) {state : GatewayState} {event : GatewayEvent}
    (hreported : TerminalReported state.store) :
    TerminalReported (step ports state event).store ↔ expiresUnreported state event = false := by
  constructor
  · intro hnext
    rw [← Bool.not_eq_true]
    exact fun h => expireDue_unreported h hnext
  · intro h
    exact (step_writesReported ports state h).terminalReported hreported

/-! ## The repeated report -/

/-- Every fitting report with the status of the action is answered with the action and changes
nothing. -/
def AcceptsReReports (ports : Ports) (state : GatewayState) (action : ImAction) : Prop :=
  ∀ now (result : ReminderActionResult), toActionStatus result.status = action.status →
    result.operationId = action.operationId → result.reminderTriggerId = action.reminderTriggerId →
    nextTriggerMatches result.status action.actionType result.nextTriggerAt = true →
    recordResult now action.id action.deviceId result state.store = .ok (action, state.store) ∧
      step ports state (.recordResult now action.id action.deviceId result) = state

/-- A fitting report of a terminal action is settled by the status of the stored result alone. -/
theorem recordResult_terminal {action : ImAction} {result : ReminderActionResult}
    (hmem : action ∈ store.actions.rows) (hterminal : action.status.isTerminal)
    (hoperation : result.operationId = action.operationId)
    (htrigger : result.reminderTriggerId = action.reminderTriggerId)
    (hnext : nextTriggerMatches result.status action.actionType result.nextTriggerAt = true) :
    recordResult now action.id action.deviceId result store =
      if action.result.map ReminderActionResult.status = some result.status then .ok (action, store)
      else .error ⟨.invalidTransition, "A terminal Action result cannot be overwritten"⟩ := by
  have hget : store.actions.get? action.id = some action := KeyTable.get?_key hmem
  have hscope : ¬ (action.operationId ≠ result.operationId ∨ action.deviceId ≠ action.deviceId ∨
      action.reminderTriggerId ≠ result.reminderTriggerId) := by
    rw [hoperation, htrigger]
    simp
  have hmatches : ¬ (!nextTriggerMatches result.status action.actionType result.nextTriggerAt) := by
    rw [hnext]
    simp
  unfold recordResult
  rw [hget]
  dsimp only
  rw [if_neg hscope, if_neg hmatches, if_pos hterminal]

theorem toActionStatus_injective {status status' : ReminderActionExecutionStatus}
    (h : toActionStatus status = toActionStatus status') : status = status' := by
  cases status <;> cases status' <;> first | rfl | cases h

/-- The report of an end state, with a next trigger where one is due. -/
def reReport (action : ImAction) (status : ReminderActionExecutionStatus) : ReminderActionResult where
  operationId := action.operationId
  reminderTriggerId := action.reminderTriggerId
  status := status
  nextTriggerAt :=
    match action.actionType with
    | .snooze => some action.createdAt
    | .acknowledge => none
  errorCode := none
  details := none
  occurredAt := action.createdAt

theorem reReport_matches (action : ImAction) (status : ReminderActionExecutionStatus) :
    nextTriggerMatches status action.actionType (reReport action status).nextTriggerAt = true := by
  unfold reReport
  cases hkind : action.actionType <;> cases status <;> rfl

theorem exists_executionStatus {status : ActionStatus} (h : status.isTerminal) :
    ∃ executionStatus, toActionStatus executionStatus = status := by
  cases status with
  | succeeded => exact ⟨.succeeded, rfl⟩
  | failed => exact ⟨.failed, rfl⟩
  | expired => exact ⟨.expired, rfl⟩
  | _ => cases h

theorem acceptsReReports_iff {state : GatewayState} {action : ImAction}
    (hmem : action ∈ state.store.actions.rows) (hterminal : action.status.isTerminal) :
    AcceptsReReports ports state action ↔ action.Reported := by
  constructor
  · intro haccepts
    obtain ⟨status, hstatus⟩ := exists_executionStatus hterminal
    have hanswer := (haccepts action.createdAt (reReport action status) hstatus rfl rfl
      (reReport_matches action status)).1
    rw [recordResult_terminal hmem hterminal rfl rfl (reReport_matches action status)] at hanswer
    split at hanswer
    · rename_i hresult
      obtain ⟨result, hresult, hsame⟩ := Option.map_eq_some_iff.1 hresult
      exact ⟨result, hresult, by rw [hsame]; exact hstatus⟩
    · cases hanswer
  · rintro ⟨stored, hstored, hsame⟩ now result hstatus hoperation htrigger hnext
    have hequal : stored.status = result.status := toActionStatus_injective (hsame.trans hstatus.symm)
    have hanswer : recordResult now action.id action.deviceId result state.store =
        .ok (action, state.store) := by
      rw [recordResult_terminal hmem hterminal hoperation htrigger hnext, hstored, Option.map_some,
        hequal, if_pos rfl]
    have hretry : result.status ≠ .retryableFailed := by
      intro hretry
      rw [hretry] at hstatus
      rw [← hstatus] at hterminal
      cases hterminal
    refine ⟨hanswer, ?_⟩
    simp only [step, hanswer, if_neg hretry]

/-- Reports of terminal actions can be repeated throughout a run exactly if no action expires without
the result of an expiry. -/
theorem re_reports_accepted_iff (ports : Ports) (events : List GatewayEvent) :
    Run.AllStates (step ports) (fun state => ∀ action ∈ state.store.actions.rows,
      action.status.isTerminal → AcceptsReReports ports state action) {} events ↔
    Run.AllSteps (step ports) (fun state event => expiresUnreported state event = false) {}
      events := by
  have hstates : ∀ state : GatewayState, (∀ action ∈ state.store.actions.rows,
      action.status.isTerminal → AcceptsReReports ports state action) ↔
      TerminalReported state.store := by
    intro state
    refine forall_congr' fun action => forall_congr' fun hmem => forall_congr' fun hterminal => ?_
    exact acceptsReReports_iff hmem hterminal
  have hinit : TerminalReported ({} : GatewayState).store := by
    intro action hmem
    cases hmem
  simp only [hstates]
  exact Run.allStates_iff_allSteps (fun state event => terminalReported_step_iff ports) hinit

/-! ## An action that expires while the device is away -/

/-- The reminder is acknowledged in the channel, its command is dispatched, and its window ends. -/
def expiredRun : List GatewayEvent :=
  [sampleDirectory, sampleSubmission, .dispatch sampleTime sampleTime (unaryIds.nth 0),
    .advance 0 acceptingAnswers, .advance 0 acceptingAnswers, .advance 0 acceptingAnswers,
    .triggerPrepared sampleTime sampleCommand, .advance 1 acceptingAnswers, .expireDue sampleExpiry]

/-- The device reports the expiry of such an action, and is refused. -/
theorem expiry_report_refused : ¬ ∀ (ports : Ports) (events : List GatewayEvent),
    ∀ action ∈ (Run.run (step ports) {} events).store.actions.rows, action.status.isTerminal →
      AcceptsReReports ports (Run.run (step ports) {} events) action := by
  intro h
  have hactions : (Run.run (step samplePorts) {} expiredRun).store.actions.rows.map
      (fun action => (action.status, action.result.isNone)) = [(.expired, true)] := by
    decide +kernel
  have hlisted : (ActionStatus.expired, true) ∈ (Run.run (step samplePorts) {}
      expiredRun).store.actions.rows.map (fun action => (action.status, action.result.isNone)) := by
    rw [hactions]
    exact List.mem_singleton_self _
  obtain ⟨action, hmem, heq⟩ := List.mem_map.1 hlisted
  obtain ⟨hstatus, hresult⟩ := Prod.mk.inj heq
  have hterminal : action.status.isTerminal := by
    rw [hstatus]
    rfl
  obtain ⟨result, hstored, -⟩ :=
    (acceptsReReports_iff hmem hterminal).1 (h samplePorts expiredRun action hmem hterminal)
  rw [hstored] at hresult
  cases hresult

end VoiceLife.Gateway
