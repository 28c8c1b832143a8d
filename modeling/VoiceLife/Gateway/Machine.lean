import VoiceLife.Lib.Run
import VoiceLife.Gateway.Actions
import VoiceLife.Gateway.Dispatch

/-! # The gateway as a state machine

Every transaction of a service is one step, and calls that take several transactions are kept in the
state between them: dispatches, outbox workers and actions with commands to publish. Steps of different
calls mix in any order. `advance` runs the next transaction of a call, with the answers of the ports in
between; `crash` ends a call anywhere. The log records what reaches the channel and the devices.
-/

namespace VoiceLife.Gateway

/-- The ports that the gateway is built with. -/
structure Ports where
  ids : IdGenerator
  addMinutes : AddMinutes
  /-- `ActionTokenPort.verify`; `none` when it throws. -/
  verify : JsString → Option ActionTokenClaims
  /-- `ActionTokenPort.fingerprint`. -/
  fingerprint : JsString → JsString

/-- The event that a worker processes, and the rest of its batch. -/
structure WorkerTask where
  event : ImOutboxEvent
  rest : List ImOutboxEvent

/-- Where a dispatch stands between its transactions. -/
inductive DispatchPhase where
  /-- The delivery is claimed. -/
  | prepared (target : Delivery) (claimToken : JsString)
  /-- The attempt is stored. -/
  | gated (target : Delivery) (claimToken : JsString) (attempt : DeliveryAttempt)
  /-- The channel has answered. -/
  | sent (target : Delivery) (claimToken : JsString) (attempt : DeliveryAttempt)
      (acceptance : ImSendAcceptance)

/-- A call between two of its transactions. -/
inductive Call where
  | dispatching (owner : Option WorkerTask) (phase : DispatchPhase)
  /-- `process` reads the delivery of its event. -/
  | reading (task : WorkerTask)
  /-- `process` starts a dispatch. -/
  | claiming (task : WorkerTask)
  /-- `deadLetter`; an error only ends the batch outside of the `try` block. -/
  | deadLettering (task : WorkerTask) (insideTry : Bool)
  | publishing (task : WorkerTask)
  | failing (task : WorkerTask)
  /-- `dispatch` of commands, one after the other. -/
  | publishingCommands (commands : List ReminderActionCommand)
  | finished

/-- The state of the gateway. -/
structure GatewayState where
  store : ImStore := {}
  calls : List Call := []
  published : List ReminderActionCommand := []
  sent : List (ℕ × DeliveryAttempt) := []

/-- What the clock and the ports answer during a transaction of a call. -/
structure Answers where
  claimTime : IsoDateTime
  now : IsoDateTime
  /-- The rendered payload; `none` when a step before the send throws. -/
  renderedPayload : Option Json
  acceptance : ImSendAcceptance

/-- A transaction, or the start or end of a call. -/
inductive GatewayEvent where
  /-- Pairing and account management write the directory. -/
  | directory (channelAccounts : KeyTable ChannelAccount) (identities : KeyTable ExternalIdentity)
      (bindings : KeyTable ImBinding)
  | submit (capabilities : CapabilityResolver) (now : IsoDateTime) (input : SubmissionInput)
  | retryDeadLetter (now : IsoDateTime) (deliveryId : DeliveryId)
  | markDeadLetter (now : IsoDateTime) (deliveryId : DeliveryId)
  | recordReceipt (now : IsoDateTime) (receipt : NormalizedDeliveryReceipt)
  | dispatch (claimTime now : IsoDateTime) (deliveryId : DeliveryId)
  | runOnce (now leaseUntil : IsoDateTime) (limit : ℕ)
  | execute (now : IsoDateTime) (token : JsString) (action : ReminderActionKind)
      (params : Option Json) (actualIdentityId : Option ExternalIdentityId)
  | triggerPrepared (now : IsoDateTime) (command : TriggerPreparedActionCommand)
  | recordResult (now : IsoDateTime) (commandId : ActionId) (deviceId : DeviceId)
      (result : ReminderActionResult)
  | recordDeviceActionStatus (now : IsoDateTime) (report : ReminderActionStatusReport)
  | expireDue (now : IsoDateTime)
  | recoverStaleProcessing (now staleBefore : IsoDateTime)
  | markProcessing (now : IsoDateTime) (actionId : ActionId) (deviceId : DeviceId)
      (reminderTriggerId : ReminderTriggerId)
  | replayPending (now : IsoDateTime) (deviceId : DeviceId) (reminderTriggerId : ReminderTriggerId)
  | advance (call : ℕ) (answers : Answers)
  | crash (call : ℕ)

/-- `isConsumed`. -/
def isConsumed (delivery : Delivery) : Bool :=
  delivery.status = .accepted || delivery.status = .delivered || delivery.status = .deadLetter

/-- `runOnce` goes on with the next event of its batch. -/
def nextTask : List ImOutboxEvent → Call
  | [] => .finished
  | event :: rest => .reading ⟨event, rest⟩

/-- The caller of a dispatch goes on with its result. -/
def afterDispatch (owner : Option WorkerTask) (result : Delivery) : Call :=
  match owner with
  | none => .finished
  | some task =>
    match result.status with
    | .sending => nextTask task.rest
    | .permanentFailed => .deadLettering task true
    | _ => .publishing task

/-- The caller of a dispatch goes on after an error. -/
def afterDispatchError (owner : Option WorkerTask) (error : ImGatewayError) : Call :=
  match owner with
  | none => .finished
  | some task => if error.code = .deliveryNotFound then .failing task else nextTask task.rest

/-- The first transaction of a dispatch. -/
def startDispatch (ports : Ports) (owner : Option WorkerTask) (claimTime now : IsoDateTime)
    (deliveryId : DeliveryId) (store : ImStore) : Call × ImStore :=
  match claimTransaction ports.ids claimTime now deliveryId store with
  | .error error => (afterDispatchError owner error, store)
  | .ok (.terminal delivery, store) => (afterDispatch owner delivery, store)
  | .ok (.target delivery _ _, store) =>
    (.dispatching owner (.prepared delivery (delivery.claimToken.getD [])), store)

/-- The next transaction of a dispatch. -/
def advanceDispatch (ports : Ports) (owner : Option WorkerTask) (answers : Answers)
    (store : ImStore) : DispatchPhase → Call × ImStore
  | .prepared target claimToken =>
    match answers.renderedPayload with
    | none =>
      let (result, store) :=
        recordPreSendFailure ports.ids ports.addMinutes answers.now target claimToken store
      (afterDispatch owner result, store)
    | some renderedPayload =>
      match gateTransaction ports.ids answers.now target claimToken renderedPayload store with
      | (.lost delivery, store) => (afterDispatch owner delivery, store)
      | (.owned attempt, store) => (.dispatching owner (.gated target claimToken attempt), store)
  | .gated target claimToken attempt =>
    (.dispatching owner (.sent target claimToken attempt answers.acceptance), store)
  | .sent target claimToken attempt acceptance =>
    let (result, store) := completeTransaction ports.ids ports.addMinutes answers.now target
      claimToken attempt acceptance store
    (afterDispatch owner result, store)

/-- `process`: what to do with an event once its delivery is read. -/
def processEvent (task : WorkerTask) : Option Delivery → Call
  | none => .failing task
  | some delivery =>
    if delivery.status = .permanentFailed then .deadLettering task false
    else if isConsumed delivery then .publishing task
    else .claiming task

/-- `deadLetter` up to the publication. -/
def deadLetterCall (task : WorkerTask) (insideTry : Bool) (now : IsoDateTime) (store : ImStore) :
    Call × ImStore :=
  match markDeadLetter now task.event.aggregateId store with
  | .ok (_, store) => (.publishing task, store)
  | .error error =>
    if insideTry then (afterDispatchError (some task) error, store) else (.finished, store)

/-- The next transaction of a call. -/
def advanceCall (ports : Ports) (answers : Answers) (store : ImStore) : Call → Call × ImStore
  | .dispatching owner phase => advanceDispatch ports owner answers store phase
  | .reading task => (processEvent task (store.deliveries.get? task.event.aggregateId), store)
  | .claiming task =>
    startDispatch ports (some task) answers.claimTime answers.now task.event.aggregateId store
  | .deadLettering task insideTry => deadLetterCall task insideTry answers.now store
  | .publishing task => (nextTask task.rest, store.markPublished task.event.id answers.now)
  | .failing task => (nextTask task.rest, store.markFailed task.event.id)
  | .publishingCommands [] => (.finished, store)
  | .publishingCommands (command :: commands) =>
    (.publishingCommands commands, dispatchTransaction answers.now command store)
  | .finished => (.finished, store)

/-- The command that the next transaction of a call publishes. -/
def publication : Call → List ReminderActionCommand
  | .publishingCommands (command :: _) => [command]
  | _ => []

/-- The attempt that the next step of a call sends. -/
def transmission : Call → List DeliveryAttempt
  | .dispatching _ (.gated _ _ attempt) => [attempt]
  | _ => []

/-- `DefaultActionUiApplication.execute` up to the dispatch. -/
def executeAction (ports : Ports) (now : IsoDateTime) (token : JsString)
    (action : ReminderActionKind) (params : Option Json)
    (actualIdentityId : Option ExternalIdentityId) (store : ImStore) :
    Except ImGatewayError ((ReminderActionCommand × Bool) × ImStore) :=
  match ports.verify token with
  | none => .error ⟨.actionNotFound, "Action token is invalid"⟩
  | some claims =>
    if claims.expiresAt.textLe now then
      .error ⟨.actionExpired, "Action UI token has expired"⟩
    else
      triggerPrepared ports.ids now
        { claims
          actionType := action
          actionKeyHash := ports.fingerprint token
          actualIdentityId
          actionParams := params } store

/-- The state after an action was asked for: its call still has to dispatch a new command. -/
def GatewayState.triggered (state : GatewayState) :
    Except ImGatewayError ((ReminderActionCommand × Bool) × ImStore) → GatewayState
  | .error _ => state
  | .ok ((command, shouldDispatch), store) =>
    if shouldDispatch then
      { state with store, calls := state.calls ++ [.publishingCommands [command]] }
    else { state with store }

/-- The state after a transaction that may fail. -/
def GatewayState.committed {α : Type} (state : GatewayState) :
    Except ImGatewayError (α × ImStore) → GatewayState
  | .error _ => state
  | .ok (_, store) => { state with store }

/-- One step of the gateway. -/
def step (ports : Ports) (state : GatewayState) : GatewayEvent → GatewayState
  | .directory channelAccounts identities bindings =>
    { state with store := { state.store with channelAccounts, identities, bindings } }
  | .submit capabilities now input =>
    state.committed (createDeliveries ports.ids capabilities now input state.store)
  | .retryDeadLetter now deliveryId =>
    state.committed (Gateway.retryDeadLetter ports.ids now deliveryId state.store)
  | .markDeadLetter now deliveryId =>
    state.committed (Gateway.markDeadLetter now deliveryId state.store)
  | .recordReceipt now receipt =>
    match Gateway.recordReceipt ports.ids ports.addMinutes now receipt state.store with
    | .error _ => state
    | .ok store => { state with store }
  | .dispatch claimTime now deliveryId =>
    let (call, store) := startDispatch ports none claimTime now deliveryId state.store
    { state with store, calls := state.calls ++ [call] }
  | .runOnce now leaseUntil limit =>
    let (events, store) := state.store.claimPending now leaseUntil limit
    { state with store, calls := state.calls ++ [nextTask events] }
  | .execute now token action params actualIdentityId =>
    state.triggered (executeAction ports now token action params actualIdentityId state.store)
  | .triggerPrepared now command =>
    state.triggered (Gateway.triggerPrepared ports.ids now command state.store)
  | .recordResult now commandId deviceId result =>
    match Gateway.recordResult now commandId deviceId result state.store with
    | .error _ => state
    | .ok (action, store) =>
      if result.status = .retryableFailed then
        { state with store, calls := state.calls ++ [.publishingCommands [toCommand action]] }
      else { state with store }
  | .recordDeviceActionStatus now report =>
    state.committed (Gateway.recordDeviceActionStatus now report state.store)
  | .expireDue now => { state with store := Gateway.expireDue now state.store }
  | .recoverStaleProcessing now staleBefore =>
    let (commands, store) := Gateway.recoverStaleProcessing now staleBefore state.store
    { state with store, calls := state.calls ++ [.publishingCommands commands] }
  | .markProcessing now actionId deviceId reminderTriggerId =>
    match Gateway.markProcessing now actionId deviceId reminderTriggerId state.store with
    | .error _ => state
    | .ok store => { state with store }
  | .replayPending now deviceId reminderTriggerId =>
    let (commands, store) := Gateway.replayPending now deviceId reminderTriggerId state.store
    { state with store, published := state.published ++ commands }
  | .advance index answers =>
    match state.calls[index]? with
    | none => state
    | some call =>
      let (next, store) := advanceCall ports answers state.store call
      { store
        calls := state.calls.set index next
        published := state.published ++ publication call
        sent := state.sent ++ (transmission call).map fun attempt => (index, attempt) }
  | .crash index => { state with calls := state.calls.set index .finished }

end VoiceLife.Gateway
