import VoiceLife.Gateway.Notification

/-! # `DefaultDeliveryDispatchApplication` and `DefaultReceiptApplication`

A dispatch runs several transactions. Each is a function of the store here: the claim, the gate before
the send, the record of a failure before the send and the completion after it. What the ports answer
between them is an argument.
-/

namespace VoiceLife.Gateway

/-- `MAX_AUTOMATIC_DELIVERY_ATTEMPTS`. -/
def maxAutomaticDeliveryAttempts : ℕ := 5

/-- `MAX_DELIVERY_RETRY_DELAY_MINUTES`. -/
def maxDeliveryRetryDelayMinutes : ℕ := 30

/-- `DISPATCH_CLAIM_LEASE_SECONDS`. -/
def dispatchClaimLeaseSeconds : ℤ := 60

/-- `deliveryRetryDelayMinutes`. -/
def deliveryRetryDelayMinutes (attemptNo : ℕ) : ℕ :=
  min maxDeliveryRetryDelayMinutes (2 ^ (attemptNo - 1))

/-- `Clock.addMinutes`. -/
abbrev AddMinutes := IsoDateTime → ℕ → IsoDateTime

/-- The event of an automatic retry after an attempt. -/
def retryScheduledEvent (addMinutes : AddMinutes) (eventId : OutboxEventId)
    (deliveryId : DeliveryId) (attemptNo : ℕ) (now : IsoDateTime) : ImOutboxEvent where
  id := eventId
  eventType := .retryScheduled
  aggregateId := deliveryId
  status := .pending
  attempts := attemptNo
  availableAt := addMinutes now (deliveryRetryDelayMinutes attemptNo)
  createdAt := now

/-- Append the event of an automatic retry. -/
def ImStore.scheduleRetry (store : ImStore) (ids : IdGenerator) (addMinutes : AddMinutes)
    (deliveryId : DeliveryId) (attemptNo : ℕ) (now : IsoDateTime) : ImStore :=
  let (eventId, store) := store.nextId ids
  store.appendOutbox (retryScheduledEvent addMinutes eventId deliveryId attemptNo now)

/-- What the claim of a dispatch found. -/
inductive DispatchTarget where
  | terminal (delivery : Delivery)
  | target (delivery : Delivery) (identity : ExternalIdentity) (account : ChannelAccount)

/-- An attempt that failed before anything was sent. -/
def failedAttempt (id : DeliveryAttemptId) (requestId : RequestId) (deliveryId : DeliveryId)
    (attemptNo : ℕ) (status : DeliveryAttemptStatus) (errorCode : JsString) (now : IsoDateTime) :
    DeliveryAttempt where
  id := id
  deliveryId := deliveryId
  attemptNo := attemptNo
  requestId := requestId
  renderedPayload := ⟨.object [], by simp [JsonValue.WellFormed, JsonValue.WellFormedFields]⟩
  status := status
  errorCode := some errorCode
  startedAt := now
  completedAt := some now

/-- The delivery when its binding, identity or account is not active. -/
def targetUnavailable (delivery : Delivery) (now : IsoDateTime) : Delivery :=
  { withoutDeliveryAttemptOutcome delivery with
    status := .permanentFailed
    lastErrorCode := some (js "delivery_target_unavailable")
    updatedAt := now }

/-- The active identity and account of a delivery. -/
def activeTarget (store : ImStore) (delivery : Delivery) :
    Option (ExternalIdentity × ChannelAccount) :=
  match store.bindings.get? delivery.bindingId with
  | none => none
  | some binding =>
    match store.identities.get? binding.externalIdentityId,
        store.channelAccounts.get? delivery.channelAccountId with
    | some identity, some account =>
      if binding.status = .active ∧ identity.status = .active ∧ account.status = .active then
        some (identity, account)
      else none
    | _, _ => none

/-- The first transaction of `dispatch`: claim the delivery and look its target up. -/
def claimTransaction (ids : IdGenerator) (claimTime now : IsoDateTime) (deliveryId : DeliveryId)
    (store : ImStore) : Except ImGatewayError (DispatchTarget × ImStore) :=
  match store.claimForDispatch ids deliveryId claimTime dispatchClaimLeaseSeconds with
  | none =>
    match store.deliveries.get? deliveryId with
    | none => .error ⟨.deliveryNotFound, "Delivery was not found"⟩
    | some _ =>
      .error ⟨.invalidTransition, "Only pending or retryable deliveries can be dispatched"⟩
  | some (delivery, store) =>
    match activeTarget store delivery with
    | some (identity, account) => .ok (.target delivery identity account, store)
    | none =>
      let failed := targetUnavailable delivery now
      match store.saveIfClaimed failed (delivery.claimToken.getD []) with
      | none => .ok (.terminal ((store.deliveries.get? deliveryId).getD failed), store)
      | some store =>
        let attemptNo := store.nextAttemptNo deliveryId
        let (attemptId, store) := store.nextId ids
        let (requestId, store) := store.nextId ids
        .ok (.terminal failed, store.saveAttempt (failedAttempt attemptId requestId deliveryId
          attemptNo .permanentFailed (js "delivery_target_unavailable") now))

/-- What the gate before the send found. -/
inductive GateResult where
  | owned (attempt : DeliveryAttempt)
  | lost (delivery : Delivery)

/-- The delivery with its claim renewed. -/
def renewal (target : Delivery) (claimToken : JsString) (now : IsoDateTime) : Delivery :=
  { withoutDeliveryAttemptOutcome target with
    status := .sending, claimedAt := some now, claimToken := some claimToken, updatedAt := now }

/-- An attempt before its send. -/
def sendingAttempt (id : DeliveryAttemptId) (requestId : RequestId) (deliveryId : DeliveryId)
    (attemptNo : ℕ) (renderedPayload : Json) (now : IsoDateTime) : DeliveryAttempt where
  id := id
  deliveryId := deliveryId
  attemptNo := attemptNo
  requestId := requestId
  renderedPayload := renderedPayload
  status := .sending
  startedAt := now

/-- The second transaction of `dispatch`: renew the claim and store the attempt. -/
def gateTransaction (ids : IdGenerator) (now : IsoDateTime) (target : Delivery)
    (claimToken : JsString) (renderedPayload : Json) (store : ImStore) : GateResult × ImStore :=
  match store.saveIfClaimed (renewal target claimToken now) claimToken with
  | none => (.lost ((store.deliveries.get? target.id).getD target), store)
  | some store =>
    let attemptNo := store.nextAttemptNo target.id
    let (attemptId, store) := store.nextId ids
    let (requestId, store) := store.nextId ids
    let attempt := sendingAttempt attemptId requestId target.id attemptNo renderedPayload now
    (.owned attempt, store.saveAttempt attempt)

/-- `ImSendAcceptance`. -/
structure ImSendAcceptance where
  accepted : Bool
  platformMessageId : Option JsString := none
  retryable : Bool := false
  errorCode : Option JsString := none

/-- The answer when `send` throws. -/
def channelSendException : ImSendAcceptance where
  accepted := false
  retryable := true
  errorCode := some (js "channel_send_exception")

/-- `attemptStatus`. -/
def ImSendAcceptance.attemptStatus (acceptance : ImSendAcceptance) : DeliveryAttemptStatus :=
  if acceptance.accepted then .accepted
  else if acceptance.retryable then .retryableFailed
  else .permanentFailed

/-- `retriesExhausted`. -/
def retriesExhausted (acceptance : ImSendAcceptance) (attempt : DeliveryAttempt) : Bool :=
  acceptance.attemptStatus = .retryableFailed ∧ attempt.attemptNo ≥ maxAutomaticDeliveryAttempts

/-- The status of the delivery after the send. -/
def completionStatus (acceptance : ImSendAcceptance) (attempt : DeliveryAttempt) :
    DeliveryStatus :=
  if retriesExhausted acceptance attempt then .permanentFailed
  else
    match acceptance.attemptStatus with
    | .accepted => .accepted
    | .retryableFailed => .retryableFailed
    | _ => .permanentFailed

/-- The delivery after the send. -/
def completion (target : Delivery) (attempt : DeliveryAttempt) (acceptance : ImSendAcceptance)
    (completionTime : IsoDateTime) : Delivery :=
  let status := completionStatus acceptance attempt
  { withoutDeliveryAttemptOutcome target with
    status
    externalMessageId := if status = .accepted then acceptance.platformMessageId else none
    lastErrorCode :=
      if retriesExhausted acceptance attempt then some (js "delivery_retry_exhausted")
      else acceptance.errorCode
    updatedAt := completionTime }

/-- The attempt after the send. -/
def completedAttempt (attempt : DeliveryAttempt) (acceptance : ImSendAcceptance)
    (completionTime : IsoDateTime) : DeliveryAttempt :=
  { attempt with
    status := acceptance.attemptStatus
    platformMessageId := acceptance.platformMessageId.or attempt.platformMessageId
    errorCode := acceptance.errorCode.or attempt.errorCode
    completedAt := some completionTime }

/-- The last transaction of `dispatch`: write the outcome, unless the claim was lost. -/
def completeTransaction (ids : IdGenerator) (addMinutes : AddMinutes) (completionTime : IsoDateTime)
    (target : Delivery) (claimToken : JsString) (attempt : DeliveryAttempt)
    (acceptance : ImSendAcceptance) (store : ImStore) : Delivery × ImStore :=
  let terminal := completion target attempt acceptance completionTime
  match store.saveIfClaimed terminal claimToken with
  | none => ((store.deliveries.get? target.id).getD terminal, store)
  | some store =>
    let store := store.saveAttempt (completedAttempt attempt acceptance completionTime)
    if terminal.status = .retryableFailed then
      (terminal, store.scheduleRetry ids addMinutes target.id attempt.attemptNo completionTime)
    else (terminal, store)

/-- The delivery after a failure before the send. -/
def preSendFailure (delivery : Delivery) (attemptNo : ℕ) (now : IsoDateTime) : Delivery :=
  let exhausted := attemptNo ≥ maxAutomaticDeliveryAttempts
  { withoutDeliveryAttemptOutcome delivery with
    status := if exhausted then .permanentFailed else .retryableFailed
    lastErrorCode :=
      some (if exhausted then js "delivery_retry_exhausted" else js "pre_send_exception")
    updatedAt := now }

/-- `recordPreSendFailure`. -/
def recordPreSendFailure (ids : IdGenerator) (addMinutes : AddMinutes) (now : IsoDateTime)
    (delivery : Delivery) (claimToken : JsString) (store : ImStore) : Delivery × ImStore :=
  let attemptNo := store.nextAttemptNo delivery.id
  let failed := preSendFailure delivery attemptNo now
  match store.saveIfClaimed failed claimToken with
  | none => ((store.deliveries.get? delivery.id).getD failed, store)
  | some store =>
    let (attemptId, store) := store.nextId ids
    let (requestId, store) := store.nextId ids
    let store := store.saveAttempt (failedAttempt attemptId requestId delivery.id attemptNo
      .retryableFailed (js "pre_send_exception") now)
    if attemptNo ≥ maxAutomaticDeliveryAttempts then (failed, store)
    else (failed, store.scheduleRetry ids addMinutes delivery.id attemptNo now)

/-- `markDeadLetter`. -/
def markDeadLetter (now : IsoDateTime) (deliveryId : DeliveryId) (store : ImStore) :
    Except ImGatewayError (Delivery × ImStore) :=
  match store.deliveries.get? deliveryId with
  | none => .error ⟨.deliveryNotFound, "Delivery was not found"⟩
  | some delivery =>
    if delivery.status ≠ .retryableFailed ∧ delivery.status ≠ .permanentFailed then
      .error ⟨.invalidTransition, "Only failed deliveries can enter the dead-letter state"⟩
    else
      let deadLetter := { delivery with status := .deadLetter, updatedAt := now }
      .ok (deadLetter, store.saveDelivery deadLetter)

/-! ## Receipts -/

/-- `advanceDeliveryStatus`. -/
def advanceDeliveryStatus (current : DeliveryStatus) (receipt : NormalizedDeliveryReceipt) :
    DeliveryStatus :=
  if current = .delivered then current
  else if receipt.stage = .delivered then .delivered
  else if current = .deadLetter ∨ current = .permanentFailed then current
  else if receipt.retryable then .retryableFailed
  else .permanentFailed

/-- The attempt that a receipt speaks about. -/
def receiptAttempt (attempts : List DeliveryAttempt) (receipt : NormalizedDeliveryReceipt) :
    Option DeliveryAttempt :=
  let matching := attempts.filter fun attempt =>
    attempt.platformMessageId = some receipt.externalMessageId
  match receipt.attemptId with
  | none =>
    match matching with
    | [attempt] => some attempt
    | _ => none
  | some attemptId => matching.find? fun attempt => attempt.id = attemptId

/-- An object with a field set, in its place if the object has the key. -/
def withField (fields : List (JsString × JsonValue)) (key : JsString) (value : JsonValue) :
    List (JsString × JsonValue) :=
  if fields.any fun field => field.1 = key then
    fields.map fun field => if field.1 = key then (key, value) else field
  else fields ++ [(key, value)]

/-- The detail that is stored with a receipt. -/
def receiptDetail (receipt : NormalizedDeliveryReceipt) : Option JsonValue :=
  if receipt.retryable then
    let fields :=
      match receipt.detail with
      | some (.object fields) => fields
      | _ => []
    some (.object (withField fields (js "retryable") (.bool true)))
  else receipt.detail

/-- The stored receipt. -/
def storedReceipt (id : DeliveryReceiptId) (deliveryId : DeliveryId)
    (receipt : NormalizedDeliveryReceipt) (now : IsoDateTime) : DeliveryReceipt where
  id := id
  deliveryId := deliveryId
  attemptId := receipt.attemptId
  stage := receipt.stage
  dedupeKey := receipt.dedupeKey
  externalEventId := receipt.externalEventId
  detail := receiptDetail receipt
  occurredAt := receipt.occurredAt
  receivedAt := now

/-- The retries of the current attempt are exhausted. -/
def receiptExhausted (delivery : Delivery) (current : DeliveryAttempt)
    (receipt : NormalizedDeliveryReceipt) : Bool :=
  advanceDeliveryStatus delivery.status receipt = .retryableFailed ∧
    current.attemptNo ≥ maxAutomaticDeliveryAttempts

/-- The status that a receipt for the current attempt leads to. -/
def receiptStatus (delivery : Delivery) (current : DeliveryAttempt)
    (receipt : NormalizedDeliveryReceipt) : DeliveryStatus :=
  if receiptExhausted delivery current receipt ∨
      advanceDeliveryStatus delivery.status receipt = .permanentFailed then .deadLetter
  else advanceDeliveryStatus delivery.status receipt

/-- The delivery after a receipt for the current attempt. -/
def receivedDelivery (delivery : Delivery) (current : DeliveryAttempt)
    (receipt : NormalizedDeliveryReceipt) (now : IsoDateTime) : Delivery :=
  let status := receiptStatus delivery current receipt
  { delivery with
    status
    lastErrorCode :=
      if status = .deadLetter then
        some (if receiptExhausted delivery current receipt then js "delivery_retry_exhausted"
          else receipt.platformCode.getD (js "delivery_receipt_failed"))
      else delivery.lastErrorCode
    updatedAt := now }

/-- The part of `record` that moves the delivery: only for its current message and attempt. -/
def applyReceipt (ids : IdGenerator) (addMinutes : AddMinutes) (now : IsoDateTime)
    (delivery : Delivery) (attempts : List DeliveryAttempt) (receipt : NormalizedDeliveryReceipt)
    (store : ImStore) : ImStore :=
  match attempts.getLast? with
  | none => store
  | some current =>
    if some receipt.externalMessageId ≠ delivery.externalMessageId ∨ current.status ≠ .accepted ∨
        (receiptAttempt attempts receipt).map DeliveryAttempt.id ≠ some current.id then store
    else
      let received := receivedDelivery delivery current receipt now
      if received.status = delivery.status then store
      else
        let store := store.saveDelivery received
        if received.status = .retryableFailed then
          store.scheduleRetry ids addMinutes delivery.id current.attemptNo now
        else store

/-- `DefaultReceiptApplication.record`. -/
def recordReceipt (ids : IdGenerator) (addMinutes : AddMinutes) (now : IsoDateTime)
    (receipt : NormalizedDeliveryReceipt) (store : ImStore) : Except ImGatewayError ImStore :=
  match store.receipts.get? receipt.dedupeKey with
  | some _ => .ok store
  | none =>
    match store.findByExternalMessage receipt.channelAccountId receipt.externalMessageId with
    | none => .error ⟨.deliveryNotFound, "Delivery was not found for the platform message"⟩
    | some delivery =>
      let attempts := store.listAttempts delivery.id
      if receipt.attemptId.isSome ∧ receiptAttempt attempts receipt = none then
        .error ⟨.invalidContract, "Receipt attempt does not match its platform message"⟩
      else
        let (receiptId, store) := store.nextId ids
        let store := store.saveReceipt (storedReceipt receiptId delivery.id receipt now)
        .ok (applyReceipt ids addMinutes now delivery attempts receipt store)

end VoiceLife.Gateway
