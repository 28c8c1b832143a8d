import VoiceLife.Gateway.InMemory

/-! # `DefaultNotificationApplication`

A submission is one transaction. A failed transaction leaves no trace, so it returns only the error.
-/

namespace VoiceLife.Gateway

/-- The input of `createDeliveries`. -/
structure SubmissionInput where
  businessEventId : EventId
  correlationId : CorrelationId
  userId : Option UserId
  deviceId : Option DeviceId
  kind : DeliveryKind
  payload : Json
  actionStream : Option ActionStream

/-- `ChannelCapabilityResolver`: a lookup that may throw. -/
abbrev CapabilityResolver := ChannelAccount → Except ImGatewayError ChannelCapabilities

/-- `choosePresentationType`. -/
def choosePresentationType (capabilities : ChannelCapabilities) (hasActions : Bool) :
    Option PresentationType :=
  if !capabilities.proactiveMessage then none
  else if hasActions && capabilities.nativeAction &&
      capabilities.presentationTypes.contains .nativeCard then some .nativeCard
  else if hasActions && !capabilities.actionUi then none
  else if capabilities.presentationTypes.contains .template then some .template
  else if capabilities.presentationTypes.contains .richText then some .richText
  else if capabilities.presentationTypes.contains .textWithActionUi then some .textWithActionUi
  else none

namespace SubmissionInput

/-- The bindings that a submission addresses. -/
def selected (input : SubmissionInput) (store : ImStore) : List ImBinding :=
  let bindings :=
    match input.userId, input.deviceId with
    | some userId, _ => store.listActiveByUser userId
    | none, none => []
    | none, some deviceId => store.findActiveByDevice deviceId
  match input.deviceId with
  | none => bindings
  | some deviceId => bindings.filter fun binding =>
      binding.deviceId = none ∨ binding.deviceId = some deviceId

/-- The delivery for one binding. -/
def candidate (input : SubmissionInput) (now : IsoDateTime) (deliveryId : DeliveryId)
    (binding : ImBinding) (account : ChannelAccount) (presentationType : PresentationType) :
    Delivery where
  id := deliveryId
  businessEventId := input.businessEventId
  correlationId := input.correlationId
  bindingId := binding.id
  channelAccountId := account.id
  kind := input.kind
  semanticPayload := input.payload
  presentationType := presentationType
  status := .pending
  expiresAt := input.actionStream.map ActionStream.expiresAt
  createdAt := now
  updatedAt := now

end SubmissionInput

/-- The event of a new delivery. -/
def requestedEvent (eventId : OutboxEventId) (deliveryId : DeliveryId) (now : IsoDateTime) :
    ImOutboxEvent where
  id := eventId
  eventType := .requested
  aggregateId := deliveryId
  status := .pending
  attempts := 0
  availableAt := now
  createdAt := now

/-- What the loop of `createDeliveries` does for one binding. -/
def createDelivery (ids : IdGenerator) (capabilities : CapabilityResolver) (now : IsoDateTime)
    (input : SubmissionInput) (store : ImStore) (binding : ImBinding) :
    Except ImGatewayError (Option SubmittedDelivery × ImStore) :=
  match store.findDeliveryByBusinessKey input.businessEventId binding.id input.kind with
  | some existing => .ok (some ⟨existing.id, binding.id⟩, store)
  | none =>
    match store.identities.get? binding.externalIdentityId with
    | none => .ok (none, store)
    | some identity =>
      match store.channelAccounts.get? identity.channelAccountId with
      | none => .ok (none, store)
      | some account =>
        if account.status ≠ .active then .ok (none, store)
        else
          match capabilities account with
          | .error error => .error error
          | .ok capability =>
            match choosePresentationType capability input.actionStream.isSome with
            | none => .ok (none, store)
            | some presentationType =>
              let (id, store) := store.nextId ids
              let ((deliveryId, created), store) := store.createDeliveryIfAbsent
                (input.candidate now id binding account presentationType)
              if created then
                let (eventId, store) := store.nextId ids
                .ok (some ⟨deliveryId, binding.id⟩,
                  store.appendOutbox (requestedEvent eventId deliveryId now))
              else .ok (some ⟨deliveryId, binding.id⟩, store)

/-- The loop of `createDeliveries`. -/
def createDeliveryLoop (ids : IdGenerator) (capabilities : CapabilityResolver) (now : IsoDateTime)
    (input : SubmissionInput) :
    ImStore → List ImBinding → Except ImGatewayError (List SubmittedDelivery × ImStore)
  | store, [] => .ok ([], store)
  | store, binding :: bindings =>
    match createDelivery ids capabilities now input store binding with
    | .error error => .error error
    | .ok (delivery, store) =>
      match createDeliveryLoop ids capabilities now input store bindings with
      | .error error => .error error
      | .ok (deliveries, store) => .ok (delivery.toList ++ deliveries, store)

/-- The record that reserves the key of a submission. -/
def SubmissionInput.claim (input : SubmissionInput) (now : IsoDateTime) :
    IntentSubmissionRecord where
  businessEventId := input.businessEventId
  kind := input.kind
  requestFingerprint := canonicalizeJson input.payload.value
  submission := ⟨input.businessEventId, [], none⟩
  createdAt := now

/-- `createDeliveries`. -/
def createDeliveries (ids : IdGenerator) (capabilities : CapabilityResolver) (now : IsoDateTime)
    (input : SubmissionInput) (store : ImStore) :
    Except ImGatewayError (NotificationSubmission × ImStore) :=
  match store.createSubmissionIfAbsent (input.claim now) with
  | ((false, record), store) =>
    if record.requestFingerprint ≠ canonicalizeJson input.payload.value then
      .error ⟨.idempotencyConflict,
        "Business event ID was already used with different contract content"⟩
    else .ok (record.submission, store)
  | ((true, record), store) =>
    match createDeliveryLoop ids capabilities now input store (input.selected store) with
    | .error error => .error error
    | .ok (deliveries, store) =>
      let submission : NotificationSubmission :=
        { businessEventId := input.businessEventId
          deliveries
          actionStream := if deliveries = [] then none else input.actionStream }
      .ok (submission, store.finalizeClaim { record with submission })

/-- The event of a manual retry. -/
def retryRequestedEvent (eventId : OutboxEventId) (deliveryId : DeliveryId) (now : IsoDateTime) :
    ImOutboxEvent :=
  { requestedEvent eventId deliveryId now with eventType := .retryRequested }

/-- `DefaultDeliveryApplication.retryDeadLetter`. -/
def retryDeadLetter (ids : IdGenerator) (now : IsoDateTime) (deliveryId : DeliveryId)
    (store : ImStore) : Except ImGatewayError (Delivery × ImStore) :=
  match store.deliveries.get? deliveryId with
  | none => .error ⟨.deliveryNotFound, "Delivery was not found"⟩
  | some delivery =>
    if delivery.status ≠ .deadLetter ∧ delivery.status ≠ .permanentFailed then
      .error ⟨.invalidTransition,
        "Only dead-letter or permanently failed deliveries can be retried manually"⟩
    else
      let pending :=
        { withoutDeliveryAttemptOutcome delivery with status := .pending, updatedAt := now }
      let (eventId, store) := (store.saveDelivery pending).nextId ids
      .ok (pending, store.appendOutbox (retryRequestedEvent eventId delivery.id now))

end VoiceLife.Gateway
