import VoiceLife.Gateway.Models

/-! # `in-memory.ts`: the tables of the gateway

One state holds all repositories. A lookup by id goes to the table of its kind. The state also carries
how many generated ids are in use; ids and claim tokens come from one generator that never repeats.
-/

namespace VoiceLife.Gateway

/-- `IdGenerator`, with `randomUUID` for claim tokens. -/
structure IdGenerator where
  nth : ℕ → JsString
  injective : Function.Injective nth

/-- The state of `InMemoryImUnitOfWork`. -/
structure ImStore where
  channelAccounts : KeyTable ChannelAccount := .empty
  identities : KeyTable ExternalIdentity := .empty
  bindings : KeyTable ImBinding := .empty
  intentSubmissions : KeyTable IntentSubmissionRecord := .empty
  deliveries : KeyTable Delivery := .empty
  attempts : KeyTable DeliveryAttempt := .empty
  receipts : KeyTable DeliveryReceipt := .empty
  actions : KeyTable ImAction := .empty
  reminderActionFacts : KeyTable DeviceReminderActionFact := .empty
  outbox : List ImOutboxEvent := []
  idsUsed : ℕ := 0

namespace ImStore

/-- The next generated id. -/
def nextId (store : ImStore) (ids : IdGenerator) : JsString × ImStore :=
  (ids.nth store.idsUsed, { store with idsUsed := store.idsUsed + 1 })

/-! ## Bindings -/

/-- `listActiveByUser`. -/
def listActiveByUser (store : ImStore) (userId : UserId) : List ImBinding :=
  (store.bindings.rows.filter fun binding =>
    binding.userId = userId ∧ binding.status = .active).insertionSort
      fun left right => left.priority ≤ right.priority

/-- `findActiveByDevice`. -/
def findActiveByDevice (store : ImStore) (deviceId : DeviceId) : List ImBinding :=
  store.bindings.rows.filter fun binding =>
    binding.deviceId = some deviceId ∧ binding.status = .active

/-! ## Intent submissions -/

/-- `createIfAbsent` of an intent submission: the record that holds the key, and whether this call
wrote it. -/
def createSubmissionIfAbsent (store : ImStore) (record : IntentSubmissionRecord) :
    (Bool × IntentSubmissionRecord) × ImStore :=
  match store.intentSubmissions.get? (intentSubmissionKey record.businessEventId record.kind) with
  | some existing => ((false, existing), store)
  | none =>
    ((true, record), { store with intentSubmissions := store.intentSubmissions.set record })

/-- `finalizeClaim`. -/
def finalizeClaim (store : ImStore) (record : IntentSubmissionRecord) : ImStore :=
  { store with intentSubmissions := store.intentSubmissions.set record }

/-! ## Deliveries -/

/-- `findByBusinessKey` of a delivery. -/
def findDeliveryByBusinessKey (store : ImStore) (businessEventId : EventId) (bindingId : BindingId)
    (kind : DeliveryKind) : Option Delivery :=
  store.deliveries.rows.find? fun delivery =>
    delivery.businessEventId = businessEventId ∧ delivery.bindingId = bindingId ∧
      delivery.kind = kind

/-- `save` of a delivery. -/
def saveDelivery (store : ImStore) (delivery : Delivery) : ImStore :=
  { store with deliveries := store.deliveries.set delivery }

/-- `createIfAbsent` of a delivery. -/
def createDeliveryIfAbsent (store : ImStore) (delivery : Delivery) :
    (DeliveryId × Bool) × ImStore :=
  match store.findDeliveryByBusinessKey delivery.businessEventId delivery.bindingId delivery.kind with
  | some existing => ((existing.id, false), store)
  | none => ((delivery.id, true), store.saveDelivery delivery)

/-- The delivery may be claimed. -/
def isClaimable (delivery : Delivery) (now : IsoDateTime) (leaseSeconds : ℤ) : Bool :=
  match delivery.status with
  | .pending | .retryableFailed => true
  | .sending =>
    match delivery.claimedAt with
    | none => true
    | some claimedAt => now.parse - claimedAt.parse ≥ leaseSeconds * 1000
  | _ => false

/-- `claimForDispatch`. -/
def claimForDispatch (store : ImStore) (ids : IdGenerator) (deliveryId : DeliveryId)
    (now : IsoDateTime) (leaseSeconds : ℤ) : Option (Delivery × ImStore) :=
  match store.deliveries.get? deliveryId with
  | none => none
  | some delivery =>
    let (claim, store) := store.nextId ids
    if isClaimable delivery now leaseSeconds then
      let claimed := { delivery with
        status := .sending, claimedAt := some now, claimToken := some claim, updatedAt := now }
      some (claimed, store.saveDelivery claimed)
    else none

/-- `saveIfClaimed`: only the holder of the claim writes. -/
def saveIfClaimed (store : ImStore) (delivery : Delivery) (claimToken : JsString) :
    Option ImStore :=
  match store.deliveries.get? delivery.id with
  | none => none
  | some existing =>
    if existing.status = .sending ∧ existing.claimToken = some claimToken then
      some (store.saveDelivery delivery)
    else none

/-- `findByExternalMessage`: by the current message of a delivery, else by an attempt. -/
def findByExternalMessage (store : ImStore) (channelAccountId : ChannelAccountId)
    (externalMessageId : JsString) : Option Delivery :=
  let direct := store.deliveries.rows.find? fun delivery =>
    delivery.channelAccountId = channelAccountId ∧
      delivery.externalMessageId = some externalMessageId
  match direct with
  | some delivery => some delivery
  | none =>
    match store.attempts.rows.find? fun attempt =>
      attempt.platformMessageId = some externalMessageId with
    | none => none
    | some attempt =>
      match store.deliveries.get? attempt.deliveryId with
      | none => none
      | some delivery => if delivery.channelAccountId = channelAccountId then some delivery else none

/-- `saveAttempt`. -/
def saveAttempt (store : ImStore) (attempt : DeliveryAttempt) : ImStore :=
  { store with attempts := store.attempts.set attempt }

/-- The attempts of a delivery. -/
def attemptsOf (store : ImStore) (deliveryId : DeliveryId) : List DeliveryAttempt :=
  store.attempts.rows.filter fun attempt => attempt.deliveryId = deliveryId

/-- `nextAttemptNo`. -/
def nextAttemptNo (store : ImStore) (deliveryId : DeliveryId) : ℕ :=
  (store.attemptsOf deliveryId).length + 1

/-- `listAttempts`. -/
def listAttempts (store : ImStore) (deliveryId : DeliveryId) : List DeliveryAttempt :=
  (store.attemptsOf deliveryId).insertionSort fun left right => left.attemptNo ≤ right.attemptNo

/-- `saveReceipt`. -/
def saveReceipt (store : ImStore) (receipt : DeliveryReceipt) : ImStore :=
  match store.receipts.get? receipt.dedupeKey with
  | some _ => store
  | none => { store with receipts := store.receipts.set receipt }

/-! ## Actions and facts -/

/-- `save` of an action. -/
def saveAction (store : ImStore) (action : ImAction) : ImStore :=
  { store with actions := store.actions.set action }

/-- `findByActionKeyHash`. -/
def findByActionKeyHash (store : ImStore) (actionKeyHash : JsString) : Option ImAction :=
  store.actions.rows.find? fun action => action.actionKeyHash = actionKeyHash

/-- `findByOperationId`. -/
def findByOperationId (store : ImStore) (operationId : OperationId) : Option ImAction :=
  store.actions.rows.find? fun action => action.operationId = operationId

/-- `createIfAbsent` of an action: one for each id and each key hash. -/
def createActionIfAbsent (store : ImStore) (action : ImAction) : (ImAction × Bool) × ImStore :=
  match store.actions.get? action.id with
  | some existing => ((existing, false), store)
  | none =>
    match store.findByActionKeyHash action.actionKeyHash with
    | some existing => ((existing, false), store)
    | none => ((action, true), store.saveAction action)

/-- The action waits for a result. -/
def isOpenStatus (status : ActionStatus) : Bool :=
  status = .pending ∨ status = .dispatched ∨ status = .processing

/-- `findPendingByDeviceAndTrigger`. -/
def findPendingByDeviceAndTrigger (store : ImStore) (deviceId : DeviceId)
    (reminderTriggerId : ReminderTriggerId) (now : IsoDateTime) : List ImAction :=
  store.actions.rows.filter fun action =>
    action.deviceId = deviceId ∧ action.reminderTriggerId = reminderTriggerId ∧
      !action.expiresAt.textLe now ∧ isOpenStatus action.status

/-- `findExpiredActions`. -/
def findExpiredActions (store : ImStore) (now : IsoDateTime) : List ImAction :=
  store.actions.rows.filter fun action => action.expiresAt.textLe now ∧ isOpenStatus action.status

/-- `recoverStaleProcessingActions`. -/
def recoverStaleProcessingActions (store : ImStore) (now staleBefore : IsoDateTime) :
    List ImAction × ImStore :=
  let stale := store.actions.rows.filter fun action =>
    action.status = .processing ∧ action.updatedAt.textLe staleBefore ∧ !action.expiresAt.textLe now
  let recovered := stale.map fun action => { action with status := .pending, updatedAt := now }
  (recovered, { store with actions := store.actions.setAll recovered })

/-- `findByDeviceAndOperationId`. -/
def findByDeviceAndOperationId (store : ImStore) (deviceId : DeviceId) (operationId : OperationId) :
    Option DeviceReminderActionFact :=
  store.reminderActionFacts.rows.find? fun fact =>
    fact.report.deviceId = deviceId ∧ fact.report.operationId = operationId

/-- The order of `findLatestByDeviceAndTrigger`: later occurrence first, then later receipt. -/
def latestFirst (left right : DeviceReminderActionFact) : Prop :=
  right.report.occurredAt.parse < left.report.occurredAt.parse ∨
    (right.report.occurredAt.parse = left.report.occurredAt.parse ∧
      right.receivedAt.parse ≤ left.receivedAt.parse)

instance : DecidableRel latestFirst := fun _ _ => inferInstanceAs (Decidable (_ ∨ _))

/-- `findLatestByDeviceAndTrigger`. -/
def findLatestByDeviceAndTrigger (store : ImStore) (deviceId : DeviceId)
    (reminderTriggerId : ReminderTriggerId) : Option DeviceReminderActionFact :=
  ((store.reminderActionFacts.rows.filter fun fact =>
    fact.report.deviceId = deviceId ∧
      fact.report.reminderTriggerId = reminderTriggerId).insertionSort latestFirst).head?

/-- `createIfAbsent` of a fact: one for each event and each instant of a reminder. -/
def createFactIfAbsent (store : ImStore) (fact : DeviceReminderActionFact) :
    (DeviceReminderActionFact × Bool) × ImStore :=
  match store.reminderActionFacts.get? fact.eventId with
  | some existing => ((existing, false), store)
  | none =>
    match store.reminderActionFacts.rows.find? fun candidate =>
      candidate.report.deviceId = fact.report.deviceId ∧
        candidate.report.reminderTriggerId = fact.report.reminderTriggerId ∧
          candidate.report.occurredAt.parse = fact.report.occurredAt.parse with
    | some sameTime => ((sameTime, false), store)
    | none =>
      ((fact, true), { store with reminderActionFacts := store.reminderActionFacts.set fact })

/-! ## Outbox -/

/-- `append`. -/
def appendOutbox (store : ImStore) (event : ImOutboxEvent) : ImStore :=
  { store with outbox := store.outbox ++ [event] }

/-- The events after the first one with the id of a row has been replaced by it. -/
def replaceEvent (event : ImOutboxEvent) : List ImOutboxEvent → List ImOutboxEvent
  | [] => []
  | head :: events =>
    if head.id = event.id then event :: events else head :: replaceEvent event events

/-- `replaceOutbox`. -/
def replaceOutbox (store : ImStore) (event : ImOutboxEvent) : ImStore :=
  { store with outbox := replaceEvent event store.outbox }

/-- The order in which events are claimed. -/
def claimedBefore (left right : ImOutboxEvent) : Prop :=
  left.availableAt.text < right.availableAt.text ∨
    (left.availableAt.text = right.availableAt.text ∧ left.createdAt.text ≤ right.createdAt.text)

instance : DecidableRel claimedBefore := fun _ _ => inferInstanceAs (Decidable (_ ∨ _))

/-- `claimPending`: the due events get a lease, oldest first. -/
def claimPending (store : ImStore) (now leaseUntil : IsoDateTime) (limit : ℕ) :
    List ImOutboxEvent × ImStore :=
  let due := (store.outbox.filter fun event =>
    event.status = .pending ∧ event.availableAt.textLe now).insertionSort claimedBefore
  let claimed := (due.take limit).map fun event =>
    { event with attempts := event.attempts + 1, availableAt := leaseUntil }
  (claimed, claimed.foldl replaceOutbox store)

/-- `markPublished`. -/
def markPublished (store : ImStore) (eventId : OutboxEventId) (publishedAt : IsoDateTime) :
    ImStore :=
  match store.outbox.find? fun event => event.id = eventId with
  | none => store
  | some event =>
    store.replaceOutbox { event with status := .published, publishedAt := some publishedAt }

/-- `markFailed`. -/
def markFailed (store : ImStore) (eventId : OutboxEventId) : ImStore :=
  match store.outbox.find? fun event => event.id = eventId with
  | none => store
  | some event => store.replaceOutbox { event with status := .failed }

end ImStore

end VoiceLife.Gateway
