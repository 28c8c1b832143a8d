import VoiceLife.Lib.KeyTable
import VoiceLife.Gateway.CanonicalJson
import VoiceLife.Gateway.DateTime

/-! # `domain/models.ts` and `contracts/device-gateway.ts`

The records of the gateway. Optional properties are `Option`s; constant ones, such as the schema
version, are left out.
-/

namespace VoiceLife.Gateway

abbrev DeviceId := JsString
abbrev UserId := JsString
abbrev BindingId := JsString
abbrev ExternalIdentityId := JsString
abbrev ChannelAccountId := JsString
abbrev EventId := JsString
abbrev CorrelationId := JsString
abbrev DeliveryId := JsString
abbrev DeliveryAttemptId := JsString
abbrev DeliveryReceiptId := JsString
abbrev RequestId := JsString
abbrev OutboxEventId := JsString
abbrev ActionId := JsString
abbrev OperationId := JsString
abbrev ReminderTriggerId := JsString

/-- `ImGatewayErrorCode`, as far as the services use it. -/
inductive ImGatewayErrorCode where
  | invalidContract
  | idempotencyConflict
  | deliveryNotFound
  | actionNotFound
  | actionExpired
  | invalidTransition
  | capabilityNotSupported
  | unauthorized
  | pairingCodeInvalid
  | bindingNotFound
  | resourceExhausted
  deriving DecidableEq

/-- `ImGatewayError`. -/
structure ImGatewayError where
  code : ImGatewayErrorCode
  message : String
  deriving DecidableEq

/-- What a transaction throws: an `ImGatewayError`, or a plain `Error`. -/
inductive TransactionError where
  | gateway (error : ImGatewayError)
  | plain (message : String)
  deriving DecidableEq

/-- A sequence of checks succeeds step by step. -/
theorem exists_of_bind_eq_ok {ε α β : Type} {x : Except ε α} {f : α → Except ε β} {b : β}
    (h : x >>= f = .ok b) : ∃ a, x = .ok a ∧ f a = .ok b := by
  cases x with
  | error e => cases h
  | ok a => exact ⟨a, rfl, h⟩

/-! ## Directory -/

/-- The status of a channel account. -/
inductive ChannelAccountStatus where
  | active
  | disabled
  | error
  deriving DecidableEq

/-- `ChannelAccount`. -/
structure ChannelAccount where
  id : ChannelAccountId
  status : ChannelAccountStatus
  deriving DecidableEq

/-- The status of an external identity. -/
inductive ExternalIdentityStatus where
  | active
  | unreachable
  | revoked
  deriving DecidableEq

/-- `ExternalIdentity`. -/
structure ExternalIdentity where
  id : ExternalIdentityId
  channelAccountId : ChannelAccountId
  status : ExternalIdentityStatus
  deriving DecidableEq

/-- The status of a binding. -/
inductive ImBindingStatus where
  | active
  | unbound
  | revoked
  deriving DecidableEq

/-- `ImBinding`. -/
structure ImBinding where
  id : BindingId
  userId : UserId
  deviceId : Option DeviceId
  externalIdentityId : ExternalIdentityId
  priority : ℤ
  status : ImBindingStatus
  deriving DecidableEq

/-- `PresentationType`. -/
inductive PresentationType where
  | nativeCard
  | template
  | richText
  | textWithActionUi
  deriving DecidableEq

/-- `ChannelCapabilities`. -/
structure ChannelCapabilities where
  proactiveMessage : Bool
  nativeAction : Bool
  actionUi : Bool
  presentationTypes : List PresentationType

/-! ## Deliveries -/

/-- The kind of a delivery. -/
inductive DeliveryKind where
  | reminderDue
  | scheduleReceipt
  | scheduleQueryResult
  deriving DecidableEq

/-- The text of a kind. -/
def DeliveryKind.text : DeliveryKind → JsString
  | .reminderDue => js "reminder_due"
  | .scheduleReceipt => js "schedule_receipt"
  | .scheduleQueryResult => js "schedule_query_result"

/-- `DeliveryStatus`. -/
inductive DeliveryStatus where
  | pending
  | sending
  | accepted
  | delivered
  | retryableFailed
  | permanentFailed
  | deadLetter
  deriving DecidableEq

/-- `Delivery`. -/
structure Delivery where
  id : DeliveryId
  businessEventId : EventId
  correlationId : CorrelationId
  bindingId : BindingId
  channelAccountId : ChannelAccountId
  kind : DeliveryKind
  semanticPayload : Json
  presentationType : PresentationType
  status : DeliveryStatus
  externalMessageId : Option JsString := none
  expiresAt : Option IsoDateTime := none
  lastErrorCode : Option JsString := none
  claimedAt : Option IsoDateTime := none
  claimToken : Option JsString := none
  createdAt : IsoDateTime
  updatedAt : IsoDateTime

/-- `withoutDeliveryAttemptOutcome`: a new attempt inherits neither the outcome nor the claim. -/
def withoutDeliveryAttemptOutcome (delivery : Delivery) : Delivery :=
  { delivery with
    lastErrorCode := none, externalMessageId := none, claimedAt := none, claimToken := none }

/-- One delivery in the answer to a submission. -/
structure SubmittedDelivery where
  deliveryId : DeliveryId
  bindingId : BindingId
  deriving DecidableEq

/-- `actionStream` of a submission. -/
structure ActionStream where
  reminderTriggerId : ReminderTriggerId
  expiresAt : IsoDateTime
  deriving DecidableEq

/-- `NotificationSubmission`. -/
structure NotificationSubmission where
  businessEventId : EventId
  deliveries : List SubmittedDelivery
  actionStream : Option ActionStream
  deriving DecidableEq

/-- `IntentSubmissionRecord`. -/
structure IntentSubmissionRecord where
  businessEventId : EventId
  kind : DeliveryKind
  requestFingerprint : JsString
  submission : NotificationSubmission
  createdAt : IsoDateTime
  deriving DecidableEq

/-- The status of a delivery attempt. -/
inductive DeliveryAttemptStatus where
  | sending
  | accepted
  | retryableFailed
  | permanentFailed
  deriving DecidableEq

/-- `DeliveryAttempt`. -/
structure DeliveryAttempt where
  id : DeliveryAttemptId
  deliveryId : DeliveryId
  attemptNo : ℕ
  requestId : RequestId
  renderedPayload : Json
  status : DeliveryAttemptStatus
  platformMessageId : Option JsString := none
  errorCode : Option JsString := none
  startedAt : IsoDateTime
  completedAt : Option IsoDateTime := none

/-- The stage of a receipt. -/
inductive ReceiptStage where
  | delivered
  | failed
  deriving DecidableEq

/-- `DeliveryReceipt`. -/
structure DeliveryReceipt where
  id : DeliveryReceiptId
  deliveryId : DeliveryId
  attemptId : Option DeliveryAttemptId
  stage : ReceiptStage
  dedupeKey : JsString
  externalEventId : JsString
  detail : Option JsonValue
  occurredAt : IsoDateTime
  receivedAt : IsoDateTime

/-- `NormalizedDeliveryReceipt`. -/
structure NormalizedDeliveryReceipt where
  externalEventId : JsString
  channelAccountId : ChannelAccountId
  externalMessageId : JsString
  attemptId : Option DeliveryAttemptId
  dedupeKey : JsString
  stage : ReceiptStage
  retryable : Bool
  occurredAt : IsoDateTime
  platformCode : Option JsString
  detail : Option JsonValue

/-- The event types of the delivery outbox. -/
inductive DeliveryEventType where
  | requested
  | retryScheduled
  | retryRequested
  deriving DecidableEq

/-- The status of an outbox event. -/
inductive OutboxStatus where
  | pending
  | published
  | failed
  deriving DecidableEq

/-- `ImOutboxEvent`. The payload only repeats the delivery id. -/
structure ImOutboxEvent where
  id : OutboxEventId
  eventType : DeliveryEventType
  aggregateId : DeliveryId
  status : OutboxStatus
  attempts : ℕ
  availableAt : IsoDateTime
  createdAt : IsoDateTime
  publishedAt : Option IsoDateTime := none
  deriving DecidableEq

/-! ## Reminder actions -/

/-- `ReminderActionKind`. -/
inductive ReminderActionKind where
  | acknowledge
  | snooze
  deriving DecidableEq

/-- The text of an action. -/
def ReminderActionKind.text : ReminderActionKind → JsString
  | .acknowledge => js "acknowledge"
  | .snooze => js "snooze"

/-- `ReminderActionExecutionStatus`. -/
inductive ReminderActionExecutionStatus where
  | succeeded
  | retryableFailed
  | failed
  | expired
  deriving DecidableEq

/-- The text of an execution status. -/
def ReminderActionExecutionStatus.text : ReminderActionExecutionStatus → JsString
  | .succeeded => js "succeeded"
  | .retryableFailed => js "retryable_failed"
  | .failed => js "failed"
  | .expired => js "expired"

/-- `ActionStatus`. -/
inductive ActionStatus where
  | pending
  | dispatched
  | processing
  | succeeded
  | failed
  | expired
  deriving DecidableEq

/-- `ReminderActionResult`. -/
structure ReminderActionResult where
  operationId : OperationId
  reminderTriggerId : ReminderTriggerId
  status : ReminderActionExecutionStatus
  nextTriggerAt : Option IsoDateTime
  errorCode : Option JsString
  details : Option Json
  occurredAt : IsoDateTime

/-- `ReminderActionStatusReport`. -/
structure ReminderActionStatusReport where
  eventId : EventId
  correlationId : CorrelationId
  deviceId : DeviceId
  reminderTriggerId : ReminderTriggerId
  operationId : OperationId
  action : ReminderActionKind
  status : ReminderActionExecutionStatus
  occurredAt : IsoDateTime
  nextTriggerAt : Option IsoDateTime
  errorCode : Option JsString
  details : Option Json

/-- `DeviceReminderActionFact`. -/
structure DeviceReminderActionFact where
  eventId : EventId
  fingerprint : JsString
  report : ReminderActionStatusReport
  receivedAt : IsoDateTime

/-- `ImAction`. The parameters of an action are the minutes of a snooze. -/
structure ImAction where
  id : ActionId
  operationId : OperationId
  correlationId : CorrelationId
  deliveryId : DeliveryId
  actorBindingId : BindingId
  deviceId : DeviceId
  reminderTriggerId : ReminderTriggerId
  actionType : ReminderActionKind
  actionParams : Option Json
  actionKeyHash : JsString
  expectedIdentityId : ExternalIdentityId
  actualIdentityId : ExternalIdentityId
  status : ActionStatus
  dispatchedAt : Option IsoDateTime := none
  result : Option ReminderActionResult := none
  expiresAt : IsoDateTime
  createdAt : IsoDateTime
  updatedAt : IsoDateTime

/-- `ReminderActionCommand`. -/
structure ReminderActionCommand where
  commandId : ActionId
  operationId : OperationId
  correlationId : CorrelationId
  deviceId : DeviceId
  actorBindingId : BindingId
  reminderTriggerId : ReminderTriggerId
  action : ReminderActionKind
  minutes : Option JsNumber
  occurredAt : IsoDateTime
  expiresAt : IsoDateTime
  deriving DecidableEq

/-! ## Keys of the tables -/

/-- `intentSubmissionKey`. -/
def intentSubmissionKey (businessEventId : EventId) (kind : DeliveryKind) : JsString :=
  businessEventId ++ 58 :: kind.text

/-- `attemptKey`. -/
def attemptKey (deliveryId : DeliveryId) (attemptNo : ℕ) : JsString :=
  deliveryId ++ 58 :: JsNumber.digitUnits attemptNo

instance : HasKey ChannelAccount ChannelAccountId := ⟨ChannelAccount.id⟩
instance : HasKey ExternalIdentity ExternalIdentityId := ⟨ExternalIdentity.id⟩
instance : HasKey ImBinding BindingId := ⟨ImBinding.id⟩
instance : HasKey Delivery DeliveryId := ⟨Delivery.id⟩
instance : HasKey DeliveryReceipt JsString := ⟨DeliveryReceipt.dedupeKey⟩
instance : HasKey ImAction ActionId := ⟨ImAction.id⟩
instance : HasKey DeviceReminderActionFact EventId := ⟨DeviceReminderActionFact.eventId⟩

instance : HasKey IntentSubmissionRecord JsString :=
  ⟨fun record => intentSubmissionKey record.businessEventId record.kind⟩

instance : HasKey DeliveryAttempt JsString :=
  ⟨fun attempt => attemptKey attempt.deliveryId attempt.attemptNo⟩

/-- A text before the last colon is known from what follows it. -/
theorem append_colon_inj {left right tail tail' : JsString} (h : (58 : CodeUnit) ∉ tail)
    (h' : (58 : CodeUnit) ∉ tail') (heq : left ++ 58 :: tail = right ++ 58 :: tail') :
    left = right ∧ tail = tail' := by
  have hsplit : ∀ (front back : JsString), (58 : CodeUnit) ∉ back →
      (front ++ 58 :: back).reverse.takeWhile (· ≠ 58) = back.reverse := by
    intro front back hback
    rw [List.reverse_append, List.reverse_cons, List.append_assoc,
      List.takeWhile_append_of_pos fun unit hunit => ?_]
    · simp
    · refine decide_eq_true fun hcolon => hback ?_
      rw [← hcolon]
      exact List.mem_reverse.1 hunit
  have htail : tail = tail' := by
    have hread := congrArg (fun text : JsString => text.reverse.takeWhile (· ≠ 58)) heq
    rw [hsplit left tail h, hsplit right tail' h'] at hread
    exact List.reverse_injective hread
  rw [htail] at heq
  exact ⟨List.append_cancel_right heq, htail⟩

theorem DeliveryKind.colon_notMem (kind : DeliveryKind) : (58 : CodeUnit) ∉ kind.text := by
  cases kind <;> decide

theorem DeliveryKind.text_injective {left right : DeliveryKind} (h : left.text = right.text) :
    left = right := by
  revert h
  cases left <;> cases right <;> decide

theorem colon_notMem_digitUnits (n : ℕ) : (58 : CodeUnit) ∉ JsNumber.digitUnits n := by
  intro h
  exact absurd (JsNumber.digitUnits_allDigits n 58 h) (by decide)

theorem intentSubmissionKey_inj {businessEventId businessEventId' : EventId}
    {kind kind' : DeliveryKind}
    (h : intentSubmissionKey businessEventId kind = intentSubmissionKey businessEventId' kind') :
    businessEventId = businessEventId' ∧ kind = kind' := by
  obtain ⟨hid, hkind⟩ := append_colon_inj kind.colon_notMem kind'.colon_notMem h
  exact ⟨hid, DeliveryKind.text_injective hkind⟩

theorem attemptKey_inj {deliveryId deliveryId' : DeliveryId} {attemptNo attemptNo' : ℕ}
    (h : attemptKey deliveryId attemptNo = attemptKey deliveryId' attemptNo') :
    deliveryId = deliveryId' ∧ attemptNo = attemptNo' := by
  obtain ⟨hid, hno⟩ :=
    append_colon_inj (colon_notMem_digitUnits attemptNo) (colon_notMem_digitUnits attemptNo') h
  refine ⟨hid, ?_⟩
  rw [← JsNumber.digitUnits_value attemptNo, hno, JsNumber.digitUnits_value]

end VoiceLife.Gateway
