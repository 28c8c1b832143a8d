import VoiceLife.Gateway.InMemory

/-! # `DefaultActionApplication`

The transactions of the reminder actions. Calls that go on after their first transaction, to publish a
command, return the commands that they still have to dispatch.
-/

namespace VoiceLife.Gateway

/-- `MAX_SNOOZE_MINUTES`. -/
def maxSnoozeMinutes : ℤ := 24 * 60

/-- `MAX_ACTION_LABEL_LENGTH`. -/
def maxActionLabelLength : ℕ := 128

/-- `ACTION_PROCESSING_LEASE_MILLISECONDS`. -/
def actionProcessingLeaseMilliseconds : ℤ := 120000

/-! ## The notification of a delivery -/

/-- White space and line ends that `trim` removes. -/
def isTrimmed (unit : CodeUnit) : Bool :=
  (9 ≤ unit && unit ≤ 13) || unit = 32 || unit = 0xa0 || unit = 0x1680 ||
    (0x2000 ≤ unit && unit ≤ 0x200a) || unit = 0x2028 || unit = 0x2029 || unit = 0x202f ||
    unit = 0x205f || unit = 0x3000 || unit = 0xfeff

/-- The length of `Array.from`: a surrogate pair counts once. -/
def codePointLength : JsString → ℕ
  | [] => 0
  | [_] => 1
  | high :: low :: rest =>
    if isHighSurrogate high && isLowSurrogate low then codePointLength rest + 1
    else codePointLength (low :: rest) + 1

/-- A code point that `isSafeActionLabel` refuses; all of them are single code units. -/
def isUnsafeUnit (unit : CodeUnit) : Bool :=
  unit ≤ 0x1f || (0x7f ≤ unit && unit ≤ 0x9f) || unit = 0x2028 || unit = 0x2029 ||
    unit = 0x061c || unit = 0x200e || unit = 0x200f || (0x202a ≤ unit && unit ≤ 0x202e) ||
    (0x2066 ≤ unit && unit ≤ 0x2069)

/-- `isSafeActionLabel`. -/
def isSafeActionLabel (label : JsString) : Bool :=
  !label.all isTrimmed && codePointLength label ≤ maxActionLabelLength && !label.any isUnsafeUnit

/-- `NotificationActionOption`; the parameters are the minutes. -/
structure NotificationActionOption where
  type : ReminderActionKind
  label : JsString
  minutes : Option JsNumber
  deriving DecidableEq

/-- What `readStrongReminderMetadata` reads. -/
structure StrongReminderMetadata where
  deviceId : DeviceId
  reminderTriggerId : ReminderTriggerId
  options : List NotificationActionOption
  deriving DecidableEq

/-- A whole number of minutes between 1 and `MAX_SNOOZE_MINUTES`. -/
def validMinutes (minutes : JsNumber) : Bool :=
  minutes.isInteger && 0 < minutes.toInt && minutes.toInt ≤ maxSnoozeMinutes

/-- The minutes in the parameters of an option or an action. -/
def readMinutes : Option JsonValue → Option JsNumber
  | some params =>
    match params.get? (js "minutes") with
    | some (.number minutes) => if validMinutes minutes then some minutes else none
    | _ => none
  | none => none

/-- The type of an action option. -/
def readActionType (candidate : JsonValue) : Option ReminderActionKind :=
  match candidate.get? (js "type") with
  | some (.string type) =>
    if type = js "acknowledge" then some .acknowledge
    else if type = js "snooze" then some .snooze
    else none
  | _ => none

/-- The loop over `payload.actions`: an unsafe label voids the whole notification, other candidates
that are no option are skipped. -/
def readOptions : List JsonValue → Option (List NotificationActionOption)
  | [] => some []
  | candidate :: candidates =>
    match readActionType candidate with
    | none => readOptions candidates
    | some type =>
      match candidate.get? (js "label") with
      | some (.string label) =>
        if !isSafeActionLabel label then none
        else
          let minutes := readMinutes (candidate.get? (js "params"))
          if type = .snooze ∧ minutes = none then readOptions candidates
          else (readOptions candidates).map fun options => ⟨type, label, minutes⟩ :: options
      | _ => none

/-- `readStrongReminderMetadata`. -/
def readStrongReminderMetadata (payload : JsonValue) : Option StrongReminderMetadata :=
  match payload.get? (js "reminderType"), payload.get? (js "reminderTriggerId"),
      payload.get? (js "recipient"), payload.get? (js "actions") with
  | some (.string reminderType), some (.string reminderTriggerId), some recipient,
      some (.array actions) =>
    if reminderType ≠ js "strong" then none
    else
      match recipient.get? (js "deviceId") with
      | some (.string deviceId) =>
        match readOptions actions with
        | none | some [] => none
        | some options => some ⟨deviceId, reminderTriggerId, options⟩
      | _ => none
  | _, _, _, _ => none

/-- The minutes in the parameters of an action: `params.minutes`. -/
def paramsMinutes (params : Option Json) : Option JsonValue :=
  params.bind fun params => params.value.get? (js "minutes")

/-- `hasApprovedActionOption`. -/
def hasApprovedActionOption (options : List NotificationActionOption) (action : ReminderActionKind)
    (params : Option Json) : Bool :=
  options.any fun option =>
    option.type = action &&
      match option.minutes with
      | none => params.isNone
      | some minutes =>
        match paramsMinutes params with
        | some (.number given) => given = minutes
        | _ => false

/-- `sameActionParams`. -/
def sameActionParams (left right : Option Json) : Bool :=
  match left, right with
  | none, none => true
  | some left, some right => canonicalizeJson left.value = canonicalizeJson right.value
  | _, _ => false

/-- `{ minutes }`. -/
def minutesParams (minutes : JsNumber) : Json where
  value := .object [(js "minutes", .number minutes)]
  wellFormed := by simp [JsonValue.WellFormed, JsonValue.WellFormedFields]

/-- `validateReminderActionParams`. -/
def validateReminderActionParams (action : ReminderActionKind) (params : Option Json) :
    Except ImGatewayError (Option Json) :=
  match action with
  | .acknowledge =>
    if params.isSome then
      .error ⟨.invalidTransition, "acknowledge does not accept action params"⟩
    else .ok none
  | .snooze =>
    match readMinutes (params.map Json.value) with
    | none => .error ⟨.invalidTransition, "snooze requires a positive integer params.minutes"⟩
    | some minutes => .ok (some (minutesParams minutes))

/-- `isActionableDelivery`. -/
def isActionableDelivery (delivery : Delivery) : Bool :=
  (delivery.status = .accepted || delivery.status = .delivered) &&
    match delivery.externalMessageId with
    | none => false
    | some externalMessageId => !externalMessageId.all isTrimmed

/-- `toCommand`. -/
def toCommand (action : ImAction) : ReminderActionCommand where
  commandId := action.id
  operationId := action.operationId
  correlationId := action.correlationId
  deviceId := action.deviceId
  actorBindingId := action.actorBindingId
  reminderTriggerId := action.reminderTriggerId
  action := action.actionType
  minutes :=
    match paramsMinutes action.actionParams with
    | some (.number minutes) => some minutes
    | _ => none
  occurredAt := action.createdAt
  expiresAt := action.expiresAt

/-- `toReminderActionResult`. -/
def toReminderActionResult (report : ReminderActionStatusReport) : ReminderActionResult where
  operationId := report.operationId
  reminderTriggerId := report.reminderTriggerId
  status := report.status
  nextTriggerAt := report.nextTriggerAt
  errorCode := report.errorCode
  details := report.details
  occurredAt := report.occurredAt

/-- The result of an action that a device action of the other kind overtook. -/
def supersededResult (report : ReminderActionStatusReport) : ReminderActionResult :=
  { toReminderActionResult report with
    status := .failed, errorCode := some (js "superseded_by_device_action") }

/-- `toActionStatus`. -/
def toActionStatus : ReminderActionExecutionStatus → ActionStatus
  | .succeeded => .succeeded
  | .retryableFailed => .pending
  | .failed => .failed
  | .expired => .expired

/-! ## `triggerPrepared` -/

/-- `ActionTokenClaims`. -/
structure ActionTokenClaims where
  actionId : ActionId
  deliveryId : DeliveryId
  expiresAt : IsoDateTime
  deriving DecidableEq

/-- `TriggerPreparedActionCommand`. -/
structure TriggerPreparedActionCommand where
  claims : ActionTokenClaims
  actionType : ReminderActionKind
  actionKeyHash : JsString
  actualIdentityId : Option ExternalIdentityId
  actionParams : Option Json

/-- The delivery, binding and metadata that a token is good for. -/
def actionTarget (store : ImStore) (command : TriggerPreparedActionCommand) (now : IsoDateTime) :
    Option (Delivery × ImBinding × StrongReminderMetadata) :=
  match store.deliveries.get? command.claims.deliveryId with
  | none => none
  | some delivery =>
    match store.bindings.get? delivery.bindingId,
        store.channelAccounts.get? delivery.channelAccountId,
        readStrongReminderMetadata delivery.semanticPayload.value with
    | some binding, some account, some metadata =>
      match store.identities.get? binding.externalIdentityId with
      | none => none
      | some identity =>
        if isActionableDelivery delivery ∧ binding.status = .active ∧ identity.status = .active ∧
            account.status = .active ∧
            (∀ actual ∈ command.actualIdentityId, actual = binding.externalIdentityId) ∧
            delivery.expiresAt = some command.claims.expiresAt ∧
            !command.claims.expiresAt.textLe now then
          some (delivery, binding, metadata)
        else none
    | _, _, _ => none

/-- The stored action is the one that a command asks for. -/
def isSameAction (existing : ImAction) (command : TriggerPreparedActionCommand)
    (actionParams : Option Json) : Bool :=
  existing.deliveryId = command.claims.deliveryId && existing.actionType = command.actionType &&
    sameActionParams existing.actionParams actionParams &&
    command.actualIdentityId.all fun actual => actual = existing.expectedIdentityId

/-- The report of the device that settles a reminder before the action. -/
def settlingReport (fact : Option DeviceReminderActionFact) : Option ReminderActionStatusReport :=
  match fact with
  | none => none
  | some fact => if fact.report.status = .retryableFailed then none else some fact.report

/-- The status of a new action. -/
def newActionStatus (actionType : ReminderActionKind)
    (settled : Option ReminderActionStatusReport) : ActionStatus :=
  match settled with
  | none => .pending
  | some report => if report.action = actionType then toActionStatus report.status else .failed

/-- The result of a new action. -/
def newActionResult (actionType : ReminderActionKind)
    (settled : Option ReminderActionStatusReport) : Option ReminderActionResult :=
  settled.map fun report =>
    if report.action = actionType then toReminderActionResult report else supersededResult report

/-- The action that a command creates. -/
def newAction (operationId : OperationId) (now : IsoDateTime)
    (command : TriggerPreparedActionCommand) (actionParams : Option Json) (delivery : Delivery)
    (binding : ImBinding) (metadata : StrongReminderMetadata)
    (settled : Option ReminderActionStatusReport) : ImAction where
  id := command.claims.actionId
  operationId := operationId
  correlationId := delivery.correlationId
  deliveryId := delivery.id
  actorBindingId := binding.id
  deviceId := metadata.deviceId
  reminderTriggerId := metadata.reminderTriggerId
  actionType := command.actionType
  actionParams := actionParams
  actionKeyHash := command.actionKeyHash
  expectedIdentityId := binding.externalIdentityId
  actualIdentityId := command.actualIdentityId.getD binding.externalIdentityId
  status := newActionStatus command.actionType settled
  result := newActionResult command.actionType settled
  expiresAt := command.claims.expiresAt
  createdAt := now
  updatedAt := now

/-- `Action token was already used for another action`. -/
def usedForAnotherAction : ImGatewayError :=
  ⟨.actionNotFound, "Action token was already used for another action"⟩

/-- The transaction of `triggerPrepared`: the command, and whether it is to be dispatched. -/
def triggerTransaction (ids : IdGenerator) (now : IsoDateTime)
    (command : TriggerPreparedActionCommand) (actionParams : Option Json) (store : ImStore) :
    Except ImGatewayError ((ReminderActionCommand × Bool) × ImStore) :=
  match actionTarget store command now with
  | none => .error ⟨.actionExpired, "Action token does not match an active delivery"⟩
  | some (delivery, binding, metadata) =>
    match store.actions.get? command.claims.actionId with
    | some existing =>
      if isSameAction existing command actionParams then .ok ((toCommand existing, false), store)
      else .error usedForAnotherAction
    | none =>
      match store.findByActionKeyHash command.actionKeyHash with
      | some duplicateKey =>
        if duplicateKey.id ≠ command.claims.actionId then
          .error ⟨.actionNotFound, "Action token fingerprint is already bound to another Action"⟩
        else .ok ((toCommand duplicateKey, false), store)
      | none =>
        if !hasApprovedActionOption metadata.options command.actionType actionParams then
          .error ⟨.actionExpired, "Action token action is not approved by the delivery"⟩
        else
          let settled := settlingReport
            (store.findLatestByDeviceAndTrigger metadata.deviceId metadata.reminderTriggerId)
          let (operationId, store) := store.nextId ids
          let action :=
            newAction operationId now command actionParams delivery binding metadata settled
          match store.createActionIfAbsent action with
          | ((existing, false), store) =>
            if isSameAction existing command actionParams then
              .ok ((toCommand existing, false), store)
            else .error usedForAnotherAction
          | ((created, true), store) => .ok ((toCommand created, settled.isNone), store)

/-- `triggerPrepared` up to the dispatch. -/
def triggerPrepared (ids : IdGenerator) (now : IsoDateTime)
    (command : TriggerPreparedActionCommand) (store : ImStore) :
    Except ImGatewayError ((ReminderActionCommand × Bool) × ImStore) :=
  match validateReminderActionParams command.actionType command.actionParams with
  | .error error => .error error
  | .ok actionParams => triggerTransaction ids now command actionParams store

/-- The transaction of the internal `dispatch`. The command is published in any case. -/
def dispatchTransaction (now : IsoDateTime) (command : ReminderActionCommand) (store : ImStore) :
    ImStore :=
  match store.actions.get? command.commandId with
  | none => store
  | some action =>
    if action.status = .dispatched then store
    else store.saveAction { action with
      status := .dispatched, dispatchedAt := some now, updatedAt := now }

/-! ## Results and reports -/

/-- The end states of an action. -/
def ActionStatus.isTerminal (status : ActionStatus) : Bool :=
  status = .succeeded || status = .failed || status = .expired

/-- A success names the next trigger exactly for a snooze. -/
def nextTriggerMatches (status : ReminderActionExecutionStatus) (action : ReminderActionKind)
    (nextTriggerAt : Option IsoDateTime) : Bool :=
  !(status = .succeeded &&
    ((action = .snooze && nextTriggerAt.isNone) || (action = .acknowledge && nextTriggerAt.isSome)))

/-- The transaction of `recordResult`: the action afterwards. -/
def recordResult (now : IsoDateTime) (commandId : ActionId) (deviceId : DeviceId)
    (result : ReminderActionResult) (store : ImStore) :
    Except ImGatewayError (ImAction × ImStore) :=
  match store.actions.get? commandId with
  | none => .error ⟨.actionNotFound, "Action was not found"⟩
  | some action =>
    if action.operationId ≠ result.operationId ∨ action.deviceId ≠ deviceId ∨
        action.reminderTriggerId ≠ result.reminderTriggerId then
      .error ⟨.invalidTransition, "Action result does not match command scope"⟩
    else if !nextTriggerMatches result.status action.actionType result.nextTriggerAt then
      .error ⟨.invalidTransition, "Action result nextTriggerAt does not match its action type"⟩
    else if action.status.isTerminal then
      if action.result.map ReminderActionResult.status = some result.status then .ok (action, store)
      else .error ⟨.invalidTransition, "A terminal Action result cannot be overwritten"⟩
    else
      let updated := { action with
        status := toActionStatus result.status, result := some result, updatedAt := now }
      .ok (updated, store.saveAction updated)

/-- The optional field of a JSON object. -/
def optionalField (key : String) (value : Option JsonValue) : List (JsString × JsonValue) :=
  (value.map fun value => (js key, value)).toList

/-- The report as the JSON value that is fingerprinted. -/
def ReminderActionStatusReport.toJsonValue (report : ReminderActionStatusReport) : JsonValue :=
  .object (([(js "schemaVersion", .string (js "1")), (js "eventId", .string report.eventId),
    (js "correlationId", .string report.correlationId), (js "deviceId", .string report.deviceId),
    (js "reminderTriggerId", .string report.reminderTriggerId),
    (js "operationId", .string report.operationId), (js "action", .string report.action.text),
    (js "status", .string report.status.text),
    (js "occurredAt", .string report.occurredAt.text)] : List (JsString × JsonValue)) ++
    optionalField "nextTriggerAt" (report.nextTriggerAt.map fun time => .string time.text) ++
    optionalField "errorCode" (report.errorCode.map .string) ++
    optionalField "details" (report.details.map Json.value) ++
    [(js "source", JsonValue.string (js "voice"))])

/-- `Device action event was reused with different data`. -/
def eventReused : ImGatewayError :=
  ⟨.idempotencyConflict, "Device action event was reused with different data"⟩

/-- `Concurrent device reports for one reminder must have one authoritative event`. -/
def concurrentReports : ImGatewayError :=
  ⟨.invalidTransition,
    "Concurrent device reports for one reminder must have one authoritative event"⟩

/-- The conflicts of a report with the facts that are stored. -/
def checkReport (report : ReminderActionStatusReport) (store : ImStore) :
    Except ImGatewayError Unit :=
  match store.findByDeviceAndOperationId report.deviceId report.operationId with
  | some existingOperation =>
    if existingOperation.eventId ≠ report.eventId then
      .error ⟨.idempotencyConflict, "Device action operationId was reused with different data"⟩
    else checkLatest
  | none => checkLatest
where
  /-- The checks against the latest fact. -/
  checkLatest : Except ImGatewayError Unit :=
    match store.findLatestByDeviceAndTrigger report.deviceId report.reminderTriggerId with
    | none => .ok ()
    | some previousLatest =>
      if previousLatest.eventId = report.eventId then .ok ()
      else if report.occurredAt.parse = previousLatest.report.occurredAt.parse then
        .error concurrentReports
      else if previousLatest.report.status = .succeeded ∧
          report.occurredAt.parse > previousLatest.report.occurredAt.parse then
        .error ⟨.invalidTransition,
          "A later device report cannot overwrite an already succeeded reminder action"⟩
      else .ok ()

/-- The fact of a report. -/
def reportFact (report : ReminderActionStatusReport) (now : IsoDateTime) :
    DeviceReminderActionFact where
  eventId := report.eventId
  fingerprint := canonicalizeJson report.toJsonValue
  report := report
  receivedAt := now

/-- Store the fact of a report, unless its event has one. -/
def storeFact (report : ReminderActionStatusReport) (now : IsoDateTime) (store : ImStore) :
    Except ImGatewayError ImStore :=
  match store.reminderActionFacts.get? report.eventId with
  | some _ => .ok store
  | none =>
    let fact := reportFact report now
    match store.createFactIfAbsent fact with
    | ((_, true), store) => .ok store
    | ((existing, false), store) =>
      if existing.fingerprint = fact.fingerprint then .ok store
      else if existing.report.deviceId = report.deviceId ∧
          existing.report.reminderTriggerId = report.reminderTriggerId ∧
          existing.report.occurredAt.parse = report.occurredAt.parse then .error concurrentReports
      else .error eventReused

/-- An open action after the report of the device. -/
def settledAction (report : ReminderActionStatusReport) (now : IsoDateTime) (action : ImAction) :
    ImAction :=
  if action.actionType = report.action then
    { action with
      status := toActionStatus report.status
      result := some (toReminderActionResult report)
      updatedAt := now }
  else
    { action with status := .failed, result := some (supersededResult report), updatedAt := now }

/-- Settle the open actions of the reminder, if the report is its latest fact. -/
def settleActions (report : ReminderActionStatusReport) (now : IsoDateTime) (store : ImStore) :
    Option ImAction × ImStore :=
  match store.findLatestByDeviceAndTrigger report.deviceId report.reminderTriggerId with
  | none => (none, store)
  | some latest =>
    if latest.report.eventId ≠ report.eventId then (none, store)
    else
      let updated := (store.findPendingByDeviceAndTrigger report.deviceId report.reminderTriggerId
        now).map (settledAction report now)
      ((updated.filter fun action => action.actionType = report.action).getLast?,
        { store with actions := store.actions.setAll updated })

/-- The transaction of `recordDeviceActionStatus`. -/
def reportTransaction (now : IsoDateTime) (report : ReminderActionStatusReport) (store : ImStore) :
    Except ImGatewayError (Option ImAction × ImStore) :=
  match checkReport report store with
  | .error error => .error error
  | .ok () =>
    match storeFact report now store with
    | .error error => .error error
    | .ok store => .ok (settleActions report now store)

/-- `recordDeviceActionStatus`. -/
def recordDeviceActionStatus (now : IsoDateTime) (report : ReminderActionStatusReport)
    (store : ImStore) : Except ImGatewayError (Option ImAction × ImStore) :=
  if !nextTriggerMatches report.status report.action report.nextTriggerAt then
    .error ⟨.invalidTransition, "Device action nextTriggerAt does not match action"⟩
  else
    match store.reminderActionFacts.get? report.eventId with
    | none => reportTransaction now report store
    | some existingEvent =>
      if existingEvent.fingerprint ≠ canonicalizeJson report.toJsonValue then .error eventReused
      else
        match store.findByOperationId report.operationId with
        | none => reportTransaction now report store
        | some existingAction =>
          if existingAction.deviceId = report.deviceId then .ok (some existingAction, store)
          else reportTransaction now report store

/-! ## Expiry, processing and replay -/

/-- The transaction of `expireDue`. -/
def expireDue (now : IsoDateTime) (store : ImStore) : ImStore :=
  { store with actions := store.actions.setAll ((store.findExpiredActions now).map fun action =>
      { action with status := .expired, updatedAt := now }) }

/-- The transaction of `recoverStaleProcessing`: the commands to dispatch again. -/
def recoverStaleProcessing (now staleBefore : IsoDateTime) (store : ImStore) :
    List ReminderActionCommand × ImStore :=
  let (recovered, store) := store.recoverStaleProcessingActions now staleBefore
  (recovered.map toCommand, store)

/-- `markProcessing`. -/
def markProcessing (now : IsoDateTime) (actionId : ActionId) (deviceId : DeviceId)
    (reminderTriggerId : ReminderTriggerId) (store : ImStore) : Except ImGatewayError ImStore :=
  let refused : Except ImGatewayError ImStore :=
    .error ⟨.invalidTransition, "Action cannot enter processing for this stream"⟩
  match store.actions.get? actionId with
  | none => refused
  | some action =>
    if action.deviceId ≠ deviceId ∨ action.reminderTriggerId ≠ reminderTriggerId then refused
    else if action.status = .processing ∨ action.status.isTerminal then .ok store
    else .ok (store.saveAction { action with status := .processing, updatedAt := now })

/-- `replayPending`: the commands that the device gets again. -/
def replayPending (now : IsoDateTime) (deviceId : DeviceId)
    (reminderTriggerId : ReminderTriggerId) (store : ImStore) :
    List ReminderActionCommand × ImStore :=
  let replay := store.findPendingByDeviceAndTrigger deviceId reminderTriggerId now
  let dispatched := (replay.filter fun action => action.status = .pending).map fun action =>
    { action with status := .dispatched, dispatchedAt := some now, updatedAt := now }
  (replay.map toCommand, { store with actions := store.actions.setAll dispatched })

end VoiceLife.Gateway
