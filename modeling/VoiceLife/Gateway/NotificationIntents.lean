import VoiceLife.Gateway.Actions
import VoiceLife.Gateway.Dispatch
import VoiceLife.Gateway.ReminderFacts

/-! # `device-gateway-parser.ts`: notification intents

`parseNotificationIntent` checks the body of a request, and `submitNotification` makes deliveries of the
intent. A delivery keeps the intent as JSON; `readStrongReminderMetadata_payload` says what the actions on
the delivery read back from it.
-/

namespace VoiceLife.Gateway

/-- `MAX_NOTIFICATION_ACTIONS`. -/
def maxNotificationActions : ℕ := 16

/-- `DEFAULT_ACTION_WINDOW_MINUTES`. -/
def defaultActionWindowMinutes : ℕ := 10

/-- `DEVICE_CONTRACT_VERSION`. -/
def deviceContractVersion : JsString := js "1"

/-- `ReminderType`. -/
inductive ReminderType where
  | weak
  | strong
  deriving DecidableEq

/-- The text of a reminder type. -/
def ReminderType.text : ReminderType → JsString
  | .weak => js "weak"
  | .strong => js "strong"

theorem ReminderType.text_injective {left right : ReminderType} (h : left.text = right.text) :
    left = right := by
  revert h
  cases left <;> cases right <;> decide

/-- `NotificationIntent`; its kind is constant. -/
structure NotificationIntent where
  businessEventId : EventId
  correlationId : CorrelationId
  userId : UserId
  deviceId : DeviceId
  scheduleId : JsString
  taskId : JsString
  instanceId : JsString
  reminderTriggerId : ReminderTriggerId
  title : JsString
  body : Option JsString
  plannedAt : IsoDateTime
  triggerAt : IsoDateTime
  occurredAt : IsoDateTime
  reminderType : ReminderType
  actions : List NotificationActionOption

/-! ## The parser -/

/-- A result of the parser. -/
abbrev Parsed (α : Type) := Except ImGatewayError α

/-- `JsonObject`. -/
abbrev JsonObject := List (JsString × JsonValue)

/-- `invalid`. -/
def invalid {α : Type} (path expectation : String) : Parsed α :=
  .error ⟨.invalidContract, "Invalid device contract at " ++ path ++ ": " ++ expectation⟩

/-- `objectAt`. -/
def objectAt (input : Option JsonValue) (path : String) : Parsed JsonObject :=
  match input with
  | some (.object fields) => .ok fields
  | _ => invalid path "must be an object"

/-- `stringAt`. -/
def stringAt (input : Option JsonValue) (path : String) : Parsed JsString :=
  match input with
  | some (.string value) =>
    if value.length = 0 then invalid path "must be a non-empty string" else .ok value
  | _ => invalid path "must be a non-empty string"

/-- `requiredId`. -/
def requiredId (value : JsonObject) (key path : String) : Parsed JsString :=
  stringAt (value.lookup (js key)) path

/-- `optionalString`. -/
def optionalString (value : JsonObject) (key path : String) : Parsed (Option JsString) :=
  match value.lookup (js key) with
  | none => .ok none
  | some found => (stringAt (some found) path).map some

/-- `enumAt`; every allowed text comes with what it stands for. -/
def enumAt {α : Type} (input : Option JsonValue) (allowed : List (String × α)) (path : String) :
    Parsed α :=
  match input with
  | some (.string value) =>
    match allowed.find? fun choice => js choice.1 = value with
    | some choice => .ok choice.2
    | none => invalid path ("must be one of: " ++ ", ".intercalate (allowed.map Prod.fst))
  | _ => invalid path ("must be one of: " ++ ", ".intercalate (allowed.map Prod.fst))

/-- `isoDateTimeAt`. -/
def isoDateTimeAt (input : Option JsonValue) (path : String) : Parsed IsoDateTime :=
  match input with
  | some (.string value) =>
    if valid : isValidIsoDateTime value = true then .ok ⟨value, valid⟩
    else invalid path "must be a valid ISO 8601 date-time with timezone"
  | _ => invalid path "must be a valid ISO 8601 date-time with timezone"

/-- `contractVersion`. -/
def contractVersion (value : JsonObject) : Parsed Unit :=
  match value.lookup (js "schemaVersion") with
  | some (.string version) =>
    if version = deviceContractVersion then .ok () else invalid "body.schemaVersion" "must equal 1"
  | _ => invalid "body.schemaVersion" "must equal 1"

/-- `parseActionParams`. -/
def parseActionParams (input : JsonValue) (path : String) : Parsed JsNumber := do
  let value ← objectAt (some input) path
  match value.lookup (js "minutes") with
  | some (.number minutes) =>
    if validMinutes minutes then .ok minutes
    else invalid (path ++ ".minutes") "must be an integer from 1 to 1440"
  | _ => invalid (path ++ ".minutes") "must be an integer from 1 to 1440"

/-- `actionLabelAt`. What it refuses is what `isSafeActionLabel` refuses. -/
def actionLabelAt (input : Option JsonValue) (path : String) : Parsed JsString := do
  let value ← stringAt input path
  if isSafeActionLabel value then .ok value
  else invalid path "must be a visible string of at most 128 characters"

/-- The `params` of an action option, if it has any. -/
def optionalActionParams (value : JsonObject) (path : String) : Parsed (Option JsNumber) :=
  match value.lookup (js "params") with
  | none => .ok none
  | some params => (parseActionParams params path).map some

/-- `parseNotificationAction`. -/
def parseNotificationAction (input : JsonValue) (path : String) : Parsed NotificationActionOption := do
  let value ← objectAt (some input) path
  let type ← enumAt (value.lookup (js "type"))
    [("acknowledge", ReminderActionKind.acknowledge), ("snooze", .snooze)] (path ++ ".type")
  let minutes ← optionalActionParams value (path ++ ".params")
  if type = .snooze ∧ minutes = none then invalid (path ++ ".params") "is required for a snooze action"
  else
    let _ ← enumAt (value.lookup (js "kind")) [("command", ())] (path ++ ".kind")
    let label ← actionLabelAt (value.lookup (js "label")) (path ++ ".label")
    return { type, label, minutes }

/-- The loop over `actions`, from an index on. -/
def parseNotificationActions : ℕ → List JsonValue → Parsed (List NotificationActionOption)
  | _, [] => .ok []
  | index, action :: actions => do
    let parsed ← parseNotificationAction action ("body.actions[" ++ toString index ++ "]")
    let rest ← parseNotificationActions (index + 1) actions
    return parsed :: rest

/-- `Array.isArray`. -/
def arrayAt (input : Option JsonValue) (path : String) : Parsed (List JsonValue) :=
  match input with
  | some (.array items) => .ok items
  | _ => invalid path "must be an array"

/-- The checks of the number of actions. -/
def checkActions (reminderType : ReminderType) (actions : List NotificationActionOption) : Parsed Unit :=
  if maxNotificationActions < actions.length then invalid "body.actions" "must contain at most 16 actions"
  else if reminderType = .weak ∧ actions.length ≠ 0 then
    invalid "body.actions" "must be empty for a weak reminder"
  else if reminderType = .strong ∧ actions.length = 0 then
    invalid "body.actions" "must contain at least one action for a strong reminder"
  else .ok ()

/-- `parseNotificationIntent`. -/
def parseNotificationIntent (input : JsonValue) : Parsed NotificationIntent := do
  let value ← objectAt (some input) "body"
  let recipient ← objectAt (value.lookup (js "recipient")) "body.recipient"
  let content ← objectAt (value.lookup (js "content")) "body.content"
  let body ← optionalString content "body" "body.content.body"
  let reminderType ← enumAt (value.lookup (js "reminderType"))
    [("weak", ReminderType.weak), ("strong", .strong)] "body.reminderType"
  let actions ← arrayAt (value.lookup (js "actions")) "body.actions"
  let actions ← parseNotificationActions 0 actions
  checkActions reminderType actions
  contractVersion value
  let businessEventId ← requiredId value "businessEventId" "body.businessEventId"
  let correlationId ← requiredId value "correlationId" "body.correlationId"
  let _ ← enumAt (value.lookup (js "kind")) [("reminder_due", ())] "body.kind"
  let userId ← requiredId recipient "userId" "body.recipient.userId"
  let deviceId ← requiredId recipient "deviceId" "body.recipient.deviceId"
  let scheduleId ← requiredId value "scheduleId" "body.scheduleId"
  let taskId ← requiredId value "taskId" "body.taskId"
  let instanceId ← requiredId value "instanceId" "body.instanceId"
  let reminderTriggerId ← requiredId value "reminderTriggerId" "body.reminderTriggerId"
  let title ← stringAt (content.lookup (js "title")) "body.content.title"
  let plannedAt ← isoDateTimeAt (value.lookup (js "plannedAt")) "body.plannedAt"
  let triggerAt ← isoDateTimeAt (value.lookup (js "triggerAt")) "body.triggerAt"
  let occurredAt ← isoDateTimeAt (value.lookup (js "occurredAt")) "body.occurredAt"
  return { businessEventId, correlationId, userId, deviceId, scheduleId, taskId, instanceId,
           reminderTriggerId, title, body, plannedAt, triggerAt, occurredAt, reminderType, actions }

/-! ## The intent as JSON -/

/-- The fields of an action option. -/
def NotificationActionOption.fields (option : NotificationActionOption) : JsonObject :=
  ([(js "kind", .string (js "command")), (js "type", .string option.type.text),
    (js "label", .string option.label)] : JsonObject) ++
    optionalField "params" (option.minutes.map fun minutes => (minutesParams minutes).value)

/-- The fields of an intent, in the order in which the parser writes them. -/
def NotificationIntent.fields (intent : NotificationIntent) : JsonObject :=
  [(js "schemaVersion", .string deviceContractVersion),
    (js "businessEventId", .string intent.businessEventId),
    (js "correlationId", .string intent.correlationId),
    (js "kind", .string (js "reminder_due")),
    (js "recipient", .object [(js "userId", .string intent.userId), (js "deviceId", .string intent.deviceId)]),
    (js "scheduleId", .string intent.scheduleId),
    (js "taskId", .string intent.taskId),
    (js "instanceId", .string intent.instanceId),
    (js "reminderTriggerId", .string intent.reminderTriggerId),
    (js "content", .object ((js "title", .string intent.title) ::
      optionalField "body" (intent.body.map .string))),
    (js "plannedAt", .string intent.plannedAt.text),
    (js "triggerAt", .string intent.triggerAt.text),
    (js "occurredAt", .string intent.occurredAt.text),
    (js "reminderType", .string intent.reminderType.text),
    (js "actions", .array (intent.actions.map fun option => .object option.fields))]

theorem NotificationActionOption.wellFormed (option : NotificationActionOption) :
    (JsonValue.object option.fields).WellFormed := by
  refine ⟨?_, JsonValue.wellFormedFields_iff.2 ?_⟩
  · have hkeys : [js "kind", js "type", js "label", js "params"].Nodup := by
      decide
    exact hkeys.sublist ((List.Sublist.refl [js "kind", js "type", js "label"]).append
      (ReminderActionStatusReport.optionalField_sublist _ _))
  · rw [fields, List.forall_mem_append]
    refine ⟨by simp [JsonValue.WellFormed], ?_⟩
    apply ReminderActionStatusReport.optionalField_wellFormed
    intro value hvalue
    obtain ⟨minutes, -, rfl⟩ := Option.map_eq_some_iff.1 hvalue
    exact (minutesParams minutes).wellFormed

theorem NotificationIntent.wellFormed (intent : NotificationIntent) :
    (JsonValue.object intent.fields).WellFormed := by
  have hkeys : [js "schemaVersion", js "businessEventId", js "correlationId", js "kind", js "recipient",
      js "scheduleId", js "taskId", js "instanceId", js "reminderTriggerId", js "content", js "plannedAt",
      js "triggerAt", js "occurredAt", js "reminderType", js "actions"].Nodup := by
    decide
  have hrecipient : [js "userId", js "deviceId"].Nodup := by
    decide
  have hcontent : [js "title", js "body"].Nodup := by
    decide
  refine ⟨hkeys, trivial, trivial, trivial, trivial, ⟨hrecipient, trivial, trivial, trivial⟩, trivial,
    trivial, trivial, trivial, ⟨?_, trivial, ?_⟩, trivial, trivial, trivial, trivial, ?_, trivial⟩
  · exact hcontent.sublist ((ReminderActionStatusReport.optionalField_sublist _ _).cons_cons _)
  · apply JsonValue.wellFormedFields_iff.2
    apply ReminderActionStatusReport.optionalField_wellFormed
    intro value hvalue
    obtain ⟨text, -, rfl⟩ := Option.map_eq_some_iff.1 hvalue
    trivial
  · apply JsonValue.wellFormedItems_iff.2
    intro item hitem
    obtain ⟨option, -, rfl⟩ := List.mem_map.1 hitem
    exact option.wellFormed

/-- The intent as the payload of its deliveries. -/
def NotificationIntent.toJson (intent : NotificationIntent) : Json where
  value := .object intent.fields
  wellFormed := intent.wellFormed

/-- `submitNotification` up to `createDeliveries`. -/
def submitNotification (addMinutes : AddMinutes) (intent : NotificationIntent) : SubmissionInput where
  businessEventId := intent.businessEventId
  correlationId := intent.correlationId
  userId := some intent.userId
  deviceId := some intent.deviceId
  kind := .reminderDue
  payload := intent.toJson
  actionStream :=
    if intent.reminderType = .strong then
      some ⟨intent.reminderTriggerId, addMinutes intent.triggerAt defaultActionWindowMinutes⟩
    else none

/-! ## What the parser accepts -/

theorem invalid_ne_ok {α : Type} {path expectation : String} {value : α} :
    invalid path expectation ≠ .ok value := by
  intro h
  cases h

theorem stringAt_ok {input : Option JsonValue} {path : String} {value : JsString}
    (h : stringAt input path = .ok value) : input = some (.string value) ∧ value ≠ [] := by
  unfold stringAt at h
  split at h
  · rename_i text
    by_cases hempty : text.length = 0
    · rw [if_pos hempty] at h
      exact absurd h invalid_ne_ok
    · rw [if_neg hempty] at h
      cases h
      refine ⟨rfl, ?_⟩
      rintro rfl
      exact hempty rfl
  · exact absurd h invalid_ne_ok

theorem parseActionParams_ok {input : JsonValue} {path : String} {minutes : JsNumber}
    (h : parseActionParams input path = .ok minutes) : validMinutes minutes = true := by
  obtain ⟨value, -, h⟩ := exists_of_bind_eq_ok h
  split at h
  · rename_i found _
    by_cases hvalid : validMinutes found = true
    · rw [if_pos hvalid] at h
      cases h
      exact hvalid
    · rw [if_neg hvalid] at h
      exact absurd h invalid_ne_ok
  · exact absurd h invalid_ne_ok

theorem actionLabelAt_ok {input : Option JsonValue} {path : String} {label : JsString}
    (h : actionLabelAt input path = .ok label) : isSafeActionLabel label = true := by
  obtain ⟨value, -, h⟩ := exists_of_bind_eq_ok h
  by_cases hsafe : isSafeActionLabel value = true
  · rw [if_pos hsafe] at h
    cases h
    exact hsafe
  · rw [if_neg hsafe] at h
    exact absurd h invalid_ne_ok

/-- An option that the gateway may offer. -/
structure NotificationActionOption.Valid (option : NotificationActionOption) : Prop where
  label : isSafeActionLabel option.label = true
  minutes : ∀ minutes ∈ option.minutes, validMinutes minutes = true
  snooze : option.type = .snooze → option.minutes ≠ none

/-- The texts that have to be there, and options that the gateway may offer. -/
structure NotificationIntent.Valid (intent : NotificationIntent) : Prop where
  texts : ∀ text ∈ [intent.businessEventId, intent.correlationId, intent.userId, intent.deviceId,
    intent.scheduleId, intent.taskId, intent.instanceId, intent.reminderTriggerId, intent.title], text ≠ []
  actions : ∀ option ∈ intent.actions, option.Valid
  few : intent.actions.length ≤ maxNotificationActions
  strong : intent.reminderType = .strong ↔ intent.actions ≠ []

theorem optionalActionParams_ok {value : JsonObject} {path : String} {minutes : Option JsNumber}
    (h : optionalActionParams value path = .ok minutes) :
    ∀ number ∈ minutes, validMinutes number = true := by
  unfold optionalActionParams at h
  split at h
  · cases h
    exact fun _ hmem => absurd hmem (Option.not_mem_none _)
  · rename_i params _
    cases hparams : parseActionParams params path with
    | error error =>
        rw [hparams] at h
        cases h
    | ok number =>
        rw [hparams] at h
        cases h
        intro other hother
        rw [← Option.some.inj hother]
        exact parseActionParams_ok hparams

theorem parseNotificationAction_ok {input : JsonValue} {path : String} {option : NotificationActionOption}
    (h : parseNotificationAction input path = .ok option) : option.Valid := by
  obtain ⟨value, -, h⟩ := exists_of_bind_eq_ok h
  obtain ⟨type, -, h⟩ := exists_of_bind_eq_ok h
  obtain ⟨minutes, hminutes, h⟩ := exists_of_bind_eq_ok h
  by_cases hmissing : type = .snooze ∧ minutes = none
  · rw [if_pos hmissing] at h
    exact absurd h invalid_ne_ok
  · rw [if_neg hmissing] at h
    obtain ⟨_, -, h⟩ := exists_of_bind_eq_ok h
    obtain ⟨label, hlabel, h⟩ := exists_of_bind_eq_ok h
    cases h
    exact ⟨actionLabelAt_ok hlabel, optionalActionParams_ok hminutes, fun htype hnone => hmissing ⟨htype, hnone⟩⟩

theorem parseNotificationActions_ok {index : ℕ} {inputs : List JsonValue}
    {options : List NotificationActionOption} (h : parseNotificationActions index inputs = .ok options) :
    ∀ option ∈ options, option.Valid := by
  induction inputs generalizing index options with
  | nil =>
      cases h
      exact List.forall_mem_nil _
  | cons input inputs ih =>
      obtain ⟨option, hoption, h⟩ := exists_of_bind_eq_ok h
      obtain ⟨rest, hrest, h⟩ := exists_of_bind_eq_ok h
      cases h
      exact List.forall_mem_cons.2 ⟨parseNotificationAction_ok hoption, ih hrest⟩

theorem checkActions_ok {reminderType : ReminderType} {actions : List NotificationActionOption}
    (h : checkActions reminderType actions = .ok ()) :
    actions.length ≤ maxNotificationActions ∧ (reminderType = .strong ↔ actions ≠ []) := by
  unfold checkActions at h
  split_ifs at h with hmany hweak hstrong
  · exact absurd h invalid_ne_ok
  · exact absurd h invalid_ne_ok
  · exact absurd h invalid_ne_ok
  · refine ⟨not_lt.1 hmany, fun htype hempty => hstrong ⟨htype, ?_⟩, fun hne => ?_⟩
    · rw [hempty, List.length_nil]
    · by_contra htype
      have hweak' : reminderType = .weak := by
        cases reminderType with
        | weak => rfl
        | strong => exact absurd rfl htype
      exact hweak ⟨hweak', mt List.length_eq_zero_iff.1 hne⟩

/-- An accepted intent is valid. -/
theorem parseNotificationIntent_ok {input : JsonValue} {intent : NotificationIntent}
    (h : parseNotificationIntent input = .ok intent) : intent.Valid := by
  obtain ⟨value, -, h⟩ := exists_of_bind_eq_ok h
  obtain ⟨recipient, -, h⟩ := exists_of_bind_eq_ok h
  obtain ⟨content, -, h⟩ := exists_of_bind_eq_ok h
  obtain ⟨body, -, h⟩ := exists_of_bind_eq_ok h
  obtain ⟨reminderType, -, h⟩ := exists_of_bind_eq_ok h
  obtain ⟨inputs, -, h⟩ := exists_of_bind_eq_ok h
  obtain ⟨actions, hactions, h⟩ := exists_of_bind_eq_ok h
  obtain ⟨_, hcheck, h⟩ := exists_of_bind_eq_ok h
  obtain ⟨_, -, h⟩ := exists_of_bind_eq_ok h
  obtain ⟨businessEventId, hbusiness, h⟩ := exists_of_bind_eq_ok h
  obtain ⟨correlationId, hcorrelation, h⟩ := exists_of_bind_eq_ok h
  obtain ⟨_, -, h⟩ := exists_of_bind_eq_ok h
  obtain ⟨userId, huser, h⟩ := exists_of_bind_eq_ok h
  obtain ⟨deviceId, hdevice, h⟩ := exists_of_bind_eq_ok h
  obtain ⟨scheduleId, hschedule, h⟩ := exists_of_bind_eq_ok h
  obtain ⟨taskId, htask, h⟩ := exists_of_bind_eq_ok h
  obtain ⟨instanceId, hinstance, h⟩ := exists_of_bind_eq_ok h
  obtain ⟨reminderTriggerId, htrigger, h⟩ := exists_of_bind_eq_ok h
  obtain ⟨title, htitle, h⟩ := exists_of_bind_eq_ok h
  obtain ⟨plannedAt, -, h⟩ := exists_of_bind_eq_ok h
  obtain ⟨triggerAt, -, h⟩ := exists_of_bind_eq_ok h
  obtain ⟨occurredAt, -, h⟩ := exists_of_bind_eq_ok h
  cases h
  obtain ⟨hfew, hstrong⟩ := checkActions_ok hcheck
  refine ⟨?_, parseNotificationActions_ok hactions, hfew, hstrong⟩
  simp only [List.forall_mem_cons]
  exact ⟨(stringAt_ok hbusiness).2, (stringAt_ok hcorrelation).2, (stringAt_ok huser).2, (stringAt_ok hdevice).2,
    (stringAt_ok hschedule).2, (stringAt_ok htask).2, (stringAt_ok hinstance).2, (stringAt_ok htrigger).2,
    (stringAt_ok htitle).2, List.forall_mem_nil _⟩

/-! ## What the actions read back -/

/-- The metadata of a delivery are those of its intent, and only a strong reminder has them. -/
theorem readStrongReminderMetadata_payload {intent : NotificationIntent} {metadata : StrongReminderMetadata}
    (h : readStrongReminderMetadata intent.toJson.value = some metadata) :
    intent.reminderType = .strong ∧ metadata.deviceId = intent.deviceId ∧
      metadata.reminderTriggerId = intent.reminderTriggerId := by
  have htype : intent.toJson.value.get? (js "reminderType") = some (.string intent.reminderType.text) := rfl
  have htrigger : intent.toJson.value.get? (js "reminderTriggerId") =
      some (.string intent.reminderTriggerId) := rfl
  have hrecipient : intent.toJson.value.get? (js "recipient") =
      some (.object [(js "userId", .string intent.userId), (js "deviceId", .string intent.deviceId)]) := rfl
  have hdevice : (JsonValue.object [(js "userId", .string intent.userId),
      (js "deviceId", .string intent.deviceId)]).get? (js "deviceId") = some (.string intent.deviceId) := rfl
  have hactions : intent.toJson.value.get? (js "actions") =
      some (.array (intent.actions.map fun option => .object option.fields)) := rfl
  unfold readStrongReminderMetadata at h
  rw [htype, htrigger, hrecipient, hactions] at h
  dsimp only at h
  by_cases hstrong : intent.reminderType.text = js "strong"
  · rw [if_neg (not_not.2 hstrong), hdevice] at h
    dsimp only at h
    split at h
    · cases h
    · cases h
    · cases h
      exact ⟨ReminderType.text_injective hstrong, rfl, rfl⟩
  · rw [if_pos hstrong] at h
    cases h

end VoiceLife.Gateway
