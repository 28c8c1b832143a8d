import VoiceLife.Gateway.NotificationIntents
import VoiceLife.Gateway.ActionLemmas
import VoiceLife.Lib.StringifyTexts

/-! # `gateway-sse-response.ts`: the stream of reminder actions

A command goes out as one event of three lines, with heartbeats between the events. `Triggered` says which
actions the commands are made of, and `sendable_of_triggered` what holds of their ids and parameters.
-/

namespace VoiceLife.Gateway

/-! ## Tokens -/

/-- `actionIdForDelivery`. -/
def actionIdForDelivery (deliveryId : DeliveryId) : ActionId :=
  js "action-" ++ deliveryId

/-- `prepareToken`. -/
def prepareToken (now : IsoDateTime) (deliveryId : DeliveryId) (store : ImStore) :
    Except ImGatewayError ActionTokenClaims :=
  let refused : Except ImGatewayError ActionTokenClaims :=
    .error ⟨.actionExpired, "Delivery has no active strong-reminder action window"⟩
  match store.deliveries.get? deliveryId with
  | none => refused
  | some delivery =>
    match delivery.expiresAt with
    | none => refused
    | some expiresAt =>
      if expiresAt.textLe now ∨
          (readStrongReminderMetadata delivery.semanticPayload.value).isNone then refused
      else .ok ⟨actionIdForDelivery delivery.id, delivery.id, expiresAt⟩

theorem prepareToken_ok {now : IsoDateTime} {deliveryId : DeliveryId} {store : ImStore}
    {claims : ActionTokenClaims} (h : prepareToken now deliveryId store = .ok claims) :
    claims.actionId = actionIdForDelivery claims.deliveryId := by
  unfold prepareToken at h
  split at h
  · cases h
  · split at h
    · cases h
    · split at h
      · cases h
      · cases h
        rfl

/-! ## Commands as JSON -/

/-- The parameters of a command. -/
def ReminderActionCommand.params (command : ReminderActionCommand) : Option JsonValue :=
  command.minutes.map fun minutes => (minutesParams minutes).value

/-- The fields of a command. -/
def ReminderActionCommand.fields (command : ReminderActionCommand) : JsonObject :=
  ([(js "schemaVersion", .string deviceContractVersion),
    (js "commandId", .string command.commandId), (js "operationId", .string command.operationId),
    (js "correlationId", .string command.correlationId), (js "deviceId", .string command.deviceId),
    (js "actorBindingId", .string command.actorBindingId),
    (js "reminderTriggerId", .string command.reminderTriggerId),
    (js "action", .string command.action.text)] : JsonObject) ++
    optionalField "params" command.params ++
    ([(js "occurredAt", .string command.occurredAt.text),
      (js "expiresAt", .string command.expiresAt.text)] : JsonObject)

/-- The command as JSON. -/
def ReminderActionCommand.toJsonValue (command : ReminderActionCommand) : JsonValue :=
  .object command.fields

/-! ## The stream -/

/-- What the gateway writes to a stream. -/
inductive StreamWrite where
  | event (command : ReminderActionCommand)
  | heartbeat

namespace StreamWrite

/-- The lines of a write. -/
def lines : StreamWrite → List JsString
  | event command => [js "id: " ++ command.commandId, js "event: reminder.action",
      js "data: " ++ command.toJsonValue.stringify]
  | heartbeat => [js ": heartbeat"]

/-- The text of a write: its lines, and an empty one. -/
def text (write : StreamWrite) : JsString :=
  (write.lines.map (· ++ [10])).flatten ++ [10]

/-- The command of a write. -/
def command? : StreamWrite → Option ReminderActionCommand
  | event command => some command
  | heartbeat => none

end StreamWrite

/-! ## Where the commands come from -/

/-- An id of visible ASCII characters, such as a prefix and a random UUID. -/
def IsPlainId (id : JsString) : Prop :=
  id ≠ [] ∧ ∀ unit ∈ id, 33 ≤ unit.val ∧ unit.val ≤ 126

/-- `triggerPrepared` creates the action for claims of `prepareToken`, on a delivery that was made for an
accepted intent. -/
inductive Triggered (ids : IdGenerator) : NotificationIntent → ImAction → Prop where
  | intro {addMinutes : AddMinutes} {body : JsonValue} {intent : NotificationIntent}
      {madeAt preparedAt now : IsoDateTime} {drawn : ℕ} {binding : ImBinding} {account : ChannelAccount}
      {presentationType : PresentationType} {delivery : Delivery} {earlier store store' : ImStore}
      {command : TriggerPreparedActionCommand} {answer : ReminderActionCommand} {shouldDispatch : Bool}
      {action : ImAction}
      (accepted : parseNotificationIntent body = .ok intent)
      (made : SameDelivery ((submitNotification addMinutes intent).candidate madeAt (ids.nth drawn)
        binding account presentationType) delivery)
      (prepared : prepareToken preparedAt command.claims.deliveryId earlier = .ok command.claims)
      (stored : store.deliveries.get? command.claims.deliveryId = some delivery)
      (triggered : triggerPrepared ids now command store = .ok ((answer, shouldDispatch), store'))
      (absent : store.actions.get? action.id = none)
      (created : store'.actions.get? action.id = some action) :
      Triggered ids intent action

/-- What a device expects of the ids and the parameters of a command. -/
structure ReminderActionCommand.Sendable (command : ReminderActionCommand) : Prop where
  commandId : IsPlainId command.commandId
  texts : ∀ text ∈ [command.operationId, command.correlationId, command.deviceId, command.actorBindingId,
    command.reminderTriggerId], text ≠ []
  acknowledge : command.action = .acknowledge → command.minutes = none
  snooze : command.action = .snooze → ∃ minutes ∈ command.minutes, validMinutes minutes = true

/-- The minutes of a command are those of the checked parameters. -/
theorem validateReminderActionParams_ok {action : ReminderActionKind} {params actionParams : Option Json}
    (h : validateReminderActionParams action params = .ok actionParams) :
    (action = .acknowledge ∧ actionParams = none) ∨
      ∃ minutes, action = .snooze ∧ actionParams = some (minutesParams minutes) ∧
        validMinutes minutes = true := by
  cases action with
  | acknowledge =>
      by_cases hsome : params.isSome = true
      · rw [validateReminderActionParams, if_pos hsome] at h
        cases h
      · rw [validateReminderActionParams, if_neg hsome] at h
        cases h
        exact .inl ⟨rfl, rfl⟩
  | snooze =>
      unfold validateReminderActionParams at h
      dsimp only at h
      split at h
      · cases h
      · rename_i minutes hread
        cases h
        refine .inr ⟨minutes, rfl, rfl, ?_⟩
        unfold readMinutes at hread
        split at hread
        · split at hread
          · split at hread
            · rename_i hvalid
              cases hread
              exact hvalid
            · cases hread
          · cases hread
        · cases hread

/-- A created action is made of its delivery, the metadata of it and the checked command. -/
theorem created_eq {ids : IdGenerator} {now : IsoDateTime} {command : TriggerPreparedActionCommand}
    {store store' : ImStore} {answer : ReminderActionCommand} {shouldDispatch : Bool} {action : ImAction}
    (h : triggerPrepared ids now command store = .ok ((answer, shouldDispatch), store'))
    (habsent : store.actions.get? action.id = none) (hcreated : store'.actions.get? action.id = some action) :
    ∃ actionParams delivery binding metadata settled,
      validateReminderActionParams command.actionType command.actionParams = .ok actionParams ∧
        actionTarget store command now = some (delivery, binding, metadata) ∧
        action = newAction (ids.nth store.idsUsed) now command actionParams delivery binding metadata
          settled := by
  unfold triggerPrepared at h
  split at h
  · cases h
  · rename_i actionParams hparams
    by_cases hnew : store.actions.get? command.claims.actionId = none
    · obtain ⟨delivery, binding, metadata, settled, htarget, -, -, -, rfl⟩ := triggerTransaction_new h hnew
      refine ⟨actionParams, delivery, binding, metadata, settled, hparams, htarget, ?_⟩
      have hmem := (KeyTable.get?_eq_some.1 hcreated).1
      rcases KeyTable.mem_set.1 hmem with heq | ⟨hold, -⟩
      · exact heq
      · have hfound : store.actions.get? action.id = some action := KeyTable.get?_key hold
        rw [habsent] at hfound
        cases hfound
    · rcases triggerTransaction_cases h with ⟨rfl, -⟩ | ⟨other, hcreates, -⟩
      · rw [habsent] at hcreated
        cases hcreated
      · have hold := hcreates.absent
        rw [hcreates.id] at hold
        exact absurd hold hnew

theorem isPlainId_actionIdForDelivery {deliveryId : DeliveryId} (h : IsPlainId deliveryId) :
    IsPlainId (actionIdForDelivery deliveryId) := by
  have hlabel : ∀ unit ∈ js "action-", 33 ≤ unit.val ∧ unit.val ≤ 126 := by
    simp [js]
  refine ⟨List.append_ne_nil_of_right_ne_nil _ h.1, fun unit hunit => ?_⟩
  rcases List.mem_append.1 hunit with hmem | hmem
  · exact hlabel unit hmem
  · exact h.2 unit hmem

/-- Where the texts and the parameters of a created action come from. -/
structure Drawn (ids : IdGenerator) (intent : NotificationIntent) (action : ImAction) : Prop where
  id : ∃ n, action.id = actionIdForDelivery (ids.nth n)
  operationId : ∃ n, action.operationId = ids.nth n
  correlationId : action.correlationId = intent.correlationId
  deviceId : action.deviceId = intent.deviceId
  reminderTriggerId : action.reminderTriggerId = intent.reminderTriggerId
  params : (action.actionType = .acknowledge ∧ action.actionParams = none) ∨
    ∃ minutes, action.actionType = .snooze ∧ action.actionParams = some (minutesParams minutes) ∧
      validMinutes minutes = true

theorem drawn_of_triggered {ids : IdGenerator} {intent : NotificationIntent} {action : ImAction}
    (h : Triggered ids intent action) : Drawn ids intent action := by
  obtain ⟨accepted, made, prepared, stored, triggered, absent, created⟩ := h
  rename_i drawn _ _ _ delivery _ _ _ command _ _
  obtain ⟨actionParams, found, binding', metadata, settled, hparams, htarget, rfl⟩ :=
    created_eq triggered absent created
  obtain ⟨hfound, hread⟩ := actionTarget_eq_some htarget
  rw [stored, Option.some.injEq] at hfound
  subst hfound
  have hpayload : delivery.semanticPayload.value = intent.toJson.value := by
    rw [made.semanticPayload_eq]
    rfl
  have hcorrelation : delivery.correlationId = intent.correlationId := by
    obtain ⟨_, _, _, _, _, _, rfl⟩ := made
    rfl
  have hdelivery : command.claims.deliveryId = ids.nth drawn := by
    rw [← (KeyTable.get?_eq_some.1 stored).2]
    exact made.id_eq
  rw [hpayload] at hread
  obtain ⟨-, hdevice, htrigger⟩ := readStrongReminderMetadata_payload hread
  refine ⟨⟨drawn, ?_⟩, ⟨_, rfl⟩, hcorrelation, hdevice, htrigger, validateReminderActionParams_ok hparams⟩
  show command.claims.actionId = _
  rw [prepareToken_ok prepared, hdelivery]

theorem valid_of_triggered {ids : IdGenerator} {intent : NotificationIntent} {action : ImAction}
    (h : Triggered ids intent action) : intent.Valid := by
  obtain ⟨accepted, -⟩ := h
  exact parseNotificationIntent_ok accepted

/-- A command for a created action is one that a device can read. -/
theorem sendable_of_triggered {ids : IdGenerator} (hids : ∀ n, IsPlainId (ids.nth n))
    {intent : NotificationIntent} {action : ImAction} (h : Triggered ids intent action)
    (hbinding : action.actorBindingId ≠ []) : (toCommand action).Sendable := by
  have hvalid := (valid_of_triggered h).texts
  obtain ⟨⟨drawn, hid⟩, ⟨drawn', hoperation⟩, hcorrelation, hdevice, htrigger, hparams⟩ := drawn_of_triggered h
  refine ⟨?_, ?_, ?_, ?_⟩
  · show IsPlainId action.id
    rw [hid]
    exact isPlainId_actionIdForDelivery (hids drawn)
  · show ∀ text ∈ [action.operationId, action.correlationId, action.deviceId, action.actorBindingId,
      action.reminderTriggerId], text ≠ []
    rw [hoperation, hcorrelation, hdevice, htrigger]
    simp only [List.forall_mem_cons] at hvalid ⊢
    obtain ⟨-, hcorrelationId, -, hdeviceId, -, -, -, htriggerId, -⟩ := hvalid
    exact ⟨(hids _).1, hcorrelationId, hdeviceId, hbinding, htriggerId, List.forall_mem_nil _⟩
  · intro hkind
    rcases hparams with ⟨-, hnone⟩ | ⟨minutes, hsnooze, -⟩
    · rw [toCommand, hnone]
      rfl
    · exact absurd (hkind.symm.trans hsnooze) (by decide)
  · intro hkind
    rcases hparams with ⟨hacknowledge, -⟩ | ⟨minutes, -, hsome, hvalid⟩
    · exact absurd (hkind.symm.trans hacknowledge) (by decide)
    · refine ⟨minutes, ?_, hvalid⟩
      rw [toCommand, hsome]
      rfl

end VoiceLife.Gateway
