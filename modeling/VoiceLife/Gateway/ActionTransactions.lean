import VoiceLife.Lib.ReadCommitted
import VoiceLife.Gateway.Actions

/-! # `postgres/action-repository.ts` and the transactions of the reminder actions

What the statements of the repositories answer and change, and the transactions of
`DefaultActionApplication` as programs of such statements. A row is the record that the mappers read
back; times are compared as instants. Every reading of the clock is one of a sequence that belongs to
the transaction.
-/

namespace VoiceLife.Gateway.Postgres

open Database.Transaction

/-! ## Statements -/

/-- `im_actions` and `im_reminder_action_facts`. -/
structure ActionRows where
  actions : KeyTable ImAction := .empty
  facts : KeyTable DeviceReminderActionFact := .empty

/-- A row that a statement writes. -/
inductive RowChange where
  | action (row : ImAction)
  | fact (row : DeviceReminderActionFact)

/-- The statements of `PostgresActionRepository` and `PostgresReminderActionFactRepository`. -/
inductive Statement where
  | findById (id : ActionId)
  | findByOperationId (operationId : OperationId)
  | findPendingByDeviceAndTrigger (deviceId : DeviceId) (reminderTriggerId : ReminderTriggerId)
      (now : IsoDateTime)
  | findExpiredActions (now : IsoDateTime)
  | recoverStaleProcessingActions (now staleBefore : IsoDateTime)
  | saveAction (action : ImAction)
  | findByEventId (eventId : EventId)
  | findByDeviceAndOperationId (deviceId : DeviceId) (operationId : OperationId)
  | findByDeviceTriggerAndOccurredAt (deviceId : DeviceId) (reminderTriggerId : ReminderTriggerId)
      (occurredAt : IsoDateTime)
  | findLatestByDeviceAndTrigger (deviceId : DeviceId) (reminderTriggerId : ReminderTriggerId)
  | insertFact (fact : DeviceReminderActionFact)

/-- What a statement answers. -/
def Statement.Answer : Statement → Type
  | .findById _ | .findByOperationId _ => Option ImAction
  | .findPendingByDeviceAndTrigger .. | .findExpiredActions _ => List ImAction
  | .recoverStaleProcessingActions .. => List ImAction
  | .saveAction _ => Unit
  | .findByEventId _ | .findByDeviceAndOperationId .. => Option DeviceReminderActionFact
  | .findByDeviceTriggerAndOccurredAt .. => Option DeviceReminderActionFact
  | .findLatestByDeviceAndTrigger .. => Option DeviceReminderActionFact
  | .insertFact _ => Option DeviceReminderActionFact

/-- `ORDER BY created_at ASC, id ASC`. -/
def createdBefore (left right : ImAction) : Prop :=
  left.createdAt.parse < right.createdAt.parse ∨
    (left.createdAt.parse = right.createdAt.parse ∧ left.id ≤ right.id)

instance : DecidableRel createdBefore := fun _ _ => inferInstanceAs (Decidable (_ ∨ _))

/-- `ORDER BY occurred_at DESC, received_at DESC, event_id DESC`. -/
def occurredAfter (left right : DeviceReminderActionFact) : Prop :=
  right.report.occurredAt.parse < left.report.occurredAt.parse ∨
    (right.report.occurredAt.parse = left.report.occurredAt.parse ∧
      (right.receivedAt.parse < left.receivedAt.parse ∨
        (right.receivedAt.parse = left.receivedAt.parse ∧ right.eventId ≤ left.eventId)))

instance : DecidableRel occurredAfter := fun _ _ => inferInstanceAs (Decidable (_ ∨ _))

/-- A unique index keeps the two facts apart. -/
def sameFactKey (left right : DeviceReminderActionFact) : Bool :=
  left.eventId = right.eventId ||
    (left.report.deviceId = right.report.deviceId &&
      left.report.operationId = right.report.operationId) ||
    (left.report.deviceId = right.report.deviceId &&
      left.report.reminderTriggerId = right.report.reminderTriggerId &&
      left.report.occurredAt.parse = right.report.occurredAt.parse)

/-- The action after `recoverStaleProcessingActions`. -/
def recoveredAction (now : IsoDateTime) (action : ImAction) : ImAction :=
  { action with status := .pending, dispatchedAt := none, updatedAt := now }

/-- The answer of a statement and the rows that it writes. -/
def execute : (statement : Statement) → ActionRows → statement.Answer × List RowChange
  | .findById id, rows => (rows.actions.get? id, [])
  | .findByOperationId operationId, rows =>
    (rows.actions.rows.find? fun action => action.operationId = operationId, [])
  | .findPendingByDeviceAndTrigger deviceId reminderTriggerId now, rows =>
    ((rows.actions.rows.filter fun action =>
      action.deviceId = deviceId ∧ action.reminderTriggerId = reminderTriggerId ∧
        now.parse < action.expiresAt.parse ∧
          ImStore.isOpenStatus action.status).insertionSort createdBefore, [])
  | .findExpiredActions now, rows =>
    ((rows.actions.rows.filter fun action =>
      action.expiresAt.parse ≤ now.parse ∧
        ImStore.isOpenStatus action.status).insertionSort createdBefore, [])
  | .recoverStaleProcessingActions now staleBefore, rows =>
    let stale := rows.actions.rows.filter fun action =>
      action.status = .processing ∧ action.updatedAt.parse ≤ staleBefore.parse ∧
        now.parse < action.expiresAt.parse
    (stale.map (recoveredAction now), (stale.map (recoveredAction now)).map .action)
  | .saveAction action, _ => ((), [.action action])
  | .findByEventId eventId, rows => (rows.facts.get? eventId, [])
  | .findByDeviceAndOperationId deviceId operationId, rows =>
    (rows.facts.rows.find? fun fact =>
      fact.report.deviceId = deviceId ∧ fact.report.operationId = operationId, [])
  | .findByDeviceTriggerAndOccurredAt deviceId reminderTriggerId occurredAt, rows =>
    (rows.facts.rows.find? fun fact =>
      fact.report.deviceId = deviceId ∧ fact.report.reminderTriggerId = reminderTriggerId ∧
        fact.report.occurredAt.parse = occurredAt.parse, [])
  | .findLatestByDeviceAndTrigger deviceId reminderTriggerId, rows =>
    (((rows.facts.rows.filter fun fact =>
      fact.report.deviceId = deviceId ∧
        fact.report.reminderTriggerId = reminderTriggerId).insertionSort occurredAfter).head?, [])
  | .insertFact fact, rows =>
    if rows.facts.rows.any (sameFactKey fact) then (none, []) else (some fact, [.fact fact])

/-- The rows after a write. -/
def applyChange (rows : ActionRows) : RowChange → ActionRows
  | .action row => { rows with actions := rows.actions.set row }
  | .fact row => { rows with facts := rows.facts.set row }

/-- The two writes are for one row, or for rows that a unique index keeps apart. -/
def conflicts : RowChange → RowChange → Bool
  | .action left, .action right => left.id = right.id
  | .fact left, .fact right => sameFactKey left right
  | _, _ => false

/-- The database of the reminder actions. -/
def actionDatabase : Database ActionRows where
  Statement := Statement
  Answer := Statement.Answer
  Change := RowChange
  execute := execute
  apply := applyChange
  conflicts := conflicts

/-- A transaction on the reminder actions. -/
abbrev ActionTransaction := actionDatabase.Transaction TransactionError

/-- A failure with a stable code. -/
def refuse {ρ : Type} (error : ImGatewayError) : ActionTransaction ρ :=
  fail (.gateway error)

/-- One statement on the reminder actions. -/
def sql (statement : Statement) : ActionTransaction statement.Answer :=
  ask (show actionDatabase.Statement from statement)

/-! ## `PostgresActionRepository` -/

/-- `findById`. -/
def findById (id : ActionId) : ActionTransaction (Option ImAction) :=
  sql (.findById id)

/-- `findByOperationId`. -/
def findByOperationId (operationId : OperationId) : ActionTransaction (Option ImAction) :=
  sql (.findByOperationId operationId)

/-- `findPendingByDeviceAndTrigger`. -/
def findPendingByDeviceAndTrigger (deviceId : DeviceId) (reminderTriggerId : ReminderTriggerId)
    (now : IsoDateTime) : ActionTransaction (List ImAction) :=
  sql (.findPendingByDeviceAndTrigger deviceId reminderTriggerId now)

/-- `findExpiredActions`. -/
def findExpiredActions (now : IsoDateTime) : ActionTransaction (List ImAction) :=
  sql (.findExpiredActions now)

/-- `recoverStaleProcessingActions`. -/
def recoverStaleProcessingActions (now staleBefore : IsoDateTime) : ActionTransaction (List ImAction) :=
  sql (.recoverStaleProcessingActions now staleBefore)

/-- `save`: an upsert of the whole row. -/
def save (action : ImAction) : ActionTransaction Unit :=
  sql (.saveAction action)

/-- Save some actions, one after the other. -/
def saveEach : List ImAction → ActionTransaction Unit
  | [] => pure ()
  | action :: actions => do
    save action
    saveEach actions

/-! ## `PostgresReminderActionFactRepository` -/

/-- `findByEventId`. -/
def findByEventId (eventId : EventId) : ActionTransaction (Option DeviceReminderActionFact) :=
  sql (.findByEventId eventId)

/-- `findByDeviceAndOperationId`. -/
def findByDeviceAndOperationId (deviceId : DeviceId) (operationId : OperationId) :
    ActionTransaction (Option DeviceReminderActionFact) :=
  sql (.findByDeviceAndOperationId deviceId operationId)

/-- `findByDeviceTriggerAndOccurredAt`. -/
def findByDeviceTriggerAndOccurredAt (deviceId : DeviceId) (reminderTriggerId : ReminderTriggerId)
    (occurredAt : IsoDateTime) : ActionTransaction (Option DeviceReminderActionFact) :=
  sql (.findByDeviceTriggerAndOccurredAt deviceId reminderTriggerId occurredAt)

/-- `findLatestByDeviceAndTrigger`. -/
def findLatestByDeviceAndTrigger (deviceId : DeviceId) (reminderTriggerId : ReminderTriggerId) :
    ActionTransaction (Option DeviceReminderActionFact) :=
  sql (.findLatestByDeviceAndTrigger deviceId reminderTriggerId)

/-- `createIfAbsent`: the fact that is stored, and whether this call stored it. -/
def createFactIfAbsent (fact : DeviceReminderActionFact) :
    ActionTransaction (DeviceReminderActionFact × Bool) := do
  match ← sql (.insertFact fact) with
  | some inserted => pure (inserted, true)
  | none =>
    match ← findByEventId fact.eventId with
    | some existing => pure (existing, false)
    | none =>
      match ← findByDeviceAndOperationId fact.report.deviceId fact.report.operationId with
      | some operation => pure (operation, false)
      | none =>
        match ← findByDeviceTriggerAndOccurredAt fact.report.deviceId fact.report.reminderTriggerId
            fact.report.occurredAt with
        | some sameTime => pure (sameTime, false)
        | none => fail (.plain "reminder action fact conflict row vanished")

/-! ## `DefaultActionApplication` -/

/-- The readings of the clock by one call. -/
abbrev Readings := ℕ → IsoDateTime

/-- The readings after some. -/
def Readings.after (clock : Readings) (count : ℕ) : Readings :=
  fun n => clock (count + n)

/-- The transaction of `recordResult`. -/
def recordResult (clock : Readings) (commandId : ActionId) (deviceId : DeviceId)
    (result : ReminderActionResult) : ActionTransaction ImAction := do
  match ← findById commandId with
  | none => refuse ⟨.actionNotFound, "Action was not found"⟩
  | some action =>
    if action.operationId ≠ result.operationId ∨ action.deviceId ≠ deviceId ∨
        action.reminderTriggerId ≠ result.reminderTriggerId then
      refuse ⟨.invalidTransition, "Action result does not match command scope"⟩
    else if !nextTriggerMatches result.status action.actionType result.nextTriggerAt then
      refuse ⟨.invalidTransition, "Action result nextTriggerAt does not match its action type"⟩
    else if action.status.isTerminal then
      if action.result.map ReminderActionResult.status = some result.status then pure action
      else refuse ⟨.invalidTransition, "A terminal Action result cannot be overwritten"⟩
    else
      let updated : ImAction :=
        { action with
          status := toActionStatus result.status, result := some result, updatedAt := clock 0 }
      save updated
      pure updated

/-- The checks of a report against the facts that are stored before it. -/
def checkReport (report : ReminderActionStatusReport) : ActionTransaction Unit := do
  let existingOperation ← findByDeviceAndOperationId report.deviceId report.operationId
  if existingOperation.any fun fact => fact.eventId ≠ report.eventId then
    refuse ⟨.idempotencyConflict, "Device action operationId was reused with different data"⟩
  else
    match ← findLatestByDeviceAndTrigger report.deviceId report.reminderTriggerId with
    | none => pure ()
    | some previousLatest =>
      if previousLatest.eventId = report.eventId then pure ()
      else if report.occurredAt.parse = previousLatest.report.occurredAt.parse then
        refuse concurrentReports
      else if previousLatest.report.status = .succeeded ∧
          report.occurredAt.parse > previousLatest.report.occurredAt.parse then
        refuse ⟨.invalidTransition,
          "A later device report cannot overwrite an already succeeded reminder action"⟩
      else pure ()

/-- Store the fact of a report that has none. -/
def storeFact (report : ReminderActionStatusReport) (now : IsoDateTime) : ActionTransaction Unit := do
  let (fact, created) ← createFactIfAbsent (reportFact report now)
  if !created && fact.fingerprint ≠ (reportFact report now).fingerprint then
    if fact.report.deviceId = report.deviceId ∧
        fact.report.reminderTriggerId = report.reminderTriggerId ∧
        fact.report.occurredAt.parse = report.occurredAt.parse then
      refuse concurrentReports
    else refuse eventReused
  else pure ()

/-- The loop over the open actions: the last one of the kind of the report. -/
def settleEach (report : ReminderActionStatusReport) (clock : Readings) (matching : Option ImAction) :
    List ImAction → ActionTransaction (Option ImAction)
  | [] => pure matching
  | action :: actions => do
    let updated := settledAction report (clock 0) action
    save updated
    settleEach report (clock.after 1)
      (if action.actionType = report.action then some updated else matching) actions

/-- Settle the open actions of the reminder, if the report is its latest fact. -/
def settleActions (report : ReminderActionStatusReport) (clock : Readings) :
    ActionTransaction (Option ImAction) := do
  match ← findLatestByDeviceAndTrigger report.deviceId report.reminderTriggerId with
  | none => pure none
  | some latest =>
    if latest.report.eventId ≠ report.eventId then pure none
    else
      let pending ←
        findPendingByDeviceAndTrigger report.deviceId report.reminderTriggerId (clock 0)
      settleEach report (clock.after 1) none pending

/-- The transaction of `recordDeviceActionStatus` after the event was looked up. -/
def recordReport (clock : Readings) (report : ReminderActionStatusReport) (isNew : Bool) :
    ActionTransaction (Option ImAction) := do
  checkReport report
  if isNew then
    storeFact report (clock 0)
    settleActions report (clock.after 1)
  else settleActions report clock

/-- `recordDeviceActionStatus`. -/
def recordDeviceActionStatus (clock : Readings) (report : ReminderActionStatusReport) :
    ActionTransaction (Option ImAction) := do
  if !nextTriggerMatches report.status report.action report.nextTriggerAt then
    refuse ⟨.invalidTransition, "Device action nextTriggerAt does not match action"⟩
  else
    match ← findByEventId report.eventId with
    | none => recordReport clock report true
    | some existingEvent =>
      if existingEvent.fingerprint ≠ canonicalizeJson report.toJsonValue then refuse eventReused
      else
        match ← findByOperationId report.operationId with
        | none => recordReport clock report false
        | some existingAction =>
          if existingAction.deviceId = report.deviceId then pure (some existingAction)
          else recordReport clock report false

/-- The action, expired. -/
def expiredAction (now : IsoDateTime) (action : ImAction) : ImAction :=
  { action with status := .expired, updatedAt := now }

/-- The transaction of `expireDue`. -/
def expireDue (clock : Readings) : ActionTransaction (List ImAction) := do
  let actions ← findExpiredActions (clock 0)
  saveEach (actions.zipIdx.map fun (action, index) => expiredAction (clock (index + 1)) action)
  pure actions

/-- The transaction of `markProcessing`. -/
def markProcessing (clock : Readings) (actionId : ActionId) (deviceId : DeviceId)
    (reminderTriggerId : ReminderTriggerId) : ActionTransaction Unit := do
  match ← findById actionId with
  | none => refuse ⟨.invalidTransition, "Action cannot enter processing for this stream"⟩
  | some action =>
    if action.deviceId ≠ deviceId ∨ action.reminderTriggerId ≠ reminderTriggerId then
      refuse ⟨.invalidTransition, "Action cannot enter processing for this stream"⟩
    else if action.status = .processing ∨ action.status.isTerminal then pure ()
    else save { action with status := .processing, updatedAt := clock 0 }

/-- The action, dispatched. -/
def dispatchedAction (dispatchedAt updatedAt : IsoDateTime) (action : ImAction) : ImAction :=
  { action with status := .dispatched, dispatchedAt := some dispatchedAt, updatedAt := updatedAt }

/-- The transaction of `replayPending`. -/
def replayPending (clock : Readings) (deviceId : DeviceId) (reminderTriggerId : ReminderTriggerId) :
    ActionTransaction (List ReminderActionCommand) := do
  let replay ← findPendingByDeviceAndTrigger deviceId reminderTriggerId (clock 0)
  let pending := replay.filter fun action => action.status = .pending
  saveEach (pending.zipIdx.map fun (action, index) =>
    dispatchedAction (clock (2 * index + 1)) (clock (2 * index + 2)) action)
  pure (replay.map toCommand)

/-- The transaction of `recoverStaleProcessing`. -/
def recoverStaleProcessing (now staleBefore : IsoDateTime) :
    ActionTransaction (List ReminderActionCommand) := do
  let recovered ← recoverStaleProcessingActions now staleBefore
  pure (recovered.map toCommand)

/-- The transaction of the internal `dispatch`. -/
def dispatch (clock : Readings) (command : ReminderActionCommand) : ActionTransaction Unit := do
  match ← findById command.commandId with
  | none => pure ()
  | some action =>
    if action.status = .dispatched then pure ()
    else save (dispatchedAction (clock 0) (clock 1) action)

/-! ## Calls -/

/-- The calls that make these transactions; `dispatch` follows a result or a recovery. -/
inductive ActionCall where
  | recordResult (clock : Readings) (commandId : ActionId) (deviceId : DeviceId)
      (result : ReminderActionResult)
  | recordDeviceActionStatus (clock : Readings) (report : ReminderActionStatusReport)
  | expireDue (clock : Readings)
  | markProcessing (clock : Readings) (actionId : ActionId) (deviceId : DeviceId)
      (reminderTriggerId : ReminderTriggerId)
  | replayPending (clock : Readings) (deviceId : DeviceId) (reminderTriggerId : ReminderTriggerId)
  | recoverStaleProcessing (now staleBefore : IsoDateTime)
  | dispatch (clock : Readings) (command : ReminderActionCommand)

/-- What the transactions return. -/
inductive Returned where
  | nothing
  | action (action : Option ImAction)
  | actions (actions : List ImAction)
  | commands (commands : List ReminderActionCommand)

/-- The transaction of a call. -/
def ActionCall.code : ActionCall → ActionTransaction Returned
  | .recordResult clock commandId deviceId result => do
    let action ← Postgres.recordResult clock commandId deviceId result
    pure (.action (some action))
  | .recordDeviceActionStatus clock report => do
    let action ← Postgres.recordDeviceActionStatus clock report
    pure (.action action)
  | .expireDue clock => do
    let actions ← Postgres.expireDue clock
    pure (.actions actions)
  | .markProcessing clock actionId deviceId reminderTriggerId => do
    Postgres.markProcessing clock actionId deviceId reminderTriggerId
    pure .nothing
  | .replayPending clock deviceId reminderTriggerId => do
    let commands ← Postgres.replayPending clock deviceId reminderTriggerId
    pure (.commands commands)
  | .recoverStaleProcessing now staleBefore => do
    let commands ← Postgres.recoverStaleProcessing now staleBefore
    pure (.commands commands)
  | .dispatch clock command => do
    Postgres.dispatch clock command
    pure .nothing

end VoiceLife.Gateway.Postgres
