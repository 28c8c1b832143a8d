import VoiceLife.Lib.Run
import VoiceLife.Gateway.Models

/-! # `inbound-event-application.ts` and `postEvent`

Platform events are recorded, marked and dispatched by transactions of their own. Any number of calls of
`postEvent` run next to each other, a transaction or a dispatch may fail, and a call may end in a crash. The
store is that of PostgreSQL: a row has an external event and an id, and neither occurs twice.
-/

namespace VoiceLife.Gateway.Inbound

abbrev InboundEventId := JsString

/-- The type of an inbound event. -/
inductive InboundEventType where
  | messageReceived
  | actionTriggered
  | deliveryUpdated
  | bindingRequested
  deriving DecidableEq

/-- `NormalizedImEvent`, as far as it is recorded. -/
structure NormalizedImEvent where
  id : InboundEventId
  externalEventId : JsString
  channelAccountId : ChannelAccountId
  type : InboundEventType
  payload : JsonValue
  occurredAt : IsoDateTime

/-- The status of an inbound event. -/
inductive InboundEventStatus where
  | received
  | processing
  | processed
  | failed
  deriving DecidableEq

/-- `InboundEventRecord`. -/
structure InboundEventRecord where
  id : InboundEventId
  channelAccountId : ChannelAccountId
  externalEventId : JsString
  eventType : InboundEventType
  payload : JsonValue
  status : InboundEventStatus
  occurredAt : IsoDateTime
  receivedAt : IsoDateTime

/-- The channel account and the external event. -/
abbrev ExternalEvent := ChannelAccountId × JsString

/-- What the event is about. -/
def NormalizedImEvent.external (event : NormalizedImEvent) : ExternalEvent :=
  (event.channelAccountId, event.externalEventId)

instance : HasKey InboundEventRecord ExternalEvent where
  key record := (record.channelAccountId, record.externalEventId)

/-! ## `im_inbound_events` -/

/-- The table, with its primary key. -/
structure InboundEvents where
  table : KeyTable InboundEventRecord := .empty
  primaryKey : ∀ row ∈ table.rows, ∀ row' ∈ table.rows, row.id = row'.id → row = row' := by
    intro row hrow
    exact absurd hrow List.not_mem_nil

namespace InboundEvents

/-- `findById`. -/
def findById (events : InboundEvents) (id : InboundEventId) : Option InboundEventRecord :=
  events.table.rows.find? fun row => row.id = id

/-- `findByExternalEvent`. -/
def findByExternalEvent (events : InboundEvents) (external : ExternalEvent) :
    Option InboundEventRecord :=
  events.table.get? external

/-- The id belongs to a row of another event. -/
def ClashesWith (events : InboundEvents) (record : InboundEventRecord) : Prop :=
  ∃ row ∈ events.table.rows, row.id = record.id ∧ key row ≠ key record

instance (events : InboundEvents) (record : InboundEventRecord) : Decidable (events.ClashesWith record) :=
  inferInstanceAs (Decidable (∃ row ∈ events.table.rows, _))

/-- `save`: an upsert on the external event, which the primary key may refuse. -/
def save (events : InboundEvents) (record : InboundEventRecord) : Option InboundEvents :=
  if h : events.ClashesWith record then none
  else some
    { table := events.table.set record
      primaryKey := by
        intro row hrow row' hrow' hid
        rcases KeyTable.mem_set.1 hrow with rfl | ⟨hold, hkey⟩ <;>
          rcases KeyTable.mem_set.1 hrow' with rfl | ⟨hold', hkey'⟩
        · rfl
        · exact absurd ⟨row', hold', hid.symm, hkey'⟩ h
        · exact absurd ⟨row, hold, hid, hkey⟩ h
        · exact events.primaryKey row hold row' hold' hid }

end InboundEvents

/-! ## `DefaultInboundEventApplication` -/

/-- `persistedInboundPayload`. -/
def persistedInboundPayload (event : NormalizedImEvent) : JsonValue :=
  match event.type with
  | .bindingRequested => .object [(js "kind", .string (js "binding_requested"))]
  | .messageReceived =>
      let field (name : JsString) : List (JsString × JsonValue) :=
        match event.payload.get? name with
        | some (.string value) => [(name, .string value)]
        | _ => []
      .object ((js "kind", .string (js "message_received")) ::
        (field (js "messageType") ++ field (js "event")))
  | _ => event.payload

/-- The answer of `recordIfNew`. -/
inductive RecordAnswer where
  | accepted
  | duplicate
  deriving DecidableEq

/-- The record of a new event. -/
def receivedRecord (event : NormalizedImEvent) (now : IsoDateTime) : InboundEventRecord where
  id := event.id
  channelAccountId := event.channelAccountId
  externalEventId := event.externalEventId
  eventType := event.type
  payload := persistedInboundPayload event
  status := .received
  occurredAt := event.occurredAt
  receivedAt := now

/-- The record of an event that is taken up again. -/
def replayedRecord (duplicate : InboundEventRecord) (event : NormalizedImEvent) (now : IsoDateTime) :
    InboundEventRecord :=
  { duplicate with
    id := event.id
    payload := persistedInboundPayload event
    status := .received
    occurredAt := event.occurredAt
    receivedAt := now }

/-- `recordIfNew`, unless a constraint refuses the row. -/
def recordIfNew (events : InboundEvents) (event : NormalizedImEvent) (now : IsoDateTime) :
    Option (RecordAnswer × InboundEvents) :=
  match events.findByExternalEvent event.external with
  | some duplicate =>
      if duplicate.status ≠ .failed then some (.duplicate, events)
      else (events.save (replayedRecord duplicate event now)).map fun saved => (.accepted, saved)
  | none => (events.save (receivedRecord event now)).map fun saved => (.accepted, saved)

/-- `updateStatus`, unless there is no such event. -/
def updateStatus (events : InboundEvents) (eventId : InboundEventId) (status : InboundEventStatus) :
    Option InboundEvents :=
  match events.findById eventId with
  | none => none
  | some event => events.save { event with status := status }

/-- `markProcessing`. -/
def markProcessing (events : InboundEvents) (eventId : InboundEventId) : Option InboundEvents :=
  updateStatus events eventId .processing

/-- `markProcessed`. -/
def markProcessed (events : InboundEvents) (eventId : InboundEventId) : Option InboundEvents :=
  updateStatus events eventId .processed

/-- `markFailed`. -/
def markFailed (events : InboundEvents) (eventId : InboundEventId) : Option InboundEvents :=
  updateStatus events eventId .failed

/-! ## Calls of `postEvent` -/

/-- How far a call of `postEvent` has come. -/
inductive PostPhase where
  | arrived
  | accepted
  | marked
  | dispatching
  | succeeded
  | failing
  | duplicate
  | ended
  deriving DecidableEq

/-- The call works on an event that it has recorded. -/
def PostPhase.isHandling : PostPhase → Bool
  | .accepted | .marked | .dispatching | .succeeded | .failing => true
  | _ => false

/-- A call of `postEvent`. -/
structure PostCall where
  event : NormalizedImEvent
  phase : PostPhase := .arrived

/-- The store, the calls, and the events that were dispatched with success. -/
structure PlatformEvents where
  events : InboundEvents := {}
  calls : List PostCall := []
  dispatched : List ExternalEvent := []

/-- What happens next. A transaction may fail instead of committing. -/
inductive PlatformStep where
  | arrive (event : NormalizedImEvent)
  | record (index : ℕ) (commits : Bool) (now : IsoDateTime)
  | markProcessing (index : ℕ) (commits : Bool)
  | startDispatch (index : ℕ)
  | endDispatch (index : ℕ) (succeeds : Bool)
  | markProcessed (index : ℕ) (commits : Bool)
  | markFailed (index : ℕ) (commits : Bool)
  | crash (index : ℕ)

namespace PlatformEvents

/-- The call with an index, if it has come so far. -/
def callAt (state : PlatformEvents) (index : ℕ) (phase : PostPhase) : Option NormalizedImEvent :=
  match state.calls[index]? with
  | some call => if call.phase = phase then some call.event else none
  | none => none

/-- The call goes on. -/
def advance (state : PlatformEvents) (index : ℕ) (phase : PostPhase) : PlatformEvents :=
  { state with calls := state.calls.modify index fun call => { call with phase := phase } }

/-- The transaction of a call: the next phase if it commits, else the other one. -/
def transact (state : PlatformEvents) (index : ℕ) (commits : Bool) (saved : Option InboundEvents)
    (phase otherwise : PostPhase) : PlatformEvents :=
  match commits, saved with
  | true, some events => { state with events := events }.advance index phase
  | _, _ => state.advance index otherwise

/-- `recordIfNew` in `postEvent`. -/
def record (state : PlatformEvents) (index : ℕ) (commits : Bool) (now : IsoDateTime) : PlatformEvents :=
  match state.callAt index .arrived with
  | none => state
  | some event =>
      match recordIfNew state.events event now with
      | some (.duplicate, _) => state.advance index (if commits then .duplicate else .ended)
      | some (.accepted, events) => state.transact index commits (some events) .accepted .ended
      | none => state.advance index .ended

/-- `markProcessing` in `postEvent`: a failure leaves the `try` block out. -/
def beginProcessing (state : PlatformEvents) (index : ℕ) (commits : Bool) : PlatformEvents :=
  match state.callAt index .accepted with
  | none => state
  | some event => state.transact index commits (Inbound.markProcessing state.events event.id) .marked .ended

/-- `dispatch` is called. -/
def startDispatch (state : PlatformEvents) (index : ℕ) : PlatformEvents :=
  match state.callAt index .marked with
  | none => state
  | some _ => state.advance index .dispatching

/-- `dispatch` returns or throws. -/
def endDispatch (state : PlatformEvents) (index : ℕ) (succeeds : Bool) : PlatformEvents :=
  match state.callAt index .dispatching with
  | none => state
  | some event =>
      if succeeds then
        { state with dispatched := event.external :: state.dispatched }.advance index .succeeded
      else state.advance index .failing

/-- `markProcessed` in `postEvent`, inside the `try` block. -/
def finishProcessing (state : PlatformEvents) (index : ℕ) (commits : Bool) : PlatformEvents :=
  match state.callAt index .succeeded with
  | none => state
  | some event => state.transact index commits (Inbound.markProcessed state.events event.id) .ended .failing

/-- `markFailed` in the `catch` block of `postEvent`. -/
def failProcessing (state : PlatformEvents) (index : ℕ) (commits : Bool) : PlatformEvents :=
  match state.callAt index .failing with
  | none => state
  | some event => state.transact index commits (Inbound.markFailed state.events event.id) .ended .ended

/-- The call ends without another transaction. -/
def crash (state : PlatformEvents) (index : ℕ) : PlatformEvents :=
  match state.calls[index]? with
  | none => state
  | some _ => state.advance index .ended

/-- What a step does. -/
def step (state : PlatformEvents) : PlatformStep → PlatformEvents
  | .arrive event => { state with calls := state.calls ++ [{ event := event }] }
  | .record index commits now => state.record index commits now
  | .markProcessing index commits => state.beginProcessing index commits
  | .startDispatch index => state.startDispatch index
  | .endDispatch index succeeds => state.endDispatch index succeeds
  | .markProcessed index commits => state.finishProcessing index commits
  | .markFailed index commits => state.failProcessing index commits
  | .crash index => state.crash index

end PlatformEvents

end VoiceLife.Gateway.Inbound
