import VoiceLife.Im.PairingController
import VoiceLife.Lib.Run
import VoiceLife.Lib.Slots

/-! # `runtime.cc`: the interaction queues

Every thread posts to the event loop through a control queue, a best-effort queue, one emergency slot for
each kind of state fact and a flag for the listening timeout. One consumer merges them. A `World` puts the
calls and a log of what became of them around the queues.
-/

namespace VoiceLife.Runtime

/-! ## Items -/

/-- `voice::VoiceInteractionEvent`. -/
inductive VoiceInteractionEvent where
  | bootCompleted
  | toggleChat
  | pressDown
  | pressUp
  | wakeDetected
  | wakeDetectionAccepted
  | interruptAcknowledged
  | captureStarted
  | acknowledgementTimedOut
  | endpointDetected
  | noSpeechTimeout
  | finalizationTimedOut
  | terminalResponseCompleted
  | systemSpeechRequested
  | shakeSpeechRequested
  | intentReceived
  | ttsStarted
  | ttsStopped
  | interruptAndAcknowledge
  | interruptRequested
  | interruptCompleted
  | standbyReady
  | transportDisconnected
  | transportConnected
  | failure
deriving DecidableEq

/-- The events in the order of the enumeration, which is that of `emergency_state_events_`. -/
def VoiceInteractionEvent.all : List VoiceInteractionEvent :=
  [.bootCompleted, .toggleChat, .pressDown, .pressUp, .wakeDetected, .wakeDetectionAccepted,
    .interruptAcknowledged, .captureStarted, .acknowledgementTimedOut, .endpointDetected, .noSpeechTimeout,
    .finalizationTimedOut, .terminalResponseCompleted, .systemSpeechRequested, .shakeSpeechRequested,
    .intentReceived, .ttsStarted, .ttsStopped, .interruptAndAcknowledge, .interruptRequested,
    .interruptCompleted, .standbyReady, .transportDisconnected, .transportConnected, .failure]

/-- `voice::VoiceEvidence`. -/
structure VoiceEvidence where
  sessionId : String := ""
  generation : ℕ := 0
  event : String
  detail : String := ""

/-- `BoardInputAction`. -/
inductive BoardInputAction where
  | toggleChat
  | pressDown
  | pressUp
  | volumeUp
  | volumeDown
  | volumeMaximum
  | volumeMute
  | startWifiProvisioning
  | shakeDetected

/-- `InteractionEventItem`, by the one flag that its producer sets. -/
inductive InteractionEventItem where
  | interaction (event : VoiceInteractionEvent) (wakeWord : String)
  | displayOnly (displayText : String)
  | displayUpdate (status content : String) (overlay : Bool)
  | moodUpdate (emotionKey : String)
  | voiceEvidence (evidence : VoiceEvidence)
  | bindingResult (binding : Im.BindingResult)
  | bindingReset (generation : ℕ)
  | networkUpdate (connected : Bool)
  | boardInput (action : BoardInputAction)

/-- `IsBestEffortEvent`. -/
def InteractionEventItem.isBestEffort : InteractionEventItem → Bool
  | .displayOnly _ | .networkUpdate _ | .displayUpdate _ _ _ | .moodUpdate _ => true
  | .voiceEvidence evidence =>
    evidence.event == "tts_first_audio" || evidence.event == "tts_sentence_started" ||
      evidence.event == "mcp_tool_result" || evidence.event == "mcp_tool_failed" ||
      evidence.event == "ready" || evidence.event == "stale_event_dropped" ||
      evidence.event == "interrupted" || evidence.event == "interrupt_fence_reached" ||
      evidence.event == "stopped"
  | _ => false

/-- `EmergencyEvidenceKind`. -/
inductive EmergencyEvidenceKind where
  | captureStarted
  | interruptAcknowledged
deriving DecidableEq

/-- `EmergencyEvidenceKindFor`. -/
def emergencyEvidenceKindFor (evidence : VoiceEvidence) : Option EmergencyEvidenceKind :=
  if evidence.event = "capture_started" then some .captureStarted
  else if evidence.event = "interrupt_ack_requested" then some .interruptAcknowledged
  else none

/-- A place of `emergency_state_events_` or `emergency_evidence_events_`. -/
inductive EmergencySlot where
  | state (event : VoiceInteractionEvent)
  | evidence (kind : EmergencyEvidenceKind)
deriving DecidableEq

/-- The places in the order in which `PopEmergencyEventLocked` looks through them. -/
def EmergencySlot.all : List EmergencySlot :=
  VoiceInteractionEvent.all.map .state ++
    ([.evidence .captureStarted, .evidence .interruptAcknowledged] : List EmergencySlot)

/-- Where the caller of `EnqueueInteractionItem` puts an item that was refused: `EnqueueEvent` and
`EnqueueVoiceEvidence` have slots, the other callers ignore the refusal. -/
def InteractionEventItem.emergencySlot : InteractionEventItem → Option EmergencySlot
  | .interaction event _ => some (.state event)
  | .voiceEvidence evidence => (emergencyEvidenceKindFor evidence).map .evidence
  | _ => none

/-! ## The queues -/

/-- An item and the number of the call that posted it, which no code reads. -/
structure Posted where
  call : ℕ
  item : InteractionEventItem

/-- `EmergencyStateEvent` and `EmergencyEvidenceEvent`, where they are pending. -/
structure EmergencyEvent where
  sequence : ℕ
  posted : Posted

/-- `kControlEventQueueCapacity`. -/
def kControlEventQueueCapacity : ℕ := 16

/-- `kBestEffortEventQueueCapacity`. -/
def kBestEffortEventQueueCapacity : ℕ := 4

/-- `UINT64_MAX`. -/
def uint64Max : ℕ := 2 ^ 64 - 1

/-- What `event_mutex_` guards, and the flags of the listening timeout. -/
structure InteractionQueues where
  controlEventQueue : List Posted := []
  bestEffortEventQueue : List Posted := []
  emergencyEvents : EmergencySlot → Option EmergencyEvent := fun _ => none
  emergencyEventSequence : ℕ := 0
  listenTimeoutPending : Bool := false
  listenTimeoutEpoch : ℕ := 0
  listenTimeoutPendingEpoch : ℕ := 0

namespace InteractionQueues

/-- `EnqueueInteractionItem`. -/
def enqueueInteractionItem (queues : InteractionQueues) (posted : Posted) : Bool × InteractionQueues :=
  if posted.item.isBestEffort then
    let queue :=
      if queues.bestEffortEventQueue.length ≥ kBestEffortEventQueueCapacity then
        queues.bestEffortEventQueue.tail
      else queues.bestEffortEventQueue
    (true, { queues with bestEffortEventQueue := queue ++ [posted] })
  else if queues.controlEventQueue.length ≥ kControlEventQueueCapacity then (false, queues)
  else (true, { queues with controlEventQueue := queues.controlEventQueue ++ [posted] })

/-- The locked section of `EnqueueEmergencyEvent` and of `EnqueueEmergencyEvidence`. -/
def enqueueEmergency (queues : InteractionQueues) (slot : EmergencySlot) (posted : Posted) :
    InteractionQueues :=
  let sequence := (queues.emergencyEventSequence + 1) % (uint64Max + 1)
  { queues with
    emergencyEvents := Function.update queues.emergencyEvents slot (some { sequence, posted })
    emergencyEventSequence := sequence }

/-- `PopEmergencyEventLocked`. -/
def popEmergencyEventLocked (queues : InteractionQueues) : Option (Posted × InteractionQueues) := do
  let slot ← Slots.earliest EmergencyEvent.sequence queues.emergencyEvents uint64Max EmergencySlot.all
  let pending ← queues.emergencyEvents slot
  return (pending.posted,
    { queues with emergencyEvents := Function.update queues.emergencyEvents slot none })

/-- What the event loop takes: the item of a call, or a timeout. -/
inductive Taken where
  | item (posted : Posted)
  | listenTimeout (epoch : ℕ)

/-- The locked section of `EventLoopLoop`. -/
def pop (queues : InteractionQueues) : Option Taken × InteractionQueues :=
  match queues.popEmergencyEventLocked with
  | some (posted, rest) => (some (.item posted), rest)
  | none =>
    if queues.listenTimeoutPending then
      (some (.listenTimeout queues.listenTimeoutPendingEpoch), { queues with listenTimeoutPending := false })
    else
      match queues.controlEventQueue with
      | posted :: waiting => (some (.item posted), { queues with controlEventQueue := waiting })
      | [] =>
        match queues.bestEffortEventQueue with
        | posted :: waiting => (some (.item posted), { queues with bestEffortEventQueue := waiting })
        | [] => (none, queues)

end InteractionQueues

/-! ## Calls -/

/-- Where the timer task is in `EnqueueListenTimeout`, which takes no lock. -/
inductive TimerTask where
  | idle
  | loaded (epoch : ℕ)
  | stored (epoch : ℕ)
deriving DecidableEq

/-- What becomes of the calls. -/
inductive CallEvent where
  | began (posted : Posted)
  | returned (call : ℕ)
  | popped (posted : Posted)
  | replaced (posted later : Posted)
  | evicted (posted : Posted)
  | dropped (posted : Posted)

namespace CallEvent

/-- The call that the event begins. -/
def begun : CallEvent → Option Posted
  | .began posted => some posted
  | _ => none

/-- The call whose item leaves the queues with the event. -/
def ended : CallEvent → Option Posted
  | .popped posted | .replaced posted _ | .evicted posted | .dropped posted => some posted
  | _ => none

/-- The event begins this call. -/
def begins (call : ℕ) (event : CallEvent) : Bool :=
  event.begun.any (·.call == call)

/-- The event ends the wait of this call's item. -/
def ends (call : ℕ) (event : CallEvent) : Bool :=
  event.ended.any (·.call == call)

/-- The event is the return of this call. -/
def returns (call : ℕ) : CallEvent → Bool
  | .returned other => other == call
  | _ => false

end CallEvent

/-- The first call had returned before the second one began. -/
def returnedBefore (log : List CallEvent) (first second : ℕ) : Bool :=
  (log.takeWhile fun event => !event.begins second).any (·.returns first)

/-- The queues, the calls between their two sections, and what has happened. -/
structure World where
  queues : InteractionQueues := {}
  refused : List Posted := []
  timer : TimerTask := .idle
  renewals : ℕ := 0
  calls : ℕ := 0
  log : List CallEvent := []

/-- The sections of the producers and of the event loop. -/
inductive Step where
  /-- The section of `EnqueueInteractionItem`, with which every call begins. -/
  | enqueue (item : InteractionEventItem)
  /-- The second section of `EnqueueEvent` or `EnqueueVoiceEvidence`, after a refusal. -/
  | enqueueEmergency (call : ℕ)
  | pop
  /-- `EnqueueListenTimeout` loads the epoch, stores it and raises the flag. -/
  | listenTimeoutLoads
  | listenTimeoutStores
  | listenTimeoutRaises
  /-- `StartListenTimer` and `CancelListenTimer` advance the epoch and clear the flag. -/
  | epochAdvances
  | pendingClears

/-- `EnqueueEvent`. -/
def enqueueEvent (event : VoiceInteractionEvent) (wakeWord : String) : Step :=
  .enqueue (.interaction event wakeWord)

/-- `EnqueueVoiceEvidence`. -/
def enqueueVoiceEvidence (evidence : VoiceEvidence) : Step :=
  .enqueue (.voiceEvidence evidence)

/-- `EnqueueBindingResult`. -/
def enqueueBindingResult (result : Im.BindingResult) : Step :=
  .enqueue (.bindingResult result)

namespace World

/-- The item that a best-effort item pushes out. -/
def evictedBy (world : World) (item : InteractionEventItem) : List Posted :=
  if item.isBestEffort ∧ world.queues.bestEffortEventQueue.length ≥ kBestEffortEventQueueCapacity then
    world.queues.bestEffortEventQueue.take 1
  else []

/-- A call begins. It returns at once unless it goes on to an emergency slot. -/
def enqueue (world : World) (item : InteractionEventItem) : World :=
  let posted : Posted := { call := world.calls, item }
  let (accepted, queues) := world.queues.enqueueInteractionItem posted
  if accepted then
    { world with
      queues
      calls := world.calls + 1
      log := world.log ++ (.began posted :: (world.evictedBy item).map .evicted ++ [.returned posted.call]) }
  else if item.emergencySlot.isSome then
    { world with
      calls := world.calls + 1
      refused := world.refused ++ [posted]
      log := world.log ++ [.began posted] }
  else
    { world with
      calls := world.calls + 1
      log := world.log ++ [.began posted, .dropped posted, .returned posted.call] }

/-- A refused call writes its slot and returns. -/
def enqueueEmergency (world : World) (call : ℕ) : World :=
  match world.refused.find? (·.call == call) with
  | none => world
  | some posted =>
    match posted.item.emergencySlot with
    | none => world
    | some slot =>
      let replaced := (world.queues.emergencyEvents slot).toList.map fun pending =>
        CallEvent.replaced pending.posted posted
      { world with
        queues := world.queues.enqueueEmergency slot posted
        refused := world.refused.eraseP (·.call == call)
        log := world.log ++ (replaced ++ [.returned call]) }

/-- The event loop takes an item. -/
def pop (world : World) : World :=
  match world.queues.pop with
  | (some (.item posted), queues) => { world with queues, log := world.log ++ [.popped posted] }
  | (_, queues) => { world with queues }

/-- One section. -/
def step (world : World) : Step → World
  | .enqueue item => world.enqueue item
  | .enqueueEmergency call => world.enqueueEmergency call
  | .pop => world.pop
  | .listenTimeoutLoads =>
    match world.timer with
    | .idle => { world with timer := .loaded world.queues.listenTimeoutEpoch }
    | _ => world
  | .listenTimeoutStores =>
    match world.timer with
    | .loaded epoch =>
      { world with
        timer := .stored epoch
        queues := { world.queues with listenTimeoutPendingEpoch := epoch } }
    | _ => world
  | .listenTimeoutRaises =>
    match world.timer with
    | .stored _ =>
      { world with timer := .idle, queues := { world.queues with listenTimeoutPending := true } }
    | _ => world
  | .epochAdvances =>
    { world with
      renewals := world.renewals + 1
      queues := { world.queues with
        listenTimeoutEpoch := (world.queues.listenTimeoutEpoch + 1) % (uint64Max + 1) } }
  | .pendingClears =>
    if world.renewals = 0 then world
    else
      { world with
        renewals := world.renewals - 1
        queues := { world.queues with listenTimeoutPending := false } }

/-! ## What the queues are for -/

/-- The item is in the control queue or in an emergency slot. -/
def Waiting (world : World) (posted : Posted) : Prop :=
  posted ∈ world.queues.controlEventQueue ∨
    ∃ slot pending, world.queues.emergencyEvents slot = some pending ∧ pending.posted = posted

/-- No item is lost: the call is under way or its item waits, or the item has been popped once, or a later
call of the same kind has replaced it. -/
def Accounted (world : World) : Prop :=
  ∀ posted, .began posted ∈ world.log → posted.item.isBestEffort = false →
    world.log.filter (·.ends posted.call) = [] ∧ (posted ∈ world.refused ∨ world.Waiting posted) ∨
    world.log.filter (·.ends posted.call) = [.popped posted] ∨
    ∃ later, world.log.filter (·.ends posted.call) = [.replaced posted later] ∧
      .began later ∈ world.log ∧ later.item.emergencySlot = posted.item.emergencySlot

/-- No item is overtaken: when an item is popped, those of the other calls that had returned before its call
began have been popped or replaced. -/
def InOrder (world : World) : Step → Prop
  | .pop => ∀ posted, world.queues.pop.1 = some (.item posted) → posted.item.isBestEffort = false →
      ∀ earlier, .began earlier ∈ world.log → earlier.item.isBestEffort = false →
        earlier.call ≠ posted.call → returnedBefore world.log earlier.call posted.call →
          .popped earlier ∈ world.log ∨ ∃ later, .replaced earlier later ∈ world.log
  | _ => True

/-- A best-effort item is popped only when no other item waits. -/
def BestEffortLast (world : World) : Step → Prop
  | .pop => ∀ posted, world.queues.pop.1 = some (.item posted) → posted.item.isBestEffort →
      ∀ other, ¬ world.Waiting other
  | _ => True

/-- A listening timeout is on its way to the event loop. -/
def TimeoutWaiting (world : World) (epoch : ℕ) : Prop :=
  world.timer = .loaded epoch ∨ world.timer = .stored epoch ∨
    world.queues.listenTimeoutPending ∧ world.queues.listenTimeoutPendingEpoch = epoch

end World

/-- The state after the sections. -/
abbrev runQueues (steps : List Step) : World :=
  Run.run World.step {} steps

/-- What the queues promise for a run. -/
structure FactsKept (steps : List Step) : Prop where
  accounted : Run.AllStates World.step World.Accounted {} steps
  drained : ∃ pops, ∀ more ≥ pops, ∀ posted,
    ¬ (runQueues (steps ++ List.replicate more .pop)).Waiting posted
  inOrder : Run.AllSteps World.step World.InOrder {} steps
  bestEffortLast : Run.AllSteps World.step World.BestEffortLast {} steps
  timeout : ∀ before after, steps = before ++ Step.listenTimeoutLoads :: after →
    (runQueues before).timer = .idle → .epochAdvances ∉ after →
      (∃ done, done ++ [Step.pop] <+: after ∧
        (runQueues (before ++ Step.listenTimeoutLoads :: done)).queues.pop.1 =
          some (.listenTimeout (runQueues before).queues.listenTimeoutEpoch)) ∨
      (runQueues steps).TimeoutWaiting (runQueues before).queues.listenTimeoutEpoch

/-- A section that neither drops an item nor lets it overtake an earlier one. -/
def Unhurried (world : World) : Step → Prop
  | .enqueue item =>
      item.isBestEffort ∨ world.queues.controlEventQueue.length < kControlEventQueueCapacity ∨
        item.emergencySlot.isSome
  | .enqueueEmergency call => (∃ posted ∈ world.refused, posted.call = call) →
      (∀ earlier ∈ world.queues.controlEventQueue, returnedBefore world.log earlier.call call = false) ∧
        world.queues.emergencyEventSequence + 1 < uint64Max
  | .listenTimeoutLoads => world.timer = .idle → world.renewals = 0
  | _ => True

end VoiceLife.Runtime
