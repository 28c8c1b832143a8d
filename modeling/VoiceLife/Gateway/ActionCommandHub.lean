import VoiceLife.Gateway.Models
import VoiceLife.Lib.Run

/-! # `sse-action-command-hub.ts`: the hub of the action streams

A device subscribes to the commands for one of its reminder windows. A published command is pushed to the
subscriptions of its scope, which hand it to a waiting reader or queue it; a subscription that falls
behind is finished. Every method is atomic. `Date.parse` is any function, with `none` for `NaN`, and the
clock is read where the source reads it; the callback for overflows leaves the hub alone.
-/

namespace VoiceLife.Gateway

/-! ## Capacity -/

/-- `SseActionCommandHubOptions`, without the callback. -/
structure SseActionCommandHubOptions where
  maxSubscriptions : ℤ := 1000
  maxSubscriptionsPerDevice : ℤ := 4
  maxSubscriptionsPerScope : ℤ := 2
  maxQueueSize : ℤ := 8

/-- The limits that the constructor accepts. -/
structure HubLimits where
  maxSubscriptions : ℕ
  maxSubscriptionsPerDevice : ℕ
  maxSubscriptionsPerScope : ℕ
  maxQueueSize : ℕ
  perDevice_le : maxSubscriptionsPerDevice ≤ maxSubscriptions
  perScope_le : maxSubscriptionsPerScope ≤ maxSubscriptionsPerDevice
  perScope_pos : 0 < maxSubscriptionsPerScope
  queue_pos : 0 < maxQueueSize

/-- `positiveInteger`. -/
def positiveInteger (value : ℤ) : Bool :=
  0 < value && value ≤ 9007199254740991

/-- The checks of the constructor. -/
def SseActionCommandHubOptions.limits (options : SseActionCommandHubOptions) : Except String HubLimits :=
  if h : positiveInteger options.maxSubscriptions ∧ positiveInteger options.maxSubscriptionsPerDevice ∧
      positiveInteger options.maxSubscriptionsPerScope ∧ positiveInteger options.maxQueueSize then
    if hdevice : options.maxSubscriptionsPerDevice > options.maxSubscriptions then
      .error "SSE per-device subscription limit cannot exceed the global limit"
    else if hscope : options.maxSubscriptionsPerScope > options.maxSubscriptionsPerDevice then
      .error "SSE per-scope subscription limit cannot exceed the per-device limit"
    else
      .ok
        { maxSubscriptions := options.maxSubscriptions.toNat
          maxSubscriptionsPerDevice := options.maxSubscriptionsPerDevice.toNat
          maxSubscriptionsPerScope := options.maxSubscriptionsPerScope.toNat
          maxQueueSize := options.maxQueueSize.toNat
          perDevice_le := by omega
          perScope_le := by omega
          perScope_pos := by
            have := (Bool.and_eq_true_iff.1 h.2.2.1).1
            rw [decide_eq_true_iff] at this
            omega
          queue_pos := by
            have := (Bool.and_eq_true_iff.1 h.2.2.2).1
            rw [decide_eq_true_iff] at this
            omega }
  else .error "SSE capacity must be a positive integer"

/-! ## Scopes -/

/-- `ActionStreamSubscription`: the signal says whether it is aborted. -/
structure ActionStreamSubscription where
  deviceId : DeviceId
  reminderTriggerId : ReminderTriggerId
  expiresAt : JsString
  signal : Option Bool := none

/-- `ActionStreamCloseScope`. -/
structure ActionStreamCloseScope where
  deviceId : DeviceId
  reminderTriggerId : ReminderTriggerId
  expiresAt : JsString

/-- The decimal text of a length. -/
def lengthText (length : ℕ) : JsString :=
  if length = 0 then [48] else JsNumber.digitUnits length

/-- `scopeKey`. -/
def scopeKey (deviceId : DeviceId) (reminderTriggerId : ReminderTriggerId) : JsString :=
  lengthText deviceId.length ++ 58 :: (deviceId ++ reminderTriggerId)

/-- `ActionScope`. -/
structure ActionScope where
  expiresAt : ℤ
  key : JsString

/-! ## Subscriptions -/

/-- `HubSubscription`, with the number of its waiters. -/
structure HubSubscription where
  subscription : ActionStreamSubscription
  key : JsString
  expiresAt : Option ℤ
  closed : Bool
  queue : List ReminderActionCommand := []
  waiters : ℕ := 0

namespace HubSubscription

/-- The constructor. -/
def create (parse : JsString → Option ℤ) (subscription : ActionStreamSubscription) (now : ℤ) :
    HubSubscription where
  subscription
  key := scopeKey subscription.deviceId subscription.reminderTriggerId
  expiresAt := parse subscription.expiresAt
  closed :=
    match parse subscription.expiresAt with
    | none => true
    | some expiresAt => decide (expiresAt ≤ now) || subscription.signal == some true

/-- `finish`: the waiters are told that the stream is done. -/
def finish (current : HubSubscription) : HubSubscription :=
  if current.closed then current else { current with closed := true, queue := [], waiters := 0 }

/-- `push`, with the command that a waiter is given. -/
def push (maxQueueSize : ℕ) (command : ReminderActionCommand) (current : HubSubscription) :
    HubSubscription × Option ReminderActionCommand :=
  if current.closed then (current, none)
  else if current.waiters = 0 then
    if current.queue.length ≥ maxQueueSize then (current.finish, none)
    else ({ current with queue := current.queue ++ [command] }, none)
  else ({ current with waiters := current.waiters - 1 }, some command)

/-- `next`, with the command that it returns at once. -/
def next (current : HubSubscription) : HubSubscription × Option ReminderActionCommand :=
  match current.queue with
  | command :: queue => ({ current with queue }, some command)
  | [] => if current.closed then (current, none) else ({ current with waiters := current.waiters + 1 }, none)

/-- The handler of the signal; it is there only with a signal. -/
def abort (current : HubSubscription) : HubSubscription :=
  if current.subscription.signal.isSome then current.finish else current

/-- The timer of `scheduleExpiry`; a timer that comes too early is set again. -/
def expire (now : ℤ) (current : HubSubscription) : HubSubscription :=
  match current.expiresAt with
  | some expiresAt => if expiresAt ≤ now then current.finish else current
  | none => current

end HubSubscription

/-! ## The hub -/

/-- `SseActionCommandHub`. The set of subscriptions has those in the list that are not closed. -/
structure SseActionCommandHub where
  subscriptions : List HubSubscription := []
  actionScopes : AList fun _ : ActionId => ActionScope := ∅
  scopeActions : AList fun _ : JsString => Finset ActionId := ∅
  closedActions : AList fun _ : ActionId => ℤ := ∅

namespace SseActionCommandHub

/-- `removeActionFromScope`. -/
def removeActionFromScope (hub : SseActionCommandHub) (actionId : ActionId) (key : JsString) :
    SseActionCommandHub :=
  match hub.scopeActions.lookup key with
  | none => hub
  | some actions =>
      let actions := actions.erase actionId
      { hub with
        scopeActions :=
          if actions = ∅ then hub.scopeActions.erase key else hub.scopeActions.insert key actions }

/-- One round of the first loop of `cleanExpiredActions`. -/
def cleanAction (now : ℤ) (hub : SseActionCommandHub) (actionId : ActionId) : SseActionCommandHub :=
  match hub.actionScopes.lookup actionId with
  | some scope =>
      if scope.expiresAt ≤ now then
        { hub with actionScopes := hub.actionScopes.erase actionId }.removeActionFromScope actionId scope.key
      else hub
  | none => hub

/-- One round of its second loop. -/
def cleanClosedAction (now : ℤ) (hub : SseActionCommandHub) (actionId : ActionId) :
    SseActionCommandHub :=
  match hub.closedActions.lookup actionId with
  | some expiresAt =>
      if expiresAt ≤ now then { hub with closedActions := hub.closedActions.erase actionId } else hub
  | none => hub

/-- `cleanExpiredActions`. -/
def cleanExpiredActions (hub : SseActionCommandHub) (now : ℤ) : SseActionCommandHub :=
  let hub := hub.actionScopes.keys.foldl (cleanAction now) hub
  hub.closedActions.keys.foldl (cleanClosedAction now) hub

/-- The expiry of a command that `publish` does not refuse, behind the cleaning. -/
def accepts (parse : JsString → Option ℤ) (hub : SseActionCommandHub) (command : ReminderActionCommand)
    (now : ℤ) : Option ℤ :=
  match parse command.expiresAt.text with
  | none => none
  | some expiresAt =>
      if expiresAt ≤ now ∨ (hub.closedActions.lookup command.commandId).isSome then none
      else some expiresAt

/-- The part of `publish` that records the scope of the action. -/
def recordAction (hub : SseActionCommandHub) (actionId : ActionId) (scope : ActionScope) :
    SseActionCommandHub :=
  let hub :=
    match hub.actionScopes.lookup actionId with
    | some previous => hub.removeActionFromScope actionId previous.key
    | none => hub
  { hub with
    actionScopes := hub.actionScopes.insert actionId scope
    scopeActions :=
      hub.scopeActions.insert scope.key (insert actionId ((hub.scopeActions.lookup scope.key).getD ∅)) }

/-- What `publish` does with a subscription. -/
def pushTo (maxQueueSize : ℕ) (command : ReminderActionCommand) (scope : ActionScope)
    (current : HubSubscription) : HubSubscription × Option ReminderActionCommand :=
  if current.key = scope.key ∧ ∃ expiresAt ∈ current.expiresAt, scope.expiresAt ≤ expiresAt then
    current.push maxQueueSize command
  else (current, none)

/-- `publish`, with the commands that waiters are given. -/
def publish (parse : JsString → Option ℤ) (limits : HubLimits) (hub : SseActionCommandHub)
    (command : ReminderActionCommand) (cleaned now : ℤ) :
    SseActionCommandHub × (ℕ → Option ReminderActionCommand) :=
  let hub := hub.cleanExpiredActions cleaned
  match hub.accepts parse command now with
  | none => (hub, fun _ => none)
  | some expiresAt =>
      let scope : ActionScope := ⟨expiresAt, scopeKey command.deviceId command.reminderTriggerId⟩
      let hub := hub.recordAction command.commandId scope
      let pushed := hub.subscriptions.map (pushTo limits.maxQueueSize command scope)
      ({ hub with subscriptions := pushed.map Prod.fst }, fun index => pushed[index]?.bind Prod.snd)

/-- `subscribe`; without capacity the subscription is refused. -/
def subscribe (parse : JsString → Option ℤ) (limits : HubLimits) (hub : SseActionCommandHub)
    (subscription : ActionStreamSubscription) (now : ℤ) : Except ImGatewayError SseActionCommandHub :=
  let live := HubSubscription.create parse subscription now
  let added := { hub with subscriptions := hub.subscriptions ++ [live] }
  if live.closed then .ok added
  else
    let subscriptions := hub.subscriptions.filter fun current => !current.closed
    let scopeSubscriptions := subscriptions.countP fun current => current.key = live.key
    let deviceSubscriptions := subscriptions.countP fun current =>
      current.subscription.deviceId = subscription.deviceId
    if subscriptions.length ≥ limits.maxSubscriptions ∨
        deviceSubscriptions ≥ limits.maxSubscriptionsPerDevice ∨
        scopeSubscriptions ≥ limits.maxSubscriptionsPerScope then
      .error ⟨.resourceExhausted, "SSE subscription capacity was reached"⟩
    else .ok added

/-- The part of `close` that takes the action from the maps. -/
def dropAction (hub : SseActionCommandHub) (actionId : ActionId) : SseActionCommandHub :=
  match hub.actionScopes.lookup actionId with
  | some actionScope =>
      { hub with actionScopes := hub.actionScopes.erase actionId }.removeActionFromScope actionId
        actionScope.key
  | none => hub

/-- `close`. -/
def close (parse : JsString → Option ℤ) (hub : SseActionCommandHub) (actionId : ActionId)
    (scope : ActionStreamCloseScope) (cleaned now : ℤ) : SseActionCommandHub :=
  let hub := (hub.cleanExpiredActions cleaned).dropAction actionId
  let hub :=
    { hub with
      closedActions :=
        hub.closedActions.insert actionId ((parse scope.expiresAt).getD (now + 60000)) }
  let key := scopeKey scope.deviceId scope.reminderTriggerId
  if (hub.scopeActions.lookup key).getD ∅ = ∅ then
    { hub with
      subscriptions := hub.subscriptions.map fun current =>
        if !current.closed && current.key = key then current.finish else current }
  else hub

/-- What happens to one subscription. -/
def updateSubscription (hub : SseActionCommandHub) (index : ℕ)
    (update : HubSubscription → HubSubscription) : SseActionCommandHub :=
  { hub with subscriptions := hub.subscriptions.modify index update }

end SseActionCommandHub

/-! ## Events -/

/-- What happens to the hub, with the readings of the clock. The subscriptions are numbered in the order
in which they were handed out. -/
inductive HubEvent where
  | publish (command : ReminderActionCommand) (cleaned now : ℤ)
  | subscribe (subscription : ActionStreamSubscription) (now : ℤ)
  | close (actionId : ActionId) (scope : ActionStreamCloseScope) (cleaned now : ℤ)
  | abort (index : ℕ)
  | timer (index : ℕ) (now : ℤ)
  | next (index : ℕ)
  | return (index : ℕ)

/-- The readings of the clock, in their order. -/
def HubEvent.readings : HubEvent → List ℤ
  | .publish _ cleaned now => [cleaned, now]
  | .subscribe _ now => [now]
  | .close _ _ cleaned now => [cleaned, now]
  | .timer _ now => [now]
  | _ => []

namespace SseActionCommandHub

/-- An event, with the commands that readers are given. -/
def step (parse : JsString → Option ℤ) (limits : HubLimits) (hub : SseActionCommandHub) :
    HubEvent → SseActionCommandHub × (ℕ → Option ReminderActionCommand)
  | .publish command cleaned now => hub.publish parse limits command cleaned now
  | .subscribe subscription now =>
      match hub.subscribe parse limits subscription now with
      | .ok hub => (hub, fun _ => none)
      | .error _ => (hub, fun _ => none)
  | .close actionId scope cleaned now => (hub.close parse actionId scope cleaned now, fun _ => none)
  | .abort index => (hub.updateSubscription index HubSubscription.abort, fun _ => none)
  | .timer index now => (hub.updateSubscription index (HubSubscription.expire now), fun _ => none)
  | .next index =>
      (hub.updateSubscription index fun current => current.next.1,
        fun other => if other = index then hub.subscriptions[index]?.bind fun current => current.next.2
          else none)
  | .return index => (hub.updateSubscription index HubSubscription.finish, fun _ => none)

end SseActionCommandHub

end VoiceLife.Gateway
