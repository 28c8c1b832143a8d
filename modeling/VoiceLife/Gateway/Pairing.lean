import VoiceLife.Lib.Run
import VoiceLife.Gateway.Dispatch

/-! # `pairing-application.ts` and `binding-application.ts`

Pairing sessions and bindings, one transaction at a time. A call of `create` makes several transactions,
and others may come between them. Devices, channel accounts and identities belong to other services: they
may change in any way between two transactions.
-/

namespace VoiceLife.Gateway.Pairing

abbrev PairingSessionId := JsString

/-- `ImPlatform`. -/
inductive ImPlatform where
  | wechatOfficial
  | feishu
  | dingtalk
  deriving DecidableEq

/-- The status of a device. -/
inductive ImDeviceStatus where
  | active
  | revoked
  deriving DecidableEq

/-- `ImDevice`. -/
structure ImDevice where
  deviceId : DeviceId
  userId : UserId
  status : ImDeviceStatus
  deriving DecidableEq

/-- `ChannelAccount` with its platform. -/
structure PlatformAccount extends ChannelAccount where
  platform : ImPlatform
  deriving DecidableEq

/-- `ExternalIdentity` with its protected user id. -/
structure ProtectedIdentity extends ExternalIdentity where
  externalUserIdCiphertext : JsString
  externalUserIdHash : JsString
  displayName : Option JsString
  createdAt : IsoDateTime
  updatedAt : IsoDateTime
  deriving DecidableEq

/-- `ImBinding` with its times. -/
structure TimedBinding extends ImBinding where
  boundAt : IsoDateTime
  unboundAt : Option IsoDateTime := none
  revokedAt : Option IsoDateTime := none
  deriving DecidableEq

/-- The status of a pairing session. -/
inductive PairingStatus where
  | pending
  | confirmed
  | expired
  | cancelled
  deriving DecidableEq

/-- `PairingSession`. -/
structure PairingSession where
  id : PairingSessionId
  displayCodeHash : JsString
  userId : Option UserId
  deviceId : DeviceId
  allowedPlatforms : Option (List ImPlatform)
  status : PairingStatus
  expiresAt : IsoDateTime
  createdAt : IsoDateTime
  confirmedAt : Option IsoDateTime := none
  deriving DecidableEq

instance : HasKey ImDevice DeviceId := ⟨ImDevice.deviceId⟩
instance : HasKey PlatformAccount ChannelAccountId := ⟨fun account => account.id⟩
instance : HasKey ProtectedIdentity ExternalIdentityId := ⟨fun identity => identity.id⟩
instance : HasKey TimedBinding BindingId := ⟨fun binding => binding.id⟩
instance : HasKey PairingSession PairingSessionId := ⟨PairingSession.id⟩

/-- A session that can still be confirmed, cancelled or expire. -/
def PairingSession.IsPending (session : PairingSession) : Prop :=
  session.status = .pending

/-- A binding in use. -/
def TimedBinding.IsActive (binding : TimedBinding) : Prop :=
  binding.status = .active

instance (session : PairingSession) : Decidable session.IsPending :=
  inferInstanceAs (Decidable (_ = _))

instance (binding : TimedBinding) : Decidable binding.IsActive :=
  inferInstanceAs (Decidable (_ = _))

/-! ## The repositories -/

/-- The tables that pairing reads and writes. -/
structure PairingStore where
  devices : KeyTable ImDevice := .empty
  channelAccounts : KeyTable PlatformAccount := .empty
  identities : KeyTable ProtectedIdentity := .empty
  pairingSessions : KeyTable PairingSession := .empty
  bindings : KeyTable TimedBinding := .empty
  idsUsed : ℕ := 0

namespace PairingStore

/-- The next generated id. -/
def nextId (store : PairingStore) (ids : IdGenerator) : JsString × PairingStore :=
  (ids.nth store.idsUsed, { store with idsUsed := store.idsUsed + 1 })

/-- `createPendingIfAbsent`: no two pending sessions have a hash in common. -/
def createPendingIfAbsent (store : PairingStore) (session : PairingSession) : Bool × PairingStore :=
  if store.pairingSessions.rows.any fun candidate =>
      candidate.IsPending ∧ candidate.displayCodeHash = session.displayCodeHash then
    (false, store)
  else (true, { store with pairingSessions := store.pairingSessions.set session })

/-- The session, cancelled. -/
def cancelled (session : PairingSession) : PairingSession :=
  { session with status := .cancelled }

/-- `cancelPendingByDevice`. -/
def cancelPendingByDevice (store : PairingStore) (deviceId : DeviceId) : PairingStore :=
  let pending := store.pairingSessions.rows.filter fun session =>
    session.deviceId = deviceId ∧ session.IsPending
  { store with pairingSessions := store.pairingSessions.setAll (pending.map cancelled) }

/-- `findPendingByDisplayCodeHash`. -/
def findPendingByDisplayCodeHash (store : PairingStore) (hash : JsString) : Option PairingSession :=
  store.pairingSessions.rows.find? fun session => session.displayCodeHash = hash ∧ session.IsPending

/-- `lockPendingByIdAndDisplayCodeHash`. -/
def lockPendingByIdAndDisplayCodeHash (store : PairingStore) (id : PairingSessionId) (hash : JsString) :
    Option PairingSession :=
  match store.pairingSessions.get? id with
  | none => none
  | some session => if session.IsPending ∧ session.displayCodeHash = hash then some session else none

/-- `transitionPending`. -/
def transitionPending (store : PairingStore) (id : PairingSessionId) (status : PairingStatus) :
    Bool × PairingStore :=
  match store.pairingSessions.get? id with
  | none => (false, store)
  | some session =>
    if session.IsPending then
      (true, { store with pairingSessions := store.pairingSessions.set { session with status := status } })
    else (false, store)

/-- `findExpiredPairingSessions`. -/
def findExpiredPairingSessions (store : PairingStore) (now : IsoDateTime) : List PairingSession :=
  store.pairingSessions.rows.filter fun session => session.IsPending ∧ session.expiresAt.textLe now

/-- `save` of a session. -/
def savePairingSession (store : PairingStore) (session : PairingSession) : PairingStore :=
  { store with pairingSessions := store.pairingSessions.set session }

/-- `findByChannelAndHash`. -/
def findByChannelAndHash (store : PairingStore) (channelAccountId : ChannelAccountId)
    (externalUserIdHash : JsString) : Option ProtectedIdentity :=
  store.identities.rows.find? fun identity =>
    identity.channelAccountId = channelAccountId ∧ identity.externalUserIdHash = externalUserIdHash

/-- `createIfAbsent` of an identity. -/
def createIdentityIfAbsent (store : PairingStore) (identity : ProtectedIdentity) :
    ProtectedIdentity × PairingStore :=
  match store.findByChannelAndHash identity.channelAccountId identity.externalUserIdHash with
  | some existing => (existing, store)
  | none => (identity, { store with identities := store.identities.set identity })

/-- The binding, replaced by a later one. -/
def unboundAt (time : IsoDateTime) (binding : TimedBinding) : TimedBinding :=
  { binding with status := .unbound, unboundAt := some time }

/-- `replaceActiveBinding`: the active bindings of the device and of the identity give way, unless one
already binds them for the user. -/
def replaceActiveBinding (store : PairingStore) (binding : TimedBinding) :
    Except TransactionError (TimedBinding × PairingStore) :=
  if ¬ binding.IsActive ∨ binding.deviceId = none then
    .error (.plain "Active replacement requires a device")
  else
    match store.bindings.rows.find? fun candidate =>
        candidate.IsActive ∧ candidate.userId = binding.userId ∧
          candidate.deviceId = binding.deviceId ∧
            candidate.externalIdentityId = binding.externalIdentityId with
    | some same => .ok (same, store)
    | none =>
      let replaced := store.bindings.rows.filter fun candidate =>
        candidate.IsActive ∧ (candidate.deviceId = binding.deviceId ∨
          candidate.externalIdentityId = binding.externalIdentityId)
      let bindings := store.bindings.setAll (replaced.map (unboundAt binding.boundAt))
      .ok (binding, { store with bindings := bindings.set binding })

/-- `save` of a binding. -/
def saveBinding (store : PairingStore) (binding : TimedBinding) : PairingStore :=
  { store with bindings := store.bindings.set binding }

end PairingStore

/-! ## `DefaultPairingApplication.create` -/

/-- `MIN_PAIRING_SESSION_MINUTES`. -/
def minPairingSessionMinutes : ℤ := 1

/-- `MAX_PAIRING_SESSION_MINUTES`. -/
def maxPairingSessionMinutes : ℤ := 10

/-- `DEFAULT_PAIRING_WINDOW_MINUTES`. -/
def defaultPairingWindowMinutes : ℕ := 10

/-- `MAX_PAIRING_CODE_ISSUE_ATTEMPTS`. -/
def maxPairingCodeIssueAttempts : ℕ := 8

/-- `CreatePairingSessionCommand`. -/
structure CreatePairingSessionCommand where
  userId : Option UserId
  deviceId : DeviceId
  allowedPlatforms : Option (List ImPlatform)
  expiresInMinutes : Option JsNumber
  deriving DecidableEq

/-- A code from `issue`. -/
structure IssuedCode where
  displayCode : JsString
  hash : JsString
  deriving DecidableEq

/-- The expiry is a whole number of minutes in the range. -/
def validExpiry (minutes : JsNumber) : Bool :=
  minutes.isInteger && minPairingSessionMinutes ≤ minutes.toInt &&
    minutes.toInt ≤ maxPairingSessionMinutes

/-- The session that an attempt wants to create. -/
def pendingSession (addMinutes : AddMinutes) (command : CreatePairingSessionCommand)
    (id : PairingSessionId) (hash : JsString) (now : IsoDateTime) : PairingSession where
  id := id
  displayCodeHash := hash
  userId := command.userId
  deviceId := command.deviceId
  allowedPlatforms := command.allowedPlatforms
  status := .pending
  expiresAt := addMinutes now <|
    match command.expiresInMinutes with
    | none => defaultPairingWindowMinutes
    | some minutes => minutes.toInt.toNat
  createdAt := now

/-- The transaction of an attempt: whether the session was created. -/
def createTransaction (store : PairingStore) (command : CreatePairingSessionCommand)
    (session : PairingSession) : Except ImGatewayError (Bool × PairingStore) :=
  match store.devices.get? command.deviceId with
  | none => .error ⟨.unauthorized, "Device authorization is invalid"⟩
  | some device =>
    if device.status ≠ .active then .error ⟨.unauthorized, "Device authorization is invalid"⟩
    else if command.userId ≠ none ∧ command.userId ≠ some device.userId then
      .error ⟨.invalidTransition, "Pairing user does not own the device"⟩
    else .ok ((store.cancelPendingByDevice command.deviceId).createPendingIfAbsent session)

/-- How far a call of `create` has come. -/
inductive CreatePhase where
  | issuing (attempt : ℕ)
  | created (session : PairingSession) (displayCode : JsString)
  | failed (error : ImGatewayError) (retryable : Bool)
  deriving DecidableEq

/-- A call of `create`. -/
structure CreateCall where
  command : CreatePairingSessionCommand
  phase : CreatePhase
  deriving DecidableEq

/-- `create` up to its first attempt. -/
def startCreate (command : CreatePairingSessionCommand) : CreateCall where
  command := command
  phase :=
    match command.expiresInMinutes with
    | some minutes =>
      if validExpiry minutes then .issuing 0
      else .failed ⟨.invalidContract, "Pairing expiry must be an integer from 1 to 10 minutes"⟩ false
    | none => .issuing 0

/-- The phase after an attempt that did not create the session. -/
def nextAttempt (attempt : ℕ) : CreatePhase :=
  if attempt + 1 < maxPairingCodeIssueAttempts then .issuing (attempt + 1)
  else .failed ⟨.resourceExhausted, "Could not issue a unique pairing code"⟩ true

/-- One attempt of `create`. -/
def createAttempt (ids : IdGenerator) (addMinutes : AddMinutes) (store : PairingStore)
    (command : CreatePairingSessionCommand) (attempt : ℕ) (code : IssuedCode) (now : IsoDateTime) :
    CreatePhase × PairingStore :=
  let (id, store) := store.nextId ids
  let session := pendingSession addMinutes command id code.hash now
  match createTransaction store command session with
  | .error error => (.failed error false, store)
  | .ok (true, store) => (.created session code.displayCode, store)
  | .ok (false, store) => (nextAttempt attempt, store)

/-! ## `DefaultPairingApplication.confirm` -/

/-- `ConfirmPairingCommand`. -/
structure ConfirmPairingCommand where
  displayCode : JsString
  channelAccountId : ChannelAccountId
  externalUserId : JsString
  userId : Option UserId
  displayName : Option JsString

/-- What `protect` makes of an external user id. -/
structure ProtectedExternalIdentity where
  ciphertext : JsString
  hash : JsString

/-- A failure with a stable code. -/
def gatewayError {α : Type} (code : ImGatewayErrorCode) (message : String) : Except TransactionError α :=
  .error (.gateway ⟨code, message⟩)

/-- The pending session of a code, if it has not expired. -/
def sessionToConfirm (store : PairingStore) (codeHash : JsString) (now : IsoDateTime) :
    Except TransactionError PairingSession :=
  match store.findPendingByDisplayCodeHash codeHash with
  | none => gatewayError .pairingCodeInvalid "Pairing session is invalid or expired"
  | some candidate =>
    match store.lockPendingByIdAndDisplayCodeHash candidate.id codeHash with
    | none => gatewayError .pairingCodeInvalid "Pairing session is invalid or expired"
    | some session =>
      if session.deviceId ≠ candidate.deviceId ∨ session.expiresAt.textLe now then
        gatewayError .pairingCodeInvalid "Pairing session is invalid or expired"
      else .ok session

/-- The active channel account of a confirmation, if the session allows its platform. -/
def accountToConfirm (store : PairingStore) (session : PairingSession)
    (channelAccountId : ChannelAccountId) : Except TransactionError PlatformAccount :=
  match store.channelAccounts.get? channelAccountId with
  | none => gatewayError .bindingNotFound "Channel account was not found"
  | some account =>
    if account.status ≠ .active then gatewayError .bindingNotFound "Channel account was not found"
    else
      match session.allowedPlatforms with
      | none => .ok account
      | some platforms =>
        if account.platform ∈ platforms then .ok account
        else gatewayError .capabilityNotSupported "Platform is not allowed by the pairing session"

/-- The user of a confirmation, who has to own the device. -/
def userToConfirm (store : PairingStore) (session : PairingSession) (given : Option UserId) :
    Except TransactionError UserId :=
  if session.userId ≠ none ∧ given ≠ none ∧ session.userId ≠ given then
    gatewayError .invalidTransition "Pairing confirmation user does not match the pairing session"
  else
    match session.userId.or given with
    | none => gatewayError .invalidContract "Pairing confirmation requires an internal userId"
    | some userId =>
      match store.devices.get? session.deviceId with
      | none =>
        gatewayError .invalidTransition "Pairing device is inactive or owned by another user"
      | some device =>
        if device.status ≠ .active ∨ device.userId ≠ userId then
          gatewayError .invalidTransition "Pairing device is inactive or owned by another user"
        else .ok userId

/-- The active identity of a confirmation, created if there is none. -/
def identityToConfirm (ids : IdGenerator) (store : PairingStore) (account : PlatformAccount)
    (protectedIdentity : ProtectedExternalIdentity) (displayName : Option JsString)
    (now : IsoDateTime) : Except TransactionError (ProtectedIdentity × PairingStore) :=
  let (identity, store) :=
    match store.findByChannelAndHash account.id protectedIdentity.hash with
    | some identity => (identity, store)
    | none =>
      let (id, store) := store.nextId ids
      store.createIdentityIfAbsent
        { id := id
          channelAccountId := account.id
          externalUserIdCiphertext := protectedIdentity.ciphertext
          externalUserIdHash := protectedIdentity.hash
          displayName := displayName
          status := .active
          createdAt := now
          updatedAt := now }
  if identity.status ≠ .active then
    gatewayError .invalidTransition "External identity is not active"
  else .ok (identity, store)

/-- The binding that a confirmation wants. -/
def confirmedBinding (id : BindingId) (userId : UserId) (deviceId : DeviceId)
    (externalIdentityId : ExternalIdentityId) (now : IsoDateTime) : TimedBinding where
  id := id
  userId := userId
  deviceId := some deviceId
  externalIdentityId := externalIdentityId
  priority := 100
  status := .active
  boundAt := now

/-- The session, confirmed. -/
def confirmedSession (session : PairingSession) (now : IsoDateTime) : PairingSession :=
  { session with status := .confirmed, confirmedAt := some now }

/-- The transaction of `confirm`. -/
def confirm (ids : IdGenerator) (store : PairingStore) (command : ConfirmPairingCommand)
    (codeHash : JsString) (protectedIdentity : ProtectedExternalIdentity) (now : IsoDateTime) :
    Except TransactionError (TimedBinding × PairingStore) := do
  let session ← sessionToConfirm store codeHash now
  let account ← accountToConfirm store session command.channelAccountId
  let userId ← userToConfirm store session command.userId
  let (identity, store) ←
    identityToConfirm ids store account protectedIdentity command.displayName now
  let (bindingId, store) := store.nextId ids
  let (binding, store) ←
    store.replaceActiveBinding (confirmedBinding bindingId userId session.deviceId identity.id now)
  return (binding, store.savePairingSession (confirmedSession session now))

/-! ## `cancel`, `expireDue`, `unbind` and `revoke` -/

/-- `cancel`. -/
def cancel (store : PairingStore) (pairingSessionId : PairingSessionId) : PairingStore :=
  (store.transitionPending pairingSessionId .cancelled).2

/-- The loop of `expireDue`. -/
def expireLoop (store : PairingStore) : List PairingSession → ℕ × PairingStore
  | [] => (0, store)
  | session :: sessions =>
    let (expired, store) := store.transitionPending session.id .expired
    let (count, store) := expireLoop store sessions
    (if expired then count + 1 else count, store)

/-- `expireDue`. -/
def expireDue (store : PairingStore) (now : IsoDateTime) : ℕ × PairingStore :=
  expireLoop store (store.findExpiredPairingSessions now)

/-- The ways in which `changeStatus` ends a binding. -/
inductive BindingEnd where
  | unbound
  | revoked
  deriving DecidableEq

/-- The status of a binding that ended so. -/
def BindingEnd.status : BindingEnd → ImBindingStatus
  | .unbound => .unbound
  | .revoked => .revoked

/-- The binding that ends at a time. -/
def endedBinding (binding : TimedBinding) (ending : BindingEnd) (now : IsoDateTime) : TimedBinding :=
  match ending with
  | .unbound => { binding with status := .unbound, unboundAt := some now }
  | .revoked => { binding with status := .revoked, revokedAt := some now }

/-- `changeStatus`. -/
def changeStatus (store : PairingStore) (bindingId : BindingId) (ending : BindingEnd)
    (now : IsoDateTime) : Except ImGatewayError PairingStore :=
  match store.bindings.get? bindingId with
  | none => .error ⟨.bindingNotFound, "Binding was not found"⟩
  | some binding =>
    if binding.status = ending.status then .ok store
    else if ¬ binding.IsActive then
      .error ⟨.invalidTransition, "Binding is already in a terminal state"⟩
    else .ok (store.saveBinding (endedBinding binding ending now))

/-- `unbind`. -/
def unbind (store : PairingStore) (bindingId : BindingId) (now : IsoDateTime) :
    Except ImGatewayError PairingStore :=
  changeStatus store bindingId .unbound now

/-- `revoke`. -/
def revoke (store : PairingStore) (bindingId : BindingId) (now : IsoDateTime) :
    Except ImGatewayError PairingStore :=
  changeStatus store bindingId .revoked now

/-! ## Runs -/

/-- What pairing takes from its environment. -/
structure PairingPorts where
  ids : IdGenerator
  addMinutes : AddMinutes
  hash : JsString → JsString

/-- The store and the calls of `create`. -/
structure PairingState where
  store : PairingStore := {}
  calls : List CreateCall := []

/-- What happens next. -/
inductive PairingStep where
  | create (command : CreatePairingSessionCommand)
  | attempt (index : ℕ) (code : IssuedCode) (now : IsoDateTime)
  | confirm (command : ConfirmPairingCommand) (protectedIdentity : ProtectedExternalIdentity)
      (now : IsoDateTime)
  | cancel (pairingSessionId : PairingSessionId)
  | expireDue (now : IsoDateTime)
  | unbind (bindingId : BindingId) (now : IsoDateTime)
  | revoke (bindingId : BindingId) (now : IsoDateTime)
  | directory (devices : KeyTable ImDevice) (channelAccounts : KeyTable PlatformAccount)
      (identities : KeyTable ProtectedIdentity)

namespace PairingState

/-- The store after a transaction, which rolls back when it fails. -/
def commit {ε : Type} (state : PairingState) (result : Except ε PairingStore) : PairingState :=
  match result with
  | .error _ => state
  | .ok store => { state with store := store }

/-- An attempt of an open call. -/
def attempt (ports : PairingPorts) (state : PairingState) (index : ℕ) (code : IssuedCode)
    (now : IsoDateTime) : PairingState :=
  match state.calls[index]? with
  | none => state
  | some call =>
    match call.phase with
    | .issuing attempt =>
      let (phase, store) :=
        createAttempt ports.ids ports.addMinutes state.store call.command attempt code now
      { store := store, calls := state.calls.set index { call with phase := phase } }
    | _ => state

/-- What a step does. -/
def step (ports : PairingPorts) (state : PairingState) : PairingStep → PairingState
  | .create command => { state with calls := state.calls ++ [startCreate command] }
  | .attempt index code now => state.attempt ports index code now
  | .confirm command protectedIdentity now =>
    state.commit <|
      (confirm ports.ids state.store command (ports.hash command.displayCode) protectedIdentity
        now).map Prod.snd
  | .cancel pairingSessionId => { state with store := cancel state.store pairingSessionId }
  | .expireDue now => { state with store := (expireDue state.store now).2 }
  | .unbind bindingId now => state.commit (unbind state.store bindingId now)
  | .revoke bindingId now => state.commit (revoke state.store bindingId now)
  | .directory devices channelAccounts identities =>
    { state with
      store := { state.store with
        devices := devices, channelAccounts := channelAccounts, identities := identities } }

end PairingState

end VoiceLife.Gateway.Pairing
