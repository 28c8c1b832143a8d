import VoiceLife.Lib.Utf8
import VoiceLife.Gateway.PairingUnique

/-! # `device-management.ts` and the device authentication of `production-ports.ts`

Devices are created, get new tokens and are revoked by the operator, next to the transactions of
pairing. A call of `create` or `rotateToken` makes up to eight transactions, each with a token of its
own, and others may come between them; transactions on one device lock its row, so each is one step. The
table has the constraints of PostgreSQL: the device id and the digest of the token are unique, and a row
keeps its owner. The listing of devices is left out.
-/

namespace VoiceLife.Gateway.Pairing

open DecimalText (Text)

/-- A SHA-256 digest. -/
abbrev Digest := { bytes : List UInt8 // bytes.length = 32 }

/-- `DeviceSummary`. -/
structure DeviceSummary extends ImDevice where
  createdAt : IsoDateTime
  updatedAt : IsoDateTime
  deriving DecidableEq

/-- A row of `im_devices`. -/
structure DeviceRow extends DeviceSummary where
  tokenDigest : Digest
  deriving DecidableEq

instance : HasKey DeviceRow DeviceId := ⟨fun row => row.deviceId⟩

/-! ## Checks -/

/-- The failures of device management. -/
inductive DeviceManagementFailure where
  | notFound
  | conflict
  | internal
  deriving DecidableEq

/-- What a call of device management throws. -/
inductive DeviceManagementError where
  | typeError (message : String)
  | management (kind : DeviceManagementFailure) (message : String)
  | plain (message : String)
  deriving DecidableEq

/-- `validateDeviceId`. -/
def validateDeviceId (value : JsString) : Except DeviceManagementError DeviceId :=
  if 1 ≤ value.length ∧ value.length ≤ 128 ∧ value.all (fun unit => 0x21 ≤ unit && unit ≤ 0x7E) then
    .ok value
  else
    .error (.typeError "device-id must be 1..128 printable ASCII bytes without whitespace")

/-- The code units of `\p{Cc}`. -/
def isControl (unit : CodeUnit) : Bool :=
  unit < 0x20 || 0x7F ≤ unit && unit ≤ 0x9F

/-- `validateUserId`. -/
def validateUserId (value : JsString) : Except DeviceManagementError UserId :=
  if (utf8 value).length < 1 ∨ (utf8 value).length > 128 ∨ value.any isControl then
    .error (.typeError "user-id must be 1..128 UTF-8 bytes without control characters")
  else .ok value

/-- The characters of a token. -/
def isTokenUnit (unit : CodeUnit) : Bool :=
  0x41 ≤ unit && unit ≤ 0x5A || 0x61 ≤ unit && unit ≤ 0x7A || 0x30 ≤ unit && unit ≤ 0x39 ||
    unit = 0x5F || unit = 0x2D

/-- The pattern of `assertIssuedToken`. -/
def isToken (token : JsString) : Bool :=
  token.length = 43 && token.all isTokenUnit

/-- The bytes of a text in the encoding `ascii`: the lower half of every code unit. -/
def asciiBytes (text : JsString) : Text :=
  text.map fun unit => UInt8.ofNat unit.val

variable (sha256 : Text → Digest)

/-- `tokenDigest`. -/
def tokenDigest (token : JsString) : Digest :=
  sha256 (asciiBytes token)

/-! ## The table -/

/-- The unique constraints of `im_devices`. -/
inductive DeviceConstraint where
  | primaryKey
  | tokenDigest
  deriving DecidableEq

/-- `create` of the repository. -/
def insertDevice (devices : KeyTable DeviceRow) (device : DeviceRow) :
    Except DeviceConstraint (KeyTable DeviceRow) :=
  if (devices.get? device.deviceId).isSome then .error .primaryKey
  else if devices.rows.any fun row => row.tokenDigest = device.tokenDigest then .error .tokenDigest
  else .ok (devices.set device)

/-- `save` of the repository: an upsert that leaves the owner and the time of creation alone. -/
def saveDevice (devices : KeyTable DeviceRow) (device : DeviceRow) :
    Except DeviceConstraint (KeyTable DeviceRow) :=
  if devices.rows.any fun row =>
      row.deviceId ≠ device.deviceId ∧ row.tokenDigest = device.tokenDigest then
    .error .tokenDigest
  else
    match devices.get? device.deviceId with
    | none => .ok (devices.set device)
    | some existing =>
      .ok (devices.set { existing with
        tokenDigest := device.tokenDigest, status := device.status, updatedAt := device.updatedAt })

/-- The devices as pairing reads them. -/
def deviceDirectory (devices : KeyTable DeviceRow) : KeyTable ImDevice where
  rows := devices.rows.map fun row => row.toImDevice
  nodup := by
    rw [List.map_map]
    exact devices.nodup

/-! ## `DeviceManagementService` -/

/-- `MAX_TOKEN_ATTEMPTS`. -/
def maxTokenAttempts : ℕ := 8

/-- What a call wants. -/
inductive DeviceRequest where
  | create (userId : UserId) (deviceId : DeviceId)
  | rotateToken (deviceId : DeviceId)
  deriving DecidableEq

/-- How far a call has come. -/
inductive DevicePhase where
  | issuing (attempt : ℕ)
  | answered (summary : DeviceSummary) (deviceToken : JsString)
  | failed (error : DeviceManagementError)
  deriving DecidableEq

/-- A call of `create` or `rotateToken`. -/
structure DeviceCall where
  request : DeviceRequest
  phase : DevicePhase
  deriving DecidableEq

/-- `create` up to its first token. -/
def startCreateDevice (userIdValue deviceIdValue : JsString) : DeviceCall where
  request := .create userIdValue deviceIdValue
  phase :=
    match validateUserId userIdValue, validateDeviceId deviceIdValue with
    | .ok _, .ok _ => .issuing 0
    | .error error, _ => .failed error
    | _, .error error => .failed error

/-- `rotateToken` up to its first token. -/
def startRotateToken (deviceIdValue : JsString) : DeviceCall where
  request := .rotateToken deviceIdValue
  phase :=
    match validateDeviceId deviceIdValue with
    | .ok _ => .issuing 0
    | .error error => .failed error

/-- The phase after a token that is in use. -/
def nextTokenAttempt (attempt : ℕ) : DevicePhase :=
  if attempt + 1 < maxTokenAttempts then .issuing (attempt + 1)
  else .failed (.management .internal "Could not issue a unique device token")

/-- The transaction of an attempt of `create`. -/
def createDevice (devices : KeyTable DeviceRow) (userId : UserId) (deviceId : DeviceId) (attempt : ℕ)
    (deviceToken : JsString) (now : IsoDateTime) : DevicePhase × KeyTable DeviceRow :=
  let device : DeviceRow :=
    { deviceId, userId, status := .active, tokenDigest := tokenDigest sha256 deviceToken
      createdAt := now, updatedAt := now }
  match insertDevice devices device with
  | .ok devices => (.answered device.toDeviceSummary deviceToken, devices)
  | .error .primaryKey => (.failed (.management .conflict "Device already exists"), devices)
  | .error .tokenDigest => (nextTokenAttempt attempt, devices)

/-- The transaction of an attempt of `rotateToken`. -/
def rotateToken (devices : KeyTable DeviceRow) (deviceId : DeviceId) (attempt : ℕ)
    (deviceToken : JsString) (now : IsoDateTime) : DevicePhase × KeyTable DeviceRow :=
  match devices.get? deviceId with
  | none => (.failed (.management .notFound "Device was not found"), devices)
  | some device =>
    if device.status ≠ .active then
      (.failed (.management .conflict "Revoked device cannot rotate token"), devices)
    else
      let updated := { device with tokenDigest := tokenDigest sha256 deviceToken, updatedAt := now }
      match saveDevice devices updated with
      | .ok devices => (.answered updated.toDeviceSummary deviceToken, devices)
      | .error _ => (nextTokenAttempt attempt, devices)

/-- One attempt of a call, with the token that was drawn for it. -/
def tokenAttempt (devices : KeyTable DeviceRow) (request : DeviceRequest) (attempt : ℕ)
    (deviceToken : JsString) (now : IsoDateTime) : DevicePhase × KeyTable DeviceRow :=
  if isToken deviceToken then
    match request with
    | .create userId deviceId => createDevice sha256 devices userId deviceId attempt deviceToken now
    | .rotateToken deviceId => rotateToken sha256 devices deviceId attempt deviceToken now
  else (.failed (.plain "Token generator returned an invalid token"), devices)

/-- The transaction of `revoke`. -/
def revokeDevice (devices : KeyTable DeviceRow) (store : PairingStore) (deviceId : DeviceId)
    (now : IsoDateTime) :
    Except DeviceManagementError (DeviceSummary × KeyTable DeviceRow × PairingStore) :=
  match devices.get? deviceId with
  | none => .error (.management .notFound "Device was not found")
  | some device =>
    if device.status = .revoked then .ok (device.toDeviceSummary, devices, store)
    else
      let revoked := { device with status := .revoked, updatedAt := now }
      match saveDevice devices revoked with
      | .ok devices => .ok (revoked.toDeviceSummary, devices, store.cancelPendingByDevice deviceId)
      | .error _ =>
        .error <| .plain
          "duplicate key value violates unique constraint \"im_devices_token_digest_key\""

/-! ## `DatabaseDeviceAuthenticationPort` -/

/-- `DevicePrincipal`. -/
structure DevicePrincipal where
  deviceId : DeviceId
  userId : UserId
  deriving DecidableEq

/-- `findByTokenDigest`. -/
def findByTokenDigest (devices : KeyTable DeviceRow) (digest : Digest) : Option DeviceRow :=
  devices.rows.find? fun row => row.tokenDigest = digest

/-- The match of `DEVICE_AUTHORIZATION`. -/
def bearerToken (authorization : JsString) : Option JsString :=
  if (js "Bearer ").isPrefixOf authorization ∧ isToken (authorization.drop 7) then
    some (authorization.drop 7)
  else none

/-- `authenticate`. -/
def authenticate (devices : KeyTable DeviceRow) (authorization : JsString) :
    Except ImGatewayError DevicePrincipal :=
  match bearerToken authorization with
  | none => .error ⟨.unauthorized, "Device authorization is invalid"⟩
  | some token =>
    match findByTokenDigest devices (sha256 (utf8 token)) with
    | none => .error ⟨.unauthorized, "Device authorization is invalid"⟩
    | some device =>
      if device.status ≠ .active then .error ⟨.unauthorized, "Device authorization is invalid"⟩
      else .ok ⟨device.deviceId, device.userId⟩

/-! ## Runs -/

/-- What the operator has been told, in order. -/
inductive DeviceEvent where
  | issued (deviceId : DeviceId) (userId : UserId) (deviceToken : JsString)
  | revoked (deviceId : DeviceId)
  deriving DecidableEq

/-- The devices, the calls of the operator and pairing. -/
structure RegistryState where
  devices : KeyTable DeviceRow := .empty
  calls : List DeviceCall := []
  pairing : PairingState := {}
  history : List DeviceEvent := []

/-- What happens next. -/
inductive RegistryStep where
  | create (userIdValue deviceIdValue : JsString)
  | rotateToken (deviceIdValue : JsString)
  | attempt (index : ℕ) (deviceToken : JsString) (now : IsoDateTime)
  | revoke (deviceIdValue : JsString) (now : IsoDateTime)
  | pairing (step : PairingStep)

/-- The devices of pairing are those of the table. -/
def PairingStep.within (devices : KeyTable DeviceRow) : PairingStep → PairingStep
  | .directory _ channelAccounts identities => .directory (deviceDirectory devices) channelAccounts identities
  | step => step

namespace RegistryState

/-- The state after a transaction on the table. -/
def commit (state : RegistryState) (devices : KeyTable DeviceRow) (store : PairingStore) :
    RegistryState :=
  { state with
    devices := devices
    pairing := { state.pairing with store := { store with devices := deviceDirectory devices } } }

/-- An attempt of an open call. -/
def attempt (state : RegistryState) (index : ℕ) (deviceToken : JsString) (now : IsoDateTime) :
    RegistryState :=
  match state.calls[index]? with
  | none => state
  | some call =>
    match call.phase with
    | .issuing attempt =>
      let (phase, devices) := tokenAttempt sha256 state.devices call.request attempt deviceToken now
      let state := state.commit devices state.pairing.store
      { state with
        calls := state.calls.set index { call with phase := phase }
        history :=
          match phase with
          | .answered summary deviceToken =>
            state.history ++ [.issued summary.deviceId summary.userId deviceToken]
          | _ => state.history }
    | _ => state

/-- A call of `revoke`. -/
def revoke (state : RegistryState) (deviceIdValue : JsString) (now : IsoDateTime) : RegistryState :=
  match validateDeviceId deviceIdValue with
  | .error _ => state
  | .ok deviceId =>
    match revokeDevice state.devices state.pairing.store deviceId now with
    | .error _ => state
    | .ok (_, devices, store) =>
      { state.commit devices store with history := state.history ++ [.revoked deviceId] }

/-- What a step does. -/
def step (ports : PairingPorts) (state : RegistryState) : RegistryStep → RegistryState
  | .create userIdValue deviceIdValue =>
    { state with calls := state.calls ++ [startCreateDevice userIdValue deviceIdValue] }
  | .rotateToken deviceIdValue => { state with calls := state.calls ++ [startRotateToken deviceIdValue] }
  | .attempt index deviceToken now => state.attempt sha256 index deviceToken now
  | .revoke deviceIdValue now => state.revoke deviceIdValue now
  | .pairing step => { state with pairing := state.pairing.step ports (step.within state.devices) }

end RegistryState

end VoiceLife.Gateway.Pairing
