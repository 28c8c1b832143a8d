import VoiceLife.Contracts.Status
import VoiceLife.Lib.Utf8

/-! # `im_provisioning.cc` and `provision_im_config.py`: provisioning over the serial line

The script writes a frame of four fields behind their lengths, and the board reads it. Every frame that
the script builds is read back to the same fields (`parseImProvisioningRequest_provisioningFrame`, `requestPayload_ok`).
-/

open DecimalText (Text ascii)

namespace VoiceLife.Im

/-! ## The board -/

/-- `kImProvisioningHeaderSize`. -/
def kImProvisioningHeaderSize : ℕ := 12

/-- `kImPairingTriggerSize`. -/
def kImPairingTriggerSize : ℕ := 12

def kMaxGatewayOriginBytes : ℕ := 255
def kMaxDeviceIdBytes : ℕ := 128
def kMaxDeviceTokenBytes : ℕ := 512
def kMaxUserIdBytes : ℕ := 128

/-- `ImProvisioningHeader`. -/
structure ImProvisioningHeader where
  allowOverwrite : Bool
  gatewayOriginSize : ℕ
  deviceIdSize : ℕ
  deviceTokenSize : ℕ
  userIdSize : ℕ
  payloadSize : ℕ
deriving DecidableEq

/-- `ImProvisioningRequest`. -/
structure ImProvisioningRequest where
  allowOverwrite : Bool
  gatewayOrigin : Text
  deviceId : Text
  deviceToken : Text
  userId : Text
deriving DecidableEq

/-- `ImPairingTriggerRequest`. -/
structure ImPairingTriggerRequest where
  expiresInMinutes : ℕ
deriving DecidableEq

/-- The byte at an offset that the caller has checked. -/
def byteAt (bytes : Text) (offset : ℕ) : UInt8 :=
  bytes.getD offset 0

/-- `DecodeSize`. -/
def decodeSize (bytes : Text) (offset : ℕ) : ℕ :=
  (byteAt bytes offset).toNat * 256 + (byteAt bytes (offset + 1)).toNat

/-- `std::iscntrl` in the C locale. -/
def isControl (byte : UInt8) : Bool :=
  byte < 0x20 || byte == 0x7f

/-- `IsSafeText`. -/
def isSafeText (bytes : Text) : Bool :=
  bytes.all fun character => character != 0 && !isControl character

/-- `IsSafeCredential`. -/
def isSafeCredential (bytes : Text) : Bool :=
  bytes.all fun character => 0x20 < character && character < 0x7f

/-- `ParseImProvisioningHeader`. -/
def parseImProvisioningHeader (bytes : Text) : Result ImProvisioningHeader :=
  if bytes.length < kImProvisioningHeaderSize then
    Result.failure .invalidArgument "IM provisioning header 不完整"
  else if bytes.take 3 ≠ ascii "VLI" ∨ (byteAt bytes 3 ≠ 49 ∧ byteAt bytes 3 ≠ 50) then
    Result.failure .invalidArgument "IM provisioning magic 无效"
  else
    let gatewayOriginSize := decodeSize bytes 4
    let deviceIdSize := decodeSize bytes 6
    let deviceTokenSize := decodeSize bytes 8
    let userIdSize := decodeSize bytes 10
    if gatewayOriginSize = 0 ∨ gatewayOriginSize > kMaxGatewayOriginBytes ∨
        deviceIdSize = 0 ∨ deviceIdSize > kMaxDeviceIdBytes ∨
        deviceTokenSize = 0 ∨ deviceTokenSize > kMaxDeviceTokenBytes ∨ userIdSize > kMaxUserIdBytes then
      Result.failure .invalidArgument "IM provisioning 字段长度越界"
    else
      .ok {
        allowOverwrite := byteAt bytes 3 == 50
        gatewayOriginSize
        deviceIdSize
        deviceTokenSize
        userIdSize
        payloadSize := gatewayOriginSize + deviceIdSize + deviceTokenSize + userIdSize }

/-- `ParseImProvisioningRequest`. -/
def parseImProvisioningRequest (bytes : Text) : Result ImProvisioningRequest := do
  let header ← parseImProvisioningHeader bytes
  if bytes.length ≠ kImProvisioningHeaderSize + header.payloadSize then
    Result.failure .invalidArgument "IM provisioning frame 长度不匹配"
  else
    let rest := bytes.drop kImProvisioningHeaderSize
    let origin := rest.take header.gatewayOriginSize
    let rest := rest.drop header.gatewayOriginSize
    let deviceId := rest.take header.deviceIdSize
    let rest := rest.drop header.deviceIdSize
    let token := rest.take header.deviceTokenSize
    let rest := rest.drop header.deviceTokenSize
    let userId := rest.take header.userIdSize
    if !isSafeText origin ∨ !isSafeCredential deviceId ∨ !isSafeCredential token ∨ !isSafeText userId then
      Result.failure .invalidArgument "IM provisioning 字段包含非法控制字符"
    else
      .ok {
        allowOverwrite := header.allowOverwrite
        gatewayOrigin := origin
        deviceId
        deviceToken := token
        userId }

/-- `ParseImPairingTrigger`. -/
def parseImPairingTrigger (bytes : Text) : Result ImPairingTriggerRequest :=
  if bytes.length ≠ kImPairingTriggerSize ∨ bytes.take 4 ≠ ascii "VLP1" then
    Result.failure .invalidArgument "IM pairing trigger 无效"
  else if byteAt bytes 4 < 1 ∨ byteAt bytes 4 > 10 ∨ !(bytes.drop 5).all (· == 0) then
    Result.failure .invalidArgument "IM pairing trigger 参数越界"
  else .ok { expiresInMinutes := (byteAt bytes 4).toNat }

/-! ## The script -/

/-- A `str`: its code points. -/
abbrev PyString := List ℕ

/-- `str.encode("utf-8")`: a lone surrogate raises an error. -/
def encodeUtf8 (value : PyString) : Except String Text :=
  if ∀ point ∈ value, point < 0xd800 ∨ (0xe000 ≤ point ∧ point < 0x110000) then
    .ok (value.flatMap encodePoint)
  else .error "surrogates not allowed"

/-- `[A-Za-z0-9_-]`. -/
def isBase64UrlPoint (point : ℕ) : Bool :=
  (65 ≤ point && point ≤ 90) || (97 ≤ point && point ≤ 122) || (48 ≤ point && point ≤ 57) || point == 95 ||
    point == 45

/-- `FIELD_LIMITS`. -/
def fieldLimits : List ℕ := [255, 128, 512, 128]

/-- The checks of one encoded field. `index` counts from 0. -/
def checkField (index maximum : ℕ) (field : Text) : Except String Unit :=
  if ¬ (1 ≤ field.length ∧ field.length ≤ maximum) then
    .error s!"field {index + 1} must encode to 1..{maximum} bytes"
  else
    let credential := index == 1 || index == 2
    if field.contains 0 ||
        field.any (fun byte => byte < 0x20 || byte == 0x7f || (credential && (byte ≤ 0x20 || byte ≥ 0x7f))) then
      .error s!"field {index + 1} contains a control character"
    else .ok ()

/-- `len(field).to_bytes(2, "big")`. -/
def sizeBytes (size : ℕ) : Text :=
  [UInt8.ofNat (size / 256), UInt8.ofNat size]

/-- The loop of `request_payload` over the fields and their limits. -/
def checkFields : ℕ → List (Text × ℕ) → Except String Unit
  | _, [] => .ok ()
  | index, (field, maximum) :: rest => do
    checkField index maximum field
    checkFields (index + 1) rest

/-- `request_payload`: `validateOrigin` is `validate_gateway_origin`, which parses a URL. -/
def requestPayload (validateOrigin : PyString → Except String Unit)
    (gatewayOrigin deviceId deviceToken userId : PyString) (allowOverwrite : Bool) : Except String Text := do
  validateOrigin gatewayOrigin
  if ¬ (deviceToken.length = 43 ∧ deviceToken.all isBase64UrlPoint) then
    .error "device token must be exactly 43 base64url characters"
  else
    let origin ← encodeUtf8 gatewayOrigin
    let device ← encodeUtf8 deviceId
    let token ← encodeUtf8 deviceToken
    let user ← encodeUtf8 userId
    let fields := [origin, device, token, user]
    checkFields 0 (fields.zip fieldLimits)
    let header := fields.flatMap fun field => sizeBytes field.length
    let magic := if allowOverwrite then ascii "VLI2" else ascii "VLI1"
    return magic ++ header ++ fields.flatten

/-! ## Round trip -/

/-- The header of four fields. -/
def provisioningHeader (request : ImProvisioningRequest) : Text :=
  (if request.allowOverwrite then ascii "VLI2" else ascii "VLI1") ++
    (sizeBytes request.gatewayOrigin.length ++ (sizeBytes request.deviceId.length ++
      (sizeBytes request.deviceToken.length ++ sizeBytes request.userId.length)))

/-- The frame of four fields. -/
def provisioningFrame (request : ImProvisioningRequest) : Text :=
  provisioningHeader request ++
    (request.gatewayOrigin ++ (request.deviceId ++ (request.deviceToken ++ request.userId)))

/-- The header of four fields as the board reads it. -/
def readHeader (request : ImProvisioningRequest) : ImProvisioningHeader where
  allowOverwrite := request.allowOverwrite
  gatewayOriginSize := request.gatewayOrigin.length
  deviceIdSize := request.deviceId.length
  deviceTokenSize := request.deviceToken.length
  userIdSize := request.userId.length
  payloadSize := request.gatewayOrigin.length + request.deviceId.length + request.deviceToken.length +
    request.userId.length

/-- A field that both sides accept. -/
structure FieldFits (maximum : ℕ) (safe : Text → Bool) (field : Text) : Prop where
  nonempty : 1 ≤ field.length
  bound : field.length ≤ maximum
  safe : safe field = true

/-- Four fields that both sides accept. -/
structure ImProvisioningRequest.Fits (request : ImProvisioningRequest) : Prop where
  origin : FieldFits kMaxGatewayOriginBytes isSafeText request.gatewayOrigin
  device : FieldFits kMaxDeviceIdBytes isSafeCredential request.deviceId
  token : FieldFits kMaxDeviceTokenBytes isSafeCredential request.deviceToken
  user : FieldFits kMaxUserIdBytes isSafeText request.userId

theorem encodeUtf8_ok {value : PyString} {bytes : Text} (h : encodeUtf8 value = .ok bytes) :
    bytes = value.flatMap encodePoint := by
  unfold encodeUtf8 at h
  split_ifs at h
  exact (Except.ok.inj h).symm

/-- A field that passes the check of the script is safe for the board. -/
theorem checkField_ok {index maximum : ℕ} {field : Text} (h : checkField index maximum field = .ok ()) :
    FieldFits maximum (if index = 1 ∨ index = 2 then isSafeCredential else isSafeText) field := by
  unfold checkField at h
  dsimp only at h
  split_ifs at h with hlength hsafe
  refine ⟨hlength.1, hlength.2, ?_⟩
  rw [Bool.or_eq_true, not_or, List.any_eq_true] at hsafe
  obtain ⟨hzero, hany⟩ := hsafe
  split
  · next hcredential =>
      rw [isSafeCredential, List.all_eq_true]
      intro byte hmem
      by_contra hbyte
      refine hany ⟨byte, hmem, ?_⟩
      have hflag : (index == 1 || index == 2) = true := by simpa using hcredential
      simp only [Bool.and_eq_true, decide_eq_true_eq, UInt8.lt_iff_toNat_lt] at hbyte
      simp only [hflag, Bool.true_and, Bool.or_eq_true, decide_eq_true_eq, UInt8.le_iff_toNat_le, ge_iff_le]
      right
      by_contra hrange
      apply hbyte
      rw [not_or] at hrange
      exact ⟨not_le.1 hrange.1, not_le.1 hrange.2⟩
  · next hplain =>
      rw [isSafeText, List.all_eq_true]
      intro byte hmem
      by_contra hbyte
      refine hany ⟨byte, hmem, ?_⟩
      rw [Bool.and_eq_true, not_and_or] at hbyte
      rcases hbyte with hbyte | hbyte
      · have hbyte : byte = 0 := by simpa using hbyte
        rw [hbyte]
        rfl
      · have hcontrol : isControl byte = true := by simpa using hbyte
        rw [isControl] at hcontrol
        rw [hcontrol, Bool.true_or]

theorem toNat_sizeBytes (size : ℕ) (h : size < 65536) :
    (UInt8.ofNat (size / 256)).toNat * 256 + (UInt8.ofNat size).toNat = size := by
  rw [UInt8.toNat_ofNat', UInt8.toNat_ofNat']
  omega

theorem length_provisioningHeader (request : ImProvisioningRequest) :
    (provisioningHeader request).length = kImProvisioningHeaderSize := by
  unfold provisioningHeader
  cases request.allowOverwrite <;> rfl

/-- The board reads the lengths of the fields, whatever follows the header. -/
theorem parseImProvisioningHeader_provisioningHeader {request : ImProvisioningRequest} (h : request.Fits)
    (rest : Text) :
    parseImProvisioningHeader (provisioningHeader request ++ rest) = .ok (readHeader request) := by
  obtain ⟨⟨horigin, horigin', -⟩, ⟨hdevice, hdevice', -⟩, ⟨htoken, htoken', -⟩, ⟨huser, huser', -⟩⟩ := h
  have hlimits : kMaxGatewayOriginBytes = 255 ∧ kMaxDeviceIdBytes = 128 ∧ kMaxDeviceTokenBytes = 512 ∧
      kMaxUserIdBytes = 128 := ⟨rfl, rfl, rfl, rfl⟩
  have hlength : ¬ (provisioningHeader request ++ rest).length < kImProvisioningHeaderSize := by
    rw [List.length_append, length_provisioningHeader]
    omega
  have hmagic : (provisioningHeader request ++ rest).take 3 = ascii "VLI" ∧
      byteAt (provisioningHeader request ++ rest) 3 = if request.allowOverwrite then 50 else 49 := by
    unfold provisioningHeader
    cases request.allowOverwrite <;> exact ⟨rfl, rfl⟩
  have hsizes : decodeSize (provisioningHeader request ++ rest) 4 = request.gatewayOrigin.length ∧
      decodeSize (provisioningHeader request ++ rest) 6 = request.deviceId.length ∧
      decodeSize (provisioningHeader request ++ rest) 8 = request.deviceToken.length ∧
      decodeSize (provisioningHeader request ++ rest) 10 = request.userId.length := by
    rw [← toNat_sizeBytes request.gatewayOrigin.length (by omega),
      ← toNat_sizeBytes request.deviceId.length (by omega),
      ← toNat_sizeBytes request.deviceToken.length (by omega),
      ← toNat_sizeBytes request.userId.length (by omega)]
    unfold provisioningHeader
    cases request.allowOverwrite <;> exact ⟨rfl, rfl, rfl, rfl⟩
  obtain ⟨horiginSize, hdeviceSize, htokenSize, huserSize⟩ := hsizes
  have hbounds : ¬ (request.gatewayOrigin.length = 0 ∨ request.gatewayOrigin.length > kMaxGatewayOriginBytes ∨
      request.deviceId.length = 0 ∨ request.deviceId.length > kMaxDeviceIdBytes ∨
      request.deviceToken.length = 0 ∨ request.deviceToken.length > kMaxDeviceTokenBytes ∨
      request.userId.length > kMaxUserIdBytes) := by omega
  unfold parseImProvisioningHeader readHeader
  rw [if_neg hlength, horiginSize, hdeviceSize, htokenSize, huserSize, hmagic.1, hmagic.2]
  dsimp only
  rw [if_neg hbounds]
  cases request.allowOverwrite <;> rfl

/-- The board reads back the four fields. -/
theorem parseImProvisioningRequest_provisioningFrame {request : ImProvisioningRequest} (h : request.Fits) :
    parseImProvisioningRequest (provisioningFrame request) = .ok request := by
  have hlength : (provisioningFrame request).length
      = kImProvisioningHeaderSize + (readHeader request).payloadSize := by
    rw [provisioningFrame, List.length_append, length_provisioningHeader, readHeader]
    simp only [List.length_append, Nat.add_assoc]
  have hsafe : ¬ ((!isSafeText request.gatewayOrigin) = true ∨ (!isSafeCredential request.deviceId) = true ∨
      (!isSafeCredential request.deviceToken) = true ∨ (!isSafeText request.userId) = true) := by
    simp [h.origin.safe, h.device.safe, h.token.safe, h.user.safe]
  have hdrop : (provisioningFrame request).drop kImProvisioningHeaderSize
      = request.gatewayOrigin ++ (request.deviceId ++ (request.deviceToken ++ request.userId)) := by
    rw [provisioningFrame, ← length_provisioningHeader request, List.drop_left]
  unfold parseImProvisioningRequest
  rw [bind_eq_ok]
  refine ⟨readHeader request, parseImProvisioningHeader_provisioningHeader h _, ?_⟩
  rw [if_neg (not_not.2 hlength), hdrop]
  dsimp only [readHeader]
  rw [List.take_left, List.drop_left, List.take_left, List.drop_left, List.take_left, List.drop_left,
    List.take_length, if_neg hsafe]

/-- What the script builds is the frame of the encoded fields. -/
theorem requestPayload_ok {validateOrigin : PyString → Except String Unit}
    {gatewayOrigin deviceId deviceToken userId : PyString} {allowOverwrite : Bool} {payload : Text}
    (h : requestPayload validateOrigin gatewayOrigin deviceId deviceToken userId allowOverwrite = .ok payload) :
    ∃ request : ImProvisioningRequest, request.Fits ∧ payload = provisioningFrame request ∧
      request.allowOverwrite = allowOverwrite ∧ request.gatewayOrigin = gatewayOrigin.flatMap encodePoint ∧
      request.deviceId = deviceId.flatMap encodePoint ∧
      request.deviceToken = deviceToken.flatMap encodePoint ∧ request.userId = userId.flatMap encodePoint := by
  unfold requestPayload at h
  obtain ⟨-, -, h⟩ := bind_eq_ok.1 h
  by_cases hbase64 : deviceToken.length = 43 ∧ deviceToken.all isBase64UrlPoint = true
  swap
  · rw [if_pos hbase64] at h
    cases h
  rw [if_neg (not_not.2 hbase64)] at h
  obtain ⟨origin, horigin, h⟩ := bind_eq_ok.1 h
  obtain ⟨device, hdevice, h⟩ := bind_eq_ok.1 h
  obtain ⟨token, htoken, h⟩ := bind_eq_ok.1 h
  obtain ⟨user, huser, h⟩ := bind_eq_ok.1 h
  obtain ⟨_, hfields, h⟩ := bind_eq_ok.1 h
  simp only [List.zip, fieldLimits, List.zipWith_cons_cons, List.zipWith_nil_left, checkFields] at hfields
  obtain ⟨_, hcheckOrigin, hfields⟩ := bind_eq_ok.1 hfields
  obtain ⟨_, hcheckDevice, hfields⟩ := bind_eq_ok.1 hfields
  obtain ⟨_, hcheckToken, hfields⟩ := bind_eq_ok.1 hfields
  obtain ⟨_, hcheckUser, -⟩ := bind_eq_ok.1 hfields
  refine ⟨⟨allowOverwrite, origin, device, token, user⟩, ⟨checkField_ok hcheckOrigin,
    checkField_ok hcheckDevice, checkField_ok hcheckToken, checkField_ok hcheckUser⟩, ?_, rfl,
    encodeUtf8_ok horigin, encodeUtf8_ok hdevice, encodeUtf8_ok htoken, encodeUtf8_ok huser⟩
  rw [← Except.ok.inj h, provisioningFrame, provisioningHeader]
  simp [List.append_assoc]

end VoiceLife.Im
