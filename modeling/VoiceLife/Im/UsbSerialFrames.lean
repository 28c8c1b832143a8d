import VoiceLife.Im.Provisioning
import VoiceLife.Lib.FrameSync

/-! # `usb_serial_frame_router.cc`: frames on the USB serial line

The decoder takes the line byte by byte and emits provisioning, pairing and voice frames. It emits the
frames of the greedy reading of the stream (`usbSerialFrames_greedy`), so frames among noise and the
frames of the provisioning script all arrive.
-/

open DecimalText (Text ascii)

namespace VoiceLife.Im

/-! ## The code -/

/-- `UsbSerialFrameKind`. -/
inductive UsbSerialFrameKind where
  | imProvisioning
  | imPairing
  | serialVoice
deriving DecidableEq

/-- `kUsbSerialMaximumFrameBytes`. -/
def kUsbSerialMaximumFrameBytes : ℕ := 12 + 255 + 128 + 512 + 128

/-- `UsbSerialFrame`. -/
structure UsbSerialFrame where
  kind : UsbSerialFrameKind := .imProvisioning
  bytes : Text := []
deriving DecidableEq

/-- `kSerialVoiceHeaderSize`. -/
def kSerialVoiceHeaderSize : ℕ := 8

/-- `kSerialVoicePcmBytes`. -/
def kSerialVoicePcmBytes : ℕ := 640

/-- The magics, in the order in which `FullMagicKind` compares them. -/
def usbSerialMagics : List (Text × UsbSerialFrameKind) :=
  [(ascii "VLI1", .imProvisioning), (ascii "VLI2", .imProvisioning), (ascii "VLP1", .imPairing),
    (ascii "VLVT", .serialVoice)]

/-- `FullMagicKind`. -/
def fullMagicKind (magic : Text) : Option UsbSerialFrameKind :=
  usbSerialMagics.lookup magic

/-- `SerialVoiceFrameHeader`. -/
structure SerialVoiceFrameHeader where
  version : ℕ
  kind : ℕ
  payloadBytes : ℕ

/-- The header of the first eight bytes of a voice frame. -/
def serialVoiceHeader (bytes : Text) : SerialVoiceFrameHeader where
  version := (byteAt bytes 4).toNat
  kind := (byteAt bytes 5).toNat
  payloadBytes := (byteAt bytes 6).toNat + (byteAt bytes 7).toNat * 256

/-- `IsValidSerialVoiceHeader`. -/
def isValidSerialVoiceHeader (header : SerialVoiceFrameHeader) : Bool :=
  if header.version ≠ 1 ∨ header.payloadBytes > kSerialVoicePcmBytes then false
  else if header.kind = 2 then header.payloadBytes == kSerialVoicePcmBytes
  else (header.kind == 1 || header.kind == 3 || header.kind == 4 || header.kind == 5) &&
    header.payloadBytes == 0

/-- `UsbSerialFrameDecoder`: `reading` is the state `kReadingFrame`. -/
structure UsbSerialFrameDecoder where
  reading : Bool := false
  frame : UsbSerialFrame := {}
  expectedSize : ℕ := 0

namespace UsbSerialFrameDecoder

/-- `UsbSerialFrameDecoder::Reset`. -/
def reset (decoder : UsbSerialFrameDecoder) : UsbSerialFrameDecoder :=
  { reading := false, frame := { decoder.frame with bytes := [] }, expectedSize := 0 }

/-- `UsbSerialFrameDecoder::IsMagicPrefix` for the bytes of the frame. -/
def isMagicPrefix (bytes : Text) : Bool :=
  usbSerialMagics.any fun magic => bytes.isPrefixOf magic.1

/-- The loop that drops bytes from the front. -/
def dropUntilPrefix : Text → Text
  | [] => []
  | byte :: bytes => if isMagicPrefix (byte :: bytes) then byte :: bytes else dropUntilPrefix bytes

/-- `UsbSerialFrameDecoder::FinishFrame`. -/
def finishFrame (decoder : UsbSerialFrameDecoder) : Option UsbSerialFrame × UsbSerialFrameDecoder :=
  (some decoder.frame, decoder.reset)

/-- The last part of `Push`: there are as many bytes as expected. -/
def routeFrame (decoder : UsbSerialFrameDecoder) : Option UsbSerialFrame × UsbSerialFrameDecoder :=
  let bytes := decoder.frame.bytes
  match decoder.frame.kind with
  | .imPairing =>
    match parseImPairingTrigger bytes with
    | .error _ => (none, decoder.reset)
    | .ok _ => decoder.finishFrame
  | .imProvisioning =>
    if decoder.expectedSize ≠ kImProvisioningHeaderSize then decoder.finishFrame
    else
      match parseImProvisioningHeader bytes with
      | .error _ => (none, decoder.reset)
      | .ok header =>
        if bytes.length + header.payloadSize > kUsbSerialMaximumFrameBytes then (none, decoder.reset)
        else
          let decoder := { decoder with expectedSize := decoder.expectedSize + header.payloadSize }
          if decoder.expectedSize = bytes.length then decoder.finishFrame else (none, decoder)
  | .serialVoice =>
    let header := serialVoiceHeader bytes
    if decoder.expectedSize ≠ kSerialVoiceHeaderSize then decoder.finishFrame
    else if !isValidSerialVoiceHeader header ∨
        bytes.length + header.payloadBytes > kUsbSerialMaximumFrameBytes then
      (none, decoder.reset)
    else
      let decoder := { decoder with expectedSize := decoder.expectedSize + header.payloadBytes }
      if decoder.expectedSize = bytes.length then decoder.finishFrame else (none, decoder)

/-- `UsbSerialFrameDecoder::Push`. -/
def push (decoder : UsbSerialFrameDecoder) (byte : UInt8) : Option UsbSerialFrame × UsbSerialFrameDecoder :=
  if !decoder.reading then
    let decoder := if decoder.frame.bytes.length = 4 then decoder.reset else decoder
    let bytes := dropUntilPrefix (decoder.frame.bytes ++ [byte])
    let decoder := { decoder with frame := { decoder.frame with bytes } }
    if bytes.length ≠ 4 then (none, decoder)
    else
      match fullMagicKind bytes with
      | none => (none, decoder.reset)
      | some kind =>
        (none, {
          reading := true
          frame := { kind, bytes }
          expectedSize := if kind = .serialVoice then kSerialVoiceHeaderSize else kImProvisioningHeaderSize })
  else if decoder.frame.bytes.length = kUsbSerialMaximumFrameBytes then (none, decoder.reset)
  else
    let bytes := decoder.frame.bytes ++ [byte]
    let decoder := { decoder with frame := { decoder.frame with bytes } }
    if bytes.length ≠ decoder.expectedSize then (none, decoder) else decoder.routeFrame

end UsbSerialFrameDecoder

/-- The frames that a new decoder emits from a stream. -/
def emittedFrames (stream : Text) : List UsbSerialFrame :=
  (Transducer.outputs UsbSerialFrameDecoder.push {} stream).reduceOption

/-! ## The protocol -/

/-- The length of the header behind a magic. -/
def usbSerialHeaderSize (magic : Text) : ℕ :=
  if fullMagicKind magic = some .serialVoice then kSerialVoiceHeaderSize else kImProvisioningHeaderSize

/-- The length of the frame that a header declares, if the header is valid and the frame fits the buffer. -/
def usbSerialFrameSize (header : Text) : Option ℕ :=
  match fullMagicKind (header.take 4) with
  | none => none
  | some .imPairing =>
    match parseImPairingTrigger header with
    | .error _ => none
    | .ok _ => some header.length
  | some .imProvisioning =>
    match parseImProvisioningHeader header with
    | .error _ => none
    | .ok parsed =>
      if header.length + parsed.payloadSize > kUsbSerialMaximumFrameBytes then none
      else some (header.length + parsed.payloadSize)
  | some .serialVoice =>
    let parsed := serialVoiceHeader header
    if !isValidSerialVoiceHeader parsed ∨ header.length + parsed.payloadBytes > kUsbSerialMaximumFrameBytes then
      none
    else some (header.length + parsed.payloadBytes)

theorem length_le_usbSerialFrameSize {header : Text} {size : ℕ} (h : usbSerialFrameSize header = some size) :
    header.length ≤ size := by
  unfold usbSerialFrameSize at h
  split at h
  · cases h
  · split at h
    · cases h
    · exact (Option.some.inj h).le
  · split at h
    · cases h
    · split_ifs at h
      exact (Nat.le_add_right _ _).trans_eq (Option.some.inj h)
  · dsimp only at h
    split_ifs at h
    exact (Nat.le_add_right _ _).trans_eq (Option.some.inj h)

/-- The frames of the line. -/
def usbSerialProtocol : FrameProtocol UInt8 where
  magics := usbSerialMagics.map Prod.fst
  magicSize := 4
  headerSize := usbSerialHeaderSize
  frameSize := usbSerialFrameSize
  magicSize_pos := by decide
  length_magic := by decide
  magicSize_lt magic := by
    unfold usbSerialHeaderSize
    split <;> decide
  length_le_frameSize _ _ h := length_le_usbSerialFrameSize h

/-- A frame with the kind that its magic names. -/
def toUsbSerialFrame (bytes : Text) : UsbSerialFrame where
  kind := (fullMagicKind (bytes.take 4)).getD .imProvisioning
  bytes

/-! ## The decoder reads greedily -/

theorem isMagicPrefix_iff (bytes : Text) :
    UsbSerialFrameDecoder.isMagicPrefix bytes = true ↔ usbSerialProtocol.IsMagicPrefix bytes := by
  rw [UsbSerialFrameDecoder.isMagicPrefix, List.any_eq_true, FrameProtocol.IsMagicPrefix, usbSerialProtocol]
  simp only [List.isPrefixOf_iff_prefix, List.mem_map, exists_exists_and_eq_and]

theorem dropUntilPrefix_eq (bytes : Text) :
    UsbSerialFrameDecoder.dropUntilPrefix bytes = usbSerialProtocol.shrink bytes := by
  induction bytes with
  | nil => rfl
  | cons byte bytes ih =>
      rw [UsbSerialFrameDecoder.dropUntilPrefix, FrameProtocol.shrink, if_congr (isMagicPrefix_iff _) rfl ih]

theorem exists_fullMagicKind {bytes : Text} (h : usbSerialProtocol.IsMagicPrefix bytes)
    (hlength : bytes.length = 4) : ∃ kind, fullMagicKind bytes = some kind := by
  obtain ⟨magic, hmem, hpre⟩ := h
  have heq := hpre.eq_of_length (hlength.trans (usbSerialProtocol.length_magic magic hmem).symm)
  subst heq
  have hall : ∀ magic ∈ usbSerialMagics.map Prod.fst, ∃ kind, fullMagicKind magic = some kind := by
    intro magic hmem
    rw [List.mem_map] at hmem
    obtain ⟨pair, hpair, rfl⟩ := hmem
    simp only [usbSerialMagics, List.mem_cons, List.not_mem_nil, or_false] at hpair
    rcases hpair with rfl | rfl | rfl | rfl
    · exact ⟨_, rfl⟩
    · exact ⟨_, rfl⟩
    · exact ⟨_, rfl⟩
    · exact ⟨_, rfl⟩
  exact hall bytes hmem

/-- The decoder is in a state of the protocol's decoder. -/
def Simulates (decoder : UsbSerialFrameDecoder) : FrameProtocol.State UInt8 → Prop
  | .searching buffer => decoder.reading = false ∧ decoder.frame.bytes = buffer ∧ buffer.length < 4
  | .reading bytes expected =>
    decoder.reading = true ∧ decoder.frame.bytes = bytes ∧ decoder.expectedSize = expected ∧
      fullMagicKind (bytes.take 4) = some decoder.frame.kind ∧ 4 ≤ bytes.length ∧ bytes.length < expected ∧
      expected ≤ kUsbSerialMaximumFrameBytes ∧
      (decoder.frame.kind = .imPairing → expected = kImProvisioningHeaderSize)

theorem simulates_reset (decoder : UsbSerialFrameDecoder) : Simulates decoder.reset (.searching []) :=
  ⟨rfl, rfl, by decide⟩

theorem push_searching {decoder : UsbSerialFrameDecoder} {buffer : Text}
    (h : Simulates decoder (.searching buffer)) (byte : UInt8) :
    (decoder.push byte).1 = none ∧
      Simulates (decoder.push byte).2 (usbSerialProtocol.step (.searching buffer) byte).2 := by
  obtain ⟨hreading, hbytes, hbuffer⟩ := h
  have hnot : ¬ decoder.frame.bytes.length = 4 := by rw [hbytes]; omega
  have hshrink := usbSerialProtocol.length_shrink (buffer ++ [byte])
  rw [List.length_append, List.length_singleton] at hshrink
  unfold UsbSerialFrameDecoder.push FrameProtocol.step
  rw [hreading, Bool.not_false, if_pos rfl, if_neg hnot]
  dsimp only
  rw [hbytes, dropUntilPrefix_eq, show usbSerialProtocol.magicSize = 4 from rfl]
  have hpre := usbSerialProtocol.shrink_isMagicPrefix (buffer ++ [byte])
  generalize usbSerialProtocol.shrink (buffer ++ [byte]) = bytes at hshrink hpre ⊢
  by_cases hlength : bytes.length = 4
  · have hnonempty : bytes ≠ [] := by
      rintro rfl
      cases hlength
    obtain ⟨kind, hkind⟩ := exists_fullMagicKind (hpre hnonempty) hlength
    have htake : bytes.take 4 = bytes := List.take_of_length_le hlength.le
    rw [if_neg (not_not.2 hlength), hkind, if_pos hlength]
    refine ⟨rfl, rfl, rfl, ?_, ?_, hlength.ge, ?_, ?_, ?_⟩
    · show _ = usbSerialHeaderSize bytes
      rw [usbSerialHeaderSize, hkind]
      simp
    · rw [htake, hkind]
    · exact hlength.trans_lt (usbSerialProtocol.magicSize_lt bytes)
    · show usbSerialHeaderSize bytes ≤ _
      unfold usbSerialHeaderSize
      split <;> decide
    · intro hpairing
      show usbSerialHeaderSize bytes = _
      dsimp only at hpairing
      rw [usbSerialHeaderSize, hkind, hpairing]
      rfl
  · rw [if_pos hlength, if_neg hlength]
    exact ⟨rfl, hreading, rfl, by omega⟩

/-- What becomes of as many bytes as expected. -/
theorem routeFrame_eq {decoder : UsbSerialFrameDecoder} {bytes : Text} (hreading : decoder.reading = true)
    (hbytes : decoder.frame.bytes = bytes) (hexpected : decoder.expectedSize = bytes.length)
    (hkind : fullMagicKind (bytes.take 4) = some decoder.frame.kind) (hmagic : 4 ≤ bytes.length)
    (hpairing : decoder.frame.kind = .imPairing → bytes.length = kImProvisioningHeaderSize) :
    decoder.routeFrame.1 = (usbSerialProtocol.finish bytes).1.map toUsbSerialFrame ∧
      Simulates decoder.routeFrame.2 (usbSerialProtocol.finish bytes).2 := by
  have hframe : toUsbSerialFrame bytes = decoder.frame := by
    rw [toUsbSerialFrame, hkind, ← hbytes]
    rfl
  have hdone : decoder.finishFrame.1 = (some bytes).map toUsbSerialFrame ∧
      Simulates decoder.finishFrame.2 (.searching []) :=
    ⟨congrArg some hframe.symm, simulates_reset decoder⟩
  have hheader : usbSerialProtocol.headerSize (bytes.take usbSerialProtocol.magicSize)
      = if decoder.frame.kind = .serialVoice then kSerialVoiceHeaderSize else kImProvisioningHeaderSize := by
    show usbSerialHeaderSize (bytes.take 4) = _
    rw [usbSerialHeaderSize, hkind]
    simp
  have hsize : usbSerialProtocol.frameSize bytes = usbSerialFrameSize bytes := rfl
  unfold UsbSerialFrameDecoder.routeFrame FrameProtocol.finish
  rw [hheader, hsize, hbytes, hexpected]
  dsimp only
  generalize hk : decoder.frame.kind = kind at *
  cases kind with
  | imPairing =>
      dsimp only
      rw [if_neg (show ¬ UsbSerialFrameKind.imPairing = .serialVoice by decide),
        if_neg (not_not.2 (hpairing rfl)), usbSerialFrameSize, hkind]
      dsimp only
      split
      · exact ⟨rfl, simulates_reset decoder⟩
      · dsimp only
        rw [if_pos rfl]
        exact hdone
  | imProvisioning =>
      dsimp only
      rw [if_neg (show ¬ UsbSerialFrameKind.imProvisioning = .serialVoice by decide)]
      by_cases hwhole : bytes.length = kImProvisioningHeaderSize
      · rw [if_neg (not_not.2 hwhole), if_neg (not_not.2 hwhole), usbSerialFrameSize, hkind]
        dsimp only
        split
        · exact ⟨rfl, simulates_reset decoder⟩
        · next header hparse =>
            by_cases hfits : bytes.length + header.payloadSize > kUsbSerialMaximumFrameBytes
            · rw [if_pos hfits, if_pos hfits]
              exact ⟨rfl, simulates_reset decoder⟩
            · rw [if_neg hfits, if_neg hfits]
              dsimp only
              by_cases hempty : bytes.length + header.payloadSize = bytes.length
              · rw [if_pos hempty, if_pos hempty]
                exact ⟨congrArg some hframe.symm, simulates_reset decoder⟩
              · rw [if_neg hempty, if_neg hempty]
                refine ⟨rfl, hreading, hbytes, rfl, ?_, hmagic, ?_, not_lt.1 hfits, ?_⟩
                · exact hkind.trans (congrArg some hk.symm)
                · omega
                · intro hpair
                  exact absurd (hk.symm.trans hpair) (by decide)
      · rw [if_pos hwhole, if_pos hwhole]
        exact hdone
  | serialVoice =>
      dsimp only
      rw [if_pos rfl]
      by_cases hwhole : bytes.length = kSerialVoiceHeaderSize
      · rw [if_neg (not_not.2 hwhole), if_neg (not_not.2 hwhole), usbSerialFrameSize, hkind]
        dsimp only
        split_ifs with hinvalid hempty
        · exact ⟨rfl, simulates_reset decoder⟩
        · dsimp only
          rw [if_pos hempty]
          exact ⟨congrArg some hframe.symm, simulates_reset decoder⟩
        · dsimp only
          rw [if_neg hempty]
          rw [not_or] at hinvalid
          refine ⟨rfl, hreading, hbytes, rfl, ?_, hmagic, ?_, not_lt.1 hinvalid.2, ?_⟩
          · exact hkind.trans (congrArg some hk.symm)
          · omega
          · intro hpair
            exact absurd (hk.symm.trans hpair) (by decide)
      · rw [if_pos hwhole, if_pos hwhole]
        exact hdone

theorem push_reading {decoder : UsbSerialFrameDecoder} {bytes : Text} {expected : ℕ}
    (h : Simulates decoder (.reading bytes expected)) (byte : UInt8) :
    (decoder.push byte).1
        = (usbSerialProtocol.step (.reading bytes expected) byte).1.map toUsbSerialFrame ∧
      Simulates (decoder.push byte).2 (usbSerialProtocol.step (.reading bytes expected) byte).2 := by
  obtain ⟨hreading, hbytes, hexpected, hkind, hmagic, hshort, hbound, hpairing⟩ := h
  have htake : (bytes ++ [byte]).take 4 = bytes.take 4 := List.take_append_of_le_length hmagic
  have hmagic' : 4 ≤ (bytes ++ [byte]).length := by
    rw [List.length_append]
    omega
  unfold UsbSerialFrameDecoder.push FrameProtocol.step
  rw [hreading, Bool.not_true, if_neg Bool.false_ne_true, hbytes, if_neg (by omega)]
  dsimp only
  rw [hexpected]
  by_cases hlength : (bytes ++ [byte]).length = expected
  · rw [if_neg (not_not.2 hlength), if_neg (not_not.2 hlength)]
    exact routeFrame_eq rfl rfl (by rw [hlength]) (htake ▸ hkind) hmagic'
      fun hpair => hlength.trans (hpairing hpair)
  · rw [if_pos hlength, if_pos hlength]
    refine ⟨rfl, rfl, rfl, rfl, htake ▸ hkind, hmagic', ?_, hbound, hpairing⟩
    rw [List.length_append, List.length_singleton] at hlength ⊢
    omega

/-- The decoder emits the frames of the greedy reading. -/
theorem emittedFrames_eq (stream : Text) :
    emittedFrames stream = (usbSerialProtocol.frames stream).map toUsbSerialFrame := by
  have hsimulation : Transducer.outputs UsbSerialFrameDecoder.push {} stream
      = (Transducer.outputs usbSerialProtocol.step (.searching []) stream).map (Option.map toUsbSerialFrame) := by
    refine Transducer.outputs_of_simulation Simulates ?_ stream ⟨rfl, rfl, by decide⟩
    intro decoder state byte h
    cases state with
    | searching buffer => exact push_searching h byte
    | reading bytes expected => exact push_reading h byte
  have hemitted := usbSerialProtocol.emitted_searching [] (by decide) stream
  rw [List.nil_append] at hemitted
  rw [emittedFrames, hsimulation, ← hemitted, FrameProtocol.emitted, List.reduceOption_map]

theorem usbSerialProtocol_unbordered : usbSerialProtocol.Unbordered := by
  have hall : ∀ magic ∈ usbSerialMagics.map Prod.fst, ∀ other ∈ usbSerialMagics.map Prod.fst,
      ∀ border ∈ magic.tails, border ≠ [] → border <+: other → border = magic := by decide
  intro magic hmagic other hother border hne hsuffix hpre
  exact hall magic hmagic other hother border ((List.mem_tails _ _).2 hsuffix) hne hpre

theorem usbSerialFrameSize_le {header : Text} {size : ℕ} (h : usbSerialFrameSize header = some size) :
    size ≤ kUsbSerialMaximumFrameBytes := by
  unfold usbSerialFrameSize at h
  split at h
  · cases h
  · split at h
    · cases h
    · next hparse =>
        -- a pairing trigger has twelve bytes
        unfold parseImPairingTrigger at hparse
        split_ifs at hparse with hlength
        · cases hparse
        · cases hparse
        · rw [not_or, not_not] at hlength
          rw [← Option.some.inj h, hlength.1]
          decide
  · split at h
    · cases h
    · split_ifs at h with hfits
      rw [← Option.some.inj h]
      exact not_lt.1 hfits
  · dsimp only at h
    split_ifs at h with hfits
    rw [← Option.some.inj h]
    exact not_lt.1 (not_or.1 hfits).2

/-- Noise in which no magic occurs. -/
def NoMagic (noise : Text) : Prop :=
  ∀ magic ∈ usbSerialProtocol.magics, ¬ magic <:+: noise

theorem locate_eq_none {noise : Text} (h : NoMagic noise) : usbSerialProtocol.locate noise = none := by
  cases hlocate : usbSerialProtocol.locate noise with
  | none => rfl
  | some found =>
      obtain ⟨magic, hmem, hpre⟩ := usbSerialProtocol.starts_of_locate hlocate
      exact absurd (hpre.isInfix.trans (usbSerialProtocol.suffix_of_locate hlocate).isInfix) (h magic hmem)

/-- The frame of a provisioning request is a whole frame of the line. -/
theorem isFrame_provisioningFrame {request : ImProvisioningRequest} (h : request.Fits) :
    usbSerialProtocol.IsFrame (provisioningFrame request) ∧
      toUsbSerialFrame (provisioningFrame request) = ⟨.imProvisioning, provisioningFrame request⟩ := by
  have hmagic : (provisioningFrame request).take 4
      = if request.allowOverwrite then ascii "VLI2" else ascii "VLI1" := by
    unfold provisioningFrame provisioningHeader
    cases request.allowOverwrite <;> rfl
  have hkind : fullMagicKind ((provisioningFrame request).take 4) = some .imProvisioning := by
    rw [hmagic]
    cases request.allowOverwrite <;> rfl
  have hheader : usbSerialProtocol.headerSize ((provisioningFrame request).take usbSerialProtocol.magicSize)
      = kImProvisioningHeaderSize := by
    show usbSerialHeaderSize ((provisioningFrame request).take 4) = _
    rw [usbSerialHeaderSize, hkind]
    rfl
  have hlength : (provisioningFrame request).length
      = kImProvisioningHeaderSize + (readHeader request).payloadSize := by
    rw [provisioningFrame, List.length_append, length_provisioningHeader, readHeader]
    simp only [List.length_append, Nat.add_assoc]
  have htake : (provisioningFrame request).take kImProvisioningHeaderSize = provisioningHeader request := by
    rw [provisioningFrame, ← length_provisioningHeader request, List.take_left]
  refine ⟨⟨?_, ?_, ?_⟩, ?_⟩
  · refine ⟨_, ?_, hmagic ▸ List.take_prefix 4 _⟩
    cases request.allowOverwrite <;> decide
  · rw [hheader, hlength]
    exact Nat.le_add_right _ _
  · have hparse := parseImProvisioningHeader_provisioningHeader h []
    have hkind' : fullMagicKind ((provisioningHeader request).take 4) = some .imProvisioning := by
      rw [← htake, List.take_take]
      exact hkind
    have hfits : ¬ kImProvisioningHeaderSize + (readHeader request).payloadSize > kUsbSerialMaximumFrameBytes := by
      have horigin := h.origin.bound
      have hdevice := h.device.bound
      have htoken := h.token.bound
      have huser := h.user.bound
      simp only [kMaxGatewayOriginBytes, kMaxDeviceIdBytes, kMaxDeviceTokenBytes, kMaxUserIdBytes] at *
      simp only [kImProvisioningHeaderSize, kUsbSerialMaximumFrameBytes, readHeader]
      omega
    rw [List.append_nil] at hparse
    rw [hheader, htake, hlength]
    show usbSerialFrameSize (provisioningHeader request) = _
    rw [usbSerialFrameSize, hkind']
    dsimp only
    rw [hparse]
    dsimp only
    rw [length_provisioningHeader, if_neg hfits]
  · rw [toUsbSerialFrame, hkind]
    rfl

/-- The decoder emits the frames of the greedy reading of any stream, and no frame exceeds its buffer.
Frames among noise without a magic are all emitted, and so is what the provisioning script builds, which
the board reads back to the same fields. -/
theorem usbSerialFrames_greedy :
    (∀ stream, emittedFrames stream = (usbSerialProtocol.frames stream).map toUsbSerialFrame) ∧
      (∀ stream, ∀ frame ∈ emittedFrames stream, frame.bytes.length ≤ kUsbSerialMaximumFrameBytes) ∧
      (∀ (pieces : List (Text × Text)) (last : Text), (∀ piece ∈ pieces, NoMagic piece.1) →
        (∀ piece ∈ pieces, usbSerialProtocol.IsFrame piece.2) → NoMagic last →
          emittedFrames (pieces.flatMap (fun piece => piece.1 ++ piece.2) ++ last)
            = pieces.map fun piece => toUsbSerialFrame piece.2) ∧
      ∀ (validateOrigin : PyString → Except String Unit)
        (gatewayOrigin deviceId deviceToken userId : PyString) (allowOverwrite : Bool) (payload : Text),
        requestPayload validateOrigin gatewayOrigin deviceId deviceToken userId allowOverwrite = .ok payload →
          usbSerialProtocol.IsFrame payload ∧ emittedFrames payload = [⟨.imProvisioning, payload⟩] ∧
            parseImProvisioningRequest payload = .ok {
              allowOverwrite
              gatewayOrigin := gatewayOrigin.flatMap encodePoint
              deviceId := deviceId.flatMap encodePoint
              deviceToken := deviceToken.flatMap encodePoint
              userId := userId.flatMap encodePoint } := by
  have hseparated : ∀ (pieces : List (Text × Text)) (last : Text), (∀ piece ∈ pieces, NoMagic piece.1) →
      (∀ piece ∈ pieces, usbSerialProtocol.IsFrame piece.2) → NoMagic last →
        emittedFrames (pieces.flatMap (fun piece => piece.1 ++ piece.2) ++ last)
          = pieces.map fun piece => toUsbSerialFrame piece.2 := by
    intro pieces last hnoise hframes hlast
    rw [emittedFrames_eq, usbSerialProtocol.frames_separated usbSerialProtocol_unbordered
      (fun piece hmem => locate_eq_none (hnoise piece hmem)) hframes (locate_eq_none hlast), List.map_map]
    rfl
  refine ⟨emittedFrames_eq, ?_, hseparated, ?_⟩
  · intro stream frame hmem
    rw [emittedFrames_eq] at hmem
    obtain ⟨bytes, hbytes, rfl⟩ := List.mem_map.1 hmem
    exact usbSerialFrameSize_le (usbSerialProtocol.isFrame_of_mem_frames hbytes).2.2
  · intro validateOrigin gatewayOrigin deviceId deviceToken userId allowOverwrite payload h
    obtain ⟨request, hfits, rfl, rfl, horigin, hdevice, htoken, huser⟩ := requestPayload_ok h
    obtain ⟨hframe, hkind⟩ := isFrame_provisioningFrame hfits
    have hsilence : NoMagic [] := by
      intro magic hmem hinfix
      have hlength := usbSerialProtocol.length_magic magic hmem
      rw [List.infix_nil.1 hinfix] at hlength
      cases hlength
    have hone := hseparated [([], provisioningFrame request)] []
      (fun piece hmem => by rw [List.mem_singleton.1 hmem]; exact hsilence)
      (fun piece hmem => by rw [List.mem_singleton.1 hmem]; exact hframe) hsilence
    refine ⟨hframe, ?_, ?_⟩
    · simpa [hkind] using hone
    · rw [parseImProvisioningRequest_provisioningFrame hfits, ← horigin, ← hdevice, ← htoken, ← huser]

/-- `https://g.io`. -/
def exampleOrigin : PyString :=
  [104, 116, 116, 112, 115, 58, 47, 47, 103, 46, 105, 111]

theorem usbSerialFrames_example :
    ∃ payload, requestPayload (fun _ => .ok ()) exampleOrigin [100] (List.replicate 43 97) [117] true
        = .ok payload ∧
      emittedFrames payload = [⟨.imProvisioning, payload⟩] ∧
      emittedFrames (ascii "xVLV" ++ payload ++ ascii "VL") = [toUsbSerialFrame payload] := by
  have hpayload : ∃ payload,
      requestPayload (fun _ => .ok ()) exampleOrigin [100] (List.replicate 43 97) [117] true = .ok payload :=
    ⟨_, rfl⟩
  obtain ⟨payload, hpayload⟩ := hpayload
  obtain ⟨hframe, hone, -⟩ := usbSerialFrames_greedy.2.2.2 _ _ _ _ _ _ _ hpayload
  refine ⟨payload, hpayload, hone, ?_⟩
  have hnoise : NoMagic (ascii "xVLV") := by
    unfold NoMagic
    decide
  have hlast : NoMagic (ascii "VL") := by
    unfold NoMagic
    decide
  have hnoisy := usbSerialFrames_greedy.2.2.1 [(ascii "xVLV", payload)] (ascii "VL")
    (fun piece hmem => by rw [List.mem_singleton.1 hmem]; exact hnoise)
    (fun piece hmem => by rw [List.mem_singleton.1 hmem]; exact hframe) hlast
  simpa using hnoisy

end VoiceLife.Im
