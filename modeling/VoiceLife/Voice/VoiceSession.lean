import VoiceLife.Contracts.Status
import VoiceLife.Lib.Process

/-! # `voice_session.cc`: one voice session

The session between the audio ports and the speech provider. Every section under `mutex_` is atomic, and
every port call may be answered in any way. The upstream audio (`SubmitAudio`, `HandleInputAudio`) with its
sequence numbers and the voice activity detection is left out.
-/

namespace VoiceLife.Voice

/-! ## Values -/

/-- `AudioCodec`. -/
inductive AudioCodec where
  | pcmS16Le
  | opus
  deriving DecidableEq

/-- `VoiceMode`. -/
inductive VoiceMode where
  | manual
  | auto
  | realtime
  deriving DecidableEq

/-- `VoiceSessionState`. -/
inductive VoiceSessionState where
  | stopped
  | starting
  | ready
  | capturing
  | speaking
  | failed
  deriving DecidableEq

/-- `VoiceEventKind`. -/
inductive VoiceEventKind where
  | connected
  | disconnected
  | asrText
  | ttsStarted
  | ttsSentenceStarted
  | ttsStopped
  | toolCall
  | llmEmotion
  | error
  deriving DecidableEq

/-- `AudioFormat`. -/
structure AudioFormat where
  codec : AudioCodec := .pcmS16Le
  sampleRateHz : ℕ := 16000
  channels : ℕ := 1
  bitsPerSample : ℕ := 16
  frameDurationMs : ℕ := 20
  deriving DecidableEq

/-- `AudioFormat::valid`. -/
def AudioFormat.valid (format : AudioFormat) : Bool :=
  0 < format.sampleRateHz && 0 < format.channels && 0 < format.bitsPerSample &&
    0 < format.frameDurationMs

/-- `VoiceAudioFormats`. -/
structure VoiceAudioFormats where
  capture : AudioFormat := {}
  playback : AudioFormat := {}
  deriving DecidableEq

/-- `VoiceAudioFormats::valid`. -/
def VoiceAudioFormats.valid (formats : VoiceAudioFormats) : Bool :=
  formats.capture.valid && formats.playback.valid

/-- `AudioFrame`: the size stands for the payload. -/
structure AudioFrame where
  generation : ℕ
  format : AudioFormat
  payloadSize : ℕ
  deriving DecidableEq

/-- `AudioFrame::kMaxPayloadBytes`. -/
def maxPayloadBytes : ℕ := 16384

/-- `VoiceSessionConfig`. -/
structure VoiceSessionConfig where
  sessionId : String := ""
  providerId : String := ""
  mode : VoiceMode := .manual
  audio : AudioFormat := {}
  helloTimeoutMs : ℕ := 10000
  vadSilenceMs : ℕ := 900
  generation : ℕ := 0
  deriving DecidableEq

/-- `VoiceEvent`. -/
structure VoiceEvent where
  kind : VoiceEventKind
  generation : ℕ
  text : String := ""
  aborted : Bool := false

/-- `VoiceEvidence`. -/
structure VoiceEvidence where
  sessionId : String
  generation : ℕ
  event : String
  detail : String
  deriving DecidableEq

/-- The calls of the session to its ports. -/
inductive PortCall where
  | capabilities
  | setProviderAudioSink (attached : Bool)
  | connect (config : VoiceSessionConfig)
  | disconnect
  | audioFormats
  | providerStartCapture (mode : VoiceMode)
  | providerStopCapture
  | abort (reason : String)
  | speak (text : String)
  | notifyLocalWakeWord (wakeWord textResponse : String)
  | setGeneration (generation : ℕ)
  | setInputAudioSink (attached : Bool)
  | openInput (format : AudioFormat)
  | inputStartCapture (mode : VoiceMode)
  | inputStopCapture
  | closeInput
  | openOutput (format : AudioFormat)
  | push (frame : AudioFrame)
  | flush
  | closeOutput
  | evidence (evidence : VoiceEvidence)
  deriving DecidableEq

/-- What a port answers: a status, and `capabilities` and `audio_formats` a value. -/
structure Reply where
  status : Status := .success
  providerId : String := ""
  formats : VoiceAudioFormats := {}

/-- `VoiceSession`. -/
structure VoiceSession where
  config : VoiceSessionConfig := {}
  audioFormats : VoiceAudioFormats := {}
  state : VoiceSessionState := .stopped
  audioReady : Bool := false
  providerCaptureActive : Bool := false
  responseArmed : Bool := false
  pendingLocalWakeTts : Bool := false
  localWakeTtsActive : Bool := false
  firstTtsAudioPending : Bool := false
  awaitingFinalAsr : Bool := false
  pendingLocalWakeEcho : String := ""
  interruptFencePending : Bool := false
  pendingInterruptWakeWord : String := ""
  pendingInterruptTextResponse : String := ""
  pendingSystemSpeech : String := ""
  generation : ℕ := 0

/-- A program of the session. -/
abbrev Program (ρ : Type) := Process VoiceSession PortCall (fun _ => Reply) ρ

/-- A section under `mutex_`. -/
def atomic {ρ : Type} (body : VoiceSession → ρ × VoiceSession) : Program ρ :=
  Process.atomically body

/-- A section that only reads. -/
def peek {ρ : Type} (read : VoiceSession → ρ) : Program ρ :=
  atomic fun s => (read s, s)

/-- A section that only writes. -/
def update (write : VoiceSession → VoiceSession) : Program Unit :=
  atomic fun s => ((), write s)

/-- A section that reads and writes if the session allows it. -/
def acquire {ρ : Type} (allowed : VoiceSession → Prop) [DecidablePred allowed]
    (read : VoiceSession → ρ) (write : VoiceSession → VoiceSession) : Program (Option ρ) :=
  atomic fun s => if allowed s then (some (read s), write s) else (none, s)

/-- A port call. -/
def ask (port : PortCall) : Program Reply :=
  Process.invoke port

/-- A port call for its status. -/
def invoke (port : PortCall) : Program Status := do
  return (← ask port).status

/-- A port call for its effect. -/
def notify (port : PortCall) : Program Unit := do
  let _ ← ask port

/-- A port call that is made under a condition. -/
def invokeIf (condition : Bool) (port : PortCall) : Program Status :=
  if condition then invoke port else pure .success

namespace VoiceSession

/-- `Emit`. -/
def emit (event detail : String) : Program Unit := do
  let evidence ← peek fun s => ⟨s.config.sessionId, s.generation, event, detail⟩
  notify (.evidence evidence)

/-! ## Sections -/

/-- `++generation_` with the generation of the configuration. -/
def advance (s : VoiceSession) : VoiceSession :=
  { s with
    generation := s.generation + 1
    config := { s.config with generation := s.generation + 1 } }

/-- No reply is expected any more. -/
def disarm (s : VoiceSession) : VoiceSession :=
  { s with responseArmed := false, pendingLocalWakeTts := false, localWakeTtsActive := false }

/-- A reply may be expected. -/
def setArmed (armed : Bool) (s : VoiceSession) : VoiceSession :=
  { s with responseArmed := armed }

/-- The session has failed. -/
def failed (s : VoiceSession) : VoiceSession :=
  { s with state := .failed }

/-- The speech that waits for the fence is dropped. -/
def clearPending (s : VoiceSession) : VoiceSession :=
  { s with pendingInterruptWakeWord := "", pendingInterruptTextResponse := "", pendingSystemSpeech := "" }

/-- The session fails, and the failure is reported. -/
def fail (event : String) (status : Status) : Program Status := do
  update failed
  emit event status.message
  return status

/-! ## `Start` -/

/-- The session at the beginning of `Start`. -/
def starting (config : VoiceSessionConfig) (s : VoiceSession) : VoiceSession :=
  { s with
    config := { config with generation := s.generation + 1 }
    audioFormats := ⟨config.audio, config.audio⟩
    audioReady := false
    providerCaptureActive := false
    state := .starting
    responseArmed := false
    pendingLocalWakeTts := false
    localWakeTtsActive := false
    firstTtsAudioPending := false
    awaitingFinalAsr := false
    pendingLocalWakeEcho := ""
    interruptFencePending := false
    generation := s.generation + 1 }

/-- The formats that were negotiated. -/
def setAudioFormats (formats : VoiceAudioFormats) (s : VoiceSession) : VoiceSession :=
  { s with audioFormats := formats }

/-- The session at the end of `Start`. -/
def started (s : VoiceSession) : VoiceSession :=
  { s with audioReady := true, state := .ready }

/-- `Start` after the formats were negotiated. -/
def openAudio (formats : VoiceAudioFormats) : Program Status := do
  update (setAudioFormats formats)
  notify (.setInputAudioSink true)
  let status ← invoke (.openInput formats.capture)
  if !status.ok then
    notify (.setInputAudioSink false)
    notify (.setProviderAudioSink false)
    notify .disconnect
    fail "input_open_failed" status
  else
    let status ← invoke (.openOutput formats.playback)
    if !status.ok then
      notify (.setInputAudioSink false)
      notify (.setProviderAudioSink false)
      notify .closeInput
      notify .disconnect
      fail "output_open_failed" status
    else
      update started
      let capabilities ← ask .capabilities
      emit "ready" capabilities.providerId
      return .success

/-- `Start` once it has connected. -/
def negotiate : Program Status := do
  let negotiated ← ask .audioFormats
  if !negotiated.status.ok || !negotiated.formats.valid then
    notify (.setProviderAudioSink false)
    notify .disconnect
    fail "audio_negotiation_failed"
      (if negotiated.status.ok then .error .invalidArgument "Provider 返回的双向音频格式无效"
      else negotiated.status)
  else
    openAudio negotiated.formats

/-- `Start`. -/
def start (config : VoiceSessionConfig) : Program Status := do
  if config.sessionId = "" ∨ config.providerId = "" ∨ !config.audio.valid ∨
      config.helloTimeoutMs = 0 ∨ config.vadSilenceMs = 0 ∨ 5000 < config.vadSilenceMs then
    return .error .invalidArgument "语音会话配置无效"
  else
    let capabilities ← ask .capabilities
    if capabilities.providerId ≠ config.providerId then
      return .error .invalidArgument "Provider ID 与能力 Profile 不一致"
    else
      let stopped ← acquire (fun s => s.state = .stopped ∨ s.state = .failed) (fun _ => ())
        (starting config)
      match stopped with
      | none => return .error .conflict "语音会话已经启动"
      | some _ =>
          notify (.setProviderAudioSink true)
          let providerConfig ← peek fun s => s.config
          let status ← invoke (.connect providerConfig)
          if !status.ok then
            notify (.setProviderAudioSink false)
            notify .disconnect
            fail "provider_connect_failed" status
          else
            negotiate

/-! ## `HandleEvent` -/

/-- The local variables of `HandleEvent` after its first section. -/
structure EventEffects where
  stale : Bool := false
  staleReason : String := ""
  wakeEchoSuppressed : Bool := false
  generationChanged : Bool := false
  playbackAborted : Bool := false
  interruptFenceReached : Bool := false
  stopInputForTts : Bool := false
  localWakeTtsStarted : Bool := false
  localWakeTtsStopped : Bool := false
  generation : ℕ := 0
  pendingWakeWord : String := ""
  pendingTextResponse : String := ""
  pendingSystemSpeech : String := ""

/-- `HandleEvent` takes the event as a lost connection. -/
def acceptsDisconnected (event : VoiceEvent) (s : VoiceSession) : Bool :=
  event.generation = s.generation && event.kind = .disconnected && s.audioReady &&
    s.state ≠ .stopped && s.state ≠ .failed

/-- `HandleEvent` takes the event as a new connection. -/
def acceptsConnected (event : VoiceEvent) (s : VoiceSession) : Bool :=
  event.generation = s.generation && event.kind = .connected && s.audioReady && s.state = .starting

/-- The session after a lost connection. -/
def disconnected (s : VoiceSession) : VoiceSession :=
  { s.advance.disarm.clearPending with
    state := .starting
    providerCaptureActive := false
    awaitingFinalAsr := false
    pendingLocalWakeEcho := ""
    interruptFencePending := false }

/-- The session after a recognized text. -/
def recognized (s : VoiceSession) : VoiceSession :=
  { s with pendingLocalWakeEcho := "", responseArmed := true, awaitingFinalAsr := false }

/-- A recognized text. -/
def receiveAsrText (text : String) (s : VoiceSession) : EventEffects × VoiceSession :=
  if s.pendingLocalWakeEcho ≠ "" ∧ text = s.pendingLocalWakeEcho then
    ({ wakeEchoSuppressed := true }, { s with pendingLocalWakeEcho := "" })
  else if s.state ≠ .capturing ∧ ¬ (s.state = .ready ∧ s.awaitingFinalAsr) then
    ({ stale := true, staleReason := "asr_outside_capture" }, s)
  else ({}, s.recognized)

/-- The session while it speaks. -/
def speechStarted (s : VoiceSession) : VoiceSession :=
  { s with
    state := .speaking
    firstTtsAudioPending := true
    pendingLocalWakeTts := false
    localWakeTtsActive := s.localWakeTtsActive || s.pendingLocalWakeTts }

/-- The session does not take speech now. -/
def refusesSpeech (s : VoiceSession) : Bool :=
  s.interruptFencePending || !(s.responseArmed || s.state = .speaking) || s.state = .stopped ||
    s.state = .starting || s.state = .failed

/-- The start of speech. -/
def receiveTtsStarted (s : VoiceSession) : EventEffects × VoiceSession :=
  if s.refusesSpeech then
    ({ stale := true
       staleReason := if s.interruptFencePending then "tts_interrupt_fence" else "tts_not_armed" }, s)
  else
    ({ stopInputForTts := s.state = .capturing, localWakeTtsStarted := s.pendingLocalWakeTts },
      s.speechStarted)

/-- The session once the old speech has passed the fence. -/
def fenceReached (s : VoiceSession) : VoiceSession :=
  { s.disarm.clearPending with interruptFencePending := false, awaitingFinalAsr := false }

/-- The session after speech. -/
def speechStopped (s : VoiceSession) : VoiceSession :=
  { s.disarm with state := .ready }

/-- The end of speech. -/
def receiveTtsStopped (aborted : Bool) (s : VoiceSession) : EventEffects × VoiceSession :=
  if s.interruptFencePending then
    ({ localWakeTtsStopped := s.localWakeTtsActive
       playbackAborted := true
       interruptFenceReached := true
       pendingWakeWord := s.pendingInterruptWakeWord
       pendingTextResponse := s.pendingInterruptTextResponse
       pendingSystemSpeech := s.pendingSystemSpeech }, s.fenceReached)
  else if aborted ∧ s.audioReady ∧ s.state = .speaking then
    ({ generation := s.generation + 1
       playbackAborted := true
       localWakeTtsStopped := s.localWakeTtsActive }, s.advance.speechStopped)
  else if s.state = .speaking then
    ({ localWakeTtsStopped := s.localWakeTtsActive }, s.speechStopped)
  else ({ stale := true, staleReason := "tts_stop_without_speaking" }, s)

/-- The first section of `HandleEvent`. -/
def receive (event : VoiceEvent) (s : VoiceSession) : EventEffects × VoiceSession :=
  if event.generation ≠ s.generation then
    ({ stale := true, staleReason := "generation_mismatch" }, s)
  else if s.acceptsDisconnected event then
    ({ generation := s.generation + 1, generationChanged := true }, s.disconnected)
  else if event.kind = .asrText then s.receiveAsrText event.text
  else if s.acceptsConnected event then ({}, { s with state := .ready })
  else if event.kind = .ttsStarted then s.receiveTtsStarted
  else if event.kind = .ttsStopped then s.receiveTtsStopped event.aborted
  else ({}, s)

/-- The reports of an aborted playback. -/
def reportAborted (effects : EventEffects) : Program Unit := do
  if !effects.interruptFenceReached then
    notify (.setGeneration effects.generation)
  let flushStatus ← invoke .flush
  emit "tts_aborted" "server abort invalidated buffered playback"
  if !flushStatus.ok then
    emit "playback_flush_failed" flushStatus.message

/-- The session fails if it still speaks in the generation. -/
def failSpeaking (generation : ℕ) (s : VoiceSession) : VoiceSession :=
  if s.generation = generation ∧ s.state = .speaking then s.failed else s

/-- The reports of accepted speech, and whether `HandleEvent` goes on after them. -/
def reportTtsStarted (generation : ℕ) (effects : EventEffects) : Program Bool := do
  let status ← invokeIf effects.stopInputForTts .inputStopCapture
  if !status.ok then
    update (failSpeaking generation)
    emit "tts_capture_stop_failed" status.message
    return false
  else
    emit "tts_started" (if effects.localWakeTtsStarted then "local_wake_greeting" else "")
    return true

/-- The reports of an event that changed nothing else, and whether `HandleEvent` goes on. -/
def reportKind (event : VoiceEvent) (effects : EventEffects) : Program Bool := do
  match event.kind with
  | .connected => emit "transport_connected" "provider hello completed"; return true
  | .disconnected => return true
  | .asrText => emit "stt_text_received" event.text; return true
  | .toolCall => emit "tool_call_received" event.text; return true
  | .llmEmotion => emit "llm_emotion" event.text; return true
  | .ttsStarted => reportTtsStarted event.generation effects
  | .ttsSentenceStarted =>
      let speaking ← peek fun s => decide (s.state = .speaking)
      if speaking then
        emit "tts_sentence_started" event.text
      return true
  | .ttsStopped =>
      emit "tts_stopped" (if effects.localWakeTtsStopped then "local_wake_greeting" else "")
      return true
  | .error => emit "provider_error" event.text; return true

/-- The reports of `HandleEvent`, and whether it goes on after them. -/
def reportEvent (event : VoiceEvent) (effects : EventEffects) : Program Bool := do
  if effects.stale then
    emit "stale_event_dropped"
      (if effects.staleReason = "" then "stale_state" else effects.staleReason)
    return true
  else if effects.generationChanged then
    notify (.setGeneration effects.generation)
    emit "transport_disconnected" "audio sending disabled until a new hello completes"
    return true
  else if effects.playbackAborted then
    reportAborted effects
    return true
  else if effects.wakeEchoSuppressed then
    emit "wake_echo_suppressed" ""
    return true
  else
    reportKind event effects

/-- The session can request speech. -/
def canSpeak (s : VoiceSession) : Prop :=
  s.state = .ready ∧ s.audioReady = true

instance : DecidablePred canSpeak := fun _ => inferInstanceAs (Decidable (_ ∧ _))

/-- The confirmation that waited for the fence. -/
def requestPendingWakeWord (wakeWord textResponse : String) : Program Unit := do
  if wakeWord ≠ "" then
    let ready ← acquire canSpeak (fun _ => ()) (setArmed (textResponse ≠ ""))
    if ready.isSome then
      let status ← invoke (.notifyLocalWakeWord wakeWord textResponse)
      if !status.ok then
        update disarm
        emit "interrupt_ack_failed" status.message
      else
        emit "interrupt_ack_requested" ""

/-- The system speech that waited for the fence. -/
def requestPendingSpeech (text : String) : Program Unit := do
  if text ≠ "" then
    let ready ← acquire canSpeak (fun _ => ()) (setArmed true)
    if ready.isSome then
      let status ← invoke (.speak text)
      if !status.ok then
        update (setArmed false)
        emit "system_speech_failed" status.message
      else
        emit "system_speech_requested" "interrupt_fence_reached"

/-- `HandleEvent` after its first section. -/
def finishEvent (event : VoiceEvent) (effects : EventEffects) : Program Unit := do
  let goesOn ← reportEvent event effects
  if goesOn then
    requestPendingWakeWord effects.pendingWakeWord effects.pendingTextResponse
    requestPendingSpeech effects.pendingSystemSpeech

/-- `HandleEvent`. -/
def handleEvent (event : VoiceEvent) : Program Unit := do
  let effects ← atomic (receive event)
  finishEvent event effects

/-! ## Capture -/

/-- The provider is about to listen. -/
def reserveCapture (s : VoiceSession) : VoiceSession :=
  { s with providerCaptureActive := true }

/-- The provider does not listen. -/
def releaseCapture (s : VoiceSession) : VoiceSession :=
  { s with providerCaptureActive := false }

/-- The capture was given up. -/
def captureDropped (s : VoiceSession) : VoiceSession :=
  { s.disarm with providerCaptureActive := false, pendingLocalWakeEcho := "" }

/-- The session while it captures. -/
def captureStarted (s : VoiceSession) : VoiceSession :=
  { s.disarm with state := .capturing, pendingLocalWakeEcho := "", awaitingFinalAsr := false }

/-- The name of a mode in the evidence. -/
def modeName : VoiceMode → String
  | .manual => "manual"
  | .auto => "auto"
  | .realtime => "realtime"

/-- `BeginProviderCapture`. -/
def beginProviderCapture : Program Status := do
  let found ← acquire (fun s => s.state = .ready) (fun s => (s.providerCaptureActive, s.config.mode))
    reserveCapture
  match found with
  | none => return .error .unavailable "语音会话当前不能开始 Provider 监听"
  | some (true, _) => return .success
  | some (false, mode) =>
      let status ← invoke (.providerStartCapture mode)
      if !status.ok then
        update captureDropped
        return status
      else
        emit "provider_capture_started" (modeName mode)
        return .success

/-- `BeginCapture` once the provider listens. -/
def beginInputCapture (mode : VoiceMode) : Program Status := do
  let inputStatus ← invoke (.inputStartCapture mode)
  if inputStatus.ok then
    update captureStarted
    emit "capture_started" ""
    return .success
  else
    let rollback ← invoke .providerStopCapture
    update captureDropped
    if !rollback.ok then
      fail "capture_rollback_failed" rollback
    else
      return inputStatus

/-- `BeginCapture`. -/
def beginCapture : Program Status := do
  let found ← acquire (fun s => s.state = .ready) (fun s => (s.providerCaptureActive, s.config.mode))
    reserveCapture
  match found with
  | none => return .error .unavailable "语音会话当前不能开始采集"
  | some (true, mode) => beginInputCapture mode
  | some (false, mode) =>
      let providerStatus ← invoke (.providerStartCapture mode)
      if !providerStatus.ok then
        update releaseCapture
        return providerStatus
      else
        beginInputCapture mode

/-- `EndCapture` returns at once unless the session captures. -/
def endRefusal (s : VoiceSession) : Option Status :=
  if s.state ≠ .capturing then
    if s.state = .ready ∨ s.state = .speaking then some .success
    else some (.error .unavailable "语音会话当前没有采集")
  else none

/-- The session after its capture. -/
def captureEnded (s : VoiceSession) : VoiceSession :=
  { s with state := .ready, providerCaptureActive := false, awaitingFinalAsr := true }

/-- The session after a capture that the provider did not stop. -/
def captureInvalidated (s : VoiceSession) : VoiceSession :=
  { s.advance with state := .ready, providerCaptureActive := false, awaitingFinalAsr := false }

/-- `EndCapture`. -/
def endCapture : Program Status := do
  let refusal ← peek endRefusal
  match refusal with
  | some status => return status
  | none =>
      let inputStatus ← invoke .inputStopCapture
      let providerStatus ← invoke .providerStopCapture
      if inputStatus.ok && providerStatus.ok then
        update captureEnded
        emit "capture_stopped" ""
        return .success
      else if inputStatus.ok then
        let nextGeneration ← atomic fun s => (s.generation + 1, s.captureInvalidated)
        notify (.setGeneration nextGeneration)
        emit "capture_stopped" ""
        return .success
      else
        fail "capture_stop_failed" inputStatus

/-! ## Speech -/

/-- The frame is for the current playback. -/
def acceptsFrame (frame : AudioFrame) (s : VoiceSession) : Bool :=
  frame.generation = s.generation && frame.format = s.audioFormats.playback && frame.payloadSize ≠ 0 &&
    frame.payloadSize ≤ maxPayloadBytes

/-- `HandleAudio` refuses the frame. -/
def frameRefusal (frame : AudioFrame) (s : VoiceSession) : Option Status :=
  if s.state ≠ .speaking then some (.error .unavailable "语音会话当前不能播放音频")
  else if !s.acceptsFrame frame then some (.error .invalidArgument "播放帧不属于当前会话")
  else none

/-- `HandleAudio`: the frame is pushed under the lock. -/
def handleAudio (frame : AudioFrame) : Program Status := do
  let refusal ← peek (frameRefusal frame)
  match refusal with
  | some status => return status
  | none =>
      let status ← invoke (.push frame)
      let firstAudio ← acquire (fun s => status.ok = true ∧ s.firstTtsAudioPending = true) (fun _ => ())
        fun s => { s with firstTtsAudioPending := false }
      if firstAudio.isSome then
        emit "tts_first_audio" ""
      return status

/-- `Speak`. -/
def speak (text : String) : Program Status := do
  let ready ← acquire (fun s => s.state = .ready ∧ text ≠ "") (fun _ => ()) (setArmed true)
  match ready with
  | none => return .error .unavailable "语音会话当前不能播报"
  | some _ =>
      let status ← invoke (.speak text)
      if !status.ok then
        update (setArmed false)
      return status

/-- The session expects the reply to a local wake word. -/
def wakeWordHeard (wakeWord textResponse : String) (s : VoiceSession) : VoiceSession :=
  { s with
    responseArmed := true
    pendingLocalWakeTts := decide (textResponse = "")
    localWakeTtsActive := false
    pendingLocalWakeEcho := if textResponse = "" then wakeWord else "" }

/-- The local wake word was not notified. -/
def wakeWordFailed (s : VoiceSession) : VoiceSession :=
  { s.disarm with pendingLocalWakeEcho := "" }

/-- `NotifyLocalWakeWord`. -/
def notifyLocalWakeWord (wakeWord textResponse : String) : Program Status := do
  let ready ← acquire (fun s => s.state = .ready ∧ wakeWord ≠ "") (fun _ => ())
    (wakeWordHeard wakeWord textResponse)
  match ready with
  | none => return .error .unavailable "语音会话当前不能通知本地唤醒"
  | some _ =>
      let status ← invoke (.notifyLocalWakeWord wakeWord textResponse)
      if !status.ok then
        update wakeWordFailed
        return status
      else
        emit (if textResponse = "" then "local_wake_detect_requested" else "local_wake_ack_requested") ""
        return status

/-! ## Interrupts -/

/-- The session after an interrupt: a new generation, waiting for the old speech to end if there is
any. -/
def interrupted (s : VoiceSession) : VoiceSession :=
  { s.advance.disarm.clearPending with
    state := .ready
    providerCaptureActive := false
    awaitingFinalAsr := false
    pendingLocalWakeEcho := ""
    interruptFencePending := decide (s.state = .speaking) }

/-- What an interrupt finds. -/
structure Interrupted where
  capturing : Bool
  speaking : Bool
  providerListening : Bool
  generation : ℕ

/-- What an interrupt finds in a session. -/
def found (s : VoiceSession) : Interrupted :=
  ⟨decide (s.state = .capturing), decide (s.state = .speaking), s.providerCaptureActive,
    s.generation + 1⟩

/-- The first status that failed, if one did. -/
def firstFailure (inputStatus abortStatus flushStatus : Status) : Option Status :=
  if !inputStatus.ok then some inputStatus
  else if !abortStatus.ok then some abortStatus
  else if !flushStatus.ok then some flushStatus
  else none

/-- The confirmation that waits for the fence. -/
def setPendingWakeWord (wakeWord textResponse : String) (s : VoiceSession) : VoiceSession :=
  { s with pendingInterruptWakeWord := wakeWord, pendingInterruptTextResponse := textResponse }

/-- The system speech that waits for the fence. -/
def setPendingSpeech (text : String) (s : VoiceSession) : VoiceSession :=
  { s with pendingSystemSpeech := text }

/-- The interrupt with a confirmation failed. -/
def wakeWordInterruptFailed (s : VoiceSession) : VoiceSession :=
  { s.disarm.clearPending with interruptFencePending := false }

/-- The interrupt with a system speech failed. -/
def speechInterruptFailed (s : VoiceSession) : VoiceSession :=
  { s with interruptFencePending := false, pendingSystemSpeech := "", responseArmed := false }

/-- The confirmation after an interrupt that has not to wait. -/
def confirmAtOnce : Program Status := do
  let (wakeWord, textResponse) ← atomic fun s =>
    ((s.pendingInterruptWakeWord, s.pendingInterruptTextResponse),
      (s.setPendingWakeWord "" "").setArmed true)
  let status ← invoke (.notifyLocalWakeWord wakeWord textResponse)
  if !status.ok then
    update disarm
    return status
  else
    emit "interrupt_ack_requested" ""
    return .success

/-- `InterruptAndNotifyLocalWakeWord`. -/
def interruptAndNotifyLocalWakeWord (wakeWord textResponse : String) : Program Status := do
  if wakeWord = "" ∨ textResponse = "" then
    return .error .invalidArgument "打断确认的唤醒词和确认文本不能为空"
  else
    let found ← acquire (fun s => s.state = .capturing ∨ s.state = .speaking) found
      fun s => s.interrupted.setPendingWakeWord wakeWord textResponse
    match found with
    | none => return .error .unavailable "语音会话当前不能打断并确认"
    | some found =>
        notify (.setGeneration found.generation)
        let inputStatus ← invokeIf found.capturing .inputStopCapture
        let abortStatus ← invoke (.abort "user_interrupt")
        let flushStatus ← invoke .flush
        match firstFailure inputStatus abortStatus flushStatus with
        | some status =>
            update wakeWordInterruptFailed
            return status
        | none =>
            emit "interrupted" "old audio generation invalidated"
            if found.speaking then return .success else confirmAtOnce

/-- `Interrupt` has something to interrupt. -/
def canInterrupt (s : VoiceSession) : Prop :=
  s.state = .capturing ∨ s.state = .speaking ∨ (s.state = .ready ∧ s.awaitingFinalAsr = true) ∨
    s.providerCaptureActive = true

instance : DecidablePred canInterrupt := fun _ => inferInstanceAs (Decidable (_ ∨ _))

/-- `Interrupt`. -/
def interrupt : Program Status := do
  let found ← acquire canInterrupt found interrupted
  match found with
  | none => return .success
  | some found =>
      notify (.setGeneration found.generation)
      let inputStatus ← invokeIf found.capturing .inputStopCapture
      let abortStatus ← invoke (.abort "user_interrupt")
      let flushStatus ← invoke .flush
      emit "interrupted" "old audio generation invalidated"
      if !inputStatus.ok then
        return inputStatus
      else if !abortStatus.ok then
        return abortStatus
      else
        if !found.speaking then
          emit "interrupt_fence_reached" "no active playback"
        return flushStatus

/-- The system speech after an interrupt that has not to wait. -/
def speakAtOnce : Program Status := do
  let text ← atomic fun s => (s.pendingSystemSpeech, (s.setPendingSpeech "").setArmed true)
  let status ← invoke (.speak text)
  if !status.ok then
    update (setArmed false)
    return status
  else
    emit "system_speech_requested" "immediate"
    return .success

/-- `InterruptAndSpeak`. -/
def interruptAndSpeak (text : String) : Program Status := do
  if text = "" then
    return .error .invalidArgument "系统播报文本不能为空"
  else
    let found ← acquire (fun s => s.state = .ready ∨ s.state = .capturing ∨ s.state = .speaking) found
      fun s => s.interrupted.setPendingSpeech text
    match found with
    | none => return .error .unavailable "语音会话当前不能播报系统语音"
    | some found =>
        notify (.setGeneration found.generation)
        let inputStatus ← invokeIf found.capturing .inputStopCapture
        let abortStatus ← invokeIf (found.providerListening || found.speaking)
          (.abort "local_system_speech")
        let flushStatus ← invoke .flush
        match firstFailure inputStatus abortStatus flushStatus with
        | some status =>
            update speechInterruptFailed
            return status
        | none =>
            emit "interrupted" "old audio generation invalidated for local system speech"
            if found.speaking then return .success else speakAtOnce

/-! ## `Stop` -/

/-- The session after `Stop`. -/
def stopped (s : VoiceSession) : VoiceSession :=
  { s.advance.disarm.clearPending with
    audioReady := false
    providerCaptureActive := false
    state := .stopped
    awaitingFinalAsr := false
    pendingLocalWakeEcho := ""
    interruptFencePending := false }

/-- `Stop`. -/
def stop : Program Status := do
  let running ← acquire (fun s => s.state ≠ .stopped) (fun s => s.generation + 1) stopped
  match running with
  | none => return .success
  | some generation =>
      notify (.setGeneration generation)
      notify (.setProviderAudioSink false)
      let providerStatus ← invoke .disconnect
      notify (.setInputAudioSink false)
      notify .closeInput
      notify .closeOutput
      if !providerStatus.ok then
        fail "stop_disconnect_failed" providerStatus
      else
        emit "stopped" ""
        return .success

end VoiceSession

/-- The lifecycle operations. -/
inductive Operation where
  | start (config : VoiceSessionConfig)
  | beginProviderCapture
  | beginCapture
  | endCapture
  | speak (text : String)
  | notifyLocalWakeWord (wakeWord textResponse : String)
  | interrupt
  | interruptAndNotifyLocalWakeWord (wakeWord textResponse : String)
  | interruptAndSpeak (text : String)
  | stop

/-- The program of an operation. -/
def Operation.program : Operation → Program Status
  | .start config => VoiceSession.start config
  | .beginProviderCapture => VoiceSession.beginProviderCapture
  | .beginCapture => VoiceSession.beginCapture
  | .endCapture => VoiceSession.endCapture
  | .speak text => VoiceSession.speak text
  | .notifyLocalWakeWord wakeWord textResponse =>
      VoiceSession.notifyLocalWakeWord wakeWord textResponse
  | .interrupt => VoiceSession.interrupt
  | .interruptAndNotifyLocalWakeWord wakeWord textResponse =>
      VoiceSession.interruptAndNotifyLocalWakeWord wakeWord textResponse
  | .interruptAndSpeak text => VoiceSession.interruptAndSpeak text
  | .stop => VoiceSession.stop

end VoiceLife.Voice
