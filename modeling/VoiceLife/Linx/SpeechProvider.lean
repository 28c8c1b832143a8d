import VoiceLife.Voice.VoiceSession

/-! # `linx_speech_provider.cc`: the Linx provider

The adapter between a voice session and the Linx service. Its calls and the callbacks of its transport are
serialised. The uplink of audio (`SendAudio`) is left out, and what the transport, the Opus library and the
handler answer is part of an input.
-/

namespace VoiceLife.Linx

open Voice (AudioCodec AudioFormat VoiceAudioFormats VoiceEvent VoiceEventKind VoiceMode VoiceSessionConfig)

/-! ## Values -/

/-- `AudioFrame`. -/
structure AudioFrame where
  generation : ℕ := 0
  sequence : ℕ := 0
  format : AudioFormat := {}
  payload : List UInt8 := []
deriving DecidableEq

/-- `LinxConnectionConfig`. -/
structure LinxConnectionConfig where
  websocketUrl : String := ""
  tokenRef : String := ""
  deviceId : String := ""
  clientId : String := ""
  playbackBufferDurationMs : ℕ := 1000
  preferredAudio : Option AudioFormat := none

/-- `LinxConnectionConfig::valid`. -/
def LinxConnectionConfig.valid (connection : LinxConnectionConfig) : Bool :=
  connection.websocketUrl ≠ "" && connection.tokenRef ≠ "" && connection.deviceId ≠ "" &&
    connection.clientId ≠ "" && 0 < connection.playbackBufferDurationMs &&
    connection.preferredAudio.all AudioFormat.valid

/-- `LinxAudioParams`. -/
structure LinxAudioParams where
  codec : AudioCodec := .pcmS16Le
  sampleRateHz : ℕ := 16000
  channels : ℕ := 1
  bitsPerSample : ℕ := 16
  frameDurationMs : ℕ := 20
deriving DecidableEq

/-- `server_wire`: the format that the service announces. -/
def LinxAudioParams.serverWire (params : LinxAudioParams) : AudioFormat where
  codec := params.codec
  sampleRateHz := params.sampleRateHz
  channels := params.channels
  bitsPerSample := params.bitsPerSample
  frameDurationMs := params.frameDurationMs

/-- `LinxMessageKind`. -/
inductive LinxMessageKind where
  | hello
  | stt
  | tts
  | mcp
  | error
  | goodbye
  | llm
deriving DecidableEq

/-- `LinxTtsState`. -/
inductive LinxTtsState where
  | start
  | sentenceStart
  | stop
deriving DecidableEq

/-- `LinxInboundMessage`. -/
structure LinxInboundMessage where
  kind : LinxMessageKind := .error
  sessionId : Option String := none
  audioParams : Option LinxAudioParams := none
  ttsState : Option LinxTtsState := none
  text : String := ""
  aborted : Bool := false
  emotion : Option String := none
  action : Option String := none
deriving DecidableEq

/-- The reference that the provider shows the display: the emotion of a message, or else its action. -/
def LinxInboundMessage.expression (inbound : LinxInboundMessage) : String :=
  match inbound.emotion with
  | some emotion => if emotion ≠ "" then emotion else inbound.action.getD ""
  | none => inbound.action.getD ""

/-! ## `linx_json_codec.cc`: the messages to the service -/

/-- A value that the codec adds to a cJSON object. -/
inductive JsonItem where
  | string (text : String)
  | number (value : ℕ)
  | boolean (value : Bool)
  | object (members : List (String × JsonItem))

/-- A message to the service: the members of its cJSON object. -/
abbrev OutboundMessage := List (String × JsonItem)

/-- `c_str`: cJSON reads a text up to its first NUL. -/
def cString (text : String) : String :=
  String.ofList (text.toList.takeWhile (· ≠ Char.ofNat 0))

/-- `CodecName`. -/
def codecName (codec : AudioCodec) : String :=
  if codec = .opus then "opus" else "pcm"

/-- `ModeName`. -/
def modeName : VoiceMode → String
  | .manual => "manual"
  | .auto => "auto"
  | .realtime => "realtime"

/-- The session id that ends a message, left out when it is empty. -/
def sessionMember (config : VoiceSessionConfig) : OutboundMessage :=
  if config.sessionId ≠ "" then [("session_id", .string (cString config.sessionId))] else []

/-- What the adapter asks the codec to encode. -/
inductive OutboundRequest where
  | hello
  | listenStart
  | listenStop
  | listenDetect (text textResponse : String)
  | abort (reason : String)
deriving DecidableEq

/-- `LinxJsonCodec::EncodeHello`. -/
def encodeHello (config : VoiceSessionConfig) (connection : LinxConnectionConfig) : Result OutboundMessage :=
  if !config.audio.valid || !connection.valid then
    Result.failure .invalidArgument "Linx hello 音频参数无效"
  else
    let wireAudio := connection.preferredAudio.getD config.audio
    if !wireAudio.valid then Result.failure .invalidArgument "Linx hello 线上音频参数无效"
    else
      let pcmParams : OutboundMessage :=
        if wireAudio.codec = .pcmS16Le then
          [("bit_depth", .number wireAudio.bitsPerSample), ("endianness", .string "little"),
            -- The product is taken in 32 bits.
            ("frame_size", .number (wireAudio.sampleRateHz * wireAudio.frameDurationMs % 2 ^ 32 / 1000)),
            ("sample_format", .string "signed_int16")]
        else []
      .ok
        [("type", .string "hello"), ("version", .number 1), ("features", .object [("mcp", .boolean true)]),
          ("transport", .string "websocket"),
          ("audio_params", .object
            (([("format", .string (codecName wireAudio.codec)), ("sample_rate", .number wireAudio.sampleRateHz),
              ("channels", .number wireAudio.channels), ("frame_duration", .number wireAudio.frameDurationMs),
              ("play_buffer_duration", .number connection.playbackBufferDurationMs)] : OutboundMessage) ++
              pcmParams))]

/-- `LinxJsonCodec::EncodeListenStart`. -/
def encodeListenStart (config : VoiceSessionConfig) : Result OutboundMessage :=
  .ok (([("type", .string "listen"), ("state", .string "start"),
    ("mode", .string (modeName config.mode))] : OutboundMessage) ++ sessionMember config)

/-- `LinxJsonCodec::EncodeListenStop`. -/
def encodeListenStop (config : VoiceSessionConfig) : Result OutboundMessage :=
  .ok (([("type", .string "listen"), ("state", .string "stop")] : OutboundMessage) ++
    sessionMember config)

/-- `LinxJsonCodec::EncodeListenDetect`. -/
def encodeListenDetect (config : VoiceSessionConfig) (text textResponse : String) : Result OutboundMessage :=
  if text = "" then Result.failure .invalidArgument "Linx detect 文本不能为空"
  else
    .ok (([("type", .string "listen"), ("state", .string "detect"),
        ("text", .string (cString text))] : OutboundMessage) ++
      (if textResponse ≠ "" then [("text_response", JsonItem.string (cString textResponse))] else []) ++
      sessionMember config)

/-- `LinxJsonCodec::EncodeAbort`. -/
def encodeAbort (config : VoiceSessionConfig) (reason : String) : Result OutboundMessage :=
  if reason = "" then Result.failure .invalidArgument "Linx abort 原因不能为空"
  else
    .ok (([("type", .string "abort"), ("reason", .string (cString reason))] : OutboundMessage) ++
      sessionMember config)

/-- The call of the codec for a request. -/
def OutboundRequest.encode (connection : LinxConnectionConfig) (config : VoiceSessionConfig) :
    OutboundRequest → Result OutboundMessage
  | .hello => encodeHello config connection
  | .listenStart => encodeListenStart config
  | .listenStop => encodeListenStop config
  | .listenDetect text textResponse => encodeListenDetect config text textResponse
  | .abort reason => encodeAbort config reason

/-! ## `esp_opus_codec_strategy.cc`: the transcoding of the downlink -/

/-- `kPcmFrameBytes`. -/
def kPcmFrameBytes : ℕ := 640

/-- `kMaxOpusPacketBytes`. -/
def kMaxOpusPacketBytes : ℕ := 1275

/-- `EspOpusCodecStrategy`: the local and the wire format once the library is open. -/
structure EspOpusCodecStrategy where
  formats : Option (AudioFormat × AudioFormat) := none
deriving DecidableEq

/-- What the pool and the library answer to a decoding. -/
structure OpusDecoding where
  acquired : Bool
  status : ℤ
  consumed : ℕ
  decoded : List UInt8

namespace EspOpusCodecStrategy

/-- `EspOpusCodecStrategy::codec`. -/
def codec (_ : EspOpusCodecStrategy) : AudioCodec := .opus

/-- `IsSupportedLocalPcm`. -/
def isSupportedLocalPcm (format : AudioFormat) : Bool :=
  format = { codec := .pcmS16Le, sampleRateHz := 16000, channels := 1, bitsPerSample := 16, frameDurationMs := 20 }

/-- `IsSupportedWireOpus`. -/
def isSupportedWireOpus (format : AudioFormat) : Bool :=
  format = { codec := .opus, sampleRateHz := 16000, channels := 1, bitsPerSample := 16, frameDurationMs := 20 }

/-- `EspOpusCodecStrategy::Configure`. `created` is the status of creating the coders and the pools. -/
def configure (localPcm wire : AudioFormat) (created : Status) (strategy : EspOpusCodecStrategy) :
    Status × EspOpusCodecStrategy :=
  if !isSupportedLocalPcm localPcm || !isSupportedWireOpus wire then
    (.error .invalidArgument "SparkBot Opus 只支持 PCM/Opus 16kHz mono S16LE 20ms Profile", strategy)
  else if strategy.formats = some (localPcm, wire) then (.success, strategy)
  else if created.ok then (.success, { formats := some (localPcm, wire) })
  else (created, { formats := none })

/-- `EspOpusCodecStrategy::Decode`. -/
def decode (encoded : AudioFrame) (answer : OpusDecoding) (strategy : EspOpusCodecStrategy) : Result AudioFrame :=
  match strategy.formats with
  | none => Result.failure .invalidArgument "Opus 解码输入不是已配置的线上帧"
  | some (localPcm, wire) =>
      if encoded.format ≠ wire ∨ encoded.payload = [] ∨ encoded.payload.length > kMaxOpusPacketBytes then
        Result.failure .invalidArgument "Opus 解码输入不是已配置的线上帧"
      else if !answer.acquired then Result.failure .conflict "Opus 下行负载池已满"
      else if answer.status ≠ 0 ∨ answer.consumed ≠ encoded.payload.length ∨
          answer.decoded.length ≠ kPcmFrameBytes then
        Result.failure .unavailable ("Opus 下行解码失败 err=" ++ toString answer.status)
      else
        .ok {
          generation := encoded.generation
          sequence := encoded.sequence
          format := localPcm
          payload := answer.decoded }

end EspOpusCodecStrategy

/-! ## The adapter -/

/-- What the constructor is given: the connection, the capabilities, whether there is an MCP handler, and
the decoder of the codec. -/
structure LinxPorts where
  connection : LinxConnectionConfig
  providerId : String
  mcpHandler : Bool
  decodeText : List UInt8 → Result LinxInboundMessage

/-- `McpRequest`. -/
structure McpRequest where
  payload : String
  sessionId : String
  generation : ℕ
deriving DecidableEq

/-- `LinxSpeechProviderAdapter`. A sink is present or not. -/
structure LinxSpeechProviderAdapter where
  codecStrategy : Option EspOpusCodecStrategy := none
  config : VoiceSessionConfig := {}
  eventSink : Bool := false
  audioSink : Bool := false
  generation : ℕ := 0
  outputSequence : ℕ := 0
  connected : Bool := false
  transportConnected : Bool := false
  explicitDisconnect : Bool := false
  helloReceived : Bool := false
  audioFormatsReady : Bool := false
  hasNegotiatedFormats : Bool := false
  remoteSessionId : Option String := none
  audioFormats : VoiceAudioFormats := {}
  lastAudioFormats : VoiceAudioFormats := {}
  helloStatus : Status := .success
  mcpQueue : List McpRequest := []
  mcpStop : Bool := false
  mcpWorker : Bool := false

/-- What the adapter does to its surroundings, and the status that a call returns. -/
inductive Output where
  | event (event : VoiceEvent)
  | frame (frame : AudioFrame)
  | queued (request : McpRequest)
  | handled (request : McpRequest)
  | replied (response : String)
  | sends (request : OutboundRequest) (encoded : Result OutboundMessage)
  | setGeneration (generation : ℕ)
  | connect
  | close
  | returned (status : Status)

namespace LinxSpeechProviderAdapter

/-- `kMcpQueueCapacity`. -/
def kMcpQueueCapacity : ℕ := 4

/-- `Emit`. -/
def emit (kind : VoiceEventKind) (text : String) (adapter : LinxSpeechProviderAdapter) : List Output :=
  if adapter.eventSink then [.event { kind, generation := adapter.generation, text }] else []

/-- `Emit` of the end of a speech. -/
def emitTtsStopped (aborted : Bool) (adapter : LinxSpeechProviderAdapter) : List Output :=
  if adapter.eventSink then [.event { kind := .ttsStopped, generation := adapter.generation, aborted }] else []

/-- `Send`: the status of the call, which the transport answers when there is a message. -/
def send (encoded : Result OutboundMessage) (sent : Status) : Status :=
  match encoded with
  | .ok _ => sent
  | .error status => status

/-- `ActiveSessionConfig`. -/
def activeSessionConfig (adapter : LinxSpeechProviderAdapter) : VoiceSessionConfig :=
  { adapter.config with sessionId := adapter.remoteSessionId.getD adapter.config.sessionId }

/-- `WireAudioFormat`. -/
def wireAudioFormat (ports : LinxPorts) (adapter : LinxSpeechProviderAdapter) : AudioFormat :=
  ports.connection.preferredAudio.getD adapter.config.audio

/-- `ConfigureCodecStrategy`. -/
def configureCodecStrategy (ports : LinxPorts) (created : Status) (adapter : LinxSpeechProviderAdapter) :
    Status × LinxSpeechProviderAdapter :=
  let wire := wireAudioFormat ports adapter
  if wire.codec = adapter.config.audio.codec then (.success, adapter)
  else
    match adapter.codecStrategy with
    | none => (.error .unavailable "Linx hello 请求的编码缺少转码策略", adapter)
    | some strategy =>
        if strategy.codec ≠ wire.codec then
          (.error .unavailable "Linx hello 请求的编码缺少转码策略", adapter)
        else
          let (status, strategy) := strategy.configure adapter.config.audio wire created
          (status, { adapter with codecStrategy := some strategy })

/-- `StartMcpWorker`. -/
def startMcpWorker (ports : LinxPorts) (adapter : LinxSpeechProviderAdapter) : LinxSpeechProviderAdapter :=
  if !ports.mcpHandler || adapter.mcpWorker then adapter
  else { adapter with mcpStop := false, mcpWorker := true }

/-- `StopMcpWorker`. -/
def stopMcpWorker (adapter : LinxSpeechProviderAdapter) : LinxSpeechProviderAdapter :=
  { adapter with mcpStop := true, mcpQueue := [], mcpWorker := false }

/-- `SetGeneration`. -/
def setGeneration (generation : ℕ) (adapter : LinxSpeechProviderAdapter) :
    List Output × LinxSpeechProviderAdapter :=
  if generation ≠ 0 then ([.setGeneration generation], { adapter with generation, outputSequence := 0 })
  else ([], adapter)

/-- The part of `Connect` that forgets the last session. -/
def openSession (ports : LinxPorts) (config : VoiceSessionConfig) (sink : Bool)
    (adapter : LinxSpeechProviderAdapter) : List Output × LinxSpeechProviderAdapter :=
  let (outputs, adapter) := setGeneration config.generation
    { adapter with explicitDisconnect := false, transportConnected := false, connected := false }
  let formats : VoiceAudioFormats := { capture := config.audio, playback := config.audio }
  (outputs ++ [.connect],
    startMcpWorker ports
      { adapter with
        helloReceived := false
        audioFormatsReady := false
        hasNegotiatedFormats := false
        remoteSessionId := none
        audioFormats := formats
        lastAudioFormats := formats
        helloStatus := .success
        eventSink := sink })

/-- `Connect`, to its call of the transport. -/
def connect (ports : LinxPorts) (config : VoiceSessionConfig) (sink : Bool) (created : Status)
    (adapter : LinxSpeechProviderAdapter) : List Output × LinxSpeechProviderAdapter :=
  if !ports.connection.valid || config.providerId ≠ ports.providerId || config.generation = 0 then
    ([.returned (.error .invalidArgument "Linx Provider 连接配置无效")], adapter)
  else if adapter.connected || adapter.transportConnected then
    ([.returned (.error .conflict "Linx Provider 或底层 Transport 已连接")], adapter)
  else
    let (status, adapter) := configureCodecStrategy ports created { adapter with config }
    if !status.ok then ([.returned status], adapter) else openSession ports config sink adapter

/-- The end of a failed `Connect`. -/
def giveUp (status : Status) (adapter : LinxSpeechProviderAdapter) : List Output × LinxSpeechProviderAdapter :=
  ([.returned status], { stopMcpWorker adapter with eventSink := false })

/-- The return of `transport_.Connect` in `Connect`. -/
def transportAnswered (status : Status) (adapter : LinxSpeechProviderAdapter) :
    List Output × LinxSpeechProviderAdapter :=
  if !status.ok then giveUp status adapter else ([], adapter)

/-- `OnTransportConnected`. -/
def onTransportConnected (ports : LinxPorts) (sent : Status) (adapter : LinxSpeechProviderAdapter) :
    List Output × LinxSpeechProviderAdapter :=
  if adapter.transportConnected then ([], adapter)
  else
    let adapter :=
      { adapter with
        transportConnected := true
        connected := false
        outputSequence := 0
        helloReceived := false
        audioFormatsReady := false
        remoteSessionId := none
        helloStatus := .success }
    let encoded := encodeHello adapter.config ports.connection
    let status := send encoded sent
    if status.ok then ([.sends .hello encoded], adapter)
    else
      ([Output.sends .hello encoded] ++ emit .error status.message adapter,
        { adapter with helloReceived := true, helloStatus := status })

/-- `OnTransportDisconnected`. -/
def onTransportDisconnected (adapter : LinxSpeechProviderAdapter) : List Output × LinxSpeechProviderAdapter :=
  if !adapter.transportConnected then ([], adapter)
  else
    let adapter := { adapter with transportConnected := false, connected := false, outputSequence := 0 }
    let adapter :=
      if adapter.helloReceived then adapter
      else
        { adapter with
          helloReceived := true
          helloStatus := .error .unavailable "Linx Transport 在 hello 完成前断开" }
    (if adapter.explicitDisconnect then [] else emit .disconnected "" adapter, adapter)

/-- `transport_.Close()`, which may report the end of the connection before it returns. -/
def closeTransport (reports : Bool) (adapter : LinxSpeechProviderAdapter) :
    List Output × LinxSpeechProviderAdapter :=
  if reports then
    let (outputs, adapter) := onTransportDisconnected adapter
    (.close :: outputs, adapter)
  else ([.close], adapter)

/-- What the wait for the hello in `Connect` ends with: the hello was received, or the time is over. -/
def waitStatus (adapter : LinxSpeechProviderAdapter) : Status :=
  if !adapter.helloReceived then .error .unavailable "Linx hello 等待超时" else adapter.helloStatus

/-- `Connect` after its wait for the hello. -/
def helloWaited (reports : Bool) (adapter : LinxSpeechProviderAdapter) :
    List Output × LinxSpeechProviderAdapter :=
  let status := waitStatus adapter
  if status.ok then ([.returned status], adapter)
  else
    let (closing, adapter) := closeTransport reports adapter
    let (outputs, adapter) := giveUp status adapter
    (closing ++ outputs, adapter)

/-- `Disconnect`. -/
def disconnect (reports : Bool) (status : Status) (adapter : LinxSpeechProviderAdapter) :
    List Output × LinxSpeechProviderAdapter :=
  let (outputs, adapter) := closeTransport reports { adapter with explicitDisconnect := true }
  (outputs ++ [.returned status],
    { stopMcpWorker adapter with
      connected := false
      transportConnected := false
      generation := 0
      outputSequence := 0
      eventSink := false
      audioSink := false })

/-- `audio_formats`. -/
def getAudioFormats (adapter : LinxSpeechProviderAdapter) : Result VoiceAudioFormats :=
  if !adapter.connected || !adapter.audioFormatsReady then
    Result.failure .unavailable "Linx hello 尚未完成音频格式协商"
  else .ok adapter.audioFormats

/-- `StartCapture`, `StopCapture`, `Abort`, `Speak` and `NotifyLocalWakeWord` send a request when they are
connected. -/
def sendRequest (ports : LinxPorts) (request : OutboundRequest) (sent : Status)
    (adapter : LinxSpeechProviderAdapter) : List Output × LinxSpeechProviderAdapter :=
  if !adapter.connected then ([.returned (.error .unavailable "Linx Provider 尚未连接")], adapter)
  else
    let encoded := request.encode ports.connection (activeSessionConfig adapter)
    ([.sends request encoded, .returned (send encoded sent)], adapter)

/-- `StartCapture`. -/
def startCapture (ports : LinxPorts) := sendRequest ports .listenStart

/-- `StopCapture`. -/
def stopCapture (ports : LinxPorts) := sendRequest ports .listenStop

/-- `Abort`. -/
def abort (ports : LinxPorts) (reason : String) := sendRequest ports (.abort reason)

/-- `Speak`. -/
def speak (ports : LinxPorts) (text : String) := sendRequest ports (.listenDetect "system_prompt" text)

/-- `NotifyLocalWakeWord`. -/
def notifyLocalWakeWord (ports : LinxPorts) (wakeWord textResponse : String) (sent : Status)
    (adapter : LinxSpeechProviderAdapter) : List Output × LinxSpeechProviderAdapter :=
  if !adapter.connected then ([.returned (.error .unavailable "Linx Provider 尚未连接")], adapter)
  else if wakeWord = "" then ([.returned (.error .invalidArgument "本地唤醒词为空")], adapter)
  else sendRequest ports (.listenDetect wakeWord textResponse) sent adapter

/-- The `on_error` callback. -/
def onError (status : Status) (adapter : LinxSpeechProviderAdapter) :
    List Output × LinxSpeechProviderAdapter :=
  let adapter := { adapter with connected := false }
  let adapter :=
    if adapter.helloReceived then adapter else { adapter with helloStatus := status, helloReceived := true }
  (emit .error status.message adapter, adapter)

/-! ## Text messages -/

/-- `session_mismatch`. -/
def sessionMismatch (inbound : LinxInboundMessage) (adapter : LinxSpeechProviderAdapter) : Bool :=
  !adapter.connected ||
    (adapter.remoteSessionId.isSome && inbound.sessionId.isSome && inbound.sessionId ≠ adapter.remoteSessionId)

/-- The check of the wire format in a hello. -/
def acceptsWire (ports : LinxPorts) (serverWire : AudioFormat) (adapter : LinxSpeechProviderAdapter) : Bool :=
  let wire := wireAudioFormat ports adapter
  if wire.codec ≠ adapter.config.audio.codec then serverWire = wire else serverWire.codec = wire.codec

/-- The formats that a hello with an accepted wire format negotiates. -/
def negotiatedFormats (ports : LinxPorts) (serverWire : AudioFormat) (adapter : LinxSpeechProviderAdapter) :
    VoiceAudioFormats where
  capture := adapter.config.audio
  playback :=
    if (wireAudioFormat ports adapter).codec = adapter.config.audio.codec then serverWire
    else adapter.config.audio

/-- A hello without usable audio parameters: its status is kept for `Connect`. -/
def refuseHello (message : String) (adapter : LinxSpeechProviderAdapter) :
    List Output × LinxSpeechProviderAdapter :=
  (emit .error message adapter,
    { adapter with helloReceived := true, helloStatus := .error .invalidArgument message })

/-- A hello that negotiates what the session cannot take (`format_changed`). -/
def rejectFormats (message : String) (adapter : LinxSpeechProviderAdapter) :
    List Output × LinxSpeechProviderAdapter :=
  (emit .error message adapter,
    { adapter with
      helloReceived := true
      audioFormatsReady := false
      helloStatus := .error .invalidArgument message
      connected := false })

/-- A hello that is accepted. -/
def acceptHello (inbound : LinxInboundMessage) (formats : VoiceAudioFormats)
    (adapter : LinxSpeechProviderAdapter) : List Output × LinxSpeechProviderAdapter :=
  (emit .connected "" adapter,
    { adapter with
      remoteSessionId := inbound.sessionId
      helloReceived := true
      audioFormats := formats
      lastAudioFormats := formats
      hasNegotiatedFormats := true
      audioFormatsReady := formats.valid
      helloStatus := .success
      connected := true })

/-- The `kHello` case of `OnText`. -/
def onHello (ports : LinxPorts) (inbound : LinxInboundMessage) (adapter : LinxSpeechProviderAdapter) :
    List Output × LinxSpeechProviderAdapter :=
  if !adapter.transportConnected then ([], adapter)
  else
    match inbound.audioParams with
    | none => refuseHello "Linx hello 缺少 audio_params，无法确认音频格式协商" adapter
    | some params =>
        if !acceptsWire ports params.serverWire adapter then
          refuseHello "Linx hello 返回了当前固件未配置的线上音频格式" adapter
        else
          let formats := negotiatedFormats ports params.serverWire adapter
          if adapter.helloReceived && adapter.connected then ([], adapter)
          else if adapter.hasNegotiatedFormats && adapter.lastAudioFormats ≠ formats then
            rejectFormats "Linx 重连 hello 改变已协商音频格式，当前未配置 AudioOutput 重配置策略" adapter
          else if inbound.sessionId = some "" then rejectFormats "Linx hello session_id 不能为空" adapter
          else acceptHello inbound formats adapter

/-- The `kTts` case of `OnText`. -/
def onTts (inbound : LinxInboundMessage) (adapter : LinxSpeechProviderAdapter) : List Output :=
  match inbound.ttsState with
  | none => emit .error "Linx TTS 缺少状态" adapter
  | some .start => emit .ttsStarted "" adapter
  | some .sentenceStart => emit .ttsSentenceStarted inbound.text adapter
  | some .stop => emitTtsStopped inbound.aborted adapter

/-- The `kMcp` case of `OnText`. -/
def onMcp (ports : LinxPorts) (inbound : LinxInboundMessage) (adapter : LinxSpeechProviderAdapter) :
    List Output × LinxSpeechProviderAdapter :=
  if !ports.mcpHandler then (emit .error "Linx 收到 MCP 请求，但设备未配置 MCP handler" adapter, adapter)
  else if adapter.mcpStop || adapter.mcpQueue.length ≥ kMcpQueueCapacity then
    (emit .error "Linx MCP 请求队列已满" adapter, adapter)
  else
    let request : McpRequest :=
      { payload := inbound.text
        sessionId := inbound.sessionId.getD (activeSessionConfig adapter).sessionId
        generation := adapter.generation }
    ([.queued request], { adapter with mcpQueue := adapter.mcpQueue ++ [request] })

/-- The `switch` of `OnText`. -/
def dispatch (ports : LinxPorts) (inbound : LinxInboundMessage) (adapter : LinxSpeechProviderAdapter) :
    List Output × LinxSpeechProviderAdapter :=
  match inbound.kind with
  | .hello => onHello ports inbound adapter
  | .stt => (emit .asrText inbound.text adapter, adapter)
  | .tts => (onTts inbound adapter, adapter)
  | .mcp => onMcp ports inbound adapter
  | .goodbye => ([], adapter)
  | .llm => (if inbound.expression ≠ "" then emit .llmEmotion inbound.expression adapter else [], adapter)
  | .error => (emit .error inbound.text adapter, adapter)

/-- `OnText`. -/
def onText (ports : LinxPorts) (message : List UInt8) (adapter : LinxSpeechProviderAdapter) :
    List Output × LinxSpeechProviderAdapter :=
  match ports.decodeText message with
  | .error status => (emit .error status.message adapter, adapter)
  | .ok inbound =>
      if inbound.kind ≠ .hello && sessionMismatch inbound adapter then
        (emit .error "Linx 消息 session_id 不匹配或 hello 未完成" adapter, adapter)
      else dispatch ports inbound adapter

/-! ## Binary messages -/

/-- The frame that the decoding of `OnBinary` yields. `none` is a frame dropped in silence. -/
def decodeFrame (frame : AudioFrame) (decoding : OpusDecoding) (adapter : LinxSpeechProviderAdapter) :
    Except (Option String) AudioFrame :=
  if frame.format.codec = adapter.config.audio.codec then .ok frame
  else
    match adapter.codecStrategy with
    | none => .error (some "Linx 下行缺少已配置的音频解码策略")
    | some strategy =>
        if strategy.codec ≠ frame.format.codec then .error (some "Linx 下行缺少已配置的音频解码策略")
        else
          match strategy.decode frame decoding with
          | .error status => .error (if status.code = .conflict then none else some status.message)
          | .ok decoded =>
              if decoded.format ≠ adapter.config.audio then
                .error (some "Linx 解码器返回的本地 PCM 格式不匹配")
              else .ok decoded

/-- The end of `OnBinary`: the frame is given to the audio sink, which answers a status. -/
def deliver (frame : AudioFrame) (taken : Status) (adapter : LinxSpeechProviderAdapter) : List Output :=
  if !adapter.audioSink then emit .error "Linx 下行音频没有绑定输出端口" adapter
  else
    .frame frame ::
      (if taken.ok ∨ taken.code = .conflict ∨ taken.code = .unavailable then []
      else emit .error taken.message adapter)

/-- `OnBinary`. -/
def onBinary (ports : LinxPorts) (payload : List UInt8) (decoding : OpusDecoding) (taken : Status)
    (adapter : LinxSpeechProviderAdapter) : List Output × LinxSpeechProviderAdapter :=
  if !adapter.connected then (emit .error "Linx hello 未完成，拒绝下行音频" adapter, adapter)
  else if payload = [] then (emit .error "Linx 下行音频帧为空" adapter, adapter)
  else if payload.length > Voice.maxPayloadBytes then
    (emit .error "Linx 下行音频帧超过单帧内存上限" adapter, adapter)
  else
    let wire := wireAudioFormat ports adapter
    let frame : AudioFrame :=
      { generation := adapter.generation
        sequence := adapter.outputSequence
        format := if wire.codec = adapter.config.audio.codec then adapter.audioFormats.playback else wire
        payload }
    -- The number is used up even when the frame is not delivered.
    let adapter := { adapter with outputSequence := (adapter.outputSequence + 1) % 2 ^ 64 }
    match decodeFrame frame decoding adapter with
    | .error none => ([], adapter)
    | .error (some message) => (emit .error message adapter, adapter)
    | .ok decoded => (deliver decoded taken adapter, adapter)

/-! ## The MCP worker -/

/-- One turn of `McpWorkerLoop`: the request at the head, the response of the handler to it and the status of
sending that. -/
def mcpWorkerTurn (response : Result String) (sent : Status) (adapter : LinxSpeechProviderAdapter) :
    List Output × LinxSpeechProviderAdapter :=
  match adapter.mcpQueue with
  | [] => ([], adapter)
  | request :: rest =>
      if !adapter.mcpWorker then ([], adapter)
      else
        let adapter := { adapter with mcpQueue := rest }
        if request.generation ≠ adapter.generation || !adapter.connected then ([], adapter)
        else
          match response with
          | .error status => (.handled request :: emit .error status.message adapter, adapter)
          | .ok text =>
              if text = "" then ([.handled request], adapter)
              else
                ([.handled request, .replied text] ++
                  (if sent.ok then [] else emit .error sent.message adapter), adapter)

end LinxSpeechProviderAdapter

/-! ## Inputs -/

/-- A call of the adapter, a callback of its transport or a turn of its worker, with what the surroundings
answer. `Connect` takes three inputs, since it waits for callbacks. -/
inductive Input where
  | setAudioSink (present : Bool)
  | setGeneration (generation : ℕ)
  | connect (config : VoiceSessionConfig) (sink : Bool) (created : Status)
  | transportAnswered (status : Status)
  | helloWaited (reports : Bool)
  | disconnect (reports : Bool) (status : Status)
  | startCapture (sent : Status)
  | stopCapture (sent : Status)
  | abort (reason : String) (sent : Status)
  | speak (text : String) (sent : Status)
  | notifyLocalWakeWord (wakeWord textResponse : String) (sent : Status)
  | onConnected (sent : Status)
  | onDisconnected
  | onText (message : List UInt8)
  | onBinary (payload : List UInt8) (decoding : OpusDecoding) (taken : Status)
  | onError (status : Status)
  | mcpWorkerTurn (response : Result String) (sent : Status)

/-- What an input does. -/
def step (ports : LinxPorts) (adapter : LinxSpeechProviderAdapter) :
    Input → List Output × LinxSpeechProviderAdapter
  | .setAudioSink present => ([], { adapter with audioSink := present })
  | .setGeneration generation => adapter.setGeneration generation
  | .connect config sink created => adapter.connect ports config sink created
  | .transportAnswered status => adapter.transportAnswered status
  | .helloWaited reports => adapter.helloWaited reports
  | .disconnect reports status => adapter.disconnect reports status
  | .startCapture sent => LinxSpeechProviderAdapter.startCapture ports sent adapter
  | .stopCapture sent => LinxSpeechProviderAdapter.stopCapture ports sent adapter
  | .abort reason sent => LinxSpeechProviderAdapter.abort ports reason sent adapter
  | .speak text sent => LinxSpeechProviderAdapter.speak ports text sent adapter
  | .notifyLocalWakeWord wakeWord textResponse sent => adapter.notifyLocalWakeWord ports wakeWord textResponse sent
  | .onConnected sent => adapter.onTransportConnected ports sent
  | .onDisconnected => adapter.onTransportDisconnected
  | .onText message => adapter.onText ports message
  | .onBinary payload decoding taken => adapter.onBinary ports payload decoding taken
  | .onError status => adapter.onError status
  | .mcpWorkerTurn response sent => adapter.mcpWorkerTurn response sent

end VoiceLife.Linx
