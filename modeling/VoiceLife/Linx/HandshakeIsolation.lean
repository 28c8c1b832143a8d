import VoiceLife.Lib.DecimalText
import VoiceLife.Linx.HandshakeMoves

/-! # What the Linx provider lets through

Speech, requests and frames come out only while a hello of the current connection stands, in the formats that
it negotiated and numbered upwards, and the requests to the service carry its session id
(`handshake_isolated`). The numbering begins anew whenever the adapter is told a generation, also one that it
already has (`repeated_generation_renumbers`).
-/

namespace VoiceLife.Linx

open Voice (AudioFormat VoiceAudioFormats VoiceEvent VoiceEventKind VoiceSessionConfig)

open LinxSpeechProviderAdapter

/-! ## Outputs -/

/-- The kinds of event that speak for the service. -/
def IsSpeechKind : VoiceEventKind → Prop
  | .asrText => True
  | .ttsStarted => True
  | .ttsSentenceStarted => True
  | .ttsStopped => True
  | .llmEmotion => True
  | _ => False

/-- An ASR, TTS or LLM event, a queued MCP request or a frame for the audio sink. -/
def IsSpeech : Output → Prop
  | .event event => IsSpeechKind event.kind
  | .queued _ => True
  | .frame _ => True
  | _ => False

/-- A call of the transport or of the MCP handler, or the return of a call. -/
def IsManagement : Output → Prop
  | .event _ => False
  | .queued _ => False
  | .frame _ => False
  | .sends _ _ => False
  | _ => True

/-- An attempt to send a hello. -/
def isHello : Output → Bool
  | .sends .hello _ => true
  | _ => false

/-- What an input can make the adapter do. -/
inductive Emits (ports : LinxPorts) (adapter : LinxSpeechProviderAdapter) : Input → Output → Prop where
  | notes {input : Input} {event : VoiceEvent} (hkind : ¬ IsSpeechKind event.kind) :
      Emits ports adapter input (.event event)
  | manages {input : Input} {output : Output} (hmanages : IsManagement output) : Emits ports adapter input output
  | greets {sent : Status} (hopens : adapter.transportConnected = false) :
      Emits ports adapter (.onConnected sent) (.sends .hello (encodeHello adapter.config ports.connection))
  | asks {input : Input} {request : OutboundRequest} (honline : adapter.connected = true)
      (hrequest : request ≠ .hello) :
      Emits ports adapter input (.sends request (request.encode ports.connection (activeSessionConfig adapter)))
  | speaks {message : List UInt8} {event : VoiceEvent} (honline : adapter.connected = true) :
      Emits ports adapter (.onText message) (.event event)
  | queues {message : List UInt8} {request : McpRequest} (honline : adapter.connected = true) :
      Emits ports adapter (.onText message) (.queued request)
  | plays {payload : List UInt8} {decoding : OpusDecoding} {taken : Status} {frame : AudioFrame}
      (honline : adapter.connected = true) (hgeneration : frame.generation = adapter.generation)
      (hsequence : frame.sequence = adapter.outputSequence)
      (hformat : frame.format = adapter.audioFormats.playback)
      (hnext : (next ports adapter (.onBinary payload decoding taken)).outputSequence =
        (adapter.outputSequence + 1) % 2 ^ 64) :
      Emits ports adapter (.onBinary payload decoding taken) (.frame frame)

/-- Every output is one that the input can cause. -/
def AllEmitted (ports : LinxPorts) (adapter : LinxSpeechProviderAdapter) (input : Input) (outputs : List Output) :
    Prop :=
  ∀ output ∈ outputs, Emits ports adapter input output

section Outputs

variable {ports : LinxPorts} {adapter : LinxSpeechProviderAdapter} {input : Input}

theorem allEmitted_nil : AllEmitted ports adapter input [] := List.forall_mem_nil _

theorem AllEmitted.cons {output : Output} {outputs : List Output} (hhead : Emits ports adapter input output)
    (htail : AllEmitted ports adapter input outputs) : AllEmitted ports adapter input (output :: outputs) :=
  List.forall_mem_cons.2 ⟨hhead, htail⟩

theorem AllEmitted.append {outputs outputs' : List Output} (hfirst : AllEmitted ports adapter input outputs)
    (hthen : AllEmitted ports adapter input outputs') : AllEmitted ports adapter input (outputs ++ outputs') :=
  List.forall_mem_append.2 ⟨hfirst, hthen⟩

theorem allEmitted_single {output : Output} (h : Emits ports adapter input output) :
    AllEmitted ports adapter input [output] :=
  .cons h allEmitted_nil

theorem allEmitted_returned (status : Status) : AllEmitted ports adapter input [.returned status] :=
  allEmitted_single (.manages trivial)

/-- An event that is not speech may always be emitted, in whatever state the adapter is by then. -/
theorem allEmitted_emit {kind : VoiceEventKind} (text : String) (later : LinxSpeechProviderAdapter)
    (hkind : ¬ IsSpeechKind kind) : AllEmitted ports adapter input (emit kind text later) := by
  unfold emit
  split
  · exact allEmitted_single (.notes hkind)
  · exact allEmitted_nil

theorem allEmitted_speech {message : List UInt8} {kind : VoiceEventKind} {text : String}
    (honline : adapter.connected = true) :
    AllEmitted ports adapter (.onText message) (emit kind text adapter) := by
  unfold emit
  split
  · exact allEmitted_single (.speaks honline)
  · exact allEmitted_nil

theorem allEmitted_setGeneration (generation : ℕ) (later : LinxSpeechProviderAdapter) :
    AllEmitted ports adapter input (later.setGeneration generation).1 := by
  unfold LinxSpeechProviderAdapter.setGeneration
  split
  · exact allEmitted_single (.manages trivial)
  · exact allEmitted_nil

theorem allEmitted_connect (config : VoiceSessionConfig) (sink : Bool) (created : Status) :
    AllEmitted ports adapter input (adapter.connect ports config sink created).1 := by
  unfold LinxSpeechProviderAdapter.connect
  split
  · exact allEmitted_returned _
  · split
    · exact allEmitted_returned _
    · dsimp only
      split
      · exact allEmitted_returned _
      · exact (allEmitted_setGeneration _ _).append (allEmitted_single (.manages trivial))

theorem allEmitted_onTransportConnected (sent : Status) :
    AllEmitted ports adapter (.onConnected sent) (adapter.onTransportConnected ports sent).1 := by
  unfold onTransportConnected
  split
  · exact allEmitted_nil
  · next hopens =>
      rw [Bool.not_eq_true] at hopens
      dsimp only
      split
      · exact allEmitted_single (.greets hopens)
      · exact (allEmitted_single (.greets hopens)).append (allEmitted_emit _ _ id)

theorem allEmitted_onTransportDisconnected (later : LinxSpeechProviderAdapter) :
    AllEmitted ports adapter input later.onTransportDisconnected.1 := by
  unfold onTransportDisconnected
  split
  · exact allEmitted_nil
  · dsimp only
    split
    · split
      · exact allEmitted_nil
      · exact allEmitted_emit _ _ id
    · split
      · exact allEmitted_nil
      · exact allEmitted_emit _ _ id

theorem allEmitted_closeTransport (reports : Bool) (later : LinxSpeechProviderAdapter) :
    AllEmitted ports adapter input (later.closeTransport reports).1 := by
  unfold closeTransport
  cases reports with
  | false => exact allEmitted_single (.manages trivial)
  | true => exact .cons (.manages trivial) (allEmitted_onTransportDisconnected later)

theorem allEmitted_helloWaited (reports : Bool) :
    AllEmitted ports adapter input (adapter.helloWaited reports).1 := by
  unfold LinxSpeechProviderAdapter.helloWaited
  dsimp only
  split
  · exact allEmitted_returned _
  · exact (allEmitted_closeTransport reports adapter).append (allEmitted_returned _)

theorem allEmitted_sendRequest (request : OutboundRequest) (hrequest : request ≠ .hello) (sent : Status) :
    AllEmitted ports adapter input (sendRequest ports request sent adapter).1 := by
  unfold sendRequest
  split
  · exact allEmitted_returned _
  · next honline => exact .cons (.asks (by simpa using honline) hrequest) (allEmitted_returned _)

theorem allEmitted_notifyLocalWakeWord (wakeWord textResponse : String) (sent : Status) :
    AllEmitted ports adapter input (adapter.notifyLocalWakeWord ports wakeWord textResponse sent).1 := by
  unfold LinxSpeechProviderAdapter.notifyLocalWakeWord
  split
  · exact allEmitted_returned _
  · split
    · exact allEmitted_returned _
    · exact allEmitted_sendRequest _ OutboundRequest.noConfusion sent

theorem allEmitted_mcpWorkerTurn (response : Result String) (sent : Status) :
    AllEmitted ports adapter input (adapter.mcpWorkerTurn response sent).1 := by
  unfold LinxSpeechProviderAdapter.mcpWorkerTurn
  split
  · exact allEmitted_nil
  · split
    · exact allEmitted_nil
    · dsimp only
      split
      · exact allEmitted_nil
      · split
        · exact .cons (.manages trivial) (allEmitted_emit _ _ id)
        · split
          · exact allEmitted_single (.manages trivial)
          · refine .append (.cons (.manages trivial) (allEmitted_single (.manages trivial))) ?_
            split
            · exact allEmitted_nil
            · exact allEmitted_emit _ _ id

/-! ### Text messages -/

theorem allEmitted_onHello {inbound : LinxInboundMessage} (hkind : inbound.kind = .hello) :
    AllEmitted ports adapter input (adapter.onHello ports inbound).1 := by
  rcases @onHello_cases ports adapter inbound hkind with ⟨-, h⟩ | ⟨_, h⟩ | ⟨-, _, h⟩ | ⟨_, -, h⟩ <;> rw [h]
  · exact allEmitted_nil
  · exact allEmitted_emit _ _ id
  · exact allEmitted_emit _ _ id
  · exact allEmitted_emit _ _ id

theorem allEmitted_onTts {message : List UInt8} (inbound : LinxInboundMessage) (honline : adapter.connected = true) :
    AllEmitted ports adapter (.onText message) (adapter.onTts inbound) := by
  unfold onTts
  split
  · exact allEmitted_emit _ _ id
  · exact allEmitted_speech honline
  · exact allEmitted_speech honline
  · unfold emitTtsStopped
    split
    · exact allEmitted_single (.speaks honline)
    · exact allEmitted_nil

theorem allEmitted_onMcp {message : List UInt8} (inbound : LinxInboundMessage) (honline : adapter.connected = true) :
    AllEmitted ports adapter (.onText message) (adapter.onMcp ports inbound).1 := by
  unfold onMcp
  split
  · exact allEmitted_emit _ _ id
  · split
    · exact allEmitted_emit _ _ id
    · exact allEmitted_single (.queues honline)

theorem connected_of_matching {inbound : LinxInboundMessage} (hkind : inbound.kind ≠ .hello)
    (hmatches : ¬ (inbound.kind ≠ .hello && sessionMismatch inbound adapter) = true) : adapter.connected = true := by
  by_contra hoff
  rw [Bool.not_eq_true] at hoff
  exact hmatches (by simp [hkind, sessionMismatch, hoff])

theorem allEmitted_onText (message : List UInt8) :
    AllEmitted ports adapter (.onText message) (adapter.onText ports message).1 := by
  unfold LinxSpeechProviderAdapter.onText
  split
  · exact allEmitted_emit _ _ id
  · next inbound hdecoded =>
      split
      · exact allEmitted_emit _ _ id
      · next hmatches =>
          have honline : inbound.kind ≠ .hello → adapter.connected = true := fun hkind =>
            connected_of_matching hkind hmatches
          unfold dispatch
          cases hkind : inbound.kind with
          | hello => exact allEmitted_onHello hkind
          | stt => exact allEmitted_speech (honline (by rw [hkind]; decide))
          | tts => exact allEmitted_onTts inbound (honline (by rw [hkind]; decide))
          | mcp => exact allEmitted_onMcp inbound (honline (by rw [hkind]; decide))
          | error => exact allEmitted_emit _ _ id
          | goodbye => exact allEmitted_nil
          | llm =>
              dsimp only
              split
              · exact allEmitted_speech (honline (by rw [hkind]; decide))
              · exact allEmitted_nil

/-! ### Binary messages -/

theorem decode_keeps {strategy : EspOpusCodecStrategy} {encoded decoded : AudioFrame} {answer : OpusDecoding}
    (h : strategy.decode encoded answer = .ok decoded) :
    decoded.generation = encoded.generation ∧ decoded.sequence = encoded.sequence := by
  unfold EspOpusCodecStrategy.decode at h
  split at h
  · cases h
  · split at h
    · cases h
    · split at h
      · cases h
      · split at h
        · cases h
        · obtain rfl := Except.ok.inj h
          exact ⟨rfl, rfl⟩

theorem decodeFrame_ok {frame decoded : AudioFrame} {decoding : OpusDecoding}
    (h : decodeFrame frame decoding adapter = .ok decoded) :
    decoded.generation = frame.generation ∧ decoded.sequence = frame.sequence ∧
      decoded.format =
        if frame.format.codec = adapter.config.audio.codec then frame.format else adapter.config.audio := by
  unfold decodeFrame at h
  split at h
  · next hcodec =>
      obtain rfl := Except.ok.inj h
      exact ⟨rfl, rfl, (if_pos hcodec).symm⟩
  · next hcodec =>
      split at h
      · cases h
      · split at h
        · cases h
        · split at h
          · cases h
          · next hdecoded =>
              split at h
              · cases h
              · next hformat =>
                  obtain rfl := Except.ok.inj h
                  obtain ⟨hgeneration, hsequence⟩ := decode_keeps hdecoded
                  exact ⟨hgeneration, hsequence, (not_not.1 hformat).trans (if_neg hcodec).symm⟩

theorem outputSequence_onBinary {payload : List UInt8} (decoding : OpusDecoding) (taken : Status)
    (honline : ¬ (!adapter.connected) = true) (hempty : payload ≠ [])
    (hlong : ¬ payload.length > Voice.maxPayloadBytes) :
    (adapter.onBinary ports payload decoding taken).2.outputSequence = (adapter.outputSequence + 1) % 2 ^ 64 := by
  unfold LinxSpeechProviderAdapter.onBinary
  rw [if_neg honline, if_neg hempty, if_neg hlong]
  dsimp only
  split <;> rfl

/-- A frame that is decoded has the playback format of the handshake. -/
theorem format_of_decoded (hsound : adapter.handshake.Sound ports) (honline : adapter.connected = true)
    {frame decoded : AudioFrame} {decoding : OpusDecoding} {numbered : LinxSpeechProviderAdapter}
    (hconfig : numbered.config = adapter.config)
    (hframe : frame.format =
      if (wireAudioFormat ports adapter).codec = adapter.config.audio.codec then adapter.audioFormats.playback
      else wireAudioFormat ports adapter)
    (h : decodeFrame frame decoding numbered = .ok decoded) :
    decoded.format = adapter.audioFormats.playback := by
  obtain ⟨-, -, hformat⟩ := decodeFrame_ok h
  have hplayback : if (wireAudioFormat ports adapter).codec = adapter.config.audio.codec then
      adapter.audioFormats.playback.codec = adapter.config.audio.codec
    else adapter.audioFormats.playback = adapter.config.audio := hsound.playback honline
  rw [hconfig] at hformat
  by_cases hcodec : (wireAudioFormat ports adapter).codec = adapter.config.audio.codec
  · -- The service sends what is played.
    rw [if_pos hcodec] at hframe hplayback
    rw [hformat, hframe, if_pos hplayback]
  · -- What the service sends is decoded to the local format.
    rw [if_neg hcodec] at hframe hplayback
    rw [hformat, hframe, if_neg hcodec, hplayback]

theorem allEmitted_onBinary (hsound : adapter.handshake.Sound ports) (payload : List UInt8) (decoding : OpusDecoding)
    (taken : Status) :
    AllEmitted ports adapter (.onBinary payload decoding taken)
      (adapter.onBinary ports payload decoding taken).1 := by
  unfold LinxSpeechProviderAdapter.onBinary
  split
  · exact allEmitted_emit _ _ id
  · next hon =>
      have honline : adapter.connected = true := by simpa using hon
      split
      · exact allEmitted_emit _ _ id
      · next hempty =>
          split
          · exact allEmitted_emit _ _ id
          · next hlong =>
              dsimp only
              split
              · exact allEmitted_nil
              · exact allEmitted_emit _ _ id
              · next decoded hdecoded =>
                  obtain ⟨hgeneration, hsequence, -⟩ := decodeFrame_ok hdecoded
                  have hformat : decoded.format = adapter.audioFormats.playback :=
                    format_of_decoded hsound honline rfl rfl hdecoded
                  unfold deliver
                  split
                  · exact allEmitted_emit _ _ id
                  · refine .cons (.plays honline hgeneration hsequence hformat ?_) ?_
                    · exact outputSequence_onBinary decoding taken hon hempty hlong
                    · split
                      · exact allEmitted_nil
                      · exact allEmitted_emit _ _ id

theorem emits_step (hsound : adapter.handshake.Sound ports) (input : Input) :
    AllEmitted ports adapter input (outputs ports adapter input) := by
  cases input with
  | setAudioSink => exact allEmitted_nil
  | setGeneration generation => exact allEmitted_setGeneration generation adapter
  | connect config sink created => exact allEmitted_connect config sink created
  | transportAnswered status =>
      unfold outputs step LinxSpeechProviderAdapter.transportAnswered
      dsimp only
      split
      · exact allEmitted_returned status
      · exact allEmitted_nil
  | helloWaited reports => exact allEmitted_helloWaited reports
  | disconnect reports status => exact (allEmitted_closeTransport reports _).append (allEmitted_returned status)
  | startCapture sent => exact allEmitted_sendRequest _ OutboundRequest.noConfusion sent
  | stopCapture sent => exact allEmitted_sendRequest _ OutboundRequest.noConfusion sent
  | abort reason sent => exact allEmitted_sendRequest _ OutboundRequest.noConfusion sent
  | speak text sent => exact allEmitted_sendRequest _ OutboundRequest.noConfusion sent
  | notifyLocalWakeWord wakeWord textResponse sent =>
      exact allEmitted_notifyLocalWakeWord wakeWord textResponse sent
  | onConnected sent => exact allEmitted_onTransportConnected sent
  | onDisconnected => exact allEmitted_onTransportDisconnected adapter
  | onText message => exact allEmitted_onText message
  | onBinary payload decoding taken => exact allEmitted_onBinary hsound payload decoding taken
  | onError status => exact allEmitted_emit _ _ id
  | mcpWorkerTurn response sent => exact allEmitted_mcpWorkerTurn response sent

end Outputs

/-! ## Connections and hellos -/

/-- The transport reports a connection. -/
def ReportsConnection : Input → Prop
  | .onConnected _ => True
  | _ => False

/-- A connection was reported and has not ended since. -/
def ConnectionOpen (ports : LinxPorts) (strategy : Option EspOpusCodecStrategy) (done : List Input) : Prop :=
  Run.Since (next ports) (fun _ => ReportsConnection) EndsConnection (newAdapter strategy) done

/-- The number of attempts to send a hello. -/
def helloes (outputs : List Output) : ℕ :=
  outputs.countP isHello

section Connections

variable {ports : LinxPorts} {adapter : LinxSpeechProviderAdapter} {input : Input}
  {strategy : Option EspOpusCodecStrategy}

theorem transportConnected_of_reported (sent : Status) :
    (next ports adapter (.onConnected sent)).transportConnected = true := by
  unfold next step onTransportConnected
  dsimp only
  split
  · assumption
  · split <;> rfl

theorem Moves.opened {handshake : Handshake} (hmoves : Moves ports adapter input handshake)
    (hopen : handshake.transportConnected = true) :
    ReportsConnection input ∨ adapter.transportConnected = true ∧ ¬ EndsConnection adapter input := by
  cases hmoves with
  | stays hkeeps =>
      refine Or.inr ⟨hopen, fun hends => hkeeps.elim (fun h => h (Or.inl hends)) fun hoff => ?_⟩
      exact Bool.false_ne_true (hoff.symm.trans hopen)
  | begins => exact absurd hopen Bool.false_ne_true
  | opens => exact Or.inl trivial
  | ends => exact absurd hopen Bool.false_ne_true
  | _ => exact Or.inr ⟨hopen, id⟩

theorem Moves.stays_open {handshake : Handshake} (hmoves : Moves ports adapter input handshake)
    (hopen : adapter.transportConnected = true) (hlasts : ¬ EndsConnection adapter input) :
    handshake.transportConnected = true := by
  cases hmoves with
  | begins hbegins => exact absurd (hbegins.2.2.2.2.1.symm.trans hopen) Bool.false_ne_true
  | opens => rfl
  | ends _ _ hends => exact absurd hends hlasts
  | _ => exact hopen

theorem transportConnected_next : (next ports adapter input).transportConnected = true ↔
    ReportsConnection input ∨ adapter.transportConnected = true ∧ ¬ EndsConnection adapter input := by
  constructor
  · exact (moves_step input).opened
  · rintro (hreports | ⟨hopen, hlasts⟩)
    · cases input with
      | onConnected sent => exact transportConnected_of_reported sent
      | _ => exact hreports.elim
    · exact (moves_step input).stays_open hopen hlasts

theorem connectionOpen_iff {done : List Input} :
    ConnectionOpen ports strategy done ↔ (after ports strategy done).transportConnected = true := by
  induction done using List.reverseRecOn with
  | nil => exact iff_of_false Run.not_since_nil Bool.false_ne_true
  | append_singleton done input ih =>
      rw [after_concat, transportConnected_next, ← ih]
      exact Run.since_concat

theorem helloes_emit (kind : VoiceEventKind) (text : String) : helloes (emit kind text adapter) = 0 := by
  unfold emit
  split <;> rfl

/-- A hello is sent, or attempted, when a connection opens. -/
theorem helloes_of_opens (hopens : OpensConnection adapter input) : helloes (outputs ports adapter input) = 1 := by
  cases input with
  | onConnected sent =>
      have hoff : ¬ adapter.transportConnected = true := Bool.not_eq_true _ ▸ hopens
      unfold outputs step onTransportConnected
      dsimp only
      rw [if_neg hoff]
      split
      · rfl
      · exact (List.countP_append ..).trans (congrArg (1 + ·) (helloes_emit _ _))
  | _ => exact hopens.elim

/-- No hello is sent otherwise. -/
theorem helloes_of_not_opens (hsound : adapter.handshake.Sound ports) (hopens : ¬ OpensConnection adapter input) :
    helloes (outputs ports adapter input) = 0 := by
  refine List.countP_eq_zero.2 fun output houtput hhello => ?_
  cases emits_step hsound input output houtput with
  | manages hmanages =>
      cases output with
      | sends => exact hmanages
      | _ => exact Bool.false_ne_true hhello
  | greets hoff => exact hopens hoff
  | @asks _ request _ hrequest =>
      cases request with
      | hello => exact hrequest rfl
      | _ => exact Bool.false_ne_true hhello
  | _ => exact Bool.false_ne_true hhello

end Connections

/-! ## Numbering -/

/-- The numbering of the frames begins anew. -/
def Renumbers (ports : LinxPorts) (adapter : LinxSpeechProviderAdapter) (input : Input) : Prop :=
  TellsGeneration input ∨ BeginsSession ports adapter input ∨ OpensConnection adapter input ∨
    EndsConnection adapter input

section Numbering

variable {ports : LinxPorts} {adapter : LinxSpeechProviderAdapter} {input : Input}
  {strategy : Option EspOpusCodecStrategy}

theorem Moves.outputSequence_le {handshake : Handshake} (hmoves : Moves ports adapter input handshake) :
    handshake.outputSequence ≤ adapter.outputSequence + 1 := by
  cases hmoves with
  | tells => exact Nat.zero_le _
  | begins => exact Nat.zero_le _
  | opens => exact Nat.zero_le _
  | ends => exact Nat.zero_le _
  | numbers => exact Nat.mod_le _ _
  | _ => exact Nat.le_succ _

theorem Moves.outputSequence_ge {handshake : Handshake} (hmoves : Moves ports adapter input handshake)
    (hkeeps : ¬ Renumbers ports adapter input) (hsmall : adapter.outputSequence + 1 < 2 ^ 64) :
    adapter.outputSequence ≤ handshake.outputSequence := by
  cases hmoves with
  | tells htold => exact absurd (Or.inl htold) hkeeps
  | begins hbegins => exact absurd (Or.inr (Or.inl hbegins)) hkeeps
  | opens _ hopens => exact absurd (Or.inr (Or.inr (Or.inl hopens))) hkeeps
  | ends _ _ hends => exact absurd (Or.inr (Or.inr (Or.inr hends))) hkeeps
  | numbers => exact (Nat.le_succ _).trans_eq (Nat.mod_eq_of_lt hsmall).symm
  | _ => exact le_rfl

theorem outputSequence_after_le (done : List Input) :
    (after ports strategy done).outputSequence ≤ done.length := by
  induction done using List.reverseRecOn with
  | nil => exact le_rfl
  | append_singleton done input ih =>
      rw [after_concat, List.length_append]
      exact (moves_step input).outputSequence_le.trans (Nat.succ_le_succ ih)

theorem sequence_of_frame {frame : AudioFrame} (hsound : adapter.handshake.Sound ports)
    (hframe : .frame frame ∈ outputs ports adapter input) :
    frame.sequence = adapter.outputSequence ∧
      (next ports adapter input).outputSequence = (adapter.outputSequence + 1) % 2 ^ 64 := by
  cases emits_step hsound input _ hframe with
  | manages hmanages => exact hmanages.elim
  | plays _ _ hsequence _ hnext => exact ⟨hsequence, hnext⟩

/-- While nothing renumbers them, the frames to come have higher numbers than those given to the sink. -/
theorem sequence_lt_outputSequence {frame : AudioFrame} {done : List Input} (hshort : done.length < 2 ^ 64)
    (hsince : Run.Since (next ports) (fun adapter input => .frame frame ∈ outputs ports adapter input)
      (Renumbers ports) (newAdapter strategy) done) :
    frame.sequence < (after ports strategy done).outputSequence := by
  induction done using List.reverseRecOn with
  | nil => exact absurd hsince Run.not_since_nil
  | append_singleton done input ih =>
      rw [List.length_append] at hshort
      have hsmall : (after ports strategy done).outputSequence + 1 < 2 ^ 64 :=
        (Nat.succ_le_succ (outputSequence_after_le done)).trans_lt hshort
      rw [after_concat]
      rcases Run.since_concat.1 hsince with hnow | ⟨hbefore, hkeeps⟩
      · obtain ⟨hsequence, hnext⟩ := sequence_of_frame (sound_after done) hnow
        rw [hsequence, hnext, Nat.mod_eq_of_lt hsmall]
        exact Nat.lt_succ_self _
      · exact (ih (Nat.lt_of_succ_lt hshort) hbefore).trans_le ((moves_step input).outputSequence_ge hkeeps hsmall)

end Numbering

/-! ## Sessions -/

section Sessions

variable {ports : LinxPorts} {adapter : LinxSpeechProviderAdapter} {input : Input}
  {strategy : Option EspOpusCodecStrategy}

/-- The adapter holds the formats that later hellos have to repeat. -/
structure Negotiated (formats : VoiceAudioFormats) (handshake : Handshake) : Prop where
  negotiated : handshake.hasNegotiatedFormats = true
  last : handshake.lastAudioFormats = formats

/-- The formats negotiated in a session outlive its connections. -/
theorem Moves.negotiated {handshake : Handshake} {formats : VoiceAudioFormats}
    (hmoves : Moves ports adapter input handshake) (hnegotiated : Negotiated formats adapter.handshake)
    (hkeeps : ¬ BeginsSession ports adapter input) : Negotiated formats handshake := by
  cases hmoves with
  | begins hbegins => exact absurd hbegins hkeeps
  | accepts _ haccepts =>
      exact ⟨rfl, (haccepts.unchanged hnegotiated.negotiated).symm.trans hnegotiated.last⟩
  | _ => exact ⟨hnegotiated.negotiated, hnegotiated.last⟩

theorem negotiated_of_acceptsHello {hello : LinxInboundMessage} {formats : VoiceAudioFormats}
    (haccepts : AcceptsHello ports hello formats adapter input) :
    Negotiated formats (next ports adapter input).handshake := by
  rw [next_of_acceptsHello haccepts]
  exact ⟨rfl, rfl⟩

theorem negotiated_since {hello : LinxInboundMessage} {formats : VoiceAudioFormats} {done : List Input}
    (hsince : Run.Since (next ports) (AcceptsHello ports hello formats) (BeginsSession ports)
      (newAdapter strategy) done) :
    Negotiated formats (after ports strategy done).handshake :=
  @Run.flag_of_since _ _ _ _ _ _ (fun _ => True) (fun adapter => Negotiated formats adapter.handshake)
    (fun _ _ => id) (fun _ _ _ haccepts => negotiated_of_acceptsHello haccepts)
    (fun _ input _ hnegotiated hkeeps => (moves_step input).negotiated hnegotiated hkeeps) trivial done hsince

theorem onText_mismatch {message : List UInt8} {inbound : LinxInboundMessage}
    (hdecoded : ports.decodeText message = .ok inbound) (hkind : inbound.kind ≠ .hello)
    (hmismatch : sessionMismatch inbound adapter = true) :
    adapter.onText ports message =
      (emit .error "Linx 消息 session_id 不匹配或 hello 未完成" adapter, adapter) := by
  unfold LinxSpeechProviderAdapter.onText
  simp [hdecoded, hkind, hmismatch]

/-- The member of a message that names the session. -/
def sessionItem (id : String) : Option JsonItem :=
  if id ≠ "" then some (.string (cString id)) else none

theorem lookup_sessionMember (config : VoiceSessionConfig) :
    (sessionMember config).lookup "session_id" = sessionItem config.sessionId := by
  unfold sessionMember sessionItem
  split <;> rfl

theorem lookup_encode {request : OutboundRequest} {connection : LinxConnectionConfig} {config : VoiceSessionConfig}
    {message : OutboundMessage} (hrequest : request ≠ .hello)
    (hencoded : request.encode connection config = .ok message) :
    message.lookup "session_id" = sessionItem config.sessionId := by
  rw [← lookup_sessionMember]
  cases request with
  | hello => exact absurd rfl hrequest
  | listenStart =>
      obtain rfl := Except.ok.inj hencoded
      rfl
  | listenStop =>
      obtain rfl := Except.ok.inj hencoded
      rfl
  | listenDetect text textResponse =>
      change encodeListenDetect config text textResponse = .ok message at hencoded
      unfold encodeListenDetect at hencoded
      split at hencoded
      · cases hencoded
      · obtain rfl := Except.ok.inj hencoded
        split <;> rfl
  | abort reason =>
      change encodeAbort config reason = .ok message at hencoded
      unfold encodeAbort at hencoded
      split at hencoded
      · cases hencoded
      · obtain rfl := Except.ok.inj hencoded
        rfl

end Sessions

/-! ## Isolation -/

/-- What an input does after a sequence of inputs is isolated from earlier connections. -/
structure Isolated (ports : LinxPorts) (strategy : Option EspOpusCodecStrategy) (done : List Input)
    (input : Input) : Prop where
  /-- Speech answers a message, under a hello that stands. -/
  speech : ∀ output ∈ outputs ports (after ports strategy done) input, IsSpeech output →
    IsMessage input ∧ ∃ hello formats, Online ports strategy hello formats done
  /-- A message of another session, or without a hello, causes an error event and nothing else. -/
  mismatch : ∀ message inbound, input = .onText message → ports.decodeText message = .ok inbound →
    inbound.kind ≠ .hello →
    (∀ hello formats, Online ports strategy hello formats done →
      ∃ id ∈ hello.sessionId, ∃ id' ∈ inbound.sessionId, id' ≠ id) →
    step ports (after ports strategy done) input =
      (emit .error "Linx 消息 session_id 不匹配或 hello 未完成" (after ports strategy done),
        after ports strategy done)
  /-- The hellos of a session negotiate the same formats. -/
  sameFormats : ∀ hello formats hello' formats',
    Run.Since (next ports) (AcceptsHello ports hello formats) (BeginsSession ports) (newAdapter strategy) done →
    AcceptsHello ports hello' formats' (after ports strategy done) input → formats' = formats
  /-- A frame has the generation of the adapter and the negotiated format, which is the local one when the
  service sends another codec. -/
  frames : ∀ frame, .frame frame ∈ outputs ports (after ports strategy done) input →
    frame.generation = (after ports strategy done).generation ∧
      (∃ hello formats, Online ports strategy hello formats done ∧ frame.format = formats.playback) ∧
      ((wireAudioFormat ports (after ports strategy done)).codec ≠ (after ports strategy done).config.audio.codec →
        frame.format = (after ports strategy done).config.audio)
  /-- Frames are numbered upwards, as long as the 64 bits of the number suffice. -/
  increasing : done.length < 2 ^ 64 → ∀ frame frame',
    Run.Since (next ports) (fun adapter input => .frame frame ∈ outputs ports adapter input) (Renumbers ports)
      (newAdapter strategy) done →
    .frame frame' ∈ outputs ports (after ports strategy done) input → frame.sequence < frame'.sequence
  /-- A hello is sent or attempted once when a connection opens, and never else. -/
  greeted : ReportsConnection input ∧ ¬ ConnectionOpen ports strategy done →
    helloes (outputs ports (after ports strategy done) input) = 1
  notGreeted : ¬ (ReportsConnection input ∧ ¬ ConnectionOpen ports strategy done) →
    helloes (outputs ports (after ports strategy done) input) = 0
  /-- A listen or abort message carries the session id of the hello that stands, or the local one if that gave
  none. -/
  requests : ∀ request message, .sends request (.ok message) ∈ outputs ports (after ports strategy done) input →
    request ≠ .hello → ∃ hello formats, Online ports strategy hello formats done ∧
      message.lookup "session_id" =
        sessionItem (hello.sessionId.getD (after ports strategy done).config.sessionId)

section Isolation

variable {ports : LinxPorts} {strategy : Option EspOpusCodecStrategy} {done : List Input} {input : Input}

theorem speech_isolated {output : Output} (houtput : output ∈ outputs ports (after ports strategy done) input)
    (hspeech : IsSpeech output) : IsMessage input ∧ ∃ hello formats, Online ports strategy hello formats done := by
  cases emits_step (sound_after done) input output houtput with
  | notes hkind => exact absurd hspeech hkind
  | manages hmanages =>
      cases output with
      | event => exact hmanages.elim
      | queued => exact hmanages.elim
      | frame => exact hmanages.elim
      | _ => exact hspeech.elim
  | greets => exact hspeech.elim
  | asks => exact hspeech.elim
  | speaks honline => exact ⟨trivial, exists_online honline⟩
  | queues honline => exact ⟨trivial, exists_online honline⟩
  | plays honline => exact ⟨trivial, exists_online honline⟩

theorem sessionMismatch_of_online {inbound : LinxInboundMessage}
    (h : ∀ hello formats, Online ports strategy hello formats done →
      ∃ id ∈ hello.sessionId, ∃ id' ∈ inbound.sessionId, id' ≠ id) :
    sessionMismatch inbound (after ports strategy done) = true := by
  unfold sessionMismatch
  cases honline : (after ports strategy done).connected with
  | false => rfl
  | true =>
      obtain ⟨hello, formats, hstands⟩ := exists_online honline
      obtain ⟨id, hid, id', hid', hne⟩ := h hello formats hstands
      have hremote : (after ports strategy done).remoteSessionId = some id := hstands.stands.session.trans hid
      have hgiven : inbound.sessionId = some id' := hid'
      simp [hremote, hgiven, hne]

theorem frames_isolated {frame : AudioFrame} (hframe : .frame frame ∈ outputs ports (after ports strategy done) input) :
    frame.generation = (after ports strategy done).generation ∧
      (∃ hello formats, Online ports strategy hello formats done ∧ frame.format = formats.playback) ∧
      ((wireAudioFormat ports (after ports strategy done)).codec ≠ (after ports strategy done).config.audio.codec →
        frame.format = (after ports strategy done).config.audio) := by
  cases emits_step (sound_after done) input _ hframe with
  | manages hmanages => exact hmanages.elim
  | plays honline hgeneration _ hformat _ =>
      obtain ⟨hello, formats, hstands⟩ := exists_online honline
      refine ⟨hgeneration, ⟨hello, formats, hstands, ?_⟩, fun hcodec => ?_⟩
      · rw [hformat, hstands.stands.formats]
      · have hplayback := (@sound_after ports strategy done).playback honline
        rw [hformat]
        exact (if_neg hcodec).mp hplayback

theorem requests_isolated {request : OutboundRequest} {message : OutboundMessage}
    (hsends : .sends request (.ok message) ∈ outputs ports (after ports strategy done) input)
    (hrequest : request ≠ .hello) : ∃ hello formats, Online ports strategy hello formats done ∧
      message.lookup "session_id" =
        sessionItem (hello.sessionId.getD (after ports strategy done).config.sessionId) := by
  have hemits := emits_step (sound_after done) input _ hsends
  generalize hencoded : (Except.ok message : Result OutboundMessage) = encoded at hemits
  cases hemits with
  | manages hmanages => exact hmanages.elim
  | greets => exact absurd rfl hrequest
  | asks honline =>
      obtain ⟨hello, formats, hstands⟩ := exists_online honline
      refine ⟨hello, formats, hstands, ?_⟩
      rw [lookup_encode hrequest hencoded.symm, ← hstands.stands.session]
      rfl

theorem opens_iff : OpensConnection (after ports strategy done) input ↔
    ReportsConnection input ∧ ¬ ConnectionOpen ports strategy done := by
  rw [connectionOpen_iff, Bool.not_eq_true]
  cases input with
  | onConnected => exact (iff_of_eq (true_and _)).symm
  | _ => exact (iff_of_eq (false_and _)).symm

/-- Whatever was done before, an input is isolated from earlier connections. -/
theorem handshake_isolated (ports : LinxPorts) (strategy : Option EspOpusCodecStrategy) (done : List Input)
    (input : Input) : Isolated ports strategy done input where
  speech _ houtput hspeech := speech_isolated houtput hspeech
  mismatch message inbound hinput hdecoded hkind hother := by
    subst hinput
    exact onText_mismatch hdecoded hkind (sessionMismatch_of_online hother)
  sameFormats hello formats hello' formats' hsince haccepts := by
    obtain ⟨message, -, -, haccepts⟩ := haccepts
    have hnegotiated := negotiated_since hsince
    exact (haccepts.unchanged hnegotiated.negotiated).symm.trans hnegotiated.last
  frames _ hframe := frames_isolated hframe
  increasing hshort frame frame' hsince hframe' := by
    rw [(sequence_of_frame (sound_after done) hframe').1]
    exact sequence_lt_outputSequence hshort hsince
  greeted hopens := helloes_of_opens (opens_iff.2 hopens)
  notGreeted hopens := helloes_of_not_opens (sound_after done) (mt opens_iff.1 hopens)
  requests _ _ hsends hrequest := requests_isolated hsends hrequest

end Isolation

/-! ## A generation told again -/

/-- The generation or the connection changes. -/
def ChangesEpoch (ports : LinxPorts) (adapter : LinxSpeechProviderAdapter) (input : Input) : Prop :=
  (next ports adapter input).generation ≠ adapter.generation ∨ BeginsSession ports adapter input ∨
    OpensConnection adapter input ∨ EndsConnection adapter input

/-- A generation that the adapter already has changes neither. -/
theorem not_changesEpoch_told {ports : LinxPorts} {adapter : LinxSpeechProviderAdapter} :
    ¬ ChangesEpoch ports adapter (.setGeneration adapter.generation) := by
  have hsame : (next ports adapter (.setGeneration adapter.generation)).generation = adapter.generation := by
    unfold next step LinxSpeechProviderAdapter.setGeneration
    dsimp only
    split <;> rfl
  exact not_or.2 ⟨fun hchanges => hchanges hsame, not_or.2 ⟨id, not_or.2 ⟨id, id⟩⟩⟩

/-- The frames among the outputs. -/
def framesOf (outputs : List Output) : List AudioFrame :=
  outputs.filterMap fun
    | .frame frame => some frame
    | _ => none

theorem mem_of_framesOf {frame : AudioFrame} {outputs : List Output} (h : frame ∈ framesOf outputs) :
    .frame frame ∈ outputs := by
  obtain ⟨output, houtput, hframe⟩ := List.mem_filterMap.1 h
  cases output with
  | frame => exact Option.some.inj hframe ▸ houtput
  | _ => cases hframe

/-- A hello of the service. -/
def helloText : List UInt8 :=
  DecimalText.ascii ("\x7b\"type\":\"hello\",\"session_id\":\"s1\",\"audio_params\":" ++
    "\x7b\"format\":\"pcm\",\"sample_rate\":16000,\"channels\":1\x7d\x7d")

/-- An MCP request of the service. -/
def mcpText : List UInt8 :=
  DecimalText.ascii "\x7b\"type\":\"mcp\",\"session_id\":\"s1\",\"payload\":\x7b\x7d\x7d"

/-- What the codec makes of these two messages. -/
def decodeText (message : List UInt8) : Result LinxInboundMessage :=
  if message = helloText then .ok { kind := .hello, sessionId := some "s1", audioParams := some {} }
  else if message = mcpText then .ok { kind := .mcp, sessionId := some "s1", text := "\x7b\x7d" }
  else Result.failure .invalidArgument "Linx JSON 解析失败"

/-- A device that sends and plays PCM. -/
def pcmPorts : LinxPorts where
  connection :=
    { websocketUrl := "wss://linx"
      tokenRef := "secret://linx/device-token"
      deviceId := "device"
      clientId := "client" }
  providerId := "xrobot-websocket"
  mcpHandler := true
  decodeText := decodeText

/-- A call of `Connect` that succeeds. -/
def connecting : List Input :=
  [.setAudioSink true, .connect { sessionId := "local", providerId := "xrobot-websocket", generation := 7 } true .success,
    .transportAnswered .success, .onConnected .success, .onText helloText, .helloWaited false]

/-- A binary message. -/
def pcmMessage : Input := .onBinary [1, 2] ⟨true, 0, 0, []⟩ .success

/-- The frame of a first binary message. -/
def firstFrame : AudioFrame where
  generation := 7
  payload := [1, 2]

/-- Two frames have the same number, though neither the generation nor the connection changed between them:
the generation was told again. And a request stays in the queue when its connection ends. -/
theorem repeated_generation_renumbers :
    (∃ done frame frame',
      Run.Since (next pcmPorts) (fun adapter input => .frame frame ∈ outputs pcmPorts adapter input)
        (ChangesEpoch pcmPorts) (newAdapter none) done ∧
      .frame frame' ∈ outputs pcmPorts (after pcmPorts none done) pcmMessage ∧ done.length < 2 ^ 64 ∧
      frame'.sequence = frame.sequence) ∧
    (after pcmPorts none
      (connecting ++ [.onText mcpText, .onDisconnected, .onConnected .success, .onText helloText])).mcpQueue =
        [{ payload := "\x7b\x7d", sessionId := "s1", generation := 7 }] := by
  have hfirst : firstFrame ∈ framesOf (outputs pcmPorts (after pcmPorts none connecting) pcmMessage) := by
    decide +kernel
  have hsecond : firstFrame ∈ framesOf
      (outputs pcmPorts (after pcmPorts none (connecting ++ [pcmMessage] ++ [.setGeneration 7])) pcmMessage) := by
    decide +kernel
  have htold : (after pcmPorts none (connecting ++ [pcmMessage])).generation = 7 := by decide +kernel
  have hsince : Run.Since (next pcmPorts) (fun adapter input => .frame firstFrame ∈ outputs pcmPorts adapter input)
      (ChangesEpoch pcmPorts) (newAdapter none) (connecting ++ [pcmMessage] ++ [.setGeneration 7]) := by
    refine Run.since_concat.2 (Or.inr ⟨Run.since_concat.2 (Or.inl (mem_of_framesOf hfirst)), ?_⟩)
    rw [← htold]
    exact not_changesEpoch_told
  exact ⟨⟨_, firstFrame, firstFrame, hsince, mem_of_framesOf hsecond, by decide, rfl⟩, by decide +kernel⟩

end VoiceLife.Linx
