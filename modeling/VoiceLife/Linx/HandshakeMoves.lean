import VoiceLife.Lib.Run
import VoiceLife.Linx.SpeechProvider

/-! # The handshake of the Linx provider

`Moves` says what an input does to the handshake: the flags, the hello and the numbering of the downlink. An
adapter is connected exactly while a hello stands that was accepted on the current connection, after its last
error (`exists_online`, `Online.stands`).
-/

namespace VoiceLife.Linx

open Voice (AudioFormat VoiceAudioFormats VoiceEvent VoiceEventKind VoiceSessionConfig)

open LinxSpeechProviderAdapter

/-! ## Runs -/

/-- The adapter after an input. -/
def next (ports : LinxPorts) (adapter : LinxSpeechProviderAdapter) (input : Input) : LinxSpeechProviderAdapter :=
  (step ports adapter input).2

/-- What an input makes the adapter do. -/
def outputs (ports : LinxPorts) (adapter : LinxSpeechProviderAdapter) (input : Input) : List Output :=
  (step ports adapter input).1

/-- A new adapter. -/
def newAdapter (strategy : Option EspOpusCodecStrategy) : LinxSpeechProviderAdapter :=
  { codecStrategy := strategy }

/-- The adapter after a sequence of inputs. -/
def after (ports : LinxPorts) (strategy : Option EspOpusCodecStrategy) (done : List Input) :
    LinxSpeechProviderAdapter :=
  Run.run (next ports) (newAdapter strategy) done

/-! ## Inputs -/

/-- A callback opens a connection of the transport. -/
def OpensConnection (adapter : LinxSpeechProviderAdapter) : Input → Prop
  | .onConnected _ => adapter.transportConnected = false
  | _ => False

/-- A connection of the transport is reported to have ended, or is given up by `Disconnect`. -/
def EndsConnection (adapter : LinxSpeechProviderAdapter) : Input → Prop
  | .onDisconnected => True
  | .disconnect _ _ => True
  | .helloWaited reports => reports = true ∧ (waitStatus adapter).ok = false
  | _ => False

/-- The transport reports an error. -/
def ReportsError : Input → Prop
  | .onError _ => True
  | _ => False

/-- A call of `Connect` forgets the last session and turns to the transport. -/
def BeginsSession (ports : LinxPorts) (adapter : LinxSpeechProviderAdapter) : Input → Prop
  | .connect config _ created =>
      ports.connection.valid = true ∧ config.providerId = ports.providerId ∧ config.generation ≠ 0 ∧
        adapter.connected = false ∧ adapter.transportConnected = false ∧
        (configureCodecStrategy ports created { adapter with config }).1.ok = true
  | _ => False

/-- A call of `SetGeneration` with a generation. -/
def TellsGeneration : Input → Prop
  | .setGeneration generation => generation ≠ 0
  | _ => False

/-- A message of the service. -/
def IsMessage : Input → Prop
  | .onText _ => True
  | .onBinary _ _ _ => True
  | _ => False

/-- The conditions under which a decoded message is accepted as the hello that negotiates the formats. -/
structure Accepts (ports : LinxPorts) (inbound : LinxInboundMessage) (formats : VoiceAudioFormats)
    (adapter : LinxSpeechProviderAdapter) : Prop where
  kind : inbound.kind = .hello
  online : adapter.transportConnected = true
  params : ∃ params, inbound.audioParams = some params ∧ acceptsWire ports params.serverWire adapter = true ∧
    formats = negotiatedFormats ports params.serverWire adapter
  waiting : (adapter.helloReceived && adapter.connected) = false
  unchanged : adapter.hasNegotiatedFormats = true → adapter.lastAudioFormats = formats
  named : inbound.sessionId ≠ some ""

/-- A text message is accepted as the hello. -/
def AcceptsHello (ports : LinxPorts) (hello : LinxInboundMessage) (formats : VoiceAudioFormats)
    (adapter : LinxSpeechProviderAdapter) (input : Input) : Prop :=
  ∃ message, input = .onText message ∧ ports.decodeText message = .ok hello ∧ Accepts ports hello formats adapter

/-- What ends the validity of an accepted hello: the connection ends, an error is reported, or a new connection
opens. -/
def Breaks (adapter : LinxSpeechProviderAdapter) (input : Input) : Prop :=
  EndsConnection adapter input ∨ ReportsError input ∨ OpensConnection adapter input

/-- The hello was accepted on the current connection, after its last error. -/
def Online (ports : LinxPorts) (strategy : Option EspOpusCodecStrategy) (hello : LinxInboundMessage)
    (formats : VoiceAudioFormats) (done : List Input) : Prop :=
  Run.Since (next ports) (AcceptsHello ports hello formats) Breaks (newAdapter strategy) done

/-! ## Handshakes -/

/-- The part of the adapter that the handshake and the numbering of the downlink are about. -/
structure Handshake where
  config : VoiceSessionConfig
  generation : ℕ
  outputSequence : ℕ
  connected : Bool
  transportConnected : Bool
  helloReceived : Bool
  hasNegotiatedFormats : Bool
  remoteSessionId : Option String
  audioFormats : VoiceAudioFormats
  lastAudioFormats : VoiceAudioFormats

/-- The handshake of an adapter. -/
def LinxSpeechProviderAdapter.handshake (adapter : LinxSpeechProviderAdapter) : Handshake where
  config := adapter.config
  generation := adapter.generation
  outputSequence := adapter.outputSequence
  connected := adapter.connected
  transportConnected := adapter.transportConnected
  helloReceived := adapter.helloReceived
  hasNegotiatedFormats := adapter.hasNegotiatedFormats
  remoteSessionId := adapter.remoteSessionId
  audioFormats := adapter.audioFormats
  lastAudioFormats := adapter.lastAudioFormats

/-- The handshake when a session begins. -/
def Handshake.fresh (config : VoiceSessionConfig) : Handshake where
  config := config
  generation := config.generation
  outputSequence := 0
  connected := false
  transportConnected := false
  helloReceived := false
  hasNegotiatedFormats := false
  remoteSessionId := none
  audioFormats := { capture := config.audio, playback := config.audio }
  lastAudioFormats := { capture := config.audio, playback := config.audio }

/-- What an input does to the handshake. -/
inductive Moves (ports : LinxPorts) (adapter : LinxSpeechProviderAdapter) : Input → Handshake → Prop where
  | stays {input : Input} (hkeeps : ¬ Breaks adapter input ∨ adapter.transportConnected = false) :
      Moves ports adapter input adapter.handshake
  | tells {generation : ℕ} (htold : generation ≠ 0) :
      Moves ports adapter (.setGeneration generation)
        { adapter.handshake with generation, outputSequence := 0 }
  | configures {config : VoiceSessionConfig} {sink : Bool} {created : Status} (hoff : adapter.connected = false) :
      Moves ports adapter (.connect config sink created) { adapter.handshake with config }
  | begins {config : VoiceSessionConfig} {sink : Bool} {created : Status}
      (hbegins : BeginsSession ports adapter (.connect config sink created)) :
      Moves ports adapter (.connect config sink created) (Handshake.fresh config)
  | opens {sent : Status} (received : Bool) (hopens : adapter.transportConnected = false) :
      Moves ports adapter (.onConnected sent)
        { adapter.handshake with
          transportConnected := true
          connected := false
          outputSequence := 0
          helloReceived := received
          remoteSessionId := none }
  | ends {input : Input} (generation : ℕ) (received : Bool) (hends : EndsConnection adapter input) :
      Moves ports adapter input
        { adapter.handshake with
          transportConnected := false
          connected := false
          generation
          outputSequence := 0
          helloReceived := received }
  | fails {status : Status} :
      Moves ports adapter (.onError status) { adapter.handshake with connected := false, helloReceived := true }
  | refuses {message : List UInt8} :
      Moves ports adapter (.onText message) { adapter.handshake with helloReceived := true }
  | rejects {message : List UInt8} (hwaiting : (adapter.helloReceived && adapter.connected) = false) :
      Moves ports adapter (.onText message)
        { adapter.handshake with helloReceived := true, connected := false }
  | accepts {message : List UInt8} {hello : LinxInboundMessage} {formats : VoiceAudioFormats}
      (hdecoded : ports.decodeText message = .ok hello) (haccepts : Accepts ports hello formats adapter) :
      Moves ports adapter (.onText message)
        { adapter.handshake with
          remoteSessionId := hello.sessionId
          helloReceived := true
          audioFormats := formats
          lastAudioFormats := formats
          hasNegotiatedFormats := true
          connected := true }
  | numbers {payload : List UInt8} {decoding : OpusDecoding} {taken : Status}
      (honline : adapter.connected = true) :
      Moves ports adapter (.onBinary payload decoding taken)
        { adapter.handshake with outputSequence := (adapter.outputSequence + 1) % 2 ^ 64 }

section Moves

variable {ports : LinxPorts} {adapter : LinxSpeechProviderAdapter}

theorem not_breaks {input : Input} (hends : ¬ EndsConnection adapter input) (herror : ¬ ReportsError input)
    (hopens : ¬ OpensConnection adapter input) : ¬ Breaks adapter input :=
  not_or.2 ⟨hends, not_or.2 ⟨herror, hopens⟩⟩

theorem Moves.of_same {input : Input} {handshake : Handshake} (h : handshake = adapter.handshake)
    (hkeeps : ¬ Breaks adapter input) : Moves ports adapter input handshake := by
  rw [h]
  exact .stays (Or.inl hkeeps)

theorem moves_setGeneration (generation : ℕ) :
    Moves ports adapter (.setGeneration generation) (adapter.setGeneration generation).2.handshake := by
  unfold LinxSpeechProviderAdapter.setGeneration
  split
  · next htold => exact .tells htold
  · exact .of_same rfl (not_breaks id id id)

theorem configureCodecStrategy_handshake (created : Status) :
    (configureCodecStrategy ports created adapter).2.handshake = adapter.handshake := by
  unfold configureCodecStrategy
  dsimp only
  split
  · rfl
  · split
    · rfl
    · split <;> rfl

theorem startMcpWorker_handshake : (startMcpWorker ports adapter).handshake = adapter.handshake := by
  unfold startMcpWorker
  split <;> rfl

theorem openSession_handshake {config : VoiceSessionConfig} (sink : Bool) (hgeneration : config.generation ≠ 0)
    (hconfig : adapter.config = config) :
    (openSession ports config sink adapter).2.handshake = Handshake.fresh config := by
  subst hconfig
  unfold openSession
  rw [LinxSpeechProviderAdapter.setGeneration, if_pos hgeneration]
  exact startMcpWorker_handshake

theorem moves_connect (config : VoiceSessionConfig) (sink : Bool) (created : Status) :
    Moves ports adapter (.connect config sink created) (adapter.connect ports config sink created).2.handshake := by
  unfold LinxSpeechProviderAdapter.connect
  split
  · exact .of_same rfl (not_breaks id id id)
  · next hvalid =>
      simp only [Bool.or_eq_true, Bool.not_eq_true', decide_eq_true_eq, not_or, Bool.not_eq_false] at hvalid
      obtain ⟨⟨hvalid, hprovider⟩, hgeneration⟩ := hvalid
      split
      · exact .of_same rfl (not_breaks id id id)
      · next hoff =>
          simp only [Bool.or_eq_true, not_or, Bool.not_eq_true] at hoff
          obtain ⟨hoff, htransport⟩ := hoff
          have hsame := @configureCodecStrategy_handshake ports { adapter with config } created
          dsimp only
          split
          · rw [hsame]
            exact .configures hoff
          · next hstatus =>
              rw [openSession_handshake sink hgeneration (congrArg Handshake.config hsame)]
              refine .begins ⟨hvalid, not_not.1 hprovider, hgeneration, hoff, htransport, ?_⟩
              simpa using hstatus

theorem moves_onTransportConnected (sent : Status) :
    Moves ports adapter (.onConnected sent) (adapter.onTransportConnected ports sent).2.handshake := by
  unfold onTransportConnected
  split
  · next hon => exact .of_same rfl (not_breaks id id fun hoff => absurd hon (Bool.not_eq_true _ ▸ hoff))
  · next hopens =>
      rw [Bool.not_eq_true] at hopens
      dsimp only
      split
      · exact .opens false hopens
      · exact .opens true hopens

theorem onTransportDisconnected_handshake :
    adapter.transportConnected = false ∧ adapter.onTransportDisconnected.2.handshake = adapter.handshake ∨
      ∃ received, adapter.onTransportDisconnected.2.handshake =
        { adapter.handshake with
          transportConnected := false
          connected := false
          outputSequence := 0
          helloReceived := received } := by
  unfold onTransportDisconnected
  split
  · next hoff => exact Or.inl ⟨by simpa using hoff, rfl⟩
  · dsimp only
    split
    · next hreceived => exact Or.inr ⟨adapter.helloReceived, rfl⟩
    · exact Or.inr ⟨true, rfl⟩

theorem moves_of_reported {input : Input} (hends : EndsConnection adapter input) :
    Moves ports adapter input adapter.onTransportDisconnected.2.handshake := by
  rcases @onTransportDisconnected_handshake adapter with ⟨hoff, h⟩ | ⟨received, h⟩ <;> rw [h]
  · exact .stays (Or.inr hoff)
  · exact .ends adapter.generation received hends

theorem moves_helloWaited (reports : Bool) :
    Moves ports adapter (.helloWaited reports) (adapter.helloWaited reports).2.handshake := by
  unfold LinxSpeechProviderAdapter.helloWaited
  dsimp only
  split
  · next hstatus =>
      exact .of_same rfl (not_breaks (fun hends => Bool.false_ne_true (hends.2.symm.trans hstatus)) id id)
  · next hstatus =>
      unfold closeTransport
      cases reports with
      | false => exact .of_same rfl (not_breaks (fun hends => Bool.false_ne_true hends.1) id id)
      | true => exact moves_of_reported ⟨rfl, Bool.not_eq_true _ ▸ hstatus⟩

theorem disconnect_handshake (reports : Bool) (status : Status) :
    ∃ received, (adapter.disconnect reports status).2.handshake =
      { adapter.handshake with
        transportConnected := false
        connected := false
        generation := 0
        outputSequence := 0
        helloReceived := received } := by
  unfold LinxSpeechProviderAdapter.disconnect closeTransport
  cases reports with
  | false => exact ⟨adapter.helloReceived, rfl⟩
  | true =>
      dsimp only [if_true]
      generalize hclosed : onTransportDisconnected { adapter with explicitDisconnect := true } = closed
      have hends : adapter.transportConnected = false ∧ closed.2.handshake = adapter.handshake ∨
          ∃ received, closed.2.handshake = _ :=
        hclosed ▸ onTransportDisconnected_handshake
      -- Only whether a hello was received is left from the callback.
      change ∃ received, { closed.2.handshake with
        transportConnected := false, connected := false, generation := 0, outputSequence := 0 } = _
      rcases hends with ⟨-, h⟩ | ⟨received, h⟩
      · exact ⟨adapter.helloReceived, by rw [h]; rfl⟩
      · exact ⟨received, by rw [h]; rfl⟩

theorem moves_disconnect (reports : Bool) (status : Status) :
    Moves ports adapter (.disconnect reports status) (adapter.disconnect reports status).2.handshake := by
  obtain ⟨received, h⟩ := @disconnect_handshake adapter reports status
  rw [h]
  exact .ends 0 received trivial

theorem sendRequest_handshake (request : OutboundRequest) (sent : Status) :
    (sendRequest ports request sent adapter).2.handshake = adapter.handshake := by
  unfold sendRequest
  split <;> rfl

theorem notifyLocalWakeWord_handshake (wakeWord textResponse : String) (sent : Status) :
    (adapter.notifyLocalWakeWord ports wakeWord textResponse sent).2.handshake = adapter.handshake := by
  unfold LinxSpeechProviderAdapter.notifyLocalWakeWord
  split
  · rfl
  · split
    · rfl
    · exact sendRequest_handshake _ sent

theorem moves_onError (status : Status) :
    Moves ports adapter (.onError status) (adapter.onError status).2.handshake := by
  have h : (adapter.onError status).2.handshake =
      { adapter.handshake with connected := false, helloReceived := true } := by
    unfold LinxSpeechProviderAdapter.onError
    dsimp only
    split
    · next hreceived => simp only [handshake, hreceived]
    · rfl
  rw [h]
  exact .fails

theorem mcpWorkerTurn_handshake (response : Result String) (sent : Status) :
    (adapter.mcpWorkerTurn response sent).2.handshake = adapter.handshake := by
  unfold LinxSpeechProviderAdapter.mcpWorkerTurn
  split
  · rfl
  · split
    · rfl
    · dsimp only
      split
      · rfl
      · split
        · rfl
        · split <;> rfl

/-! ### Text messages -/

theorem onHello_cases {inbound : LinxInboundMessage} (hkind : inbound.kind = .hello) :
    (adapter.onHello ports inbound).2 = adapter ∧ (adapter.onHello ports inbound).1 = [] ∨
      (∃ message, adapter.onHello ports inbound = adapter.refuseHello message) ∨
      (adapter.helloReceived && adapter.connected) = false ∧
        (∃ message, adapter.onHello ports inbound = adapter.rejectFormats message) ∨
      ∃ formats, Accepts ports inbound formats adapter ∧
        adapter.onHello ports inbound = adapter.acceptHello inbound formats := by
  unfold onHello
  split
  · exact Or.inl ⟨rfl, rfl⟩
  · next honline =>
      split
      · exact Or.inr (Or.inl ⟨_, rfl⟩)
      · next params hparams =>
          split
          · exact Or.inr (Or.inl ⟨_, rfl⟩)
          · next hwire =>
              dsimp only
              split
              · exact Or.inl ⟨rfl, rfl⟩
              · next hwaiting =>
                  rw [Bool.not_eq_true] at hwaiting
                  split
                  · exact Or.inr (Or.inr (Or.inl ⟨hwaiting, _, rfl⟩))
                  · next hformats =>
                      split
                      · exact Or.inr (Or.inr (Or.inl ⟨hwaiting, _, rfl⟩))
                      · next hnamed =>
                          refine Or.inr (Or.inr (Or.inr ⟨_, ?_, rfl⟩))
                          exact {
                            kind := hkind
                            online := by simpa using honline
                            params := ⟨params, hparams, by simpa using hwire, rfl⟩
                            waiting := hwaiting
                            unchanged := fun hnegotiated => by simpa [hnegotiated] using hformats
                            named := hnamed }

theorem onHello_of_accepts {inbound : LinxInboundMessage} {formats : VoiceAudioFormats}
    (haccepts : Accepts ports inbound formats adapter) :
    adapter.onHello ports inbound = adapter.acceptHello inbound formats := by
  obtain ⟨params, hparams, hwire, rfl⟩ := haccepts.params
  have hsame : (adapter.hasNegotiatedFormats &&
      decide (adapter.lastAudioFormats ≠ negotiatedFormats ports params.serverWire adapter)) = false := by
    cases hnegotiated : adapter.hasNegotiatedFormats with
    | false => rfl
    | true => simp [haccepts.unchanged hnegotiated]
  unfold onHello
  simp only [haccepts.online, hparams, hwire, haccepts.waiting, hsame, haccepts.named]
  rfl

theorem onMcp_handshake (inbound : LinxInboundMessage) :
    (adapter.onMcp ports inbound).2.handshake = adapter.handshake := by
  unfold onMcp
  split
  · rfl
  · split <;> rfl

theorem moves_onText (message : List UInt8) :
    Moves ports adapter (.onText message) (adapter.onText ports message).2.handshake := by
  unfold LinxSpeechProviderAdapter.onText
  split
  · exact .of_same rfl (not_breaks id id id)
  · next inbound hdecoded =>
      split
      · exact .of_same rfl (not_breaks id id id)
      · unfold dispatch
        cases hkind : inbound.kind with
        | hello =>
            dsimp only
            rcases @onHello_cases ports adapter inbound hkind with
              ⟨h, -⟩ | ⟨_, h⟩ | ⟨hwaiting, _, h⟩ | ⟨formats, haccepts, h⟩ <;> rw [h]
            · exact .of_same rfl (not_breaks id id id)
            · exact .refuses
            · exact .rejects hwaiting
            · exact .accepts hdecoded haccepts
        | mcp =>
            dsimp only
            rw [onMcp_handshake]
            exact .of_same rfl (not_breaks id id id)
        | _ => exact .of_same rfl (not_breaks id id id)

/-! ### Binary messages -/

theorem moves_onBinary (payload : List UInt8) (decoding : OpusDecoding) (taken : Status) :
    Moves ports adapter (.onBinary payload decoding taken)
      (adapter.onBinary ports payload decoding taken).2.handshake := by
  unfold LinxSpeechProviderAdapter.onBinary
  split
  · exact .of_same rfl (not_breaks id id id)
  · next honline =>
      split
      · exact .of_same rfl (not_breaks id id id)
      · split
        · exact .of_same rfl (not_breaks id id id)
        · dsimp only
          split <;> exact .numbers (by simpa using honline)

/-- Every input moves the handshake in one of the ways of `Moves`. -/
theorem moves_step (input : Input) : Moves ports adapter input (next ports adapter input).handshake := by
  cases input with
  | setAudioSink => exact .of_same rfl (not_breaks id id id)
  | setGeneration generation => exact moves_setGeneration generation
  | connect config sink created => exact moves_connect config sink created
  | transportAnswered status =>
      unfold next step LinxSpeechProviderAdapter.transportAnswered
      dsimp only
      split <;> exact .of_same rfl (not_breaks id id id)
  | helloWaited reports => exact moves_helloWaited reports
  | disconnect reports status => exact moves_disconnect reports status
  | startCapture sent => exact .of_same (sendRequest_handshake .listenStart sent) (not_breaks id id id)
  | stopCapture sent => exact .of_same (sendRequest_handshake .listenStop sent) (not_breaks id id id)
  | abort reason sent => exact .of_same (sendRequest_handshake (.abort reason) sent) (not_breaks id id id)
  | speak text sent => exact .of_same (sendRequest_handshake (.listenDetect "system_prompt" text) sent) (not_breaks id id id)
  | notifyLocalWakeWord wakeWord textResponse sent =>
      exact .of_same (notifyLocalWakeWord_handshake wakeWord textResponse sent) (not_breaks id id id)
  | onConnected sent => exact moves_onTransportConnected sent
  | onDisconnected => exact moves_of_reported trivial
  | onText message => exact moves_onText message
  | onBinary payload decoding taken => exact moves_onBinary payload decoding taken
  | onError status => exact moves_onError status
  | mcpWorkerTurn response sent => exact .of_same (mcpWorkerTurn_handshake response sent) (not_breaks id id id)

end Moves

/-! ## Invariants -/

/-- What holds of the handshake in every state. -/
structure Handshake.Sound (ports : LinxPorts) (handshake : Handshake) : Prop where
  online : handshake.connected = true → handshake.transportConnected = true
  received : handshake.connected = true → handshake.helloReceived = true
  playback : handshake.connected = true →
    if (ports.connection.preferredAudio.getD handshake.config.audio).codec = handshake.config.audio.codec then
      handshake.audioFormats.playback.codec = handshake.config.audio.codec
    else handshake.audioFormats.playback = handshake.config.audio

/-- The hello and its formats are those that the adapter goes by. -/
structure Stands (hello : LinxInboundMessage) (formats : VoiceAudioFormats) (adapter : LinxSpeechProviderAdapter) :
    Prop where
  connected : adapter.connected = true
  session : adapter.remoteSessionId = hello.sessionId
  formats : adapter.audioFormats = formats

section Invariants

variable {ports : LinxPorts} {adapter : LinxSpeechProviderAdapter} {input : Input} {handshake : Handshake}

theorem Accepts.playback {inbound : LinxInboundMessage} {formats : VoiceAudioFormats}
    (haccepts : Accepts ports inbound formats adapter) :
    if (wireAudioFormat ports adapter).codec = adapter.config.audio.codec then
      formats.playback.codec = adapter.config.audio.codec
    else formats.playback = adapter.config.audio := by
  obtain ⟨params, -, hwire, rfl⟩ := haccepts.params
  split
  · next hcodec =>
      simp only [negotiatedFormats, hcodec, if_true]
      simpa [acceptsWire, hcodec] using hwire
  · next hcodec => simp only [negotiatedFormats, hcodec, if_false]

theorem Moves.sound (hmoves : Moves ports adapter input handshake) (hsound : adapter.handshake.Sound ports) :
    handshake.Sound ports := by
  cases hmoves with
  | stays => exact hsound
  | tells => exact ⟨hsound.online, hsound.received, hsound.playback⟩
  | configures hoff =>
      have hoff' : ¬ adapter.connected = true := Bool.not_eq_true _ ▸ hoff
      exact ⟨fun h => absurd h hoff', fun h => absurd h hoff', fun h => absurd h hoff'⟩
  | refuses => exact ⟨hsound.online, fun _ => rfl, hsound.playback⟩
  | accepts _ haccepts => exact ⟨fun _ => haccepts.online, fun _ => rfl, fun _ => haccepts.playback⟩
  | numbers => exact ⟨hsound.online, hsound.received, hsound.playback⟩
  | _ =>
      exact ⟨fun h => absurd h Bool.false_ne_true, fun h => absurd h Bool.false_ne_true,
        fun h => absurd h Bool.false_ne_true⟩

/-- An adapter is connected after an input that is an accepted hello, or that breaks nothing. -/
theorem Moves.connected_cases (hmoves : Moves ports adapter input handshake)
    (hsound : adapter.handshake.Sound ports) (honline : handshake.connected = true) :
    (∃ hello formats, AcceptsHello ports hello formats adapter input) ∨
      adapter.connected = true ∧ ¬ Breaks adapter input := by
  cases hmoves with
  | stays hkeeps =>
      refine Or.inr ⟨honline, hkeeps.resolve_right fun hoff => ?_⟩
      exact Bool.false_ne_true (hoff.symm.trans (hsound.online honline))
  | tells => exact Or.inr ⟨honline, not_breaks id id id⟩
  | configures => exact Or.inr ⟨honline, not_breaks id id id⟩
  | refuses => exact Or.inr ⟨honline, not_breaks id id id⟩
  | accepts hdecoded haccepts => exact Or.inl ⟨_, _, _, rfl, hdecoded, haccepts⟩
  | numbers => exact Or.inr ⟨honline, not_breaks id id id⟩
  | _ => exact absurd honline Bool.false_ne_true

/-- An input that breaks nothing leaves the hello as it stands. -/
theorem Moves.keeps (hmoves : Moves ports adapter input handshake) (hsound : adapter.handshake.Sound ports)
    (honline : adapter.connected = true) (hkeeps : ¬ Breaks adapter input) :
    handshake.connected = true ∧ handshake.remoteSessionId = adapter.remoteSessionId ∧
      handshake.audioFormats = adapter.audioFormats := by
  have hwaits : ¬ (adapter.helloReceived && adapter.connected) = false := by
    rw [show adapter.helloReceived = true from hsound.received honline, honline]
    exact fun h => Bool.false_ne_true h.symm
  cases hmoves with
  | begins hbegins => exact absurd (hbegins.2.2.2.1.symm.trans honline) Bool.false_ne_true
  | opens _ hopens => exact absurd (Or.inr (Or.inr hopens)) hkeeps
  | ends _ _ hends => exact absurd (Or.inl hends) hkeeps
  | fails => exact absurd (Or.inr (Or.inl trivial)) hkeeps
  | rejects hwaiting => exact absurd hwaiting hwaits
  | accepts _ haccepts => exact absurd haccepts.waiting hwaits
  | _ => exact ⟨honline, rfl, rfl⟩

theorem sound_next (input : Input) (hsound : adapter.handshake.Sound ports) :
    (next ports adapter input).handshake.Sound ports :=
  (moves_step input).sound hsound

theorem next_of_acceptsHello {hello : LinxInboundMessage} {formats : VoiceAudioFormats}
    (haccepts : AcceptsHello ports hello formats adapter input) :
    next ports adapter input = (adapter.acceptHello hello formats).2 := by
  obtain ⟨message, rfl, hdecoded, haccepts⟩ := haccepts
  unfold next step LinxSpeechProviderAdapter.onText dispatch
  simp only [hdecoded, haccepts.kind]
  exact congrArg Prod.snd (onHello_of_accepts haccepts)

theorem AcceptsHello.stands {hello : LinxInboundMessage} {formats : VoiceAudioFormats}
    (haccepts : AcceptsHello ports hello formats adapter input) :
    Stands hello formats (next ports adapter input) := by
  rw [next_of_acceptsHello haccepts]
  exact ⟨rfl, rfl, rfl⟩

theorem Stands.keeps {hello : LinxInboundMessage} {formats : VoiceAudioFormats}
    (hstands : Stands hello formats adapter) (hsound : adapter.handshake.Sound ports)
    (hkeeps : ¬ Breaks adapter input) : Stands hello formats (next ports adapter input) := by
  obtain ⟨honline, hsession, hformats⟩ := (@moves_step ports adapter input).keeps hsound hstands.connected hkeeps
  exact ⟨honline, hsession.trans hstands.session, hformats.trans hstands.formats⟩

end Invariants

/-! ## Runs -/

section Runs

variable {ports : LinxPorts} {strategy : Option EspOpusCodecStrategy}

theorem sound_newAdapter : (newAdapter strategy).handshake.Sound ports :=
  ⟨fun h => absurd h Bool.false_ne_true, fun h => absurd h Bool.false_ne_true,
    fun h => absurd h Bool.false_ne_true⟩

theorem sound_after (done : List Input) : (after ports strategy done).handshake.Sound ports := by
  have hall : Run.AllStates (next ports) (fun adapter => adapter.handshake.Sound ports) (newAdapter strategy) done :=
    Run.allStates_of_invariant (fun _ => sound_next) sound_newAdapter
  exact hall.last

theorem after_concat (done : List Input) (input : Input) :
    after ports strategy (done ++ [input]) = next ports (after ports strategy done) input :=
  Run.run_append _ done [input]

theorem Online.stands {hello : LinxInboundMessage} {formats : VoiceAudioFormats} {done : List Input}
    (honline : Online ports strategy hello formats done) : Stands hello formats (after ports strategy done) :=
  Run.flag_of_since (fun adapter => adapter.handshake.Sound ports) (fun _ => sound_next)
    (fun _ _ _ haccepts => haccepts.stands) (fun _ _ hsound hstands hkeeps => hstands.keeps hsound hkeeps)
    sound_newAdapter honline

/-- A connected adapter has accepted a hello that nothing has broken since. -/
theorem exists_online {done : List Input} (hconnected : (after ports strategy done).connected = true) :
    ∃ hello formats, Online ports strategy hello formats done := by
  induction done using List.reverseRecOn with
  | nil => exact absurd hconnected Bool.false_ne_true
  | append_singleton done input ih =>
      rw [after_concat] at hconnected
      rcases (moves_step input).connected_cases (sound_after done) hconnected with
        ⟨hello, formats, haccepts⟩ | ⟨hbefore, hkeeps⟩
      · exact ⟨hello, formats, Run.since_concat.2 (Or.inl haccepts)⟩
      · obtain ⟨hello, formats, honline⟩ := ih hbefore
        exact ⟨hello, formats, Run.since_concat.2 (Or.inr ⟨honline, hkeeps⟩)⟩

end Runs

end VoiceLife.Linx
