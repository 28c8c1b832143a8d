import VoiceLife.Voice.SessionRuns

/-! # Lost connections under concurrency

Lifecycle operations run one at a time, under `lifecycle_mutex_`. Provider events are handled between any two
of their sections, and while a port call is under way. `BeginCapture` and `EndCapture` write their state
without a look at the events that came meanwhile, so that a lost connection can go unnoticed.
-/

namespace VoiceLife.Voice

open Process VoiceSession

/-- A session with what happened to it. -/
structure World where
  session : VoiceSession := {}
  /-- A lost connection was accepted, and since then no connection and no `Start`. -/
  offline : Bool := false
  /-- The provider accepted to listen, and since then no connection was lost and no stop was issued. -/
  listening : Bool := false
  /-- A connection was lost since the running operation began and the provider last accepted to listen. -/
  missed : Bool := false
  /-- The running operation has issued a `StopCapture`. -/
  stopping : Bool := false

namespace World

/-- A section of an operation or a handler. `Start` succeeds with the section that opens the audio. -/
def enter (write : VoiceSession → VoiceSession) (w : World) : World :=
  { w with
    session := write w.session
    offline := w.offline && (w.session.audioReady || !(write w.session).audioReady) }

/-- A call is issued. -/
def issue : PortCall → World → World
  | .providerStopCapture, w => { w with listening := false, stopping := true }
  | .abort _, w => { w with listening := false }
  | _, w => w

/-- A call is answered. -/
def receive : PortCall → Reply → World → World
  | .providerStartCapture _, reply, w =>
      if reply.status.ok then { w with listening := true, missed := false } else w
  | _, _, w => w

/-- The first section of `HandleEvent`. -/
def deliver (event : VoiceEvent) (w : World) : World :=
  if w.session.acceptsDisconnected event then
    { w with
      session := (w.session.receive event).2
      offline := true
      listening := false
      missed := true }
  else if w.session.acceptsConnected event then
    { w with session := (w.session.receive event).2, offline := false }
  else { w with session := (w.session.receive event).2 }

/-- An operation takes `lifecycle_mutex_`. -/
def begin (w : World) : World :=
  { w with missed := false }

/-- An operation releases `lifecycle_mutex_`. -/
def finish (w : World) : World :=
  { w with stopping := false }

/-- The world around the session. -/
def setting : Setting VoiceSession PortCall (fun _ => Reply) World where
  view := World.session
  enter := enter
  issue := issue
  receive := receive

end World

/-- The operation under way, if there is one, and the handlers of events. -/
structure System where
  world : World := {}
  operation : Option (Position VoiceSession PortCall (fun _ => Reply) Status) := none
  handlers : List (Position VoiceSession PortCall (fun _ => Reply) Unit) := []

/-- What happens next. -/
inductive Choice where
  | begin (op : Operation)
  | turn (reply : Reply)
  | finish
  | deliver (event : VoiceEvent)
  | handle (index : ℕ) (reply : Reply)

namespace System

/-- An operation begins, if none is under way. -/
def begin (op : Operation) (system : System) : System :=
  match system.operation with
  | none => { system with world := system.world.begin, operation := some (.running op.program) }
  | some _ => system

/-- The operation takes a turn. -/
def turn (reply : Reply) (system : System) : System :=
  match system.operation with
  | none => system
  | some position =>
      let next := position.turn World.setting (fun _ => reply) system.world
      { system with world := next.2, operation := some next.1 }

/-- The operation returns, if it is done. -/
def finish (system : System) : System :=
  match system.operation with
  | some (.running (.done _)) => { system with world := system.world.finish, operation := none }
  | _ => system

/-- A handler receives an event. -/
def deliver (event : VoiceEvent) (system : System) : System :=
  { system with
    world := system.world.deliver event
    handlers := system.handlers ++
      [.running (finishEvent event (system.world.session.receive event).1)] }

/-- A handler takes a turn. -/
def handle (index : ℕ) (reply : Reply) (system : System) : System :=
  match system.handlers[index]? with
  | none => system
  | some position =>
      let next := position.turn World.setting (fun _ => reply) system.world
      { system with world := next.2, handlers := system.handlers.set index next.1 }

/-- What a choice does. -/
def step (system : System) : Choice → System
  | .begin op => system.begin op
  | .turn reply => system.turn reply
  | .finish => system.finish
  | .deliver event => system.deliver event
  | .handle index reply => system.handle index reply

end System

/-! ## The property and its condition -/

/-- The session has no connection. -/
def Down (s : VoiceSession) : Prop :=
  s.state = .starting ∨ s.state = .stopped ∨ s.state = .failed

/-- A session that captures is listened to, unless the operation under way has just told the provider to
stop, and a session that lost its connection does not count as connected. -/
def KeepsDisconnect (system : System) : Prop :=
  (system.world.session.state = .capturing →
    system.world.listening = true ∨ system.world.stopping = true) ∧
    (system.world.offline = true → Down system.world.session)

/-- No connection was lost in the midst of `BeginCapture` and `EndCapture`, up to a new connection and, for
`BeginCapture`, a provider that has accepted to listen since. -/
def Undisturbed (write : VoiceSession → VoiceSession) (w : World) : Prop :=
  (write = captureStarted → w.offline = false ∧ w.missed = false) ∧
    (write = captureEnded ∨ write = captureInvalidated → w.offline = false)

/-- The condition on a choice. -/
def UndisturbedStep (system : System) : Choice → Prop
  | .turn _ => ∀ position, system.operation = some position → position.Allowed Undisturbed system.world
  | _ => True

/-! ## What the others may do -/

variable {w w' : World}

/-- The invariant of the world. -/
structure Sound (w : World) : Prop where
  capturing : w.session.state = .capturing → w.listening = true ∨ w.stopping = true
  offline : w.offline = true → Down w.session ∧ w.session.providerCaptureActive = false

/-- What events and their handlers may change while an operation is under way. -/
structure Others (w w' : World) : Prop where
  capturing : w'.session.state = .capturing →
    w.session.state = .capturing ∧ (w.listening = true → w'.listening = true)
  failed : w.session.state = .failed → w'.session.state = .failed
  reserved : w'.session.providerCaptureActive = true →
    w.session.providerCaptureActive = true ∧ (w.listening = true → w'.listening = true)
  missed : w'.missed = false → w.missed = false ∧ (w.listening = true → w'.listening = true)
  audioReady : w'.session.audioReady = w.session.audioReady
  stopping : w'.stopping = w.stopping

theorem Others.refl (w : World) : Others w w :=
  ⟨fun h => ⟨h, id⟩, id, fun h => ⟨h, id⟩, fun h => ⟨h, id⟩, rfl, rfl⟩

theorem Others.trans {w'' : World} (h : Others w w') (h' : Others w' w'') : Others w w'' where
  capturing hstate :=
    have hlast := h'.capturing hstate
    have hfirst := h.capturing hlast.1
    ⟨hfirst.1, hlast.2 ∘ hfirst.2⟩
  failed hstate := h'.failed (h.failed hstate)
  reserved hactive :=
    have hlast := h'.reserved hactive
    have hfirst := h.reserved hlast.1
    ⟨hfirst.1, hlast.2 ∘ hfirst.2⟩
  missed hmissed :=
    have hlast := h'.missed hmissed
    have hfirst := h.missed hlast.1
    ⟨hfirst.1, hlast.2 ∘ hfirst.2⟩
  audioReady := h'.audioReady.trans h.audioReady
  stopping := h'.stopping.trans h.stopping

/-- A change of the session that the others may make. -/
theorem others_of_session (h : Sound w) (s : VoiceSession) (offline : Bool)
    (hcapturing : s.state = .capturing → w.session.state = .capturing)
    (hfailed : w.session.state = .failed → s.state = .failed)
    (hactive : s.providerCaptureActive = true → w.session.providerCaptureActive = true)
    (hready : s.audioReady = w.session.audioReady)
    (hoffline : offline = true → Down s ∧ s.providerCaptureActive = false) :
    Others w { w with session := s, offline := offline } ∧
      Sound { w with session := s, offline := offline } :=
  ⟨⟨fun h => ⟨hcapturing h, id⟩, hfailed, fun h => ⟨hactive h, id⟩, fun h => ⟨h, id⟩, hready, rfl⟩,
    fun hstate => h.capturing (hcapturing hstate), hoffline⟩

theorem Down.not_ready {s : VoiceSession} (h : Down s) : s.state ≠ .ready := by
  rcases h with h | h | h <;> simp [h]

theorem Down.not_capturing {s : VoiceSession} (h : Down s) : s.state ≠ .capturing := by
  rcases h with h | h | h <;> simp [h]

theorem Down.not_speaking {s : VoiceSession} (h : Down s) : s.state ≠ .speaking := by
  rcases h with h | h | h <;> simp [h]

/-! ## Events -/

theorem receive_of_disconnected {s : VoiceSession} {event : VoiceEvent}
    (h : s.acceptsDisconnected event = true) : (s.receive event).2 = s.disconnected := by
  have hgeneration : event.generation = s.generation := by
    simp only [acceptsDisconnected, Bool.and_eq_true, decide_eq_true_eq] at h
    exact h.1.1.1.1
  rw [VoiceSession.receive, if_neg (not_not.2 hgeneration), if_pos h]

theorem receive_of_connected {s : VoiceSession} {event : VoiceEvent}
    (h : s.acceptsConnected event = true) : (s.receive event).2 = { s with state := .ready } := by
  have haccepts := h
  simp only [acceptsConnected, Bool.and_eq_true, decide_eq_true_eq] at h
  obtain ⟨⟨⟨hgeneration, hkind⟩, _⟩, _⟩ := h
  simp [VoiceSession.receive, hgeneration, acceptsDisconnected, hkind, haccepts]

theorem deliver_others (event : VoiceEvent) (h : Sound w) :
    Others w (w.deliver event) ∧ Sound (w.deliver event) := by
  unfold World.deliver
  split
  · rename_i hdisconnected
    rw [receive_of_disconnected hdisconnected]
    simp only [acceptsDisconnected, Bool.and_eq_true, decide_eq_true_eq] at hdisconnected
    exact ⟨⟨nofun, fun hfailed => absurd hfailed hdisconnected.2, nofun, nofun, rfl, rfl⟩, nofun,
      fun _ => ⟨Or.inl rfl, rfl⟩⟩
  · rename_i hdisconnected
    split
    · rename_i hconnected
      rw [receive_of_connected hconnected]
      simp only [acceptsConnected, Bool.and_eq_true, decide_eq_true_eq] at hconnected
      exact others_of_session h _ _ nofun (fun hfailed => by simp [hconnected.2] at hfailed) id rfl nofun
    · rename_i hconnected
      have hreceived := receive_received event w.session
      generalize (w.session.receive event).2 = s at hreceived
      cases hreceived with
      | same => exact ⟨.refl w, h⟩
      | disconnected haccepts => exact absurd haccepts hdisconnected
      | connected haccepts => exact absurd haccepts hconnected
      | echo => exact others_of_session h _ _ id id id rfl h.offline
      | text _ _ => exact others_of_session h _ _ id id id rfl h.offline
      | fence _ _ => exact others_of_session h _ _ id id id rfl h.offline
      | ttsStarted _ haccepts =>
          simp only [refusesSpeech, Bool.or_eq_false_iff, decide_eq_false_iff_not] at haccepts
          obtain ⟨⟨⟨_, hstopped⟩, hstarting⟩, hfailed⟩ := haccepts
          refine others_of_session h _ _ nofun (fun h => absurd h hfailed) id rfl fun hoffline => ?_
          rcases (h.offline hoffline).1 with hdown | hdown | hdown
          · exact absurd hdown hstarting
          · exact absurd hdown hstopped
          · exact absurd hdown hfailed
      | ttsAborted _ hspeaking =>
          exact others_of_session h _ _ nofun (fun h => by simp [hspeaking] at h) id rfl
            fun hoffline => absurd hspeaking (h.offline hoffline).1.not_speaking
      | ttsStopped _ hspeaking =>
          exact others_of_session h _ _ nofun (fun h => by simp [hspeaking] at h) id rfl
            fun hoffline => absurd hspeaking (h.offline hoffline).1.not_speaking

/-! ## Sections and calls that matter little -/

/-- A section that leaves the state, the reservation and the audio as they are. -/
def LeavesCapture (write : VoiceSession → VoiceSession) : Prop :=
  ∀ s, (write s).state = s.state ∧ (write s).providerCaptureActive = s.providerCaptureActive ∧
    (write s).audioReady = s.audioReady

/-- A call that neither starts nor stops the provider's listening. -/
def PortCall.leavesListening : PortCall → Prop
  | .providerStartCapture _ => False
  | .providerStopCapture => False
  | .abort _ => False
  | _ => True

/-- Only the state, the reservation and the audio of the session matter. -/
def Tolerates (guarantee : World → World → Prop) (inv : World → Prop) : Prop :=
  ∀ w s, inv w → s.state = w.session.state →
    s.providerCaptureActive = w.session.providerCaptureActive →
    s.audioReady = w.session.audioReady → guarantee w { w with session := s } ∧ inv { w with session := s }

theorem setting_enter (write : VoiceSession → VoiceSession) :
    World.setting.enter write w = w.enter write := rfl

theorem enter_same {write : VoiceSession → VoiceSession}
    (hready : (write w.session).audioReady = w.session.audioReady) :
    w.enter write = { w with session := write w.session } := by
  unfold World.enter
  rw [hready]
  cases w.session.audioReady <;> simp

theorem issue_same {port : PortCall} (h : port.leavesListening) : w.issue port = w := by
  cases port with
  | providerStopCapture => exact h.elim
  | abort reason => exact h.elim
  | _ => rfl

theorem receive_same {port : PortCall} {reply : Reply} (h : port.leavesListening) :
    w.receive port reply = w := by
  cases port with
  | providerStartCapture mode => exact h.elim
  | _ => rfl

section Tolerates

variable {ρ : Type} {guarantee : World → World → Prop} {inv : World → Prop}
  (htolerates : Tolerates guarantee inv)
include htolerates

theorem respects_atomic {body : VoiceSession → ρ × VoiceSession}
    (h : LeavesCapture fun s => (body s).2) :
    (atomic body).Respects World.setting inv guarantee := by
  refine respects_atomically fun w hinv => ?_
  obtain ⟨hstate, hactive, hready⟩ := h w.session
  rw [setting_enter, enter_same hready]
  exact htolerates w _ hinv hstate hactive hready

theorem respects_ask {port : PortCall} (h : port.leavesListening) :
    (ask port).Respects World.setting inv guarantee := by
  have hsame : ∀ w, inv w → guarantee w w ∧ inv w := fun w hinv => htolerates w w.session hinv rfl rfl rfl
  refine ⟨fun w hinv => ?_, fun answer => ⟨fun w hinv => ?_, trivial⟩⟩
  · change guarantee w (w.issue port) ∧ inv (w.issue port)
    rw [issue_same h]
    exact hsame w hinv
  · change guarantee w (w.receive port answer) ∧ inv (w.receive port answer)
    rw [receive_same h]
    exact hsame w hinv

theorem respects_status {port : PortCall} (h : port.leavesListening) :
    (invoke port).Respects World.setting inv guarantee :=
  (respects_ask htolerates h).bind fun _ => respects_pure _

theorem respects_notify {port : PortCall} (h : port.leavesListening) :
    (notify port).Respects World.setting inv guarantee :=
  (respects_ask htolerates h).bind fun _ => respects_pure _

theorem respects_invokeIf {condition : Bool} {port : PortCall} (h : port.leavesListening) :
    (invokeIf condition port).Respects World.setting inv guarantee := by
  cases condition with
  | false => exact respects_pure _
  | true => exact respects_status htolerates h

theorem respects_emit (event detail : String) :
    (emit event detail).Respects World.setting inv guarantee :=
  (respects_atomic htolerates fun _ => ⟨rfl, rfl, rfl⟩).bind fun _ => respects_notify htolerates trivial

theorem respects_acquire {allowed : VoiceSession → Prop} [DecidablePred allowed]
    {read : VoiceSession → ρ} {write : VoiceSession → VoiceSession} (h : LeavesCapture write) :
    (acquire allowed read write).Respects World.setting inv guarantee := by
  refine respects_atomic htolerates fun s => ?_
  by_cases hallowed : allowed s
  · simp only [hallowed, if_true]
    exact h s
  · simp [hallowed]

end Tolerates

/-! ## Handlers -/

theorem tolerates_others : Tolerates Others Sound := by
  intro w s hinv hstate hactive hready
  refine others_of_session hinv s w.offline (fun h => hstate ▸ h) (fun h => hstate.trans h)
    (fun h => hactive ▸ h) hready fun hoffline => ?_
  obtain ⟨hdown, hfree⟩ := hinv.offline hoffline
  exact ⟨by unfold Down; rwa [hstate], hactive.trans hfree⟩

theorem failSpeaking_respects (generation : ℕ) :
    (update (failSpeaking generation)).Respects World.setting Sound Others := by
  refine respects_atomically fun w hinv => ?_
  by_cases hspeaking : w.session.generation = generation ∧ w.session.state = .speaking
  · have hwrite : failSpeaking generation w.session = w.session.failed := by
      rw [failSpeaking, if_pos hspeaking]
    change Others w (w.enter (failSpeaking generation)) ∧ Sound (w.enter (failSpeaking generation))
    rw [enter_same (by rw [hwrite]; rfl), hwrite]
    refine others_of_session hinv _ _ nofun (fun _ => rfl) id rfl fun hoffline => ?_
    exact absurd hspeaking.2 (hinv.offline hoffline).1.not_speaking
  · have hwrite : failSpeaking generation w.session = w.session := by
      rw [failSpeaking, if_neg hspeaking]
    change Others w (w.enter (failSpeaking generation)) ∧ Sound (w.enter (failSpeaking generation))
    rw [enter_same (by rw [hwrite]), hwrite]
    exact ⟨.refl w, hinv⟩

/-- A handler of an event leaves the capture as it is, or fails a session that speaks. -/
theorem finishEvent_respects (event : VoiceEvent) (effects : EventEffects) :
    (finishEvent event effects).Respects World.setting Sound Others := by
  unfold finishEvent reportEvent reportAborted reportKind reportTtsStarted requestPendingWakeWord
    requestPendingSpeech
  -- the programs are taken as they are written: unfolding them to match a rule is not wanted
  repeat' first
    | with_reducible_and_instances first
      | exact respects_pure _
      | exact respects_emit tolerates_others _ _
      | exact failSpeaking_respects _
      | refine respects_notify tolerates_others ?_
      | refine respects_status tolerates_others ?_
      | refine respects_invokeIf tolerates_others ?_
      | refine Respects.bind ?_ fun _ => ?_
    | split
    | exact respects_acquire tolerates_others fun _ => ⟨rfl, rfl, rfl⟩
    | exact respects_atomic tolerates_others fun _ => ⟨rfl, rfl, rfl⟩
    | exact trivial

/-! ## Operations -/

/-- What holds between operations: a session that reserves the provider or captures is listened to. -/
def Idle (w : World) : Prop :=
  (w.session.providerCaptureActive = true → w.listening = true ∨ w.session.state = .failed) ∧
    (w.session.state = .capturing → w.listening = true)

/-- The session has given up its capture. -/
def Settled (w : World) : Prop :=
  w.session.state ≠ .capturing ∧ w.session.providerCaptureActive = false

/-- The program is safe next to the events. -/
abbrev Outline {ρ : Type} (program : Program ρ) (w : World) : Prop :=
  program.Safe World.setting Others Sound Undisturbed Idle w

theorem idle_stable (w w' : World) (h : Idle w) (hothers : Others w w') : Idle w' := by
  refine ⟨fun hactive => ?_, fun hstate => ?_⟩
  · obtain ⟨hwas, hlistening⟩ := hothers.reserved hactive
    exact (h.1 hwas).imp hlistening hothers.failed
  · obtain ⟨hwas, hlistening⟩ := hothers.capturing hstate
    exact hlistening (h.2 hwas)

theorem settled_stable (w w' : World) (h : Settled w) (hothers : Others w w') : Settled w' :=
  ⟨fun hstate => h.1 (hothers.capturing hstate).1,
    Bool.eq_false_iff.2 fun hactive =>
      Bool.false_ne_true (h.2.symm.trans (hothers.reserved hactive).1)⟩

theorem Settled.idle (h : Settled w) : Idle w :=
  ⟨fun hactive => absurd (h.2.symm.trans hactive) Bool.false_ne_true, fun hstate => absurd hstate h.1⟩

theorem tolerates_idle : Tolerates (fun _ _ => True) fun w => Sound w ∧ Idle w := by
  intro w s hinv hstate hactive hready
  refine ⟨trivial, (tolerates_others w s hinv.1 hstate hactive hready).2, ?_, ?_⟩
  · exact fun h => (hinv.2.1 (hactive ▸ h)).imp id hstate.trans
  · exact fun h => hinv.2.2 (hstate ▸ h)

theorem tolerates_settled : Tolerates (fun _ _ => True) fun w => Sound w ∧ Settled w := by
  intro w s hinv hstate hactive hready
  refine ⟨trivial, (tolerates_others w s hinv.1 hstate hactive hready).2, ?_, hactive.trans hinv.2.2⟩
  exact fun h => hinv.2.1 (hstate ▸ h)

/-- A program that leaves a given-up capture alone. -/
theorem outline_of_settled {ρ : Type} {program : Program ρ}
    (h : program.Respects World.setting (fun w => Sound w ∧ Settled w) fun _ _ => True)
    (hsettled : Settled w) : Outline program w :=
  (h.safe settled_stable hsettled).imp fun _ => Settled.idle

theorem enter_congr {write write' : VoiceSession → VoiceSession} (h : write w.session = write' w.session) :
    w.enter write = w.enter write' := by
  unfold World.enter
  rw [h]

section Outline

variable {ρ τ : Type}

theorem outline_acquire {allowed : VoiceSession → Prop} [DecidablePred allowed]
    {read : VoiceSession → ρ} {write : VoiceSession → VoiceSession} {next : Option ρ → Program τ}
    (hyes : ∀ w', Sound w' → Others w w' → allowed w'.session →
      Sound (w'.enter write) ∧ Outline (next (some (read w'.session))) (w'.enter write))
    (hno : ∀ w', Sound w' → Others w w' → Outline (next none) w') :
    Outline (acquire allowed read write >>= next) w := by
  intro w' hinv hothers _
  by_cases hallowed : allowed w'.session
  · have hwrite : w'.enter (fun s => (if allowed s then (some (read s), write s) else (none, s)).2) =
        w'.enter write := enter_congr (by simp [hallowed])
    rw [setting_enter, hwrite]
    simp only [World.setting, hallowed, if_true]
    exact hyes w' hinv hothers hallowed
  · have hwrite : w'.enter (fun s => (if allowed s then (some (read s), write s) else (none, s)).2) = w' :=
      (enter_same (by simp [hallowed])).trans (by simp [hallowed])
    rw [setting_enter, hwrite]
    simp only [World.setting, hallowed, if_false]
    exact ⟨hinv, hno w' hinv hothers⟩

theorem outline_peek {read : VoiceSession → ρ} {next : ρ → Program τ}
    (h : ∀ w', Sound w' → Others w w' → Outline (next (read w'.session)) w') :
    Outline (peek read >>= next) w := by
  intro w' hinv hothers _
  have hwrite : w'.enter (fun s => (read s, s).2) = w' := enter_same rfl
  rw [setting_enter, hwrite]
  exact ⟨hinv, h w' hinv hothers⟩

theorem outline_update {write : VoiceSession → VoiceSession} {next : Unit → Program τ}
    (h : ∀ w', Sound w' → Others w w' → Undisturbed write w' →
      Sound (w'.enter write) ∧ Outline (next ()) (w'.enter write)) :
    Outline (update write >>= next) w :=
  h

theorem outline_atomic {body : VoiceSession → ρ × VoiceSession} {next : ρ → Program τ}
    (h : ∀ w', Sound w' → Others w w' → Undisturbed (fun s => (body s).2) w' →
      Sound (w'.enter fun s => (body s).2) ∧
        Outline (next (body w'.session).1) (w'.enter fun s => (body s).2)) :
    Outline (atomic body >>= next) w :=
  h

theorem outline_status {port : PortCall} {next : Status → Program τ}
    (h : ∀ w', Sound w' → Others w w' → Sound (w'.issue port) ∧
      ∀ w'', Sound w'' → Others (w'.issue port) w'' → ∀ reply, Sound (w''.receive port reply) ∧
        Outline (next reply.status) (w''.receive port reply)) :
    Outline (invoke port >>= next) w :=
  h

theorem outline_ask_same {port : PortCall} {next : Reply → Program τ} (hport : port.leavesListening)
    (h : ∀ w', Sound w' → Others w w' → ∀ reply, Outline (next reply) w') :
    Outline (ask port >>= next) w := by
  intro w' hinv hothers
  change Sound (w'.issue port) ∧ ∀ w'', Sound w'' → Others (w'.issue port) w'' →
    ∀ reply, Sound (w''.receive port reply) ∧ Outline (next reply) (w''.receive port reply)
  rw [issue_same hport]
  refine ⟨hinv, fun w'' hinv' hothers' reply => ?_⟩
  rw [receive_same hport]
  exact ⟨hinv', h w'' hinv' (hothers.trans hothers') reply⟩

theorem outline_status_same {port : PortCall} {next : Status → Program τ}
    (hport : port.leavesListening)
    (h : ∀ w', Sound w' → Others w w' → ∀ status, Outline (next status) w') :
    Outline (invoke port >>= next) w :=
  outline_ask_same hport fun w' hinv hothers reply => h w' hinv hothers reply.status

theorem outline_notify_same {port : PortCall} {next : Unit → Program τ}
    (hport : port.leavesListening) (h : ∀ w', Sound w' → Others w w' → Outline (next ()) w') :
    Outline (notify port >>= next) w :=
  outline_ask_same hport fun w' hinv hothers _ => h w' hinv hothers

end Outline

theorem respects_failed :
    (update failed).Respects World.setting (fun w => Sound w ∧ Settled w) fun _ _ => True := by
  refine respects_atomically fun w hinv => ⟨trivial, ?_⟩
  have hwrite : w.enter failed = { w with session := w.session.failed } := enter_same rfl
  change Sound (w.enter failed) ∧ Settled (w.enter failed)
  rw [hwrite]
  refine ⟨⟨nofun, fun hoffline => ⟨Or.inr (Or.inr rfl), ?_⟩⟩, nofun, hinv.2.2⟩
  exact (hinv.1.offline hoffline).2

theorem respects_fail (event : String) (status : Status) :
    (fail event status).Respects World.setting (fun w => Sound w ∧ Settled w) fun _ _ => True :=
  respects_failed.bind fun _ => (respects_emit tolerates_settled _ _).bind fun _ => respects_pure _

theorem respects_abort (reason : String) :
    (invoke (.abort reason)).Respects World.setting (fun w => Sound w ∧ Settled w) fun _ _ => True := by
  refine ⟨fun w hinv => ⟨trivial, ?_, hinv.2⟩, fun reply => ⟨fun w hinv => ⟨trivial, hinv⟩, trivial⟩⟩
  exact ⟨fun hstate => absurd hstate hinv.2.1, hinv.1.offline⟩

theorem respects_abortIf (condition : Bool) (reason : String) :
    (invokeIf condition (.abort reason)).Respects World.setting (fun w => Sound w ∧ Settled w)
      fun _ _ => True := by
  cases condition with
  | false => exact respects_pure _
  | true => exact respects_abort reason

theorem speak_outline (text : String) (h : Idle w) : Outline (speak text) w := by
  refine Respects.safe idle_stable ?_ h
  unfold speak
  repeat' first
    | exact respects_pure _
    | exact respects_status tolerates_idle trivial
    | exact respects_acquire tolerates_idle fun _ => ⟨rfl, rfl, rfl⟩
    | exact respects_atomic tolerates_idle fun _ => ⟨rfl, rfl, rfl⟩
    | refine Respects.bind ?_ fun _ => ?_
    | split

theorem notifyLocalWakeWord_outline (wakeWord textResponse : String) (h : Idle w) :
    Outline (notifyLocalWakeWord wakeWord textResponse) w := by
  refine Respects.safe idle_stable ?_ h
  unfold notifyLocalWakeWord
  repeat' first
    | exact respects_pure _
    | exact respects_emit tolerates_idle _ _
    | exact respects_status tolerates_idle trivial
    | exact respects_acquire tolerates_idle fun _ => ⟨rfl, rfl, rfl⟩
    | exact respects_atomic tolerates_idle fun _ => ⟨rfl, rfl, rfl⟩
    | refine Respects.bind ?_ fun _ => ?_
    | split

/-- An interrupt gives up the capture. -/
theorem enter_interrupted (hinv : Sound w) (hcan : Down w.session → w.session.providerCaptureActive = true)
    (write : VoiceSession → VoiceSession) (hstate : (write w.session).state = .ready)
    (hactive : (write w.session).providerCaptureActive = false)
    (hready : (write w.session).audioReady = w.session.audioReady) :
    Sound (w.enter write) ∧ Settled (w.enter write) := by
  rw [enter_same hready]
  refine ⟨⟨fun h => by simp [hstate] at h, fun hoffline => ?_⟩, fun h => by simp [hstate] at h, hactive⟩
  obtain ⟨hdown, hfree⟩ := hinv.offline hoffline
  exact absurd (hfree.symm.trans (hcan hdown)) Bool.false_ne_true

theorem outline_pure {ρ : Type} (result : ρ) (h : Idle w) : Outline (pure result) w :=
  fun w' _ hothers => idle_stable w w' h hothers

theorem interrupt_outline (h : Idle w) : Outline interrupt w := by
  refine outline_acquire (fun w' hinv hothers hcan => ?_)
    fun w' _ hothers => outline_pure _ (idle_stable w w' h hothers)
  obtain ⟨hsound, hsettled⟩ := enter_interrupted hinv (fun hdown => by
    rcases hcan with hstate | hstate | hstate | hactive
    · exact absurd hstate hdown.not_capturing
    · exact absurd hstate hdown.not_speaking
    · exact absurd hstate.1 hdown.not_ready
    · exact hactive) interrupted rfl rfl rfl
  refine ⟨hsound, outline_of_settled ?_ hsettled⟩
  repeat' first
    | with_reducible_and_instances first
      | exact respects_pure _
      | exact respects_emit tolerates_settled _ _
      | exact respects_abort _
      | refine respects_notify tolerates_settled ?_
      | refine respects_status tolerates_settled ?_
      | refine respects_invokeIf tolerates_settled ?_
      | refine Respects.bind ?_ fun _ => ?_
    | split
    | exact trivial

theorem interruptAndNotifyLocalWakeWord_outline (wakeWord textResponse : String) (h : Idle w) :
    Outline (interruptAndNotifyLocalWakeWord wakeWord textResponse) w := by
  unfold interruptAndNotifyLocalWakeWord
  split
  · exact outline_pure _ h
  · refine outline_acquire (fun w' hinv hothers hcan => ?_)
      fun w' _ hothers => outline_pure _ (idle_stable w w' h hothers)
    obtain ⟨hsound, hsettled⟩ := enter_interrupted hinv (fun hdown =>
      (hcan.elim hdown.not_capturing hdown.not_speaking).elim)
        (fun s => s.interrupted.setPendingWakeWord wakeWord textResponse) rfl rfl rfl
    refine ⟨hsound, outline_of_settled ?_ hsettled⟩
    unfold confirmAtOnce
    repeat' first
      | with_reducible_and_instances first
        | exact respects_pure _
        | exact respects_emit tolerates_settled _ _
        | exact respects_abort _
        | refine respects_notify tolerates_settled ?_
        | refine respects_status tolerates_settled ?_
        | refine respects_invokeIf tolerates_settled ?_
        | refine Respects.bind ?_ fun _ => ?_
      | split
      | exact respects_atomic tolerates_settled fun _ => ⟨rfl, rfl, rfl⟩
      | exact trivial

theorem interruptAndSpeak_outline (text : String) (h : Idle w) : Outline (interruptAndSpeak text) w := by
  unfold interruptAndSpeak
  split
  · exact outline_pure _ h
  · refine outline_acquire (fun w' hinv hothers hcan => ?_)
      fun w' _ hothers => outline_pure _ (idle_stable w w' h hothers)
    obtain ⟨hsound, hsettled⟩ := enter_interrupted hinv (fun hdown =>
      (hcan.elim hdown.not_ready fun hcan => hcan.elim hdown.not_capturing hdown.not_speaking).elim)
        (fun s => s.interrupted.setPendingSpeech text) rfl rfl rfl
    refine ⟨hsound, outline_of_settled ?_ hsettled⟩
    unfold speakAtOnce
    repeat' first
      | with_reducible_and_instances first
        | exact respects_pure _
        | exact respects_emit tolerates_settled _ _
        | exact respects_abortIf _ _
        | refine respects_notify tolerates_settled ?_
        | refine respects_status tolerates_settled ?_
        | refine respects_invokeIf tolerates_settled ?_
        | refine Respects.bind ?_ fun _ => ?_
      | split
      | exact respects_atomic tolerates_settled fun _ => ⟨rfl, rfl, rfl⟩
      | exact trivial

theorem stop_outline (h : Idle w) : Outline stop w := by
  refine outline_acquire (fun w' hinv hothers _ => ?_)
    fun w' _ hothers => outline_pure _ (idle_stable w w' h hothers)
  have hsound : Sound (w'.enter stopped) :=
    ⟨nofun, fun _ => ⟨Or.inr (Or.inl rfl), rfl⟩⟩
  refine ⟨hsound, outline_of_settled ?_ ⟨nofun, rfl⟩⟩
  repeat' first
    | exact respects_pure _
    | exact respects_emit tolerates_settled _ _
    | exact respects_fail _ _
    | exact respects_notify tolerates_settled trivial
    | exact respects_status tolerates_settled trivial
    | refine Respects.bind ?_ fun _ => ?_
    | split

/-! ## `Start` -/

/-- `Start` has not opened the audio. -/
def Opening (w : World) : Prop :=
  Settled w ∧ w.session.audioReady = false

theorem opening_stable (w w' : World) (h : Opening w) (hothers : Others w w') : Opening w' :=
  ⟨settled_stable w w' h.1 hothers, hothers.audioReady.trans h.2⟩

theorem openAudio_outline (formats : VoiceAudioFormats) (h : Opening w) :
    Outline (openAudio formats) w := by
  refine outline_update fun w₁ hinv₁ hothers₁ _ => ?_
  have hwrite : w₁.enter (setAudioFormats formats) =
      { w₁ with session := w₁.session.setAudioFormats formats } := enter_same rfl
  have hopening : Opening (w₁.enter (setAudioFormats formats)) := by
    rw [hwrite]
    exact opening_stable w w₁ h hothers₁
  have hsound : Sound (w₁.enter (setAudioFormats formats)) := by
    rw [hwrite]
    exact ⟨hinv₁.capturing, hinv₁.offline⟩
  refine ⟨hsound, outline_notify_same trivial fun w₂ _ hothers₂ => ?_⟩
  refine outline_status_same trivial fun w₃ _ hothers₃ status => ?_
  have hopening₃ : Opening w₃ := opening_stable _ w₃ hopening (hothers₂.trans hothers₃)
  split
  · refine outline_of_settled ?_ hopening₃.1
    repeat' first
      | exact respects_fail _ _
      | exact respects_notify tolerates_settled trivial
      | refine Respects.bind ?_ fun _ => ?_
  · refine outline_status_same trivial fun w₄ _ hothers₄ status => ?_
    have hopening₄ : Opening w₄ := opening_stable _ w₄ hopening₃ hothers₄
    split
    · refine outline_of_settled ?_ hopening₄.1
      repeat' first
        | exact respects_fail _ _
        | exact respects_notify tolerates_settled trivial
        | refine Respects.bind ?_ fun _ => ?_
    · refine outline_update fun w₅ hinv₅ hothers₅ _ => ?_
      have hopening₅ : Opening w₅ := opening_stable _ w₅ hopening₄ hothers₅
      have honline : (w₅.enter started).offline = false := by
        simp [World.enter, hopening₅.2, started]
      refine ⟨⟨nofun, fun hoffline => absurd (honline.symm.trans hoffline) Bool.false_ne_true⟩,
        outline_of_settled ?_ ⟨nofun, hopening₅.1.2⟩⟩
      repeat' first
        | exact respects_pure _
        | exact respects_ask tolerates_settled trivial
        | exact respects_emit tolerates_settled _ _
        | refine Respects.bind ?_ fun _ => ?_

theorem negotiate_outline (h : Opening w) : Outline negotiate w := by
  refine outline_ask_same trivial fun w' _ hothers negotiated => ?_
  have hopening : Opening w' := opening_stable w w' h hothers
  split
  · refine outline_of_settled ?_ hopening.1
    repeat' first
      | exact respects_fail _ _
      | exact respects_notify tolerates_settled trivial
      | refine Respects.bind ?_ fun _ => ?_
  · exact openAudio_outline _ hopening

theorem start_outline (config : VoiceSessionConfig) (h : Idle w) : Outline (start config) w := by
  unfold start
  split
  · exact outline_pure _ h
  · refine outline_ask_same trivial fun w₁ _ hothers₁ capabilities => ?_
    have hidle : Idle w₁ := idle_stable w w₁ h hothers₁
    split
    · exact outline_pure _ hidle
    · refine outline_acquire (fun w₂ hinv₂ hothers₂ _ => ?_)
        fun w₂ _ hothers₂ => outline_pure _ (idle_stable w₁ w₂ hidle hothers₂)
      have hsound : Sound (w₂.enter (starting config)) :=
        ⟨nofun, fun _ => ⟨Or.inl rfl, rfl⟩⟩
      have hopening : Opening (w₂.enter (starting config)) := ⟨⟨nofun, rfl⟩, rfl⟩
      refine ⟨hsound, outline_notify_same trivial fun w₃ _ hothers₃ => ?_⟩
      refine outline_peek fun w₄ _ hothers₄ => ?_
      refine outline_status_same trivial fun w₅ _ hothers₅ status => ?_
      have hopening₅ : Opening w₅ :=
        opening_stable _ w₅ hopening ((hothers₃.trans hothers₄).trans hothers₅)
      split
      · refine outline_of_settled ?_ hopening₅.1
        repeat' first
          | exact respects_fail _ _
          | exact respects_notify tolerates_settled trivial
          | refine Respects.bind ?_ fun _ => ?_
      · exact negotiate_outline hopening₅

/-! ## Capture -/

/-- The provider has been asked to listen, and has accepted unless a connection was lost meanwhile. -/
def Reserved (w : World) : Prop :=
  w.session.state ≠ .capturing ∧ (w.missed = false → w.listening = true)

theorem reserved_stable (w w' : World) (h : Reserved w) (hothers : Others w w') : Reserved w' := by
  refine ⟨fun hstate => h.1 (hothers.capturing hstate).1, fun hmissed => ?_⟩
  obtain ⟨hwas, hlistening⟩ := hothers.missed hmissed
  exact hlistening (h.2 hwas)

/-- A section that gives up a capture that has not begun. -/
theorem enter_released (hinv : Sound w) (hstate : w.session.state ≠ .capturing)
    (write : VoiceSession → VoiceSession) (hsame : (write w.session).state = w.session.state)
    (hactive : (write w.session).providerCaptureActive = false)
    (hready : (write w.session).audioReady = w.session.audioReady) :
    Sound (w.enter write) ∧ Settled (w.enter write) := by
  rw [enter_same hready]
  refine ⟨⟨fun h => absurd (hsame.symm.trans h) hstate, fun hoffline => ⟨?_, hactive⟩⟩,
    fun h => hstate (hsame.symm.trans h), hactive⟩
  unfold Down
  rw [hsame]
  exact (hinv.offline hoffline).1

theorem enter_reserveCapture (hinv : Sound w) (hready : w.session.state = .ready) :
    w.enter reserveCapture = { w with session := w.session.reserveCapture } ∧
      Sound (w.enter reserveCapture) := by
  have hwrite : w.enter reserveCapture = { w with session := w.session.reserveCapture } := enter_same rfl
  refine ⟨hwrite, ?_⟩
  rw [hwrite]
  exact ⟨hinv.capturing, fun hoffline => absurd hready (hinv.offline hoffline).1.not_ready⟩

theorem beginProviderCapture_outline (h : Idle w) : Outline beginProviderCapture w := by
  refine outline_acquire (fun w₁ hinv₁ hothers₁ hready => ?_)
    fun w₁ _ hothers₁ => outline_pure _ (idle_stable w w₁ h hothers₁)
  obtain ⟨hwrite, hsound⟩ := enter_reserveCapture hinv₁ hready
  refine ⟨hsound, ?_⟩
  have hidle : Idle w₁ := idle_stable w w₁ h hothers₁
  cases hactive : w₁.session.providerCaptureActive with
  | true =>
      refine outline_pure _ ⟨fun _ => ?_, fun hstate => ?_⟩
      · rw [hwrite]
        exact hidle.1 hactive
      · rw [hwrite] at hstate
        exact absurd (hready.symm.trans hstate) nofun
  | false =>
      refine outline_status fun w₂ hinv₂ hothers₂ => ⟨hinv₂, fun w₃ hinv₃ hothers₃ reply => ?_⟩
      have hstate : w₃.session.state ≠ .capturing := fun hcapturing => by
        have hwas := (hothers₂.capturing (hothers₃.capturing hcapturing).1).1
        rw [hwrite] at hwas
        exact absurd (hready.symm.trans hwas) nofun
      cases hok : reply.status.ok with
      | false =>
          simp only [World.receive, hok, Bool.false_eq_true, if_false, Bool.not_false, if_true]
          refine ⟨hinv₃, outline_update fun w₄ hinv₄ hothers₄ _ => ?_⟩
          obtain ⟨hsound₄, hsettled⟩ := enter_released hinv₄
            (fun h => hstate (hothers₄.capturing h).1) captureDropped rfl rfl rfl
          exact ⟨hsound₄, outline_pure _ hsettled.idle⟩
      | true =>
          simp only [World.receive, hok, if_true, Bool.not_true, Bool.false_eq_true, if_false]
          refine ⟨⟨fun h => absurd h hstate, hinv₃.offline⟩, ?_⟩
          refine Respects.safe idle_stable ?_ ⟨fun _ => Or.inl rfl, fun _ => rfl⟩
          exact (respects_emit tolerates_idle _ _).bind fun _ => respects_pure _

theorem beginInputCapture_outline (mode : VoiceMode) (h : Reserved w) :
    Outline (beginInputCapture mode) w := by
  refine outline_status_same trivial fun w₁ _ hothers₁ inputStatus => ?_
  have hreserved : Reserved w₁ := reserved_stable w w₁ h hothers₁
  split
  · refine outline_update fun w₂ _ hothers₂ hundisturbed => ?_
    obtain ⟨honline, hmissed⟩ := hundisturbed.1 rfl
    have hlistening : w₂.listening = true := (reserved_stable w₁ w₂ hreserved hothers₂).2 hmissed
    have hwrite : w₂.enter captureStarted = { w₂ with session := w₂.session.captureStarted } :=
      enter_same rfl
    rw [hwrite]
    refine ⟨⟨fun _ => Or.inl hlistening, fun hoffline => ?_⟩, ?_⟩
    · exact absurd (honline.symm.trans hoffline) Bool.false_ne_true
    · refine Respects.safe idle_stable ?_ ⟨fun _ => Or.inl hlistening, fun _ => hlistening⟩
      exact (respects_emit tolerates_idle _ _).bind fun _ => respects_pure _
  · refine outline_status fun w₂ hinv₂ hothers₂ => ⟨⟨fun _ => Or.inr rfl, hinv₂.offline⟩, ?_⟩
    refine fun w₃ hinv₃ hothers₃ rollback => ⟨hinv₃, outline_update fun w₄ hinv₄ hothers₄ _ => ?_⟩
    have hstate : w₄.session.state ≠ .capturing := fun hcapturing =>
      hreserved.1 (hothers₂.capturing (hothers₃.capturing (hothers₄.capturing hcapturing).1).1).1
    obtain ⟨hsound, hsettled⟩ := enter_released hinv₄ hstate captureDropped rfl rfl rfl
    refine ⟨hsound, outline_of_settled ?_ hsettled⟩
    split
    · exact respects_fail _ _
    · exact respects_pure _

theorem beginCapture_outline (h : Idle w) : Outline beginCapture w := by
  refine outline_acquire (fun w₁ hinv₁ hothers₁ hready => ?_)
    fun w₁ _ hothers₁ => outline_pure _ (idle_stable w w₁ h hothers₁)
  obtain ⟨hwrite, hsound⟩ := enter_reserveCapture hinv₁ hready
  refine ⟨hsound, ?_⟩
  have hidle : Idle w₁ := idle_stable w w₁ h hothers₁
  have hstate₁ : (w₁.enter reserveCapture).session.state ≠ .capturing := by
    rw [hwrite]
    exact fun hcapturing => absurd (hready.symm.trans hcapturing) nofun
  cases hactive : w₁.session.providerCaptureActive with
  | true =>
      refine beginInputCapture_outline _ ⟨hstate₁, fun _ => ?_⟩
      rw [hwrite]
      refine (hidle.1 hactive).resolve_right fun hfailed => ?_
      exact absurd (hready.symm.trans hfailed) nofun
  | false =>
      refine outline_status fun w₂ hinv₂ hothers₂ => ⟨hinv₂, fun w₃ hinv₃ hothers₃ reply => ?_⟩
      have hstate : w₃.session.state ≠ .capturing := fun hcapturing =>
        hstate₁ (hothers₂.capturing (hothers₃.capturing hcapturing).1).1
      cases hok : reply.status.ok with
      | false =>
          simp only [World.receive, hok, Bool.false_eq_true, if_false, Bool.not_false, if_true]
          refine ⟨hinv₃, outline_update fun w₄ hinv₄ hothers₄ _ => ?_⟩
          obtain ⟨hsound₄, hsettled⟩ := enter_released hinv₄
            (fun h => hstate (hothers₄.capturing h).1) releaseCapture rfl rfl rfl
          exact ⟨hsound₄, outline_pure _ hsettled.idle⟩
      | true =>
          simp only [World.receive, hok, if_true, Bool.not_true, Bool.false_eq_true, if_false]
          exact ⟨⟨fun h => absurd h hstate, hinv₃.offline⟩,
            beginInputCapture_outline _ ⟨hstate, fun _ => rfl⟩⟩

/-- A section that ends a capture while no connection is lost. -/
theorem enter_ended (honline : w.offline = false) (write : VoiceSession → VoiceSession)
    (hstate : (write w.session).state = .ready)
    (hactive : (write w.session).providerCaptureActive = false) :
    Sound (w.enter write) ∧ Settled (w.enter write) := by
  refine ⟨⟨fun h => absurd (hstate.symm.trans h) nofun, fun hoffline => ?_⟩,
    fun h => absurd (hstate.symm.trans h) nofun, hactive⟩
  simp [World.enter, honline] at hoffline

theorem endCapture_outline (h : Idle w) : Outline endCapture w := by
  refine outline_peek fun w₁ _ hothers₁ => ?_
  have hidle : Idle w₁ := idle_stable w w₁ h hothers₁
  cases w₁.session.endRefusal with
  | some status => exact outline_pure _ hidle
  | none =>
      refine outline_status_same trivial fun w₂ _ hothers₂ inputStatus => ?_
      refine outline_status fun w₃ hinv₃ hothers₃ => ⟨⟨fun _ => Or.inr rfl, hinv₃.offline⟩, ?_⟩
      refine fun w₄ hinv₄ hothers₄ reply => ⟨hinv₄, ?_⟩
      split
      · refine outline_update fun w₅ _ _ hundisturbed => ?_
        obtain ⟨hsound, hsettled⟩ := enter_ended (hundisturbed.2 (Or.inl rfl)) captureEnded rfl rfl
        refine ⟨hsound, outline_of_settled ?_ hsettled⟩
        exact (respects_emit tolerates_settled _ _).bind fun _ => respects_pure _
      · split
        · refine outline_atomic fun w₅ _ _ hundisturbed => ?_
          obtain ⟨hsound, hsettled⟩ :=
            enter_ended (hundisturbed.2 (Or.inr rfl)) captureInvalidated rfl rfl
          refine ⟨hsound, outline_of_settled ?_ hsettled⟩
          refine Respects.bind (respects_notify tolerates_settled ?_) fun _ => ?_
          · trivial
          · exact (respects_emit tolerates_settled _ _).bind fun _ => respects_pure _
        · refine outline_update fun w₅ hinv₅ _ _ => ?_
          have hwrite : w₅.enter failed = { w₅ with session := w₅.session.failed } := enter_same rfl
          rw [hwrite]
          refine ⟨⟨nofun, fun hoffline => ⟨Or.inr (Or.inr rfl), (hinv₅.offline hoffline).2⟩⟩, ?_⟩
          refine Respects.safe idle_stable ?_ ⟨fun _ => Or.inr rfl, nofun⟩
          exact (respects_emit tolerates_idle _ _).bind fun _ => respects_pure _

theorem operation_outline (op : Operation) (h : Idle w) : Outline op.program w := by
  cases op with
  | start config => exact start_outline config h
  | beginProviderCapture => exact beginProviderCapture_outline h
  | beginCapture => exact beginCapture_outline h
  | endCapture => exact endCapture_outline h
  | speak text => exact speak_outline text h
  | notifyLocalWakeWord wakeWord textResponse => exact notifyLocalWakeWord_outline wakeWord textResponse h
  | interrupt => exact interrupt_outline h
  | interruptAndNotifyLocalWakeWord wakeWord textResponse =>
      exact interruptAndNotifyLocalWakeWord_outline wakeWord textResponse h
  | interruptAndSpeak text => exact interruptAndSpeak_outline text h
  | stop => exact stop_outline h

/-! ## Runs -/

/-- The operation under way is safe next to the events, and the handlers are what it expects. -/
structure SystemSound (system : System) : Prop where
  world : Sound system.world
  idle : system.operation = none → Idle system.world
  operation : ∀ position, system.operation = some position →
    position.Safe World.setting Others Sound Undisturbed Idle system.world
  handlers : ∀ position ∈ system.handlers, position.Respects World.setting Sound Others

variable {system : System}

/-- An event or a handler keeps what the operation under way relies on. -/
theorem SystemSound.others (h : SystemSound system) (world : World)
    (handlers : List (Position VoiceSession PortCall (fun _ => Reply) Unit))
    (hothers : Others system.world world) (hworld : Sound world)
    (hhandlers : ∀ position ∈ handlers, position.Respects World.setting Sound Others) :
    SystemSound { system with world := world, handlers := handlers } where
  world := hworld
  idle hnone := idle_stable _ _ (h.idle hnone) hothers
  operation position hposition := (h.operation position hposition).later (fun _ _ _ => .trans) hothers
  handlers := hhandlers

theorem deliver_systemSound (event : VoiceEvent) (h : SystemSound system) :
    SystemSound (system.deliver event) := by
  obtain ⟨hothers, hworld⟩ := deliver_others event h.world
  refine h.others _ _ hothers hworld fun position hposition => ?_
  rcases List.mem_append.1 hposition with hold | hnew
  · exact h.handlers position hold
  · rw [List.mem_singleton.1 hnew]
    exact finishEvent_respects event _

theorem handle_systemSound (index : ℕ) (reply : Reply) (h : SystemSound system) :
    SystemSound (system.handle index reply) := by
  unfold System.handle
  split
  · exact h
  · rename_i position hposition
    obtain ⟨hothers, hworld, hnext⟩ := Position.Respects.turn Others.refl
      (h.handlers position (List.mem_of_getElem? hposition)) h.world fun _ => reply
    refine h.others _ _ hothers hworld fun other hother => ?_
    rcases List.mem_or_eq_of_mem_set hother with hold | rfl
    · exact h.handlers other hold
    · exact hnext

theorem begin_systemSound (op : Operation) (h : SystemSound system) :
    SystemSound (system.begin op) := by
  unfold System.begin
  split
  · rename_i hnone
    refine ⟨⟨h.world.capturing, h.world.offline⟩, nofun, ?_, h.handlers⟩
    rintro _ ⟨⟩
    exact operation_outline op (h.idle hnone)
  · exact h

theorem turn_systemSound (reply : Reply) (h : SystemSound system)
    (hok : UndisturbedStep system (.turn reply)) : SystemSound (system.turn reply) := by
  unfold System.turn
  split
  · exact h
  · rename_i position hposition
    obtain ⟨hworld, hnext⟩ := Position.Safe.turn Others.refl (h.operation position hposition) h.world
      (hok position hposition) fun _ => reply
    refine ⟨hworld, nofun, ?_, h.handlers⟩
    rintro _ ⟨⟩
    exact hnext

theorem finish_systemSound (h : SystemSound system) : SystemSound system.finish := by
  unfold System.finish
  split
  · rename_i status hdone
    have hidle : Idle system.world := h.operation _ hdone _ h.world (.refl _)
    refine ⟨⟨fun hstate => Or.inl (hidle.2 hstate), h.world.offline⟩, fun _ => hidle, nofun, h.handlers⟩
  · exact h

theorem step_systemSound (system : System) (choice : Choice) (h : SystemSound system)
    (hok : UndisturbedStep system choice) : SystemSound (system.step choice) := by
  cases choice with
  | begin op => exact begin_systemSound op h
  | turn reply => exact turn_systemSound reply h hok
  | finish => exact finish_systemSound h
  | deliver event => exact deliver_systemSound event h
  | handle index reply => exact handle_systemSound index reply h

theorem systemSound_start : SystemSound {} where
  world := ⟨nofun, nofun⟩
  idle _ := ⟨nofun, nofun⟩
  operation := nofun
  handlers := nofun

theorem SystemSound.keepsDisconnect (h : SystemSound system) : KeepsDisconnect system :=
  ⟨h.world.capturing, fun hoffline => (h.world.offline hoffline).1⟩

/-- A disconnect is not lost in a run in which none comes in the midst of `BeginCapture` or `EndCapture`. -/
theorem keepsDisconnect_of_allSteps (choices : List Choice)
    (hok : Run.AllSteps System.step UndisturbedStep {} choices) :
    Run.AllStates System.step KeepsDisconnect {} choices :=
  fun done hdone => (Run.allStates_of_step step_systemSound systemSound_start hok done hdone).keepsDisconnect

/-- A step of a run in which no connection has been lost. -/
theorem undisturbedStep_of_online (system : System) (choice : Choice)
    (h : system.world.offline = false ∧ system.world.missed = false) : UndisturbedStep system choice := by
  cases choice with
  | turn reply =>
      intro position _
      unfold Position.Allowed
      split
      · exact ⟨fun _ => h, fun _ => h.1⟩
      · trivial
  | _ => trivial

/-- What willing ports answer. -/
def grant : Reply :=
  { providerId := "provider" }

/-- A session that starts. -/
def startedSystem : List Choice :=
  [Choice.begin (.start { sessionId := "session", providerId := "provider" })] ++
    List.replicate 26 (Choice.turn grant) ++ [Choice.finish]

/-- A session that starts and captures. -/
def capturingSystem : List Choice :=
  startedSystem ++ [Choice.begin .beginCapture] ++ List.replicate 9 (Choice.turn grant) ++
    [Choice.finish]

/-- `EndCapture` up to its `StopCapture`. -/
def endingSystem : List Choice :=
  capturingSystem ++ [Choice.begin .endCapture] ++ List.replicate 4 (Choice.turn grant)

/-- A connection that is lost while `BeginCapture` starts the input. -/
def lostSystem : List Choice :=
  startedSystem ++ [Choice.begin .beginCapture] ++ List.replicate 4 (Choice.turn grant) ++
    [Choice.deliver { kind := .disconnected, generation := 1 }] ++ List.replicate 2 (Choice.turn grant)

/-- The connection is lost during a capture. -/
theorem disconnect_ends_capture :
    Run.AllStates System.step KeepsDisconnect {}
      (capturingSystem ++ [.deliver { kind := .disconnected, generation := 1 }]) :=
  keepsDisconnect_of_allSteps _ (Run.allSteps_append.2
    ⟨Run.AllSteps.imp undisturbedStep_of_online (by decide +kernel), trivial, trivial⟩)

/-- `EndCapture` tells the provider to stop before it leaves the capture, and `BeginCapture` overlooks a
connection that is lost. -/
theorem capture_without_listening :
    ((Run.run System.step {} endingSystem).world.session.state = .capturing ∧
      (Run.run System.step {} endingSystem).world.listening = false) ∧
    ((Run.run System.step {} lostSystem).world.session.state = .capturing ∧
      (Run.run System.step {} lostSystem).world.offline = true ∧
      (Run.run System.step {} lostSystem).world.listening = false) := by
  decide +kernel

end VoiceLife.Voice
