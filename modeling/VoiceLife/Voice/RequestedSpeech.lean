import VoiceLife.Voice.SessionRuns

/-! # Requested speech

A request for speech that is answered with success is followed by the speech, once the end of an
interrupted playback has passed. `Speak` and `NotifyLocalWakeWord` break this while the fence of an earlier
interrupt is pending: the end of the old playback then clears the new request.
-/

namespace VoiceLife.Voice

open Process VoiceSession

variable {s s' : VoiceSession} {answers : Answers} {calls : List PortCall}

/-- The operation requests speech. -/
def Operation.requestsSpeech : Operation → Bool
  | .speak _ => true
  | .notifyLocalWakeWord _ _ => true
  | .interruptAndNotifyLocalWakeWord _ _ => true
  | .interruptAndSpeak _ => true
  | _ => false

/-- The operation interrupts. -/
def Operation.interrupts : Operation → Bool
  | .interrupt => true
  | .interruptAndNotifyLocalWakeWord _ _ => true
  | .interruptAndSpeak _ => true
  | _ => false

/-- The input interrupts a playback. -/
def InterruptsPlayback (s : VoiceSession) : Input → Prop
  | .operation op answers =>
      op.interrupts = true ∧ s.state = .speaking ∧
        (step s (.operation op answers)).generation ≠ s.generation
  | _ => False

/-- The input delivers the end of a playback, or ends the connection. -/
def EndsPlayback (s : VoiceSession) : Input → Prop
  | .event received _ =>
      received.generation = s.generation ∧
        (received.kind = .ttsStopped ∨ s.acceptsDisconnected received = true)
  | .operation (.start config) answers =>
      (step s (.operation (.start config) answers)).generation ≠ s.generation
  | .operation .stop _ => s.state ≠ .stopped
  | _ => False

/-- The end of an interrupted playback has not been delivered. -/
def OwesStop (inputs : List Input) : Prop :=
  Run.Since step InterruptsPlayback EndsPlayback {} inputs

/-- Every request for speech among the calls succeeds. -/
def Granted (answers : Answers) (calls : List PortCall) : Prop :=
  ∀ call ∈ calls, call.requestsSpeech = true → (answers call).status.ok = true

/-- What the provider delivers before the requested speech: the end of the interrupted playback, if it is
owed. -/
def DeliversOwed (inputs : List Input) : List Input → Prop
  | [] => ¬ OwesStop inputs
  | [.event received answers] =>
      received.kind = .ttsStopped ∧ received.generation = (session inputs).generation ∧
        Granted answers ((Input.event received answers).perform (session inputs)).2
  | _ => False

/-- The start of speech is accepted, and the session speaks. -/
def Speaks (s : VoiceSession) (received : VoiceEvent) (answers : Answers) : Prop :=
  (s.receive received).1.stale = false ∧ (step s (.event received answers)).state = .speaking

/-- Speech waits for the fence. -/
def Deferred (s : VoiceSession) : Prop :=
  s.pendingSystemSpeech ≠ "" ∨ s.pendingInterruptWakeWord ≠ "" ∧ s.pendingInterruptTextResponse ≠ ""

/-- The request is not deferred, although the fence is pending. -/
def BypassesFence (s : VoiceSession) (op : Operation) : Prop :=
  op.interrupts = false ∧ s.interruptFencePending = true ∧ ¬ Deferred s

/-! ## Invariants -/

/-- A session that is in use has its audio open. -/
def AudioOpen (s : VoiceSession) : Prop :=
  s.state = .ready ∨ s.state = .capturing ∨ s.state = .speaking ∨ s.providerCaptureActive = true →
    s.audioReady = true

/-- The audio is open, and the fence is pending only if it was. -/
def FenceKept (s s' : VoiceSession) : Prop :=
  AudioOpen s' ∧ (s'.interruptFencePending = true → s.interruptFencePending = true)

/-- The audio is open, and an interrupt that acted sets the fence only if there was a playback. -/
def FenceSet (s s' : VoiceSession) : Prop :=
  AudioOpen s' ∧ (s' = s ∨ s'.generation ≠ s.generation ∧
    (s'.interruptFencePending = true → s.state = .speaking))

/-- The states of a session that is in use. -/
def inUse : VoiceSessionState → Bool
  | .ready => true
  | .capturing => true
  | .speaking => true
  | _ => false

/-- A session that is not in use. -/
theorem audioOpen_of_idle (hstate : inUse s.state = false) (hreleased : s.providerCaptureActive = false) :
    AudioOpen s := by
  rintro (h | h | h | h)
  · rw [h] at hstate
    cases hstate
  · rw [h] at hstate
    cases hstate
  · rw [h] at hstate
    cases hstate
  · exact absurd (hreleased.symm.trans h) Bool.false_ne_true

theorem openAudio_fence (formats : VoiceAudioFormats) (hfence : s.interruptFencePending = false)
    (hreleased : s.providerCaptureActive = false) :
    (openAudio formats).Ends answers
      (fun s' _ _ => AudioOpen s' ∧ s'.interruptFencePending = false) s calls := by
  unfold openAudio
  simp only [ends_bind, ends_update, ends_notify, ends_invoke]
  split
  · exact ⟨audioOpen_of_idle rfl hreleased, hfence⟩
  · simp only [ends_bind, ends_invoke]
    split
    · exact ⟨audioOpen_of_idle rfl hreleased, hfence⟩
    · exact ⟨fun _ => rfl, hfence⟩

theorem negotiate_fence (hfence : s.interruptFencePending = false)
    (hreleased : s.providerCaptureActive = false) :
    negotiate.Ends answers (fun s' _ _ => AudioOpen s' ∧ s'.interruptFencePending = false) s calls := by
  unfold negotiate
  simp only [ends_bind, ends_ask]
  split
  · exact ⟨audioOpen_of_idle rfl hreleased, hfence⟩
  · exact openAudio_fence _ hfence hreleased

theorem start_fence (config : VoiceSessionConfig) (h : AudioOpen s) :
    (start config).Ends answers
      (fun s' _ _ => AudioOpen s' ∧ (s' = s ∨ s'.interruptFencePending = false)) s calls := by
  unfold start
  split
  · exact ⟨h, Or.inl rfl⟩
  · simp only [ends_bind, ends_ask]
    split
    · exact ⟨h, Or.inl rfl⟩
    · rw [ends_bind, ends_acquire]
      refine ⟨fun _ => ?_, fun _ => ⟨h, Or.inl rfl⟩⟩
      simp only [ends_bind, ends_notify, ends_peek, ends_invoke]
      split
      · exact ⟨audioOpen_of_idle rfl rfl, Or.inr rfl⟩
      · exact (negotiate_fence rfl rfl).imp fun _ _ _ h => ⟨h.1, Or.inr h.2⟩

theorem beginProviderCapture_fence (h : AudioOpen s) :
    beginProviderCapture.Ends answers (fun s' _ _ => FenceKept s s') s calls := by
  unfold beginProviderCapture
  rw [ends_bind, ends_acquire]
  refine ⟨fun hready => ?_, fun _ => ⟨h, id⟩⟩
  have hopen : s.audioReady = true := h (Or.inl hready)
  cases s.providerCaptureActive with
  | true => exact ⟨fun _ => hopen, id⟩
  | false =>
      simp only [ends_bind, ends_invoke]
      split
      · exact ⟨fun _ => hopen, id⟩
      · exact ⟨fun _ => hopen, id⟩

theorem beginInputCapture_fence (mode : VoiceMode) (hopen : s'.audioReady = true)
    (hfence : s'.interruptFencePending = s.interruptFencePending) :
    (beginInputCapture mode).Ends answers (fun s' _ _ => FenceKept s s') s' calls := by
  unfold beginInputCapture
  simp only [ends_bind, ends_invoke]
  split
  · exact ⟨fun _ => hopen, hfence.symm.trans⟩
  · simp only [ends_bind, ends_invoke, ends_update]
    split
    · exact ⟨fun _ => hopen, hfence.symm.trans⟩
    · exact ⟨fun _ => hopen, hfence.symm.trans⟩

theorem beginCapture_fence (h : AudioOpen s) :
    beginCapture.Ends answers (fun s' _ _ => FenceKept s s') s calls := by
  unfold beginCapture
  rw [ends_bind, ends_acquire]
  refine ⟨fun hready => ?_, fun _ => ⟨h, id⟩⟩
  have hopen : s.audioReady = true := h (Or.inl hready)
  cases s.providerCaptureActive with
  | true => exact beginInputCapture_fence _ hopen rfl
  | false =>
      simp only [ends_bind, ends_invoke]
      split
      · exact ⟨fun _ => hopen, id⟩
      · exact beginInputCapture_fence _ hopen rfl

theorem endCapture_fence (h : AudioOpen s) :
    endCapture.Ends answers (fun s' _ _ => FenceKept s s') s calls := by
  unfold endCapture
  rw [ends_bind, ends_peek]
  by_cases hcapturing : s.state = .capturing
  · have hopen : s.audioReady = true := h (Or.inr (Or.inl hcapturing))
    simp only [endRefusal, hcapturing, ne_eq, not_true_eq_false, if_false, ends_bind, ends_invoke]
    split
    · exact ⟨fun _ => hopen, id⟩
    · split
      · exact ⟨fun _ => hopen, id⟩
      · exact ⟨fun _ => hopen, id⟩
  · rw [endRefusal, if_pos hcapturing]
    by_cases hidle : s.state = .ready ∨ s.state = .speaking
    · rw [if_pos hidle]
      exact ⟨h, id⟩
    · rw [if_neg hidle]
      exact ⟨h, id⟩

theorem speak_fence (text : String) (h : AudioOpen s) :
    (speak text).Ends answers (fun s' _ _ => FenceKept s s') s calls := by
  unfold speak
  rw [ends_bind, ends_acquire]
  refine ⟨fun _ => ?_, fun _ => ⟨h, id⟩⟩
  simp only [ends_bind, ends_invoke]
  split
  · exact ⟨h, id⟩
  · exact ⟨h, id⟩

theorem notifyLocalWakeWord_fence (wakeWord textResponse : String) (h : AudioOpen s) :
    (notifyLocalWakeWord wakeWord textResponse).Ends answers (fun s' _ _ => FenceKept s s') s calls := by
  unfold notifyLocalWakeWord
  rw [ends_bind, ends_acquire]
  refine ⟨fun _ => ?_, fun _ => ⟨h, id⟩⟩
  simp only [ends_bind, ends_invoke]
  split
  · exact ⟨h, id⟩
  · exact ⟨h, id⟩

/-- An interrupted session, with what waits for the fence. -/
theorem interrupted_fence (hopen : s.audioReady = true) (hready : s'.audioReady = s.audioReady)
    (hgeneration : s'.generation = s.generation + 1)
    (hfence : s'.interruptFencePending = true → s.state = .speaking) : FenceSet s s' :=
  ⟨fun _ => hready.trans hopen, Or.inr ⟨by omega, hfence⟩⟩

theorem interrupt_fence (h : AudioOpen s) :
    interrupt.Ends answers (fun s' _ _ => FenceSet s s') s calls := by
  unfold interrupt
  rw [ends_bind, ends_acquire]
  refine ⟨fun hcan => ?_, fun _ => ⟨h, Or.inl rfl⟩⟩
  have hopen : s.audioReady = true := by
    rcases hcan with hstate | hstate | hstate | hactive
    · exact h (Or.inr (Or.inl hstate))
    · exact h (Or.inr (Or.inr (Or.inl hstate)))
    · exact h (Or.inl hstate.1)
    · exact h (Or.inr (Or.inr (Or.inr hactive)))
  have hset : FenceSet s s.interrupted := interrupted_fence hopen rfl rfl of_decide_eq_true
  simp only [ends_bind, ends_notify, ends_invokeIf, ends_invoke, ends_emit]
  split_ifs <;> exact hset

theorem interruptAndNotifyLocalWakeWord_fence (wakeWord textResponse : String) (h : AudioOpen s) :
    (interruptAndNotifyLocalWakeWord wakeWord textResponse).Ends answers
      (fun s' _ _ => FenceSet s s') s calls := by
  unfold interruptAndNotifyLocalWakeWord
  split
  · exact ⟨h, Or.inl rfl⟩
  · rw [ends_bind, ends_acquire]
    refine ⟨fun hcan => ?_, fun _ => ⟨h, Or.inl rfl⟩⟩
    have hopen : s.audioReady = true :=
      h (hcan.elim (fun hstate => Or.inr (Or.inl hstate)) fun hstate => Or.inr (Or.inr (Or.inl hstate)))
    simp only [ends_bind, ends_notify, ends_invokeIf, ends_invoke]
    split
    · exact interrupted_fence hopen rfl rfl fun hset => absurd hset Bool.false_ne_true
    · simp only [ends_bind, ends_emit]
      split
      · exact interrupted_fence hopen rfl rfl of_decide_eq_true
      · unfold confirmAtOnce
        simp only [ends_bind, ends_atomic, ends_invoke]
        split
        · exact interrupted_fence hopen rfl rfl of_decide_eq_true
        · exact interrupted_fence hopen rfl rfl of_decide_eq_true

theorem interruptAndSpeak_fence (text : String) (h : AudioOpen s) :
    (interruptAndSpeak text).Ends answers (fun s' _ _ => FenceSet s s') s calls := by
  unfold interruptAndSpeak
  split
  · exact ⟨h, Or.inl rfl⟩
  · rw [ends_bind, ends_acquire]
    refine ⟨fun hcan => ?_, fun _ => ⟨h, Or.inl rfl⟩⟩
    have hopen : s.audioReady = true := by
      rcases hcan with hstate | hstate | hstate
      · exact h (Or.inl hstate)
      · exact h (Or.inr (Or.inl hstate))
      · exact h (Or.inr (Or.inr (Or.inl hstate)))
    simp only [ends_bind, ends_notify, ends_invokeIf, ends_invoke]
    split
    · exact interrupted_fence hopen rfl rfl fun hset => absurd hset Bool.false_ne_true
    · simp only [ends_bind, ends_emit]
      split
      · exact interrupted_fence hopen rfl rfl of_decide_eq_true
      · unfold speakAtOnce
        simp only [ends_bind, ends_atomic, ends_invoke]
        split
        · exact interrupted_fence hopen rfl rfl of_decide_eq_true
        · exact interrupted_fence hopen rfl rfl of_decide_eq_true

theorem stop_fence (h : AudioOpen s) :
    stop.Ends answers (fun s' _ _ => AudioOpen s' ∧
      (s' = s ∧ s.state = .stopped ∨ s'.interruptFencePending = false)) s calls := by
  unfold stop
  rw [ends_bind, ends_acquire]
  refine ⟨fun _ => ?_, fun hstopped => ⟨h, Or.inl ⟨rfl, not_not.1 hstopped⟩⟩⟩
  simp only [ends_bind, ends_notify, ends_invoke]
  split
  · exact ⟨audioOpen_of_idle rfl rfl, Or.inr rfl⟩
  · exact ⟨audioOpen_of_idle rfl rfl, Or.inr rfl⟩

/-! ## Events -/

theorem receive_of_stop {received : VoiceEvent} (hgeneration : received.generation = s.generation)
    (hkind : received.kind = .ttsStopped) :
    s.receive received = s.receiveTtsStopped received.aborted := by
  simp [receive, acceptsDisconnected, acceptsConnected, hgeneration, hkind]

theorem receive_of_start {received : VoiceEvent} (hgeneration : received.generation = s.generation)
    (hkind : received.kind = .ttsStarted) : s.receive received = s.receiveTtsStarted := by
  simp [receive, acceptsDisconnected, acceptsConnected, hgeneration, hkind]

theorem receive_audioOpen (received : VoiceEvent) (h : AudioOpen s) :
    AudioOpen (s.receive received).2 := by
  have hreceived := receive_received received s
  generalize (s.receive received).2 = s' at hreceived ⊢
  cases hreceived with
  | same => exact h
  | disconnected _ => exact audioOpen_of_idle rfl rfl
  | echo => exact h
  | text _ _ => exact h
  | connected haccepts =>
      simp only [acceptsConnected, Bool.and_eq_true, decide_eq_true_eq] at haccepts
      exact fun _ => haccepts.1.2
  | ttsStarted _ haccepts =>
      simp only [refusesSpeech, Bool.or_eq_false_iff, decide_eq_false_iff_not] at haccepts
      refine fun _ => h ?_
      cases hstate : s.state with
      | ready => exact Or.inl rfl
      | capturing => exact Or.inr (Or.inl rfl)
      | speaking => exact Or.inr (Or.inr (Or.inl rfl))
      | stopped => exact absurd hstate haccepts.1.1.2
      | starting => exact absurd hstate haccepts.1.2
      | failed => exact absurd hstate haccepts.2
  | fence _ _ => exact h
  | ttsAborted _ hstate => exact fun _ => h (Or.inr (Or.inr (Or.inl hstate)))
  | ttsStopped _ hstate => exact fun _ => h (Or.inr (Or.inr (Or.inl hstate)))

/-- The fence does not outlive the end of a playback or of the connection. -/
theorem receive_fence (received : VoiceEvent)
    (hfence : (s.receive received).2.interruptFencePending = true) :
    s.interruptFencePending = true ∧ ¬ EndsPlayback s (.event received answers) := by
  have hwas : s.interruptFencePending = true := by
    have hreceived := receive_received received s
    generalize (s.receive received).2 = s' at hreceived hfence
    cases hreceived with
    | disconnected _ => cases hfence
    | fence _ _ => cases hfence
    | _ => exact hfence
  refine ⟨hwas, ?_⟩
  rintro ⟨hgeneration, hstopped | hdisconnected⟩
  · rw [receive_of_stop hgeneration hstopped, receiveTtsStopped, if_pos hwas] at hfence
    cases hfence
  · rw [receive, if_neg (not_not.2 hgeneration), if_pos hdisconnected] at hfence
    cases hfence

theorem AudioOpen.failed (h : AudioOpen s) : AudioOpen s.failed := by
  rintro (hstate | hstate | hstate | hactive)
  · cases hstate
  · cases hstate
  · cases hstate
  · exact h (Or.inr (Or.inr (Or.inr hactive)))

theorem requestPendingWakeWord_fence (wakeWord textResponse : String) (h : AudioOpen s) :
    (requestPendingWakeWord wakeWord textResponse).Ends answers (fun s' _ _ => FenceKept s s') s
      calls := by
  unfold requestPendingWakeWord
  split
  · rw [ends_bind, ends_acquire]
    refine ⟨fun _ => ?_, fun _ => ⟨h, id⟩⟩
    simp only [Option.isSome_some, if_true, ends_bind, ends_invoke]
    split
    · exact ⟨h, id⟩
    · exact ⟨h, id⟩
  · exact ⟨h, id⟩

theorem requestPendingSpeech_fence (text : String) (h : AudioOpen s) :
    (requestPendingSpeech text).Ends answers (fun s' _ _ => FenceKept s s') s calls := by
  unfold requestPendingSpeech
  split
  · rw [ends_bind, ends_acquire]
    refine ⟨fun _ => ?_, fun _ => ⟨h, id⟩⟩
    simp only [Option.isSome_some, if_true, ends_bind, ends_invoke]
    split
    · exact ⟨h, id⟩
    · exact ⟨h, id⟩
  · exact ⟨h, id⟩

theorem handleEvent_fence (received : VoiceEvent) (h : AudioOpen s) :
    (handleEvent received).Ends answers (fun s' _ _ => FenceKept (s.receive received).2 s') s calls := by
  unfold handleEvent finishEvent
  rw [ends_bind, ends_atomic, ends_bind]
  refine (reportEvent_same received _).imp fun current calls goesOn hsame => ?_
  have hcurrent : FenceKept (s.receive received).2 current := by
    rcases hsame with rfl | ⟨_, rfl⟩
    · exact ⟨receive_audioOpen received h, id⟩
    · exact ⟨(receive_audioOpen received h).failed, id⟩
  split
  · rw [ends_bind]
    refine (requestPendingWakeWord_fence _ _ hcurrent.1).imp fun next calls _ hnext => ?_
    refine (requestPendingSpeech_fence _ hnext.1).imp fun last calls _ hlast => ⟨hlast.1, fun hfence => ?_⟩
    exact hcurrent.2 (hnext.2 (hlast.2 hfence))
  · exact hcurrent

theorem handleAudio_fence (frame : AudioFrame) (h : AudioOpen s) :
    (handleAudio frame).Ends answers (fun s' _ _ => FenceKept s s') s calls := by
  unfold handleAudio
  rw [ends_bind, ends_peek]
  cases s.frameRefusal frame with
  | some status => exact ⟨h, id⟩
  | none =>
      rw [ends_bind, ends_invoke, ends_bind, ends_acquire]
      exact ⟨fun _ => ⟨h, id⟩, fun _ => ⟨h, id⟩⟩

/-! ## Steps -/

theorem FenceSet.interruptsPlayback {op : Operation}
    (h : FenceSet s (step s (.operation op answers))) (hinterrupts : op.interrupts = true)
    (hends : ¬ EndsPlayback s (.operation op answers))
    (hfence : (step s (.operation op answers)).interruptFencePending = true) :
    InterruptsPlayback s (.operation op answers) ∨
      s.interruptFencePending = true ∧ ¬ EndsPlayback s (.operation op answers) := by
  rcases h.2 with hsame | ⟨hgeneration, hspeaking⟩
  · exact Or.inr ⟨hsame ▸ hfence, hends⟩
  · exact Or.inl ⟨hinterrupts, hspeaking hfence, hgeneration⟩

/-- The audio of a session in use stays open, and the fence is pending only while a playback has been
interrupted and its end is owed. -/
theorem step_fence {input : Input} (h : AudioOpen s) :
    AudioOpen (step s input) ∧ ((step s input).interruptFencePending = true →
      InterruptsPlayback s input ∨ s.interruptFencePending = true ∧ ¬ EndsPlayback s input) := by
  cases input with
  | audio frame answers =>
      obtain ⟨hopen, hfence⟩ := (handleAudio_fence frame h).run
      exact ⟨hopen, fun h => Or.inr ⟨hfence h, id⟩⟩
  | event received answers =>
      obtain ⟨hopen, hfence⟩ := (handleEvent_fence received h).run
      exact ⟨hopen, fun h => Or.inr (receive_fence received (hfence h))⟩
  | operation op answers =>
      cases op with
      | start config =>
          obtain ⟨hopen, hsame⟩ := (start_fence config h).run
          refine ⟨hopen, fun hfence => Or.inr ?_⟩
          rcases hsame with hsame | hclear
          · exact ⟨hsame ▸ hfence, fun hends => hends (congrArg generation hsame)⟩
          · exact absurd (hclear.symm.trans hfence) Bool.false_ne_true
      | stop =>
          obtain ⟨hopen, hsame⟩ := (stop_fence h).run
          refine ⟨hopen, fun hfence => Or.inr ?_⟩
          rcases hsame with ⟨hsame, hstopped⟩ | hclear
          · exact ⟨hsame ▸ hfence, fun hends => hends hstopped⟩
          · exact absurd (hclear.symm.trans hfence) Bool.false_ne_true
      | beginProviderCapture =>
          obtain ⟨hopen, hfence⟩ := (beginProviderCapture_fence h).run
          exact ⟨hopen, fun h => Or.inr ⟨hfence h, id⟩⟩
      | beginCapture =>
          obtain ⟨hopen, hfence⟩ := (beginCapture_fence h).run
          exact ⟨hopen, fun h => Or.inr ⟨hfence h, id⟩⟩
      | endCapture =>
          obtain ⟨hopen, hfence⟩ := (endCapture_fence h).run
          exact ⟨hopen, fun h => Or.inr ⟨hfence h, id⟩⟩
      | speak text =>
          obtain ⟨hopen, hfence⟩ := (speak_fence text h).run
          exact ⟨hopen, fun h => Or.inr ⟨hfence h, id⟩⟩
      | notifyLocalWakeWord wakeWord textResponse =>
          obtain ⟨hopen, hfence⟩ := (notifyLocalWakeWord_fence wakeWord textResponse h).run
          exact ⟨hopen, fun h => Or.inr ⟨hfence h, id⟩⟩
      | interrupt =>
          have hset : FenceSet s (step s (.operation .interrupt answers)) :=
            (interrupt_fence h).run
          exact ⟨hset.1, hset.interruptsPlayback rfl id⟩
      | interruptAndNotifyLocalWakeWord wakeWord textResponse =>
          have hset : FenceSet s (step s (.operation (.interruptAndNotifyLocalWakeWord wakeWord textResponse) answers)) :=
            (interruptAndNotifyLocalWakeWord_fence wakeWord textResponse h).run
          exact ⟨hset.1, hset.interruptsPlayback rfl id⟩
      | interruptAndSpeak text =>
          have hset : FenceSet s (step s (.operation (.interruptAndSpeak text) answers)) :=
            (interruptAndSpeak_fence text h).run
          exact ⟨hset.1, hset.interruptsPlayback rfl id⟩

theorem step_audioOpen (s : VoiceSession) (input : Input) (h : AudioOpen s) :
    AudioOpen (step s input) :=
  (step_fence h).1

theorem audioOpen_session (inputs : List Input) : AudioOpen (session inputs) :=
  (Run.allStates_of_invariant step_audioOpen
    (audioOpen_of_idle rfl rfl : AudioOpen {})).last

/-- The fence of an interrupt is pending. -/
def FencePending (s : VoiceSession) : Prop :=
  s.interruptFencePending = true

theorem step_fencePending (s : VoiceSession) (input : Input) (h : AudioOpen s)
    (hfence : FencePending (step s input)) :
    InterruptsPlayback s input ∨ FencePending s ∧ ¬ EndsPlayback s input :=
  (step_fence h).2 hfence

/-- While the fence is pending, the end of an interrupted playback is owed. -/
theorem owesStop_of_fence {inputs : List Input} (hfence : FencePending (session inputs)) :
    OwesStop inputs := by
  have hopen : Run.AllSteps step (fun s _ => AudioOpen s) {} inputs :=
    Run.allSteps_iff_forall_prefix.2 fun done _ _ => audioOpen_session done
  have hstart : ¬ FencePending {} := Bool.false_ne_true
  exact Run.since_of_allSteps step_fencePending hstart hopen hfence

/-! ## The requested speech -/

/-- What a request that succeeded leaves. -/
def Requested (op : Operation) (s s' : VoiceSession) : Prop :=
  s'.state = .ready ∧
    (s'.interruptFencePending = false → s'.responseArmed = true ∧ ¬ BypassesFence s op) ∧
    (s'.interruptFencePending = true → (Deferred s' ↔ ¬ BypassesFence s op))

theorem requested_of_same {op : Operation} (hinterrupts : op.interrupts = false) (hstate : s'.state = .ready)
    (harmed : s'.responseArmed = true) (hfence : s'.interruptFencePending = s.interruptFencePending)
    (hdeferred : Deferred s' ↔ Deferred s) : Requested op s s' := by
  refine ⟨hstate, fun hpending => ⟨harmed, ?_⟩, fun hpending => ?_⟩
  · simp [BypassesFence, hfence ▸ hpending]
  · simp [BypassesFence, hdeferred, hinterrupts, hfence ▸ hpending]

theorem requested_of_interrupted {op : Operation} (hinterrupts : op.interrupts = true)
    (hstate : s'.state = .ready) (harmed : s'.interruptFencePending = false → s'.responseArmed = true)
    (hdeferred : s'.interruptFencePending = true → Deferred s') : Requested op s s' := by
  refine ⟨hstate, fun hpending => ⟨harmed hpending, ?_⟩, fun hpending => ?_⟩
  · simp [BypassesFence, hinterrupts]
  · simp [BypassesFence, hinterrupts, hdeferred hpending]

theorem speak_requested (text : String) :
    (speak text).Ends answers
      (fun s' _ status => status.ok = true → Requested (.speak text) s s') s calls := by
  unfold speak
  rw [ends_bind, ends_acquire]
  refine ⟨fun hready => ?_, fun _ => nofun⟩
  simp only [ends_bind, ends_invoke]
  split
  · rename_i hfailed
    intro hok
    simp [hok] at hfailed
  · exact fun _ => requested_of_same rfl hready.1 rfl rfl Iff.rfl

theorem notifyLocalWakeWord_requested (wakeWord textResponse : String) :
    (notifyLocalWakeWord wakeWord textResponse).Ends answers
      (fun s' _ status => status.ok = true → Requested (.notifyLocalWakeWord wakeWord textResponse) s s')
      s calls := by
  unfold notifyLocalWakeWord
  rw [ends_bind, ends_acquire]
  refine ⟨fun hready => ?_, fun _ => nofun⟩
  simp only [ends_bind, ends_invoke]
  split
  · rename_i hfailed
    intro hok
    simp [hok] at hfailed
  · exact fun _ => requested_of_same rfl hready.1 rfl rfl Iff.rfl

theorem firstFailure_not_ok {inputStatus abortStatus flushStatus status : Status}
    (h : VoiceSession.firstFailure inputStatus abortStatus flushStatus = some status) : status.ok = false := by
  unfold VoiceSession.firstFailure at h
  split_ifs at h with hinput habort hflush
  · cases h
    simpa using hinput
  · cases h
    simpa using habort
  · cases h
    simpa using hflush

theorem interruptAndNotifyLocalWakeWord_requested (wakeWord textResponse : String) :
    (interruptAndNotifyLocalWakeWord wakeWord textResponse).Ends answers (fun s' _ status =>
      status.ok = true → Requested (.interruptAndNotifyLocalWakeWord wakeWord textResponse) s s') s
      calls := by
  unfold interruptAndNotifyLocalWakeWord
  split
  · exact nofun
  · rename_i htexts
    rw [ends_bind, ends_acquire]
    refine ⟨fun _ => ?_, fun _ => nofun⟩
    simp only [ends_bind, ends_notify, ends_invokeIf, ends_invoke]
    split
    · rename_i hfailed
      exact fun hok => absurd ((firstFailure_not_ok hfailed).symm.trans hok) Bool.false_ne_true
    · simp only [ends_bind, ends_emit]
      split
      · rename_i hspeaking
        refine fun _ => requested_of_interrupted rfl rfl (fun hfence => ?_) fun _ => Or.inr ?_
        · exact absurd (hfence.symm.trans hspeaking) Bool.false_ne_true
        · exact not_or.1 htexts
      · rename_i hspeaking
        unfold confirmAtOnce
        simp only [ends_bind, ends_atomic, ends_invoke]
        split
        · rename_i hfailed
          intro hok
          simp [hok] at hfailed
        · exact fun _ => requested_of_interrupted rfl rfl (fun _ => rfl)
            fun hfence => absurd hfence hspeaking

theorem interruptAndSpeak_requested (text : String) :
    (interruptAndSpeak text).Ends answers
      (fun s' _ status => status.ok = true → Requested (.interruptAndSpeak text) s s') s calls := by
  unfold interruptAndSpeak
  split
  · exact nofun
  · rename_i htext
    rw [ends_bind, ends_acquire]
    refine ⟨fun _ => ?_, fun _ => nofun⟩
    simp only [ends_bind, ends_notify, ends_invokeIf, ends_invoke]
    split
    · rename_i hfailed
      exact fun hok => absurd ((firstFailure_not_ok hfailed).symm.trans hok) Bool.false_ne_true
    · simp only [ends_bind, ends_emit]
      split
      · rename_i hspeaking
        refine fun _ => requested_of_interrupted rfl rfl (fun hfence => ?_) fun _ => Or.inl htext
        exact absurd (hfence.symm.trans hspeaking) Bool.false_ne_true
      · rename_i hspeaking
        unfold speakAtOnce
        simp only [ends_bind, ends_atomic, ends_invoke]
        split
        · rename_i hfailed
          intro hok
          simp [hok] at hfailed
        · exact fun _ => requested_of_interrupted rfl rfl (fun _ => rfl)
            fun hfence => absurd hfence hspeaking

theorem operation_requested (op : Operation) (hrequests : op.requestsSpeech = true) :
    op.program.Ends answers (fun s' _ status => status.ok = true → Requested op s s') s calls := by
  cases op with
  | speak text => exact speak_requested text
  | notifyLocalWakeWord wakeWord textResponse => exact notifyLocalWakeWord_requested wakeWord textResponse
  | interruptAndNotifyLocalWakeWord wakeWord textResponse =>
      exact interruptAndNotifyLocalWakeWord_requested wakeWord textResponse
  | interruptAndSpeak text => exact interruptAndSpeak_requested text
  | _ => cases hrequests

/-! ## The end of the old playback -/

theorem requestPendingWakeWord_granted (wakeWord textResponse : String) :
    (requestPendingWakeWord wakeWord textResponse).Ends answers
      (fun s' calls _ => Granted answers calls → canSpeak s →
        s' = if wakeWord ≠ "" then setArmed (textResponse ≠ "") s else s) s calls := by
  unfold requestPendingWakeWord
  split
  · rw [ends_bind, ends_acquire]
    refine ⟨fun _ => ?_, fun hcannot _ hcan => absurd hcan hcannot⟩
    simp only [Option.isSome_some, if_true, ends_bind, ends_invoke]
    split
    · rename_i hfailed
      intro hgranted
      have hok := hgranted (.notifyLocalWakeWord wakeWord textResponse) (by simp) rfl
      simp [hok] at hfailed
    · exact fun _ _ => rfl
  · exact fun _ _ => rfl

theorem requestPendingSpeech_granted (text : String) :
    (requestPendingSpeech text).Ends answers
      (fun s' calls _ => Granted answers calls → canSpeak s →
        s' = if text ≠ "" then setArmed true s else s) s calls := by
  unfold requestPendingSpeech
  split
  · rw [ends_bind, ends_acquire]
    refine ⟨fun _ => ?_, fun hcannot _ hcan => absurd hcan hcannot⟩
    simp only [Option.isSome_some, if_true, ends_bind, ends_invoke]
    split
    · rename_i hfailed
      intro hgranted
      have hok := hgranted (.speak text) (by simp) rfl
      simp [hok] at hfailed
    · exact fun _ _ => rfl
  · exact fun _ _ => rfl

/-- Once the old playback has passed the fence, the session expects the speech that waited, if any did. -/
theorem handleEvent_fenceReached {received : VoiceEvent} (hkind : received.kind = .ttsStopped)
    (hgeneration : received.generation = s.generation) (hready : canSpeak s)
    (hfence : s.interruptFencePending = true) :
    (handleEvent received).Ends answers (fun s' calls _ => Granted answers calls →
      s'.state = .ready ∧ s'.interruptFencePending = false ∧ (s'.responseArmed = true ↔ Deferred s)) s
      calls := by
  have hreceive : s.receive received = s.receiveTtsStopped received.aborted :=
    receive_of_stop hgeneration hkind
  rw [receiveTtsStopped, if_pos hfence] at hreceive
  unfold handleEvent finishEvent
  rw [ends_bind, ends_atomic, hreceive, ends_bind]
  simp only [reportEvent, Bool.false_eq_true, if_false, if_true, ends_bind, ends_pure]
  refine (reportAborted_same _).imp fun current calls _ hcurrent => ?_
  subst hcurrent
  refine (requestPendingWakeWord_granted _ _).imp fun next calls _ hnext => ?_
  refine (requestPendingSpeech_granted _).grows.imp fun last calls' _ hlast hgranted => ?_
  have hcan : canSpeak s.fenceReached := hready
  have hnextIs := hnext (fun call hcall => hgranted call (hlast.1 hcall)) hcan
  have hcanNext : canSpeak next := by
    rw [hnextIs]
    split <;> exact hready
  rw [hlast.2 hgranted hcanNext, hnextIs]
  refine ⟨?_, ?_, ?_⟩
  · split_ifs <;> exact hready.1
  · split_ifs <;> rfl
  · unfold Deferred
    split_ifs with hspeech hword hword
    · simp [hspeech, setArmed]
    · simp [hspeech, setArmed]
    · simp [hspeech, hword, setArmed]
    · simp [hspeech, hword, fenceReached, disarm, clearPending]

/-- The end of a playback that no fence waits for changes nothing in a session that does not speak. -/
theorem handleEvent_lateStop {received : VoiceEvent} (hkind : received.kind = .ttsStopped)
    (hgeneration : received.generation = s.generation) (hready : s.state = .ready)
    (hfence : s.interruptFencePending = false) :
    (handleEvent received).Ends answers (fun s' _ _ => s' = s) s calls := by
  have hreceive : s.receive received =
      ({ stale := true, staleReason := "tts_stop_without_speaking" }, s) := by
    rw [receive_of_stop hgeneration hkind]
    simp [receiveTtsStopped, hfence, hready]
  unfold handleEvent finishEvent
  rw [ends_bind, ends_atomic, hreceive]
  rfl

/-- A session that is ready and has no fence speaks exactly if it is armed. -/
theorem speaks_iff_armed {received : VoiceEvent} (hkind : received.kind = .ttsStarted)
    (hgeneration : received.generation = s.generation) (hready : s.state = .ready)
    (hfence : s.interruptFencePending = false) :
    Speaks s received answers ↔ s.responseArmed = true := by
  have hreceive : s.receive received = s.receiveTtsStarted := receive_of_start hgeneration hkind
  have hrefuses : s.refusesSpeech = !s.responseArmed := by
    simp [refusesSpeech, hready, hfence]
  rw [receiveTtsStarted, hrefuses] at hreceive
  constructor
  · rintro ⟨hstale, -⟩
    by_contra hdisarmed
    rw [hreceive, if_pos (by simpa using hdisarmed)] at hstale
    cases hstale
  · intro harmed
    rw [if_neg (by simpa using harmed)] at hreceive
    refine ⟨by rw [hreceive], ?_⟩
    have hspeaks : (handleEvent received).Ends answers (fun s' _ _ => s'.state = .speaking) s [] := by
      unfold handleEvent finishEvent
      rw [ends_bind, ends_atomic, hreceive]
      simp [reportEvent, reportKind, reportTtsStarted, hkind, hready, requestPendingWakeWord,
        requestPendingSpeech, speechStarted]
    exact hspeaks.run

/-- A request for speech that succeeded is followed by the speech exactly if it does not bypass a pending
fence. -/
theorem speaks_iff_not_bypassesFence (inputs : List Input) (op : Operation) (answers : Answers)
    (delivered : List Input) (received : VoiceEvent) (answers' : Answers)
    (hrequests : op.requestsSpeech = true)
    (hok : (op.program.run answers (session inputs)).2.2.ok = true)
    (hdelivered : DeliversOwed (inputs ++ [.operation op answers]) delivered)
    (hkind : received.kind = .ttsStarted)
    (hgeneration : received.generation =
      (session (inputs ++ [.operation op answers] ++ delivered)).generation) :
    Speaks (session (inputs ++ [.operation op answers] ++ delivered)) received answers' ↔
      ¬ BypassesFence (session inputs) op := by
  have hrequested : Requested op (session inputs) (session (inputs ++ [Input.operation op answers])) := by
    rw [session_concat]
    exact (operation_requested op hrequests).run hok
  generalize hbefore : inputs ++ [Input.operation op answers] = before at *
  obtain ⟨hready, hclear, hpending⟩ := hrequested
  have hcan : canSpeak (session before) := ⟨hready, audioOpen_session before (Or.inl hready)⟩
  match delivered with
  | [] =>
      rw [List.append_nil] at hgeneration ⊢
      have hfence : (session before).interruptFencePending = false :=
        Bool.eq_false_iff.2 fun h => hdelivered (owesStop_of_fence h)
      rw [speaks_iff_armed hkind hgeneration hready hfence]
      exact iff_of_true (hclear hfence).1 (hclear hfence).2
  | [.event stop stopAnswers] =>
      obtain ⟨hstop, hstopGeneration, hgranted⟩ := hdelivered
      rw [session_concat] at hgeneration ⊢
      cases hfence : (session before).interruptFencePending with
      | true =>
          obtain ⟨hstate, hnoFence, harmed⟩ :=
            (handleEvent_fenceReached hstop hstopGeneration hcan hfence).run hgranted
          rw [speaks_iff_armed hkind hgeneration hstate hnoFence]
          exact harmed.trans (hpending hfence)
      | false =>
          have hsame : step (session before) (.event stop stopAnswers) = session before :=
            (handleEvent_lateStop hstop hstopGeneration hready hfence).run
          rw [hsame] at hgeneration ⊢
          rw [speaks_iff_armed hkind hgeneration hready hfence]
          exact iff_of_true (hclear hfence).1 (hclear hfence).2

instance (answers : Answers) (calls : List PortCall) : Decidable (Granted answers calls) :=
  inferInstanceAs (Decidable (∀ call ∈ calls, _ → _))

instance (s : VoiceSession) (received : VoiceEvent) (answers : Answers) :
    Decidable (Speaks s received answers) :=
  inferInstanceAs (Decidable (_ ∧ _))

instance (s : VoiceSession) (op : Operation) (answers : Answers) :
    Decidable (InterruptsPlayback s (.operation op answers)) :=
  inferInstanceAs (Decidable (_ ∧ _ ∧ _))

/-- A session that starts and speaks. -/
def speakingSession : List Input :=
  [.operation (.start { sessionId := "session", providerId := "provider" }) willing,
    .operation (.speak "old") willing, .event { kind := .ttsStarted, generation := 1 } willing]

/-- The end of the playback that was interrupted. -/
def oldStop : Input :=
  .event { kind := .ttsStopped, generation := 2 } willing

/-- Speech that interrupts a playback. -/
theorem interrupting_speech_speaks :
    Speaks (session (speakingSession ++ [.operation (.interruptAndSpeak "new") willing] ++ [oldStop]))
      { kind := .ttsStarted, generation := 2 } willing :=
  (speaks_iff_not_bypassesFence speakingSession (.interruptAndSpeak "new") willing [oldStop]
    { kind := .ttsStarted, generation := 2 } willing rfl (by decide +kernel)
    ⟨rfl, by decide +kernel, by decide +kernel⟩ rfl (by decide +kernel)).2 fun h => absurd h.1 nofun

/-- Speech that is requested after an interrupt, before the old playback has ended. -/
theorem speech_after_interrupt_is_dropped :
    let before := speakingSession ++ [.operation .interrupt willing]
    let request := .operation (.speak "new") willing
    ((Operation.speak "new").program.run willing (session before)).2.2.ok = true ∧
      OwesStop (before ++ [request]) ∧ DeliversOwed (before ++ [request]) [oldStop] ∧
      (session (before ++ [request] ++ [oldStop])).generation = 2 ∧
      ¬ Speaks (session (before ++ [request] ++ [oldStop])) { kind := .ttsStarted, generation := 2 }
        willing := by
  refine ⟨by decide +kernel, ?_, ⟨rfl, by decide +kernel, by decide +kernel⟩, by decide +kernel,
    by decide +kernel⟩
  exact Run.since_concat.2 (Or.inr ⟨Run.since_concat.2 (Or.inl (by decide +kernel)), id⟩)

end VoiceLife.Voice
