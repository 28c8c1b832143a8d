import VoiceLife.Voice.SessionRuns

/-! # Speech of the current turn

Speech starts only in the turn that asked for it: since the last change of the generation and since the
last playback, a text was recognized or a request went to the provider. `EndCapture` breaks this, if the
provider does not stop: it begins a new generation and leaves the old request armed.
-/

namespace VoiceLife.Voice

open Process VoiceSession

variable {s s' : VoiceSession} {answers : Answers} {calls : List PortCall}

/-- One of the calls asked for speech and did not fail. -/
def Requests (answers : Answers) (calls : List PortCall) : Prop :=
  ∃ call ∈ calls, call.requestsSpeech = true ∧ (answers call).status.ok = true

/-- The input lets the session expect speech. -/
def Arms (s : VoiceSession) : Input → Prop
  | .operation op answers => Requests answers ((Input.operation op answers).perform s).2
  | .event received answers =>
      AcceptsText s received ∨ Requests answers ((Input.event received answers).perform s).2
  | .audio _ _ => False

/-- The event moves the session into speech. -/
def StartsSpeech (s : VoiceSession) : Input → Prop
  | .event received _ =>
      received.kind = .ttsStarted ∧ s.state ≠ .speaking ∧ (s.receive received).2.state = .speaking
  | _ => False

/-- The input changes the generation or ends a playback. -/
def BreaksTurn (s : VoiceSession) (input : Input) : Prop :=
  (step s input).generation ≠ s.generation ∨
    (s.state = .speaking ∨ StartsSpeech s input) ∧ (step s input).state ≠ .speaking

/-- Since the last change of the generation and the last playback an input let the session expect
speech. -/
def ArmedSince (inputs : List Input) : Prop :=
  Run.Since step Arms BreaksTurn {} inputs

/-- Speech starts in the turn that asked for it, and only frames of the current generation are played. -/
def SpeechIsCurrent (inputs : List Input) : Prop :=
  ∀ done input, done ++ [input] <+: inputs →
    (StartsSpeech (session done) input →
      (session done).interruptFencePending = false ∧ ArmedSince done) ∧
    ∀ frame, .push frame ∈ (input.perform (session done)).2 →
      frame.generation = (session done).generation

/-- `EndCapture` of an armed session whose input stops and whose provider does not. -/
def LeavesArmed (s : VoiceSession) : Input → Prop
  | .operation .endCapture answers =>
      s.state = .capturing ∧ s.responseArmed = true ∧
        (answers .inputStopCapture).status.ok = true ∧ (answers .providerStopCapture).status.ok = false
  | _ => False

/-! ## Operations -/

/-- An armed session stays so within its turn. -/
def StaysArmed (s s' : VoiceSession) : Prop :=
  s.responseArmed = true ∧ s.state ≠ .failed ∧ s'.generation = s.generation ∧
    (s.state = .speaking → s'.state = .speaking)

/-- A session that is armed in the end was so before, or a request was made. -/
def ArmedFor (answers : Answers) (s s' : VoiceSession) (calls : List PortCall) : Prop :=
  s'.responseArmed = true → s'.state ≠ .failed → Requests answers calls ∨ StaysArmed s s'

theorem armedFor_of_disarmed (h : s'.responseArmed = false) : ArmedFor answers s s' calls :=
  fun harmed => absurd (harmed.symm.trans h) nofun

theorem armedFor_of_failed (h : s'.state = .failed) : ArmedFor answers s s' calls :=
  fun _ hstate => absurd h hstate

theorem armedFor_of_same (harmed : s'.responseArmed = s.responseArmed) (hstate : s'.state = s.state)
    (hgeneration : s'.generation = s.generation) : ArmedFor answers s s' calls :=
  fun h hfailed => Or.inr ⟨harmed ▸ h, hstate ▸ hfailed, hgeneration, fun h => hstate.trans h⟩

/-- The calls contain a request that did not fail. -/
theorem armedFor_of_request (port : PortCall) (hport : port.requestsSpeech = true)
    (hcall : port ∈ calls) (hok : (answers port).status.ok = true) : ArmedFor answers s s' calls :=
  fun _ _ => Or.inl ⟨port, hcall, hport, hok⟩

variable {current : VoiceSession}

theorem openAudio_armedFor (formats : VoiceAudioFormats) {calls : List PortCall}
    (harmed : current.responseArmed = false) :
    (openAudio formats).Ends answers (fun s' calls _ => ArmedFor answers s s' calls) current calls := by
  unfold openAudio
  simp only [ends_bind, ends_update, ends_notify, ends_invoke]
  split
  · exact armedFor_of_failed rfl
  · simp only [ends_bind, ends_invoke]
    split
    · exact armedFor_of_failed rfl
    · exact armedFor_of_disarmed harmed

theorem negotiate_armedFor {calls : List PortCall} (harmed : current.responseArmed = false) :
    negotiate.Ends answers (fun s' calls _ => ArmedFor answers s s' calls) current calls := by
  unfold negotiate
  simp only [ends_bind, ends_ask]
  split
  · exact armedFor_of_failed rfl
  · exact openAudio_armedFor _ harmed

theorem start_armedFor (config : VoiceSessionConfig) :
    (start config).Ends answers (fun s' calls _ => ArmedFor answers s s' calls) s [] := by
  unfold start
  split
  · exact armedFor_of_same rfl rfl rfl
  · simp only [ends_bind, ends_ask]
    split
    · exact armedFor_of_same rfl rfl rfl
    · rw [ends_bind, ends_acquire]
      refine ⟨fun _ => ?_, fun _ => armedFor_of_same rfl rfl rfl⟩
      simp only [ends_bind, ends_notify, ends_peek, ends_invoke]
      split
      · exact armedFor_of_failed rfl
      · exact negotiate_armedFor rfl

theorem beginProviderCapture_armedFor :
    beginProviderCapture.Ends answers (fun s' calls _ => ArmedFor answers s s' calls) s [] := by
  unfold beginProviderCapture
  rw [ends_bind, ends_acquire]
  refine ⟨fun _ => ?_, fun _ => armedFor_of_same rfl rfl rfl⟩
  cases s.providerCaptureActive with
  | true => exact armedFor_of_same rfl rfl rfl
  | false =>
      simp only [ends_bind, ends_invoke]
      split
      · exact armedFor_of_disarmed rfl
      · exact armedFor_of_same rfl rfl rfl

theorem beginInputCapture_armedFor (mode : VoiceMode) {calls : List PortCall}
    :
    (beginInputCapture mode).Ends answers (fun s' calls _ => ArmedFor answers s s' calls) current
      calls := by
  unfold beginInputCapture
  simp only [ends_bind, ends_invoke]
  split
  · exact armedFor_of_disarmed rfl
  · simp only [ends_bind, ends_invoke, ends_update]
    split
    · exact armedFor_of_failed rfl
    · exact armedFor_of_disarmed rfl

theorem beginCapture_armedFor :
    beginCapture.Ends answers (fun s' calls _ => ArmedFor answers s s' calls) s [] := by
  unfold beginCapture
  rw [ends_bind, ends_acquire]
  refine ⟨fun _ => ?_, fun _ => armedFor_of_same rfl rfl rfl⟩
  cases s.providerCaptureActive with
  | true => exact beginInputCapture_armedFor _
  | false =>
      simp only [ends_bind, ends_invoke]
      split
      · exact armedFor_of_same rfl rfl rfl
      · exact beginInputCapture_armedFor _

/-- `EndCapture` keeps the request only if both ports stop, or with a new generation. -/
theorem endCapture_armedFor (hleaves : ¬ LeavesArmed s (.operation .endCapture answers)) :
    endCapture.Ends answers (fun s' calls _ => ArmedFor answers s s' calls) s [] := by
  unfold endCapture
  rw [ends_bind, ends_peek]
  unfold endRefusal
  by_cases hcapturing : s.state = .capturing
  · simp only [hcapturing, ne_eq, not_true_eq_false, if_false, ends_bind, ends_invoke]
    split
    · exact fun harmed _ => Or.inr ⟨harmed, by simp [hcapturing], rfl, by simp [hcapturing]⟩
    · rename_i hboth
      split
      · rename_i hinput
        refine armedFor_of_disarmed (Bool.eq_false_iff.2 fun harmed => hleaves ?_)
        exact ⟨hcapturing, harmed, hinput, by simpa [hinput] using hboth⟩
      · exact armedFor_of_failed rfl
  · rw [if_pos hcapturing]
    by_cases hidle : s.state = .ready ∨ s.state = .speaking
    · rw [if_pos hidle]
      exact armedFor_of_same rfl rfl rfl
    · rw [if_neg hidle]
      exact armedFor_of_same rfl rfl rfl

theorem speak_armedFor (text : String) :
    (speak text).Ends answers (fun s' calls _ => ArmedFor answers s s' calls) s [] := by
  unfold speak
  rw [ends_bind, ends_acquire]
  refine ⟨fun _ => ?_, fun _ => armedFor_of_same rfl rfl rfl⟩
  simp only [ends_bind, ends_invoke, List.nil_append]
  split
  · exact armedFor_of_disarmed rfl
  · rename_i hok
    exact armedFor_of_request _ rfl (List.mem_singleton_self _) (by simpa using hok)

theorem notifyLocalWakeWord_armedFor (wakeWord textResponse : String) :
    (notifyLocalWakeWord wakeWord textResponse).Ends answers
      (fun s' calls _ => ArmedFor answers s s' calls) s [] := by
  unfold notifyLocalWakeWord
  rw [ends_bind, ends_acquire]
  refine ⟨fun _ => ?_, fun _ => armedFor_of_same rfl rfl rfl⟩
  simp only [ends_bind, ends_invoke, List.nil_append]
  split
  · exact armedFor_of_disarmed rfl
  · rename_i hok
    refine armedFor_of_request (.notifyLocalWakeWord wakeWord textResponse) rfl ?_ (by simpa using hok)
    simp

theorem interrupt_armedFor :
    interrupt.Ends answers (fun s' calls _ => ArmedFor answers s s' calls) s [] := by
  unfold interrupt
  rw [ends_bind, ends_acquire]
  refine ⟨fun _ => ?_, fun _ => armedFor_of_same rfl rfl rfl⟩
  simp only [ends_bind, ends_notify, ends_invokeIf, ends_invoke, ends_emit]
  split_ifs <;> exact armedFor_of_disarmed rfl

theorem confirmAtOnce_armedFor {calls : List PortCall} :
    confirmAtOnce.Ends answers (fun s' calls _ => ArmedFor answers s s' calls) current calls := by
  unfold confirmAtOnce
  simp only [ends_bind, ends_atomic, ends_invoke]
  split
  · exact armedFor_of_disarmed rfl
  · rename_i hok
    refine armedFor_of_request (.notifyLocalWakeWord current.pendingInterruptWakeWord
      current.pendingInterruptTextResponse) rfl ?_ (by simpa using hok)
    simp

theorem interruptAndNotifyLocalWakeWord_armedFor (wakeWord textResponse : String) :
    (interruptAndNotifyLocalWakeWord wakeWord textResponse).Ends answers
      (fun s' calls _ => ArmedFor answers s s' calls) s [] := by
  unfold interruptAndNotifyLocalWakeWord
  split
  · exact armedFor_of_same rfl rfl rfl
  · rw [ends_bind, ends_acquire]
    refine ⟨fun _ => ?_, fun _ => armedFor_of_same rfl rfl rfl⟩
    simp only [ends_bind, ends_notify, ends_invokeIf, ends_invoke]
    split
    · exact armedFor_of_disarmed rfl
    · simp only [ends_bind, ends_emit]
      split
      · exact armedFor_of_disarmed rfl
      · exact confirmAtOnce_armedFor

theorem speakAtOnce_armedFor {calls : List PortCall} :
    speakAtOnce.Ends answers (fun s' calls _ => ArmedFor answers s s' calls) current calls := by
  unfold speakAtOnce
  simp only [ends_bind, ends_atomic, ends_invoke]
  split
  · exact armedFor_of_disarmed rfl
  · rename_i hok
    refine armedFor_of_request (.speak current.pendingSystemSpeech) rfl ?_ (by simpa using hok)
    simp

theorem interruptAndSpeak_armedFor (text : String) :
    (interruptAndSpeak text).Ends answers (fun s' calls _ => ArmedFor answers s s' calls) s [] := by
  unfold interruptAndSpeak
  split
  · exact armedFor_of_same rfl rfl rfl
  · rw [ends_bind, ends_acquire]
    refine ⟨fun _ => ?_, fun _ => armedFor_of_same rfl rfl rfl⟩
    simp only [ends_bind, ends_notify, ends_invokeIf, ends_invoke]
    split
    · exact armedFor_of_disarmed rfl
    · simp only [ends_bind, ends_emit]
      split
      · exact armedFor_of_disarmed rfl
      · exact speakAtOnce_armedFor

theorem stop_armedFor :
    stop.Ends answers (fun s' calls _ => ArmedFor answers s s' calls) s [] := by
  unfold stop
  rw [ends_bind, ends_acquire]
  refine ⟨fun _ => ?_, fun _ => armedFor_of_same rfl rfl rfl⟩
  simp only [ends_bind, ends_notify, ends_invoke]
  split
  · exact armedFor_of_failed rfl
  · exact armedFor_of_disarmed rfl

/-! ## Events -/

/-- Only a recognized text arms the session in the first section of `HandleEvent`. -/
theorem receive_armedFor (received : VoiceEvent) (htext : ¬ AcceptsText s received) :
    ArmedFor answers s (s.receive received).2 calls := by
  have hreceived := receive_received received s
  generalize (s.receive received).2 = s' at hreceived ⊢
  cases hreceived with
  | same => exact armedFor_of_same rfl rfl rfl
  | disconnected _ => exact armedFor_of_disarmed rfl
  | echo => exact armedFor_of_same rfl rfl rfl
  | text haccepts _ => exact absurd haccepts htext
  | connected haccepts =>
      simp only [acceptsConnected, Bool.and_eq_true, decide_eq_true_eq] at haccepts
      exact fun harmed _ => Or.inr ⟨harmed, by simp [haccepts.2], rfl, by simp [haccepts.2]⟩
  | ttsStarted _ haccepts =>
      simp only [refusesSpeech, Bool.or_eq_false_iff, decide_eq_false_iff_not] at haccepts
      exact fun harmed _ => Or.inr ⟨harmed, haccepts.2, rfl, fun _ => rfl⟩
  | fence _ _ => exact armedFor_of_disarmed rfl
  | ttsAborted _ _ => exact armedFor_of_disarmed rfl
  | ttsStopped _ _ => exact armedFor_of_disarmed rfl

theorem requestPendingWakeWord_armedFor (wakeWord textResponse : String) {calls : List PortCall}
    (h : ArmedFor answers s current calls) :
    (requestPendingWakeWord wakeWord textResponse).Ends answers
      (fun s' calls _ => ArmedFor answers s s' calls ∧ s'.state = current.state) current calls := by
  unfold requestPendingWakeWord
  split
  · rw [ends_bind, ends_acquire]
    refine ⟨fun _ => ?_, fun _ => ⟨h, rfl⟩⟩
    simp only [Option.isSome_some, if_true, ends_bind, ends_invoke]
    split
    · exact ⟨armedFor_of_disarmed rfl, rfl⟩
    · rename_i hok
      refine ⟨armedFor_of_request (.notifyLocalWakeWord wakeWord textResponse) rfl ?_
        (by simpa using hok), rfl⟩
      simp
  · exact ⟨h, rfl⟩

theorem requestPendingSpeech_armedFor (text : String) {calls : List PortCall}
    (h : ArmedFor answers s current calls) :
    (requestPendingSpeech text).Ends answers
      (fun s' calls _ => ArmedFor answers s s' calls ∧ s'.state = current.state) current calls := by
  unfold requestPendingSpeech
  split
  · rw [ends_bind, ends_acquire]
    refine ⟨fun _ => ?_, fun _ => ⟨h, rfl⟩⟩
    simp only [Option.isSome_some, if_true, ends_bind, ends_invoke]
    split
    · exact ⟨armedFor_of_disarmed rfl, rfl⟩
    · rename_i hok
      exact ⟨armedFor_of_request (.speak text) rfl (by simp) (by simpa using hok), rfl⟩
  · exact ⟨h, rfl⟩

/-- `HandleEvent` does not arm the session unless it accepts a text or makes a request, and it keeps the
state of its first section unless it fails. -/
theorem handleEvent_armedFor (received : VoiceEvent) (htext : ¬ AcceptsText s received) :
    (handleEvent received).Ends answers (fun s' calls _ => ArmedFor answers s s' calls ∧
      (s'.state = (s.receive received).2.state ∨ s'.state = .failed)) s [] := by
  unfold handleEvent finishEvent
  rw [ends_bind, ends_atomic, ends_bind]
  refine (reportEvent_same received _).imp fun current calls goesOn hsame => ?_
  have hcurrent : ArmedFor answers s current calls ∧
      (current.state = (s.receive received).2.state ∨ current.state = .failed) := by
    rcases hsame with rfl | ⟨_, rfl⟩
    · exact ⟨receive_armedFor received htext, Or.inl rfl⟩
    · exact ⟨armedFor_of_failed rfl, Or.inr rfl⟩
  split
  · rw [ends_bind]
    refine (requestPendingWakeWord_armedFor _ _ hcurrent.1).imp fun next calls _ hnext => ?_
    refine (requestPendingSpeech_armedFor _ hnext.1).imp fun last calls _ hlast => ⟨hlast.1, ?_⟩
    rw [hlast.2, hnext.2]
    exact hcurrent.2
  · exact hcurrent

/-- A frame changes nothing that matters here, and only a frame of the generation is played. -/
theorem handleAudio_current (frame : AudioFrame) :
    (handleAudio frame).Ends answers (fun s' calls _ => (s'.responseArmed = s.responseArmed ∧
      s'.state = s.state ∧ s'.generation = s.generation) ∧
      ∀ played, .push played ∈ calls → played.generation = s.generation) s [] := by
  unfold handleAudio
  rw [ends_bind, ends_peek]
  by_cases haccepts : s.frameRefusal frame = none
  · have hgeneration : frame.generation = s.generation := by
      unfold frameRefusal acceptsFrame at haccepts
      split at haccepts
      · cases haccepts
      · split at haccepts
        · cases haccepts
        · rename_i h
          simp only [Bool.not_eq_true', Bool.not_eq_false, Bool.and_eq_true, decide_eq_true_eq] at h
          exact h.1.1.1
    rw [haccepts, ends_bind, ends_invoke, ends_bind, ends_acquire]
    refine ⟨fun _ => ⟨⟨rfl, rfl, rfl⟩, fun played hplayed => ?_⟩,
      fun _ => ⟨⟨rfl, rfl, rfl⟩, fun played hplayed => ?_⟩⟩
    · have hframe : played = frame := by simpa using hplayed
      rw [hframe, hgeneration]
    · have hframe : played = frame := by simpa using hplayed
      rw [hframe, hgeneration]
  · obtain ⟨status, hstatus⟩ := Option.ne_none_iff_exists'.1 haccepts
    rw [hstatus]
    exact ⟨⟨rfl, rfl, rfl⟩, fun _ hplayed => absurd hplayed List.not_mem_nil⟩

/-! ## Frames -/

/-- The call is not for a frame. -/
def PortCall.isNotPush : PortCall → Prop
  | .push _ => False
  | _ => True

theorem operation_neverPushes (op : Operation) : op.program.Issues PortCall.isNotPush := by
  cases op
  all_goals
    simp only [Operation.program, start, negotiate, openAudio, beginProviderCapture, beginCapture,
      beginInputCapture, endCapture, speak, notifyLocalWakeWord, interrupt,
      interruptAndNotifyLocalWakeWord, confirmAtOnce, interruptAndSpeak, speakAtOnce, stop]
    -- the programs are taken as they are written: unfolding them to match a rule is not wanted
    repeat' first
      | with_reducible_and_instances first
        | exact issues_pure _
        | refine issues_fail fun _ => ?_
        | refine issues_emit fun _ => ?_
        | refine issues_notify ?_
        | refine issues_status ?_
        | refine issues_ask ?_
        | refine issues_invokeIf ?_
        | exact issues_atomic _
        | refine Issues.bind ?_ fun _ => ?_
      | split
      | exact issues_atomic _
      | exact trivial

theorem handleEvent_neverPushes (received : VoiceEvent) :
    (handleEvent received).Issues PortCall.isNotPush := by
  unfold handleEvent finishEvent reportEvent reportAborted reportKind reportTtsStarted
    requestPendingWakeWord requestPendingSpeech
  repeat' first
    | with_reducible_and_instances first
      | exact issues_pure _
      | refine issues_emit fun _ => ?_
      | refine issues_notify ?_
      | refine issues_status ?_
      | refine issues_invokeIf ?_
      | exact issues_atomic _
      | refine Issues.bind ?_ fun _ => ?_
    | split
    | exact issues_atomic _
    | exact trivial

/-- Only frames of the generation are played. -/
theorem push_current (input : Input) {frame : AudioFrame} (h : .push frame ∈ (input.perform s).2) :
    frame.generation = s.generation := by
  cases input with
  | operation op answers => exact ((operation_neverPushes op).run answers s _ h).elim
  | event received answers => exact ((handleEvent_neverPushes received).run answers s _ h).elim
  | audio audioFrame answers => exact (handleAudio_current audioFrame).run.2 frame h

/-! ## Steps -/

theorem operation_armedFor (op : Operation) (hleaves : ¬ LeavesArmed s (.operation op answers)) :
    op.program.Ends answers (fun s' calls _ => ArmedFor answers s s' calls) s [] := by
  cases op with
  | start config => exact start_armedFor config
  | beginProviderCapture => exact beginProviderCapture_armedFor
  | beginCapture => exact beginCapture_armedFor
  | endCapture => exact endCapture_armedFor hleaves
  | speak text => exact speak_armedFor text
  | notifyLocalWakeWord wakeWord textResponse => exact notifyLocalWakeWord_armedFor wakeWord textResponse
  | interrupt => exact interrupt_armedFor
  | interruptAndNotifyLocalWakeWord wakeWord textResponse =>
      exact interruptAndNotifyLocalWakeWord_armedFor wakeWord textResponse
  | interruptAndSpeak text => exact interruptAndSpeak_armedFor text
  | stop => exact stop_armedFor

/-- The session takes speech if it has not failed. -/
def ExpectsSpeech (s : VoiceSession) : Prop :=
  s.responseArmed = true ∧ s.state ≠ .failed

theorem StaysArmed.not_breaksTurn {input : Input} (h : StaysArmed s (step s input))
    (hstarts : StartsSpeech s input → (step s input).state = .speaking) : ¬ BreaksTurn s input := by
  rintro (hgeneration | ⟨hspeaking | hstart, hnot⟩)
  · exact hgeneration h.2.2.1
  · exact hnot (h.2.2.2 hspeaking)
  · exact hnot (hstarts hstart)

/-- A step that leaves the session armed arms it, or does not break the turn of an armed session. -/
theorem step_armed {input : Input} (hleaves : ¬ LeavesArmed s input)
    (hexpects : ExpectsSpeech (step s input)) :
    Arms s input ∨ ExpectsSpeech s ∧ ¬ BreaksTurn s input := by
  obtain ⟨harmed, hstate⟩ := hexpects
  cases input with
  | operation op answers =>
      rcases (operation_armedFor op hleaves).run harmed hstate with hrequests | hstays
      · exact Or.inl hrequests
      · exact Or.inr ⟨⟨hstays.1, hstays.2.1⟩, hstays.not_breaksTurn fun hstarts => hstarts.elim⟩
  | event received answers =>
      by_cases htext : AcceptsText s received
      · exact Or.inl (Or.inl htext)
      · obtain ⟨harmedFor, hkept⟩ := (handleEvent_armedFor received htext).run
        rcases harmedFor harmed hstate with hrequests | hstays
        · exact Or.inl (Or.inr hrequests)
        · refine Or.inr ⟨⟨hstays.1, hstays.2.1⟩, hstays.not_breaksTurn fun hstarts => ?_⟩
          exact (hkept.resolve_right hstate).trans hstarts.2.2
  | audio frame answers =>
      obtain ⟨hsameArmed, hsameState, hsameGeneration⟩ := (handleAudio_current frame).run.1
      have hstays : StaysArmed s (step s (.audio frame answers)) :=
        ⟨hsameArmed ▸ harmed, hsameState ▸ hstate, hsameGeneration, fun h => hsameState.trans h⟩
      exact Or.inr ⟨⟨hstays.1, hstays.2.1⟩, hstays.not_breaksTurn fun hstarts => hstarts.elim⟩

/-! ## Runs -/

/-- A session that has not failed and is armed was armed in its turn. -/
theorem armedSince_of_armed {inputs : List Input}
    (hok : Run.AllSteps step (fun s input => ¬ LeavesArmed s input) {} inputs)
    (hexpects : ExpectsSpeech (session inputs)) : ArmedSince inputs :=
  Run.since_of_allSteps (fun _ _ => step_armed) (fun h => absurd h.1 Bool.false_ne_true) hok hexpects

/-- Speech that starts was asked for in its turn. -/
theorem armedSince_of_startsSpeech {inputs : List Input} {input : Input}
    (hok : Run.AllSteps step (fun s input => ¬ LeavesArmed s input) {} inputs)
    (hstarts : StartsSpeech (session inputs) input) :
    (session inputs).interruptFencePending = false ∧ ArmedSince inputs := by
  cases input with
  | operation op answers => exact hstarts.elim
  | audio frame answers => exact hstarts.elim
  | event received answers =>
      obtain ⟨hkind, hnot, hspeaking⟩ := hstarts
      have hreceived := receive_received received (session inputs)
      generalize ((session inputs).receive received).2 = s' at hreceived hspeaking
      cases hreceived with
      | ttsStarted _ haccepts =>
          simp only [refusesSpeech, Bool.or_eq_false_iff, decide_eq_false_iff_not,
            Bool.not_eq_false', Bool.or_eq_true, decide_eq_true_eq] at haccepts
          obtain ⟨⟨⟨⟨hfence, harmed⟩, _⟩, _⟩, hfailed⟩ := haccepts
          exact ⟨hfence, armedSince_of_armed hok ⟨harmed.resolve_right hnot, hfailed⟩⟩
      | text haccepts _ => exact absurd (haccepts.1.symm.trans hkind) nofun
      | fence hstopped _ => exact absurd (hstopped.symm.trans hkind) nofun
      | ttsAborted hstopped _ => exact absurd (hstopped.symm.trans hkind) nofun
      | ttsStopped hstopped _ => exact absurd (hstopped.symm.trans hkind) nofun
      | disconnected _ => cases hspeaking
      | connected _ => cases hspeaking
      | same => exact absurd hspeaking hnot
      | echo => exact absurd hspeaking hnot

/-- If no `EndCapture` leaves an old request armed, then speech starts only in the turn that asked for
it. -/
theorem speechIsCurrent_of_allSteps (inputs : List Input)
    (hok : Run.AllSteps step (fun s input => ¬ LeavesArmed s input) {} inputs) :
    SpeechIsCurrent inputs := by
  intro done input hdone
  have hbefore := Run.allSteps_iff_forall_prefix.1 hok
  have hdoneOk : Run.AllSteps step (fun s input => ¬ LeavesArmed s input) {} done :=
    Run.allSteps_iff_forall_prefix.2 fun before next hnext =>
      hbefore before next (hnext.trans ((List.prefix_append done [input]).trans hdone))
  exact ⟨armedSince_of_startsSpeech hdoneOk, fun _ => push_current input⟩

instance (answers : Answers) (calls : List PortCall) : Decidable (Requests answers calls) :=
  inferInstanceAs (Decidable (∃ call ∈ calls, _))

instance (s : VoiceSession) (received : VoiceEvent) : Decidable (AcceptsText s received) :=
  inferInstanceAs (Decidable (_ ∧ _ ∧ _))

instance (s : VoiceSession) (input : Input) : Decidable (Arms s input) :=
  match input with
  | .operation _ _ => inferInstanceAs (Decidable (Requests _ _))
  | .event _ _ => inferInstanceAs (Decidable (_ ∨ _))
  | .audio _ _ => inferInstanceAs (Decidable False)

instance (s : VoiceSession) (input : Input) : Decidable (StartsSpeech s input) :=
  match input with
  | .operation _ _ => inferInstanceAs (Decidable False)
  | .event _ _ => inferInstanceAs (Decidable (_ ∧ _ ∧ _))
  | .audio _ _ => inferInstanceAs (Decidable False)

instance (s : VoiceSession) (input : Input) : Decidable (BreaksTurn s input) :=
  inferInstanceAs (Decidable (_ ∨ _))

/-- Ports that succeed, except that the provider does not stop listening. -/
def unstoppable : Answers
  | .providerStopCapture => { status := .error .unavailable "" }
  | port => willing port

/-- A session that starts, captures and hears a text. -/
def answeredTurn : List Input :=
  [.operation (.start { sessionId := "session", providerId := "provider" }) willing,
    .operation .beginCapture willing, .event { kind := .asrText, generation := 1, text := "text" } willing]

/-- Speech of the turn that heard the text. -/
theorem answer_is_current :
    SpeechIsCurrent (answeredTurn ++ [.event { kind := .ttsStarted, generation := 1 } willing]) :=
  speechIsCurrent_of_allSteps _ ⟨nofun, nofun, nofun, nofun, trivial⟩

/-- The answer of a turn that a failed `EndCapture` has ended. -/
theorem answer_of_ended_turn_starts :
    ¬ SpeechIsCurrent (answeredTurn ++ [.operation .endCapture unstoppable] ++
      [.event { kind := .ttsStarted, generation := 2 } willing]) := by
  intro h
  have harmed := ((h _ _ List.prefix_rfl).1 (by decide +kernel)).2
  rcases Run.since_concat.1 harmed with harms | hsince
  · exact absurd harms (by decide +kernel)
  · exact hsince.2 (by decide +kernel)

end VoiceLife.Voice
