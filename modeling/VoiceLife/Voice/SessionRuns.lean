import VoiceLife.Lib.Run
import VoiceLife.Voice.VoiceSession

/-! # Runs of a voice session

Operations, provider events and frames one after the other, each with any answers of the ports.
-/

namespace VoiceLife.Voice

open Process VoiceSession

/-- What the ports answer to an input. -/
abbrev Answers := PortCall → Reply

/-- Ports that succeed. -/
def willing : Answers
  | .audioFormats => {}
  | _ => { providerId := "provider" }

/-- The call asks the provider for speech. -/
def PortCall.requestsSpeech : PortCall → Bool
  | .speak _ => true
  | .notifyLocalWakeWord _ _ => true
  | _ => false

/-- An input of the session. -/
inductive Input where
  | operation (operation : Operation) (answers : Answers)
  | event (event : VoiceEvent) (answers : Answers)
  | audio (frame : AudioFrame) (answers : Answers)

/-- The session after an input, and the port calls on the way. -/
def Input.perform (s : VoiceSession) : Input → VoiceSession × List PortCall
  | .operation op answers =>
      let outcome := op.program.run answers s
      (outcome.1, outcome.2.1)
  | .event received answers =>
      let outcome := (handleEvent received).run answers s
      (outcome.1, outcome.2.1)
  | .audio frame answers =>
      let outcome := (handleAudio frame).run answers s
      (outcome.1, outcome.2.1)

/-- The session after an input. -/
def step (s : VoiceSession) (input : Input) : VoiceSession :=
  (input.perform s).1

/-- The session after inputs from the beginning. -/
def session (inputs : List Input) : VoiceSession :=
  Run.run step {} inputs

theorem session_concat (inputs : List Input) (input : Input) :
    session (inputs ++ [input]) = step (session inputs) input :=
  List.foldl_append

/-! ## Events -/

/-- The recognized text is accepted. -/
def AcceptsText (s : VoiceSession) (received : VoiceEvent) : Prop :=
  received.kind = .asrText ∧ (s.receive received).1.stale = false ∧
    (s.receive received).1.wakeEchoSuppressed = false

/-- What the first section of `HandleEvent` can do to the session. -/
inductive Received (received : VoiceEvent) (s : VoiceSession) : VoiceSession → Prop where
  | same : Received received s s
  | disconnected (haccepts : s.acceptsDisconnected received = true) : Received received s s.disconnected
  | echo : Received received s { s with pendingLocalWakeEcho := "" }
  | text (haccepts : AcceptsText s received) (hstate : s.state = .capturing ∨ s.state = .ready) :
      Received received s s.recognized
  | connected (haccepts : s.acceptsConnected received = true) :
      Received received s { s with state := .ready }
  | ttsStarted (hkind : received.kind = .ttsStarted) (haccepts : s.refusesSpeech = false) :
      Received received s s.speechStarted
  | fence (hkind : received.kind = .ttsStopped) (hfence : s.interruptFencePending = true) :
      Received received s s.fenceReached
  | ttsAborted (hkind : received.kind = .ttsStopped) (hstate : s.state = .speaking) :
      Received received s s.advance.speechStopped
  | ttsStopped (hkind : received.kind = .ttsStopped) (hstate : s.state = .speaking) :
      Received received s s.speechStopped

theorem receiveAsrText_received {s : VoiceSession} {received : VoiceEvent}
    (hkind : received.kind = .asrText) (hreceive : s.receive received = s.receiveAsrText received.text) :
    Received received s (s.receiveAsrText received.text).2 := by
  by_cases hecho : s.pendingLocalWakeEcho ≠ "" ∧ received.text = s.pendingLocalWakeEcho
  · rw [receiveAsrText, if_pos hecho]
    exact .echo
  · by_cases hstate : s.state ≠ .capturing ∧ ¬ (s.state = .ready ∧ s.awaitingFinalAsr = true)
    · rw [receiveAsrText, if_neg hecho, if_pos hstate]
      exact .same
    · have htext : s.receiveAsrText received.text = ({}, s.recognized) := by
        rw [receiveAsrText, if_neg hecho, if_neg hstate]
      rw [htext] at hreceive ⊢
      refine .text ⟨hkind, by rw [hreceive], by rw [hreceive]⟩ ?_
      by_cases hcapturing : s.state = .capturing
      · exact Or.inl hcapturing
      · exact Or.inr (not_not.1 (not_and.1 hstate hcapturing)).1

theorem receive_received (received : VoiceEvent) (s : VoiceSession) :
    Received received s (s.receive received).2 := by
  by_cases hgeneration : received.generation ≠ s.generation
  · rw [receive, if_pos hgeneration]
    exact .same
  · by_cases hdisconnected : s.acceptsDisconnected received = true
    · rw [receive, if_neg hgeneration, if_pos hdisconnected]
      exact .disconnected hdisconnected
    · by_cases htext : received.kind = .asrText
      · have hreceive : s.receive received = s.receiveAsrText received.text := by
          rw [receive, if_neg hgeneration, if_neg hdisconnected, if_pos htext]
        rw [hreceive]
        exact receiveAsrText_received htext hreceive
      · rw [receive, if_neg hgeneration, if_neg hdisconnected, if_neg htext]
        split
        · rename_i hconnected
          exact .connected hconnected
        · split
          · rename_i hstarted
            unfold receiveTtsStarted
            split
            · exact .same
            · rename_i haccepts
              exact .ttsStarted hstarted (Bool.eq_false_iff.2 haccepts)
          · split
            · rename_i hstopped
              unfold receiveTtsStopped
              split
              · rename_i hfence
                exact .fence hstopped hfence
              · split
                · rename_i haborted
                  exact .ttsAborted hstopped haborted.2.2
                · split
                  · rename_i hspeaking
                    exact .ttsStopped hstopped hspeaking
                  · exact .same
            · exact .same

/-! ## Outcomes of the building blocks -/

section Ends

variable {ρ : Type} {answers : Answers} {s : VoiceSession} {calls : List PortCall}

@[simp] theorem ends_atomic {post : VoiceSession → List PortCall → ρ → Prop}
    (body : VoiceSession → ρ × VoiceSession) :
    (atomic body).Ends answers post s calls ↔ post (body s).2 calls (body s).1 :=
  Iff.rfl

@[simp] theorem ends_peek {post : VoiceSession → List PortCall → ρ → Prop} (read : VoiceSession → ρ) :
    (peek read).Ends answers post s calls ↔ post s calls (read s) :=
  Iff.rfl

@[simp] theorem ends_update {post : VoiceSession → List PortCall → Unit → Prop}
    (write : VoiceSession → VoiceSession) :
    (update write).Ends answers post s calls ↔ post (write s) calls () :=
  Iff.rfl

theorem ends_acquire {post : VoiceSession → List PortCall → Option ρ → Prop}
    {allowed : VoiceSession → Prop} [DecidablePred allowed] {read : VoiceSession → ρ}
    {write : VoiceSession → VoiceSession} :
    (acquire allowed read write).Ends answers post s calls ↔
      (allowed s → post (write s) calls (some (read s))) ∧ (¬ allowed s → post s calls none) := by
  rw [acquire, ends_atomic]
  by_cases h : allowed s
  · simp [h]
  · simp [h]

@[simp] theorem ends_ask {post : VoiceSession → List PortCall → Reply → Prop} (port : PortCall) :
    (ask port).Ends answers post s calls ↔ post s (calls ++ [port]) (answers port) :=
  Iff.rfl

@[simp] theorem ends_invoke {post : VoiceSession → List PortCall → Status → Prop} (port : PortCall) :
    (invoke port).Ends answers post s calls ↔ post s (calls ++ [port]) (answers port).status :=
  Iff.rfl

@[simp] theorem ends_notify {post : VoiceSession → List PortCall → Unit → Prop} (port : PortCall) :
    (notify port).Ends answers post s calls ↔ post s (calls ++ [port]) () :=
  Iff.rfl

@[simp] theorem ends_emit {post : VoiceSession → List PortCall → Unit → Prop} (event detail : String) :
    (emit event detail).Ends answers post s calls ↔
      post s (calls ++ [PortCall.evidence ⟨s.config.sessionId, s.generation, event, detail⟩]) () :=
  Iff.rfl

@[simp] theorem ends_invokeIf {post : VoiceSession → List PortCall → Status → Prop} (condition : Bool)
    (port : PortCall) :
    (invokeIf condition port).Ends answers post s calls ↔
      post s (if condition then calls ++ [port] else calls)
        (if condition then (answers port).status else .success) := by
  cases condition <;> rfl

/-- The reports of a program change nothing. -/
theorem reportAborted_same (effects : EventEffects) :
    (reportAborted effects).Ends answers (fun s' _ _ => s' = s) s calls := by
  unfold reportAborted
  split
  · simp only [ends_bind, ends_notify, ends_invoke, ends_emit]
    split <;> rfl
  · simp only [ends_bind, ends_invoke, ends_emit]
    split <;> rfl

theorem reportTtsStarted_same (generation : ℕ) (effects : EventEffects) :
    (reportTtsStarted generation effects).Ends answers
      (fun s' _ _ => s' = s ∨ s.state = .speaking ∧ s' = s.failed) s calls := by
  unfold reportTtsStarted
  simp only [ends_bind, ends_invokeIf]
  generalize (if effects.stopInputForTts = true then _ else calls) = calls'
  generalize (if effects.stopInputForTts = true then _ else Status.success) = status
  split
  · simp only [ends_bind, ends_update, ends_emit]
    unfold failSpeaking
    split
    · rename_i hspeaking
      exact Or.inr ⟨hspeaking.2, rfl⟩
    · exact Or.inl rfl
  · exact Or.inl rfl

theorem reportKind_same (received : VoiceEvent) (effects : EventEffects) :
    (reportKind received effects).Ends answers
      (fun s' _ _ => s' = s ∨ s.state = .speaking ∧ s' = s.failed) s calls := by
  unfold reportKind
  cases received.kind with
  | ttsStarted => exact reportTtsStarted_same _ _
  | ttsSentenceStarted =>
      simp only [ends_bind, ends_peek]
      split <;> exact Or.inl rfl
  | _ => exact Or.inl rfl

/-- The reports of an event change nothing, unless the input does not stop for speech. -/
theorem reportEvent_same (received : VoiceEvent) (effects : EventEffects) :
    (reportEvent received effects).Ends answers
      (fun s' _ _ => s' = s ∨ s.state = .speaking ∧ s' = s.failed) s calls := by
  unfold reportEvent
  split
  · exact Or.inl rfl
  · split
    · exact Or.inl rfl
    · split
      · exact (ends_bind _ _).2 ((reportAborted_same effects).imp fun _ _ _ => Or.inl)
      · split
        · exact Or.inl rfl
        · exact reportKind_same received effects

end Ends

/-! ## Calls of the building blocks -/

section Issues

variable {ρ : Type} {good : PortCall → Prop}

theorem issues_atomic (body : VoiceSession → ρ × VoiceSession) : (atomic body).Issues good :=
  issues_atomically body

theorem issues_ask {port : PortCall} (h : good port) : (ask port).Issues good :=
  issues_invoke h

theorem issues_status {port : PortCall} (h : good port) : (invoke port).Issues good :=
  (issues_ask h).bind fun _ => issues_pure _

theorem issues_notify {port : PortCall} (h : good port) : (notify port).Issues good :=
  (issues_ask h).bind fun _ => issues_pure _

theorem issues_invokeIf {condition : Bool} {port : PortCall} (h : good port) :
    (invokeIf condition port).Issues good := by
  cases condition with
  | false => exact issues_pure _
  | true => exact issues_status h

theorem issues_emit {event detail : String} (h : ∀ evidence, good (.evidence evidence)) :
    (emit event detail).Issues good :=
  (issues_atomic _).bind fun _ => issues_notify (h _)

theorem issues_fail {event : String} {status : Status} (h : ∀ evidence, good (.evidence evidence)) :
    (fail event status).Issues good :=
  (issues_atomic _).bind fun _ => (issues_emit h).bind fun _ => issues_pure _

end Issues

end VoiceLife.Voice
