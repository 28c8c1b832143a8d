import VoiceLife.Contracts.Status
import VoiceLife.Lib.Run

/-! # `wake_gate_audio_input.cc`: one microphone for local wake words and for the cloud

The gate hands a physical frame to the wake word detector, to the audio sink or to nobody. `Listening` is
what it should listen to, read off the operations and their results; the gate agrees with it in every state
of a run exactly when no capture fails to start outside standby (`listens_rightly_iff`).
-/

namespace VoiceLife.Voice

/-! ## The gate -/

/-- `kCaptureBoundaryFrames`. -/
def kCaptureBoundaryFrames : ℕ := 4

/-- Nanoseconds of the steady clock in a millisecond. -/
def nanosecondsPerMillisecond : ℕ := 1000000

/-- `WakeGateAudioInput`; a sink is set or empty. -/
structure WakeGateAudioInput where
  localWakeEnabled : Bool := true
  audioSink : Bool := false
  wakeSink : Bool := false
  opened : Bool := false
  physicalRunning : Bool := false
  detectorRunning : Bool := false
  forwarding : Bool := false
  captureTransitioning : Bool := false
  captureBoundaryFramesToDrop : ℕ := 0
  wakeSuppressedUntil : ℕ := 0

/-- What the physical input and the detector answer to the calls of one operation. -/
structure PortAnswers where
  openInput : Status := Status.success
  startCapture : Status := Status.success
  stopCapture : Status := Status.success
  discardPendingInput : Status := Status.success
  detectorStart : Status := Status.success
  detectorStop : Status := Status.success

/-- Where `HandlePhysicalFrame` takes a frame. -/
inductive Selected where
  | nothing
  | audioSink
  | detector
deriving DecidableEq

/-- `Unavailable`. -/
def unavailable (message : String) : Status :=
  Status.error .unavailable message

namespace WakeGateAudioInput

variable (gate : WakeGateAudioInput) (answers : PortAnswers)

/-- `SetAudioSink`. -/
def setAudioSink (sink : Bool) : WakeGateAudioInput :=
  { gate with audioSink := sink }

/-- `SetWakeSink`. -/
def setWakeSink (sink : Bool) : WakeGateAudioInput :=
  { gate with wakeSink := sink }

/-- `Open`. -/
def openInput : Status × WakeGateAudioInput :=
  if gate.opened then (Status.success, gate)
  else if answers.openInput.ok then (Status.success, { gate with opened := true })
  else (answers.openInput, gate)

/-- `StartDetectorLocked`. -/
def startDetectorLocked : Status × WakeGateAudioInput :=
  if !gate.localWakeEnabled then (Status.success, gate)
  else if gate.detectorRunning then (Status.success, gate)
  else (answers.detectorStart, { gate with detectorRunning := answers.detectorStart.ok })

/-- `StopDetectorLocked`. -/
def stopDetectorLocked : Status × WakeGateAudioInput :=
  if !gate.detectorRunning then (Status.success, gate)
  else (answers.detectorStop, { gate with detectorRunning := !answers.detectorStop.ok })

/-- `StartStandby`. -/
def startStandby : Status × WakeGateAudioInput :=
  if !gate.opened then (unavailable "本地待机前必须先打开输入端口", gate)
  else if gate.forwarding then (unavailable "云端采集进行中，不能进入本地待机", gate)
  else if !gate.localWakeEnabled then
    if gate.physicalRunning then
      if answers.stopCapture.ok then (Status.success, { gate with physicalRunning := false })
      else (answers.stopCapture, gate)
    else (Status.success, gate)
  else
    let (status, started) := gate.startDetectorLocked answers
    if !status.ok then (status, started)
    else if started.physicalRunning then (Status.success, started)
    else if answers.startCapture.ok then (Status.success, { started with physicalRunning := true })
    else (answers.startCapture, (started.stopDetectorLocked answers).2)

/-- `SuppressLocalWakeFor`. -/
def suppressLocalWakeFor (now durationMs : ℕ) : WakeGateAudioInput :=
  let untilTime := now + durationMs * nanosecondsPerMillisecond
  { gate with wakeSuppressedUntil := max gate.wakeSuppressedUntil untilTime }

/-- The first section of `StartCapture`: it returns, or goes on with `clear_physical_queue`. -/
def beginCapture : Except Status Bool × WakeGateAudioInput :=
  if !gate.opened then (.error (unavailable "云端采集前必须先打开输入端口"), gate)
  else if gate.forwarding then (.error Status.success, gate)
  else
    let (stopStatus, stopped) := gate.stopDetectorLocked answers
    if !stopStatus.ok then (.error stopStatus, stopped)
    else
      let clearPhysicalQueue := stopped.physicalRunning
      (.ok clearPhysicalQueue,
        { stopped with
          captureTransitioning := clearPhysicalQueue
          captureBoundaryFramesToDrop := if clearPhysicalQueue then kCaptureBoundaryFrames else 0 })

/-- What the physical input answers between the sections of `StartCapture`. -/
def captureAnswer (answers : PortAnswers) (clearPhysicalQueue : Bool) : Status :=
  if clearPhysicalQueue then answers.discardPendingInput else answers.startCapture

/-- The last section of `StartCapture`, after a failure or a success of the physical input. -/
def endCapture (clearPhysicalQueue : Bool) : Status × WakeGateAudioInput :=
  let status := captureAnswer answers clearPhysicalQueue
  if !status.ok then
    (status, ({ gate with captureTransitioning := false }.startDetectorLocked answers).2)
  else
    (Status.success,
      { gate with captureTransitioning := false, physicalRunning := true, forwarding := true })

/-- `StopCapture`. -/
def stopCapture : Status × WakeGateAudioInput :=
  if !gate.opened then (Status.success, gate)
  else
    let quiet := { gate with forwarding := false }
    if !quiet.localWakeEnabled then
      if !quiet.physicalRunning then (Status.success, quiet)
      else (answers.stopCapture, { quiet with physicalRunning := !answers.stopCapture.ok })
    else quiet.stopDetectorLocked answers

/-- `Close`. -/
def close : WakeGateAudioInput :=
  let stopped := ({ gate with forwarding := false }.stopDetectorLocked answers).2
  { stopped with physicalRunning := false, audioSink := false, wakeSink := false, opened := false }

/-- `standby`. -/
def standby : Bool :=
  if !gate.localWakeEnabled then gate.opened && !gate.physicalRunning && !gate.forwarding
  else gate.opened && gate.physicalRunning && gate.detectorRunning && !gate.forwarding

/-- `HandlePhysicalFrame`. -/
def handlePhysicalFrame (now : ℕ) : Selected × WakeGateAudioInput :=
  if gate.captureTransitioning then (.nothing, gate)
  else if gate.forwarding then
    if gate.captureBoundaryFramesToDrop ≠ 0 then
      (.nothing, { gate with captureBoundaryFramesToDrop := gate.captureBoundaryFramesToDrop - 1 })
    else (if gate.audioSink then .audioSink else .nothing, gate)
  else if gate.detectorRunning && now ≥ gate.wakeSuppressedUntil then (.detector, gate)
  else (.nothing, gate)

/-- `HandleWakeWord`, and whether the word is accepted. -/
def handleWakeWord (now : ℕ) : Bool × WakeGateAudioInput :=
  if gate.forwarding || !gate.detectorRunning || now < gate.wakeSuppressedUntil then (false, gate)
  else (true, { gate with detectorRunning := false })

end WakeGateAudioInput

/-! ## What the gate should listen to -/

/-- What the operations so far ask the gate to listen to. -/
inductive ListeningMode where
  | idle
  | standby
  /-- A `StartCapture` is between its sections; it was or was not issued in standby. -/
  | opening (inStandby : Bool)
  /-- Capturing, with the physical frames since then; the physical input was or was not running before. -/
  | capturing (wasRunning : Bool) (frames : ℕ)
deriving DecidableEq

/-- The mode, and the time up to which local wake words are suppressed. -/
structure Listening where
  mode : ListeningMode := .idle
  suppressedUntil : ℕ := 0

/-- A `StartCapture` between its sections: what it was called with and whether the gate stood by. -/
structure PendingCapture where
  clearPhysicalQueue : Bool
  answers : PortAnswers
  wasStandby : Bool

/-- The gate, its pending `StartCapture`, and what it should listen to. -/
structure WatchedGate where
  gate : WakeGateAudioInput := {}
  pending : Option PendingCapture := none
  listening : Listening := {}

/-- The operations of the gate and the calls it gets from its ports, with the answers of the ports and the
time of the steady clock. -/
inductive GateOperation where
  | setAudioSink (sink : Bool)
  | setWakeSink (sink : Bool)
  | openInput (answers : PortAnswers)
  | startStandby (answers : PortAnswers)
  | suppressLocalWakeFor (now durationMs : ℕ)
  /-- The first section of `StartCapture`. -/
  | beginCapture (answers : PortAnswers)
  /-- The last section of `StartCapture`. -/
  | endCapture
  | stopCapture (answers : PortAnswers)
  | close (answers : PortAnswers)
  | physicalFrame (now : ℕ)
  | wakeWord (now : ℕ)

namespace WatchedGate

variable (watched : WatchedGate)

/-- `StartStandby`: when it succeeds, the gate should stand by. -/
def startStandby (answers : PortAnswers) : WatchedGate :=
  let (status, gate) := watched.gate.startStandby answers
  { watched with
    gate
    listening := { watched.listening with
      mode := if status.ok then .standby else watched.listening.mode } }

/-- `StartCapture` begins; a repeat and a refusal change nothing. -/
def beginCapture (answers : PortAnswers) : WatchedGate :=
  match watched.gate.beginCapture answers with
  | (.error _, gate) => { watched with gate }
  | (.ok clearPhysicalQueue, gate) =>
    { gate
      pending := some { clearPhysicalQueue, answers, wasStandby := watched.gate.standby }
      listening := { watched.listening with mode := .opening (watched.listening.mode == .standby) } }

/-- `StartCapture` returns: a capture begins, or it has failed and what was before goes on. -/
def endCapture (pending : PendingCapture) : WatchedGate :=
  let (status, gate) := watched.gate.endCapture pending.answers pending.clearPhysicalQueue
  { gate
    pending := none
    listening := { watched.listening with
      mode :=
        if status.ok then .capturing pending.clearPhysicalQueue 0
        else if watched.listening.mode = .opening true then .standby
        else .idle } }

/-- A physical frame. -/
def physicalFrame (now : ℕ) : WatchedGate :=
  { watched with
    gate := (watched.gate.handlePhysicalFrame now).2
    listening := { watched.listening with
      mode := match watched.listening.mode with
        | .capturing wasRunning frames => .capturing wasRunning (frames + 1)
        | mode => mode } }

/-- A wake word; an accepted one ends standby. -/
def wakeWord (now : ℕ) : WatchedGate :=
  let (accepted, gate) := watched.gate.handleWakeWord now
  { watched with
    gate
    listening := { watched.listening with
      mode := if accepted then .idle else watched.listening.mode } }

/-- One operation or call. The operations are serialised: none begins while `StartCapture` is between its
sections. -/
def step : GateOperation → WatchedGate
  | .setAudioSink sink => { watched with gate := watched.gate.setAudioSink sink }
  | .setWakeSink sink => { watched with gate := watched.gate.setWakeSink sink }
  | .physicalFrame now => watched.physicalFrame now
  | .wakeWord now => watched.wakeWord now
  | .endCapture =>
    match watched.pending with
    | some pending => watched.endCapture pending
    | none => watched
  | .suppressLocalWakeFor now durationMs =>
    { watched with
      gate := watched.gate.suppressLocalWakeFor now durationMs
      listening := { watched.listening with
        suppressedUntil :=
          max watched.listening.suppressedUntil (now + durationMs * nanosecondsPerMillisecond) } }
  | .openInput answers =>
    if watched.pending.isSome then watched
    else { watched with gate := (watched.gate.openInput answers).2 }
  | .startStandby answers => if watched.pending.isSome then watched else watched.startStandby answers
  | .beginCapture answers => if watched.pending.isSome then watched else watched.beginCapture answers
  | .stopCapture answers =>
    if watched.pending.isSome then watched
    else
      { watched with
        gate := (watched.gate.stopCapture answers).2
        listening := { watched.listening with mode := .idle } }
  | .close answers =>
    if watched.pending.isSome then watched
    else
      { watched with
        gate := watched.gate.close answers
        listening := { watched.listening with mode := .idle } }

/-- Whatever frame or wake word comes now, the gate treats it as it should. -/
def ListensRightly : Prop :=
  ∀ now,
    ((watched.gate.handlePhysicalFrame now).1 = .audioSink →
      ∃ wasRunning frames, watched.listening.mode = .capturing wasRunning frames ∧
        (wasRunning → kCaptureBoundaryFrames ≤ frames)) ∧
    ((watched.gate.handlePhysicalFrame now).1 = .detector →
      watched.listening.mode = .standby ∧ watched.listening.suppressedUntil ≤ now) ∧
    ((watched.gate.handleWakeWord now).1 = true →
      watched.listening.mode = .standby ∧ watched.listening.suppressedUntil ≤ now)

/-- A `StartCapture` that fails leaves standby as it was. -/
def KeepsStandby : GateOperation → Prop
  | .endCapture => ∀ pending, watched.pending = some pending →
      (watched.gate.endCapture pending.answers pending.clearPhysicalQueue).1.ok = false →
        (watched.endCapture pending).gate.standby = pending.wasStandby
  | _ => True

/-- A `StartCapture` for which the physical input fails was issued in standby. -/
def FailsInStandby : GateOperation → Prop
  | .endCapture => ∀ pending, watched.pending = some pending →
      (WakeGateAudioInput.captureAnswer pending.answers pending.clearPhysicalQueue).ok = false →
        watched.listening.mode = .opening true
  | _ => True

end WatchedGate

/-- The detector starts and stops when it is told to. -/
def PortAnswers.DetectorWorks (answers : PortAnswers) : Prop :=
  answers.detectorStart.ok = true ∧ answers.detectorStop.ok = true

/-- The operation is not one in which the detector fails. -/
def GateOperation.DetectorWorks : GateOperation → Prop
  | .openInput answers | .startStandby answers | .beginCapture answers | .stopCapture answers
  | .close answers => answers.DetectorWorks
  | _ => True

/-! ## The gate agrees with what it should listen to -/

namespace WatchedGate

/-- The gate is in the mode that it should be in. -/
def InMode (watched : WatchedGate) : ListeningMode → Prop
  | .idle => watched.pending = none ∧ watched.gate.forwarding = false ∧
      watched.gate.detectorRunning = false ∧ watched.gate.captureTransitioning = false
  | .standby => watched.pending = none ∧ watched.gate.forwarding = false ∧
      watched.gate.detectorRunning = true ∧ watched.gate.captureTransitioning = false ∧
      watched.gate.physicalRunning = true ∧ watched.gate.opened = true
  | .opening inStandby => ∃ pending, watched.pending = some pending ∧ pending.answers.DetectorWorks ∧
      watched.gate.forwarding = false ∧ watched.gate.detectorRunning = false ∧
      watched.gate.captureTransitioning = pending.clearPhysicalQueue ∧
      watched.gate.physicalRunning = pending.clearPhysicalQueue ∧
      watched.gate.captureBoundaryFramesToDrop
        = (if pending.clearPhysicalQueue then kCaptureBoundaryFrames else 0) ∧
      watched.gate.opened = true ∧ pending.wasStandby = inStandby ∧
      (inStandby = true → pending.clearPhysicalQueue = true)
  | .capturing wasRunning frames => watched.pending = none ∧ watched.gate.forwarding = true ∧
      watched.gate.detectorRunning = false ∧ watched.gate.captureTransitioning = false ∧
      watched.gate.captureBoundaryFramesToDrop
        = (if wasRunning then kCaptureBoundaryFrames - frames else 0) ∧
      watched.gate.opened = true

/-- The invariant of the runs. -/
structure Agrees (watched : WatchedGate) : Prop where
  enabled : watched.gate.localWakeEnabled = true
  suppressed : watched.gate.wakeSuppressedUntil = watched.listening.suppressedUntil
  inMode : watched.InMode watched.listening.mode

variable {watched : WatchedGate}

theorem agrees_start : Agrees {} :=
  ⟨rfl, rfl, rfl, rfl, rfl, rfl⟩

/-- The detector runs only in standby, and frames go to the audio sink only while capturing. -/
theorem Agrees.listensRightly (h : watched.Agrees) : watched.ListensRightly := by
  obtain ⟨-, hsuppressed, hmode⟩ := h
  intro now
  rw [← hsuppressed]
  unfold WakeGateAudioInput.handlePhysicalFrame WakeGateAudioInput.handleWakeWord
  generalize watched.listening.mode = mode at hmode
  cases mode with
  | idle =>
      obtain ⟨-, hforwarding, hdetector, htransitioning⟩ := hmode
      simp [hforwarding, hdetector, htransitioning]
  | standby =>
      obtain ⟨-, hforwarding, hdetector, htransitioning, -, -⟩ := hmode
      simp only [hforwarding, hdetector, htransitioning]
      by_cases hnow : now < watched.gate.wakeSuppressedUntil
      · simp [hnow, not_le.2 hnow]
      · simp [hnow, not_lt.1 hnow]
  | opening inStandby =>
      obtain ⟨pending, -, -, hforwarding, hdetector, -⟩ := hmode
      cases htransitioning : watched.gate.captureTransitioning <;> simp [hforwarding, hdetector]
  | capturing wasRunning frames =>
      obtain ⟨-, hforwarding, hdetector, htransitioning, hdrop, -⟩ := hmode
      simp only [hforwarding, hdetector, htransitioning]
      by_cases hzero : watched.gate.captureBoundaryFramesToDrop = 0
      · refine ⟨fun _ => ⟨wasRunning, frames, rfl, fun hrunning => ?_⟩, ?_, by simp⟩
        · rw [hdrop, if_pos hrunning] at hzero
          omega
        · cases watched.gate.audioSink <;> simp [hzero]
      · simp [hzero]

variable {gate : WakeGateAudioInput}

theorem handlePhysicalFrame_quiet (hforwarding : gate.forwarding = false) (now : ℕ) :
    (gate.handlePhysicalFrame now).2 = gate := by
  unfold WakeGateAudioInput.handlePhysicalFrame
  rw [hforwarding]
  split
  · rfl
  · split
    · contradiction
    · split <;> rfl

theorem handlePhysicalFrame_capturing (hforwarding : gate.forwarding = true)
    (htransitioning : gate.captureTransitioning = false) (now : ℕ) :
    (gate.handlePhysicalFrame now).2
      = { gate with captureBoundaryFramesToDrop := gate.captureBoundaryFramesToDrop - 1 } := by
  unfold WakeGateAudioInput.handlePhysicalFrame
  rw [hforwarding, htransitioning]
  by_cases hzero : gate.captureBoundaryFramesToDrop = 0
  · simp only [hzero]
    cases gate
    simp_all
  · simp [hzero]

theorem Agrees.physicalFrame (h : watched.Agrees) (now : ℕ) : (watched.physicalFrame now).Agrees := by
  obtain ⟨henabled, hsuppressed, hmode⟩ := h
  generalize hlistening : watched.listening.mode = mode at hmode
  cases mode with
  | capturing wasRunning frames =>
      obtain ⟨hpending, hforwarding, hdetector, htransitioning, hdrop, hopened⟩ := hmode
      rw [WatchedGate.physicalFrame, handlePhysicalFrame_capturing hforwarding htransitioning, hlistening]
      refine ⟨henabled, hsuppressed, hpending, hforwarding, hdetector, htransitioning, ?_, hopened⟩
      dsimp only
      rw [hdrop]
      split <;> rfl
  | idle =>
      rw [WatchedGate.physicalFrame, handlePhysicalFrame_quiet hmode.2.1, hlistening]
      exact ⟨henabled, hsuppressed, hmode⟩
  | standby =>
      rw [WatchedGate.physicalFrame, handlePhysicalFrame_quiet hmode.2.1, hlistening]
      exact ⟨henabled, hsuppressed, hmode⟩
  | opening inStandby =>
      obtain ⟨pending, hpending, hworks, hforwarding, hrest⟩ := hmode
      rw [WatchedGate.physicalFrame, handlePhysicalFrame_quiet hforwarding, hlistening]
      exact ⟨henabled, hsuppressed, pending, hpending, hworks, hforwarding, hrest⟩

theorem Agrees.wakeWord (h : watched.Agrees) (now : ℕ) : (watched.wakeWord now).Agrees := by
  have hright := (h.listensRightly now).2.2
  unfold WatchedGate.wakeWord
  unfold WakeGateAudioInput.handleWakeWord at hright ⊢
  split at hright
  · rename_i hrefused
    rw [if_pos hrefused]
    exact ⟨h.enabled, h.suppressed, h.inMode⟩
  · rename_i haccepted
    rw [if_neg haccepted]
    -- an accepted word ends standby
    obtain ⟨hstandby, -⟩ := hright rfl
    have hmode := h.inMode
    rw [hstandby] at hmode
    obtain ⟨hpending, hforwarding, -, htransitioning, -⟩ := hmode
    exact ⟨h.enabled, h.suppressed, hpending, hforwarding, rfl, htransitioning⟩

variable {answers : PortAnswers}

theorem startDetectorLocked_works
    (henabled : gate.localWakeEnabled = true) (hworks : answers.DetectorWorks) :
    (gate.startDetectorLocked answers).1.ok = true ∧
      (gate.startDetectorLocked answers).2 = { gate with detectorRunning := true } := by
  unfold WakeGateAudioInput.startDetectorLocked
  rw [henabled]
  cases hrunning : gate.detectorRunning with
  | true =>
      refine ⟨rfl, ?_⟩
      cases gate
      simp_all
  | false => exact ⟨hworks.1, by simp [hworks.1]⟩

theorem stopDetectorLocked_works (hworks : answers.DetectorWorks) :
    (gate.stopDetectorLocked answers).1.ok = true ∧
      (gate.stopDetectorLocked answers).2 = { gate with detectorRunning := false } := by
  unfold WakeGateAudioInput.stopDetectorLocked
  cases hrunning : gate.detectorRunning with
  | true => exact ⟨hworks.2, by simp [hworks.2]⟩
  | false =>
      refine ⟨rfl, ?_⟩
      cases gate
      simp_all

/-- What is known of a gate that is not opening. -/
theorem Agrees.of_pending_none (h : watched.Agrees) (hpending : watched.pending = none) :
    watched.gate.captureTransitioning = false ∧
      (watched.gate.forwarding = true → watched.gate.opened = true ∧ watched.gate.detectorRunning = false ∧
        watched.listening.mode ≠ .standby) ∧
      (watched.listening.mode = .standby ↔ watched.gate.detectorRunning = true) ∧
      (watched.gate.detectorRunning = true → watched.gate.physicalRunning = true ∧ watched.gate.opened = true) := by
  have hmode := h.inMode
  generalize watched.listening.mode = mode at hmode ⊢
  cases mode with
  | idle =>
      obtain ⟨-, hforwarding, hdetector, htransitioning⟩ := hmode
      simp [hforwarding, hdetector, htransitioning]
  | standby =>
      obtain ⟨-, hforwarding, hdetector, htransitioning, hphysical, hopened⟩ := hmode
      simp [hforwarding, hdetector, htransitioning, hphysical, hopened]
  | opening inStandby =>
      obtain ⟨pending, hsome, -⟩ := hmode
      rw [hpending] at hsome
      cases hsome
  | capturing wasRunning frames =>
      obtain ⟨-, hforwarding, hdetector, htransitioning, -, hopened⟩ := hmode
      simp [hforwarding, hdetector, htransitioning, hopened]

theorem startStandby_cases (henabled : gate.localWakeEnabled = true) (hworks : answers.DetectorWorks) :
    (∃ status : Status, status.ok = false ∧ gate.startStandby answers = (status, gate)) ∨
    (gate.opened = true ∧ gate.forwarding = false ∧ gate.startStandby answers
      = (Status.success, { gate with detectorRunning := true, physicalRunning := true })) ∨
    (gate.physicalRunning = false ∧ answers.startCapture.ok = false ∧ gate.startStandby answers
      = (answers.startCapture, { gate with detectorRunning := false })) := by
  by_cases hopened : gate.opened = true
  · by_cases hforwarding : gate.forwarding = true
    · exact .inl ⟨_, rfl, by rw [WakeGateAudioInput.startStandby, hopened, hforwarding]; rfl⟩
    · right
      rw [Bool.not_eq_true] at hforwarding
      obtain ⟨hok, hstarted⟩ := startDetectorLocked_works henabled hworks
      have hstandby : gate.startStandby answers =
          if gate.physicalRunning then (Status.success, { gate with detectorRunning := true })
          else if answers.startCapture.ok then
            (Status.success, { gate with detectorRunning := true, physicalRunning := true })
          else (answers.startCapture,
            ({ gate with detectorRunning := true }.stopDetectorLocked answers).2) := by
        unfold WakeGateAudioInput.startStandby
        rw [if_neg (by simp [hopened]), if_neg (by simp [hforwarding]), if_neg (by simp [henabled])]
        generalize gate.startDetectorLocked answers = outcome at hok hstarted ⊢
        obtain ⟨status, started⟩ := outcome
        dsimp only at hok hstarted ⊢
        rw [if_neg (by simp [hok]), hstarted]
      rw [hstandby, (stopDetectorLocked_works hworks).2]
      by_cases hphysical : gate.physicalRunning = true
      · left
        rw [if_pos hphysical]
        refine ⟨hopened, hforwarding, ?_⟩
        rw [← hphysical]
      · rw [if_neg hphysical]
        rw [Bool.not_eq_true] at hphysical
        by_cases hstart : answers.startCapture.ok = true
        · rw [if_pos hstart]
          exact .inl ⟨hopened, hforwarding, rfl⟩
        · rw [if_neg hstart]
          exact .inr ⟨hphysical, by simpa using hstart, rfl⟩
  · rw [Bool.not_eq_true] at hopened
    exact .inl ⟨_, rfl, by rw [WakeGateAudioInput.startStandby, hopened]; rfl⟩

theorem Agrees.startStandby (h : watched.Agrees) (hpending : watched.pending = none)
    (hworks : answers.DetectorWorks) : (watched.startStandby answers).Agrees := by
  obtain ⟨htransitioning, hcapturing, hstandby, hrunning⟩ := h.of_pending_none hpending
  unfold WatchedGate.startStandby
  rcases startStandby_cases h.enabled hworks with
    ⟨status, hfailed, heq⟩ | ⟨hopened, hforwarding, heq⟩ | ⟨hphysical, hfailed, heq⟩
  · rw [heq]
    dsimp only
    rw [hfailed]
    exact ⟨h.enabled, h.suppressed, h.inMode⟩
  · rw [heq]
    exact ⟨h.enabled, h.suppressed, hpending, hforwarding, rfl, htransitioning, rfl, hopened⟩
  · -- the detector is stopped again, and it had not been running before
    have hdetector : watched.gate.detectorRunning = false := by
      rw [← Bool.not_eq_true]
      intro hon
      rw [(hrunning hon).1] at hphysical
      cases hphysical
    have hsame : { watched.gate with detectorRunning := false } = watched.gate := by
      rw [← hdetector]
    rw [heq, hsame]
    dsimp only
    rw [hfailed]
    exact ⟨h.enabled, h.suppressed, h.inMode⟩

theorem beginCapture_cases (hworks : answers.DetectorWorks) :
    (∃ status : Status, gate.beginCapture answers = (.error status, gate)) ∨
    (gate.opened = true ∧ gate.forwarding = false ∧ gate.beginCapture answers
      = (.ok gate.physicalRunning, { gate with
          detectorRunning := false
          captureTransitioning := gate.physicalRunning
          captureBoundaryFramesToDrop := if gate.physicalRunning then kCaptureBoundaryFrames else 0 })) := by
  by_cases hopened : gate.opened = true
  · by_cases hforwarding : gate.forwarding = true
    · exact .inl ⟨_, by rw [WakeGateAudioInput.beginCapture, hopened, hforwarding]; rfl⟩
    · rw [Bool.not_eq_true] at hforwarding
      refine .inr ⟨hopened, hforwarding, ?_⟩
      obtain ⟨hok, hstopped⟩ := stopDetectorLocked_works hworks
      unfold WakeGateAudioInput.beginCapture
      rw [if_neg (by simp [hopened]), if_neg (by simp [hforwarding])]
      generalize gate.stopDetectorLocked answers = outcome at hok hstopped ⊢
      obtain ⟨status, stopped⟩ := outcome
      dsimp only at hok hstopped ⊢
      rw [if_neg (by simp [hok]), hstopped]
  · rw [Bool.not_eq_true] at hopened
    exact .inl ⟨_, by rw [WakeGateAudioInput.beginCapture, hopened]; rfl⟩

theorem Agrees.beginCapture (h : watched.Agrees) (hpending : watched.pending = none)
    (hworks : answers.DetectorWorks) : (watched.beginCapture answers).Agrees := by
  obtain ⟨htransitioning, hcapturing, hstandby, hrunning⟩ := h.of_pending_none hpending
  unfold WatchedGate.beginCapture
  rcases beginCapture_cases hworks with ⟨status, heq⟩ | ⟨hopened, hforwarding, heq⟩
  · rw [heq]
    exact ⟨h.enabled, h.suppressed, h.inMode⟩
  · rw [heq]
    refine ⟨h.enabled, h.suppressed, _, rfl, hworks, hforwarding, rfl, rfl, rfl, rfl, hopened, ?_, ?_⟩
    · -- the gate stands by exactly when it should
      have hdetector : watched.gate.detectorRunning = (watched.listening.mode == .standby) := by
        rw [Bool.eq_iff_iff, ← hstandby, beq_iff_eq]
      unfold WakeGateAudioInput.standby
      rw [h.enabled, hopened, hforwarding, ← hdetector]
      cases hon : watched.gate.detectorRunning with
      | false => simp
      | true => simp [(hrunning hon).1]
    · intro hon
      exact (hrunning (hstandby.1 (beq_iff_eq.1 hon))).1

theorem Agrees.stopCapture (h : watched.Agrees) (hpending : watched.pending = none)
    (hworks : answers.DetectorWorks) : Agrees { watched with
      gate := (watched.gate.stopCapture answers).2
      listening := { watched.listening with mode := .idle } } := by
  obtain ⟨htransitioning, hcapturing, -, hrunning⟩ := h.of_pending_none hpending
  by_cases hopened : watched.gate.opened = true
  · have hstop : (watched.gate.stopCapture answers).2
        = { watched.gate with forwarding := false, detectorRunning := false } := by
      have henabled := h.enabled
      unfold WakeGateAudioInput.stopCapture
      rw [if_neg (by simp [hopened])]
      dsimp only
      rw [if_neg (by simp [henabled])]
      exact (stopDetectorLocked_works hworks).2
    rw [hstop]
    exact ⟨h.enabled, h.suppressed, hpending, rfl, rfl, htransitioning⟩
  · have hstop : (watched.gate.stopCapture answers).2 = watched.gate := by
      rw [Bool.not_eq_true] at hopened
      rw [WakeGateAudioInput.stopCapture, hopened]
      rfl
    rw [hstop]
    refine ⟨h.enabled, h.suppressed, hpending, ?_, ?_, htransitioning⟩
    · rw [← Bool.not_eq_true]
      exact fun hon => hopened (hcapturing hon).1
    · rw [← Bool.not_eq_true]
      exact fun hon => hopened (hrunning hon).2

theorem Agrees.close (h : watched.Agrees) (hpending : watched.pending = none)
    (hworks : answers.DetectorWorks) : Agrees { watched with
      gate := watched.gate.close answers
      listening := { watched.listening with mode := .idle } } := by
  obtain ⟨htransitioning, -⟩ := h.of_pending_none hpending
  unfold WakeGateAudioInput.close
  rw [(stopDetectorLocked_works hworks).2]
  exact ⟨h.enabled, h.suppressed, hpending, rfl, rfl, htransitioning⟩

/-- A `StartCapture` between its sections. -/
theorem Agrees.opening (h : watched.Agrees) {pending : PendingCapture} (hpending : watched.pending = some pending) :
    ∃ inStandby, watched.listening.mode = .opening inStandby := by
  have hmode := h.inMode
  generalize watched.listening.mode = mode at hmode ⊢
  cases mode with
  | opening inStandby => exact ⟨inStandby, rfl⟩
  | _ =>
      have hnone := hmode.1
      rw [hpending] at hnone
      cases hnone

theorem Agrees.suppressLocalWakeFor (h : watched.Agrees) (now durationMs : ℕ) :
    (watched.step (.suppressLocalWakeFor now durationMs)).Agrees := by
  refine ⟨h.enabled, ?_, h.inMode⟩
  simp only [WatchedGate.step, WakeGateAudioInput.suppressLocalWakeFor, h.suppressed]

theorem endCapture_failed {pending : PendingCapture}
    (henabled : gate.localWakeEnabled = true) (hworks : pending.answers.DetectorWorks)
    (hfailed : (WakeGateAudioInput.captureAnswer pending.answers pending.clearPhysicalQueue).ok = false) :
    gate.endCapture pending.answers pending.clearPhysicalQueue
      = (WakeGateAudioInput.captureAnswer pending.answers pending.clearPhysicalQueue,
          { gate with captureTransitioning := false, detectorRunning := true }) := by
  have henabled' : { gate with captureTransitioning := false }.localWakeEnabled = true := henabled
  unfold WakeGateAudioInput.endCapture
  dsimp only
  rw [if_pos (by simp [hfailed]), (startDetectorLocked_works henabled' hworks).2]

theorem endCapture_succeeded {pending : PendingCapture}
    (hok : (WakeGateAudioInput.captureAnswer pending.answers pending.clearPhysicalQueue).ok = true) :
    gate.endCapture pending.answers pending.clearPhysicalQueue
      = (Status.success,
          { gate with captureTransitioning := false, physicalRunning := true, forwarding := true }) := by
  unfold WakeGateAudioInput.endCapture
  dsimp only
  rw [if_neg (by simp [hok])]

theorem Agrees.openInput (h : watched.Agrees) (hpending : watched.pending = none) (answers : PortAnswers) :
    Agrees { watched with gate := (watched.gate.openInput answers).2 } := by
  have hsame : Agrees { watched with gate := watched.gate } := ⟨h.enabled, h.suppressed, h.inMode⟩
  unfold WakeGateAudioInput.openInput
  split
  · exact hsame
  · split
    · rename_i hclosed hopened
      refine ⟨h.enabled, h.suppressed, ?_⟩
      have hmode := h.inMode
      generalize watched.listening.mode = mode at hmode ⊢
      cases mode with
      | idle => exact hmode
      | standby => exact absurd hmode.2.2.2.2.2 hclosed
      | opening inStandby =>
          obtain ⟨pending, hsome, -⟩ := hmode
          rw [hpending] at hsome
          cases hsome
      | capturing wasRunning frames => exact absurd hmode.2.2.2.2.2 hclosed
    · exact hsame

/-- `StartCapture` returns: the gate is where it should be, unless it has failed outside standby. -/
theorem Agrees.endCapture (h : watched.Agrees) {pending : PendingCapture}
    (hpending : watched.pending = some pending) (hok : watched.FailsInStandby .endCapture) :
    (watched.endCapture pending).Agrees ∧ watched.KeepsStandby .endCapture := by
  obtain ⟨inStandby, hopening⟩ := h.opening hpending
  have hmode := h.inMode
  rw [hopening] at hmode
  obtain ⟨pending', hpending', hworks, hforwarding, hdetector, htransitioning, hphysical, hdrop, hopened,
    hstandby, hclear⟩ := hmode
  obtain rfl : pending = pending' := Option.some.inj (hpending.symm.trans hpending')
  cases hanswer : (WakeGateAudioInput.captureAnswer pending.answers pending.clearPhysicalQueue).ok with
  | true =>
      refine ⟨?_, fun other hother hfailed => ?_⟩
      · rw [WatchedGate.endCapture, endCapture_succeeded hanswer]
        refine ⟨h.enabled, h.suppressed, rfl, rfl, hdetector, rfl, ?_, hopened⟩
        exact hdrop
      · obtain rfl : pending = other := Option.some.inj (hpending.symm.trans hother)
        rw [endCapture_succeeded hanswer] at hfailed
        cases hfailed
  | false =>
      -- the capture was issued in standby, so the physical input is running
      have hin := hok pending hpending hanswer
      rw [hopening] at hin
      obtain rfl : inStandby = true := ListeningMode.opening.inj hin
      have hrunning := hphysical.trans (hclear rfl)
      have hend : watched.endCapture pending = { watched with
          gate := { watched.gate with captureTransitioning := false, detectorRunning := true }
          pending := none
          listening := { watched.listening with mode := .standby } } := by
        rw [WatchedGate.endCapture, endCapture_failed h.enabled hworks hanswer]
        dsimp only
        rw [hanswer, hopening]
        rfl
      refine ⟨?_, fun other hother hfailed => ?_⟩
      · rw [hend]
        exact ⟨h.enabled, h.suppressed, rfl, hforwarding, rfl, rfl, hrunning, hopened⟩
      · obtain rfl : pending = other := Option.some.inj (hpending.symm.trans hother)
        rw [hend, hstandby]
        unfold WakeGateAudioInput.standby
        dsimp only
        rw [h.enabled, hopened, hrunning, hforwarding]
        rfl

/-- A capture that fails to start outside standby starts the detector where nothing should listen. -/
theorem Agrees.not_listensRightly (h : watched.Agrees) {pending : PendingCapture}
    (hpending : watched.pending = some pending)
    (hfailed : (WakeGateAudioInput.captureAnswer pending.answers pending.clearPhysicalQueue).ok = false)
    (hopening : watched.listening.mode ≠ .opening true) : ¬ (watched.endCapture pending).ListensRightly := by
  have hmode := h.inMode
  obtain ⟨inStandby, hin⟩ := h.opening hpending
  rw [hin] at hmode hopening
  obtain ⟨pending', hpending', hworks, hforwarding, -⟩ := hmode
  obtain rfl : pending = pending' := Option.some.inj (hpending.symm.trans hpending')
  intro hright
  rw [WatchedGate.endCapture, endCapture_failed h.enabled hworks hfailed] at hright
  obtain ⟨-, hdetector, -⟩ := hright watched.gate.wakeSuppressedUntil
  have hselected : ({ watched.gate with captureTransitioning := false, detectorRunning := true }.handlePhysicalFrame
      watched.gate.wakeSuppressedUntil).1 = .detector := by
    simp [WakeGateAudioInput.handlePhysicalFrame, hforwarding]
  have hstandby := (hdetector hselected).1
  dsimp only at hstandby
  rw [hfailed, hin, if_neg (by simp), if_neg hopening] at hstandby
  cases hstandby

/-! ## The runs -/

/-- An operation that waits for a pending `StartCapture`. -/
theorem Agrees.serialised (h : watched.Agrees) {next : WatchedGate}
    (hnext : watched.pending = none → next.Agrees) :
    (if watched.pending.isSome then watched else next).Agrees := by
  split
  · exact h
  · rename_i hpending
    exact hnext (by simpa using hpending)

/-- What one operation keeps, unless it is a capture that fails outside standby. -/
theorem Agrees.step (h : watched.Agrees) {operation : GateOperation} (hworks : operation.DetectorWorks)
    (hok : watched.FailsInStandby operation) :
    (watched.step operation).Agrees ∧ watched.KeepsStandby operation := by
  cases operation with
  | endCapture =>
      cases hpending : watched.pending with
      | none =>
          refine ⟨?_, fun pending hsome => ?_⟩
          · rw [WatchedGate.step, hpending]
            exact h
          · rw [hpending] at hsome
            cases hsome
      | some pending =>
          rw [WatchedGate.step, hpending]
          exact h.endCapture hpending hok
  | setAudioSink sink => exact ⟨⟨h.enabled, h.suppressed, h.inMode⟩, trivial⟩
  | setWakeSink sink => exact ⟨⟨h.enabled, h.suppressed, h.inMode⟩, trivial⟩
  | suppressLocalWakeFor now durationMs => exact ⟨h.suppressLocalWakeFor now durationMs, trivial⟩
  | physicalFrame now => exact ⟨h.physicalFrame now, trivial⟩
  | wakeWord now => exact ⟨h.wakeWord now, trivial⟩
  | openInput answers => exact ⟨h.serialised fun hpending => h.openInput hpending answers, trivial⟩
  | startStandby answers => exact ⟨h.serialised fun hpending => h.startStandby hpending hworks, trivial⟩
  | beginCapture answers => exact ⟨h.serialised fun hpending => h.beginCapture hpending hworks, trivial⟩
  | stopCapture answers => exact ⟨h.serialised fun hpending => h.stopCapture hpending hworks, trivial⟩
  | close answers => exact ⟨h.serialised fun hpending => h.close hpending hworks, trivial⟩

theorem Agrees.failsInStandby (h : watched.Agrees) {operation : GateOperation}
    (hright : (watched.step operation).ListensRightly) : watched.FailsInStandby operation := by
  cases operation with
  | endCapture =>
      intro pending hpending hfailed
      by_contra hopening
      rw [WatchedGate.step, hpending] at hright
      exact h.not_listensRightly hpending hfailed hopening hright
  | _ => trivial

theorem Agrees.runs (h : watched.Agrees) {operations : List GateOperation}
    (hworks : ∀ operation ∈ operations, operation.DetectorWorks) :
    (Run.AllStates WatchedGate.step ListensRightly watched operations ∧
        Run.AllSteps WatchedGate.step KeepsStandby watched operations)
      ↔ Run.AllSteps WatchedGate.step FailsInStandby watched operations := by
  induction operations generalizing watched with
  | nil =>
      refine iff_of_true ⟨fun done hdone => ?_, trivial⟩ trivial
      rw [List.prefix_nil.1 hdone]
      exact h.listensRightly
  | cons operation operations ih =>
      have hfirst := hworks operation List.mem_cons_self
      have hrest : ∀ other ∈ operations, other.DetectorWorks :=
        fun other hmem => hworks other (List.mem_cons_of_mem _ hmem)
      rw [Run.allStates_cons]
      constructor
      · rintro ⟨⟨-, hstates⟩, -, hsteps⟩
        have hok := h.failsInStandby (hstates [] List.nil_prefix)
        exact ⟨hok, (ih (h.step hfirst hok).1 hrest).1 ⟨hstates, hsteps⟩⟩
      · rintro ⟨hok, hoks⟩
        obtain ⟨hnext, hkeeps⟩ := h.step hfirst hok
        obtain ⟨hstates, hsteps⟩ := (ih hnext hrest).2 hoks
        exact ⟨⟨h.listensRightly, hstates⟩, hkeeps, hsteps⟩

end WatchedGate

/-- In every state of a run the gate listens to what it should, and captures that fail leave standby as it
was, exactly when every capture that fails was issued in standby. -/
theorem listens_rightly_iff (operations : List GateOperation)
    (hworks : ∀ operation ∈ operations, operation.DetectorWorks) :
    (Run.AllStates WatchedGate.step WatchedGate.ListensRightly {} operations ∧
        Run.AllSteps WatchedGate.step WatchedGate.KeepsStandby {} operations)
      ↔ Run.AllSteps WatchedGate.step WatchedGate.FailsInStandby {} operations :=
  WatchedGate.agrees_start.runs hworks

/-- A wake word is heard in standby, and then frames go to the cloud. -/
def wakeOperations : List GateOperation :=
  [.setAudioSink true, .openInput {}, .startStandby {}, .physicalFrame 0, .wakeWord 1, .beginCapture {},
    .physicalFrame 2, .endCapture, .physicalFrame 3]

theorem listens_rightly_wake :
    (Run.AllStates WatchedGate.step WatchedGate.ListensRightly {} wakeOperations ∧
        Run.AllSteps WatchedGate.step WatchedGate.KeepsStandby {} wakeOperations)
      ↔ Run.AllSteps WatchedGate.step WatchedGate.FailsInStandby {} wakeOperations :=
  listens_rightly_iff wakeOperations
    (by simp [wakeOperations, GateOperation.DetectorWorks, PortAnswers.DetectorWorks])

/-- A capture is stopped, and the next one fails while the queue is cleared. -/
def failedRestart : List GateOperation :=
  [.openInput {}, .beginCapture {}, .endCapture, .stopCapture {},
    .beginCapture { discardPendingInput := unavailable "" }, .endCapture]

/-- The detector listens although nothing stands by. -/
theorem failed_restart_listens :
    (∀ operation ∈ failedRestart, operation.DetectorWorks) ∧
      ¬ (Run.AllStates WatchedGate.step WatchedGate.ListensRightly {} failedRestart ∧
        Run.AllSteps WatchedGate.step WatchedGate.KeepsStandby {} failedRestart) := by
  refine ⟨by simp [failedRestart, GateOperation.DetectorWorks, PortAnswers.DetectorWorks], ?_⟩
  rintro ⟨hstates, -⟩
  obtain ⟨-, hdetector, -⟩ := hstates.last 0
  exact absurd (hdetector (by decide)).1 (by decide)

end VoiceLife.Voice
