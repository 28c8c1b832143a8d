import VoiceLife.Contracts.Status
import VoiceLife.Voice.AudioPayload
import VoiceLife.Voice.VoiceSession

/-! # `pcm_frame_assembler.cc`: PCM samples cut into transport frames

The assembler collects samples until a frame is full and hands it to the sink in a slot of its pool. The
frames are pieces of the input in order, each starting on a channel boundary (`Cut`), also when a sink
fails or the pool is exhausted in the middle of a push; without failures nothing is lost
(`frames_cut`).
-/

namespace VoiceLife.Voice

/-! ## The code -/

/-- `kPcmPayloadPoolSlots`. -/
def kPcmPayloadPoolSlots : ℕ := 16

/-- `sizeof(int16_t)`. -/
def sampleBytes : ℕ := 2

/-- `PcmFrameAssembler`: `pending` is what `pending_samples_` holds. -/
structure PcmFrameAssembler where
  frameFormat : AudioFormat
  hardwarePeriodMs : ℕ
  frameSamples : ℕ := 0
  payloadPool : Option AudioPayloadPool := none
  pending : List Int16 := []
  prepared : Bool := false

/-- The frame that the sink is called with: its payload is a slot of the pool with the samples. -/
structure PcmFrame where
  format : AudioFormat
  slot : ℕ
  samples : List Int16

/-- What happens in a push: a sink call with its result, or no slot for a frame. -/
inductive PcmEvent where
  | delivered (frame : PcmFrame) (result : Status)
  | exhausted

/-- The samples of a push: a null pointer or the samples it points to. -/
structure PcmInput where
  samples : Option (List Int16)
  sampleCount : ℕ
  readable : ∀ values ∈ samples, values.length = sampleCount

namespace PcmFrameAssembler

/-- The constructor: `sizeMax` is the largest `std::size_t`. -/
def new (sizeMax : ℕ) (frameFormat : AudioFormat) (hardwarePeriodMs : ℕ) : PcmFrameAssembler where
  frameFormat
  hardwarePeriodMs
  frameSamples :=
    let frameNumerator := frameFormat.sampleRateHz * frameFormat.frameDurationMs
    let samplesPerChannel := frameNumerator / 1000
    if frameFormat.channels ≠ 0 ∧ frameNumerator % 1000 = 0 ∧ samplesPerChannel ≤ sizeMax / frameFormat.channels
    then samplesPerChannel * frameFormat.channels
    else 0

/-- `PcmFrameAssembler::Validate`. -/
def validate (sizeMax : ℕ) (assembler : PcmFrameAssembler) : Status :=
  let format := assembler.frameFormat
  if !format.valid ∨ format.codec ≠ .pcmS16Le ∨ format.bitsPerSample ≠ 16 ∨ format.channels = 0 ∨
      assembler.hardwarePeriodMs = 0 then
    Status.error .invalidArgument "PCM 组帧格式必须是合法的 S16LE"
  else
    let periodNumerator := format.sampleRateHz * assembler.hardwarePeriodMs
    let frameNumerator := format.sampleRateHz * format.frameDurationMs
    let samplesPerChannel := frameNumerator / 1000
    if periodNumerator % 1000 ≠ 0 ∨ frameNumerator % 1000 ≠ 0 ∨
        format.frameDurationMs % assembler.hardwarePeriodMs ≠ 0 ∨ samplesPerChannel = 0 ∨
        samplesPerChannel > sizeMax / format.channels ∨ assembler.frameSamples = 0 ∨
        assembler.frameSamples > maxPayloadBytes / sampleBytes then
      Status.error .invalidArgument "传输帧时长必须是硬件 period 的整数倍"
    else Status.success

/-- `PcmFrameAssembler::Prepare`: `pendingAllocated` and `poolAllocated` say whether there is memory. -/
def prepare (sizeMax : ℕ) (pendingAllocated poolAllocated : Bool) (assembler : PcmFrameAssembler) :
    Status × PcmFrameAssembler :=
  let validation := assembler.validate sizeMax
  if !validation.ok then (validation, assembler)
  else if assembler.prepared then (Status.success, assembler)
  else if !pendingAllocated then (Status.error .unavailable "PCM 组帧缓存分配失败", assembler)
  else
    match AudioPayloadPool.create sizeMax poolAllocated kPcmPayloadPoolSlots
        (assembler.frameSamples * sampleBytes) with
    | none => (Status.error .unavailable "PCM payload pool 分配失败", assembler)
    | some pool =>
      (Status.success, { assembler with payloadPool := some pool, pending := [], prepared := true })

/-- The loop of `Push`: `sink` answers the sink calls in turn. `none` means that `fuel` iterations were not
enough. -/
def pushLoop (sizeMax : ℕ) : ℕ → (sink : ℕ → Status) → PcmFrameAssembler → List Int16 →
    Option (Status × List PcmEvent × PcmFrameAssembler)
  | _, _, assembler, [] => some (Status.success, [], assembler)
  | 0, _, _, _ :: _ => none
  | fuel + 1, sink, assembler, samples =>
    let copied := min samples.length (assembler.frameSamples - assembler.pending.length)
    let filled := { assembler with pending := assembler.pending ++ samples.take copied }
    let rest := samples.drop copied
    if filled.pending.length ≠ assembler.frameSamples then pushLoop sizeMax fuel sink filled rest
    else if assembler.frameSamples > sizeMax / sampleBytes then
      some (Status.error .invalidArgument "PCM 组帧负载长度溢出", [], filled)
    else
      let (slot, pool) := match filled.payloadPool with
        | some pool => (pool.tryAcquire.1, some pool.tryAcquire.2)
        | none => (none, none)
      let emptied := { filled with payloadPool := pool, pending := [] }
      match slot with
      | none => some (Status.error .unavailable "PCM payload pool 已耗尽", [.exhausted], emptied)
      | some slot =>
        let frame := { format := assembler.frameFormat, slot, samples := filled.pending }
        let status := sink 0
        if !status.ok then some (status, [.delivered frame status], emptied)
        else
          (pushLoop sizeMax fuel (fun call => sink (call + 1)) emptied rest).map
            fun (result, events, next) => (result, .delivered frame status :: events, next)

/-- `PcmFrameAssembler::Push`. An iteration takes a sample at least. -/
def push (sizeMax : ℕ) (assembler : PcmFrameAssembler) (input : PcmInput) (sink : Option (ℕ → Status)) :
    Option (Status × List PcmEvent × PcmFrameAssembler) :=
  if !assembler.prepared then
    some (Status.error .unavailable "PCM 组帧器尚未准备", [], assembler)
  else if input.sampleCount ≠ 0 ∧ input.samples = none then
    some (Status.error .invalidArgument "PCM 组帧不能接收空样本指针", [], assembler)
  else
    match sink with
    | none => some (Status.error .invalidArgument "PCM 组帧缺少输出 sink", [], assembler)
    | some sink =>
      if assembler.frameSamples = 0 ∨ input.sampleCount % assembler.frameFormat.channels ≠ 0 then
        some (Status.error .invalidArgument "PCM 样本数不能组成完整声道帧", [], assembler)
      else pushLoop sizeMax input.sampleCount sink assembler (input.samples.getD [])

/-- `PcmFrameAssembler::Reset`. -/
def reset (assembler : PcmFrameAssembler) : PcmFrameAssembler :=
  { assembler with pending := [] }

/-- A payload of an earlier frame gives its slot back. -/
def releaseSlot (assembler : PcmFrameAssembler) (slot : ℕ) : PcmFrameAssembler :=
  { assembler with payloadPool := assembler.payloadPool.map (·.release slot) }

end PcmFrameAssembler

/-! ## Runs -/

/-- What can happen to an assembler. -/
inductive PcmOperation where
  | push (samples : List Int16) (sink : ℕ → Status)
  | release (slot : ℕ)
  | reset

/-- The samples that an operation pushes. -/
def PcmOperation.samples : PcmOperation → List Int16
  | .push samples _ => samples
  | _ => []

/-- The samples of all pushes. -/
def pushedSamples (operations : List PcmOperation) : List Int16 :=
  operations.flatMap PcmOperation.samples

namespace PcmFrameAssembler

/-- One operation. -/
def step (sizeMax : ℕ) (assembler : PcmFrameAssembler) : PcmOperation → Option (List PcmEvent × PcmFrameAssembler)
  | .push samples sink =>
    (assembler.push sizeMax { samples := some samples, sampleCount := samples.length, readable := by simp }
      (some sink)).map fun (_, events, next) => (events, next)
  | .release slot => some ([], assembler.releaseSlot slot)
  | .reset => some ([], assembler.reset)

/-- A list of operations. -/
def run (sizeMax : ℕ) (assembler : PcmFrameAssembler) : List PcmOperation → Option (List PcmEvent × PcmFrameAssembler)
  | [] => some ([], assembler)
  | operation :: operations => do
    let (events, next) ← assembler.step sizeMax operation
    let (events', last) ← next.run sizeMax operations
    return (events ++ events', last)

end PcmFrameAssembler

/-- The samples of the frames that were handed to the sink. -/
def deliveredSamples (events : List PcmEvent) : List (List Int16) :=
  events.filterMap fun
    | .delivered frame _ => some frame.samples
    | .exhausted => none

/-- A sink call that succeeded. -/
def PcmEvent.succeeded : PcmEvent → Bool
  | .delivered _ result => result.ok
  | .exhausted => false

/-! ## Pieces of the input -/

/-- `frames` are pieces of `input` of `size` samples, in order and apart from each other, each at a channel
boundary and none beyond `stop`. -/
def Cut (channels size : ℕ) (input : List Int16) (frames : List (List Int16)) (stop : ℕ) : Prop :=
  ∃ positions : List ℕ,
    List.Forall₂ (fun position frame => channels ∣ position ∧ position + size ≤ stop ∧
      frame.length = size ∧ frame = (input.drop position).take size) positions frames ∧
    positions.Pairwise (fun position next => position + size ≤ next)

theorem cut_nil (channels size : ℕ) (input : List Int16) (stop : ℕ) : Cut channels size input [] stop :=
  ⟨[], .nil, .nil⟩

/-- More input, and a later end. -/
theorem Cut.extend {channels size : ℕ} {input more : List Int16} {frames : List (List Int16)} {stop stop' : ℕ}
    (h : Cut channels size input frames stop) (hinput : stop ≤ input.length) (hstop : stop ≤ stop') :
    Cut channels size (input ++ more) frames stop' := by
  obtain ⟨positions, hframes, hpairwise⟩ := h
  refine ⟨positions, hframes.imp fun position frame hframe => ?_, hpairwise⟩
  obtain ⟨haligned, hend, hlength, hpiece⟩ := hframe
  refine ⟨haligned, hend.trans hstop, hlength, ?_⟩
  rw [hpiece, List.drop_append_of_le_length (by omega), List.take_append_of_le_length]
  rw [List.length_drop]
  omega

/-- One more frame after the others. -/
theorem Cut.concat {channels size : ℕ} {input before frame : List Int16} {frames : List (List Int16)}
    (h : Cut channels size input frames before.length) (hinput : input = before ++ frame)
    (haligned : channels ∣ before.length) (hsize : frame.length = size) :
    Cut channels size input (frames ++ [frame]) input.length := by
  obtain ⟨positions, hframes, hpairwise⟩ := h
  have hlength : input.length = before.length + size := by rw [hinput, List.length_append, hsize]
  refine ⟨positions ++ [before.length], List.rel_append (hframes.imp ?_) (.cons ?_ .nil), ?_⟩
  · rintro position frame ⟨hposition, hend, hlength', hpiece⟩
    exact ⟨hposition, by omega, hlength', hpiece⟩
  · refine ⟨haligned, hlength.ge, hsize, ?_⟩
    rw [hinput, List.drop_left, ← hsize, List.take_length]
  · rw [List.pairwise_append]
    refine ⟨hpairwise, List.pairwise_singleton _ _, ?_⟩
    intro position hposition next hnext
    rw [List.mem_singleton.1 hnext]
    obtain ⟨index, hindex, rfl⟩ := List.mem_iff_getElem.1 hposition
    exact (hframes.get hindex (by rw [← hframes.length_eq]; exact hindex)).2.1

/-! ## The assembler over a run -/

/-- An assembler that has been prepared. -/
structure Ready (sizeMax : ℕ) (assembler : PcmFrameAssembler) : Prop where
  prepared : assembler.prepared = true
  channels_dvd : assembler.frameFormat.channels ∣ assembler.frameSamples
  size : assembler.frameSamples ≤ sizeMax / sampleBytes
  pool : assembler.payloadPool.isSome = true
  short : assembler.pending.length < assembler.frameSamples

/-- What has become of the input: `frames` were delivered, and `pending` is the end of it. -/
def Framed (channels size : ℕ) (pending input : List Int16) (frames : List (List Int16)) : Prop :=
  ∃ before, input = before ++ pending ∧ channels ∣ before.length ∧
    Cut channels size input frames before.length

section Framed

variable {channels size : ℕ} {pending input : List Int16} {frames : List (List Int16)}

theorem framed_nil : Framed channels size [] [] [] :=
  ⟨[], rfl, dvd_zero _, cut_nil _ _ _ _⟩

theorem Framed.fill (h : Framed channels size pending input frames) (more : List Int16) :
    Framed channels size (pending ++ more) (input ++ more) frames := by
  obtain ⟨before, hinput, haligned, hcut⟩ := h
  refine ⟨before, by rw [hinput, List.append_assoc], haligned, hcut.extend ?_ le_rfl⟩
  rw [hinput, List.length_append]
  exact Nat.le_add_right _ _

/-- What is pending is dropped at a channel boundary. -/
theorem Framed.drop (h : Framed channels size pending input frames) (haligned : channels ∣ input.length) :
    Framed channels size [] input frames := by
  obtain ⟨before, hinput, -, hcut⟩ := h
  have hle : before.length ≤ input.length := by
    rw [hinput, List.length_append]
    exact Nat.le_add_right _ _
  refine ⟨input, (List.append_nil _).symm, haligned, ?_⟩
  have hextend : Cut channels size (input ++ []) frames input.length := hcut.extend hle hle
  rwa [List.append_nil] at hextend

/-- A full frame ends at a channel boundary. -/
theorem Framed.aligned (h : Framed channels size pending input frames) (hdvd : channels ∣ size)
    (hfull : pending.length = size) : channels ∣ input.length := by
  obtain ⟨before, hinput, haligned, -⟩ := h
  rw [hinput, List.length_append, hfull]
  exact dvd_add haligned hdvd

theorem Framed.deliver (h : Framed channels size pending input frames) (hdvd : channels ∣ size)
    (hfull : pending.length = size) : Framed channels size [] input (frames ++ [pending]) := by
  have haligned := h.aligned hdvd hfull
  obtain ⟨before, hinput, hbefore, hcut⟩ := h
  exact ⟨input, (List.append_nil _).symm, haligned, hcut.concat hinput hbefore hfull⟩

end Framed

/-- The two assemblers were constructed in the same way. -/
def SameFrames (assembler next : PcmFrameAssembler) : Prop :=
  next.frameFormat = assembler.frameFormat ∧ next.frameSamples = assembler.frameSamples

/-- How a push ends that has `samples` to read. -/
structure PushEnds (sizeMax : ℕ) (assembler : PcmFrameAssembler) (samples : List Int16)
    (events : List PcmEvent) (next : PcmFrameAssembler) : Prop where
  ready : Ready sizeMax next
  same : SameFrames assembler next
  framed : ∀ input frames,
    Framed assembler.frameFormat.channels assembler.frameSamples assembler.pending input frames →
      ∃ taken rest, samples = taken ++ rest ∧ (rest = [] ∨ next.pending = []) ∧
        Framed assembler.frameFormat.channels assembler.frameSamples next.pending (input ++ taken)
          (frames ++ deliveredSamples events)
  lossless : (∀ event ∈ events, event.succeeded = true) →
    (deliveredSamples events).flatten ++ next.pending = assembler.pending ++ samples
  formats : ∀ frame result, .delivered frame result ∈ events → frame.format = assembler.frameFormat

variable {sizeMax : ℕ}

/-- The loop goes on after some of the samples have been taken. -/
theorem PushEnds.step {assembler middle next : PcmFrameAssembler} {samples taken rest : List Int16}
    {events' : List PcmEvent} (h : PushEnds sizeMax middle rest events' next) (events : List PcmEvent)
    (hsamples : samples = taken ++ rest) (hsame : SameFrames assembler middle)
    (hframed : ∀ input frames,
      Framed assembler.frameFormat.channels assembler.frameSamples assembler.pending input frames →
        Framed assembler.frameFormat.channels assembler.frameSamples middle.pending (input ++ taken)
          (frames ++ deliveredSamples events))
    (hlossless : (deliveredSamples events).flatten ++ middle.pending = assembler.pending ++ taken)
    (hformats : ∀ frame result, .delivered frame result ∈ events → frame.format = assembler.frameFormat) :
    PushEnds sizeMax assembler samples (events ++ events') next := by
  obtain ⟨hformat, hsize⟩ := hsame
  refine ⟨h.ready, ⟨h.same.1.trans hformat, h.same.2.trans hsize⟩, ?_, ?_, ?_⟩
  · intro input frames hstart
    have hmiddle := h.framed (input ++ taken) (frames ++ deliveredSamples events)
    rw [hformat, hsize] at hmiddle
    obtain ⟨taken', rest', hrest, hend, hnext⟩ := hmiddle (hframed input frames hstart)
    refine ⟨taken ++ taken', rest', by rw [hsamples, hrest, List.append_assoc], hend, ?_⟩
    rw [deliveredSamples, List.filterMap_append, ← List.append_assoc, ← List.append_assoc]
    exact hnext
  · intro hsucceeded
    have hlater := h.lossless fun event hmem => hsucceeded event (List.mem_append_right _ hmem)
    rw [deliveredSamples, List.filterMap_append, List.flatten_append, List.append_assoc]
    calc (deliveredSamples events).flatten ++ ((deliveredSamples events').flatten ++ next.pending)
        = (deliveredSamples events).flatten ++ (middle.pending ++ rest) := by rw [hlater]
      _ = assembler.pending ++ samples := by
        rw [← List.append_assoc, hlossless, List.append_assoc, ← hsamples]
  · intro frame result hmem
    rcases List.mem_append.1 hmem with hmem | hmem
    · exact hformats frame result hmem
    · exact (h.formats frame result hmem).trans hformat

theorem pushLoop_ends (fuel : ℕ) : ∀ (sink : ℕ → Status) (assembler : PcmFrameAssembler) (samples : List Int16),
    samples.length ≤ fuel → Ready sizeMax assembler →
    ∃ status events next, assembler.pushLoop sizeMax fuel sink samples = some (status, events, next) ∧
      PushEnds sizeMax assembler samples events next := by
  have hnothing : ∀ assembler : PcmFrameAssembler, Ready sizeMax assembler →
      PushEnds sizeMax assembler [] [] assembler := by
    intro assembler hready
    refine ⟨hready, ⟨rfl, rfl⟩, ?_, fun _ => by simp [deliveredSamples], by simp⟩
    intro input frames hframed
    refine ⟨[], [], rfl, .inl rfl, ?_⟩
    simpa [deliveredSamples] using hframed
  induction fuel with
  | zero =>
      intro sink assembler samples hfuel hready
      obtain rfl := List.eq_nil_of_length_eq_zero (Nat.le_zero.1 hfuel)
      exact ⟨_, _, _, rfl, hnothing assembler hready⟩
  | succ fuel ih =>
      intro sink assembler samples hfuel hready
      obtain _ | ⟨first, others⟩ := samples
      · exact ⟨_, _, _, rfl, hnothing assembler hready⟩
      generalize hsamples : first :: others = samples at hfuel
      have hpositive : 0 < samples.length := by rw [← hsamples]; exact Nat.succ_pos _
      rw [← hsamples, PcmFrameAssembler.pushLoop, hsamples]
      swap
      · exact fun h => absurd h (List.cons_ne_nil first others)
      dsimp only
      have hshort := hready.short
      generalize hcopied : min samples.length (assembler.frameSamples - assembler.pending.length) = copied
      have hrest : (samples.drop copied).length ≤ fuel := by
        rw [List.length_drop]
        omega
      have hlength : (assembler.pending ++ samples.take copied).length = assembler.pending.length + copied := by
        rw [List.length_append, List.length_take]
        omega
      have hsplit := (List.take_append_drop copied samples).symm
      split
      · next hpartial =>
          -- the frame is not full, so all samples have been taken
          have hfilled : Ready sizeMax { assembler with pending := assembler.pending ++ samples.take copied } :=
            ⟨hready.prepared, hready.channels_dvd, hready.size, hready.pool, by
              dsimp only at hpartial ⊢
              omega⟩
          obtain ⟨status, events, next, heq, hends⟩ := ih sink _ _ hrest hfilled
          refine ⟨status, events, next, heq, ?_⟩
          refine hends.step [] hsplit ⟨rfl, rfl⟩ ?_ (by simp [deliveredSamples]) (by simp)
          intro input frames hframed
          simpa [deliveredSamples] using hframed.fill (samples.take copied)
      · next hfull =>
          rw [if_neg (not_lt.2 hready.size)]
          obtain ⟨pool, hpool⟩ := Option.isSome_iff_exists.1 hready.pool
          rw [hpool]
          dsimp only
          have hframe : (assembler.pending ++ samples.take copied).length = assembler.frameSamples :=
            not_not.1 hfull
          generalize hemptied : ({ assembler with
            payloadPool := some pool.tryAcquire.2, pending := [] } : PcmFrameAssembler) = emptied
          have hsame : SameFrames assembler emptied := by rw [← hemptied]; exact ⟨rfl, rfl⟩
          have hpending : emptied.pending = [] := by rw [← hemptied]
          have hready' : Ready sizeMax emptied := by
            rw [← hemptied]
            exact ⟨hready.prepared, hready.channels_dvd, hready.size, rfl, (Nat.zero_le _).trans_lt hshort⟩
          split
          · -- no slot: the frame and the rest of the samples are dropped
            refine ⟨_, _, _, rfl, hready', hsame, ?_, ?_, by simp⟩
            · intro input frames hframed
              have hfilled := hframed.fill (samples.take copied)
              refine ⟨samples.take copied, samples.drop copied, hsplit, .inr hpending, ?_⟩
              rw [hpending, deliveredSamples, List.filterMap_cons, List.filterMap_nil, List.append_nil]
              exact hfilled.drop (hfilled.aligned hready.channels_dvd hframe)
            · intro hsucceeded
              exact absurd (hsucceeded .exhausted List.mem_cons_self) (by decide)
          · next slot hslot =>
              have hdelivered : ∀ result : Status, deliveredSamples [.delivered
                  { format := assembler.frameFormat, slot, samples := assembler.pending ++ samples.take copied }
                  result] = [assembler.pending ++ samples.take copied] := fun _ => rfl
              have hframed' : ∀ input frames,
                  Framed assembler.frameFormat.channels assembler.frameSamples assembler.pending input frames →
                    Framed assembler.frameFormat.channels assembler.frameSamples emptied.pending
                      (input ++ samples.take copied) (frames ++ [assembler.pending ++ samples.take copied]) := by
                intro input frames hframed
                rw [hpending]
                exact (hframed.fill (samples.take copied)).deliver hready.channels_dvd hframe
              split
              · -- the sink failed: the rest of the samples is dropped
                next hfailed =>
                refine ⟨_, _, _, rfl, hready', hsame, ?_, ?_, ?_⟩
                · intro input frames hframed
                  exact ⟨samples.take copied, samples.drop copied, hsplit, .inr hpending,
                    hframed' input frames hframed⟩
                · intro hsucceeded
                  have hresult := hsucceeded _ List.mem_cons_self
                  rw [PcmEvent.succeeded] at hresult
                  simp [hresult] at hfailed
                · intro frame result hmem
                  rw [List.mem_singleton, PcmEvent.delivered.injEq] at hmem
                  rw [hmem.1]
              · obtain ⟨status, events, next, heq, hends⟩ := ih (fun call => sink (call + 1)) _ _ hrest hready'
                rw [heq]
                refine ⟨_, _, _, rfl, ?_⟩
                refine hends.step [.delivered _ _] hsplit hsame ?_ ?_ ?_
                · intro input frames hframed
                  exact hframed' input frames hframed
                · rw [hdelivered, hpending, List.flatten_singleton, List.append_nil]
                · intro frame result hmem
                  rw [List.mem_singleton, PcmEvent.delivered.injEq] at hmem
                  rw [hmem.1]

/-- A push of whole channel groups. -/
theorem push_ends {assembler : PcmFrameAssembler} (hready : Ready sizeMax assembler) {samples : List Int16}
    (hwhole : assembler.frameFormat.channels ∣ samples.length) (sink : ℕ → Status) :
    ∃ events next, assembler.step sizeMax (.push samples sink) = some (events, next) ∧
      PushEnds sizeMax assembler samples events next := by
  obtain ⟨status, events, next, heq, hends⟩ :=
    pushLoop_ends samples.length sink assembler samples le_rfl hready
  refine ⟨events, next, ?_, hends⟩
  have hpositive : assembler.frameSamples ≠ 0 := by
    have hshort := hready.short
    omega
  rw [PcmFrameAssembler.step, PcmFrameAssembler.push, hready.prepared]
  simp only [Bool.not_true, Bool.false_eq_true, if_false, reduceCtorEq, and_false, Option.getD_some]
  rw [if_neg (by simp [hpositive, Nat.mod_eq_zero_of_dvd hwhole]), heq]
  rfl

/-- The pushes are of whole channel groups. -/
def PcmOperation.Whole (channels : ℕ) (operation : PcmOperation) : Prop :=
  channels ∣ operation.samples.length

/-- What one operation does to an assembler that is ready. -/
theorem step_framed {assembler : PcmFrameAssembler} (hready : Ready sizeMax assembler)
    {operation : PcmOperation} (hwhole : operation.Whole assembler.frameFormat.channels) :
    ∃ events next, assembler.step sizeMax operation = some (events, next) ∧ Ready sizeMax next ∧
      SameFrames assembler next ∧
      (∀ input frames, assembler.frameFormat.channels ∣ input.length →
        Framed assembler.frameFormat.channels assembler.frameSamples assembler.pending input frames →
          Framed assembler.frameFormat.channels assembler.frameSamples next.pending
            (input ++ operation.samples) (frames ++ deliveredSamples events)) ∧
      ((∀ event ∈ events, event.succeeded = true) → operation ≠ .reset →
        (deliveredSamples events).flatten ++ next.pending = assembler.pending ++ operation.samples) ∧
      ∀ frame result, .delivered frame result ∈ events → frame.format = assembler.frameFormat := by
  have hpositive : 0 < assembler.frameSamples := (Nat.zero_le _).trans_lt hready.short
  cases operation with
  | push samples sink =>
      obtain ⟨events, next, heq, hends⟩ := push_ends hready (show _ ∣ samples.length from hwhole) sink
      refine ⟨events, next, heq, hends.ready, hends.same, ?_, fun h _ => hends.lossless h, hends.formats⟩
      intro input frames haligned hframed
      obtain ⟨taken, rest, hsamples, hend, hnext⟩ := hends.framed input frames hframed
      have htotal : assembler.frameFormat.channels ∣ (input ++ samples).length := by
        rw [List.length_append]
        exact dvd_add haligned hwhole
      rw [PcmOperation.samples, hsamples, ← List.append_assoc]
      rw [hsamples, ← List.append_assoc] at htotal
      rcases hend with rfl | hempty
      · rwa [List.append_nil]
      · -- the rest was dropped: the next frame starts after it
        rw [hempty] at hnext ⊢
        have hfilled := hnext.fill rest
        exact hfilled.drop htotal
  | release slot =>
      refine ⟨[], assembler.releaseSlot slot, rfl,
        ⟨hready.prepared, hready.channels_dvd, hready.size, ?_, hready.short⟩, ⟨rfl, rfl⟩, ?_, ?_, by simp⟩
      · rw [PcmFrameAssembler.releaseSlot, Option.isSome_map]
        exact hready.pool
      · intro input frames haligned hframed
        simpa [PcmOperation.samples, deliveredSamples, PcmFrameAssembler.releaseSlot] using hframed
      · intro _ _
        simp [PcmOperation.samples, deliveredSamples, PcmFrameAssembler.releaseSlot]
  | reset =>
      refine ⟨[], assembler.reset, rfl,
        ⟨hready.prepared, hready.channels_dvd, hready.size, hready.pool, hpositive⟩, ⟨rfl, rfl⟩, ?_,
        fun _ h => absurd rfl h, by simp⟩
      intro input frames haligned hframed
      simpa [PcmOperation.samples, deliveredSamples, PcmFrameAssembler.reset] using hframed.drop haligned

/-- A run of operations from an assembler that is ready. -/
theorem run_framed {operations : List PcmOperation} : ∀ {assembler : PcmFrameAssembler}
    (_ : Ready sizeMax assembler)
    (_ : ∀ operation ∈ operations, operation.Whole assembler.frameFormat.channels),
    ∃ events last, assembler.run sizeMax operations = some (events, last) ∧ Ready sizeMax last ∧
      SameFrames assembler last ∧
      (∀ input frames, assembler.frameFormat.channels ∣ input.length →
        Framed assembler.frameFormat.channels assembler.frameSamples assembler.pending input frames →
          Framed assembler.frameFormat.channels assembler.frameSamples last.pending
            (input ++ pushedSamples operations) (frames ++ deliveredSamples events)) ∧
      ((∀ event ∈ events, event.succeeded = true) → PcmOperation.reset ∉ operations →
        (deliveredSamples events).flatten ++ last.pending = assembler.pending ++ pushedSamples operations) ∧
      ∀ frame result, .delivered frame result ∈ events → frame.format = assembler.frameFormat := by
  induction operations with
  | nil =>
      intro assembler hready _
      refine ⟨[], assembler, rfl, hready, ⟨rfl, rfl⟩, ?_, ?_, by simp⟩
      · intro input frames _ hframed
        simpa [pushedSamples, deliveredSamples] using hframed
      · intro _ _
        simp [pushedSamples, deliveredSamples]
  | cons operation operations ih =>
      intro assembler hready hwhole
      obtain ⟨events, next, heq, hnext, ⟨hformat, hsize⟩, hframed, hlossless, hformats⟩ :=
        step_framed hready (hwhole operation List.mem_cons_self)
      obtain ⟨events', last, heq', hlast, ⟨hformat', hsize'⟩, hframed', hlossless', hformats'⟩ :=
        ih hnext (by rw [hformat]; exact fun other hmem => hwhole other (List.mem_cons_of_mem _ hmem))
      rw [hformat, hsize] at hframed'
      rw [hformat] at hformats'
      refine ⟨events ++ events', last, ?_, hlast, ⟨hformat'.trans hformat, hsize'.trans hsize⟩, ?_, ?_, ?_⟩
      · rw [PcmFrameAssembler.run, heq, Option.bind_eq_bind, Option.bind_some]
        dsimp only
        rw [heq']
        rfl
      · intro input frames haligned hstart
        have hmiddle := hframed input frames haligned hstart
        have haligned' : assembler.frameFormat.channels ∣ (input ++ operation.samples).length := by
          rw [List.length_append]
          exact dvd_add haligned (hwhole operation List.mem_cons_self)
        have hend := hframed' _ _ haligned' hmiddle
        rw [pushedSamples, List.flatMap_cons, ← List.append_assoc, deliveredSamples, List.filterMap_append,
          ← List.append_assoc]
        exact hend
      · intro hsucceeded hreset
        obtain ⟨hfirst, hothers⟩ := not_or.1 (mt List.mem_cons.2 hreset)
        have hnow := hlossless (fun event hmem => hsucceeded event (List.mem_append_left _ hmem)) (Ne.symm hfirst)
        have hlater := hlossless' (fun event hmem => hsucceeded event (List.mem_append_right _ hmem)) hothers
        rw [deliveredSamples, List.filterMap_append, List.flatten_append, List.append_assoc]
        calc (deliveredSamples events).flatten ++ ((deliveredSamples events').flatten ++ last.pending)
            = (deliveredSamples events).flatten ++ (next.pending ++ pushedSamples operations) := by rw [hlater]
          _ = assembler.pending ++ pushedSamples (operation :: operations) := by
            rw [← List.append_assoc, hnow, List.append_assoc]
            rfl
      · intro frame result hmem
        rcases List.mem_append.1 hmem with hmem | hmem
        · exact hformats frame result hmem
        · exact hformats' frame result hmem

/-- A prepared assembler is ready, with nothing pending. -/
theorem prepare_ready {format : AudioFormat} {period : ℕ} {pendingAllocated poolAllocated : Bool}
    {start : PcmFrameAssembler}
    (h : (PcmFrameAssembler.new sizeMax format period).prepare sizeMax pendingAllocated poolAllocated
      = (Status.success, start)) :
    Ready sizeMax start ∧ start.frameFormat = format ∧ start.pending = [] ∧
      start.frameSamples = format.sampleRateHz * format.frameDurationMs / 1000 * format.channels := by
  generalize hnew : PcmFrameAssembler.new sizeMax format period = assembler at h
  have hpending : assembler.pending = [] := by rw [← hnew]; rfl
  have hprepared : assembler.prepared = false := by rw [← hnew]; rfl
  have hformat : assembler.frameFormat = format := by rw [← hnew]; rfl
  have hsamples : assembler.frameSamples ≠ 0 →
      assembler.frameSamples = format.sampleRateHz * format.frameDurationMs / 1000 * format.channels := by
    rw [← hnew, PcmFrameAssembler.new]
    dsimp only
    split
    · exact fun _ => rfl
    · exact fun hne => absurd rfl hne
  unfold PcmFrameAssembler.prepare at h
  dsimp only at h
  rw [hprepared] at h
  rw [if_neg Bool.false_ne_true] at h
  have hfailed : ∀ {message : String}, (Status.error .unavailable message, assembler) ≠ (Status.success, start) := by
    intro message heq
    cases congrArg (fun outcome => outcome.1.code) heq
  split_ifs at h with hinvalid hallocated
  · rw [(Prod.mk.inj h).1] at hinvalid
    cases hinvalid
  · exact absurd h hfailed
  · cases hcreate : AudioPayloadPool.create sizeMax poolAllocated kPcmPayloadPoolSlots
        (assembler.frameSamples * sampleBytes) with
    | none =>
        rw [hcreate] at h
        exact absurd h hfailed
    | some pool =>
        rw [hcreate] at h
        obtain rfl := (Prod.mk.inj h).2
        have hpositive : assembler.frameSamples ≠ 0 ∧
            kPcmPayloadPoolSlots ≤ sizeMax / (assembler.frameSamples * sampleBytes) := by
          unfold AudioPayloadPool.create at hcreate
          split_ifs at hcreate with hbounds
          simp only [sampleBytes] at hbounds ⊢
          omega
        have hsize := hsamples hpositive.1
        refine ⟨⟨rfl, ?_, ?_, rfl, Nat.pos_of_ne_zero hpositive.1⟩, hformat, rfl, hsize⟩
        · dsimp only
          rw [hsize, hformat]
          exact dvd_mul_left _ _
        · -- the pool has memory for sixteen frames, so one frame does not overflow
          have hslots : kPcmPayloadPoolSlots * (assembler.frameSamples * sampleBytes) ≤ sizeMax :=
            (Nat.le_div_iff_mul_le (Nat.mul_pos (Nat.pos_of_ne_zero hpositive.1) (by decide))).1 hpositive.2
          rw [Nat.le_div_iff_mul_le (by decide)]
          simp only [kPcmPayloadPoolSlots] at hslots
          dsimp only
          omega

/-- Frames of one size and a shorter rest are determined by what they hold together. -/
theorem frames_unique {size : ℕ} {frames frames' : List (List Int16)} {rest rest' : List Int16}
    (hframes : ∀ frame ∈ frames, frame.length = size) (hframes' : ∀ frame ∈ frames', frame.length = size)
    (hrest : rest.length < size) (hrest' : rest'.length < size)
    (h : frames.flatten ++ rest = frames'.flatten ++ rest') : frames = frames' ∧ rest = rest' := by
  induction frames generalizing frames' with
  | nil =>
      obtain _ | ⟨frame', frames'⟩ := frames'
      · exact ⟨rfl, h⟩
      · have hlength := congrArg List.length h
        have hsize := hframes' frame' List.mem_cons_self
        simp only [List.flatten_nil, List.nil_append, List.flatten_cons, List.length_append] at hlength
        omega
  | cons frame frames ih =>
      have hsize := hframes frame List.mem_cons_self
      obtain _ | ⟨frame', frames'⟩ := frames'
      · have hlength := congrArg List.length h
        simp only [List.flatten_nil, List.nil_append, List.flatten_cons, List.length_append] at hlength
        omega
      · rw [List.flatten_cons, List.flatten_cons, List.append_assoc, List.append_assoc] at h
        obtain ⟨rfl, htail⟩ := List.append_inj h (hsize.trans (hframes' frame' List.mem_cons_self).symm)
        obtain ⟨rfl, hend⟩ := ih (fun other hmem => hframes other (List.mem_cons_of_mem _ hmem))
          (fun other hmem => hframes' other (List.mem_cons_of_mem _ hmem)) htail
        exact ⟨rfl, hend⟩

theorem Cut.length_eq {channels size : ℕ} {input : List Int16} {frames : List (List Int16)} {stop : ℕ}
    (h : Cut channels size input frames stop) : ∀ frame ∈ frames, frame.length = size := by
  obtain ⟨positions, hframes, -⟩ := h
  intro frame hmem
  obtain ⟨index, hindex, rfl⟩ := List.mem_iff_getElem.1 hmem
  exact (hframes.get (by rw [hframes.length_eq]; exact hindex) hindex).2.2.1

/-- No sink call fails, the pool is not exhausted and the assembler is not reset. -/
def EveryPushSucceeds (operations : List PcmOperation) (events : List PcmEvent) : Prop :=
  (∀ event ∈ events, event.succeeded = true) ∧ PcmOperation.reset ∉ operations

end VoiceLife.Voice
