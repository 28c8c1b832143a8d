import VoiceLife.Contracts.Status
import VoiceLife.Lib.Transducer

/-! # `websocket_fragment_assembler.cc`: the messages of a WebSocket

The assembler takes one fragment for every data callback. What it completes was received as consecutive
fragments of one generation (`completed_of_push`), and a refused fragment leaves nothing behind
(`push_refused`). A message is delivered as it was sent exactly when it is one frame whose last chunk is
not empty (`completions_messages_iff`): the end of a frame is taken for the end of the message.
-/

namespace VoiceLife.Linx

/-- A string of bytes. -/
abbrev Bytes := List UInt8

/-- `WebSocketOpcode`. `other` is another byte cast to the enumeration, such as that of a control frame. -/
inductive WebSocketOpcode where
  | continuation
  | text
  | binary
  | other (code : UInt8)
deriving DecidableEq

/-- `WebSocketFragment`: a null pointer or the bytes it points to. -/
structure WebSocketFragment where
  generation : ℕ := 0
  opcode : WebSocketOpcode := .continuation
  data : Option Bytes := none
  dataLen : ℕ := 0
  payloadLen : ℕ := 0
  payloadOffset : ℕ := 0
  fin : Bool := false
  readable : ∀ bytes ∈ data, bytes.length = dataLen

/-- The bytes that `Push` inserts. -/
def WebSocketFragment.bytes (fragment : WebSocketFragment) : Bytes :=
  fragment.data.getD []

/-- `WebSocketMessage`. -/
structure WebSocketMessage where
  generation : ℕ := 0
  opcode : WebSocketOpcode := .continuation
  payload : Bytes := []
deriving DecidableEq

/-- `WebSocketAssemblyResult`. -/
structure WebSocketAssemblyResult where
  complete : Bool := false
  message : WebSocketMessage := {}
deriving DecidableEq

/-- `WebSocketFragmentAssembler`. -/
structure WebSocketFragmentAssembler where
  maxMessageBytes : ℕ
  assembling : Bool := false
  generation : ℕ := 0
  opcode : WebSocketOpcode := .continuation
  expectedPayloadLen : ℕ := 0
  payload : Bytes := []
deriving DecidableEq

namespace WebSocketFragmentAssembler

/-! ## The code -/

/-- `WebSocketFragmentAssembler::Reset`. -/
def reset (assembler : WebSocketFragmentAssembler) : WebSocketFragmentAssembler :=
  { maxMessageBytes := assembler.maxMessageBytes }

/-- `WebSocketFragmentAssembler::Reject`. -/
def reject (assembler : WebSocketFragmentAssembler) (code : ErrorCode) (message : String) :
    Result WebSocketAssemblyResult × WebSocketFragmentAssembler :=
  (Result.failure code message, assembler.reset)

/-- `WebSocketFragmentAssembler::Complete`. -/
def complete (assembler : WebSocketFragmentAssembler) :
    Result WebSocketAssemblyResult × WebSocketFragmentAssembler :=
  (.ok {
      complete := true
      message := {
        generation := assembler.generation
        opcode := assembler.opcode
        payload := assembler.payload } },
    assembler.reset)

/-- The last part of `Push`: the bytes of an accepted fragment are inserted. -/
def insert (assembler : WebSocketFragmentAssembler) (bytes : Bytes) :
    Result WebSocketAssemblyResult × WebSocketFragmentAssembler :=
  let assembler := { assembler with payload := assembler.payload ++ bytes }
  if assembler.payload.length = assembler.expectedPayloadLen then assembler.complete
  else if assembler.payload.length > assembler.expectedPayloadLen then
    assembler.reject .invalidArgument "WebSocket 完整帧长度不匹配"
  else (.ok {}, assembler)

/-- The first check of `Push`. -/
def OutOfBounds (assembler : WebSocketFragmentAssembler) (fragment : WebSocketFragment) : Prop :=
  assembler.maxMessageBytes = 0 ∨ fragment.payloadLen > assembler.maxMessageBytes ∨
    fragment.dataLen > assembler.maxMessageBytes ∨ fragment.payloadOffset > fragment.payloadLen ∨
    fragment.dataLen > fragment.payloadLen - fragment.payloadOffset ∨
    (fragment.dataLen > 0 ∧ fragment.data = none)

instance (assembler : WebSocketFragmentAssembler) (fragment : WebSocketFragment) :
    Decidable (assembler.OutOfBounds fragment) :=
  inferInstanceAs (Decidable (_ ∨ _))

/-- `WebSocketFragmentAssembler::Push`. -/
def push (assembler : WebSocketFragmentAssembler) (fragment : WebSocketFragment) :
    Result WebSocketAssemblyResult × WebSocketFragmentAssembler :=
  if assembler.OutOfBounds fragment then assembler.reject .invalidArgument "WebSocket 分片边界无效"
  else if !assembler.assembling then
    if fragment.opcode = .continuation then
      assembler.reject .invalidArgument "没有首帧的 continuation"
    else if fragment.opcode ≠ .text ∧ fragment.opcode ≠ .binary then
      assembler.reject .invalidArgument "WebSocket opcode 不支持"
    else if fragment.payloadOffset ≠ 0 ∨ fragment.payloadLen = 0 then
      assembler.reject .invalidArgument "WebSocket 首帧边界无效"
    else
      insert
        { assembler with
          assembling := true
          generation := fragment.generation
          opcode := fragment.opcode
          expectedPayloadLen := fragment.payloadLen }
        fragment.bytes
  else if fragment.generation ≠ assembler.generation then
    assembler.reject .conflict "WebSocket 分片 generation 已过期"
  else
    let sameFrameChunk :=
      fragment.opcode = assembler.opcode ∧ fragment.payloadLen = assembler.expectedPayloadLen
    -- The length of a continuation frame is compared with the length of the first frame.
    let protocolContinuation :=
      fragment.opcode = .continuation ∧ fragment.payloadLen = assembler.expectedPayloadLen
    if ¬ sameFrameChunk ∧ ¬ protocolContinuation then
      assembler.reject .conflict "WebSocket continuation 序列无效"
    else if fragment.payloadOffset ≠ assembler.payload.length then
      assembler.reject .conflict "WebSocket continuation 序列无效"
    else assembler.insert fragment.bytes

end WebSocketFragmentAssembler

open WebSocketFragmentAssembler (push)

/-- The assembler before the first fragment. -/
def fresh (maxMessageBytes : ℕ) : WebSocketFragmentAssembler :=
  { maxMessageBytes }

/-- The results of pushing a list of fragments into a new assembler. -/
def pushAll (maxMessageBytes : ℕ) (fragments : List WebSocketFragment) :
    List (Result WebSocketAssemblyResult) :=
  Transducer.outputs push (fresh maxMessageBytes) fragments

/-- A new assembler after a list of fragments. -/
def afterAll (maxMessageBytes : ℕ) (fragments : List WebSocketFragment) : WebSocketFragmentAssembler :=
  Transducer.final push (fresh maxMessageBytes) fragments

theorem pushAll_append (maxMessageBytes : ℕ) (fragments fragments' : List WebSocketFragment) :
    pushAll maxMessageBytes (fragments ++ fragments')
      = pushAll maxMessageBytes fragments ++
          Transducer.outputs push (afterAll maxMessageBytes fragments) fragments' :=
  Transducer.outputs_append _ _ _

theorem afterAll_append (maxMessageBytes : ℕ) (fragments fragments' : List WebSocketFragment) :
    afterAll maxMessageBytes (fragments ++ fragments')
      = Transducer.final push (afterAll maxMessageBytes fragments) fragments' :=
  Transducer.final_append _ _ _

/-- The message that a result completes. -/
def completion : Result WebSocketAssemblyResult → Option WebSocketMessage
  | .ok result => if result.complete then some result.message else none
  | .error _ => none

/-! ## Any fragments -/

/-- `message` is what the fragments carry, under the opcode of the first of them. -/
structure IsMessageOf (message : WebSocketMessage) (fragments : List WebSocketFragment) : Prop where
  payload : message.payload = fragments.flatMap WebSocketFragment.bytes
  generation : ∀ fragment ∈ fragments, fragment.generation = message.generation
  opcode : fragments.head?.map WebSocketFragment.opcode = some message.opcode

/-- An assembler that has accepted `fragments` since the last message. -/
structure Collecting (maxMessageBytes : ℕ) (fragments : List WebSocketFragment)
    (assembler : WebSocketFragmentAssembler) : Prop where
  bound : assembler.maxMessageBytes = maxMessageBytes
  assembling : assembler.assembling = true
  content : IsMessageOf ⟨assembler.generation, assembler.opcode, assembler.payload⟩ fragments
  short : assembler.payload.length < assembler.expectedPayloadLen
  expected : assembler.expectedPayloadLen ≤ maxMessageBytes

/-- The assembler is new again or has accepted `fragments`. -/
def Holds (maxMessageBytes : ℕ) (fragments : List WebSocketFragment)
    (assembler : WebSocketFragmentAssembler) : Prop :=
  (fragments = [] ∧ assembler = fresh maxMessageBytes) ∨ Collecting maxMessageBytes fragments assembler

/-- The ways a push can end. -/
inductive Pushed (maxMessageBytes : ℕ) (fragments : List WebSocketFragment) :
    Result WebSocketAssemblyResult × WebSocketFragmentAssembler → Prop
  | refused (status : Status) : Pushed maxMessageBytes fragments (.error status, fresh maxMessageBytes)
  | kept {assembler : WebSocketFragmentAssembler} (h : Collecting maxMessageBytes fragments assembler) :
      Pushed maxMessageBytes fragments (.ok {}, assembler)
  | completed {message : WebSocketMessage} (h : IsMessageOf message fragments)
      (hbound : message.payload.length ≤ maxMessageBytes) :
      Pushed maxMessageBytes fragments (.ok { complete := true, message }, fresh maxMessageBytes)

variable {fragment : WebSocketFragment}

theorem IsMessageOf.concat {message : WebSocketMessage} {fragments : List WebSocketFragment}
    (h : IsMessageOf message fragments) (hgeneration : fragment.generation = message.generation) :
    IsMessageOf { message with payload := message.payload ++ fragment.bytes } (fragments ++ [fragment]) := by
  refine ⟨?_, ?_, ?_⟩
  · simp [h.payload]
  · intro other hmem
    rcases List.mem_append.1 hmem with hmem | hmem
    · exact h.generation other hmem
    · rw [List.mem_singleton.1 hmem]
      exact hgeneration
  · have hopcode := h.opcode
    cases fragments with
    | nil => exact absurd hopcode (by simp)
    | cons first rest => exact hopcode

variable {maxMessageBytes : ℕ}

/-- The last part of `Push`, with the fragments that have been accepted by then. -/
theorem insert_pushed {fragments : List WebSocketFragment}
    {assembler : WebSocketFragmentAssembler} {bytes : Bytes}
    (hmax : assembler.maxMessageBytes = maxMessageBytes) (hassembling : assembler.assembling = true)
    (hexpected : assembler.expectedPayloadLen ≤ maxMessageBytes)
    (hcontent : IsMessageOf ⟨assembler.generation, assembler.opcode, assembler.payload ++ bytes⟩ fragments) :
    Pushed maxMessageBytes fragments (assembler.insert bytes) := by
  subst hmax
  unfold WebSocketFragmentAssembler.insert
  dsimp only
  split
  · next hlength => exact .completed hcontent (by rw [hlength]; exact hexpected)
  · split
    · exact .refused _
    · next hne hle => exact .kept ⟨rfl, hassembling, hcontent, by dsimp only; omega, hexpected⟩

/-- What one push does to the fragments accepted so far. -/
theorem push_pushed {fragments : List WebSocketFragment}
    {assembler : WebSocketFragmentAssembler} (fragment : WebSocketFragment)
    (h : Holds maxMessageBytes fragments assembler) :
    Pushed maxMessageBytes (fragments ++ [fragment]) (push assembler fragment) := by
  have hrefused {code : ErrorCode} {message : String} (hmax : assembler.maxMessageBytes = maxMessageBytes) :
      Pushed maxMessageBytes (fragments ++ [fragment]) (assembler.reject code message) := by
    subst hmax
    exact .refused _
  have hmax : assembler.maxMessageBytes = maxMessageBytes := by
    rcases h with ⟨-, rfl⟩ | h
    · rfl
    · exact h.bound
  unfold push
  dsimp only
  split_ifs with hout hidle hcontinuation hopcode hfirst hstale hsequence hoffset
  any_goals exact hrefused hmax
  · -- a first fragment
    rcases h with ⟨rfl, rfl⟩ | h
    · refine insert_pushed hmax rfl ?_ ?_
      · simp only [WebSocketFragmentAssembler.OutOfBounds, fresh] at hout ⊢
        omega
      · exact ⟨by simp [fresh], by simp, rfl⟩
    · simp [h.assembling] at hidle
  · -- a further fragment of the message
    rcases h with ⟨rfl, rfl⟩ | h
    · exact absurd rfl hidle
    · refine insert_pushed h.bound h.assembling h.expected ?_
      exact h.content.concat (not_not.1 hstale)

/-- What `Holds` after a push. -/
theorem Pushed.holds {fragments : List WebSocketFragment}
    {outcome : Result WebSocketAssemblyResult × WebSocketFragmentAssembler}
    (h : Pushed maxMessageBytes fragments outcome) :
    outcome.2 = fresh maxMessageBytes ∨
      outcome.1 = .ok {} ∧ Collecting maxMessageBytes fragments outcome.2 := by
  cases h with
  | refused => exact .inl rfl
  | kept h => exact .inr ⟨rfl, h⟩
  | completed => exact .inl rfl

/-- The state after any fragments: the last of them were accepted by a new assembler and are the message
so far. -/
theorem afterAll_holds (maxMessageBytes : ℕ) (fragments : List WebSocketFragment) :
    ∃ earlier accepted, fragments = earlier ++ accepted ∧ afterAll maxMessageBytes earlier = fresh maxMessageBytes ∧
      (∀ result ∈ pushAll maxMessageBytes accepted, result = .ok {}) ∧
      Holds maxMessageBytes accepted (afterAll maxMessageBytes fragments) := by
  induction fragments using List.reverseRecOn with
  | nil => exact ⟨[], [], rfl, rfl, by simp [pushAll], .inl ⟨rfl, rfl⟩⟩
  | append_singleton fragments fragment ih =>
      obtain ⟨earlier, accepted, rfl, hearlier, haccepted, hholds⟩ := ih
      have hlast : afterAll maxMessageBytes (earlier ++ accepted ++ [fragment])
          = (push (afterAll maxMessageBytes (earlier ++ accepted)) fragment).2 := by
        rw [afterAll_append]
        rfl
      have hstate : afterAll maxMessageBytes (earlier ++ accepted) = afterAll maxMessageBytes accepted := by
        rw [afterAll_append, hearlier, afterAll]
      rcases (push_pushed fragment hholds).holds with hfresh | ⟨hkept, hcollecting⟩
      · exact ⟨earlier ++ accepted ++ [fragment], [], (List.append_nil _).symm, hlast.trans hfresh,
          by simp [pushAll], .inl ⟨rfl, hlast.trans hfresh⟩⟩
      · refine ⟨earlier, accepted ++ [fragment], List.append_assoc _ _ _, hearlier, ?_, .inr ?_⟩
        · intro result hmem
          rw [pushAll_append] at hmem
          rcases List.mem_append.1 hmem with hmem | hmem
          · exact haccepted result hmem
          · rw [hstate] at hkept
            rw [← hkept]
            exact List.mem_singleton.1 hmem
        · rw [hlast]
          exact hcollecting

/-- A completed message is what a new assembler has accepted since the last message or refusal. -/
theorem completed_of_push {before : List WebSocketFragment} {message : WebSocketMessage}
    (h : completion (push (afterAll maxMessageBytes before) fragment).1 = some message) :
    message.payload.length ≤ maxMessageBytes ∧
      ∃ earlier accepted, before = earlier ++ accepted ∧
        afterAll maxMessageBytes earlier = fresh maxMessageBytes ∧
        (∀ result ∈ pushAll maxMessageBytes accepted, result = .ok {}) ∧
        IsMessageOf message (accepted ++ [fragment]) := by
  obtain ⟨earlier, accepted, hbefore, hearlier, haccepted, hholds⟩ := afterAll_holds maxMessageBytes before
  generalize hpush : push (afterAll maxMessageBytes before) fragment = outcome at h
  have hpushed := push_pushed fragment hholds
  rw [hpush] at hpushed
  cases hpushed with
  | refused status => exact absurd h (by simp [completion])
  | kept => exact absurd h (by simp [completion])
  | completed hmessage hbound =>
      obtain rfl := Option.some.inj h
      exact ⟨hbound, earlier, accepted, hbefore, hearlier, haccepted, hmessage⟩

theorem push_refused {before : List WebSocketFragment}
    {status : Status} (h : (push (afterAll maxMessageBytes before) fragment).1 = .error status) :
    afterAll maxMessageBytes (before ++ [fragment]) = fresh maxMessageBytes := by
  obtain ⟨earlier, accepted, -, -, -, hholds⟩ := afterAll_holds maxMessageBytes before
  rw [afterAll_append]
  rcases (push_pushed fragment hholds).holds with hfresh | ⟨hkept, -⟩
  · exact hfresh
  · exact absurd (hkept.symm.trans h) (by simp)

/-- A fragment that can begin a message. -/
def IsFirst (maxMessageBytes : ℕ) (fragment : WebSocketFragment) : Prop :=
  ¬ (fresh maxMessageBytes).OutOfBounds fragment ∧ (fragment.opcode = .text ∨ fragment.opcode = .binary) ∧
    fragment.payloadOffset = 0 ∧ fragment.payloadLen ≠ 0

/-- A new assembler accepts first fragments, and refuses the others. -/
theorem push_fresh_ok_iff :
    (∃ result, (push (fresh maxMessageBytes) fragment).1 = .ok result) ↔ IsFirst maxMessageBytes fragment := by
  have hinsert : ¬ (fresh maxMessageBytes).OutOfBounds fragment →
      fragment.bytes.length ≤ fragment.payloadLen := by
    intro hout
    have hbytes : fragment.bytes.length ≤ fragment.dataLen := by
      cases hdata : fragment.data with
      | none => simp [WebSocketFragment.bytes, hdata]
      | some bytes => simp [WebSocketFragment.bytes, hdata, fragment.readable bytes hdata]
    simp only [WebSocketFragmentAssembler.OutOfBounds] at hout
    omega
  unfold push IsFirst
  dsimp only
  split_ifs with hout hidle hcontinuation hopcode hfirst
  · exact iff_of_false (fun ⟨_, h⟩ => by cases h) (fun h => h.1 hout)
  · exact iff_of_false (fun ⟨_, h⟩ => by cases h) (by simp [hcontinuation])
  · exact iff_of_false (fun ⟨_, h⟩ => by cases h) (by tauto)
  · exact iff_of_false (fun ⟨_, h⟩ => by cases h) (by tauto)
  · refine iff_of_true ?_ (by tauto)
    unfold WebSocketFragmentAssembler.insert
    dsimp only
    split_ifs with hfull hlong
    · exact ⟨_, rfl⟩
    · exact absurd (hinsert hout) (by simpa [fresh] using hlong)
    · exact ⟨_, rfl⟩
  all_goals exact absurd rfl hidle

theorem push_fresh_of_not_isFirst (h : ¬ IsFirst maxMessageBytes fragment) :
    completion (push (fresh maxMessageBytes) fragment).1 = none ∧
      (push (fresh maxMessageBytes) fragment).2 = fresh maxMessageBytes := by
  rw [← push_fresh_ok_iff] at h
  generalize hpush : push (fresh maxMessageBytes) fragment = outcome at h
  have hpushed : Pushed maxMessageBytes ([] ++ [fragment]) (push (fresh maxMessageBytes) fragment) :=
    push_pushed fragment (.inl ⟨rfl, rfl⟩)
  rw [hpush] at hpushed
  cases hpushed with
  | refused => exact ⟨rfl, rfl⟩
  | kept => exact absurd ⟨_, rfl⟩ h
  | completed => exact absurd ⟨_, rfl⟩ h

/-! ## Messages -/

/-- A frame of a message, cut into chunks. -/
structure DataFrame where
  chunks : List Bytes
  nonempty : chunks ≠ []

/-- The payload of a frame. -/
def DataFrame.payload (frame : DataFrame) : Bytes :=
  frame.chunks.flatten

/-- A text or binary message, sent as frames. -/
structure DataMessage where
  opcode : WebSocketOpcode
  frames : List DataFrame
  isData : opcode = .text ∨ opcode = .binary
  hasPayload : frames.flatMap DataFrame.payload ≠ []

/-- The payload of a message. -/
def DataMessage.payload (message : DataMessage) : Bytes :=
  message.frames.flatMap DataFrame.payload

/-- The data callback of one chunk of a frame. -/
def chunkCallback (generation : ℕ) (opcode : WebSocketOpcode) (payloadLen : ℕ) (fin : Bool)
    (payloadOffset : ℕ) (chunk : Bytes) : WebSocketFragment where
  generation
  opcode
  data := some chunk
  dataLen := chunk.length
  payloadLen
  payloadOffset
  fin
  readable := by simp

/-- The data callbacks of the chunks of a frame from an offset on. -/
def chunkCallbacks (generation : ℕ) (opcode : WebSocketOpcode) (payloadLen : ℕ) (fin : Bool) :
    ℕ → List Bytes → List WebSocketFragment
  | _, [] => []
  | offset, chunk :: chunks =>
      chunkCallback generation opcode payloadLen fin offset chunk ::
        chunkCallbacks generation opcode payloadLen fin (offset + chunk.length) chunks

/-- The data callbacks of frames: the first has the opcode, the later ones are continuations, and only
the last has `fin`. -/
def frameCallbacks (generation : ℕ) : WebSocketOpcode → List DataFrame → List WebSocketFragment
  | _, [] => []
  | opcode, frame :: frames =>
      chunkCallbacks generation opcode frame.payload.length frames.isEmpty 0 frame.chunks ++
        frameCallbacks generation .continuation frames

/-- The data callbacks of a message. -/
def DataMessage.callbacks (generation : ℕ) (message : DataMessage) : List WebSocketFragment :=
  frameCallbacks generation message.opcode message.frames

/-- What the sink should receive of a message. -/
def DataMessage.received (generation : ℕ) (message : DataMessage) : WebSocketMessage :=
  { generation, opcode := message.opcode, payload := message.payload }

/-- One completion for each message, at its last callback. -/
def deliveredOnce (generation : ℕ) (messages : List DataMessage) : List (Option WebSocketMessage) :=
  messages.flatMap fun message =>
    List.replicate ((message.callbacks generation).length - 1) none ++ [some (message.received generation)]

/-- A message of one frame whose last chunk is not empty. -/
def DataMessage.IsWhole (message : DataMessage) : Prop :=
  ∃ frame, message.frames = [frame] ∧ frame.chunks.getLast? ≠ some []

@[simp] theorem length_chunkCallbacks (generation : ℕ) (opcode : WebSocketOpcode) (payloadLen : ℕ)
    (fin : Bool) (offset : ℕ) (chunks : List Bytes) :
    (chunkCallbacks generation opcode payloadLen fin offset chunks).length = chunks.length := by
  induction chunks generalizing offset with
  | nil => rfl
  | cons chunk chunks ih => simp [chunkCallbacks, ih]

/-- Every callback of a frame has the frame's opcode and length and an offset not below the first. -/
theorem mem_chunkCallbacks {generation : ℕ} {opcode : WebSocketOpcode} {payloadLen : ℕ} {fin : Bool}
    {offset : ℕ} {chunks : List Bytes}
    (h : fragment ∈ chunkCallbacks generation opcode payloadLen fin offset chunks) :
    fragment.opcode = opcode ∧ fragment.payloadLen = payloadLen ∧ offset ≤ fragment.payloadOffset := by
  induction chunks generalizing offset with
  | nil => exact absurd h List.not_mem_nil
  | cons chunk chunks ih =>
      rcases List.mem_cons.1 h with rfl | h
      · exact ⟨rfl, rfl, le_rfl⟩
      · obtain ⟨hopcode, hlength, hoffset⟩ := ih h
        exact ⟨hopcode, hlength, by omega⟩

theorem opcode_of_mem_frameCallbacks {generation : ℕ} {frames : List DataFrame}
    (h : fragment ∈ frameCallbacks generation .continuation frames) : fragment.opcode = .continuation := by
  induction frames with
  | nil => exact absurd h List.not_mem_nil
  | cons frame frames ih =>
      rcases List.mem_append.1 h with h | h
      · exact (mem_chunkCallbacks h).1
      · exact ih h

theorem frameCallbacks_ne_nil {generation : ℕ} {opcode : WebSocketOpcode} {frames : List DataFrame}
    (h : frames ≠ []) : frameCallbacks generation opcode frames ≠ [] := by
  cases frames with
  | nil => exact absurd rfl h
  | cons frame frames =>
      intro hnil
      have hchunks := congrArg List.length (List.append_eq_nil_iff.1 hnil).1
      rw [length_chunkCallbacks] at hchunks
      exact frame.nonempty (List.eq_nil_of_length_eq_zero hchunks)

/-! ## What the assembler makes of a message -/

theorem not_isFirst
    (h : fragment.opcode = .continuation ∨ fragment.payloadLen = 0 ∨ fragment.payloadOffset ≠ 0) :
    ¬ IsFirst maxMessageBytes fragment := by
  rintro ⟨-, hdata, hoffset, hlength⟩
  grind

/-- An assembler in the middle of a message. -/
def midway (maxMessageBytes generation : ℕ) (opcode : WebSocketOpcode) (expectedPayloadLen : ℕ)
    (payload : Bytes) : WebSocketFragmentAssembler where
  maxMessageBytes
  assembling := true
  generation
  opcode
  expectedPayloadLen
  payload

section Frame

variable {maxMessageBytes generation : ℕ} {opcode : WebSocketOpcode} {payloadLen : ℕ} {fin : Bool}

theorem push_chunk {payload chunk : Bytes} (hmax : payloadLen ≤ maxMessageBytes)
    (hpositive : payload.length < payloadLen) (hfits : payload.length + chunk.length ≤ payloadLen) :
    push (midway maxMessageBytes generation opcode payloadLen payload)
        (chunkCallback generation opcode payloadLen fin payload.length chunk)
      = (midway maxMessageBytes generation opcode payloadLen payload).insert chunk := by
  have hbounds : ¬ (midway maxMessageBytes generation opcode payloadLen payload).OutOfBounds
      (chunkCallback generation opcode payloadLen fin payload.length chunk) := by
    simp only [WebSocketFragmentAssembler.OutOfBounds, midway, chunkCallback]
    grind
  unfold push
  rw [if_neg hbounds]
  simp [midway, chunkCallback, WebSocketFragment.bytes]

/-- The first chunk of a message is taken as if the message had begun with no bytes. -/
theorem push_first_chunk {chunk : Bytes} (hdata : opcode = .text ∨ opcode = .binary)
    (hmax : payloadLen ≤ maxMessageBytes) (hpositive : 0 < payloadLen) (hfits : chunk.length ≤ payloadLen) :
    push (fresh maxMessageBytes) (chunkCallback generation opcode payloadLen fin 0 chunk)
      = push (midway maxMessageBytes generation opcode payloadLen [])
          (chunkCallback generation opcode payloadLen fin 0 chunk) := by
  have hmiddle : push (midway maxMessageBytes generation opcode payloadLen [])
        (chunkCallback generation opcode payloadLen fin 0 chunk)
      = (midway maxMessageBytes generation opcode payloadLen []).insert chunk :=
    push_chunk hmax hpositive (by simpa using hfits)
  rw [hmiddle]
  have hbounds : ¬ (fresh maxMessageBytes).OutOfBounds
      (chunkCallback generation opcode payloadLen fin 0 chunk) := by
    simp only [WebSocketFragmentAssembler.OutOfBounds, fresh, chunkCallback]
    grind
  unfold push
  rw [if_neg hbounds]
  rcases hdata with rfl | rfl <;>
    simp [fresh, midway, chunkCallback, WebSocketFragment.bytes, hpositive.ne']

theorem insert_short {payload chunk : Bytes} (h : payload.length + chunk.length < payloadLen) :
    (midway maxMessageBytes generation opcode payloadLen payload).insert chunk
      = (.ok {}, midway maxMessageBytes generation opcode payloadLen (payload ++ chunk)) := by
  rw [← List.length_append] at h
  unfold WebSocketFragmentAssembler.insert
  exact (if_neg h.ne).trans (if_neg h.not_gt)

theorem insert_full {payload chunk : Bytes} (h : payload.length + chunk.length = payloadLen) :
    (midway maxMessageBytes generation opcode payloadLen payload).insert chunk
      = (.ok { complete := true, message := ⟨generation, opcode, payload ++ chunk⟩ },
          fresh maxMessageBytes) := by
  rw [← List.length_append] at h
  exact if_pos h

/-- The chunks of a frame that is longer than what has been received of it. -/
theorem chunk_run {payload : Bytes} {chunks : List Bytes} (hmax : payloadLen ≤ maxMessageBytes)
    (hshort : payload.length < payloadLen) (hlength : payload.length + chunks.flatten.length = payloadLen) :
    let start := midway maxMessageBytes generation opcode payloadLen payload
    let callbacks := chunkCallbacks generation opcode payloadLen fin payload.length chunks
    Transducer.final push start callbacks = fresh maxMessageBytes ∧
      ((Transducer.outputs push start callbacks).map completion
          = List.replicate (chunks.length - 1) none ++ [some ⟨generation, opcode, payload ++ chunks.flatten⟩]
        ↔ chunks.getLast? ≠ some []) := by
  induction chunks generalizing payload with
  | nil => simp at hlength; omega
  | cons chunk chunks ih =>
      dsimp only
      rw [List.flatten_cons, List.length_append] at hlength
      rw [chunkCallbacks, Transducer.final_cons, Transducer.outputs_cons,
        push_chunk hmax hshort (by omega), List.flatten_cons, ← List.append_assoc, List.map_cons,
        List.length_cons, Nat.add_sub_cancel]
      by_cases hfull : payload.length + chunk.length = payloadLen
      · -- the payload is complete, so what is left of the frame is empty chunks
        have hempty : ∀ rest ∈ chunks, rest = [] :=
          List.flatten_eq_nil_iff.1 (List.eq_nil_of_length_eq_zero (by omega))
        have hchunk : chunk ≠ [] := by
          rintro rfl
          rw [List.length_nil] at hfull
          omega
        have hrest : ∀ fragment ∈ chunkCallbacks generation opcode payloadLen fin
            (payload.length + chunk.length) chunks,
            completion (push (fresh maxMessageBytes) fragment).1 = none ∧
              (push (fresh maxMessageBytes) fragment).2 = fresh maxMessageBytes := by
          intro fragment hmem
          apply push_fresh_of_not_isFirst
          apply not_isFirst
          have hoffset := (mem_chunkCallbacks hmem).2.2
          omega
        rw [insert_full hfull]
        refine ⟨Transducer.final_of_fixed fun fragment hmem => (hrest fragment hmem).2, ?_⟩
        rw [Transducer.map_outputs_of_fixed hrest]
        rcases List.eq_nil_or_concat chunks with rfl | ⟨chunks, last, rfl⟩
        · simpa [completion] using hchunk
        · have hlast : last = [] := hempty last (by simp)
          simp [hlast, completion, List.replicate_succ, List.getLast?_cons]
      · have hmore : chunks ≠ [] := by
          rintro rfl
          rw [List.flatten_nil, List.length_nil] at hlength
          omega
        obtain ⟨next, others, rfl⟩ := List.exists_cons_of_ne_nil hmore
        rw [insert_short (by omega)]
        have hih := @ih (payload ++ chunk) (by rw [List.length_append]; omega)
          (by rw [List.length_append]; omega)
        rw [List.length_append] at hih
        refine ⟨hih.1, ?_⟩
        rw [List.getLast?_cons_cons, ← hih.2]
        simp [completion, List.replicate_succ]

/-- The first frame of a message, from a new assembler. -/
theorem first_frame_run (generation : ℕ) (fin : Bool) {frame : DataFrame} (hdata : opcode = .text ∨ opcode = .binary)
    (hpayload : frame.payload ≠ []) (hmax : frame.payload.length ≤ maxMessageBytes) :
    let callbacks := chunkCallbacks generation opcode frame.payload.length fin 0 frame.chunks
    Transducer.final push (fresh maxMessageBytes) callbacks = fresh maxMessageBytes ∧
      ((Transducer.outputs push (fresh maxMessageBytes) callbacks).map completion
          = List.replicate (frame.chunks.length - 1) none ++ [some ⟨generation, opcode, frame.payload⟩]
        ↔ frame.chunks.getLast? ≠ some []) := by
  have hpositive : 0 < frame.payload.length := List.length_pos_of_ne_nil hpayload
  obtain ⟨chunk, chunks, hchunks⟩ := List.exists_cons_of_ne_nil frame.nonempty
  have hfits : chunk.length ≤ frame.payload.length := by simp [DataFrame.payload, hchunks]
  have hfirst : push (fresh maxMessageBytes)
        (chunkCallback generation opcode frame.payload.length fin 0 chunk)
      = push (midway maxMessageBytes generation opcode frame.payload.length [])
          (chunkCallback generation opcode frame.payload.length fin 0 chunk) :=
    push_first_chunk hdata hmax hpositive hfits
  have hfinal : Transducer.final push (fresh maxMessageBytes)
        (chunkCallbacks generation opcode frame.payload.length fin 0 frame.chunks)
      = Transducer.final push (midway maxMessageBytes generation opcode frame.payload.length [])
          (chunkCallbacks generation opcode frame.payload.length fin 0 frame.chunks) := by
    rw [hchunks, chunkCallbacks, Transducer.final_cons, Transducer.final_cons, hfirst]
  have houtputs : Transducer.outputs push (fresh maxMessageBytes)
        (chunkCallbacks generation opcode frame.payload.length fin 0 frame.chunks)
      = Transducer.outputs push (midway maxMessageBytes generation opcode frame.payload.length [])
          (chunkCallbacks generation opcode frame.payload.length fin 0 frame.chunks) := by
    rw [hchunks, chunkCallbacks, Transducer.outputs_cons, Transducer.outputs_cons, hfirst]
  dsimp only
  rw [hfinal, houtputs]
  exact chunk_run hmax hpositive (by simp [DataFrame.payload])

end Frame

/-- The callbacks of one message: it is delivered once, at its last callback, exactly when it is whole. -/
theorem message_run (generation : ℕ) {message : DataMessage}
    (hmax : message.payload.length ≤ maxMessageBytes) :
    afterAll maxMessageBytes (message.callbacks generation) = fresh maxMessageBytes ∧
      ((pushAll maxMessageBytes (message.callbacks generation)).map completion
          = deliveredOnce generation [message]
        ↔ message.IsWhole) := by
  have hcontinuations : ∀ frames : List DataFrame,
      ∀ fragment ∈ frameCallbacks generation .continuation frames,
        completion (push (fresh maxMessageBytes) fragment).1 = none ∧
          (push (fresh maxMessageBytes) fragment).2 = fresh maxMessageBytes :=
    fun frames fragment hmem =>
      push_fresh_of_not_isFirst (not_isFirst (.inl (opcode_of_mem_frameCallbacks hmem)))
  obtain ⟨opcode, frames, hdata, hpayload⟩ := message
  cases frames with
  | nil => exact absurd rfl hpayload
  | cons frame frames =>
      have hfits : frame.payload.length ≤ maxMessageBytes := by
        rw [DataMessage.payload, List.flatMap_cons, List.length_append] at hmax
        omega
      have hfirst : Transducer.final push (fresh maxMessageBytes)
          (chunkCallbacks generation opcode frame.payload.length frames.isEmpty 0 frame.chunks)
            = fresh maxMessageBytes := by
        by_cases hempty : frame.payload = []
        · refine Transducer.final_of_fixed fun fragment hmem =>
            (push_fresh_of_not_isFirst (not_isFirst ?_)).2
          rw [(mem_chunkCallbacks hmem).2.1, hempty]
          exact .inr (.inl rfl)
        · exact (first_frame_run _ _ hdata hempty hfits).1
      refine ⟨?_, ?_⟩
      · rw [afterAll, DataMessage.callbacks, frameCallbacks, Transducer.final_append, hfirst]
        exact Transducer.final_of_fixed fun fragment hmem => (hcontinuations frames fragment hmem).2
      · by_cases hlast : frames = []
        · -- one frame
          subst hlast
          have hrun := first_frame_run generation true hdata
            (by simpa using hpayload) hfits
          have hcallbacks : DataMessage.callbacks generation ⟨opcode, [frame], hdata, hpayload⟩
              = chunkCallbacks generation opcode frame.payload.length true 0 frame.chunks :=
            List.append_nil _
          have hreceived : DataMessage.received generation ⟨opcode, [frame], hdata, hpayload⟩
              = ⟨generation, opcode, frame.payload⟩ := by
            simp [DataMessage.received, DataMessage.payload]
          have hwhole : DataMessage.IsWhole ⟨opcode, [frame], hdata, hpayload⟩
              ↔ frame.chunks.getLast? ≠ some [] := by
            simp [DataMessage.IsWhole]
          rw [pushAll, deliveredOnce, List.flatMap_singleton, hcallbacks, hreceived, length_chunkCallbacks,
            hwhole]
          exact hrun.2
        · -- several frames: the last callback is a continuation, and is refused
          refine iff_of_false ?_ ?_
          · intro heq
            have hlength : 0 < (frameCallbacks generation .continuation frames).length :=
              List.length_pos_of_ne_nil (frameCallbacks_ne_nil hlast)
            rw [pushAll, DataMessage.callbacks, frameCallbacks, Transducer.outputs_append, hfirst,
              List.map_append, Transducer.map_outputs_of_fixed (hcontinuations frames), deliveredOnce,
              List.flatMap_singleton] at heq
            have hends := congrArg List.getLast? heq
            rw [List.getLast?_append_of_ne_nil _ (by simpa using hlength.ne'), List.getLast?_concat,
              List.getLast?_replicate, if_neg hlength.ne'] at hends
            exact absurd (Option.some.inj hends) (by simp)
          · rintro ⟨only, honly, -⟩
            exact hlast (List.cons.inj honly).2

/-- The messages of a generation are delivered once each, at their last callbacks, exactly when all of
them are whole. -/
theorem completions_messages_iff {maxMessageBytes generation : ℕ} {messages : List DataMessage}
    (hmax : ∀ message ∈ messages, message.payload.length ≤ maxMessageBytes) :
    (pushAll maxMessageBytes (messages.flatMap (DataMessage.callbacks generation))).map completion
        = deliveredOnce generation messages
      ↔ ∀ message ∈ messages, message.IsWhole := by
  induction messages with
  | nil => exact iff_of_true rfl (by simp)
  | cons message messages ih =>
      obtain ⟨hfresh, hmessage⟩ := message_run generation (hmax message List.mem_cons_self)
      have hrest := ih fun other hmem => hmax other (List.mem_cons_of_mem _ hmem)
      have hsplit : deliveredOnce generation (message :: messages)
          = deliveredOnce generation [message] ++ deliveredOnce generation messages := by
        simp [deliveredOnce]
      have hlength : ((pushAll maxMessageBytes (message.callbacks generation)).map completion).length
          = (deliveredOnce generation [message]).length := by
        have hpositive : 0 < (message.callbacks generation).length := by
          apply List.length_pos_of_ne_nil
          apply frameCallbacks_ne_nil
          intro hnil
          exact message.hasPayload (by rw [hnil, List.flatMap_nil])
        simp only [pushAll, deliveredOnce, List.length_map, Transducer.length_outputs, List.flatMap_cons,
          List.flatMap_nil, List.append_nil, List.length_append, List.length_replicate, List.length_singleton]
        omega
      rw [List.flatMap_cons, pushAll_append, hfresh, List.map_append, hsplit,
        List.append_eq_append_iff_of_size_eq_left hlength, List.forall_mem_cons]
      exact and_congr hmessage hrest

/-- A text message in two frames. -/
def helloInTwoFrames : DataMessage where
  opcode := .text
  frames := [⟨[[104, 101, 108]], by simp⟩, ⟨[[108, 111]], by simp⟩]
  isData := .inl rfl
  hasPayload := by simp [DataFrame.payload]

theorem helloInTwoFrames_split :
    (pushAll 8 (helloInTwoFrames.callbacks 2)).map completion = [some ⟨2, .text, [104, 101, 108]⟩, none] ∧
      deliveredOnce 2 [helloInTwoFrames] = [none, some ⟨2, .text, [104, 101, 108, 108, 111]⟩] ∧
      (pushAll 8 ([helloInTwoFrames].flatMap (DataMessage.callbacks 2))).map completion
        ≠ deliveredOnce 2 [helloInTwoFrames] := by
  decide

/-- Messages are delivered exactly when all of them are whole. Of any fragments, a completed message is
what was accepted last, in one generation, and after a refused fragment the next accepted one begins a
message and holds nothing else. -/
theorem messages_delivered_iff_whole (maxMessageBytes : ℕ) :
    (∀ (generation : ℕ) (messages : List DataMessage),
      (∀ message ∈ messages, message.payload.length ≤ maxMessageBytes) →
        ((pushAll maxMessageBytes (messages.flatMap (DataMessage.callbacks generation))).map completion
            = deliveredOnce generation messages
          ↔ ∀ message ∈ messages, message.IsWhole)) ∧
      (∀ (before : List WebSocketFragment) (fragment : WebSocketFragment) (message : WebSocketMessage),
        completion (push (afterAll maxMessageBytes before) fragment).1 = some message →
          message.payload.length ≤ maxMessageBytes ∧
            ∃ earlier accepted, before = earlier ++ accepted ∧
              afterAll maxMessageBytes earlier = fresh maxMessageBytes ∧
              (∀ result ∈ pushAll maxMessageBytes accepted, result = .ok {}) ∧
              IsMessageOf message (accepted ++ [fragment])) ∧
      ∀ (before : List WebSocketFragment) (refused : WebSocketFragment) (status : Status),
        (push (afterAll maxMessageBytes before) refused).1 = .error status →
          afterAll maxMessageBytes (before ++ [refused]) = fresh maxMessageBytes ∧
            ∀ (skipped : List WebSocketFragment) (next : WebSocketFragment),
              (∀ other ∈ skipped, ¬ IsFirst maxMessageBytes other) → IsFirst maxMessageBytes next →
                (∃ result, (push (afterAll maxMessageBytes (before ++ [refused] ++ skipped)) next).1
                    = .ok result) ∧
                  Pushed maxMessageBytes [next]
                    (push (afterAll maxMessageBytes (before ++ [refused] ++ skipped)) next) := by
  refine ⟨fun generation messages hmax => completions_messages_iff hmax,
    fun before fragment message h => completed_of_push h, ?_⟩
  intro before refused status hrefused
  have hfresh := push_refused hrefused
  refine ⟨hfresh, ?_⟩
  intro skipped next hskipped hnext
  have hskip : afterAll maxMessageBytes (before ++ [refused] ++ skipped) = fresh maxMessageBytes := by
    rw [afterAll_append, hfresh]
    exact Transducer.final_of_fixed fun other hmem => (push_fresh_of_not_isFirst (hskipped other hmem)).2
  rw [hskip]
  exact ⟨push_fresh_ok_iff.2 hnext, push_pushed next (.inl ⟨rfl, rfl⟩)⟩

/-- A binary message in one frame of three chunks. -/
def chunkedBinary : DataMessage where
  opcode := .binary
  frames := [⟨[[97, 98], [99, 100], [101]], by simp⟩]
  isData := .inr rfl
  hasPayload := by simp [DataFrame.payload]

theorem chunkedBinary_delivered :
    (pushAll 8 ([chunkedBinary, chunkedBinary].flatMap (DataMessage.callbacks 11))).map completion
        = deliveredOnce 11 [chunkedBinary, chunkedBinary] ∧
      afterAll 8 (helloInTwoFrames.callbacks 2) = fresh 8 := by
  refine ⟨((messages_delivered_iff_whole 8).1 11 _ (by decide)).2 ?_, ?_⟩
  · simp [chunkedBinary, DataMessage.IsWhole]
  · exact ((messages_delivered_iff_whole 8).2.2 (helloInTwoFrames.callbacks 2).dropLast
      (chunkCallback 2 .continuation 2 true 0 [108, 111])
      (Status.error .invalidArgument "没有首帧的 continuation") (by decide)).1

end VoiceLife.Linx
