import VoiceLife.Lib.Transducer

/-! # Frames found by their magic

A protocol has magics of one length, headers that begin with them and frames whose length a valid header
gives. The greedy reading of a stream looks for the first magic, takes its header and continues behind
the frame, or behind the header when it is invalid. A decoder that keeps no more than the bytes it may
still need emits the same frames from every stream (`emitted_eq_frames`).
-/

/-- A protocol of frames. `headerSize` depends on the magic and `frameSize` on the header. -/
structure FrameProtocol (α : Type*) where
  magics : List (List α)
  magicSize : ℕ
  headerSize : List α → ℕ
  frameSize : List α → Option ℕ
  magicSize_pos : 0 < magicSize
  length_magic : ∀ magic ∈ magics, magic.length = magicSize
  magicSize_lt : ∀ magic, magicSize < headerSize magic
  length_le_frameSize : ∀ header size, frameSize header = some size → header.length ≤ size

namespace FrameProtocol

variable {α : Type*} [DecidableEq α] (protocol : FrameProtocol α)

/-! ## The greedy reading -/

/-- The stream begins with a magic. -/
def Starts (stream : List α) : Prop :=
  ∃ magic ∈ protocol.magics, magic <+: stream

instance (stream : List α) : Decidable (protocol.Starts stream) :=
  inferInstanceAs (Decidable (∃ magic ∈ protocol.magics, magic <+: stream))

/-- The stream from the first magic on. -/
def locate : List α → Option (List α)
  | [] => none
  | a :: rest => if protocol.Starts (a :: rest) then some (a :: rest) else locate rest

/-- One step of the reading: what is emitted, and where the reading goes on. `none` when the stream ends
before. -/
def next (stream : List α) : Option (Option (List α) × List α) :=
  match protocol.locate stream with
  | none => none
  | some found =>
    let size := protocol.headerSize (found.take protocol.magicSize)
    if found.length < size then none
    else
      match protocol.frameSize (found.take size) with
      | none => some (none, found.drop size)
      | some total => if found.length < total then none else some (some (found.take total), found.drop total)

theorem suffix_of_locate {stream found : List α} (h : protocol.locate stream = some found) :
    found <:+ stream := by
  induction stream with
  | nil => cases h
  | cons a rest ih =>
      rw [locate] at h
      split at h
      · rw [Option.some.inj h]
      · exact (ih h).trans (List.suffix_cons a rest)

theorem length_next {stream rest : List α} {frame : Option (List α)}
    (h : protocol.next stream = some (frame, rest)) : rest.length < stream.length := by
  unfold next at h
  cases hlocate : protocol.locate stream with
  | none =>
      rw [hlocate] at h
      cases h
  | some found =>
      rw [hlocate] at h
      dsimp only at h
      have hle := (protocol.suffix_of_locate hlocate).length_le
      have hpositive := protocol.magicSize_lt (found.take protocol.magicSize)
      split_ifs at h with hshort
      cases hframe : protocol.frameSize (found.take (protocol.headerSize (found.take protocol.magicSize))) with
      | none =>
          rw [hframe] at h
          rw [← (Prod.mk.inj (Option.some.inj h)).2, List.length_drop]
          omega
      | some total =>
          rw [hframe] at h
          dsimp only at h
          have htotal := protocol.length_le_frameSize _ _ hframe
          rw [List.length_take] at htotal
          split_ifs at h with hpartial
          rw [← (Prod.mk.inj (Option.some.inj h)).2, List.length_drop]
          omega

/-- The frames of the greedy reading. -/
def frames (stream : List α) : List (List α) :=
  match _h : protocol.next stream with
  | none => []
  | some (frame, rest) => frame.toList ++ frames rest
termination_by stream.length
decreasing_by exact protocol.length_next _h

theorem frames_of_none {stream : List α} (h : protocol.next stream = none) : protocol.frames stream = [] := by
  rw [frames]
  split
  · rfl
  · next heq => rw [h] at heq; cases heq

theorem frames_of_some {stream rest : List α} {frame : Option (List α)}
    (h : protocol.next stream = some (frame, rest)) :
    protocol.frames stream = frame.toList ++ protocol.frames rest := by
  rw [frames]
  split
  · next heq => rw [h] at heq; cases heq
  · next heq =>
      obtain ⟨rfl, rfl⟩ := Prod.mk.inj (Option.some.inj (h.symm.trans heq))
      rfl

/-- Only what follows the first magic matters. -/
theorem frames_congr {stream stream' : List α} (h : protocol.locate stream = protocol.locate stream') :
    protocol.frames stream = protocol.frames stream' := by
  have hnext : protocol.next stream = protocol.next stream' := by rw [next, next, h]
  cases hstream : protocol.next stream with
  | none => rw [protocol.frames_of_none hstream, protocol.frames_of_none (hnext.symm.trans hstream)]
  | some step =>
      rw [protocol.frames_of_some hstream, protocol.frames_of_some (hnext.symm.trans hstream)]

/-! ## The decoder -/

/-- The state of a decoder: the end of the stream that may begin a magic, or the frame so far and the
length at which it is looked at again. -/
inductive State (α : Type*) where
  | searching (buffer : List α)
  | reading (bytes : List α) (expected : ℕ)

/-- The bytes may begin a magic. -/
def IsMagicPrefix (bytes : List α) : Prop :=
  ∃ magic ∈ protocol.magics, bytes <+: magic

instance (bytes : List α) : Decidable (protocol.IsMagicPrefix bytes) :=
  inferInstanceAs (Decidable (∃ magic ∈ protocol.magics, bytes <+: magic))

/-- Drops bytes from the front until what is left may begin a magic. -/
def shrink : List α → List α
  | [] => []
  | a :: rest => if protocol.IsMagicPrefix (a :: rest) then a :: rest else shrink rest

/-- What becomes of the bytes when there are as many as expected. -/
def finish (bytes : List α) : Option (List α) × State α :=
  if bytes.length ≠ protocol.headerSize (bytes.take protocol.magicSize) then (some bytes, .searching [])
  else
    match protocol.frameSize bytes with
    | none => (none, .searching [])
    | some total =>
      if total = bytes.length then (some bytes, .searching []) else (none, .reading bytes total)

/-- One byte. -/
def step : State α → α → Option (List α) × State α
  | .searching buffer, a =>
    let buffer := protocol.shrink (buffer ++ [a])
    (none, if buffer.length = protocol.magicSize then .reading buffer (protocol.headerSize buffer)
      else .searching buffer)
  | .reading bytes expected, a =>
    let bytes := bytes ++ [a]
    if bytes.length ≠ expected then (none, .reading bytes expected) else protocol.finish bytes

/-- The frames that a decoder emits from a stream. -/
def emitted (state : State α) (stream : List α) : List (List α) :=
  (Transducer.outputs protocol.step state stream).reduceOption

theorem emitted_cons (state : State α) (a : α) (stream : List α) :
    protocol.emitted state (a :: stream)
      = (protocol.step state a).1.toList ++ protocol.emitted (protocol.step state a).2 stream := by
  rw [emitted, Transducer.outputs_cons, emitted]
  cases (protocol.step state a).1 <;> rfl

/-! ## Searching -/

theorem shrink_isMagicPrefix (bytes : List α) (h : protocol.shrink bytes ≠ []) :
    protocol.IsMagicPrefix (protocol.shrink bytes) := by
  induction bytes with
  | nil => exact absurd rfl h
  | cons a rest ih =>
      rw [shrink] at h ⊢
      split
      · assumption
      · next hnot =>
          rw [if_neg hnot] at h
          exact ih h

theorem length_shrink (bytes : List α) : (protocol.shrink bytes).length ≤ bytes.length := by
  induction bytes with
  | nil => exact le_rfl
  | cons a rest ih =>
      rw [shrink]
      split
      · exact le_rfl
      · exact ih.trans (Nat.le_succ _)

theorem locate_shrink {bytes : List α} (hlength : bytes.length ≤ protocol.magicSize) (stream : List α) :
    protocol.locate (bytes ++ stream) = protocol.locate (protocol.shrink bytes ++ stream) := by
  induction bytes with
  | nil => rfl
  | cons a rest ih =>
      rw [shrink]
      split
      · rfl
      · next hnot =>
          have hstarts : ¬ protocol.Starts (a :: rest ++ stream) := by
            rintro ⟨magic, hmem, hpre⟩
            apply hnot
            refine ⟨magic, hmem, List.prefix_of_prefix_length_le (List.prefix_append _ _) hpre ?_⟩
            rw [protocol.length_magic magic hmem]
            exact hlength
          rw [List.cons_append] at hstarts ⊢
          rw [locate, if_neg hstarts]
          exact ih ((Nat.le_succ _).trans hlength)

theorem locate_of_length_lt {stream : List α} (h : stream.length < protocol.magicSize) :
    protocol.locate stream = none := by
  induction stream with
  | nil => rfl
  | cons a rest ih =>
      rw [locate, if_neg]
      · exact ih ((Nat.lt_succ_self _).trans h)
      · rintro ⟨magic, hmem, hpre⟩
        have hle := hpre.length_le
        rw [protocol.length_magic magic hmem] at hle
        omega

theorem locate_of_starts {stream : List α} (h : protocol.Starts stream) :
    protocol.locate stream = some stream := by
  cases stream with
  | nil =>
      obtain ⟨magic, hmem, hpre⟩ := h
      have hlength := protocol.length_magic magic hmem
      rw [List.prefix_nil.1 hpre] at hlength
      exact absurd hlength protocol.magicSize_pos.ne
  | cons a rest => rw [locate, if_pos h]

omit [DecidableEq α] in
/-- A prefix of full length is a magic. -/
theorem starts_of_isMagicPrefix {bytes : List α} (h : protocol.IsMagicPrefix bytes)
    (hlength : bytes.length = protocol.magicSize) (stream : List α) : protocol.Starts (bytes ++ stream) := by
  obtain ⟨magic, hmem, hpre⟩ := h
  have heq := hpre.eq_of_length (hlength.trans (protocol.length_magic magic hmem).symm)
  exact ⟨magic, hmem, heq ▸ List.prefix_append _ _⟩

/-! ## Reading -/

/-- While the bytes are fewer than expected nothing is emitted. -/
theorem emitted_reading {bytes : List α} {expected : ℕ} (h : bytes.length < expected) (stream : List α) :
    protocol.emitted (.reading bytes expected) stream =
      if bytes.length + stream.length < expected then []
      else
        let step := protocol.finish (bytes ++ stream.take (expected - bytes.length))
        step.1.toList ++ protocol.emitted step.2 (stream.drop (expected - bytes.length)) := by
  induction stream generalizing bytes with
  | nil =>
      rw [List.length_nil, Nat.add_zero, if_pos h]
      rfl
  | cons a stream ih =>
      rw [emitted_cons, step]
      dsimp only
      have hmore : expected - bytes.length = expected - (bytes ++ [a]).length + 1 := by
        rw [List.length_append, List.length_singleton]
        omega
      by_cases hlast : (bytes ++ [a]).length = expected
      · rw [if_neg (not_not.2 hlast), hmore, hlast, Nat.sub_self, Nat.zero_add, List.take_succ_cons,
          List.take_zero, List.drop_succ_cons, List.drop_zero, if_neg]
        rw [List.length_append, List.length_singleton] at hlast
        rw [List.length_cons]
        omega
      · have hshort : (bytes ++ [a]).length < expected := by
          rw [List.length_append, List.length_singleton] at hlast ⊢
          omega
        rw [if_pos hlast, Option.toList_none, List.nil_append, ih hshort, hmore, List.take_succ_cons,
          List.drop_succ_cons, List.append_assoc, List.singleton_append, List.length_append,
          List.length_singleton, List.length_cons, Nat.add_assoc, Nat.add_comm 1 stream.length]

/-- A decoder that has found a magic, if what it emits later is read greedily. -/
theorem emitted_magic {magic : List α} (hpre : protocol.IsMagicPrefix magic)
    (hmagic : magic.length = protocol.magicSize) (stream : List α)
    (ih : ∀ rest : List α, rest.length ≤ stream.length →
      protocol.emitted (.searching []) rest = protocol.frames rest) :
    protocol.emitted (.reading magic (protocol.headerSize magic)) stream
      = protocol.frames (magic ++ stream) := by
  have hlocate := protocol.locate_of_starts (protocol.starts_of_isMagicPrefix hpre hmagic stream)
  have htake : (magic ++ stream).take protocol.magicSize = magic := by
    rw [← hmagic, List.take_left]
  have hsize := protocol.magicSize_lt magic
  rw [← hmagic] at hsize
  rw [protocol.emitted_reading hsize]
  generalize hheader : protocol.headerSize magic = size at hsize ⊢
  split
  · next hshort =>
      rw [protocol.frames_of_none]
      rw [next, hlocate]
      dsimp only
      rw [htake, hheader, List.length_append, if_pos hshort]
  · next hlong =>
      -- the header is complete
      have hlength : (magic ++ stream.take (size - magic.length)).length = size := by
        rw [List.length_append, List.length_take]
        omega
      have hfirst : (magic ++ stream).take size = magic ++ stream.take (size - magic.length) := by
        rw [List.take_append, List.take_of_length_le hsize.le]
      have hrest : (magic ++ stream).drop size = stream.drop (size - magic.length) := by
        rw [List.drop_append, List.drop_of_length_le hsize.le, List.nil_append]
      have hnext : protocol.next (magic ++ stream) =
          match protocol.frameSize (magic ++ stream.take (size - magic.length)) with
          | none => some (none, stream.drop (size - magic.length))
          | some total =>
            if (magic ++ stream).length < total then none
            else some (some ((magic ++ stream).take total), (magic ++ stream).drop total) := by
        rw [next, hlocate]
        dsimp only
        rw [htake, hheader, if_neg (by rw [List.length_append]; exact hlong), hfirst, hrest]
      have hmagic' : (magic ++ stream.take (size - magic.length)).take protocol.magicSize = magic := by
        rw [← hmagic, List.take_left]
      dsimp only
      rw [finish, hmagic', hheader, if_neg (not_not.2 hlength)]
      generalize hbytes : magic ++ stream.take (size - magic.length) = header at *
      have hstream : magic ++ stream = header ++ stream.drop (size - magic.length) := by
        rw [← hbytes, List.append_assoc, List.take_append_drop]
      have hdropped : (stream.drop (size - magic.length)).length ≤ stream.length := by
        rw [List.length_drop]
        exact Nat.sub_le _ _
      generalize stream.drop (size - magic.length) = rest at *
      cases hframe : protocol.frameSize header with
      | none =>
          rw [hframe] at hnext
          rw [protocol.frames_of_some hnext, ← ih rest hdropped]
      | some total =>
          rw [hframe] at hnext
          dsimp only at hnext ⊢
          have hle := protocol.length_le_frameSize header total hframe
          by_cases hwhole : total = header.length
          · rw [hstream, if_neg (by rw [List.length_append]; omega), hwhole, List.take_left, List.drop_left]
              at hnext
            rw [if_pos hwhole, hstream, protocol.frames_of_some hnext, ← ih rest hdropped]
          · rw [if_neg hwhole, Option.toList_none, List.nil_append,
              protocol.emitted_reading (lt_of_le_of_ne hle (Ne.symm hwhole)), hstream]
            rw [hstream, List.length_append] at hnext
            split
            · next hpartial =>
                rw [if_pos hpartial] at hnext
                rw [protocol.frames_of_none hnext]
            · next hcomplete =>
                have htotal : (header ++ rest.take (total - header.length)).length = total := by
                  rw [List.length_append, List.length_take]
                  omega
                rw [if_neg hcomplete, List.take_append, List.take_of_length_le hle, List.drop_append,
                  List.drop_of_length_le hle, List.nil_append] at hnext
                rw [protocol.frames_of_some hnext, ← ih _ ?_]
                · dsimp only
                  rw [finish, if_pos]
                  rw [htotal, List.take_append_of_le_length (by omega), hmagic', hheader, ← hlength]
                  exact hwhole
                · rw [List.length_drop]
                  omega

/-- The decoder emits the frames of the greedy reading. -/
theorem emitted_searching (buffer : List α) (hbuffer : buffer.length < protocol.magicSize) (stream : List α) :
    protocol.emitted (.searching buffer) stream = protocol.frames (buffer ++ stream) := by
  induction hlength : stream.length using Nat.strong_induction_on generalizing buffer stream with
  | _ length ih =>
      subst hlength
      cases stream with
      | nil =>
          rw [List.append_nil, protocol.frames_of_none]
          · rfl
          · rw [next, protocol.locate_of_length_lt hbuffer]
      | cons a stream =>
          have hle : (buffer ++ [a]).length ≤ protocol.magicSize := by
            rw [List.length_append, List.length_singleton]
            exact hbuffer
          have hlocate := protocol.locate_shrink hle stream
          have hshrink := (protocol.length_shrink (buffer ++ [a])).trans hle
          rw [List.append_assoc, List.singleton_append] at hlocate
          rw [emitted_cons, step, protocol.frames_congr hlocate]
          dsimp only
          rw [Option.toList_none, List.nil_append]
          by_cases hmagic : (protocol.shrink (buffer ++ [a])).length = protocol.magicSize
          · have hnonempty : protocol.shrink (buffer ++ [a]) ≠ [] := by
              intro hnil
              rw [hnil] at hmagic
              exact protocol.magicSize_pos.ne hmagic
            have hpre := protocol.shrink_isMagicPrefix _ hnonempty
            rw [if_pos hmagic]
            exact protocol.emitted_magic hpre hmagic stream
              fun rest hrest => ih _ (Nat.lt_succ_of_le hrest) [] protocol.magicSize_pos _ rfl
          · rw [if_neg hmagic]
            exact ih _ (Nat.lt_succ_self _) _ (lt_of_le_of_ne hshrink hmagic) _ rfl

/-! ## Frames among noise -/

/-- A whole frame: a magic, a valid header and the declared length. -/
def IsFrame (frame : List α) : Prop :=
  protocol.Starts frame ∧
    protocol.headerSize (frame.take protocol.magicSize) ≤ frame.length ∧
    protocol.frameSize (frame.take (protocol.headerSize (frame.take protocol.magicSize))) = some frame.length

theorem starts_of_locate {stream found : List α} (h : protocol.locate stream = some found) :
    protocol.Starts found := by
  induction stream with
  | nil => cases h
  | cons a rest ih =>
      rw [locate] at h
      split at h
      · next hstarts => rwa [← Option.some.inj h]
      · exact ih h

theorem isFrame_of_next {stream rest frame : List α} (h : protocol.next stream = some (some frame, rest)) :
    protocol.IsFrame frame := by
  unfold next at h
  cases hlocate : protocol.locate stream with
  | none =>
      rw [hlocate] at h
      cases h
  | some found =>
      rw [hlocate] at h
      dsimp only at h
      have hmagic := protocol.magicSize_lt (found.take protocol.magicSize)
      generalize hsize : protocol.headerSize (found.take protocol.magicSize) = size at h hmagic
      split_ifs at h with hshort
      cases hframe : protocol.frameSize (found.take size) with
      | none =>
          rw [hframe] at h
          cases h
      | some total =>
          rw [hframe] at h
          dsimp only at h
          have htotal := protocol.length_le_frameSize _ _ hframe
          rw [List.length_take] at htotal
          split_ifs at h with hpartial
          obtain rfl := Option.some.inj (Prod.mk.inj (Option.some.inj h)).1
          have hlength : (found.take total).length = total := by
            rw [List.length_take]
            omega
          have htake : ∀ n ≤ total, (found.take total).take n = found.take n := by
            intro n hn
            rw [List.take_take, min_eq_left hn]
          refine ⟨?_, ?_, ?_⟩
          · obtain ⟨magic, hmem, hpre⟩ := protocol.starts_of_locate hlocate
            refine ⟨magic, hmem, List.prefix_of_prefix_length_le hpre (List.take_prefix _ _) ?_⟩
            rw [hlength, protocol.length_magic magic hmem]
            omega
          · rw [htake _ (by omega), hsize, hlength]
            omega
          · rw [htake protocol.magicSize (by omega), hsize, htake size (by omega), hframe, hlength]

/-- Every frame of the reading is a whole frame. -/
theorem isFrame_of_mem_frames {stream frame : List α} (h : frame ∈ protocol.frames stream) :
    protocol.IsFrame frame := by
  induction hlength : stream.length using Nat.strong_induction_on generalizing stream with
  | _ length ih =>
      subst hlength
      cases hnext : protocol.next stream with
      | none =>
          rw [protocol.frames_of_none hnext] at h
          exact absurd h List.not_mem_nil
      | some step =>
          obtain ⟨first, rest⟩ := step
          rw [protocol.frames_of_some hnext] at h
          rcases List.mem_append.1 h with hfirst | hrest
          · rw [Option.mem_toList] at hfirst
            rw [hfirst] at hnext
            exact protocol.isFrame_of_next hnext
          · exact ih _ (protocol.length_next hnext) hrest rfl

/-- No magic ends as another one begins. -/
def Unbordered : Prop :=
  ∀ magic ∈ protocol.magics, ∀ other ∈ protocol.magics, ∀ border, border ≠ [] → border <:+ magic →
    border <+: other → border = magic

omit [DecidableEq α] in
theorem starts_append {stream : List α} (h : protocol.Starts stream) (rest : List α) :
    protocol.Starts (stream ++ rest) := by
  obtain ⟨magic, hmem, hpre⟩ := h
  exact ⟨magic, hmem, hpre.trans (List.prefix_append _ _)⟩

/-- Noise without a magic does not hide the magic behind it, however it ends. -/
theorem locate_noise (hborders : protocol.Unbordered) {noise : List α} (hnoise : protocol.locate noise = none)
    {stream : List α} (hstream : protocol.Starts stream) :
    protocol.locate (noise ++ stream) = some stream := by
  induction noise with
  | nil => exact protocol.locate_of_starts hstream
  | cons a rest ih =>
      rw [locate] at hnoise
      split at hnoise
      · cases hnoise
      · next hnot =>
          have hstarts : ¬ protocol.Starts (a :: rest ++ stream) := by
            rintro ⟨magic, hmem, hpre⟩
            obtain ⟨other, hother, hpre'⟩ := hstream
            rcases le_total magic.length (a :: rest).length with hle | hle
            · exact hnot ⟨magic, hmem, List.prefix_of_prefix_length_le hpre (List.prefix_append _ _) hle⟩
            · -- the magic begins in the noise and ends in what follows
              obtain ⟨border, rfl⟩ :=
                List.prefix_of_prefix_length_le (List.prefix_append _ _) hpre hle
              have hborder : border <+: stream := (List.prefix_append_right_inj _).1 hpre
              have hlength := protocol.length_magic _ hmem
              have hlength' := protocol.length_magic _ hother
              rw [List.length_append, List.length_cons] at hlength
              have hother' : border <+: other :=
                List.prefix_of_prefix_length_le hborder hpre' (by omega)
              rcases eq_or_ne border [] with rfl | hne
              · exact hnot ⟨_, hmem, by rw [List.append_nil]⟩
              · have heq := hborders _ hmem other hother border hne (List.suffix_append _ _) hother'
                have hcontra := congrArg List.length heq
                rw [List.length_append, List.length_cons] at hcontra
                omega
          rw [List.cons_append] at hstarts ⊢
          rw [locate, if_neg hstarts]
          exact ih hnoise

theorem frames_noise {noise : List α} (h : protocol.locate noise = none) : protocol.frames noise = [] := by
  apply protocol.frames_of_none
  rw [next, h]

theorem frames_frame (hborders : protocol.Unbordered) {noise frame : List α}
    (hnoise : protocol.locate noise = none) (hframe : protocol.IsFrame frame) (rest : List α) :
    protocol.frames (noise ++ frame ++ rest) = frame :: protocol.frames rest := by
  obtain ⟨hstarts, hheader, hsize⟩ := hframe
  have hmagic : protocol.magicSize ≤ frame.length := (protocol.magicSize_lt _).le.trans hheader
  have hlocate := protocol.locate_noise hborders hnoise (protocol.starts_append hstarts rest)
  have hnext : protocol.next (noise ++ frame ++ rest) = some (some frame, rest) := by
    rw [next, List.append_assoc, hlocate]
    dsimp only
    rw [List.take_append_of_le_length hmagic, List.length_append, if_neg (by omega),
      List.take_append_of_le_length hheader, hsize]
    dsimp only
    rw [if_neg (by omega), List.take_left, List.drop_left]
  exact protocol.frames_of_some hnext

/-- Frames separated by noise without a magic are all read. -/
theorem frames_separated (hborders : protocol.Unbordered) {pieces : List (List α × List α)} {last : List α}
    (hnoise : ∀ piece ∈ pieces, protocol.locate piece.1 = none)
    (hframes : ∀ piece ∈ pieces, protocol.IsFrame piece.2) (hlast : protocol.locate last = none) :
    protocol.frames (pieces.flatMap (fun piece => piece.1 ++ piece.2) ++ last) = pieces.map Prod.snd := by
  induction pieces with
  | nil => exact protocol.frames_noise hlast
  | cons piece pieces ih =>
      rw [List.flatMap_cons, List.append_assoc,
        protocol.frames_frame hborders (hnoise piece List.mem_cons_self) (hframes piece List.mem_cons_self),
        List.map_cons]
      congr 1
      exact ih (fun other hmem => hnoise other (List.mem_cons_of_mem _ hmem))
        (fun other hmem => hframes other (List.mem_cons_of_mem _ hmem))

end FrameProtocol
