import VoiceLife.Lib.Framing
import VoiceLife.Lib.DecimalText
import VoiceLife.Lib.Run

/-! # `im_sse.cc`: the frames of an event stream

The decoder takes the bytes of a stream in chunks, turns its line ends into LF and reads every block up
to a blank line. Frames that stay below the limit come out the same for all ways to cut the stream into
chunks (`feeds_frames`).
-/

open DecimalText (Text ascii)

namespace VoiceLife.Im

/-- `SseFrame`. -/
structure SseFrame where
  id : Text := []
  event : Text := []
  data : Text := []
deriving DecidableEq

/-- `SseDecoder`. -/
structure SseDecoder where
  buffer : Text := []
  trailingCr : Bool := false
  overflow : Bool := false

/-- `kMaxFrameBytes`. -/
def kMaxFrameBytes : ℕ := 4096

/-! ## Blocks -/

/-- The white space of `Trim`. -/
def isBlank (byte : UInt8) : Bool :=
  byte == 32 || byte == 9

/-- `Trim`. -/
def trim (value : Text) : Text :=
  ((value.dropWhile isBlank).reverse.dropWhile isBlank).reverse

/-- The frame that a block has given so far, with its `data` and `present`. -/
structure BlockState where
  frame : SseFrame := {}
  data : Text := []
  present : Bool := false

/-- What `ParseBlock` does with a line. -/
def BlockState.readLine (state : BlockState) (line : Text) : BlockState :=
  if line = [] ∨ line.head? = some 58 then state
  else
    match line.dropWhile (· != 58) with
    | [] => state
    | _ :: value =>
        let value := if value.head? = some 32 then value.tail else value
        let field := line.takeWhile (· != 58)
        if field = ascii "id" then
          { state with frame := { state.frame with id := trim value }, present := true }
        else if field = ascii "event" then
          { state with frame := { state.frame with event := trim value }, present := true }
        else if field = ascii "data" then
          let data := if state.data = [] then [] else state.data ++ [10]
          { state with data := data ++ value, present := true }
        else state

/-- `ParseBlock`: the lines of a block, and the frame when it has a field. -/
def parseBlock (block : Text) : Option SseFrame :=
  let state := (block.splitOn 10).foldl BlockState.readLine {}
  if state.present then some { state.frame with data := state.data } else none

/-! ## Chunks -/

/-- The first loop of `Feed`: the bytes it appends to the buffer, and `trailing_cr_` behind them. -/
def normalize : Bool → Text → Text × Bool
  | trailingCr, [] => ([], trailingCr)
  | _, 13 :: 10 :: bytes => let rest := normalize false bytes; (10 :: rest.1, rest.2)
  | _, 13 :: bytes => let rest := normalize true bytes; (10 :: rest.1, rest.2)
  | trailingCr, byte :: bytes =>
      let rest := normalize false bytes
      if byte = 10 ∧ trailingCr then rest else (byte :: rest.1, rest.2)

namespace SseDecoder

/-- `Feed`, with the frames that it appends. -/
def feed (decoder : SseDecoder) (bytes : Text) : SseDecoder × List SseFrame :=
  let (appended, trailingCr) := normalize decoder.trailingCr bytes
  let (blocks, buffer) := Framing.cut 10 (decoder.buffer ++ appended)
  let decoder := { decoder with buffer, trailingCr }
  (if buffer.length ≥ kMaxFrameBytes then { decoder with overflow := true, buffer := [] } else decoder,
    blocks.filterMap parseBlock)

/-- A call of `Feed` that appends to the frames of earlier ones. -/
def feedStep (state : SseDecoder × List SseFrame) (bytes : Text) : SseDecoder × List SseFrame :=
  let (decoder, frames) := state.1.feed bytes
  (decoder, state.2 ++ frames)

/-- A decoder that is fed chunk by chunk. -/
def feeds (chunks : List Text) : SseDecoder × List SseFrame :=
  Run.run feedStep ({}, []) chunks

end SseDecoder

/-! ## Line ends -/

/-- Every CRLF and every other CR is an LF. -/
def unifyLineEnds : Text → Text
  | 13 :: 10 :: bytes => 10 :: unifyLineEnds bytes
  | 13 :: bytes => 10 :: unifyLineEnds bytes
  | byte :: bytes => byte :: unifyLineEnds bytes
  | [] => []

theorem normalize_cr (trailingCr : Bool) (bytes : Text) : normalize trailingCr (13 :: bytes) =
    (10 :: (normalize true bytes).1, (normalize true bytes).2) := by
  cases bytes with
  | nil => rfl
  | cons byte bytes =>
      by_cases hlf : byte = 10
      · subst hlf
        rfl
      · rw [normalize]
        intro rest hrest
        exact hlf (List.cons.inj hrest).1

theorem normalize_cons_of_ne {byte : UInt8} (h : byte ≠ 13) (trailingCr : Bool) (bytes : Text) :
    normalize trailingCr (byte :: bytes) =
      if byte = 10 ∧ trailingCr then normalize false bytes
      else (byte :: (normalize false bytes).1, (normalize false bytes).2) := by
  rw [normalize]
  · intro rest hbyte
    exact absurd hbyte h
  · intro hbyte
    exact absurd hbyte h

/-- The line ends of a stream may be turned into LF in parts. -/
theorem normalize_append (trailingCr : Bool) (x y : Text) : normalize trailingCr (x ++ y) =
    ((normalize trailingCr x).1 ++ (normalize (normalize trailingCr x).2 y).1,
      (normalize (normalize trailingCr x).2 y).2) := by
  induction x generalizing trailingCr with
  | nil => cases y <;> rfl
  | cons byte x ih =>
      by_cases hcr : byte = 13
      · subst hcr
        rw [List.cons_append, normalize_cr, normalize_cr, ih]
        rfl
      · rw [List.cons_append, normalize_cons_of_ne hcr, normalize_cons_of_ne hcr, ih]
        by_cases hskip : byte = 10 ∧ trailingCr
        · rw [if_pos hskip, if_pos hskip]
        · rw [if_neg hskip, if_neg hskip]
          rfl

theorem normalize_true_of_ne {byte : UInt8} (h : byte ≠ 10) (bytes : Text) :
    normalize true (byte :: bytes) = normalize false (byte :: bytes) := by
  by_cases hcr : byte = 13
  · rw [hcr, normalize_cr, normalize_cr]
  · rw [normalize_cons_of_ne hcr, normalize_cons_of_ne hcr, if_neg fun hlf => h hlf.1,
      if_neg fun hlf => h hlf.1]

/-- The loop of `Feed` unifies the line ends; a CR in front of the bytes takes an LF with it. -/
theorem unifyLineEnds_eq (bytes : Text) : unifyLineEnds bytes = (normalize false bytes).1 ∧
    unifyLineEnds (13 :: bytes) = 10 :: (normalize true bytes).1 := by
  induction bytes with
  | nil => exact ⟨rfl, rfl⟩
  | cons byte bytes ih =>
      have hfirst : unifyLineEnds (byte :: bytes) = (normalize false (byte :: bytes)).1 := by
        by_cases hcr : byte = 13
        · rw [hcr, ih.2, normalize_cr]
        · have hcons : unifyLineEnds (byte :: bytes) = byte :: unifyLineEnds bytes := by
            rw [unifyLineEnds]
            · intro rest hbyte
              exact absurd hbyte hcr
            · intro hbyte
              exact absurd hbyte hcr
          rw [hcons, ih.1, normalize_cons_of_ne hcr, if_neg fun hskip => Bool.false_ne_true hskip.2]
      refine ⟨hfirst, ?_⟩
      by_cases hlf : byte = 10
      · rw [hlf, unifyLineEnds, ih.1, normalize_cons_of_ne (by decide), if_pos ⟨rfl, rfl⟩]
      · rw [normalize_true_of_ne hlf, ← hfirst, unifyLineEnds]
        intro rest hrest
        exact absurd (List.cons.inj hrest).1 hlf

/-! ## Decoding by chunks -/

namespace SseDecoder

/-- What a decoder has made of the bytes that it was fed. -/
structure Fed (bytes : Text) (state : SseDecoder × List SseFrame) : Prop where
  buffer : state.1.buffer = (Framing.cut 10 (normalize false bytes).1).2
  trailingCr : state.1.trailingCr = (normalize false bytes).2
  overflow : state.1.overflow = false
  frames : state.2 = (Framing.cut 10 (normalize false bytes).1).1.filterMap parseBlock

theorem fed_init : Fed [] ({}, []) where
  buffer := by
    rw [Framing.cut_of_find_none (by rfl)]
    rfl
  trailingCr := rfl
  overflow := rfl
  frames := by
    rw [Framing.cut_of_find_none (by rfl)]
    rfl

/-- A call of `Feed` reads on where the bytes before ended. -/
theorem Fed.feedStep {bytes chunk : Text} {state : SseDecoder × List SseFrame} (h : Fed bytes state)
    (hshort : (Framing.cut 10 (normalize false (bytes ++ chunk)).1).2.length < kMaxFrameBytes) :
    Fed (bytes ++ chunk) (feedStep state chunk) := by
  obtain ⟨hbuffer, htrailing, hoverflow, hframes⟩ := h
  have happend := normalize_append false bytes chunk
  rw [← htrailing] at happend
  have hcut := Framing.cut_append (d := 10) (normalize false bytes).1
    (normalize state.1.trailingCr chunk).1
  rw [← hbuffer] at hcut
  have hlength : ¬ (Framing.cut 10 (state.1.buffer ++
      (normalize state.1.trailingCr chunk).1)).2.length ≥ kMaxFrameBytes := by
    rw [happend, hcut] at hshort
    exact not_le.2 hshort
  have hstep : SseDecoder.feedStep state chunk =
      ({ state.1 with
          buffer := (Framing.cut 10 (state.1.buffer ++ (normalize state.1.trailingCr chunk).1)).2
          trailingCr := (normalize state.1.trailingCr chunk).2 },
        state.2 ++ (Framing.cut 10 (state.1.buffer ++
          (normalize state.1.trailingCr chunk).1)).1.filterMap parseBlock) := by
    simp only [SseDecoder.feedStep, feed]
    rw [if_neg hlength]
  rw [hstep]
  refine ⟨?_, ?_, hoverflow, ?_⟩
  · rw [happend, hcut]
  · rw [happend]
  · rw [happend, hcut, List.filterMap_append, ← hframes]

theorem feeds_concat (chunks : List Text) (chunk : Text) :
    feeds (chunks ++ [chunk]) = feedStep (feeds chunks) chunk := by
  rw [feeds, Run.run_append]
  rfl

theorem feeds_fed {chunks : List Text} (h : ∀ done, done <+: chunks →
    (Framing.cut 10 (normalize false done.flatten).1).2.length < kMaxFrameBytes) :
    Fed chunks.flatten (feeds chunks) := by
  induction chunks using List.reverseRecOn with
  | nil => exact fed_init
  | append_singleton chunks chunk ih =>
      have hfed := ih fun done hdone => h done (hdone.trans (List.prefix_append _ _))
      have hshort := h _ List.prefix_rfl
      rw [List.flatten_concat] at hshort ⊢
      rw [feeds_concat]
      exact hfed.feedStep hshort

/-- A part of a stream whose frames stay below the limit leaves less than the limit. -/
theorem left_lt_of_prefix {bytes : Text} {blocks : List Text} {rest : Text}
    (hblocks : Framing.Blocks 10 (unifyLineEnds bytes) blocks rest)
    (hframes : ∀ block ∈ blocks, block.length + 2 < kMaxFrameBytes) (hrest : rest.length < kMaxFrameBytes)
    {part : Text} (hpart : part <+: bytes) :
    (Framing.cut 10 (normalize false part).1).2.length < kMaxFrameBytes := by
  obtain ⟨later, rfl⟩ := hpart
  rw [(unifyLineEnds_eq _).1, normalize_append] at hblocks
  exact Framing.length_left_lt hblocks hframes hrest

/-- Frames below the limit are those of the blocks of the stream, however it is cut into chunks. -/
theorem feeds_frames (chunks : List Text) {blocks : List Text} {rest : Text}
    (hblocks : Framing.Blocks 10 (unifyLineEnds chunks.flatten) blocks rest)
    (hframes : ∀ block ∈ blocks, block.length + 2 < kMaxFrameBytes)
    (hrest : rest.length < kMaxFrameBytes) :
    (feeds chunks).2 = (feed {} chunks.flatten).2 ∧
      (feeds chunks).2 = blocks.filterMap parseBlock ∧
      (∀ done, done <+: chunks → (feeds done).1.overflow = false) ∧
      (feed {} chunks.flatten).1.overflow = false := by
  have hfed : ∀ {done : List Text}, done.flatten <+: chunks.flatten → Fed done.flatten (feeds done) := by
    intro done hdone
    apply feeds_fed
    intro part hpart
    apply left_lt_of_prefix hblocks hframes hrest
    exact (List.IsPrefix.flatten hpart).trans hdone
  have hcut : (Framing.cut 10 (normalize false chunks.flatten).1).1 = blocks := by
    rw [← (unifyLineEnds_eq _).1, hblocks.cut_eq]
  have hall := @hfed chunks List.prefix_rfl
  have hone := @hfed [chunks.flatten] (by simp)
  have honce : (feeds [chunks.flatten]).2 = (feed {} chunks.flatten).2 := rfl
  rw [List.flatten_singleton] at hone
  refine ⟨?_, ?_, fun done hdone => (hfed (List.IsPrefix.flatten hdone)).overflow, hone.overflow⟩
  · rw [← honce, hall.frames, hone.frames]
  · rw [hall.frames, hcut]

/-- A frame with two fields, cut inside its line ends. -/
theorem feeds_frames_two_fields :
    (feeds [ascii "id: 7\r", ascii "\ndata: x\r\n\r", ascii "\n"]).2 =
        (feed {} (ascii "id: 7\r\ndata: x\r\n\r\n")).2 ∧
      (feeds [ascii "id: 7\r", ascii "\ndata: x\r\n\r", ascii "\n"]).2 =
        [ascii "id: 7\ndata: x"].filterMap parseBlock ∧
      (∀ done, done <+: [ascii "id: 7\r", ascii "\ndata: x\r\n\r", ascii "\n"] →
        (feeds done).1.overflow = false) ∧
      (feed {} (ascii "id: 7\r\ndata: x\r\n\r\n")).1.overflow = false :=
  @feeds_frames [ascii "id: 7\r", ascii "\ndata: x\r\n\r", ascii "\n"] _ []
    ⟨by decide, by decide, by decide⟩ (by decide) (by decide)

end SseDecoder

end VoiceLife.Im
