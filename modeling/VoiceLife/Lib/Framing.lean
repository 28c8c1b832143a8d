import Mathlib

/-! # Blocks that end in a doubled delimiter

`cut` takes the blocks off the front of a stream one after another; what is left is the beginning of the
next one. It finds the blocks that the stream is made of (`Blocks.cut_eq`), and it may be interrupted
anywhere (`cut_append`).
-/

namespace Framing

variable {α : Type*} [DecidableEq α] (d : α)

/-- The items in front of the first doubled delimiter, and those behind it. -/
def find : List α → Option (List α × List α)
  | a :: b :: rest =>
      if a = d ∧ b = d then some ([], rest)
      else (find (b :: rest)).map fun found => (a :: found.1, found.2)
  | _ => none

/-- A stream is made of blocks, with a doubled delimiter behind each and none before that, and the
beginning of another block. -/
structure Blocks (stream : List α) (blocks : List (List α)) (rest : List α) : Prop where
  stream : stream = (blocks.map (· ++ [d, d])).flatten ++ rest
  blocks : ∀ block ∈ blocks, ¬ [d, d] <:+: block ++ [d]
  rest : ¬ [d, d] <:+: rest

variable {d}

theorem find_cons_cons (a b : α) (s : List α) : find d (a :: b :: s) =
    if a = d ∧ b = d then some ([], s)
    else (find d (b :: s)).map fun found => (a :: found.1, found.2) := rfl

theorem find_eq_none_iff {s : List α} : find d s = none ↔ ¬ [d, d] <:+: s := by
  induction s with
  | nil => exact iff_of_true rfl (by simp)
  | cons a s ih =>
      cases s with
      | nil => exact iff_of_true rfl fun h => absurd h.length_le (by simp)
      | cons b s =>
          rw [find_cons_cons, List.infix_cons_iff, not_or]
          by_cases hd : a = d ∧ b = d
          · rw [if_pos hd, hd.1, hd.2]
            exact iff_of_false (Option.some_ne_none _) fun h => h.1 ⟨s, rfl⟩
          · rw [if_neg hd, Option.map_eq_none_iff, ih]
            refine ⟨fun h => ⟨fun hpre => hd ?_, h⟩, And.right⟩
            obtain ⟨h1, h2⟩ := List.cons_prefix_cons.1 hpre
            exact ⟨h1.symm, (List.cons_prefix_cons.1 h2).1.symm⟩

theorem find_append_delimiter {block : List α} (rest : List α) (h : ¬ [d, d] <:+: block ++ [d]) :
    find d (block ++ d :: d :: rest) = some (block, rest) := by
  induction block with
  | nil => exact if_pos ⟨rfl, rfl⟩
  | cons a block ih =>
      rw [List.cons_append, List.infix_cons_iff, not_or] at h
      have hih := ih h.2
      -- the item behind `a` is the first of the block or the delimiter
      obtain ⟨b, s, hs, hb⟩ : ∃ b s, block ++ d :: d :: rest = b :: s ∧ [b] <+: block ++ [d] := by
        cases block with
        | nil => exact ⟨d, d :: rest, rfl, List.prefix_rfl⟩
        | cons b block => exact ⟨b, block ++ d :: d :: rest, rfl, block ++ [d], rfl⟩
      have hd : ¬ (a = d ∧ b = d) := by
        rintro ⟨rfl, rfl⟩
        exact h.1 (List.cons_prefix_cons.2 ⟨rfl, hb⟩)
      rw [List.cons_append, hs, find_cons_cons, if_neg hd, ← hs, hih]
      rfl

theorem exists_delimiter_of_infix {s : List α} (h : [d, d] <:+: s) :
    ∃ block rest, s = block ++ d :: d :: rest ∧ ¬ [d, d] <:+: block ++ [d] := by
  induction s with
  | nil => simp at h
  | cons a s ih =>
      rcases List.infix_cons_iff.1 h with hpre | hinfix
      · obtain ⟨rest, hrest⟩ := hpre
        exact ⟨[], rest, hrest.symm, fun hd => absurd hd.length_le (by simp)⟩
      · obtain ⟨block, rest, hs, hblock⟩ := ih hinfix
        by_cases hpre : [d, d] <+: a :: s
        · obtain ⟨rest, hrest⟩ := hpre
          exact ⟨[], rest, hrest.symm, fun hd => absurd hd.length_le (by simp)⟩
        · refine ⟨a :: block, rest, by rw [hs, List.cons_append], fun hd => ?_⟩
          rcases List.infix_cons_iff.1 hd with hd | hd
          · apply hpre
            have hs' : a :: s = (a :: block ++ [d]) ++ d :: rest := by
              rw [hs]
              simp
            rw [hs']
            exact hd.trans (List.prefix_append _ _)
          · exact hblock hd

theorem find_eq_some_iff {s block rest : List α} : find d s = some (block, rest) ↔
    s = block ++ d :: d :: rest ∧ ¬ [d, d] <:+: block ++ [d] := by
  constructor
  · intro h
    have hinfix : [d, d] <:+: s := by
      by_contra hno
      rw [find_eq_none_iff.2 hno] at h
      cases h
    obtain ⟨block', rest', rfl, hblock⟩ := exists_delimiter_of_infix hinfix
    rw [find_append_delimiter rest' hblock] at h
    cases h
    exact ⟨rfl, hblock⟩
  · rintro ⟨rfl, hblock⟩
    exact find_append_delimiter rest hblock

theorem length_lt_of_find {s block rest : List α} (h : find d s = some (block, rest)) :
    rest.length < s.length := by
  rw [(find_eq_some_iff.1 h).1]
  simp
  omega

variable (d) in
/-- The blocks at the front of a stream, and what follows them. -/
def cut (s : List α) : List (List α) × List α :=
  match _h : find d s with
  | none => ([], s)
  | some (block, rest) => (block :: (cut rest).1, (cut rest).2)
termination_by s.length
decreasing_by all_goals exact length_lt_of_find _h

theorem cut_of_find_none {s : List α} (h : find d s = none) : cut d s = ([], s) := by
  rw [cut]
  split
  · rfl
  · rename_i heq
    rw [h] at heq
    cases heq

theorem cut_of_find_some {s block rest : List α} (h : find d s = some (block, rest)) :
    cut d s = (block :: (cut d rest).1, (cut d rest).2) := by
  rw [cut]
  split
  · rename_i heq
    rw [h] at heq
    cases heq
  · rename_i heq
    rw [h] at heq
    cases heq
    rfl

/-- The blocks of a stream are those that are cut off. -/
theorem Blocks.cut_eq {s : List α} {blocks : List (List α)} {rest : List α}
    (h : Blocks d s blocks rest) : cut d s = (blocks, rest) := by
  obtain ⟨rfl, hblocks, hrest⟩ := h
  induction blocks with
  | nil => exact cut_of_find_none (find_eq_none_iff.2 hrest)
  | cons block blocks ih =>
      have hfind := find_append_delimiter ((blocks.map (· ++ [d, d])).flatten ++ rest)
        (hblocks block List.mem_cons_self)
      have hstream : ((block :: blocks).map (· ++ [d, d])).flatten ++ rest =
          block ++ d :: d :: ((blocks.map (· ++ [d, d])).flatten ++ rest) := by
        simp
      rw [hstream, cut_of_find_some hfind, ih fun other hother => hblocks other (List.mem_cons_of_mem _ hother)]

theorem blocks_cut (s : List α) : Blocks d s (cut d s).1 (cut d s).2 := by
  induction hlength : s.length using Nat.strongRecOn generalizing s with
  | _ length ih =>
      cases hfind : find d s with
      | none =>
          rw [cut_of_find_none hfind]
          exact ⟨rfl, fun block hblock => absurd hblock List.not_mem_nil, find_eq_none_iff.1 hfind⟩
      | some found =>
          obtain ⟨block, rest⟩ := found
          obtain ⟨hs, hblock⟩ := find_eq_some_iff.1 hfind
          obtain ⟨hstream, hblocks, hrest⟩ := ih _ (hlength ▸ length_lt_of_find hfind) rest rfl
          rw [cut_of_find_some hfind]
          refine ⟨?_, ?_, hrest⟩
          · rw [hs]
            conv => lhs; rw [hstream]
            simp
          · intro other hother
            rcases List.mem_cons.1 hother with rfl | hother
            · exact hblock
            · exact hblocks other hother

/-- A stream may be cut as far as it is known, and what is left with the rest of it. -/
theorem cut_append (s t : List α) : cut d (s ++ t) =
    ((cut d s).1 ++ (cut d ((cut d s).2 ++ t)).1, (cut d ((cut d s).2 ++ t)).2) := by
  induction hlength : s.length using Nat.strongRecOn generalizing s with
  | _ length ih =>
      cases hfind : find d s with
      | none =>
          rw [cut_of_find_none hfind]
          rfl
      | some found =>
          obtain ⟨block, rest⟩ := found
          obtain ⟨rfl, hblock⟩ := find_eq_some_iff.1 hfind
          have hfind' := find_append_delimiter (rest ++ t) hblock
          rw [show block ++ d :: d :: (rest ++ t) = block ++ d :: d :: rest ++ t by simp] at hfind'
          rw [cut_of_find_some hfind, cut_of_find_some hfind',
            ih _ (hlength ▸ length_lt_of_find hfind) rest rfl]
          rfl

/-- What is left of a part of a stream belongs to one block or to what is left of the stream. -/
theorem length_left_lt {s t : List α} {blocks : List (List α)} {rest : List α} {bound : ℕ}
    (h : Blocks d (s ++ t) blocks rest) (hblocks : ∀ block ∈ blocks, block.length + 2 < bound)
    (hrest : rest.length < bound) : (cut d s).2.length < bound := by
  have hcut := h.cut_eq
  rw [cut_append] at hcut
  have hopen := find_eq_none_iff.2 (blocks_cut (d := d) s).rest
  obtain ⟨hparts, hleft⟩ := Prod.mk.inj hcut
  cases hfind : find d ((cut d s).2 ++ t) with
  | none =>
      rw [cut_of_find_none hfind] at hleft
      have hlength := congrArg List.length hleft
      rw [List.length_append] at hlength
      omega
  | some found =>
      obtain ⟨block, rest'⟩ := found
      obtain ⟨hstream, hblock⟩ := find_eq_some_iff.1 hfind
      have hmem : block ∈ blocks := by
        rw [← hparts, cut_of_find_some hfind]
        simp
      have hbound := hblocks block hmem
      -- otherwise the delimiter would be in the part that is known
      by_contra hlong
      have hpre : block ++ [d, d] <+: (cut d s).2 := by
        apply @List.prefix_of_prefix_length_le _ _ _ ((cut d s).2 ++ t)
        · rw [hstream]
          exact ⟨rest', by simp⟩
        · exact List.prefix_append _ _
        · simp
          omega
      exact (blocks_cut (d := d) s).rest ((List.infix_append' block [d, d] []).trans
        (by simpa using hpre.isInfix))

/-! ## Blocks of lines -/

/-- A line without a delimiter, in front of a text that begins with no delimiter. -/
theorem not_infix_line {line rest : List α} (hline : d ∉ line) (hfirst : rest.head? ≠ some d)
    (hrest : ¬ [d, d] <:+: rest) : ¬ [d, d] <:+: line ++ d :: rest := by
  induction line with
  | nil =>
      rw [List.nil_append, List.infix_cons_iff, not_or]
      refine ⟨fun hpre => hfirst ?_, hrest⟩
      obtain ⟨tail, rfl⟩ := (List.cons_prefix_cons.1 hpre).2
      rfl
  | cons a line ih =>
      rw [List.mem_cons, not_or] at hline
      rw [List.cons_append, List.infix_cons_iff, not_or]
      exact ⟨fun hpre => hline.1 (List.cons_prefix_cons.1 hpre).1, ih hline.2⟩

/-- Lines that are not empty make one block. -/
theorem not_infix_lines {lines : List (List α)} (h : ∀ line ∈ lines, line ≠ [] ∧ d ∉ line) :
    ¬ [d, d] <:+: (lines.map (· ++ [d])).flatten := by
  induction lines with
  | nil => exact fun hinfix => absurd hinfix.length_le (by simp)
  | cons line lines ih =>
      have hline := h line List.mem_cons_self
      have hlines : ∀ other ∈ lines, other ≠ [] ∧ d ∉ other :=
        fun other hother => h other (List.mem_cons_of_mem _ hother)
      rw [List.map_cons, List.flatten_cons, List.append_assoc, List.singleton_append]
      refine not_infix_line hline.2 ?_ (ih hlines)
      cases lines with
      | nil => exact fun hhead => by cases hhead
      | cons other lines =>
          obtain ⟨hne, hother⟩ := hlines other List.mem_cons_self
          obtain ⟨a, tail, rfl⟩ := List.exists_cons_of_ne_nil hne
          rintro hhead
          cases hhead
          exact hother List.mem_cons_self

theorem intercalate_append {lines : List (List α)} (h : lines ≠ []) :
    [d].intercalate lines ++ [d] = (lines.map (· ++ [d])).flatten := by
  induction lines with
  | nil => exact absurd rfl h
  | cons line lines ih =>
      cases lines with
      | nil => rw [List.intercalate_singleton, List.map_singleton, List.flatten_singleton]
      | cons other lines =>
          rw [List.intercalate_cons_cons, List.append_assoc, List.append_assoc, ih (List.cons_ne_nil _ _)]
          exact (List.append_assoc _ _ _).symm

end Framing
