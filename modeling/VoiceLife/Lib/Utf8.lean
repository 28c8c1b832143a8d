import VoiceLife.Lib.JsText
import VoiceLife.Lib.DecimalText

/-! # UTF-8 of JavaScript strings

`utf8` is what a writer sends for a string: a surrogate pair is one code point, and a lone surrogate
is sent as the replacement character. Well-formed strings, those without a lone surrogate, can be cut
where one of them ends.
-/

open DecimalText (Text ascii)

/-- Half of a surrogate pair. -/
def isSurrogate (unit : CodeUnit) : Bool :=
  isHighSurrogate unit || isLowSurrogate unit

/-- `String.prototype.isWellFormed`: no lone surrogate. -/
def isWellFormed : JsString → Bool
  | [] => true
  | [unit] => !isSurrogate unit
  | high :: low :: rest =>
    if isHighSurrogate high && isLowSurrogate low then isWellFormed rest
    else !isSurrogate high && isWellFormed (low :: rest)

/-- The bytes of a code point. -/
def encodePoint (point : ℕ) : Text :=
  if point < 0x80 then [UInt8.ofNat point]
  else if point < 0x800 then [UInt8.ofNat (0xc0 + point / 64), UInt8.ofNat (0x80 + point % 64)]
  else if point < 0x10000 then
    [UInt8.ofNat (0xe0 + point / 4096), UInt8.ofNat (0x80 + point / 64 % 64),
      UInt8.ofNat (0x80 + point % 64)]
  else
    [UInt8.ofNat (0xf0 + point / 262144), UInt8.ofNat (0x80 + point / 4096 % 64),
      UInt8.ofNat (0x80 + point / 64 % 64), UInt8.ofNat (0x80 + point % 64)]

/-- The code point of a surrogate pair. -/
def pairPoint (high low : CodeUnit) : ℕ :=
  0x10000 + (high.val - 0xd800) * 0x400 + (low.val - 0xdc00)

/-- The bytes of a code unit that is not half of a pair. -/
def encodeUnit (unit : CodeUnit) : Text :=
  encodePoint (if isSurrogate unit then 0xfffd else unit.val)

/-- The UTF-8 encoding of a string. -/
def utf8 : JsString → Text
  | [] => []
  | [unit] => encodeUnit unit
  | high :: low :: rest =>
    if isHighSurrogate high && isLowSurrogate low then encodePoint (pairPoint high low) ++ utf8 rest
    else encodeUnit high ++ utf8 (low :: rest)

example : utf8 [0x48, 0xe9, 0x20ac, 0xd83d, 0xde00] =
    [0x48, 0xc3, 0xa9, 0xe2, 0x82, 0xac, 0xf0, 0x9f, 0x98, 0x80] := by
  decide

/-! ## Cutting a text -/

theorem isHighSurrogate_of_not {unit : CodeUnit} (h : isSurrogate unit = false) :
    isHighSurrogate unit = false := by
  simp only [isSurrogate, Bool.or_eq_false_iff] at h
  exact h.1

/-- A unit that is no surrogate stands alone. -/
theorem utf8_cons {unit : CodeUnit} (h : isSurrogate unit = false) (rest : JsString) :
    utf8 (unit :: rest) = encodePoint unit.val ++ utf8 rest := by
  have hunit : encodeUnit unit = encodePoint unit.val := by
    rw [encodeUnit, h, if_neg Bool.false_ne_true]
  cases rest with
  | nil => rw [utf8, utf8, hunit, List.append_nil]
  | cons low rest =>
      rw [utf8, isHighSurrogate_of_not h, Bool.false_and, if_neg Bool.false_ne_true, hunit]

theorem isWellFormed_cons {unit : CodeUnit} (h : isSurrogate unit = false) (rest : JsString) :
    isWellFormed (unit :: rest) = isWellFormed rest := by
  cases rest with
  | nil =>
      show (!isSurrogate unit) = true
      rw [h, Bool.not_false]
  | cons low rest =>
      rw [isWellFormed, isHighSurrogate_of_not h, Bool.false_and, if_neg Bool.false_ne_true, h,
        Bool.not_false, Bool.true_and]

theorem utf8_append {left : JsString} (h : isWellFormed left = true) (right : JsString) :
    utf8 (left ++ right) = utf8 left ++ utf8 right := by
  induction left using isWellFormed.induct with
  | case1 => rfl
  | case2 unit =>
      rw [isWellFormed, Bool.not_eq_true'] at h
      rw [List.singleton_append, utf8_cons h, utf8_cons h, utf8, List.append_nil]
  | case3 high low rest hpair ih =>
      rw [isWellFormed, if_pos hpair] at h
      rw [List.cons_append, List.cons_append, utf8, if_pos hpair, utf8, if_pos hpair, ih h,
        List.append_assoc]
  | case4 high low rest hpair ih =>
      rw [isWellFormed, if_neg hpair, Bool.and_eq_true, Bool.not_eq_true'] at h
      rw [List.cons_append, utf8_cons h.1, utf8_cons h.1, ih h.2, List.append_assoc]

theorem isWellFormed_append {left right : JsString} (hleft : isWellFormed left = true)
    (hright : isWellFormed right = true) : isWellFormed (left ++ right) = true := by
  induction left using isWellFormed.induct with
  | case1 => exact hright
  | case2 unit =>
      rw [isWellFormed, Bool.not_eq_true'] at hleft
      rw [List.singleton_append, isWellFormed_cons hleft]
      exact hright
  | case3 high low rest hpair ih =>
      rw [isWellFormed, if_pos hpair] at hleft
      rw [List.cons_append, List.cons_append, isWellFormed, if_pos hpair]
      exact ih hleft
  | case4 high low rest hpair ih =>
      rw [isWellFormed, if_neg hpair, Bool.and_eq_true, Bool.not_eq_true'] at hleft
      rw [List.cons_append, isWellFormed_cons hleft.1]
      exact ih hleft.2

/-! ## ASCII -/

/-- An ASCII code unit. -/
def isAscii (unit : CodeUnit) : Bool :=
  unit < 0x80

/-- The byte of an ASCII code unit. -/
def asciiByte (unit : CodeUnit) : UInt8 :=
  UInt8.ofNat unit.val

theorem isSurrogate_of_isAscii {unit : CodeUnit} (h : isAscii unit = true) :
    isSurrogate unit = false := by
  have hlt : unit.val < 0x80 := of_decide_eq_true h
  simp only [isSurrogate, isHighSurrogate, isLowSurrogate, Bool.or_eq_false_iff, Bool.and_eq_false_iff,
    decide_eq_false_iff_not, Fin.le_def, not_le]
  exact ⟨Or.inl (hlt.trans (by decide)), Or.inl (hlt.trans (by decide))⟩

theorem encodePoint_of_isAscii {unit : CodeUnit} (h : isAscii unit = true) :
    encodePoint unit.val = [asciiByte unit] := by
  have hlt : unit.val < 0x80 := of_decide_eq_true h
  rw [encodePoint, if_pos hlt, asciiByte]

theorem utf8_ascii_cons {unit : CodeUnit} (h : isAscii unit = true) (rest : JsString) :
    utf8 (unit :: rest) = asciiByte unit :: utf8 rest := by
  rw [utf8_cons (isSurrogate_of_isAscii h), encodePoint_of_isAscii h, List.singleton_append]

theorem isWellFormed_of_ascii {text : JsString} (h : ∀ unit ∈ text, isAscii unit = true) :
    isWellFormed text = true := by
  induction text with
  | nil => rfl
  | cons unit text ih =>
      rw [isWellFormed_cons (isSurrogate_of_isAscii (h unit List.mem_cons_self))]
      exact ih fun other hother => h other (List.mem_cons_of_mem unit hother)

theorem utf8_of_ascii {text : JsString} (h : ∀ unit ∈ text, isAscii unit = true) :
    utf8 text = text.map asciiByte := by
  induction text with
  | nil => rfl
  | cons unit text ih =>
      rw [utf8_ascii_cons (h unit List.mem_cons_self), List.map_cons,
        ih fun other hother => h other (List.mem_cons_of_mem unit hother)]

/-! ## Which bytes occur -/

/-- The bytes of a code point are the ASCII byte, or all of them are past ASCII. -/
theorem mem_encodePoint {point : ℕ} {byte : UInt8} (h : byte ∈ encodePoint point)
    (hpoint : point < 0x110000) : (point < 0x80 ∧ byte.toNat = point) ∨ 0x80 ≤ byte.toNat := by
  unfold encodePoint at h
  split_ifs at h with hone htwo hthree
  · rw [List.mem_singleton.1 h, UInt8.toNat_ofNat']
    exact Or.inl ⟨hone, by omega⟩
  all_goals
    right
    simp only [List.mem_cons, List.not_mem_nil, or_false] at h
    rcases h with rfl | rfl | rfl | rfl <;>
      · rw [UInt8.toNat_ofNat']
        omega

theorem pairPoint_lt {high low : CodeUnit} (h : (isHighSurrogate high && isLowSurrogate low) = true) :
    0x80 ≤ pairPoint high low ∧ pairPoint high low < 0x110000 := by
  simp only [isHighSurrogate, isLowSurrogate, Bool.and_eq_true, decide_eq_true_eq, Fin.le_def] at h
  obtain ⟨⟨hl, hh⟩, ⟨hl', hh'⟩⟩ := h
  have hhigh : high.val ≤ 0xdbff := hh
  have hlow : low.val ≤ 0xdfff := hh'
  unfold pairPoint
  omega

theorem encodeUnit_point (unit : CodeUnit) :
    (if isSurrogate unit then 0xfffd else unit.val) < 0x110000 := by
  have hlt := unit.isLt
  split_ifs <;> omega

/-- A text without a certain ASCII byte has no such byte in UTF-8 either. -/
theorem mem_utf8 {text : JsString} {byte : UInt8} (h : byte ∈ utf8 text) :
    (∃ unit ∈ text, unit.val < 0x80 ∧ byte.toNat = unit.val) ∨ 0x80 ≤ byte.toNat := by
  have hunit : ∀ unit : CodeUnit, byte ∈ encodeUnit unit →
      (unit.val < 0x80 ∧ byte.toNat = unit.val) ∨ 0x80 ≤ byte.toNat := by
    intro unit hmem
    have hcases := mem_encodePoint hmem (encodeUnit_point unit)
    by_cases hs : isSurrogate unit = true
    · rw [if_pos hs] at hcases
      exact Or.inr (hcases.resolve_left fun h => absurd h.1 (by omega))
    · rwa [if_neg hs] at hcases
  induction text using utf8.induct with
  | case1 => exact absurd h List.not_mem_nil
  | case2 unit => exact (hunit unit h).imp (fun hu => ⟨unit, List.mem_singleton_self unit, hu⟩) id
  | case3 high low rest hpair ih =>
      rw [utf8, if_pos hpair] at h
      rcases List.mem_append.1 h with hmem | hmem
      · have hpoint := pairPoint_lt hpair
        exact Or.inr ((mem_encodePoint hmem hpoint.2).resolve_left fun h => absurd h.1 (by omega))
      · refine (ih hmem).imp ?_ id
        rintro ⟨unit, hmem, hu⟩
        exact ⟨unit, List.mem_cons_of_mem _ (List.mem_cons_of_mem _ hmem), hu⟩
  | case4 high low rest hpair ih =>
      rw [utf8, if_neg hpair] at h
      rcases List.mem_append.1 h with hmem | hmem
      · exact (hunit high hmem).imp (fun hu => ⟨high, List.mem_cons_self, hu⟩) id
      · refine (ih hmem).imp ?_ id
        rintro ⟨unit, hmem, hu⟩
        exact ⟨unit, List.mem_cons_of_mem _ hmem, hu⟩

/-! ## Valid bytes -/

/-- A Unicode scalar value. -/
def IsScalar (point : ℕ) : Prop :=
  point < 0xd800 ∨ (0xe000 ≤ point ∧ point < 0x110000)

/-- Bytes that are the UTF-8 encoding of some text. -/
def IsUtf8 (text : Text) : Prop :=
  ∃ points : List ℕ, (∀ point ∈ points, IsScalar point) ∧ text = points.flatMap encodePoint

/-- The bytes of a string. -/
def stringBytes (text : String) : Text :=
  text.toList.flatMap fun character => encodePoint character.toNat

theorem IsScalar.lt {point : ℕ} (h : IsScalar point) : point < 0x110000 := by
  rcases h with h | h
  · omega
  · exact h.2

theorem isUtf8_nil : IsUtf8 [] :=
  ⟨[], fun _ h => absurd h List.not_mem_nil, rfl⟩

theorem IsUtf8.append {left right : Text} (hl : IsUtf8 left) (hr : IsUtf8 right) :
    IsUtf8 (left ++ right) := by
  obtain ⟨points, hpoints, rfl⟩ := hl
  obtain ⟨points', hpoints', rfl⟩ := hr
  refine ⟨points ++ points', fun point hmem => ?_, List.flatMap_append.symm⟩
  rcases List.mem_append.1 hmem with h | h
  · exact hpoints point h
  · exact hpoints' point h

theorem isUtf8_encodePoint {point : ℕ} (h : IsScalar point) : IsUtf8 (encodePoint point) :=
  ⟨[point], fun other hmem => List.mem_singleton.1 hmem ▸ h, by simp⟩

theorem isUtf8_byte {byte : UInt8} (h : byte.toNat < 0x80) : IsUtf8 [byte] := by
  have hencode : encodePoint byte.toNat = [byte] := by
    rw [encodePoint, if_pos h]
    simp
  rw [← hencode]
  exact isUtf8_encodePoint (.inl (by omega))

theorem isUtf8_of_ascii {text : Text} (h : ∀ byte ∈ text, byte.toNat < 0x80) : IsUtf8 text := by
  induction text with
  | nil => exact isUtf8_nil
  | cons byte text ih =>
      have htail := ih fun other hmem => h other (List.mem_cons_of_mem _ hmem)
      exact (isUtf8_byte (h byte List.mem_cons_self)).append htail

theorem lt_of_mem_ascii {s : String} (h : (s.toList.all fun c => c.toNat < 0x80) = true) {byte : UInt8}
    (hbyte : byte ∈ ascii s) : byte.toNat < 0x80 := by
  obtain ⟨character, hmem, rfl⟩ := List.mem_map.1 hbyte
  have hsmall : character.toNat < 0x80 := of_decide_eq_true (List.all_eq_true.1 h character hmem)
  rw [UInt8.toNat_ofNat']
  omega

theorem isUtf8_ascii {s : String} (h : (s.toList.all fun c => c.toNat < 0x80) = true) : IsUtf8 (ascii s) :=
  isUtf8_of_ascii fun _ => lt_of_mem_ascii h

theorem isUtf8_flatMap {α : Type} {items : List α} {write : α → Text} (h : ∀ item ∈ items, IsUtf8 (write item)) :
    IsUtf8 (items.flatMap write) := by
  induction items with
  | nil => exact isUtf8_nil
  | cons item items ih =>
      rw [List.flatMap_cons]
      exact (h item List.mem_cons_self).append (ih fun other hmem => h other (List.mem_cons_of_mem _ hmem))

theorem isUtf8_stringBytes (text : String) : IsUtf8 (stringBytes text) := by
  apply isUtf8_flatMap
  intro character _
  apply isUtf8_encodePoint
  rcases character.valid with h | h
  · exact .inl h
  · exact .inr ⟨h.1, h.2⟩

/-- A writer that replaces ASCII bytes by ASCII texts and keeps the others keeps the encoding. -/
theorem IsUtf8.flatMap {text : Text} (h : IsUtf8 text) {write : UInt8 → Text}
    (hascii : ∀ byte, byte.toNat < 0x80 → ∀ other ∈ write byte, other.toNat < 0x80)
    (hother : ∀ byte, 0x80 ≤ byte.toNat → write byte = [byte]) : IsUtf8 (text.flatMap write) := by
  obtain ⟨points, hpoints, rfl⟩ := h
  rw [List.flatMap_assoc]
  apply isUtf8_flatMap
  intro point hmem
  have hscalar := hpoints point hmem
  by_cases hsmall : point < 0x80
  · rw [encodePoint, if_pos hsmall, List.flatMap_singleton]
    apply isUtf8_of_ascii
    apply hascii
    rw [UInt8.toNat_ofNat']
    omega
  · have hkeep : (encodePoint point).flatMap write = encodePoint point := by
      calc (encodePoint point).flatMap write
          = (encodePoint point).flatMap fun byte => [byte] := by
            apply List.flatMap_congr
            intro byte hbyte
            refine hother byte ((mem_encodePoint hbyte hscalar.lt).resolve_left ?_)
            exact fun h => hsmall h.1
        _ = encodePoint point := List.flatMap_singleton' _
    rw [hkeep]
    exact isUtf8_encodePoint hscalar

theorem isUtf8_utf8 {text : JsString} (h : isWellFormed text = true) : IsUtf8 (utf8 text) := by
  have hunit : ∀ unit : CodeUnit, isSurrogate unit = false → IsUtf8 (encodePoint unit.val) := by
    intro unit hunit
    apply isUtf8_encodePoint
    have hlt := unit.isLt
    simp only [isSurrogate, isHighSurrogate, isLowSurrogate, Bool.or_eq_false_iff,
      Bool.and_eq_false_iff, decide_eq_false_iff_not, Fin.le_def] at hunit
    obtain ⟨hhigh, hlow⟩ := hunit
    have h1 : ((0xd800 : CodeUnit) : ℕ) = 0xd800 := rfl
    have h2 : ((0xdbff : CodeUnit) : ℕ) = 0xdbff := rfl
    have h3 : ((0xdc00 : CodeUnit) : ℕ) = 0xdc00 := rfl
    have h4 : ((0xdfff : CodeUnit) : ℕ) = 0xdfff := rfl
    rw [h1, h2] at hhigh
    rw [h3, h4] at hlow
    unfold IsScalar
    omega
  induction text using isWellFormed.induct with
  | case1 => exact isUtf8_nil
  | case2 unit =>
      rw [isWellFormed, Bool.not_eq_true'] at h
      rw [utf8_cons h]
      exact (hunit unit h).append isUtf8_nil
  | case3 high low rest hpair ih =>
      rw [isWellFormed, if_pos hpair] at h
      have hpoint := pairPoint_lt hpair
      rw [utf8, if_pos hpair]
      refine (isUtf8_encodePoint (.inr ⟨?_, hpoint.2⟩)).append (ih h)
      unfold pairPoint
      omega
  | case4 high low rest hpair ih =>
      rw [isWellFormed, if_neg hpair, Bool.and_eq_true, Bool.not_eq_true'] at h
      rw [utf8_cons h.1]
      exact (hunit high h.1).append (ih h.2)
