import VoiceLife.Lib.Rfc8259

/-! # Texts of JSON values

`Denotes text tree` says that a text is the text of a value wherever a value may stand. Writers put such
texts together: `joinTexts` of the items of an array, and of the members of an object, are read item by
item and member by member, and a text that cannot be read spoils all that it is part of.
-/

open DecimalText (Text ascii isDigit decimal)

namespace Rfc8259

/-- What a value does not start with: space, and the bracket that closes an array. -/
def startsValue (byte : UInt8) : Bool :=
  byte ≠ 32 && byte ≠ 9 && byte ≠ 10 && byte ≠ 13 && byte ≠ 93

/-- The text is read as the value, in front of whatever may follow a value. -/
structure Denotes (text : Text) (tree : Tree) : Prop where
  starts : ∃ byte ∈ text.head?, startsValue byte = true
  reads : ∀ rest, Ends rest → ∀ fuel, text.length < fuel → readValue fuel (text ++ rest) = some (tree, rest)

/-- The text is read as no value. -/
def Broken (text : Text) : Prop :=
  (∃ byte ∈ text.head?, startsValue byte = true) ∧ ∀ rest fuel, readValue fuel (text ++ rest) = none

/-- Texts with commas in between. -/
def joinTexts : List Text → Text
  | [] => []
  | [text] => text
  | text :: other :: texts => text ++ 44 :: joinTexts (other :: texts)

/-- A member of an object. -/
def memberText (key value : Text) : Text :=
  key ++ 58 :: value

theorem isUtf8_joinTexts {texts : List Text} (h : ∀ text ∈ texts, IsUtf8 text) : IsUtf8 (joinTexts texts) := by
  induction texts with
  | nil => exact isUtf8_nil
  | cons text texts ih =>
      have hfirst := h text List.mem_cons_self
      have hrest := ih fun other hmem => h other (List.mem_cons_of_mem _ hmem)
      cases texts with
      | nil => exact hfirst
      | cons other texts =>
          rw [joinTexts]
          exact hfirst.append ((@isUtf8_byte 44 (by decide)).append hrest)

theorem length_joinTexts_le (texts : List Text) :
    (joinTexts texts).length ≤ (texts.map List.length).sum + texts.length := by
  induction texts with
  | nil => exact Nat.zero_le _
  | cons text texts ih =>
      cases texts with
      | nil =>
          rw [joinTexts, List.map_cons, List.map_nil, List.sum_cons, List.sum_nil]
          exact Nat.le_add_right _ _
      | cons other texts =>
          rw [joinTexts, List.length_append, List.length_cons, List.map_cons, List.sum_cons,
            List.length_cons]
          omega

/-! ## Spaces -/

theorem skipSpace_of_starts {text : Text} (h : ∃ byte ∈ text.head?, startsValue byte = true) (rest : Text) :
    skipSpace (text ++ rest) = text ++ rest := by
  obtain ⟨byte, hhead, hstart⟩ := h
  obtain ⟨tail, rfl⟩ : ∃ tail, text = byte :: tail := by
    cases text with
    | nil => cases hhead
    | cons other tail => exact ⟨tail, by rw [Option.some.inj hhead]⟩
  simp only [startsValue, Bool.and_eq_true, decide_eq_true_eq] at hstart
  obtain ⟨⟨⟨⟨h32, h9⟩, h10⟩, h13⟩, -⟩ := hstart
  rw [List.cons_append, skipSpace, if_neg]
  rintro (h | h | h | h)
  · exact h32 h
  · exact h9 h
  · exact h10 h
  · exact h13 h

theorem expect_of_starts {text : Text} (h : ∃ byte ∈ text.head?, startsValue byte = true) (rest : Text) :
    expect 93 (text ++ rest) = none := by
  obtain ⟨byte, hhead, hstart⟩ := h
  cases text with
  | nil => cases hhead
  | cons other tail =>
      rw [Option.mem_def, List.head?_cons, Option.some.injEq] at hhead
      simp only [startsValue, Bool.and_eq_true, decide_eq_true_eq] at hstart
      rw [List.cons_append, expect, if_neg (by rw [hhead]; exact hstart.2)]

theorem starts_append {text : Text} (h : ∃ byte ∈ text.head?, startsValue byte = true) (rest : Text) :
    ∃ byte ∈ (text ++ rest).head?, startsValue byte = true := by
  obtain ⟨byte, hhead, hstart⟩ := h
  refine ⟨byte, ?_, hstart⟩
  cases text with
  | nil => cases hhead
  | cons other tail => exact hhead

theorem starts_joinTexts {texts : List Text} (hne : texts ≠ [])
    (h : ∀ text ∈ texts, ∃ byte ∈ text.head?, startsValue byte = true) :
    ∃ byte ∈ (joinTexts texts).head?, startsValue byte = true := by
  cases texts with
  | nil => exact absurd rfl hne
  | cons text texts =>
      have hfirst := h text List.mem_cons_self
      cases texts with
      | nil => exact hfirst
      | cons other texts => exact starts_append hfirst _

/-! ## Names -/

theorem denotes_null : Denotes (ascii "null") .null where
  starts := ⟨110, rfl, rfl⟩
  reads rest _ fuel hfuel := by
    obtain ⟨fuel, rfl⟩ := Nat.exists_eq_add_one.2 (Nat.zero_lt_of_lt hfuel)
    rfl

theorem denotes_true : Denotes (ascii "true") (.bool true) where
  starts := ⟨116, rfl, rfl⟩
  reads rest _ fuel hfuel := by
    obtain ⟨fuel, rfl⟩ := Nat.exists_eq_add_one.2 (Nat.zero_lt_of_lt hfuel)
    rfl

theorem denotes_false : Denotes (ascii "false") (.bool false) where
  starts := ⟨102, rfl, rfl⟩
  reads rest _ fuel hfuel := by
    obtain ⟨fuel, rfl⟩ := Nat.exists_eq_add_one.2 (Nat.zero_lt_of_lt hfuel)
    rfl

/-! ## Numbers -/

/-- What a number starts with. -/
def startsNumber (byte : UInt8) : Bool :=
  byte = 45 || isDigit byte

theorem readValue_number {byte : UInt8} (h : startsNumber byte = true) (fuel : ℕ) (rest : Text) :
    readValue (fuel + 1) (byte :: rest) =
      (readNumber (byte :: rest)).map fun found => (.number found.1, found.2) := by
  have hne : byte ≠ 34 ∧ byte ≠ 91 ∧ byte ≠ 123 ∧ byte ≠ 110 ∧ byte ≠ 116 ∧ byte ≠ 102 := by
    refine ⟨?_, ?_, ?_, ?_, ?_, ?_⟩ <;>
      · rintro rfl
        exact absurd h (by decide)
  obtain ⟨h34, h91, h123, h110, h116, h102⟩ := hne
  rw [readValue, if_neg h34, if_neg h91, if_neg h123, if_neg h110, if_neg h116, if_neg h102]

/-- A text is the text of a number if it is read as one in front of what may follow. -/
theorem denotes_number {text : Text} {value : ℚ} (hstarts : ∃ byte ∈ text.head?, startsNumber byte = true)
    (hreads : ∀ rest, Ends rest → readNumber (text ++ rest) = some (value, rest)) :
    Denotes text (.number value) := by
  obtain ⟨byte, hhead, hstart⟩ := hstarts
  obtain ⟨tail, rfl⟩ : ∃ tail, text = byte :: tail := by
    cases text with
    | nil => cases hhead
    | cons other tail => exact ⟨tail, by rw [Option.some.inj hhead]⟩
  refine ⟨⟨byte, hhead, ?_⟩, fun rest hrest fuel hfuel => ?_⟩
  · have hne : byte ≠ 32 ∧ byte ≠ 9 ∧ byte ≠ 10 ∧ byte ≠ 13 ∧ byte ≠ 93 := by
      refine ⟨?_, ?_, ?_, ?_, ?_⟩ <;>
        · rintro rfl
          exact absurd hstart (by decide)
    obtain ⟨h32, h9, h10, h13, h93⟩ := hne
    simp [startsValue, h32, h9, h10, h13, h93]
  · obtain ⟨fuel, rfl⟩ := Nat.exists_eq_add_one.2 (Nat.zero_lt_of_lt hfuel)
    have hnumber := hreads rest hrest
    rw [List.cons_append] at hnumber ⊢
    rw [readValue_number hstart, hnumber]
    rfl

theorem natDigits_eq_map (n : ℕ) :
    DecimalText.natDigits n = (if n = 0 then [48] else JsNumber.digitUnits n).map asciiByte := by
  unfold DecimalText.natDigits
  by_cases hzero : n = 0
  · rw [if_pos hzero, if_pos hzero]
    rfl
  · rw [if_neg hzero, if_neg hzero, JsNumber.digitUnits, List.map_map]
    apply List.map_congr_left
    intro digit hdigit
    have hlt : digit < 10 := Nat.digits_lt_base (by norm_num) (List.mem_reverse.1 hdigit)
    interval_cases digit <;> rfl

theorem isInteger_digits (n : ℕ) : IsInteger (if n = 0 then [48] else JsNumber.digitUnits n) n := by
  by_cases hzero : n = 0
  · rw [if_pos hzero, hzero]
    exact JsNumber.isInteger_zero
  · rw [if_neg hzero]
    exact ⟨JsNumber.digitUnits_allDigits n, JsNumber.digitUnits_ne_nil hzero,
      .inl (JsNumber.head?_digitUnits hzero), JsNumber.digitUnits_value n⟩

theorem isDigit_of_mem_natDigits {n : ℕ} {byte : UInt8} (h : byte ∈ DecimalText.natDigits n) :
    isDigit byte = true := by
  rw [natDigits_eq_map] at h
  obtain ⟨unit, hunit, rfl⟩ := List.mem_map.1 h
  exact (isDigit_asciiByte ((isInteger_digits n).allDigits unit hunit)).2.1

theorem printInt_eq (value : ℤ) : DecimalText.printInt 0 value =
    (if value < 0 then [45] else []) ++ DecimalText.natDigits value.natAbs := by
  simp [DecimalText.printInt]

theorem isUtf8_digits {digits : Text} (h : ∀ byte ∈ digits, isDigit byte = true) : IsUtf8 digits := by
  apply isUtf8_of_ascii
  intro byte hmem
  have hdigit := (DecimalText.isDigit_iff byte).1 (h byte hmem)
  omega

theorem isUtf8_printInt (value : ℤ) : IsUtf8 (DecimalText.printInt 0 value) := by
  rw [printInt_eq]
  refine IsUtf8.append ?_ (isUtf8_digits fun byte hmem => isDigit_of_mem_natDigits hmem)
  split_ifs
  · exact isUtf8_byte (by decide)
  · exact isUtf8_nil

/-- The decimal digits of an integer, with its sign. -/
theorem denotes_printInt (value : ℤ) : Denotes (DecimalText.printInt 0 value) (.number value) := by
  have hread := fun rest (hrest : Ends rest) => readNumber_digits (isInteger_digits value.natAbs) hrest
  rw [← natDigits_eq_map] at hread
  have hdigits : ∃ byte ∈ (DecimalText.natDigits value.natAbs).head?, isDigit byte = true := by
    have hne : (if value.natAbs = 0 then [48] else JsNumber.digitUnits value.natAbs) ≠ [] :=
      (isInteger_digits value.natAbs).ne_nil
    obtain ⟨unit, tail, hcons⟩ := List.exists_cons_of_ne_nil hne
    refine ⟨asciiByte unit, by rw [natDigits_eq_map, hcons]; rfl, ?_⟩
    apply @isDigit_of_mem_natDigits value.natAbs
    rw [natDigits_eq_map, hcons]
    exact List.mem_cons_self
  by_cases hneg : value < 0
  · have htext : DecimalText.printInt 0 value = 45 :: DecimalText.natDigits value.natAbs := by
      rw [printInt_eq, if_pos hneg, List.singleton_append]
    have hvalue : (value : ℚ) = -(value.natAbs : ℚ) := by
      have habs := Int.ofNat_natAbs_of_nonpos hneg.le
      rw [← Int.cast_natCast, habs, Int.cast_neg, neg_neg]
    rw [htext, hvalue]
    exact denotes_number ⟨45, rfl, rfl⟩ fun rest hrest => (hread rest hrest).2
  · have htext : DecimalText.printInt 0 value = DecimalText.natDigits value.natAbs := by
      rw [printInt_eq, if_neg hneg, List.nil_append]
    have hvalue : (value : ℚ) = (value.natAbs : ℚ) := by
      rw [← Int.cast_natCast, Int.natAbs_of_nonneg (not_lt.1 hneg)]
    rw [htext, hvalue]
    refine denotes_number ?_ fun rest hrest => (hread rest hrest).1
    obtain ⟨byte, hhead, hdigit⟩ := hdigits
    exact ⟨byte, hhead, by rw [startsNumber, hdigit, Bool.or_true]⟩

/-! ## Strings -/

theorem readValue_string (fuel : ℕ) (text : Text) :
    readValue (fuel + 1) (34 :: text) =
      (readString text).map fun found => (.string found.1, found.2) := by
  rw [readValue, if_pos rfl]

theorem denotes_string {body value : Text} (h : ∀ rest, readString (body ++ 34 :: rest) = some (value, rest)) :
    Denotes (34 :: (body ++ [34])) (.string value) := by
  refine ⟨⟨34, rfl, rfl⟩, fun rest _ fuel hfuel => ?_⟩
  obtain ⟨fuel, rfl⟩ := Nat.exists_eq_add_one.2 (Nat.zero_lt_of_lt hfuel)
  rw [List.cons_append, List.append_assoc, List.singleton_append, readValue_string, h rest]
  rfl

theorem broken_string {body : Text} (h : ∀ rest, readString (body ++ rest) = none) : Broken (34 :: body) := by
  refine ⟨⟨34, rfl, rfl⟩, fun rest fuel => ?_⟩
  cases fuel with
  | zero => rfl
  | succ fuel =>
      rw [List.cons_append, readValue_string, h rest]
      rfl

/-! ## Writers of strings -/

/-- The escape of an ASCII character by its number. -/
theorem readEscape_ascii {high low : UInt8} {n m : ℕ} (hhigh : hexValue high = some n)
    (hlow : hexValue low = some m) (hlt : n * 16 + m < 0x80) (rest : Text) :
    readEscape (117 :: 48 :: 48 :: high :: low :: rest) = some ([UInt8.ofNat (n * 16 + m)], rest) := by
  have hzero : hexValue 48 = some 0 := rfl
  have hunit : readUnit (48 :: 48 :: high :: low :: rest) = some (n * 16 + m, rest) := by
    rw [readUnit, hzero, hhigh, hlow]
    show some (0 * 4096 + 0 * 256 + n * 16 + m, rest) = _
    simp only [Nat.zero_mul, Nat.zero_add]
  rw [readEscape, if_pos rfl, hunit]
  show (if 0xd800 ≤ n * 16 + m ∧ n * 16 + m < 0xdc00 then _ else _) = _
  rw [if_neg (by omega), if_neg (by omega), encodePoint, if_pos hlt]

/-- What is written for a byte is read as this byte. -/
def Escapes (escape : UInt8 → Text) (byte : UInt8) : Prop :=
  (escape byte = [byte] ∧ isPlain byte = true) ∨
    ∃ letters, escape byte = 92 :: letters ∧ ∀ rest, readEscape (letters ++ rest) = some ([byte], rest)

variable {escape : UInt8 → Text}

theorem Escapes.plain {byte : UInt8} (h34 : byte ≠ 34) (h92 : byte ≠ 92)
    (hlow : 32 ≤ byte) (h : escape byte = [byte]) : Escapes escape byte := by
  refine .inl ⟨h, ?_⟩
  simpa [isPlain, h34, h92, UInt8.le_iff_toNat_le] using hlow

/-- A control character that is written by its number. -/
theorem Escapes.control {byte : UInt8} {hexDigit : ℕ → UInt8}
    (hdigit : ∀ digit < 16, hexValue (hexDigit digit) = some digit) (hlow : byte < 32)
    (h : escape byte = 92 :: 117 :: 48 :: 48 :: [hexDigit (byte.toNat / 16), hexDigit (byte.toNat % 16)]) :
    Escapes escape byte := by
  refine .inr ⟨_, h, fun rest => ?_⟩
  have hlt : byte.toNat < 32 := UInt8.lt_iff_toNat_lt.1 hlow
  have hcode : byte.toNat / 16 * 16 + byte.toNat % 16 = byte.toNat := Nat.div_add_mod' _ _
  have hread := readEscape_ascii (hdigit (byte.toNat / 16) (by omega)) (hdigit (byte.toNat % 16) (by omega))
    (by omega) rest
  rw [hcode, UInt8.ofNat_toNat] at hread
  exact hread

theorem reads_escaped {value : Text} (h : ∀ byte ∈ value, Escapes escape byte) (rest : Text) :
    Reads (value.flatMap escape).length (value.flatMap escape ++ 34 :: rest) (value, rest) := by
  induction value with
  | nil => exact reads_quote rest
  | cons byte value ih =>
      have hrest := ih fun other hmem => h other (List.mem_cons_of_mem _ hmem)
      rw [List.flatMap_cons, List.append_assoc, List.length_append]
      rcases h byte List.mem_cons_self with ⟨hplain, hbyte⟩ | ⟨letters, hescape, hread⟩
      · rw [hplain]
        refine hrest.plain fun other hmem => ?_
        rw [List.mem_singleton.1 hmem]
        exact hbyte
      · rw [hescape, List.cons_append]
        exact (hrest.escape (hread _)).mono (by rw [List.length_cons]; omega)

theorem denotes_escaped {value : Text} (h : ∀ byte ∈ value, Escapes escape byte) :
    Denotes (34 :: (value.flatMap escape ++ [34])) (.string value) := by
  apply denotes_string
  intro rest
  apply reads_escaped h rest
  rw [List.length_append]
  omega

/-- A string without escapes. -/
theorem readString_plain {value : Text} (h : ∀ byte ∈ value, isPlain byte = true) (rest : Text) :
    readString (value ++ 34 :: rest) = some (value, rest) := by
  have hread := @reads_escaped (fun byte => [byte]) value (fun byte hmem => .inl ⟨rfl, h byte hmem⟩) rest
  rw [List.flatMap_singleton'] at hread
  apply hread
  rw [List.length_append]
  omega

theorem readChars_escape {byte : UInt8} (h : Escapes escape byte) {rest : Text}
    (hrest : ∀ fuel, readChars fuel rest = none) (fuel : ℕ) :
    readChars fuel (escape byte ++ rest) = none := by
  cases fuel with
  | zero => rfl
  | succ fuel =>
      rcases h with ⟨hplain, hbyte⟩ | ⟨letters, hescape, hread⟩
      · simp only [isPlain, Bool.and_eq_true, decide_eq_true_eq] at hbyte
        obtain ⟨⟨hcontrol, hquote⟩, hslash⟩ := hbyte
        have hlow : ¬byte < 32 := by
          rw [UInt8.lt_iff_toNat_lt]
          exact not_lt.2 hcontrol
        rw [hplain, List.singleton_append, readChars, if_neg hquote, if_neg hslash, if_neg hlow, hrest]
        rfl
      · rw [hescape, List.cons_append, readChars, if_neg (by decide), if_pos rfl, hread]
        show (readChars fuel rest).map _ = none
        rw [hrest]
        rfl

/-- A control character that is written as it is spoils the string. -/
theorem readChars_control {before : Text} (h : ∀ byte ∈ before, Escapes escape byte)
    {byte : UInt8} (hcontrol : byte < 32) (hraw : escape byte = [byte]) (after rest : Text) (fuel : ℕ) :
    readChars fuel ((before ++ byte :: after).flatMap escape ++ rest) = none := by
  induction before generalizing fuel with
  | nil =>
      rw [List.nil_append, List.flatMap_cons, hraw, List.append_assoc, List.singleton_append]
      cases fuel with
      | zero => rfl
      | succ fuel =>
          have hquote : byte ≠ 34 := by
            rintro rfl
            exact absurd hcontrol (by decide)
          have hslash : byte ≠ 92 := by
            rintro rfl
            exact absurd hcontrol (by decide)
          rw [readChars, if_neg hquote, if_neg hslash, if_pos hcontrol]
  | cons first before ih =>
      rw [List.cons_append, List.flatMap_cons, List.append_assoc]
      apply readChars_escape (h first List.mem_cons_self)
      exact fun fuel => ih (fun other hmem => h other (List.mem_cons_of_mem _ hmem)) fuel

theorem broken_escaped {value : Text}
    (h : ∀ byte ∈ value, Escapes escape byte ∨ byte < 32 ∧ escape byte = [byte])
    (hbad : ∃ byte ∈ value, ¬Escapes escape byte) : Broken (34 :: (value.flatMap escape ++ [34])) := by
  -- the first byte that is not read back
  obtain ⟨before, byte, after, rfl, hbefore, hbyte⟩ : ∃ before byte after,
      value = before ++ byte :: after ∧ (∀ other ∈ before, Escapes escape other) ∧
        ¬Escapes escape byte := by
    clear h
    induction value with
    | nil =>
        obtain ⟨byte, hmem, -⟩ := hbad
        exact absurd hmem List.not_mem_nil
    | cons first value ih =>
        by_cases hfirst : Escapes escape first
        · have htail : ∃ byte ∈ value, ¬Escapes escape byte := by
            obtain ⟨byte, hmem, hbyte⟩ := hbad
            rcases List.mem_cons.1 hmem with rfl | hmem
            · exact absurd hfirst hbyte
            · exact ⟨byte, hmem, hbyte⟩
          obtain ⟨before, byte, after, rfl, hbefore, hbyte⟩ := ih htail
          refine ⟨first :: before, byte, after, rfl, fun other hmem => ?_, hbyte⟩
          rcases List.mem_cons.1 hmem with rfl | hmem
          · exact hfirst
          · exact hbefore other hmem
        · exact ⟨[], first, value, rfl, fun _ hmem => absurd hmem List.not_mem_nil, hfirst⟩
  obtain ⟨hcontrol, hraw⟩ := (h byte (List.mem_append_right _ List.mem_cons_self)).resolve_left hbyte
  apply broken_string
  intro rest
  rw [List.append_assoc]
  exact readChars_control hbefore hcontrol hraw after _ _

/-! ## Arrays -/

theorem readItems_last {text : Text} {tree : Tree} (h : Denotes text tree) {fuel : ℕ}
    (hfuel : text.length < fuel) (rest : Text) :
    readItems (fuel + 1) (text ++ 93 :: rest) = some ([tree], rest) := by
  rw [readItems, skipSpace_of_starts h.starts, h.reads _ (ends_cons (.inr (.inl rfl))) fuel hfuel]
  rfl

theorem readItems_more {text : Text} {tree : Tree} (h : Denotes text tree) {fuel : ℕ}
    (hfuel : text.length < fuel) (rest : Text) :
    readItems (fuel + 1) (text ++ 44 :: rest) =
      (readItems fuel rest).map fun found => (tree :: found.1, found.2) := by
  rw [readItems, skipSpace_of_starts h.starts, h.reads _ (ends_cons (.inl rfl)) fuel hfuel]
  rfl

theorem readItems_joinTexts {items : List (Text × Tree)} (hne : items ≠ [])
    (h : ∀ item ∈ items, Denotes item.1 item.2) (rest : Text) {fuel : ℕ}
    (hfuel : (joinTexts (items.map Prod.fst)).length + 1 < fuel) :
    readItems fuel (joinTexts (items.map Prod.fst) ++ 93 :: rest) =
      some (items.map Prod.snd, rest) := by
  obtain ⟨fuel, rfl⟩ := Nat.exists_eq_add_one.2 (Nat.zero_lt_of_lt hfuel)
  induction items generalizing fuel with
  | nil => exact absurd rfl hne
  | cons item items ih =>
      have hitem := h item List.mem_cons_self
      cases items with
      | nil => exact readItems_last hitem (Nat.lt_of_succ_lt_succ hfuel) rest
      | cons other items =>
          rw [List.map_cons, List.map_cons, joinTexts, List.length_append, List.length_cons,
            ← List.map_cons] at hfuel
          obtain ⟨fuel, rfl⟩ : ∃ fuel', fuel = fuel' + 1 := ⟨fuel - 1, by omega⟩
          rw [List.map_cons, List.map_cons, joinTexts, ← List.map_cons, List.append_assoc, List.cons_append,
            readItems_more hitem (by omega)]
          rw [ih (List.cons_ne_nil _ _) (fun item hmem => h item (List.mem_cons_of_mem _ hmem)) fuel
            (by omega)]
          rfl

theorem denotes_array {items : List (Text × Tree)} (h : ∀ item ∈ items, Denotes item.1 item.2) :
    Denotes (91 :: (joinTexts (items.map Prod.fst) ++ [93])) (.array (items.map Prod.snd)) := by
  refine ⟨⟨91, rfl, rfl⟩, fun rest _ fuel hfuel => ?_⟩
  obtain ⟨fuel, rfl⟩ := Nat.exists_eq_add_one.2 (Nat.zero_lt_of_lt hfuel)
  rw [List.cons_append, List.append_assoc, List.singleton_append]
  by_cases hempty : items = []
  · rw [hempty]
    rfl
  · have hstarts : ∃ byte ∈ (joinTexts (items.map Prod.fst)).head?, startsValue byte = true := by
      apply starts_joinTexts (mt List.map_eq_nil_iff.1 hempty)
      rintro text htext
      obtain ⟨item, hmem, rfl⟩ := List.mem_map.1 htext
      exact (h item hmem).starts
    rw [List.length_cons, List.length_append] at hfuel
    rw [readValue, if_neg (by decide), if_pos rfl, skipSpace_of_starts hstarts, expect_of_starts hstarts,
      readItems_joinTexts hempty h rest (by simpa using hfuel)]
    rfl

/-! ## Objects -/

/-- The text is a member with the key: its value is denoted by a text of its own, or is broken. -/
structure IsMember (text key : Text) (tree : Option Tree) : Prop where
  intro ::
  parts : ∃ body value, text = memberText (34 :: (body ++ [34])) value ∧
    (∀ rest, readString (body ++ 34 :: rest) = some (key, rest)) ∧
    tree.elim (Broken value) (Denotes value)

theorem readMembers_key {body value key : Text}
    (hkey : ∀ rest, readString (body ++ 34 :: rest) = some (key, rest))
    (hstarts : ∃ byte ∈ value.head?, startsValue byte = true) (fuel : ℕ) (rest : Text) :
    readMembers (fuel + 1) (memberText (34 :: (body ++ [34])) value ++ rest) =
      (readValue fuel (value ++ rest)).bind fun found =>
        readMore (readMembers fuel) 125 (key, found.1) found.2 := by
  have htext : memberText (34 :: (body ++ [34])) value ++ rest =
      34 :: (body ++ 34 :: 58 :: (value ++ rest)) := by
    simp [memberText]
  have hquote : skipSpace (34 :: (body ++ 34 :: 58 :: (value ++ rest))) =
      34 :: (body ++ 34 :: 58 :: (value ++ rest)) := rfl
  have hcolon : expect 58 (skipSpace (58 :: (value ++ rest))) = some (value ++ rest) := rfl
  have hopen : expect 34 (34 :: (body ++ 34 :: 58 :: (value ++ rest))) =
      some (body ++ 34 :: 58 :: (value ++ rest)) := rfl
  rw [htext, readMembers, hquote, hopen]
  simp only [Option.bind_eq_bind, Option.bind_some, hkey, hcolon, skipSpace_of_starts hstarts]

namespace IsMember

variable {text key : Text} {tree : Tree}

theorem starts {tree : Option Tree} (h : IsMember text key tree) :
    ∃ byte ∈ text.head?, startsValue byte = true := by
  obtain ⟨body, value, rfl, -, -⟩ := h.parts
  exact ⟨34, rfl, rfl⟩

theorem readMembers_last (h : IsMember text key (some tree)) {fuel : ℕ} (hfuel : text.length < fuel)
    (rest : Text) : readMembers (fuel + 1) (text ++ 125 :: rest) = some ([(key, tree)], rest) := by
  obtain ⟨body, value, rfl, hkey, hvalue⟩ := h.parts
  rw [memberText, List.length_append, @List.length_cons _ 58 value] at hfuel
  rw [readMembers_key hkey hvalue.starts,
    hvalue.reads _ (ends_cons (.inr (.inr rfl))) fuel (by omega)]
  rfl

theorem readMembers_more (h : IsMember text key (some tree)) {fuel : ℕ} (hfuel : text.length < fuel)
    (rest : Text) : readMembers (fuel + 1) (text ++ 44 :: rest) =
      (readMembers fuel rest).map fun found => ((key, tree) :: found.1, found.2) := by
  obtain ⟨body, value, rfl, hkey, hvalue⟩ := h.parts
  rw [memberText, List.length_append, @List.length_cons _ 58 value] at hfuel
  rw [readMembers_key hkey hvalue.starts, hvalue.reads _ (ends_cons (.inl rfl)) fuel (by omega)]
  rfl

theorem readMembers_broken (h : IsMember text key none) (fuel : ℕ) (rest : Text) :
    readMembers fuel (text ++ rest) = none := by
  obtain ⟨body, value, rfl, hkey, hvalue⟩ := h.parts
  cases fuel with
  | zero => rfl
  | succ fuel =>
      rw [readMembers_key hkey hvalue.1, hvalue.2]
      rfl

end IsMember

theorem readMembers_joinTexts {members : List (Text × Text × Tree)} (hne : members ≠ [])
    (h : ∀ member ∈ members, IsMember member.1 member.2.1 (some member.2.2)) (rest : Text) {fuel : ℕ}
    (hfuel : (joinTexts (members.map Prod.fst)).length + 1 < fuel) :
    readMembers fuel (joinTexts (members.map Prod.fst) ++ 125 :: rest) =
      some (members.map Prod.snd, rest) := by
  obtain ⟨fuel, rfl⟩ := Nat.exists_eq_add_one.2 (Nat.zero_lt_of_lt hfuel)
  induction members generalizing fuel with
  | nil => exact absurd rfl hne
  | cons member members ih =>
      have hmember := h member List.mem_cons_self
      cases members with
      | nil => exact hmember.readMembers_last (Nat.lt_of_succ_lt_succ hfuel) rest
      | cons other members =>
          rw [List.map_cons, List.map_cons, joinTexts, List.length_append, List.length_cons,
            ← List.map_cons] at hfuel
          obtain ⟨fuel, rfl⟩ : ∃ fuel', fuel = fuel' + 1 := ⟨fuel - 1, by omega⟩
          rw [List.map_cons, List.map_cons, joinTexts, ← List.map_cons, List.append_assoc, List.cons_append,
            hmember.readMembers_more (by omega)]
          rw [ih (List.cons_ne_nil _ _) (fun member hmem => h member (List.mem_cons_of_mem _ hmem)) fuel
            (by omega)]
          rfl

theorem denotes_object {members : List (Text × Text × Tree)}
    (h : ∀ member ∈ members, IsMember member.1 member.2.1 (some member.2.2)) :
    Denotes (123 :: (joinTexts (members.map Prod.fst) ++ [125])) (.object (members.map Prod.snd)) := by
  refine ⟨⟨123, rfl, rfl⟩, fun rest _ fuel hfuel => ?_⟩
  obtain ⟨fuel, rfl⟩ := Nat.exists_eq_add_one.2 (Nat.zero_lt_of_lt hfuel)
  rw [List.cons_append, List.append_assoc, List.singleton_append]
  by_cases hempty : members = []
  · rw [hempty]
    rfl
  · obtain ⟨member, members', rfl⟩ := List.exists_cons_of_ne_nil hempty
    have hstarts : ∃ byte ∈ (joinTexts ((member :: members').map Prod.fst)).head?,
        startsValue byte = true := by
      apply starts_joinTexts (by simp)
      rintro text htext
      obtain ⟨other, hmem, rfl⟩ := List.mem_map.1 htext
      exact (h other hmem).starts
    have hbrace : expect 125 (joinTexts ((member :: members').map Prod.fst) ++ 125 :: rest) = none := by
      obtain ⟨body, value, htext, -, -⟩ := (h member List.mem_cons_self).parts
      cases members' <;> rw [List.map_cons, htext] <;> rfl
    rw [List.length_cons, List.length_append] at hfuel
    rw [readValue, if_neg (by decide), if_neg (by decide), if_pos rfl, skipSpace_of_starts hstarts, hbrace,
      readMembers_joinTexts hempty h rest (by simpa using hfuel)]
    rfl

/-- The members in front of a broken one are read, but the object is not. -/
theorem readMembers_broken {before : List (Text × Text × Tree)}
    (h : ∀ member ∈ before, IsMember member.1 member.2.1 (some member.2.2)) {text key : Text}
    (hbroken : IsMember text key none) (after : List Text) (rest : Text) {fuel : ℕ}
    (hfuel : (joinTexts (before.map Prod.fst ++ text :: after)).length < fuel) :
    readMembers fuel (joinTexts (before.map Prod.fst ++ text :: after) ++ rest) = none := by
  induction before generalizing fuel with
  | nil =>
      cases after with
      | nil => exact hbroken.readMembers_broken fuel rest
      | cons other after =>
          rw [List.map_nil, List.nil_append, joinTexts, List.append_assoc]
          exact hbroken.readMembers_broken fuel _
  | cons member before ih =>
      have hjoin : joinTexts ((member :: before).map Prod.fst ++ text :: after) =
          member.1 ++ 44 :: joinTexts (before.map Prod.fst ++ text :: after) := by
        cases before <;> rfl
      rw [hjoin, List.length_append, List.length_cons] at hfuel
      obtain ⟨fuel, rfl⟩ : ∃ fuel', fuel = fuel' + 1 := ⟨fuel - 1, by omega⟩
      rw [hjoin, List.append_assoc, List.cons_append,
        (h member List.mem_cons_self).readMembers_more (by omega)]
      rw [ih (fun other hmem => h other (List.mem_cons_of_mem _ hmem)) (by omega)]
      rfl

theorem readValue_broken {before : List (Text × Text × Tree)}
    (h : ∀ member ∈ before, IsMember member.1 member.2.1 (some member.2.2)) {text key : Text}
    (hbroken : IsMember text key none) (after : List Text) {fuel : ℕ}
    (hfuel : (joinTexts (before.map Prod.fst ++ text :: after)).length < fuel) :
    readValue (fuel + 1) (123 :: (joinTexts (before.map Prod.fst ++ text :: after) ++ [125])) = none := by
  have hstarts : ∃ byte ∈ (joinTexts (before.map Prod.fst ++ text :: after)).head?,
      startsValue byte = true ∧ byte ≠ 125 := by
    cases before with
    | nil =>
        obtain ⟨body, value, rfl, -, -⟩ := hbroken.parts
        cases after <;> exact ⟨34, rfl, by decide, by decide⟩
    | cons member before =>
        obtain ⟨body, value, htext, -, -⟩ := (h member List.mem_cons_self).parts
        refine ⟨34, ?_, by decide, by decide⟩
        cases before <;> rw [List.map_cons, htext] <;> rfl
  obtain ⟨byte, hhead, hstart, hbrace⟩ := hstarts
  have hexpect : expect 125 (joinTexts (before.map Prod.fst ++ text :: after) ++ [125]) = none := by
    cases htexts : joinTexts (before.map Prod.fst ++ text :: after) with
    | nil =>
        rw [htexts] at hhead
        cases hhead
    | cons other tail =>
        rw [htexts, Option.mem_def, List.head?_cons, Option.some.injEq] at hhead
        rw [List.cons_append, expect, if_neg (by rw [hhead]; exact hbrace)]
  rw [readValue, if_neg (by decide), if_neg (by decide), if_pos rfl,
    skipSpace_of_starts ⟨byte, hhead, hstart⟩, hexpect, readMembers_broken h hbroken after [125] hfuel]
  rfl

/-! ## Whole texts -/

/-- An object with a broken member is not read. -/
theorem read_object_broken {texts : List Text} (h : ∀ text ∈ texts, ∃ key tree, IsMember text key tree)
    (hbroken : ∃ text ∈ texts, ∃ key, IsMember text key none) :
    read (123 :: (joinTexts texts ++ [125])) = none := by
  -- the members in front of the first broken one
  obtain ⟨before, text, key, after, hjoin, hbefore, hfirst⟩ : ∃ (before : List (Text × Text × Tree))
      (text key : Text) (after : List Text), texts = before.map Prod.fst ++ text :: after ∧
        (∀ member ∈ before, IsMember member.1 member.2.1 (some member.2.2)) ∧
        IsMember text key none := by
    induction texts with
    | nil =>
        obtain ⟨text, hmem, -⟩ := hbroken
        exact absurd hmem List.not_mem_nil
    | cons text texts ih =>
        by_cases hfirst : ∃ key, IsMember text key none
        · obtain ⟨key, hfirst⟩ := hfirst
          exact ⟨[], text, key, texts, rfl, List.forall_mem_nil _, hfirst⟩
        · obtain ⟨key, tree, hmember⟩ := h text List.mem_cons_self
          obtain ⟨tree, rfl⟩ : ∃ tree', tree = some tree' := by
            apply Option.ne_none_iff_exists'.1
            rintro rfl
            exact hfirst ⟨key, hmember⟩
          have htail : ∃ text ∈ texts, ∃ key, IsMember text key none := by
            obtain ⟨other, hmem, hnone⟩ := hbroken
            rcases List.mem_cons.1 hmem with rfl | hmem
            · exact absurd hnone hfirst
            · exact ⟨other, hmem, hnone⟩
          obtain ⟨before, text', key', after, rfl, hbefore, hbad⟩ :=
            ih (fun other hmem => h other (List.mem_cons_of_mem _ hmem)) htail
          refine ⟨(text, key, tree) :: before, text', key', after, rfl, ?_, hbad⟩
          exact List.forall_mem_cons.2 ⟨hmember, hbefore⟩
  have hspace : ∀ rest, skipSpace (123 :: rest) = 123 :: rest := fun _ => rfl
  rw [hjoin, read, hspace, List.length_cons, readValue_broken hbefore hfirst after]
  · rfl
  · rw [List.length_append]
    omega

theorem Denotes.read {text : Text} {tree : Tree} (h : Denotes text tree) : read text = some tree := by
  have hspace : skipSpace text = text := by
    have hrest := skipSpace_of_starts h.starts []
    rwa [List.append_nil] at hrest
  have hread := h.reads [] ends_nil (text.length + 1) (Nat.lt_succ_self _)
  rw [List.append_nil] at hread
  rw [Rfc8259.read, hspace, hread]
  rfl

end Rfc8259
