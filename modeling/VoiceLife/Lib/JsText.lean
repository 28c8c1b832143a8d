import Mathlib

/-! # JavaScript strings and numbers and their JSON text

Strings are sequences of UTF-16 code units, lone surrogates included. A finite number stands for the
shortest decimal that reads back as it, so every finite double is one of these and zero has no sign,
as in JSON text. `quoteJson` and `JsNumber.text` are what `JSON.stringify` writes for them.
-/

/-- A UTF-16 code unit. -/
abbrev CodeUnit := Fin 65536

instance neZero_codeUnits : NeZero 65536 := ⟨by decide⟩

/-- A JavaScript string. -/
abbrev JsString := List CodeUnit

/-- The JavaScript string of an ASCII literal. -/
def js (text : String) : JsString :=
  text.toList.map fun character => Fin.ofNat 65536 character.toNat

/-! ## Quoted strings -/

/-- The first half of a surrogate pair. -/
def isHighSurrogate (unit : CodeUnit) : Bool :=
  0xd800 ≤ unit && unit ≤ 0xdbff

/-- The second half of a surrogate pair. -/
def isLowSurrogate (unit : CodeUnit) : Bool :=
  0xdc00 ≤ unit && unit ≤ 0xdfff

/-- A lower case hexadecimal digit. -/
def hexDigit (value : ℕ) : CodeUnit :=
  Fin.ofNat 65536 (if value < 10 then 48 + value else 87 + value)

/-- `UnicodeEscape`: a backslash, the letter `u` and four digits. -/
def unicodeEscape (unit : CodeUnit) : JsString :=
  [92, 117, hexDigit (unit.val / 4096), hexDigit (unit.val / 256 % 16),
    hexDigit (unit.val / 16 % 16), hexDigit (unit.val % 16)]

/-- The text of one code unit that is not half of a pair. -/
def quoteUnit (unit : CodeUnit) : JsString :=
  if unit = 8 then [92, 98]
  else if unit = 9 then [92, 116]
  else if unit = 10 then [92, 110]
  else if unit = 12 then [92, 102]
  else if unit = 13 then [92, 114]
  else if unit = 34 then [92, 34]
  else if unit = 92 then [92, 92]
  else if unit < 32 || isHighSurrogate unit || isLowSurrogate unit then unicodeEscape unit
  else [unit]

/-- The text between the quotes. A surrogate pair stays as it is, a lone surrogate is escaped. -/
def quoteUnits : JsString → JsString
  | [] => []
  | [unit] => quoteUnit unit
  | high :: low :: rest =>
    if isHighSurrogate high && isLowSurrogate low then high :: low :: quoteUnits rest
    else quoteUnit high ++ quoteUnits (low :: rest)

/-- `QuoteJSONString`. -/
def quoteJson (text : JsString) : JsString :=
  34 :: (quoteUnits text ++ [34])

/-! ## Numbers -/

/-- A finite number as its shortest decimal `mantissa * 10 ^ exponent`. -/
structure JsNumber where
  mantissa : ℤ
  exponent : ℤ
  normal : mantissa % 10 ≠ 0 ∨ (mantissa = 0 ∧ exponent = 0)
  deriving DecidableEq

namespace JsNumber

/-- `Number.isInteger`. -/
def isInteger (number : JsNumber) : Bool :=
  0 ≤ number.exponent

/-- The value of an integer. -/
def toInt (number : JsNumber) : ℤ :=
  number.mantissa * 10 ^ number.exponent.toNat

/-- The decimal digits of a natural number, the first one in front. -/
def digitUnits (value : ℕ) : JsString :=
  (Nat.digits 10 value).reverse.map fun digit => Fin.ofNat 65536 (48 + digit)

/-- The exponent of the scientific notation, with its sign. -/
def exponentUnits (exponent : ℤ) : JsString :=
  (if exponent < 0 then 45 else 43) :: digitUnits exponent.natAbs

/-- `Number::toString` of a positive value with `digits` and the decimal point after `point` of
them. -/
def positiveText (digits : JsString) (point : ℤ) : JsString :=
  if digits.length ≤ point ∧ point ≤ 21 then
    digits ++ List.replicate (point.toNat - digits.length) 48
  else if 0 < point ∧ point ≤ 21 then
    digits.take point.toNat ++ 46 :: digits.drop point.toNat
  else if -6 < point ∧ point ≤ 0 then
    48 :: 46 :: (List.replicate (-point).toNat 48 ++ digits)
  else if digits.length = 1 then
    digits ++ 101 :: exponentUnits (point - 1)
  else
    digits.take 1 ++ 46 :: (digits.drop 1 ++ 101 :: exponentUnits (point - 1))

/-- `Number::toString`. -/
def text (number : JsNumber) : JsString :=
  if number.mantissa = 0 then [48]
  else
    let digits := digitUnits number.mantissa.natAbs
    let unsigned := positiveText digits (digits.length + number.exponent)
    if number.mantissa < 0 then 45 :: unsigned else unsigned

end JsNumber

/-! ## Reading a quoted string -/

/-- The value of a hexadecimal digit. -/
def hexValue (unit : CodeUnit) : ℕ :=
  if unit.val < 58 then unit.val - 48 else unit.val - 87

/-- The code unit of a one-letter escape. -/
def unescape (letter : CodeUnit) : CodeUnit :=
  if letter = 98 then 8
  else if letter = 116 then 9
  else if letter = 110 then 10
  else if letter = 102 then 12
  else if letter = 114 then 13
  else letter

/-- The content up to the closing quote, and what follows it. -/
def unquote : JsString → JsString × JsString
  | [] => ([], [])
  | unit :: rest =>
    if unit = 34 then ([], rest)
    else if unit = 92 then
      match rest with
      | [] => ([], [])
      | letter :: rest =>
        if letter = 117 then
          match rest with
          | a :: b :: c :: d :: rest =>
            let value := hexValue a * 4096 + hexValue b * 256 + hexValue c * 16 + hexValue d
            (Fin.ofNat 65536 value :: (unquote rest).1, (unquote rest).2)
          | _ => ([], [])
        else (unescape letter :: (unquote rest).1, (unquote rest).2)
    else (unit :: (unquote rest).1, (unquote rest).2)

theorem hexValue_hexDigit {value : ℕ} (h : value < 16) : hexValue (hexDigit value) = value := by
  interval_cases value <;> rfl

/-- A code unit that is written as it is. -/
theorem unquote_plain {unit : CodeUnit} {rest : JsString} (hquote : unit ≠ 34)
    (hslash : unit ≠ 92) :
    unquote (unit :: rest) = (unit :: (unquote rest).1, (unquote rest).2) := by
  rw [unquote.eq_def]
  dsimp only
  rw [if_neg hquote, if_neg hslash]

@[simp] theorem unquote_close (rest : JsString) : unquote (34 :: rest) = ([], rest) := by
  rw [unquote.eq_def]
  rfl

theorem unquote_unicodeEscape (unit : CodeUnit) (rest : JsString) :
    unquote (unicodeEscape unit ++ rest) = (unit :: (unquote rest).1, (unquote rest).2) := by
  have hlt := unit.isLt
  have hvalue : Fin.ofNat 65536 (unit.val / 4096 * 4096 + unit.val / 256 % 16 * 256 +
      unit.val / 16 % 16 * 16 + unit.val % 16) = unit := by
    apply Fin.ext
    simp only [Fin.ofNat]
    omega
  simp only [unicodeEscape, List.cons_append, List.nil_append]
  rw [unquote.eq_def]
  dsimp only
  rw [if_neg (by decide), if_pos rfl, if_pos rfl]
  rw [hexValue_hexDigit (by omega), hexValue_hexDigit (by omega), hexValue_hexDigit (by omega),
    hexValue_hexDigit (by omega), hvalue]

/-- The units that are escaped by a letter, with their letters. -/
def letterEscapes : List (CodeUnit × CodeUnit) :=
  [(8, 98), (9, 116), (10, 110), (12, 102), (13, 114), (34, 34), (92, 92)]

theorem quoteUnit_of_letter :
    ∀ escape ∈ letterEscapes, quoteUnit escape.1 = [92, escape.2] :=
  List.all_iff_forall_prop.1 (by decide)

/-- A unit is escaped by a letter or by its number, or is written as it is. -/
theorem quoteUnit_cases (unit : CodeUnit) :
    (∃ letter, (unit, letter) ∈ letterEscapes ∧ quoteUnit unit = [92, letter]) ∨
      quoteUnit unit = unicodeEscape unit ∨
      (quoteUnit unit = [unit] ∧ 32 ≤ unit.val ∧ unit ≠ 34 ∧ unit ≠ 92) := by
  by_cases hletter : ∃ letter, (unit, letter) ∈ letterEscapes
  · obtain ⟨letter, hmem⟩ := hletter
    exact Or.inl ⟨letter, hmem, quoteUnit_of_letter _ hmem⟩
  · have hne : ∀ escape ∈ letterEscapes, unit ≠ escape.1 := by
      rintro escape hmem rfl
      exact hletter ⟨escape.2, hmem⟩
    rw [quoteUnit, if_neg (hne (8, 98) (by decide)), if_neg (hne (9, 116) (by decide)),
      if_neg (hne (10, 110) (by decide)), if_neg (hne (12, 102) (by decide)),
      if_neg (hne (13, 114) (by decide)), if_neg (hne (34, 34) (by decide)),
      if_neg (hne (92, 92) (by decide))]
    by_cases hescape : (unit < 32 || isHighSurrogate unit || isLowSurrogate unit) = true
    · exact Or.inr (Or.inl (if_pos hescape))
    · refine Or.inr (Or.inr ⟨if_neg hescape, ?_, hne (34, 34) (by decide), hne (92, 92) (by decide)⟩)
      by_contra hlt
      exact hescape (by simp [Fin.lt_def, not_le.1 hlt])

theorem unescape_of_letter :
    ∀ escape ∈ letterEscapes, escape.2 ≠ 117 ∧ unescape escape.2 = escape.1 :=
  List.all_iff_forall_prop.1 (by decide)

theorem unquote_quoteUnit (unit : CodeUnit) (rest : JsString) :
    unquote (quoteUnit unit ++ rest) = (unit :: (unquote rest).1, (unquote rest).2) := by
  rcases quoteUnit_cases unit with ⟨letter, hmem, hquote⟩ | hquote | ⟨hquote, -, h34, h92⟩
  · obtain ⟨h117, hletter⟩ := unescape_of_letter _ hmem
    rw [hquote, List.cons_append, unquote.eq_def]
    dsimp only [List.cons_append, List.nil_append]
    rw [if_neg (by decide), if_pos rfl, if_neg h117, hletter]
  · rw [hquote]
    exact unquote_unicodeEscape unit rest
  · rw [hquote]
    exact unquote_plain h34 h92

/-- Both halves of a pair are written as they are. -/
theorem unquote_pair {high low : CodeUnit} {rest : JsString}
    (h : (isHighSurrogate high && isLowSurrogate low) = true) :
    unquote (high :: low :: rest) = (high :: low :: (unquote rest).1, (unquote rest).2) := by
  simp only [isHighSurrogate, isLowSurrogate, Bool.and_eq_true, decide_eq_true_eq, Fin.le_def] at h
  have hne : ∀ unit : CodeUnit, 0xd800 ≤ unit.val → unit ≠ 34 ∧ unit ≠ 92 := by
    intro unit hunit
    constructor
    · rintro rfl
      exact absurd hunit (by decide)
    · rintro rfl
      exact absurd hunit (by decide)
  have hhigh := hne high h.1.1
  have hlow := hne low (le_trans (by decide) h.2.1)
  rw [unquote_plain hhigh.1 hhigh.2, unquote_plain hlow.1 hlow.2]

theorem unquote_quoteUnits (text rest : JsString) :
    unquote (quoteUnits text ++ 34 :: rest) = (text, rest) := by
  induction text using quoteUnits.induct with
  | case1 => exact unquote_close rest
  | case2 unit => rw [quoteUnits, unquote_quoteUnit, unquote_close]
  | case3 high low tail hpair ih =>
      rw [quoteUnits, if_pos hpair, List.cons_append, List.cons_append, unquote_pair hpair, ih]
  | case4 high low tail hpair ih =>
      rw [quoteUnits, if_neg hpair, List.append_assoc, unquote_quoteUnit, ih]

/-- A quoted string ends where its closing quote stands. -/
theorem quoteJson_append_inj {left right rest rest' : JsString}
    (h : quoteJson left ++ rest = quoteJson right ++ rest') : left = right ∧ rest = rest' := by
  simp only [quoteJson, List.cons_append, List.append_assoc, List.nil_append,
    List.cons.injEq, true_and] at h
  have hread := congrArg unquote h
  rw [unquote_quoteUnits, unquote_quoteUnits] at hread
  exact Prod.mk.inj hread

/-! ## Reading a number -/

namespace JsNumber

/-- A decimal digit. -/
def isDigit (unit : CodeUnit) : Bool :=
  48 ≤ unit && unit ≤ 57

/-- A code unit that occurs in the text of a number. -/
def isNumberUnit (unit : CodeUnit) : Bool :=
  isDigit unit || unit = 43 || unit = 45 || unit = 46 || unit = 101

/-- The value of a row of digits. -/
def digitsValue (digits : JsString) : ℕ :=
  digits.foldl (fun value digit => 10 * value + (digit.val - 48)) 0

/-- The value of a signed exponent. -/
def exponentValue : JsString → ℤ
  | [] => 0
  | sign :: digits => if sign = 45 then -(digitsValue digits : ℤ) else digitsValue digits

/-- The value of a decimal without a sign. -/
def decimalValue (text : JsString) : ℚ :=
  let significand := text.takeWhile (· ≠ 101)
  let exponent := (text.dropWhile (· ≠ 101)).tail
  let integer := significand.takeWhile (· ≠ 46)
  let fraction := (significand.dropWhile (· ≠ 46)).tail
  digitsValue (integer ++ fraction) * 10 ^ (exponentValue exponent - fraction.length)

/-- The value of a decimal. -/
def value (text : JsString) : ℚ :=
  if text.head? = some 45 then -decimalValue text.tail else decimalValue text

/-- All code units are digits. -/
def AllDigits (digits : JsString) : Prop :=
  ∀ unit ∈ digits, isDigit unit = true

theorem digitsValue_append (left right : JsString) :
    digitsValue (left ++ right) = digitsValue left * 10 ^ right.length + digitsValue right := by
  have hfold : ∀ (start : ℕ), right.foldl (fun value digit => 10 * value + (digit.val - 48)) start =
      start * 10 ^ right.length + digitsValue right := by
    induction right with
    | nil => simp [digitsValue]
    | cons unit right ih =>
        intro start
        simp only [digitsValue, List.foldl_cons, List.length_cons] at ih ⊢
        rw [ih, ih (10 * 0 + (unit.val - 48)), pow_succ]
        ring
  rw [digitsValue, List.foldl_append, hfold]
  rfl

theorem digitsValue_zeros (count : ℕ) : digitsValue (List.replicate count 48) = 0 := by
  induction count with
  | zero => rfl
  | succ count ih =>
      have hzero : digitsValue [48] = 0 := rfl
      rw [List.replicate_succ, ← List.singleton_append, digitsValue_append, ih, hzero,
        Nat.zero_mul]

theorem isDigit_digit {digit : ℕ} (h : digit < 10) :
    isDigit (Fin.ofNat 65536 (48 + digit)) = true ∧ (Fin.ofNat 65536 (48 + digit)).val - 48 = digit := by
  interval_cases digit <;> decide

theorem digitUnits_value (n : ℕ) : digitsValue (digitUnits n) = n := by
  have hdigits : ∀ digits : List ℕ, (∀ d ∈ digits, d < 10) →
      digitsValue (digits.reverse.map fun digit => Fin.ofNat 65536 (48 + digit)) =
        Nat.ofDigits 10 digits := by
    intro digits
    induction digits with
    | nil => intro; rfl
    | cons d digits ih =>
        intro hlt
        rw [List.reverse_cons, List.map_append, digitsValue_append,
          ih fun c hc => hlt c (List.mem_cons_of_mem d hc), Nat.ofDigits_cons]
        have hd := (isDigit_digit (hlt d List.mem_cons_self)).2
        simp only [List.map_cons, List.map_nil, List.length_singleton, pow_one, digitsValue,
          List.foldl_cons, List.foldl_nil, Nat.mul_zero, Nat.zero_add]
        rw [hd]
        ring
  rw [digitUnits, hdigits _ fun d hd => Nat.digits_lt_base (by norm_num) hd, Nat.ofDigits_digits]

theorem digitUnits_allDigits (n : ℕ) : AllDigits (digitUnits n) := by
  intro unit hunit
  obtain ⟨digit, hdigit, rfl⟩ := List.mem_map.1 hunit
  exact (isDigit_digit (Nat.digits_lt_base (by norm_num) (List.mem_reverse.1 hdigit))).1

theorem zeros_allDigits (count : ℕ) : AllDigits (List.replicate count 48) := by
  intro unit hunit
  rw [List.eq_of_mem_replicate hunit]
  rfl

theorem AllDigits.append {left right : JsString} (hl : AllDigits left) (hr : AllDigits right) :
    AllDigits (left ++ right) := by
  intro unit hunit
  rcases List.mem_append.1 hunit with h | h
  · exact hl unit h
  · exact hr unit h

/-- Digits are neither a point nor the letter of the exponent. -/
theorem AllDigits.ne {digits : JsString} (h : AllDigits digits) {unit : CodeUnit}
    (hunit : unit ∈ digits) : unit ≠ 101 ∧ unit ≠ 46 ∧ unit ≠ 45 := by
  have hdigit := h unit hunit
  refine ⟨?_, ?_, ?_⟩ <;>
    · rintro rfl
      exact absurd hdigit (by decide)

theorem takeWhile_digits {digits : JsString} (h : AllDigits digits) (rest : JsString)
    {stop : CodeUnit} (hstop : stop = 101 ∨ stop = 46) :
    (digits ++ rest).takeWhile (· ≠ stop) = digits ++ rest.takeWhile (· ≠ stop) ∧
      (digits ++ rest).dropWhile (· ≠ stop) = rest.dropWhile (· ≠ stop) := by
  have hne : ∀ unit ∈ digits, decide (unit ≠ stop) = true := by
    intro unit hunit
    rcases hstop with rfl | rfl
    · exact decide_eq_true (h.ne hunit).1
    · exact decide_eq_true (h.ne hunit).2.1
  exact ⟨List.takeWhile_append_of_pos hne, List.dropWhile_append_of_pos hne⟩

/-- The value of a decimal whose parts are given. `point` and `scale` are empty or start with their
marks. -/
theorem decimalValue_parts (integer fraction exponent point scale : JsString)
    (hi : AllDigits integer) (hf : AllDigits fraction)
    (hpoint : (point = [] ∧ fraction = []) ∨ point = 46 :: fraction)
    (hscale : (scale = [] ∧ exponent = []) ∨ scale = 101 :: exponent) :
    decimalValue (integer ++ (point ++ scale)) =
      digitsValue (integer ++ fraction) * 10 ^ (exponentValue exponent - fraction.length) := by
  have hpointE : (point ++ scale).takeWhile (· ≠ 101) = point ∧
      (point ++ scale).dropWhile (· ≠ 101) = scale := by
    have hscaleE : scale.takeWhile (· ≠ 101) = [] ∧ scale.dropWhile (· ≠ 101) = scale := by
      rcases hscale with ⟨rfl, -⟩ | rfl <;> simp
    rcases hpoint with ⟨rfl, -⟩ | rfl
    · exact hscaleE
    · obtain ⟨ht, hd⟩ := takeWhile_digits hf scale (Or.inl (Eq.refl (101 : CodeUnit)))
      rw [List.cons_append, List.takeWhile_cons_of_pos (by decide),
        List.dropWhile_cons_of_pos (by decide), ht, hd, hscaleE.1, hscaleE.2, List.append_nil]
      exact ⟨rfl, rfl⟩
  have hpointP : point.takeWhile (· ≠ 46) = [] ∧ (point.dropWhile (· ≠ 46)).tail = fraction := by
    rcases hpoint with ⟨rfl, rfl⟩ | rfl <;> simp
  have hexp : scale.tail = exponent := by
    rcases hscale with ⟨rfl, rfl⟩ | rfl <;> rfl
  obtain ⟨htE, hdE⟩ := takeWhile_digits hi (point ++ scale)
    (Or.inl (Eq.refl (101 : CodeUnit)))
  obtain ⟨htP, hdP⟩ := takeWhile_digits hi point (Or.inr (Eq.refl (46 : CodeUnit)))
  simp only [decimalValue]
  rw [htE, hdE, hpointE.1, hpointE.2, htP, hdP, hpointP.1, hpointP.2, hexp, List.append_nil]

theorem exponentValue_exponentUnits (exponent : ℤ) :
    exponentValue (exponentUnits exponent) = exponent := by
  simp only [exponentUnits, exponentValue, digitUnits_value]
  split_ifs with hneg hsign hsign
  · omega
  · exact absurd rfl hsign
  · exact absurd hsign (by decide)
  · omega

theorem decimalValue_positiveText {digits : JsString} (h : AllDigits digits)
    (hne : digits ≠ []) (exponent : ℤ) :
    decimalValue (positiveText digits (digits.length + exponent)) =
      digitsValue digits * 10 ^ exponent := by
  have hlen : 0 < digits.length := List.length_pos_of_ne_nil hne
  have hnil : AllDigits [] := fun unit hunit => absurd hunit List.not_mem_nil
  unfold positiveText
  split_ifs with hplain hpoint hsmall hone
  · -- all digits before the point, filled up with zeros
    obtain ⟨k, rfl⟩ := Int.eq_ofNat_of_zero_le (show 0 ≤ exponent by omega)
    have hcount : ((digits.length : ℤ) + k).toNat - digits.length = k := by omega
    have hparts := decimalValue_parts (digits ++ List.replicate k 48) [] [] [] []
      (h.append (zeros_allDigits k)) hnil (Or.inl ⟨rfl, rfl⟩) (Or.inl ⟨rfl, rfl⟩)
    rw [hcount]
    simpa [digitsValue_append, digitsValue_zeros, exponentValue] using hparts
  · have hparts := decimalValue_parts (digits.take (digits.length + exponent).toNat)
      (digits.drop (digits.length + exponent).toNat) [] _ []
      (fun unit hunit => h unit (List.mem_of_mem_take hunit))
      (fun unit hunit => h unit (List.mem_of_mem_drop hunit)) (Or.inr rfl) (Or.inl ⟨rfl, rfl⟩)
    have hscale : exponentValue [] -
        ((digits.drop (digits.length + exponent).toNat).length : ℤ) = exponent := by
      rw [List.length_drop, exponentValue]
      omega
    rw [List.append_nil, hscale, List.take_append_drop] at hparts
    exact hparts
  · have hparts := decimalValue_parts [48]
      (List.replicate (-(digits.length + exponent)).toNat 48 ++ digits) [] _ []
      (zeros_allDigits 1) ((zeros_allDigits _).append h) (Or.inr rfl) (Or.inl ⟨rfl, rfl⟩)
    have hscale : exponentValue [] -
        ((List.replicate (-(digits.length + exponent)).toNat (48 : CodeUnit) ++ digits).length : ℤ) =
          exponent := by
      rw [List.length_append, List.length_replicate, exponentValue]
      omega
    have hdigits : digitsValue ([48] ++
        (List.replicate (-(digits.length + exponent)).toNat 48 ++ digits)) = digitsValue digits := by
      have hzero : digitsValue [48] = 0 := rfl
      rw [digitsValue_append, digitsValue_append, digitsValue_zeros, hzero, Nat.zero_mul,
        Nat.zero_mul, Nat.zero_add, Nat.zero_add]
    rw [List.append_nil, hscale, hdigits] at hparts
    exact hparts
  · have hparts := decimalValue_parts digits [] (exponentUnits (digits.length + exponent - 1)) [] _
      h hnil (Or.inl ⟨rfl, rfl⟩) (Or.inr rfl)
    rw [exponentValue_exponentUnits, List.append_nil, hone] at hparts
    rw [hone]
    simpa using hparts
  · have hparts := decimalValue_parts (digits.take 1) (digits.drop 1)
      (exponentUnits (digits.length + exponent - 1)) _ _
      (fun unit hunit => h unit (List.mem_of_mem_take hunit))
      (fun unit hunit => h unit (List.mem_of_mem_drop hunit)) (Or.inr rfl) (Or.inr rfl)
    have hscale : (digits.length : ℤ) + exponent - 1 - ((digits.drop 1).length : ℤ) = exponent := by
      rw [List.length_drop]
      omega
    rw [exponentValue_exponentUnits, hscale, List.take_append_drop] at hparts
    exact hparts

/-- The text of a positive number starts with a digit. -/
theorem positiveText_head {digits : JsString} (h : AllDigits digits) (hne : digits ≠ [])
    (point : ℤ) : ∃ unit rest, positiveText digits point = unit :: rest ∧ isDigit unit = true := by
  obtain ⟨unit, digits, rfl⟩ := List.exists_cons_of_ne_nil hne
  have hunit := h unit List.mem_cons_self
  unfold positiveText
  split_ifs with hplain hpoint hsmall hone
  · exact ⟨unit, _, rfl, hunit⟩
  · obtain ⟨k, hk⟩ : ∃ k, point.toNat = k + 1 := ⟨point.toNat - 1, by omega⟩
    rw [hk]
    exact ⟨unit, _, rfl, hunit⟩
  · exact ⟨48, _, rfl, rfl⟩
  · exact ⟨unit, _, rfl, hunit⟩
  · exact ⟨unit, _, rfl, hunit⟩

theorem isNumberUnit_of_isDigit {unit : CodeUnit} (h : isDigit unit = true) :
    isNumberUnit unit = true := by
  simp [isNumberUnit, h]

theorem positiveText_isNumberUnit {digits : JsString} (h : AllDigits digits) (point : ℤ)
    {unit : CodeUnit} (hunit : unit ∈ positiveText digits point) : isNumberUnit unit = true := by
  have hdigit : ∀ u, isDigit u = true → isNumberUnit u = true := fun u => isNumberUnit_of_isDigit
  have hexponent : ∀ exponent : ℤ, ∀ u ∈ exponentUnits exponent, isNumberUnit u = true := by
    intro exponent u hu
    rcases List.mem_cons.1 hu with rfl | hu
    · split_ifs <;> rfl
    · exact hdigit u (digitUnits_allDigits _ u hu)
  have hzeros : ∀ count, ∀ u ∈ List.replicate count (48 : CodeUnit), isNumberUnit u = true :=
    fun count u hu => hdigit u (zeros_allDigits count u hu)
  unfold positiveText at hunit
  split_ifs at hunit
  · rcases List.mem_append.1 hunit with hu | hu
    · exact hdigit unit (h unit hu)
    · exact hzeros _ unit hu
  · rcases List.mem_append.1 hunit with hu | hu
    · exact hdigit unit (h unit (List.mem_of_mem_take hu))
    · rcases List.mem_cons.1 hu with rfl | hu
      · rfl
      · exact hdigit unit (h unit (List.mem_of_mem_drop hu))
  · rcases List.mem_cons.1 hunit with rfl | hu
    · rfl
    · rcases List.mem_cons.1 hu with rfl | hu
      · rfl
      · rcases List.mem_append.1 hu with hu | hu
        · exact hzeros _ unit hu
        · exact hdigit unit (h unit hu)
  · rcases List.mem_append.1 hunit with hu | hu
    · exact hdigit unit (h unit hu)
    · rcases List.mem_cons.1 hu with rfl | hu
      · rfl
      · exact hexponent _ unit hu
  · rcases List.mem_append.1 hunit with hu | hu
    · exact hdigit unit (h unit (List.mem_of_mem_take hu))
    · rcases List.mem_cons.1 hu with rfl | hu
      · rfl
      · rcases List.mem_append.1 hu with hu | hu
        · exact hdigit unit (h unit (List.mem_of_mem_drop hu))
        · rcases List.mem_cons.1 hu with rfl | hu
          · rfl
          · exact hexponent _ unit hu

theorem digitUnits_ne_nil {n : ℕ} (h : n ≠ 0) : digitUnits n ≠ [] := by
  simp [digitUnits, Nat.digits_eq_nil_iff_eq_zero, h]

theorem text_isNumberUnit (number : JsNumber) {unit : CodeUnit} (hunit : unit ∈ number.text) :
    isNumberUnit unit = true := by
  unfold text at hunit
  split_ifs at hunit
  · rw [List.mem_singleton.1 hunit]
    rfl
  · rcases List.mem_cons.1 hunit with rfl | hunit
    · rfl
    · exact positiveText_isNumberUnit (digitUnits_allDigits _) _ hunit
  · exact positiveText_isNumberUnit (digitUnits_allDigits _) _ hunit

/-- The text of a number has its value. -/
theorem value_text (number : JsNumber) :
    value number.text = number.mantissa * 10 ^ number.exponent := by
  by_cases hzero : number.mantissa = 0
  · have hvalue : value [48] = 0 := by
      simp [value, decimalValue, digitsValue]
    rw [text, if_pos hzero, hvalue, hzero, Int.cast_zero, zero_mul]
  · have hne := digitUnits_ne_nil (Int.natAbs_ne_zero.2 hzero)
    have hvalue := decimalValue_positiveText (digitUnits_allDigits number.mantissa.natAbs) hne
      number.exponent
    rw [digitUnits_value] at hvalue
    rw [text, if_neg hzero]
    dsimp only
    split_ifs with hneg
    · have hmantissa : (number.mantissa : ℚ) = -(number.mantissa.natAbs : ℚ) := by
        have habs : number.mantissa = -(number.mantissa.natAbs : ℤ) := by omega
        rw [habs, Int.cast_neg, Int.cast_natCast, Int.natAbs_neg, Int.natAbs_natCast]
      rw [value, List.head?_cons, if_pos rfl, List.tail_cons, hvalue, hmantissa, neg_mul]
    · obtain ⟨unit, rest, htext, hunit⟩ := positiveText_head
        (digitUnits_allDigits number.mantissa.natAbs) hne
        ((digitUnits number.mantissa.natAbs).length + number.exponent)
      have hhead : (positiveText (digitUnits number.mantissa.natAbs)
          ((digitUnits number.mantissa.natAbs).length + number.exponent)).head? ≠ some 45 := by
        rw [htext]
        intro h
        rw [List.head?_cons, Option.some.injEq] at h
        rw [h] at hunit
        exact absurd hunit (by decide)
      have hmantissa : (number.mantissa : ℚ) = (number.mantissa.natAbs : ℚ) := by
        have habs : number.mantissa = (number.mantissa.natAbs : ℤ) := by omega
        rw [habs, Int.cast_natCast, Int.natAbs_natCast]
      rw [value, if_neg hhead, hvalue, hmantissa]

/-- A value has one shortest decimal. -/
theorem eq_of_value_eq {left right : JsNumber}
    (h : (left.mantissa * 10 ^ left.exponent : ℚ) = right.mantissa * 10 ^ right.exponent) :
    left = right := by
  have hle : ∀ a b : JsNumber, a.exponent ≤ b.exponent →
      (a.mantissa * 10 ^ a.exponent : ℚ) = b.mantissa * 10 ^ b.exponent → a = b := by
    intro a b hab hvalue
    obtain ⟨k, hk⟩ := Int.eq_ofNat_of_zero_le (show 0 ≤ b.exponent - a.exponent by omega)
    have hb : b.exponent = a.exponent + k := by omega
    have hmantissa : a.mantissa = b.mantissa * 10 ^ k := by
      have hpos : (10 : ℚ) ^ a.exponent ≠ 0 := zpow_ne_zero _ (by norm_num)
      rw [hb, zpow_add₀ (by norm_num), zpow_natCast, ← mul_assoc, mul_right_comm] at hvalue
      exact_mod_cast mul_right_cancel₀ hpos hvalue
    obtain ⟨ma, ea, ha⟩ := a
    obtain ⟨mb, eb, hb'⟩ := b
    dsimp only at hmantissa hb hab hk
    cases k with
    | zero =>
        rw [pow_zero, mul_one] at hmantissa
        subst hmantissa
        simp only [Nat.cast_zero, add_zero] at hb
        subst hb
        rfl
    | succ k =>
        -- the mantissa on the left is a multiple of ten, so both are zero
        have hten : ma % 10 = 0 := by
          rw [hmantissa, pow_succ, ← mul_assoc]
          exact Int.mul_emod_left _ _
        obtain ⟨rfl, rfl⟩ := ha.resolve_left (fun hne => hne hten)
        have hmb : mb = 0 := by
          rcases mul_eq_zero.1 hmantissa.symm with h0 | h0
          · exact h0
          · exact absurd h0 (pow_ne_zero _ (by norm_num))
        subst hmb
        obtain ⟨-, rfl⟩ := hb'.resolve_left (fun hne => hne rfl)
        omega
  rcases le_total left.exponent right.exponent with hexp | hexp
  · exact hle left right hexp h
  · exact (hle right left hexp h.symm).symm

theorem text_injective {left right : JsNumber} (h : left.text = right.text) : left = right := by
  apply eq_of_value_eq
  rw [← value_text, ← value_text, h]

/-- A number ends where a code unit follows that no number has. -/
theorem text_append_inj {left right : JsNumber} {rest rest' : JsString}
    (hrest : ∀ unit, rest.head? = some unit → isNumberUnit unit = false)
    (hrest' : ∀ unit, rest'.head? = some unit → isNumberUnit unit = false)
    (h : left.text ++ rest = right.text ++ rest') : left = right ∧ rest = rest' := by
  have hspan : ∀ (number : JsNumber) (tail : JsString),
      (∀ unit, tail.head? = some unit → isNumberUnit unit = false) →
        (number.text ++ tail).takeWhile isNumberUnit = number.text := by
    intro number tail htail
    rw [List.takeWhile_append_of_pos fun unit => number.text_isNumberUnit]
    cases tail with
    | nil => simp
    | cons unit tail =>
        rw [List.takeWhile_cons_of_neg (by simp [htail unit rfl]), List.append_nil]
  have htext : left.text = right.text := by
    rw [← hspan left rest hrest, h, hspan right rest' hrest']
  rw [htext] at h
  exact ⟨text_injective htext, List.append_cancel_left h⟩

end JsNumber
