import VoiceLife.Lib.JsonTexts

/-! # `%g`

`printfG` writes a finite number as `printf` does for `%g`: six significant digits without the zeros at
the end, in scientific notation where the exponent is below -4 or above 5. What is written for a large
number is a JSON number, and its value is the number rounded to the six digits (`denotes_printfG`).
-/

namespace DecimalText

/-- Rounding to an integer, ties to even. -/
def roundHalfEven (value : ℚ) : ℤ :=
  if value - ⌊value⌋ < 1 / 2 then ⌊value⌋
  else if 1 / 2 < value - ⌊value⌋ then ⌊value⌋ + 1
  else if ⌊value⌋ % 2 = 0 then ⌊value⌋
  else ⌊value⌋ + 1

/-- The six significant digits of a positive number, and the decimal exponent of the first one. -/
def sixDigits (value : ℚ) : ℕ × ℤ :=
  let exponent := Int.log 10 value
  let mantissa := (roundHalfEven (value / 10 ^ (exponent - 5))).toNat
  if mantissa = 1000000 then (100000, exponent + 1) else (mantissa, exponent)

/-- The digits without the zeros at the end. -/
def stripZeros (digits : Text) : Text :=
  digits.rdropWhile (· = 48)

/-- The fraction, with its point if there is one. -/
def fractionPart (digits : Text) : Text :=
  if digits = [] then [] else 46 :: digits

/-- The scientific notation of six digits. -/
def scientificText (digits : Text) (exponent : ℤ) : Text :=
  digits.take 1 ++ fractionPart (stripZeros (digits.drop 1)) ++
    101 :: (if exponent < 0 then 45 else 43) :: printInt 2 |exponent|

/-- The decimal notation of six digits. -/
def fixedText (digits : Text) (exponent : ℤ) : Text :=
  if exponent < 0 then 48 :: 46 :: (List.replicate (-exponent - 1).toNat 48 ++ stripZeros digits)
  else digits.take (exponent.toNat + 1) ++ fractionPart (stripZeros (digits.drop (exponent.toNat + 1)))

/-- `%g` of a finite number. -/
def printfG (value : ℚ) : Text :=
  if value = 0 then [48]
  else
    let (mantissa, exponent) := sixDigits |value|
    (if value < 0 then [45] else []) ++
      if exponent < -4 ∨ 6 ≤ exponent then scientificText (fixedDigits 6 mantissa) exponent
      else fixedText (fixedDigits 6 mantissa) exponent

/-- The significant digits of a positive number, and the decimal exponent of the first one. -/
def significantDigits (precision : ℕ) (value : ℚ) : ℕ × ℤ :=
  let exponent := Int.log 10 value
  let mantissa := (roundHalfEven (value / 10 ^ (exponent - (precision - 1)))).toNat
  if mantissa = 10 ^ precision then (10 ^ (precision - 1), exponent + 1) else (mantissa, exponent)

/-- `%g` of a finite number with a positive precision. -/
def printfPrecise (precision : ℕ) (value : ℚ) : Text :=
  if value = 0 then [48]
  else
    let (mantissa, exponent) := significantDigits precision |value|
    (if value < 0 then [45] else []) ++
      if exponent < -4 ∨ precision ≤ exponent then scientificText (fixedDigits precision mantissa) exponent
      else fixedText (fixedDigits precision mantissa) exponent

/-! ## Rounding -/

theorem roundHalfEven_intCast (value : ℤ) : roundHalfEven value = value := by
  rw [roundHalfEven, Int.floor_intCast, sub_self, if_pos (by norm_num)]

theorem roundHalfEven_bounds {value : ℚ} {low high : ℤ} (hlow : (low : ℚ) ≤ value) (hhigh : value < high) :
    low ≤ roundHalfEven value ∧ roundHalfEven value ≤ high := by
  have hfloor : low ≤ ⌊value⌋ := Int.le_floor.2 hlow
  have hceil : ⌊value⌋ < high := Int.floor_lt.2 hhigh
  unfold roundHalfEven
  split_ifs <;> omega

/-! ## Digits -/

theorem decimal_cons_append_zeros (digits : Text) (count : ℕ) :
    decimal (digits ++ List.replicate count 48) = decimal digits * 10 ^ count := by
  have hzeros : decimal (List.replicate count 48) = 0 := by
    rw [← fixedDigits_zero, decimal_fixedDigits, Nat.zero_mod]
  rw [decimal_append, hzeros, List.length_replicate, Nat.add_zero]

/-- The zeros that are stripped. -/
theorem exists_stripZeros (digits : Text) :
    ∃ count, digits = stripZeros digits ++ List.replicate count 48 := by
  refine ⟨(digits.rtakeWhile (· = 48)).length, ?_⟩
  have hzeros : digits.rtakeWhile (· = 48) =
      List.replicate (digits.rtakeWhile (· = 48)).length (48 : UInt8) :=
    List.eq_replicate_of_mem fun byte hbyte => by simpa using List.mem_rtakeWhile_imp hbyte
  rw [← hzeros, stripZeros]
  exact List.rdropWhile_append_rtakeWhile.symm

end DecimalText

namespace Rfc8259

open DecimalText

/-! ## Reading the scientific notation -/

theorem takeWhile_cons_of_not {byte : UInt8} (h : isDigit byte = false) (rest : Text) :
    (byte :: rest).takeWhile isDigit = [] ∧ (byte :: rest).dropWhile isDigit = byte :: rest := by
  rw [List.takeWhile_cons_of_neg (by rw [h]; exact Bool.false_ne_true),
    List.dropWhile_cons_of_neg (by rw [h]; exact Bool.false_ne_true)]
  exact ⟨rfl, rfl⟩

theorem readFraction_fractionText {fraction : Text} (h : ∀ byte ∈ fraction, isDigit byte = true)
    (rest : Text) : readFraction (fractionPart fraction ++ 101 :: rest) = some (fraction, 101 :: rest) := by
  unfold fractionPart
  by_cases hempty : fraction = []
  · rw [if_pos hempty, hempty]
    rfl
  · rw [if_neg hempty]
    show readDigits (fraction ++ 101 :: rest) = _
    exact readDigits_append hempty h (takeWhile_cons_of_not rfl rest)

theorem fractionText_head (fraction rest : Text) :
    (fractionPart fraction ++ 101 :: rest).takeWhile isDigit = [] ∧
      (fractionPart fraction ++ 101 :: rest).dropWhile isDigit = fractionPart fraction ++ 101 :: rest := by
  unfold fractionPart
  by_cases hempty : fraction = []
  · rw [if_pos hempty]
    exact takeWhile_cons_of_not rfl rest
  · rw [if_neg hempty]
    exact takeWhile_cons_of_not rfl _

/-- One digit, a fraction and an exponent. -/
theorem readNumber_scientific {first : UInt8} {fraction exponent : Text} (hfirst : isDigit first = true)
    (hfraction : ∀ byte ∈ fraction, isDigit byte = true)
    (hexponent : ∀ byte ∈ exponent, isDigit byte = true) (hne : exponent ≠ []) {rest : Text}
    (hrest : Ends rest) :
    readNumber (first :: (fractionPart fraction ++ 101 :: 43 :: (exponent ++ rest))) =
        some ((decimal (first :: fraction) : ℚ) * 10 ^ ((decimal exponent : ℤ) - (fraction.length : ℤ)),
          rest) ∧
      readNumber (45 :: first :: (fractionPart fraction ++ 101 :: 43 :: (exponent ++ rest))) =
        some (-((decimal (first :: fraction) : ℚ) *
          10 ^ ((decimal exponent : ℤ) - (fraction.length : ℤ))), rest) := by
  obtain ⟨htake, hdrop, -, -⟩ := hrest.after_number
  have hdigits : readDigits (first :: (fractionPart fraction ++ 101 :: 43 :: (exponent ++ rest))) =
      some ([first], fractionPart fraction ++ 101 :: 43 :: (exponent ++ rest)) :=
    @readDigits_append [first] (List.cons_ne_nil _ _)
      (fun byte hmem => List.mem_singleton.1 hmem ▸ hfirst) _
      (fractionText_head fraction (43 :: (exponent ++ rest)))
  have hint : isInt [first] = true := by
    simp [isInt]
  have hfractions := readFraction_fractionText hfraction (43 :: (exponent ++ rest))
  have hexponents : readExponent (101 :: 43 :: (exponent ++ rest)) =
      some ((decimal exponent : ℤ), rest) := by
    show (readDigits (exponent ++ rest)).map _ = _
    rw [readDigits_append hne hexponent ⟨htake, hdrop⟩]
    rfl
  have hminus : readMinus (first :: (fractionPart fraction ++ 101 :: 43 :: (exponent ++ rest))) =
      (false, first :: (fractionPart fraction ++ 101 :: 43 :: (exponent ++ rest))) := by
    have hne45 : first ≠ 45 := by
      rintro rfl
      exact absurd hfirst (by decide)
    rw [readMinus, if_neg hne45]
  have hnegative : readMinus (45 :: first :: (fractionPart fraction ++ 101 :: 43 :: (exponent ++ rest))) =
      (true, first :: (fractionPart fraction ++ 101 :: 43 :: (exponent ++ rest))) := rfl
  constructor
  · simp only [readNumber, hminus, hdigits, hint, hfractions, hexponents, Option.bind_eq_bind,
      Option.bind_some, Bool.not_true, Bool.false_eq_true, if_false, Option.pure_def,
      List.singleton_append]
  · simp only [readNumber, hnegative, hdigits, hint, hfractions, hexponents, Option.bind_eq_bind,
      Option.bind_some, Bool.not_true, Bool.false_eq_true, if_false, if_true, Option.pure_def,
      List.singleton_append]

/-- The scientific notation of six digits denotes them. -/
theorem denotes_scientificText {mantissa exponent : ℕ} (hmantissa : mantissa < 10 ^ 6)
    (hexponent : exponent < 100) :
    Denotes (scientificText (fixedDigits 6 mantissa) exponent)
        (.number (mantissa * 10 ^ ((exponent : ℤ) - 5))) ∧
      Denotes (45 :: scientificText (fixedDigits 6 mantissa) exponent)
        (.number (-(mantissa * 10 ^ ((exponent : ℤ) - 5)))) := by
  obtain ⟨first, tail, hcons⟩ : ∃ first tail, fixedDigits 6 mantissa = first :: tail :=
    List.exists_cons_of_length_pos (by rw [length_fixedDigits]; decide)
  have hall : ∀ byte ∈ first :: tail, isDigit byte = true :=
    hcons ▸ fun byte hbyte => isDigit_of_mem_fixedDigits hbyte
  have hlength : tail.length = 5 := by
    have hsix := length_fixedDigits 6 mantissa
    rw [hcons, List.length_cons] at hsix
    omega
  obtain ⟨count, hstrip⟩ := exists_stripZeros tail
  have hfraction : ∀ byte ∈ stripZeros tail, isDigit byte = true := fun byte hmem =>
    hall byte (List.mem_cons_of_mem _ (hstrip ▸ List.mem_append_left _ hmem))
  have hcount : (stripZeros tail).length + count = 5 := by
    have hsum := congrArg List.length hstrip
    rw [List.length_append, List.length_replicate, hlength] at hsum
    exact hsum.symm
  have hexp : printInt 2 |(exponent : ℤ)| = fixedDigits 2 exponent := by
    rw [Nat.abs_cast]
    exact printInt_eq_fixedDigits (by decide) (by omega)
  have htext : scientificText (fixedDigits 6 mantissa) exponent =
      first :: (fractionPart (stripZeros tail) ++ 101 :: 43 :: fixedDigits 2 exponent) := by
    rw [scientificText, hcons, hexp, if_neg (by omega)]
    rfl
  have hvalue : (decimal (first :: stripZeros tail) *
      10 ^ ((decimal (fixedDigits 2 exponent) : ℤ) - ((stripZeros tail).length : ℤ)) : ℚ) =
        mantissa * 10 ^ ((exponent : ℤ) - 5) := by
    have hmantissa' : decimal (first :: stripZeros tail) * 10 ^ count = mantissa := by
      rw [← decimal_cons_append_zeros, List.cons_append, ← hstrip, ← hcons, decimal_fixedDigits,
        Nat.mod_eq_of_lt hmantissa]
    rw [decimal_fixedDigits, Nat.mod_eq_of_lt (by omega), ← hmantissa', Nat.cast_mul, Nat.cast_pow,
      mul_assoc, Nat.cast_ofNat, ← zpow_natCast, ← zpow_add₀ (by norm_num)]
    congr 2
    omega
  have hread := fun rest (hrest : Ends rest) =>
    readNumber_scientific (hall first List.mem_cons_self) hfraction
      (fun byte hmem => isDigit_of_mem_fixedDigits hmem)
      (List.ne_nil_of_length_pos (by rw [length_fixedDigits]; decide) : fixedDigits 2 exponent ≠ [])
      hrest
  rw [hvalue] at hread
  rw [htext]
  constructor
  · refine denotes_number ⟨first, rfl, ?_⟩ fun rest hrest => ?_
    · rw [startsNumber, hall first List.mem_cons_self, Bool.or_true]
    · simpa using (hread rest hrest).1
  · refine denotes_number ⟨45, rfl, rfl⟩ fun rest hrest => ?_
    simpa using (hread rest hrest).2

theorem printfG_of_large {value : ℚ} (hvalue : value ≠ 0) {exponent : ℕ}
    (hexponent : (sixDigits |value|).2 = exponent) (hlarge : 6 ≤ exponent) :
    printfG value = (if value < 0 then [45] else []) ++
      scientificText (fixedDigits 6 (sixDigits |value|).1) exponent := by
  have hscientific : (exponent : ℤ) < -4 ∨ 6 ≤ (exponent : ℤ) := Or.inr (by exact_mod_cast hlarge)
  rw [printfG, if_neg hvalue]
  dsimp only
  rw [hexponent, if_pos hscientific]

/-- What is written for a large number is the number rounded to six digits. -/
theorem denotes_printfG {value : ℚ} (hvalue : value ≠ 0) {exponent : ℕ}
    (hexponent : (sixDigits |value|).2 = exponent) (hlarge : 6 ≤ exponent) (hsmall : exponent < 100)
    (hmantissa : (sixDigits |value|).1 < 10 ^ 6) :
    Denotes (printfG value)
      (.number (SignType.sign value * ((sixDigits |value|).1 * 10 ^ ((exponent : ℤ) - 5)))) := by
  obtain ⟨hpositive, hnegative⟩ := denotes_scientificText hmantissa hsmall
  rw [printfG_of_large hvalue hexponent hlarge]
  rcases lt_or_gt_of_ne hvalue with hneg | hpos
  · rw [if_pos hneg, sign_neg hneg]
    simpa using hnegative
  · rw [if_neg (not_lt.2 hpos.le), sign_pos hpos]
    simpa using hpositive

theorem isUtf8_scientificText {digits : Text} (h : ∀ byte ∈ digits, isDigit byte = true) {exponent : ℕ}
    (hexponent : exponent < 100) : IsUtf8 (scientificText digits exponent) := by
  have hfirst : IsUtf8 (digits.take 1) :=
    isUtf8_digits fun byte hmem => h byte (List.mem_of_mem_take hmem)
  have hfraction : IsUtf8 (fractionPart (stripZeros (digits.drop 1))) := by
    have hdigits : IsUtf8 (stripZeros (digits.drop 1)) := isUtf8_digits fun byte hmem =>
      h byte (List.mem_of_mem_drop ((List.rdropWhile_prefix _ _).subset hmem))
    unfold fractionPart
    split_ifs
    · exact isUtf8_nil
    · exact (@isUtf8_byte 46 (by decide)).append hdigits
  have hexp : IsUtf8 (printInt 2 |(exponent : ℤ)|) := by
    rw [Nat.abs_cast, printInt_eq_fixedDigits (by decide) (by omega)]
    exact isUtf8_digits fun byte hmem => isDigit_of_mem_fixedDigits hmem
  rw [scientificText, if_neg (by omega)]
  exact (hfirst.append hfraction).append
    ((@isUtf8_byte 101 (by decide)).append ((@isUtf8_byte 43 (by decide)).append hexp))

end Rfc8259
