import Mathlib

/-! # Decimal numbers in byte strings

The number formats of C's `printf` and `scanf` over strings of bytes: `%0wd` writes a number padded
with zeros to a width, `%d` reads one. `fixedDigits` is the text of exactly `w` digits in between;
the two directions meet in it: `printInt_eq_fixedDigits` and `scanInt_fixedDigits`.
-/

namespace DecimalText

/-- A C string, without its terminating byte. -/
abbrev Text := List UInt8

/-- The bytes of an ASCII literal. -/
def ascii (s : String) : Text :=
  s.toList.map fun c => UInt8.ofNat c.toNat

/-- `isdigit` in the C locale. -/
def isDigit (b : UInt8) : Bool :=
  48 ≤ b && b ≤ 57

/-- The digit of `n % 10`. -/
def digitByte (n : ℕ) : UInt8 :=
  UInt8.ofNat (48 + n % 10)

/-- The number a digit stands for. -/
def digitValue (b : UInt8) : ℕ :=
  b.toNat - 48

/-- The last `w` decimal digits of `n`, with leading zeros. -/
def fixedDigits : ℕ → ℕ → Text
  | 0, _ => []
  | w + 1, n => fixedDigits w (n / 10) ++ [digitByte n]

/-- The number a row of digits stands for. -/
def decimal (ds : Text) : ℕ :=
  ds.foldl (fun acc b => acc * 10 + digitValue b) 0

/-! ## Digits -/

theorem isDigit_iff (b : UInt8) : isDigit b = true ↔ 48 ≤ b.toNat ∧ b.toNat ≤ 57 := by
  simp [isDigit, UInt8.le_iff_toNat_le]

@[simp] theorem toNat_digitByte (n : ℕ) : (digitByte n).toNat = 48 + n % 10 := by
  rw [digitByte, UInt8.toNat_ofNat']
  omega

@[simp] theorem isDigit_digitByte (n : ℕ) : isDigit (digitByte n) = true := by
  rw [isDigit_iff, toNat_digitByte]
  omega

@[simp] theorem digitValue_digitByte (n : ℕ) : digitValue (digitByte n) = n % 10 := by
  rw [digitValue, toNat_digitByte]
  omega

theorem digitByte_digitValue {b : UInt8} (h : isDigit b = true) : digitByte (digitValue b) = b := by
  have hb := (isDigit_iff b).1 h
  apply UInt8.toNat_inj.1
  rw [toNat_digitByte, digitValue]
  omega

theorem digitValue_lt {b : UInt8} (h : isDigit b = true) : digitValue b < 10 := by
  have hb := (isDigit_iff b).1 h
  unfold digitValue
  omega

theorem ne_of_isDigit {b c : UInt8} (h : isDigit b = true) (hc : isDigit c = false) : b ≠ c := by
  rintro rfl
  rw [h] at hc
  cases hc

/-! ## Rows of digits -/

@[simp] theorem length_fixedDigits (w n : ℕ) : (fixedDigits w n).length = w := by
  induction w generalizing n with
  | zero => rfl
  | succ w ih => simp [fixedDigits, ih]

theorem isDigit_of_mem_fixedDigits {w n : ℕ} {b : UInt8} (h : b ∈ fixedDigits w n) :
    isDigit b = true := by
  induction w generalizing n with
  | zero => cases h
  | succ w ih =>
      rcases List.mem_append.1 h with h | h
      · exact ih h
      · rw [List.mem_singleton.1 h]
        exact isDigit_digitByte n

theorem fixedDigits_zero (w : ℕ) : fixedDigits w 0 = List.replicate w 48 := by
  induction w with
  | zero => rfl
  | succ w ih =>
      rw [fixedDigits, Nat.zero_div, ih, List.replicate_succ']
      rfl

@[simp] theorem decimal_nil : decimal [] = 0 := rfl

theorem decimal_concat (ds : Text) (b : UInt8) :
    decimal (ds ++ [b]) = decimal ds * 10 + digitValue b := by
  rw [decimal, List.foldl_append]
  rfl

theorem decimal_append (ds es : Text) :
    decimal (ds ++ es) = decimal ds * 10 ^ es.length + decimal es := by
  induction es using List.reverseRecOn with
  | nil => simp
  | append_singleton es b ih =>
      rw [← List.append_assoc, decimal_concat, ih, decimal_concat, List.length_append,
        List.length_singleton, pow_succ]
      ring

/-- Reading back the last `w` digits gives the number below `10 ^ w`. -/
theorem decimal_fixedDigits (w n : ℕ) : decimal (fixedDigits w n) = n % 10 ^ w := by
  induction w generalizing n with
  | zero => rw [pow_zero, Nat.mod_one]; rfl
  | succ w ih =>
      rw [fixedDigits, decimal_concat, ih, digitValue_digitByte, pow_succ', Nat.mod_mul]
      omega

theorem decimal_lt {ds : Text} (h : ∀ b ∈ ds, isDigit b = true) : decimal ds < 10 ^ ds.length := by
  induction ds using List.reverseRecOn with
  | nil => rw [decimal_nil]; exact Nat.one_pos
  | append_singleton ds b ih =>
      have hds := ih fun c hc => h c (List.mem_append_left _ hc)
      have hb := digitValue_lt (h b (by simp))
      rw [decimal_concat, List.length_append, List.length_singleton, pow_succ]
      omega

/-- A row of digits is the text of its own number. -/
theorem fixedDigits_decimal {ds : Text} (h : ∀ b ∈ ds, isDigit b = true) :
    fixedDigits ds.length (decimal ds) = ds := by
  induction ds using List.reverseRecOn with
  | nil => rfl
  | append_singleton ds b ih =>
      have hds := ih fun c hc => h c (List.mem_append_left _ hc)
      have hb := h b (by simp)
      have hlt := digitValue_lt hb
      have hdiv : (decimal ds * 10 + digitValue b) / 10 = decimal ds := by omega
      have hmod : digitByte (decimal ds * 10 + digitValue b) = b := by
        rw [← digitByte_digitValue hb]
        apply UInt8.toNat_inj.1
        simp only [toNat_digitByte, digitValue_digitByte]
        omega
      rw [decimal_concat, List.length_append, List.length_singleton, fixedDigits, hdiv, hds, hmod]

/-! ## `%0wd` -/

/-- The decimal digits of a number, at least one. -/
def natDigits (n : ℕ) : Text :=
  if n = 0 then [48] else (Nat.digits 10 n).reverse.map digitByte

/-- `%0wd`: the sign counts towards the width. -/
def printInt (w : ℕ) (v : ℤ) : Text :=
  let sign : Text := if v < 0 then [45] else []
  let digits := natDigits v.natAbs
  sign ++ List.replicate (w - sign.length - digits.length) 48 ++ digits

theorem natDigits_padded {w n : ℕ} (hw : 0 < w) (h : n < 10 ^ w) :
    List.replicate (w - (natDigits n).length) 48 ++ natDigits n = fixedDigits w n := by
  have hpad : ∀ w n : ℕ, n < 10 ^ w →
      List.replicate (w - (Nat.digits 10 n).length) 48 ++ (Nat.digits 10 n).reverse.map digitByte =
        fixedDigits w n := by
    intro w
    induction w with
    | zero =>
        intro n hn
        have h0 : n = 0 := by rw [pow_zero] at hn; omega
        subst h0
        rfl
    | succ w ih =>
        intro n hn
        by_cases h0 : n = 0
        · subst h0
          rw [fixedDigits_zero, Nat.digits_zero]
          simp
        · have hdiv := ih (n / 10) (by rw [pow_succ] at hn; omega)
          rw [Nat.digits_def' (by omega) (by omega), fixedDigits, ← hdiv]
          have hbyte : digitByte (n % 10) = digitByte n := by
            apply UInt8.toNat_inj.1
            simp
          simp [hbyte]
  by_cases h0 : n = 0
  · subst h0
    rw [fixedDigits_zero]
    show List.replicate (w - 1) 48 ++ List.replicate 1 48 = List.replicate w 48
    rw [← List.replicate_add, Nat.sub_add_cancel hw]
  · have := hpad w n h
    rwa [natDigits, if_neg h0, List.length_map, List.length_reverse]

theorem decimal_natDigits (n : ℕ) : decimal (natDigits n) = n := by
  have hlt : n < 10 ^ (n + 1) := (Nat.lt_pow_self (by decide)).trans (Nat.pow_lt_pow_succ (by decide))
  have hzeros : ∀ count : ℕ, decimal (List.replicate count 48) = 0 := by
    intro count
    induction count with
    | zero => rfl
    | succ count ih =>
        rw [List.replicate_succ', decimal_concat, ih]
        rfl
  have hpadded := congrArg decimal (natDigits_padded (Nat.succ_pos n) hlt)
  rw [decimal_append, hzeros, decimal_fixedDigits, Nat.mod_eq_of_lt hlt] at hpadded
  omega

theorem length_natDigits_le {w n : ℕ} (hw : 0 < w) (h : n < 10 ^ w) : (natDigits n).length ≤ w := by
  have hlength := congrArg List.length (natDigits_padded hw h)
  rw [List.length_append, List.length_replicate, length_fixedDigits] at hlength
  omega

/-- A number that fits the width is written in exactly that many digits. -/
theorem printInt_eq_fixedDigits {w n : ℕ} (hw : 0 < w) (h : n < 10 ^ w) :
    printInt w n = fixedDigits w n := by
  have hsign : ¬ (n : ℤ) < 0 := by omega
  rw [← natDigits_padded hw h]
  simp [printInt, hsign]

/-! ## `%d` -/

/-- One conversion or literal byte of a `scanf` format. -/
inductive Directive where
  | int
  | space
  | literal (b : UInt8)
deriving DecidableEq, Repr

/-- `isspace` in the C locale. -/
def isSpace (b : UInt8) : Bool :=
  b == 32 || (9 ≤ b && b ≤ 13)

/-- The digits at the front and what follows them. -/
def scanDigits (s : Text) : Option (ℕ × Text) :=
  match s.takeWhile isDigit with
  | [] => none
  | ds => some (decimal ds, s.dropWhile isDigit)

/-- `%d`: white space, an optional sign and at least one digit. -/
def scanInt (s : Text) : Option (ℤ × Text) :=
  match s.dropWhile isSpace with
  | 45 :: rest => (scanDigits rest).map fun (n, rest) => (-(n : ℤ), rest)
  | 43 :: rest => (scanDigits rest).map fun (n, rest) => ((n : ℤ), rest)
  | rest => (scanDigits rest).map fun (n, rest) => ((n : ℤ), rest)

/-- `sscanf`: the numbers assigned before the first directive that does not match. -/
def sscanf : List Directive → Text → List ℤ
  | [], _ => []
  | .int :: format, s =>
    match scanInt s with
    | none => []
    | some (v, rest) => v :: sscanf format rest
  | .space :: format, s => sscanf format (s.dropWhile isSpace)
  | .literal b :: format, s =>
    match s with
    | [] => []
    | c :: rest => if c = b then sscanf format rest else []

theorem isSpace_of_isDigit {b : UInt8} (h : isDigit b = true) : isSpace b = false := by
  have hb := (isDigit_iff b).1 h
  simp only [isSpace, Bool.or_eq_false_iff, beq_eq_false_iff_ne, Bool.and_eq_false_iff,
    decide_eq_false_iff_not, UInt8.le_iff_toNat_le]
  refine ⟨?_, Or.inr ?_⟩
  · rintro rfl
    exact absurd hb.1 (by decide)
  · show ¬ b.toNat ≤ 13
    omega

/-- The rest of a string after a number: nothing, or something other than a digit. -/
def EndsNumber (s : Text) : Prop :=
  ∀ b ∈ s.head?, isDigit b = false

theorem scanDigits_append {ds rest : Text} (hds : ∀ b ∈ ds, isDigit b = true) (hne : ds ≠ [])
    (hrest : EndsNumber rest) : scanDigits (ds ++ rest) = some (decimal ds, rest) := by
  have htake : rest.takeWhile isDigit = [] := by
    cases rest with
    | nil => rfl
    | cons b rest => rw [List.takeWhile_cons, hrest b rfl]; rfl
  have hdrop : rest.dropWhile isDigit = rest := by
    cases rest with
    | nil => rfl
    | cons b rest => rw [List.dropWhile_cons, hrest b rfl]; rfl
  rw [scanDigits, List.takeWhile_append_of_pos hds, List.dropWhile_append_of_pos hds, htake, hdrop,
    List.append_nil]
  cases ds with
  | nil => exact absurd rfl hne
  | cons b ds => rfl

/-- `%d` reads a row of digits up to the first byte that is none. -/
theorem scanInt_digits {ds rest : Text} (hds : ∀ b ∈ ds, isDigit b = true) (hne : ds ≠ [])
    (hrest : EndsNumber rest) : scanInt (ds ++ rest) = some ((decimal ds : ℤ), rest) := by
  obtain ⟨b, ds', rfl⟩ := List.exists_cons_of_ne_nil hne
  have hb := hds b List.mem_cons_self
  have hscan := scanDigits_append hds hne hrest
  rw [List.cons_append] at hscan ⊢
  have hspace : (b :: (ds' ++ rest)).dropWhile isSpace = b :: (ds' ++ rest) := by
    rw [List.dropWhile_cons, isSpace_of_isDigit hb]
    rfl
  rw [scanInt, hspace]
  split
  · rename_i heq
    exact absurd (List.cons.inj heq).1 (ne_of_isDigit hb (by decide))
  · rename_i heq
    exact absurd (List.cons.inj heq).1 (ne_of_isDigit hb (by decide))
  · rw [hscan]
    rfl

/-! ## Fields at fixed positions -/

/-- The `count` bytes from position `start`. -/
def field (s : Text) (start count : ℕ) : Text :=
  (s.drop start).take count

theorem drop_eq_field_append {s : Text} {i w : ℕ} {b : UInt8} (h : s[i + w]? = some b) :
    s.drop i = field s i w ++ b :: s.drop (i + w + 1) := by
  obtain ⟨hlt, hb⟩ := List.getElem?_eq_some_iff.1 h
  have hdrop : (s.drop i).drop w = b :: s.drop (i + w + 1) := by
    rw [List.drop_drop, List.drop_eq_getElem_cons hlt, hb]
  rw [field, ← hdrop, List.take_append_drop]

theorem drop_eq_field {s : Text} {i w : ℕ} (h : s.length = i + w) : s.drop i = field s i w := by
  rw [field, List.take_of_length_le]
  rw [List.length_drop]
  omega

/-- A string put together from parts has the middle one at its place. -/
theorem field_append (before ds after : Text) :
    field (before ++ (ds ++ after)) before.length ds.length = ds := by
  rw [field, List.drop_left, List.take_left]

/-- The bytes of a field are all digits, and there are as many as asked for. -/
def IsNumberAt (s : Text) (start count : ℕ) : Prop :=
  start + count ≤ s.length ∧ ∀ b ∈ field s start count, isDigit b = true

theorem isNumberAt_append (before after : Text) (w n : ℕ) :
    IsNumberAt (before ++ (fixedDigits w n ++ after)) before.length w := by
  have hfield := field_append before (fixedDigits w n) after
  rw [length_fixedDigits] at hfield
  refine ⟨by simp, ?_⟩
  intro b hb
  rw [hfield] at hb
  exact isDigit_of_mem_fixedDigits hb

theorem decimal_field_append {w n : ℕ} (before after : Text) (h : n < 10 ^ w) :
    decimal (field (before ++ (fixedDigits w n ++ after)) before.length w) = n := by
  have hfield := field_append before (fixedDigits w n) after
  rw [length_fixedDigits] at hfield
  rw [hfield, decimal_fixedDigits, Nat.mod_eq_of_lt h]

theorem IsNumberAt.length {s : Text} {i w : ℕ} (h : IsNumberAt s i w) : (field s i w).length = w := by
  rw [field, List.length_take, List.length_drop]
  have := h.1
  omega

theorem IsNumberAt.ne_nil {s : Text} {i w : ℕ} (h : IsNumberAt s i w) (hw : 0 < w) :
    field s i w ≠ [] := by
  intro hnil
  have := h.length
  rw [hnil, List.length_nil] at this
  omega

/-- A field of digits is the fixed-width text of its number. -/
theorem IsNumberAt.fixedDigits_eq {s : Text} {i w : ℕ} (h : IsNumberAt s i w) :
    fixedDigits w (decimal (field s i w)) = field s i w := by
  have := fixedDigits_decimal h.2
  rwa [h.length] at this

theorem IsNumberAt.decimal_lt {s : Text} {i w : ℕ} (h : IsNumberAt s i w) :
    decimal (field s i w) < 10 ^ w := by
  have := DecimalText.decimal_lt h.2
  rwa [h.length] at this

theorem endsNumber_cons {b : UInt8} (hsep : isDigit b = false) (rest : Text) : EndsNumber (b :: rest) := by
  intro c hc
  obtain rfl := Option.some.inj hc
  exact hsep

/-- `sscanf` reads a field of digits up to the separator its format names next. -/
theorem sscanf_field {s : Text} {i w : ℕ} {b : UInt8} {format : List Directive}
    (h : IsNumberAt s i w) (hw : 0 < w) (hb : s[i + w]? = some b) (hsep : isDigit b = false) :
    sscanf (.int :: .literal b :: format) (s.drop i) =
      (decimal (field s i w) : ℤ) :: sscanf format (s.drop (i + w + 1)) := by
  rw [drop_eq_field_append hb, sscanf, scanInt_digits h.2 (h.ne_nil hw) (endsNumber_cons hsep _)]
  simp [sscanf]

/-- The same for a separating blank, which also skips the white space after it. -/
theorem sscanf_field_space {s : Text} {i w : ℕ} {format : List Directive}
    (h : IsNumberAt s i w) (hw : 0 < w) (hb : s[i + w]? = some 32) :
    sscanf (.int :: .space :: format) (s.drop i) =
      (decimal (field s i w) : ℤ) :: sscanf format ((s.drop (i + w + 1)).dropWhile isSpace) := by
  rw [drop_eq_field_append hb, sscanf, scanInt_digits h.2 (h.ne_nil hw) (endsNumber_cons rfl _)]
  simp [sscanf, isSpace]

/-- The last number of a format ends with the string. -/
theorem sscanf_last {s : Text} {i w : ℕ} (h : IsNumberAt s i w) (hw : 0 < w)
    (hlen : s.length = i + w) : sscanf [.int] (s.drop i) = [(decimal (field s i w) : ℤ)] := by
  have hend : EndsNumber [] := by
    intro c hc
    cases hc
  have hscan := scanInt_digits h.2 (h.ne_nil hw) hend
  rw [List.append_nil] at hscan
  rw [drop_eq_field hlen, sscanf, hscan]
  rfl

/-- White space stops at a field of digits. -/
theorem dropWhile_isSpace_drop {s : Text} {i w : ℕ} (h : IsNumberAt s i w) (hw : 0 < w) :
    (s.drop i).dropWhile isSpace = s.drop i := by
  obtain ⟨b, ds, hfield⟩ := List.exists_cons_of_ne_nil (h.ne_nil hw)
  have hb := h.2 b (by rw [hfield]; exact List.mem_cons_self)
  have hsplit := List.take_append_drop w (s.drop i)
  rw [← field, hfield, List.cons_append] at hsplit
  rw [← hsplit, List.dropWhile_cons, isSpace_of_isDigit hb]
  rfl

end DecimalText
