import VoiceLife.Lib.Utf8
import VoiceLife.Lib.JsonValue

/-! # JSON text

`Rfc8259.read` reads a text by the grammar of RFC 8259, and `stringify` is `JSON.stringify` without
indentation. The strings of a tree are in UTF-8, its numbers are exact. Escapes of lone surrogates are
not read, as implementations disagree on them; `Tree.Interoperable` leaves out the repeated keys and the
numbers of more than double precision that they may read differently.
-/

open DecimalText (Text ascii isDigit decimal)

namespace Rfc8259

/-- What a JSON text stands for. -/
inductive Tree where
  | null
  | bool (value : Bool)
  | number (value : ℚ)
  | string (value : Text)
  | array (items : List Tree)
  | object (members : List (Text × Tree))

/-- A finite number of the format binary64. -/
def IsDouble (value : ℚ) : Prop :=
  ∃ mantissa exponent : ℤ, |mantissa| ≤ 2 ^ 53 ∧ -1074 ≤ exponent ∧ exponent ≤ 971 ∧
    value = mantissa * 2 ^ exponent

theorem isDouble_intCast {value : ℤ} (h : |value| ≤ 2 ^ 53) : IsDouble value :=
  ⟨value, 0, h, by norm_num, by norm_num, by rw [zpow_zero, mul_one]⟩

namespace Tree

mutual

/-- Keys are not repeated, and numbers are of double precision. -/
def Interoperable : Tree → Prop
  | .number value => IsDouble value
  | .array items => InteroperableItems items
  | .object members => (members.map Prod.fst).Nodup ∧ InteroperableMembers members
  | _ => True

/-- `Interoperable` for every item. -/
def InteroperableItems : List Tree → Prop
  | [] => True
  | item :: items => item.Interoperable ∧ InteroperableItems items

/-- `Interoperable` for the value of every member. -/
def InteroperableMembers : List (Text × Tree) → Prop
  | [] => True
  | (_, value) :: members => value.Interoperable ∧ InteroperableMembers members

end

mutual

/-- The number of values. -/
def size : Tree → ℕ
  | .null => 1
  | .bool _ => 1
  | .number _ => 1
  | .string _ => 1
  | .array items => 1 + sizeItems items
  | .object members => 1 + sizeMembers members

/-- The number of values in the items. -/
def sizeItems : List Tree → ℕ
  | [] => 0
  | item :: items => item.size + sizeItems items

/-- The number of values in the members. -/
def sizeMembers : List (Text × Tree) → ℕ
  | [] => 0
  | (_, value) :: members => value.size + sizeMembers members

end

/-- Induction over a tree: every item and the value of every member is covered. -/
@[elab_as_elim, induction_eliminator]
theorem induction {motive : Tree → Prop} (null : motive .null) (bool : ∀ value, motive (.bool value))
    (number : ∀ value, motive (.number value)) (string : ∀ value, motive (.string value))
    (array : ∀ items, (∀ item ∈ items, motive item) → motive (.array items))
    (object : ∀ members, (∀ member ∈ members, motive member.2) → motive (.object members))
    (tree : Tree) : motive tree :=
  @Tree.rec motive (fun items => ∀ item ∈ items, motive item)
    (fun members => ∀ member ∈ members, motive member.2) (fun member => motive member.2)
    null bool number string array object
    (List.forall_mem_nil _) (fun _ _ hhead htail => List.forall_mem_cons.2 ⟨hhead, htail⟩)
    (List.forall_mem_nil _) (fun _ _ hhead htail => List.forall_mem_cons.2 ⟨hhead, htail⟩)
    (fun _ _ hvalue => hvalue) tree

theorem interoperableItems_iff {items : List Tree} :
    InteroperableItems items ↔ ∀ item ∈ items, item.Interoperable := by
  induction items with
  | nil => exact iff_of_true trivial (List.forall_mem_nil _)
  | cons item items ih => rw [InteroperableItems, ih, List.forall_mem_cons]

theorem interoperableMembers_iff {members : List (Text × Tree)} :
    InteroperableMembers members ↔ ∀ member ∈ members, member.2.Interoperable := by
  induction members with
  | nil => exact iff_of_true trivial (List.forall_mem_nil _)
  | cons member members ih => rw [InteroperableMembers, ih, List.forall_mem_cons]

end Tree

/-! ## Strings -/

/-- The value of a hexadecimal digit. -/
def hexValue (byte : UInt8) : Option ℕ :=
  if 48 ≤ byte ∧ byte ≤ 57 then some (byte.toNat - 48)
  else if 97 ≤ byte ∧ byte ≤ 102 then some (byte.toNat - 87)
  else if 65 ≤ byte ∧ byte ≤ 70 then some (byte.toNat - 55)
  else none

/-- `4HEXDIG`. -/
def readUnit : Text → Option (ℕ × Text)
  | a :: b :: c :: d :: rest => do
    return ((← hexValue a) * 4096 + (← hexValue b) * 256 + (← hexValue c) * 16 + (← hexValue d), rest)
  | _ => none

/-- The byte of a one-letter escape. -/
def unescape (letter : UInt8) : Option UInt8 :=
  if letter = 34 ∨ letter = 92 ∨ letter = 47 then some letter
  else if letter = 98 then some 8
  else if letter = 102 then some 12
  else if letter = 110 then some 10
  else if letter = 114 then some 13
  else if letter = 116 then some 9
  else none

/-- The second half of an escaped surrogate pair. -/
def readLow (high : ℕ) : Text → Option (Text × Text)
  | backslash :: letter :: rest =>
    if backslash = 92 ∧ letter = 117 then do
      let (low, rest) ← readUnit rest
      if 0xdc00 ≤ low ∧ low < 0xe000 then
        some (encodePoint (0x10000 + (high - 0xd800) * 0x400 + (low - 0xdc00)), rest)
      else none
    else none
  | _ => none

/-- What follows a backslash. -/
def readEscape : Text → Option (Text × Text)
  | [] => none
  | letter :: rest =>
    if letter = 117 then do
      let (unit, rest) ← readUnit rest
      if 0xd800 ≤ unit ∧ unit < 0xdc00 then readLow unit rest
      else if 0xdc00 ≤ unit ∧ unit < 0xe000 then none
      else some (encodePoint unit, rest)
    else (unescape letter).map fun byte => ([byte], rest)

/-- Bytes in front of what was read. -/
def prepend (bytes : Text) (found : Text × Text) : Text × Text :=
  (bytes ++ found.1, found.2)

/-- `*char quotation-mark`: the string, and what follows it. -/
def readChars : ℕ → Text → Option (Text × Text)
  | 0, _ => none
  | _ + 1, [] => none
  | fuel + 1, byte :: rest =>
    if byte = 34 then some ([], rest)
    else if byte = 92 then do
      let (bytes, rest) ← readEscape rest
      (readChars fuel rest).map (prepend bytes)
    else if byte < 32 then none
    else (readChars fuel rest).map (prepend [byte])

/-- The rest of a string after its opening quotation mark. -/
def readString (text : Text) : Option (Text × Text) :=
  readChars (text.length + 1) text

/-! ## Numbers -/

/-- `1*DIGIT`. -/
def readDigits (text : Text) : Option (Text × Text) :=
  if text.takeWhile isDigit = [] then none
  else some (text.takeWhile isDigit, text.dropWhile isDigit)

/-- `[ minus ]`. -/
def readMinus : Text → Bool × Text
  | [] => (false, [])
  | byte :: rest => if byte = 45 then (true, rest) else (false, byte :: rest)

/-- `[ frac ]`. -/
def readFraction : Text → Option (Text × Text)
  | [] => some ([], [])
  | byte :: rest => if byte = 46 then readDigits rest else some ([], byte :: rest)

/-- The digits of an exponent, after its sign. -/
def readExponentDigits : Text → Option (ℤ × Text)
  | [] => none
  | byte :: rest =>
    if byte = 45 then (readDigits rest).map fun found => (-(decimal found.1 : ℤ), found.2)
    else if byte = 43 then (readDigits rest).map fun found => ((decimal found.1 : ℤ), found.2)
    else (readDigits (byte :: rest)).map fun found => ((decimal found.1 : ℤ), found.2)

/-- `[ exp ]`. -/
def readExponent : Text → Option (ℤ × Text)
  | [] => some (0, [])
  | byte :: rest =>
    if byte = 101 ∨ byte = 69 then readExponentDigits rest else some (0, byte :: rest)

/-- `int = zero / ( digit1-9 *DIGIT )`. -/
def isInt (digits : Text) : Bool :=
  digits.head? ≠ some 48 || digits.length = 1

/-- `number`. -/
def readNumber (text : Text) : Option (ℚ × Text) := do
  let (negative, text) := readMinus text
  let (integer, text) ← readDigits text
  if !isInt integer then none
  else
    let (fraction, text) ← readFraction text
    let (exponent, text) ← readExponent text
    let magnitude : ℚ :=
      decimal (integer ++ fraction) * 10 ^ (exponent - (fraction.length : ℤ))
    return (if negative then -magnitude else magnitude, text)

/-! ## Values -/

/-- `ws`. -/
def skipSpace : Text → Text
  | [] => []
  | byte :: rest =>
    if byte = 32 ∨ byte = 9 ∨ byte = 10 ∨ byte = 13 then skipSpace rest else byte :: rest

/-- One byte. -/
def expect (byte : UInt8) : Text → Option Text
  | [] => none
  | head :: rest => if head = byte then some rest else none

/-- A name such as `null`. -/
def expectName (name : Text) (text : Text) : Option Text :=
  if name.isPrefixOf text then some (text.drop name.length) else none

/-- Behind an element of an array or an object: a comma and more elements, or the closing bracket. -/
def readMore {α : Type} (more : Text → Option (List α × Text)) (closing : UInt8) (element : α)
    (rest : Text) : Option (List α × Text) :=
  match expect 44 (skipSpace rest) with
  | some rest => (more rest).map fun found => (element :: found.1, found.2)
  | none => (expect closing (skipSpace rest)).map fun rest => ([element], rest)

mutual

/-- `value`. -/
def readValue : ℕ → Text → Option (Tree × Text)
  | 0, _ => none
  | _ + 1, [] => none
  | fuel + 1, byte :: rest =>
    if byte = 34 then (readString rest).map fun found => (.string found.1, found.2)
    else if byte = 91 then
      match expect 93 (skipSpace rest) with
      | some rest => some (.array [], rest)
      | none => (readItems fuel rest).map fun found => (.array found.1, found.2)
    else if byte = 123 then
      match expect 125 (skipSpace rest) with
      | some rest => some (.object [], rest)
      | none => (readMembers fuel rest).map fun found => (.object found.1, found.2)
    else if byte = 110 then (expectName (ascii "ull") rest).map fun rest => (.null, rest)
    else if byte = 116 then (expectName (ascii "rue") rest).map fun rest => (.bool true, rest)
    else if byte = 102 then (expectName (ascii "alse") rest).map fun rest => (.bool false, rest)
    else (readNumber (byte :: rest)).map fun found => (.number found.1, found.2)

/-- The values of an array, up to its closing bracket. -/
def readItems : ℕ → Text → Option (List Tree × Text)
  | 0, _ => none
  | fuel + 1, text => do
    let (item, rest) ← readValue fuel (skipSpace text)
    readMore (readItems fuel) 93 item rest

/-- The members of an object, up to its closing bracket. -/
def readMembers : ℕ → Text → Option (List (Text × Tree) × Text)
  | 0, _ => none
  | fuel + 1, text => do
    let rest ← expect 34 (skipSpace text)
    let (key, rest) ← readString rest
    let rest ← expect 58 (skipSpace rest)
    let (value, rest) ← readValue fuel (skipSpace rest)
    readMore (readMembers fuel) 125 (key, value) rest

end

/-- `JSON-text = ws value ws`. -/
def read (text : Text) : Option Tree := do
  let (tree, rest) ← readValue (text.length + 1) (skipSpace text)
  if skipSpace rest = [] then some tree else none

end Rfc8259

/-! ## `JSON.stringify` -/

namespace JsonValue

mutual

/-- `JSON.stringify` without indentation. -/
def stringify : JsonValue → JsString
  | .null => js "null"
  | .bool true => js "true"
  | .bool false => js "false"
  | .number value => value.text
  | .string value => quoteJson value
  | .array items => 91 :: (stringifyItems items ++ [93])
  | .object fields => 123 :: (stringifyFields fields ++ [125])

/-- The texts of the items, with commas in between. -/
def stringifyItems : List JsonValue → JsString
  | [] => []
  | [item] => item.stringify
  | item :: other :: items => item.stringify ++ 44 :: stringifyItems (other :: items)

/-- The texts of the fields, with commas in between. -/
def stringifyFields : List (JsString × JsonValue) → JsString
  | [] => []
  | [(key, value)] => quoteJson key ++ 58 :: value.stringify
  | (key, value) :: field :: fields =>
    quoteJson key ++ 58 :: (value.stringify ++ 44 :: stringifyFields (field :: fields))

end

mutual

/-- What the text of a value stands for. -/
def toTree : JsonValue → Rfc8259.Tree
  | .null => .null
  | .bool value => .bool value
  | .number value => .number (value.mantissa * 10 ^ value.exponent)
  | .string value => .string (utf8 value)
  | .array items => .array (toTrees items)
  | .object fields => .object (toMembers fields)

/-- `toTree` for every item. -/
def toTrees : List JsonValue → List Rfc8259.Tree
  | [] => []
  | item :: items => item.toTree :: toTrees items

/-- `toTree` for every field. -/
def toMembers : List (JsString × JsonValue) → List (Text × Rfc8259.Tree)
  | [] => []
  | (key, value) :: fields => (utf8 key, value.toTree) :: toMembers fields

end

mutual

/-- Strings without lone surrogates, and integers that are written digit by digit. -/
def Portable : JsonValue → Prop
  | .number value => value.isInteger = true ∧ |value.toInt| < 10 ^ 21
  | .string value => isWellFormed value = true
  | .array items => PortableItems items
  | .object fields => PortableFields fields
  | _ => True

/-- `Portable` for every item. -/
def PortableItems : List JsonValue → Prop
  | [] => True
  | item :: items => item.Portable ∧ PortableItems items

/-- `Portable` for every field. -/
def PortableFields : List (JsString × JsonValue) → Prop
  | [] => True
  | (key, value) :: fields => (isWellFormed key = true ∧ value.Portable) ∧ PortableFields fields

end

end JsonValue

/-! ## Texts of strings -/

theorem isAscii_hexDigit : ∀ n < 16, isAscii (hexDigit n) = true := by
  decide

theorem isAscii_unicodeEscape (unit : CodeUnit) :
    ∀ other ∈ unicodeEscape unit, isAscii other = true := by
  intro other hother
  simp only [unicodeEscape, List.mem_cons, List.not_mem_nil, or_false] at hother
  have hlt := unit.isLt
  rcases hother with rfl | rfl | rfl | rfl | rfl | rfl
  · rfl
  · rfl
  · exact isAscii_hexDigit _ (by omega)
  · exact isAscii_hexDigit _ (by omega)
  · exact isAscii_hexDigit _ (by omega)
  · exact isAscii_hexDigit _ (by omega)

/-- A unit is written in ASCII, or as it is. -/
theorem isAscii_quoteUnit (unit : CodeUnit) :
    (∀ other ∈ quoteUnit unit, isAscii other = true) ∨ quoteUnit unit = [unit] := by
  have hletters : ∀ escape ∈ letterEscapes, isAscii escape.2 = true :=
    List.all_iff_forall_prop.1 (by decide)
  rcases quoteUnit_cases unit with ⟨letter, hmem, hquote⟩ | hquote | ⟨hquote, -⟩
  · rw [hquote]
    exact Or.inl (List.forall_mem_cons.2 ⟨rfl, List.forall_mem_singleton.2 (hletters _ hmem)⟩)
  · rw [hquote]
    exact Or.inl (isAscii_unicodeEscape unit)
  · exact Or.inr hquote

theorem isWellFormed_quoteUnit {unit : CodeUnit} (h : isSurrogate unit = false) :
    isWellFormed (quoteUnit unit) = true := by
  rcases isAscii_quoteUnit unit with hascii | hplain
  · exact isWellFormed_of_ascii hascii
  · rw [hplain, isWellFormed_cons h]
    rfl

/-- Quoting works pair by pair and unit by unit. -/
theorem quoteUnits_cons {unit : CodeUnit} (h : isSurrogate unit = false) (rest : JsString) :
    quoteUnits (unit :: rest) = quoteUnit unit ++ quoteUnits rest := by
  cases rest with
  | nil => rw [quoteUnits, quoteUnits, List.append_nil]
  | cons low rest =>
      rw [quoteUnits, isHighSurrogate_of_not h, Bool.false_and, if_neg Bool.false_ne_true]

theorem isWellFormed_quoteUnits {text : JsString} (h : isWellFormed text = true) :
    isWellFormed (quoteUnits text) = true := by
  induction text using isWellFormed.induct with
  | case1 => rfl
  | case2 unit =>
      rw [isWellFormed, Bool.not_eq_true'] at h
      exact isWellFormed_quoteUnit h
  | case3 high low rest hpair ih =>
      rw [isWellFormed, if_pos hpair] at h
      rw [quoteUnits, if_pos hpair, isWellFormed, if_pos hpair]
      exact ih h
  | case4 high low rest hpair ih =>
      rw [isWellFormed, if_neg hpair, Bool.and_eq_true, Bool.not_eq_true'] at h
      rw [quoteUnits_cons h.1]
      exact isWellFormed_append (isWellFormed_quoteUnit h.1) (ih h.2)

theorem isWellFormed_quoteJson {text : JsString} (h : isWellFormed text = true) :
    isWellFormed (quoteJson text) = true := by
  rw [quoteJson, isWellFormed_cons rfl]
  exact isWellFormed_append (isWellFormed_quoteUnits h) rfl

theorem utf8_quoteJson {text : JsString} (h : isWellFormed text = true) :
    utf8 (quoteJson text) = 34 :: (utf8 (quoteUnits text) ++ [34]) := by
  rw [quoteJson, utf8_ascii_cons rfl, utf8_append (isWellFormed_quoteUnits h)]
  rfl

/-! ## Reading a string -/

namespace Rfc8259

/-- With more fuel than `size`, the reader finds this. -/
def Reads (size : ℕ) (text : Text) (found : Text × Text) : Prop :=
  ∀ fuel, size < fuel → readChars fuel text = some found

theorem Reads.mono {size size' : ℕ} {text : Text} {found : Text × Text} (h : Reads size text found)
    (hle : size ≤ size') : Reads size' text found :=
  fun fuel hfuel => h fuel (lt_of_le_of_lt hle hfuel)

theorem reads_quote (rest : Text) : Reads 0 (34 :: rest) ([], rest) := by
  intro fuel hfuel
  obtain ⟨fuel, rfl⟩ := Nat.exists_eq_add_one.2 hfuel
  rfl

/-- A byte that stands for itself. -/
def isPlain (byte : UInt8) : Bool :=
  32 ≤ byte.toNat && byte ≠ 34 && byte ≠ 92

theorem Reads.plain {size : ℕ} {rest : Text} {found : Text × Text} (h : Reads size rest found)
    {bytes : Text} (hplain : ∀ byte ∈ bytes, isPlain byte = true) :
    Reads (bytes.length + size) (bytes ++ rest) (prepend bytes found) := by
  induction bytes with
  | nil => exact h.mono (Nat.le_add_left _ _)
  | cons byte bytes ih =>
      intro fuel hfuel
      obtain ⟨fuel, rfl⟩ := Nat.exists_eq_add_one.2 (Nat.zero_lt_of_lt hfuel)
      have hbyte := hplain byte List.mem_cons_self
      simp only [isPlain, Bool.and_eq_true, decide_eq_true_eq] at hbyte
      obtain ⟨⟨hcontrol, hquote⟩, hslash⟩ := hbyte
      have hlow : ¬byte < 32 := by
        rw [UInt8.lt_iff_toNat_lt]
        exact not_lt.2 hcontrol
      have hrest := ih (fun other hother => hplain other (List.mem_cons_of_mem byte hother)) fuel
        (by rw [List.length_cons] at hfuel; omega)
      rw [List.cons_append, readChars, if_neg hquote, if_neg hslash, if_neg hlow, hrest]
      rfl

theorem Reads.escape {size : ℕ} {text rest bytes : Text} {found : Text × Text}
    (h : Reads size rest found) (hescape : readEscape text = some (bytes, rest)) :
    Reads (size + 1) (92 :: text) (prepend bytes found) := by
  intro fuel hfuel
  obtain ⟨fuel, rfl⟩ := Nat.exists_eq_add_one.2 (Nat.zero_lt_of_lt hfuel)
  have hrest := h fuel (by omega)
  rw [readChars, if_neg (by decide), if_pos rfl, hescape]
  show (readChars fuel rest).map (prepend bytes) = _
  rw [hrest]
  rfl

theorem hexValue_hexDigit : ∀ n < 16, hexValue (asciiByte (hexDigit n)) = some n := by
  decide

/-- `\u` and four digits. -/
theorem readEscape_unicodeEscape {unit : CodeUnit} (h : isSurrogate unit = false) (rest : Text) :
    utf8 (unicodeEscape unit) = 92 :: (utf8 (unicodeEscape unit)).tail ∧
      readEscape ((utf8 (unicodeEscape unit)).tail ++ rest) =
        some (encodePoint unit.val, rest) := by
  have hlt := unit.isLt
  have hhex := isAscii_hexDigit
  have hbytes : utf8 (unicodeEscape unit) =
      [92, 117, asciiByte (hexDigit (unit.val / 4096)), asciiByte (hexDigit (unit.val / 256 % 16)),
        asciiByte (hexDigit (unit.val / 16 % 16)), asciiByte (hexDigit (unit.val % 16))] := by
    rw [unicodeEscape, utf8_ascii_cons rfl, utf8_ascii_cons rfl,
      utf8_ascii_cons (hhex _ (by omega)), utf8_ascii_cons (hhex _ (by omega)),
      utf8_ascii_cons (hhex _ (by omega)), utf8_ascii_cons (hhex _ (by omega))]
    rfl
  have hunit : unit.val / 4096 * 4096 + unit.val / 256 % 16 * 256 + unit.val / 16 % 16 * 16 +
      unit.val % 16 = unit.val := by omega
  have hread : readUnit (asciiByte (hexDigit (unit.val / 4096)) ::
      asciiByte (hexDigit (unit.val / 256 % 16)) :: asciiByte (hexDigit (unit.val / 16 % 16)) ::
        asciiByte (hexDigit (unit.val % 16)) :: rest) = some (unit.val, rest) := by
    rw [readUnit, hexValue_hexDigit _ (by omega), hexValue_hexDigit _ (by omega),
      hexValue_hexDigit _ (by omega), hexValue_hexDigit _ (by omega)]
    show some (_, rest) = some (unit.val, rest)
    rw [hunit]
  simp only [isSurrogate, isHighSurrogate, isLowSurrogate, Bool.or_eq_false_iff,
    Bool.and_eq_false_iff, decide_eq_false_iff_not, Fin.le_def, not_le] at h
  have hhigh : ¬(0xd800 ≤ unit.val ∧ unit.val < 0xdc00) := by
    rintro ⟨hle, hltc⟩
    rcases h.1 with h1 | h1
    · exact absurd h1 (not_lt.2 hle)
    · exact absurd (show (0xdbff : ℕ) < unit.val from h1) (by omega)
  have hlow : ¬(0xdc00 ≤ unit.val ∧ unit.val < 0xe000) := by
    rintro ⟨hle, hltc⟩
    rcases h.2 with h1 | h1
    · exact absurd h1 (not_lt.2 hle)
    · exact absurd (show (0xdfff : ℕ) < unit.val from h1) (by omega)
  refine ⟨by rw [hbytes]; rfl, ?_⟩
  rw [hbytes]
  show readEscape (117 :: _ :: _ :: _ :: _ :: rest) = _
  rw [readEscape, if_pos rfl, hread]
  show (if 0xd800 ≤ unit.val ∧ unit.val < 0xdc00 then _ else _) = _
  rw [if_neg hhigh, if_neg hlow]

/-- What is written for a unit is read as this unit. -/
theorem Reads.quoted {size : ℕ} {rest : Text} {found : Text × Text} (h : Reads size rest found)
    {unit : CodeUnit} (hunit : isSurrogate unit = false) :
    Reads ((utf8 (quoteUnit unit)).length + size) (utf8 (quoteUnit unit) ++ rest)
      (prepend (encodePoint unit.val) found) := by
  have hletter : ∀ letter byte : UInt8, readEscape (letter :: rest) = some ([byte], rest) →
      Reads (2 + size) (92 :: letter :: rest) (prepend [byte] found) :=
    fun letter byte hescape => (h.escape hescape).mono (by omega)
  rcases quoteUnit_cases unit with ⟨letter, hmem, hquote⟩ | hquote | ⟨hquote, hcontrol, h34, h92⟩
  all_goals rw [hquote]
  · simp only [letterEscapes, List.mem_cons, Prod.mk.injEq, List.not_mem_nil, or_false] at hmem
    rcases hmem with ⟨rfl, rfl⟩ | ⟨rfl, rfl⟩ | ⟨rfl, rfl⟩ | ⟨rfl, rfl⟩ | ⟨rfl, rfl⟩ | ⟨rfl, rfl⟩ |
      ⟨rfl, rfl⟩
    · exact hletter 98 8 rfl
    · exact hletter 116 9 rfl
    · exact hletter 110 10 rfl
    · exact hletter 102 12 rfl
    · exact hletter 114 13 rfl
    · exact hletter 34 34 rfl
    · exact hletter 92 92 rfl
  · obtain ⟨hbytes, hread⟩ := readEscape_unicodeEscape hunit rest
    rw [hbytes]
    exact (h.escape hread).mono (by rw [List.length_cons]; omega)
  · rw [utf8_cons hunit, utf8, List.append_nil]
    refine h.plain fun byte hbyte => ?_
    have hne : ∀ code : UInt8, code.toNat < 0x80 → unit.val ≠ code.toNat → byte ≠ code := by
      rintro code hcode hunit' rfl
      rcases mem_encodePoint hbyte (unit.isLt.trans (by decide)) with ⟨-, heq⟩ | hle
      · exact hunit' heq.symm
      · exact absurd hcode (not_lt.2 hle)
    have hval : ∀ other : CodeUnit, unit ≠ other → unit.val ≠ other.val :=
      fun other hother heq => hother (Fin.ext heq)
    simp only [isPlain, Bool.and_eq_true, decide_eq_true_eq]
    refine ⟨⟨?_, hne 34 (by decide) (hval 34 h34)⟩, hne 92 (by decide) (hval 92 h92)⟩
    rcases mem_encodePoint hbyte (unit.isLt.trans (by decide)) with ⟨-, heq⟩ | hle
    · omega
    · omega

theorem reads_quoteUnits {text : JsString} (h : isWellFormed text = true) (rest : Text) :
    Reads (utf8 (quoteUnits text)).length (utf8 (quoteUnits text) ++ 34 :: rest)
      (utf8 text, rest) := by
  induction text using isWellFormed.induct with
  | case1 => exact reads_quote rest
  | case2 unit =>
      rw [isWellFormed, Bool.not_eq_true'] at h
      have hread := (reads_quote rest).quoted h
      rw [prepend] at hread
      rw [quoteUnits, utf8_cons h]
      exact hread
  | case3 high low tail hpair ih =>
      rw [isWellFormed, if_pos hpair] at h
      have hpoint := pairPoint_lt hpair
      have hplain : ∀ byte ∈ encodePoint (pairPoint high low), isPlain byte = true := by
        intro byte hbyte
        have hle := (mem_encodePoint hbyte hpoint.2).resolve_left fun h => absurd h.1 (by omega)
        simp only [isPlain, Bool.and_eq_true, decide_eq_true_eq]
        refine ⟨⟨by omega, ?_⟩, ?_⟩ <;>
          · rintro rfl
            exact absurd hle (by decide)
      have hread := (ih h).plain hplain
      rw [prepend] at hread
      rw [quoteUnits, if_pos hpair, utf8, if_pos hpair, utf8, if_pos hpair, List.append_assoc,
        List.length_append]
      exact hread
  | case4 high low tail hpair ih =>
      rw [isWellFormed, if_neg hpair, Bool.and_eq_true, Bool.not_eq_true'] at h
      have hread := (ih h.2).quoted h.1
      rw [prepend] at hread
      rw [quoteUnits_cons h.1, utf8_append (isWellFormed_quoteUnit h.1), utf8_cons h.1,
        List.append_assoc, List.length_append]
      exact hread

/-- A quoted string is read back. -/
theorem readString_quoteUnits {text : JsString} (h : isWellFormed text = true) (rest : Text) :
    readString (utf8 (quoteUnits text) ++ 34 :: rest) = some (utf8 text, rest) := by
  refine reads_quoteUnits h rest _ ?_
  rw [List.length_append]
  omega

/-! ## Reading a number -/

/-- What may follow a value: a comma, a closing bracket or the end. -/
def Ends (rest : Text) : Prop :=
  ∀ byte, rest.head? = some byte → byte = 44 ∨ byte = 93 ∨ byte = 125

theorem ends_nil : Ends [] := by
  intro byte h
  cases h

theorem ends_cons {byte : UInt8} {rest : Text} (h : byte = 44 ∨ byte = 93 ∨ byte = 125) :
    Ends (byte :: rest) := by
  intro other hother
  rw [List.head?_cons, Option.some.injEq] at hother
  rwa [← hother]

/-- Nothing of a number follows. -/
theorem Ends.after_number {rest : Text} (h : Ends rest) :
    rest.takeWhile isDigit = [] ∧ rest.dropWhile isDigit = rest ∧
      readFraction rest = some ([], rest) ∧ readExponent rest = some (0, rest) := by
  cases rest with
  | nil => exact ⟨rfl, rfl, rfl, rfl⟩
  | cons byte rest =>
      rcases h byte rfl with rfl | rfl | rfl <;> exact ⟨rfl, rfl, rfl, rfl⟩

theorem isDigit_asciiByte {unit : CodeUnit} (h : JsNumber.isDigit unit = true) :
    isAscii unit = true ∧ isDigit (asciiByte unit) = true ∧
      DecimalText.digitValue (asciiByte unit) = unit.val - 48 := by
  simp only [JsNumber.isDigit, Bool.and_eq_true, decide_eq_true_eq, Fin.le_def] at h
  have hl : 48 ≤ unit.val := h.1
  have hh : unit.val ≤ 57 := h.2
  have hbyte : (asciiByte unit).toNat = unit.val := by
    rw [asciiByte, UInt8.toNat_ofNat']
    omega
  have hascii : unit.val < 0x80 := by omega
  refine ⟨decide_eq_true hascii, ?_, ?_⟩
  · rw [DecimalText.isDigit_iff, hbyte]
    exact ⟨hl, hh⟩
  · rw [DecimalText.digitValue, hbyte]

theorem decimal_asciiByte {digits : JsString} (h : JsNumber.AllDigits digits) :
    decimal (digits.map asciiByte) = JsNumber.digitsValue digits := by
  have hfold : ∀ start, (digits.map asciiByte).foldl
      (fun acc byte => acc * 10 + DecimalText.digitValue byte) start =
        digits.foldl (fun value digit => 10 * value + (digit.val - 48)) start := by
    induction digits with
    | nil => exact fun _ => rfl
    | cons unit digits ih =>
        intro start
        rw [List.map_cons, List.foldl_cons, List.foldl_cons,
          (isDigit_asciiByte (h unit List.mem_cons_self)).2.2, mul_comm start 10]
        exact ih (fun other hother => h other (List.mem_cons_of_mem unit hother)) _
  exact hfold 0

theorem readDigits_append {digits : Text} (hne : digits ≠ []) (hall : ∀ byte ∈ digits, isDigit byte = true)
    {rest : Text} (hrest : rest.takeWhile isDigit = [] ∧ rest.dropWhile isDigit = rest) :
    readDigits (digits ++ rest) = some (digits, rest) := by
  have htake : (digits ++ rest).takeWhile isDigit = digits := by
    rw [List.takeWhile_append_of_pos hall, hrest.1, List.append_nil]
  have hdrop : (digits ++ rest).dropWhile isDigit = rest := by
    rw [List.dropWhile_append_of_pos hall, hrest.2]
  rw [readDigits, htake, hdrop, if_neg hne]

/-- The digits of an integer, without a superfluous zero in front. -/
structure IsInteger (digits : JsString) (value : ℕ) : Prop where
  allDigits : JsNumber.AllDigits digits
  ne_nil : digits ≠ []
  noLeadingZero : digits.head? ≠ some 48 ∨ digits.length = 1
  digitsValue : JsNumber.digitsValue digits = value

theorem readNumber_digits {digits : JsString} {value : ℕ} (h : IsInteger digits value) {rest : Text}
    (hrest : Ends rest) : readNumber (digits.map asciiByte ++ rest) = some ((value : ℚ), rest) ∧
      readNumber (45 :: (digits.map asciiByte ++ rest)) = some (-(value : ℚ), rest) := by
  obtain ⟨htake, hdrop, hfraction, hexponent⟩ := hrest.after_number
  have hall : ∀ byte ∈ digits.map asciiByte, isDigit byte = true := by
    intro byte hbyte
    obtain ⟨unit, hunit, rfl⟩ := List.mem_map.1 hbyte
    exact (isDigit_asciiByte (h.allDigits unit hunit)).2.1
  have hne : digits.map asciiByte ≠ [] := by
    simpa using h.ne_nil
  have hdigits := readDigits_append hne hall ⟨htake, hdrop⟩
  have hint : isInt (digits.map asciiByte) = true := by
    rcases h.noLeadingZero with hhead | hlength
    · obtain ⟨unit, tail, rfl⟩ := List.exists_cons_of_ne_nil h.ne_nil
      have hunit := h.allDigits unit List.mem_cons_self
      have hbyte : asciiByte unit ≠ 48 := by
        intro heq
        have hvalue := (isDigit_asciiByte hunit).2.2
        rw [heq] at hvalue
        simp only [JsNumber.isDigit, Bool.and_eq_true, decide_eq_true_eq, Fin.le_def] at hunit
        have hl : 48 ≤ unit.val := hunit.1
        refine hhead (congrArg some (Fin.ext ?_))
        have h0 : DecimalText.digitValue 48 = 0 := rfl
        show unit.val = 48
        omega
      simp [isInt, hbyte]
    · simp [isInt, hlength]
  have hvalue : (decimal (digits.map asciiByte ++ []) * 10 ^ ((0 : ℤ) - (([] : Text).length : ℤ)) : ℚ) =
      value := by
    rw [List.append_nil, decimal_asciiByte h.allDigits, h.digitsValue]
    simp
  constructor
  · have hminus : readMinus (digits.map asciiByte ++ rest) = (false, digits.map asciiByte ++ rest) := by
      obtain ⟨byte, tail, hcons⟩ := List.exists_cons_of_ne_nil hne
      have hdigit := hall byte (by rw [hcons]; exact List.mem_cons_self)
      have hne45 : byte ≠ 45 := by
        rintro rfl
        exact absurd hdigit (by decide)
      rw [hcons, List.cons_append, readMinus, if_neg hne45]
    simp only [readNumber, hminus, hdigits, hint, hfraction, hexponent, Option.bind_eq_bind,
      Option.bind_some, Bool.not_true, Bool.false_eq_true, if_false, Option.pure_def]
    rw [hvalue]
  · have hminus : readMinus (45 :: (digits.map asciiByte ++ rest)) =
        (true, digits.map asciiByte ++ rest) := rfl
    simp only [readNumber, hminus, hdigits, hint, hfraction, hexponent, Option.bind_eq_bind,
      Option.bind_some, Bool.not_true, Bool.false_eq_true, if_false, if_true, Option.pure_def]
    rw [hvalue]

end Rfc8259

namespace JsNumber

theorem isInteger_zero : Rfc8259.IsInteger [48] 0 := by
  refine ⟨?_, List.cons_ne_nil _ _, Or.inr rfl, rfl⟩
  intro unit hunit
  rw [List.mem_singleton.1 hunit]
  rfl

/-- The digits of a number that is not zero do not start with a zero. -/
theorem head?_digitUnits {n : ℕ} (h : n ≠ 0) : (digitUnits n).head? ≠ some 48 := by
  have hne : Nat.digits 10 n ≠ [] := (Nat.digits_ne_nil_iff_ne_zero).2 h
  have hlast := Nat.getLast_digit_ne_zero 10 h
  have hlt : (Nat.digits 10 n).getLast hne < 10 :=
    Nat.digits_lt_base (by norm_num) (List.getLast_mem hne)
  rw [digitUnits, List.head?_map, List.head?_reverse, List.getLast?_eq_some_getLast hne,
    Option.map_some, ne_eq, Option.some.injEq]
  intro heq
  have hdigit := (isDigit_digit hlt).2
  rw [heq] at hdigit
  exact hlast hdigit.symm

/-- An integer below `10 ^ 21` is written digit by digit. -/
theorem text_of_isInteger {number : JsNumber} (hinteger : number.isInteger = true)
    (hlt : |number.toInt| < 10 ^ 21) : ∃ digits,
      Rfc8259.IsInteger digits number.toInt.natAbs ∧
        number.text = if number.mantissa < 0 then 45 :: digits else digits := by
  have hexp : 0 ≤ number.exponent := of_decide_eq_true hinteger
  by_cases hzero : number.mantissa = 0
  · refine ⟨[48], ?_, ?_⟩
    · rw [toInt, hzero, zero_mul]
      exact isInteger_zero
    · rw [text, if_pos hzero, hzero, if_neg (lt_irrefl 0)]
  · set m := number.mantissa.natAbs with hm
    set e := number.exponent.toNat with he
    have hm0 : m ≠ 0 := Int.natAbs_ne_zero.2 hzero
    have hvalue : number.toInt.natAbs = m * 10 ^ e := by
      rw [toInt, Int.natAbs_mul, Int.natAbs_pow]
      rfl
    have hlength : (digitUnits m).length = (Nat.digits 10 m).length := by
      rw [digitUnits, List.length_map, List.length_reverse]
    -- the digits and the zeros together are no more than 21
    have hcount : (digitUnits m).length + e ≤ 21 := by
      have hpow : 10 ^ (Nat.digits 10 m).length ≤ 10 * m := Nat.base_pow_length_digits_le 10 m (by norm_num) hm0
      have hsmall : m * 10 ^ e < 10 ^ 21 := by
        rw [← hvalue]
        rw [← Int.natCast_natAbs] at hlt
        exact_mod_cast hlt
      have hall : 10 ^ ((Nat.digits 10 m).length + e) < 10 ^ 22 := by
        calc 10 ^ ((Nat.digits 10 m).length + e)
            = 10 ^ (Nat.digits 10 m).length * 10 ^ e := pow_add _ _ _
          _ ≤ 10 * m * 10 ^ e := Nat.mul_le_mul_right _ hpow
          _ = 10 * (m * 10 ^ e) := mul_assoc _ _ _
          _ < 10 * 10 ^ 21 := by omega
          _ = 10 ^ 22 := by norm_num
      have hlt22 := (Nat.pow_lt_pow_iff_right (by norm_num)).1 hall
      omega
    refine ⟨digitUnits m ++ List.replicate e 48, ⟨?_, ?_, ?_, ?_⟩, ?_⟩
    · exact (digitUnits_allDigits m).append (zeros_allDigits e)
    · simp [digitUnits_ne_nil hm0]
    · left
      obtain ⟨unit, tail, hcons⟩ := List.exists_cons_of_ne_nil (digitUnits_ne_nil hm0)
      have hhead := head?_digitUnits hm0
      rw [hcons] at hhead ⊢
      exact hhead
    · rw [hvalue, digitsValue_append, digitUnits_value, digitsValue_zeros, List.length_replicate,
        add_zero]
    · have hpositive : positiveText (digitUnits m) ((digitUnits m).length + number.exponent) =
          digitUnits m ++ List.replicate e 48 := by
        have htoNat : (((digitUnits m).length : ℤ) + number.exponent).toNat - (digitUnits m).length =
            e := by omega
        rw [positiveText, if_pos ⟨by omega, by omega⟩, htoNat]
      rw [text, if_neg hzero]
      dsimp only
      rw [hpositive]

/-- The value of an integer, as the number that it is. -/
theorem cast_toInt {number : JsNumber} (hinteger : number.isInteger = true) :
    (number.toInt : ℚ) = number.mantissa * 10 ^ number.exponent := by
  have hexp : 0 ≤ number.exponent := of_decide_eq_true hinteger
  rw [toInt, Int.cast_mul, Int.cast_pow]
  congr 1
  rw [← zpow_natCast, Int.toNat_of_nonneg hexp]
  rfl

/-- The text of such a number is read as the number. -/
theorem readNumber_text {number : JsNumber} (hinteger : number.isInteger = true)
    (hlt : |number.toInt| < 10 ^ 21) {rest : Text} (hrest : Rfc8259.Ends rest) :
    Rfc8259.readNumber (utf8 number.text ++ rest) =
      some ((number.mantissa * 10 ^ number.exponent : ℚ), rest) := by
  obtain ⟨digits, hdigits, htext⟩ := text_of_isInteger hinteger hlt
  have hascii : ∀ unit ∈ digits, isAscii unit = true :=
    fun unit hunit => (Rfc8259.isDigit_asciiByte (hdigits.allDigits unit hunit)).1
  have hread := Rfc8259.readNumber_digits hdigits hrest
  have hpos : (0 : ℤ) < 10 ^ number.exponent.toNat := by positivity
  rw [← cast_toInt hinteger, htext]
  split_ifs with hneg
  · rw [utf8_ascii_cons rfl, utf8_of_ascii hascii, List.cons_append]
    refine hread.2.trans ?_
    have hlt0 : number.toInt ≤ 0 := by
      rw [toInt]
      exact mul_nonpos_of_nonpos_of_nonneg hneg.le hpos.le
    have habs : (number.toInt.natAbs : ℤ) = -number.toInt := Int.ofNat_natAbs_of_nonpos hlt0
    have hcast : (number.toInt.natAbs : ℚ) = -(number.toInt : ℚ) := by
      rw [← Int.cast_natCast, habs, Int.cast_neg]
    rw [hcast, neg_neg]
  · rw [utf8_of_ascii hascii]
    refine hread.1.trans ?_
    have hge0 : 0 ≤ number.toInt := by
      rw [toInt]
      exact mul_nonneg (not_lt.1 hneg) hpos.le
    have habs : (number.toInt.natAbs : ℤ) = number.toInt := Int.natAbs_of_nonneg hge0
    have hcast : (number.toInt.natAbs : ℚ) = (number.toInt : ℚ) := by
      rw [← Int.cast_natCast, habs]
    rw [hcast]

end JsNumber
