import VoiceLife.Contracts.JsonTrees
import VoiceLife.Contracts.ReminderActions
import VoiceLife.Lib.PrintfG

/-! # `im_wire.cc`: action results on the wire

`serializeReminderActionResult` writes a result as a JSON object. A number is written digit by digit up to
10^15, and with `%g` from there, which keeps six digits: `result_roundtrip_iff` says which results come
back from `ParseJson` and `ParseReminderActionResult`.
-/

open DecimalText (Text ascii printInt printfG sixDigits roundHalfEven)
open Rfc8259 (Tree Denotes IsMember Escapes IsDouble isPlain joinTexts memberText)

namespace VoiceLife.Im

open Contracts

/-! ## The writer -/

/-- A hexadecimal digit in lower case. -/
def hexByte (digit : ℕ) : UInt8 :=
  UInt8.ofNat (if digit < 10 then 48 + digit else 87 + digit)

/-- The `switch` of `AppendJsonString`. -/
def wireEscape (byte : UInt8) : Text :=
  if byte = 34 then ascii "\\\""
  else if byte = 92 then ascii "\\\\"
  else if byte = 10 then ascii "\\n"
  else if byte = 13 then ascii "\\r"
  else if byte = 9 then ascii "\\t"
  else if byte < 32 then ascii "\\u00" ++ [hexByte (byte.toNat / 16), hexByte (byte.toNat % 16)]
  else [byte]

/-- `AppendJsonString`. -/
def appendJsonString (value : Text) : Text :=
  34 :: (value.flatMap wireEscape ++ [34])

/-- `AppendKey`. -/
def appendKey (key : Text) : Text :=
  appendJsonString key ++ [58]

/-- The text of a finite number. -/
def appendNumber (number : ℚ) : Text :=
  if (⌊number⌋ : ℚ) = number ∧ |number| < 10 ^ 15 then printInt 0 ⌊number⌋ else printfG number

mutual

/-- `AppendJsonValue`. -/
def appendJsonValue : Contracts.JsonValue → Text
  | .null => ascii "null"
  | .bool value => if value then ascii "true" else ascii "false"
  | .number value => appendNumber value
  | .string value => appendJsonString value
  | .array items => 91 :: (appendItems items ++ [93])
  | .object members => 123 :: (appendMembers members ++ [125])

/-- The loop over the items, with a comma in front of all but the first. -/
def appendItems : List Contracts.JsonValue → Text
  | [] => []
  | [item] => appendJsonValue item
  | item :: other :: items => appendJsonValue item ++ 44 :: appendItems (other :: items)

/-- The loop over the members. -/
def appendMembers : List (Text × Contracts.JsonValue) → Text
  | [] => []
  | [(key, item)] => appendKey key ++ appendJsonValue item
  | (key, item) :: other :: members =>
    appendKey key ++ appendJsonValue item ++ 44 :: appendMembers (other :: members)

end

/-- `SerializeReminderActionResult`. -/
def serializeReminderActionResult (result : Contracts.ReminderActionResult) : Text :=
  [123] ++ appendKey (ascii "schemaVersion") ++ appendJsonString result.schemaVersion ++ [44] ++
    appendKey (ascii "operationId") ++ appendJsonString result.operationId ++ [44] ++
    appendKey (ascii "reminderTriggerId") ++ appendJsonString result.reminderTriggerId ++ [44] ++
    appendKey (ascii "status") ++ appendJsonString result.status ++
    result.nextTriggerAt.elim [] (fun value =>
      [44] ++ appendKey (ascii "nextTriggerAt") ++ appendJsonString value) ++
    result.errorCode.elim [] (fun value =>
      [44] ++ appendKey (ascii "errorCode") ++ appendJsonString value) ++
    result.details.elim [] (fun value =>
      [44] ++ appendKey (ascii "details") ++ appendJsonValue value) ++
    [44] ++ appendKey (ascii "occurredAt") ++ appendJsonString result.occurredAt ++ [125]

/-! ## Strings -/

theorem hexValue_hexByte : ∀ digit < 16, Rfc8259.hexValue (hexByte digit) = some digit := by
  decide

/-- The writer makes every byte safe. -/
theorem escapes_wireEscape (byte : UInt8) : Escapes wireEscape byte := by
  by_cases h34 : byte = 34
  · subst h34
    exact .inr ⟨[34], rfl, fun _ => rfl⟩
  by_cases h92 : byte = 92
  · subst h92
    exact .inr ⟨[92], rfl, fun _ => rfl⟩
  by_cases h10 : byte = 10
  · subst h10
    exact .inr ⟨[110], rfl, fun _ => rfl⟩
  by_cases h13 : byte = 13
  · subst h13
    exact .inr ⟨[114], rfl, fun _ => rfl⟩
  by_cases h9 : byte = 9
  · subst h9
    exact .inr ⟨[116], rfl, fun _ => rfl⟩
  by_cases hcontrol : byte < 32
  · refine .control hexValue_hexByte hcontrol ?_
    rw [wireEscape, if_neg h34, if_neg h92, if_neg h10, if_neg h13, if_neg h9, if_pos hcontrol]
    rfl
  · refine .plain h34 h92 (UInt8.not_lt.1 hcontrol) ?_
    rw [wireEscape, if_neg h34, if_neg h92, if_neg h10, if_neg h13, if_neg h9, if_neg hcontrol]

theorem denotes_appendJsonString (value : Text) : Denotes (appendJsonString value) (.string value) :=
  Rfc8259.denotes_escaped fun byte _ => escapes_wireEscape byte

theorem isUtf8_appendJsonString {value : Text} (h : IsUtf8 value) : IsUtf8 (appendJsonString value) := by
  have hbody : IsUtf8 (value.flatMap wireEscape) := by
    apply h.flatMap
    · intro byte hbyte other hother
      have hpair : ∀ letter : UInt8, letter.toNat < 0x80 → other ∈ [92, letter] → other.toNat < 0x80 := by
        intro letter hletter hmem
        rcases List.mem_cons.1 hmem with rfl | hmem
        · decide
        · rwa [List.mem_singleton.1 hmem]
      have hhex : ∀ digit < 16, (hexByte digit).toNat < 0x80 := by
        decide
      by_cases h34 : byte = 34
      · subst h34
        exact hpair 34 (by decide) hother
      by_cases h92 : byte = 92
      · subst h92
        exact hpair 92 (by decide) hother
      by_cases h10 : byte = 10
      · subst h10
        exact hpair 110 (by decide) hother
      by_cases h13 : byte = 13
      · subst h13
        exact hpair 114 (by decide) hother
      by_cases h9 : byte = 9
      · subst h9
        exact hpair 116 (by decide) hother
      rw [wireEscape, if_neg h34, if_neg h92, if_neg h10, if_neg h13, if_neg h9] at hother
      split_ifs at hother with hcontrol
      · have hlt : byte.toNat < 32 := UInt8.lt_iff_toNat_lt.1 hcontrol
        rcases List.mem_append.1 hother with hstart | hdigits
        · exact @lt_of_mem_ascii "\\u00" rfl other hstart
        · rcases List.mem_cons.1 hdigits with rfl | hdigits
          · exact hhex _ (by omega)
          · rw [List.mem_singleton.1 hdigits]
            exact hhex _ (by omega)
      · rwa [List.mem_singleton.1 hother]
    · intro byte hbyte
      have hne : ∀ code : UInt8, code.toNat < 0x80 → byte ≠ code := by
        rintro code hcode rfl
        exact absurd hcode (not_lt.2 hbyte)
      have hcontrol : ¬byte < 32 := by
        rw [UInt8.lt_iff_toNat_lt]
        exact not_lt.2 (le_trans (by decide) hbyte)
      rw [wireEscape, if_neg (hne 34 (by decide)), if_neg (hne 92 (by decide)), if_neg (hne 10 (by decide)),
        if_neg (hne 13 (by decide)), if_neg (hne 9 (by decide)), if_neg hcontrol]
  exact (@isUtf8_byte 34 (by decide)).append (hbody.append (@isUtf8_byte 34 (by decide)))

/-! ## Numbers -/

/-- The numbers that a result may have: integers that a double holds exactly. -/
def IsWireInteger (number : ℚ) : Prop :=
  ∃ integer : ℤ, number = integer ∧ |integer| ≤ 2 ^ 53

/-- The number that is written for a number. -/
def wireNumber (number : ℚ) : ℚ :=
  if (⌊number⌋ : ℚ) = number ∧ |number| < 10 ^ 15 then number
  else SignType.sign number * ((sixDigits |number|).1 * 10 ^ ((sixDigits |number|).2 - 5))

/-- A number that is written without loss. -/
def Survives (number : ℚ) : Prop :=
  |number| < 10 ^ 15 ∨ ∃ factor : ℤ, number = factor * 10 ^ 10

/-- Six digits of a large integer. -/
theorem sixDigits_of_large {magnitude : ℚ} (hlow : 10 ^ 15 ≤ magnitude) (hhigh : magnitude ≤ 2 ^ 53) :
    (sixDigits magnitude).2 = 15 ∧
      ((sixDigits magnitude).1 : ℤ) = roundHalfEven (magnitude / 10 ^ 10) ∧
      (sixDigits magnitude).1 ≤ 900720 := by
  have hpos : 0 < magnitude := lt_of_lt_of_le (by norm_num) hlow
  have hlog : Int.log 10 magnitude = 15 := by
    have hle : 15 ≤ Int.log 10 magnitude := by
      rw [← Int.zpow_le_iff_le_log (by norm_num) hpos]
      exact_mod_cast hlow
    have hlt : Int.log 10 magnitude < 16 := by
      rw [← Int.lt_zpow_iff_log_lt (by norm_num) hpos]
      have hsmall : magnitude < 10 ^ 16 := lt_of_le_of_lt hhigh (by norm_num)
      exact_mod_cast hsmall
    omega
  have hbounds : 100000 ≤ roundHalfEven (magnitude / 10 ^ 10) ∧
      roundHalfEven (magnitude / 10 ^ 10) ≤ 900720 := by
    apply DecimalText.roundHalfEven_bounds
    · rw [le_div_iff₀ (by norm_num)]
      refine le_trans ?_ hlow
      norm_num
    · rw [div_lt_iff₀ (by norm_num)]
      refine lt_of_le_of_lt hhigh ?_
      norm_num
  have hscale : (10 : ℚ) ^ (Int.log 10 magnitude - 5) = 10 ^ 10 := by
    rw [hlog]
    norm_num
  have hnat : ((roundHalfEven (magnitude / 10 ^ 10)).toNat : ℤ) = roundHalfEven (magnitude / 10 ^ 10) :=
    Int.toNat_of_nonneg (by omega)
  have hne : (roundHalfEven (magnitude / 10 ^ 10)).toNat ≠ 1000000 := by
    omega
  have hdigits : sixDigits magnitude = ((roundHalfEven (magnitude / 10 ^ 10)).toNat, 15) := by
    unfold sixDigits
    dsimp only
    rw [hscale, if_neg hne, hlog]
  rw [hdigits]
  exact ⟨rfl, hnat, by omega⟩

theorem abs_le_of_isWireInteger {number : ℚ} (h : IsWireInteger number) : |number| ≤ 2 ^ 53 := by
  obtain ⟨integer, rfl, hle⟩ := h
  rw [← Int.cast_abs]
  exact_mod_cast hle

theorem floor_of_isWireInteger {number : ℚ} (h : IsWireInteger number) : (⌊number⌋ : ℚ) = number := by
  obtain ⟨integer, rfl, -⟩ := h
  rw [Int.floor_intCast]

/-- What is written for a large number. -/
theorem wireNumber_of_large {number : ℚ} (h : IsWireInteger number) (hlarge : ¬|number| < 10 ^ 15) :
    wireNumber number = SignType.sign number * (roundHalfEven (|number| / 10 ^ 10) * 10 ^ 10) := by
  obtain ⟨hexponent, hmantissa, -⟩ := sixDigits_of_large (not_lt.1 hlarge) (abs_le_of_isWireInteger h)
  rw [wireNumber, if_neg fun hsmall => hlarge hsmall.2, hexponent, ← hmantissa, Int.cast_natCast]
  norm_num

theorem denotes_appendNumber {number : ℚ} (h : IsWireInteger number) :
    Denotes (appendNumber number) (.number (wireNumber number)) := by
  have hfloor := floor_of_isWireInteger h
  by_cases hsmall : |number| < 10 ^ 15
  · rw [appendNumber, wireNumber, if_pos ⟨hfloor, hsmall⟩, if_pos ⟨hfloor, hsmall⟩]
    have hdenotes := Rfc8259.denotes_printInt ⌊number⌋
    rwa [hfloor] at hdenotes
  · obtain ⟨hexponent, -, hmantissa⟩ :=
      sixDigits_of_large (not_lt.1 hsmall) (abs_le_of_isWireInteger h)
    have hne : number ≠ 0 := by
      rintro rfl
      exact hsmall (by norm_num)
    rw [appendNumber, wireNumber, if_neg fun hboth => hsmall hboth.2, if_neg fun hboth => hsmall hboth.2,
      hexponent]
    have hdenotes := @Rfc8259.denotes_printfG number hne 15 hexponent (by decide) (by decide) (by omega)
    exact hdenotes

theorem isDouble_wireNumber {number : ℚ} (h : IsWireInteger number) : IsDouble (wireNumber number) := by
  by_cases hsmall : |number| < 10 ^ 15
  · rw [wireNumber, if_pos ⟨floor_of_isWireInteger h, hsmall⟩]
    obtain ⟨integer, rfl, hle⟩ := h
    exact Rfc8259.isDouble_intCast hle
  · obtain ⟨-, hmantissa, hbound⟩ :=
      sixDigits_of_large (not_lt.1 hsmall) (abs_le_of_isWireInteger h)
    have hne : number ≠ 0 := by
      rintro rfl
      exact hsmall (by norm_num)
    rw [wireNumber_of_large h hsmall, ← hmantissa]
    set mantissa := (sixDigits |number|).1
    have hle : (mantissa : ℤ) * 5 ^ 10 ≤ 2 ^ 53 := by omega
    have hvalue : ((mantissa : ℤ) : ℚ) * 10 ^ 10 = ((mantissa * 5 ^ 10 : ℤ) : ℚ) * 2 ^ (10 : ℤ) := by
      push_cast
      norm_num
      ring
    rcases lt_or_gt_of_ne hne with hneg | hpos
    · refine ⟨-(mantissa * 5 ^ 10), 10, ?_, by norm_num, by norm_num, ?_⟩
      · rw [abs_neg, abs_of_nonneg (by positivity)]
        exact hle
      · rw [sign_neg hneg, hvalue, SignType.coe_neg_one]
        push_cast
        ring
    · refine ⟨mantissa * 5 ^ 10, 10, ?_, by norm_num, by norm_num, ?_⟩
      · rw [abs_of_nonneg (by positivity)]
        exact hle
      · rw [sign_pos hpos, hvalue, SignType.coe_one]
        push_cast
        ring

/-- A number survives if and only if it is written as it is. -/
theorem wireNumber_eq_iff {number : ℚ} (h : IsWireInteger number) :
    wireNumber number = number ↔ Survives number := by
  by_cases hsmall : |number| < 10 ^ 15
  · rw [wireNumber, if_pos ⟨floor_of_isWireInteger h, hsmall⟩]
    exact iff_of_true rfl (.inl hsmall)
  · rw [wireNumber_of_large h hsmall]
    constructor
    · intro heq
      right
      refine ⟨(SignType.sign number : ℤ) * roundHalfEven (|number| / 10 ^ 10), heq.symm.trans ?_⟩
      rw [Int.cast_mul, SignType.intCast_cast, mul_assoc]
    · intro hsurvives
      obtain ⟨factor, hfactor⟩ := hsurvives.resolve_left hsmall
      have hquotient : |number| / 10 ^ 10 = ((|factor| : ℤ) : ℚ) := by
        rw [hfactor, abs_mul, Int.cast_abs, abs_of_pos (by norm_num : (0 : ℚ) < 10 ^ 10),
          mul_div_assoc, div_self (by norm_num), mul_one]
      rw [hquotient, DecimalText.roundHalfEven_intCast, ← hquotient, div_mul_cancel₀ _ (by norm_num)]
      exact sign_mul_abs number

/-! ## Values -/

theorem appendItems_eq (items : List Contracts.JsonValue) :
    appendItems items = joinTexts (items.map appendJsonValue) := by
  induction items with
  | nil => rfl
  | cons item items ih =>
      cases items with
      | nil => rfl
      | cons other items =>
          rw [appendItems, ih]
          rfl

theorem appendKey_append (key value : Text) : appendKey key ++ value = memberText (appendJsonString key) value := by
  rw [appendKey, memberText, List.append_assoc, List.singleton_append]

theorem appendMembers_eq (members : List (Text × Contracts.JsonValue)) : appendMembers members =
    joinTexts (members.map fun member => memberText (appendJsonString member.1) (appendJsonValue member.2)) := by
  induction members with
  | nil => rfl
  | cons member members ih =>
      obtain ⟨key, item⟩ := member
      cases members with
      | nil =>
          rw [appendMembers, appendKey_append]
          rfl
      | cons other members =>
          rw [appendMembers, ih, appendKey_append]
          rfl

theorem isMember_append {key value : Text} {tree : Tree} (h : Denotes value tree) :
    IsMember (memberText (appendJsonString key) value) key (some tree) := by
  refine ⟨⟨key.flatMap wireEscape, value, rfl, fun rest => ?_, h⟩⟩
  apply Rfc8259.reads_escaped (fun byte _ => escapes_wireEscape byte) rest
  rw [List.length_append]
  omega

/-- A value is written as a text of its tree. -/
theorem denotes_appendJsonValue {texts : Text → Prop} {value : Contracts.JsonValue}
    (h : value.All IsWireInteger texts) :
    Denotes (appendJsonValue value) (value.toTree wireNumber) := by
  induction value with
  | null => exact Rfc8259.denotes_null
  | bool value =>
      cases value with
      | true => exact Rfc8259.denotes_true
      | false => exact Rfc8259.denotes_false
  | number value => exact denotes_appendNumber h
  | string value => exact denotes_appendJsonString value
  | array items ih =>
      rw [Contracts.JsonValue.All, Contracts.JsonValue.allItems_iff] at h
      have harray := @Rfc8259.denotes_array
        (items.map fun item => (appendJsonValue item, item.toTree wireNumber)) fun pair hpair => by
          obtain ⟨item, hmem, rfl⟩ := List.mem_map.1 hpair
          exact ih item hmem (h item hmem)
      rw [List.map_map, List.map_map] at harray
      rw [appendJsonValue, appendItems_eq, Contracts.JsonValue.toTree, Contracts.JsonValue.toTrees_eq_map]
      exact harray
  | object members ih =>
      rw [Contracts.JsonValue.All, Contracts.JsonValue.allMembers_iff] at h
      have hobject := @Rfc8259.denotes_object
        (members.map fun member => (memberText (appendJsonString member.1) (appendJsonValue member.2),
          member.1, member.2.toTree wireNumber)) fun triple htriple => by
          obtain ⟨member, hmem, rfl⟩ := List.mem_map.1 htriple
          exact isMember_append (ih member hmem (h member hmem).2)
      rw [List.map_map, List.map_map] at hobject
      rw [appendJsonValue, appendMembers_eq, Contracts.JsonValue.toTree,
        Contracts.JsonValue.toMembers_eq_map]
      exact hobject

theorem isUtf8_appendNumber {number : ℚ} (h : IsWireInteger number) : IsUtf8 (appendNumber number) := by
  by_cases hsmall : |number| < 10 ^ 15
  · rw [appendNumber, if_pos ⟨floor_of_isWireInteger h, hsmall⟩]
    exact Rfc8259.isUtf8_printInt _
  · obtain ⟨hexponent, -, -⟩ :=
      sixDigits_of_large (not_lt.1 hsmall) (abs_le_of_isWireInteger h)
    have hne : number ≠ 0 := by
      rintro rfl
      exact hsmall (by norm_num)
    rw [appendNumber, if_neg fun hboth => hsmall hboth.2,
      @Rfc8259.printfG_of_large number hne 15 hexponent (by decide)]
    refine IsUtf8.append ?_ (Rfc8259.isUtf8_scientificText ?_ (by decide))
    · split_ifs
      · exact isUtf8_byte (by decide)
      · exact isUtf8_nil
    · exact fun byte hmem => DecimalText.isDigit_of_mem_fixedDigits hmem

theorem isUtf8_appendJsonValue {value : Contracts.JsonValue} (h : value.All IsWireInteger IsUtf8) :
    IsUtf8 (appendJsonValue value) := by
  have hbracket : ∀ {opening closing : UInt8} {text : Text}, opening.toNat < 0x80 → closing.toNat < 0x80 →
      IsUtf8 text → IsUtf8 (opening :: (text ++ [closing])) := fun hopening hclosing htext =>
    (isUtf8_byte hopening).append (htext.append (isUtf8_byte hclosing))
  have hnames : IsUtf8 (ascii "null") ∧ IsUtf8 (ascii "true") ∧ IsUtf8 (ascii "false") :=
    ⟨isUtf8_ascii rfl, isUtf8_ascii rfl, isUtf8_ascii rfl⟩
  induction value with
  | null => exact hnames.1
  | bool value =>
      cases value with
      | true => exact hnames.2.1
      | false => exact hnames.2.2
  | number value => exact isUtf8_appendNumber h
  | string value => exact isUtf8_appendJsonString h
  | array items ih =>
      rw [Contracts.JsonValue.All, Contracts.JsonValue.allItems_iff] at h
      rw [appendJsonValue, appendItems_eq]
      refine hbracket (by decide) (by decide) (Rfc8259.isUtf8_joinTexts fun text htext => ?_)
      obtain ⟨item, hmem, rfl⟩ := List.mem_map.1 htext
      exact ih item hmem (h item hmem)
  | object members ih =>
      rw [Contracts.JsonValue.All, Contracts.JsonValue.allMembers_iff] at h
      rw [appendJsonValue, appendMembers_eq]
      refine hbracket (by decide) (by decide) (Rfc8259.isUtf8_joinTexts fun text htext => ?_)
      obtain ⟨member, hmem, rfl⟩ := List.mem_map.1 htext
      obtain ⟨hkey, hvalue⟩ := h member hmem
      exact (isUtf8_appendJsonString hkey).append
        ((@isUtf8_byte 58 (by decide)).append (ih member hmem hvalue))

/-! ## Results -/

/-- The fields of a result, as they are written. -/
def resultFields (result : Contracts.ReminderActionResult) : List (Text × Option Contracts.JsonValue) :=
  [(ascii "schemaVersion", some (.string result.schemaVersion)),
    (ascii "operationId", some (.string result.operationId)),
    (ascii "reminderTriggerId", some (.string result.reminderTriggerId)),
    (ascii "status", some (.string result.status)),
    (ascii "nextTriggerAt", result.nextTriggerAt.map .string),
    (ascii "errorCode", result.errorCode.map .string),
    (ascii "details", result.details),
    (ascii "occurredAt", some (.string result.occurredAt))]

theorem nodup_resultFields (result : Contracts.ReminderActionResult) :
    ((resultFields result).map Prod.fst).Nodup := by
  have hkeys : [ascii "schemaVersion", ascii "operationId", ascii "reminderTriggerId", ascii "status",
      ascii "nextTriggerAt", ascii "errorCode", ascii "details", ascii "occurredAt"].Nodup := by
    decide
  exact hkeys

/-- A result is written as the object of its fields. -/
theorem serializeReminderActionResult_eq (result : Contracts.ReminderActionResult) :
    serializeReminderActionResult result =
      appendJsonValue (.object (presentMembers (resultFields result))) := by
  unfold serializeReminderActionResult resultFields
  generalize ascii "schemaVersion" = version, ascii "operationId" = operation,
    ascii "reminderTriggerId" = trigger, ascii "status" = status, ascii "nextTriggerAt" = next,
    ascii "errorCode" = error, ascii "details" = details, ascii "occurredAt" = occurred
  cases result.nextTriggerAt <;> cases result.errorCode <;> cases result.details <;>
    simp [presentMembers, appendJsonValue, appendMembers, appendKey]

/-- The texts of a result. -/
def resultTexts (result : Contracts.ReminderActionResult) : List Text :=
  [result.schemaVersion, result.operationId, result.reminderTriggerId, result.status, result.occurredAt] ++
    result.nextTriggerAt.toList ++ result.errorCode.toList

variable {result : Contracts.ReminderActionResult}

theorem isUtf8_key {field : Text × Option Contracts.JsonValue}
    (h : field ∈ resultFields result) : IsUtf8 field.1 := by
  have hkeys : ∀ key ∈ ["schemaVersion", "operationId", "reminderTriggerId", "status", "nextTriggerAt",
      "errorCode", "details", "occurredAt"], (key.toList.all fun c => c.toNat < 0x80) = true := by
    decide
  have hmem : field.1 ∈ (resultFields result).map Prod.fst := List.mem_map_of_mem h
  obtain ⟨key, hkey, heq⟩ := List.mem_map.1 (show field.1 ∈ ["schemaVersion", "operationId",
    "reminderTriggerId", "status", "nextTriggerAt", "errorCode", "details", "occurredAt"].map ascii from hmem)
  rw [← heq]
  exact isUtf8_ascii (hkeys key hkey)

/-- The values of a result are its texts and its details. -/
theorem resultFields_cases {key : Text}
    {value : Contracts.JsonValue} (h : (key, some value) ∈ resultFields result) :
    (∃ text ∈ resultTexts result, value = .string text) ∨ result.details = some value := by
  simp only [resultFields, List.mem_cons, Prod.mk.injEq, Option.some.injEq, List.not_mem_nil,
    or_false] at h
  rcases h with ⟨-, rfl⟩ | ⟨-, rfl⟩ | ⟨-, rfl⟩ | ⟨-, rfl⟩ | ⟨-, h⟩ | ⟨-, h⟩ | ⟨-, h⟩ | ⟨-, rfl⟩
  · exact .inl ⟨_, by simp [resultTexts], rfl⟩
  · exact .inl ⟨_, by simp [resultTexts], rfl⟩
  · exact .inl ⟨_, by simp [resultTexts], rfl⟩
  · exact .inl ⟨_, by simp [resultTexts], rfl⟩
  · obtain ⟨text, htext, rfl⟩ := Option.map_eq_some_iff.1 h.symm
    exact .inl ⟨text, by simp [resultTexts, htext], rfl⟩
  · obtain ⟨text, htext, rfl⟩ := Option.map_eq_some_iff.1 h.symm
    exact .inl ⟨text, by simp [resultTexts, htext], rfl⟩
  · exact .inr h.symm
  · exact .inl ⟨_, by simp [resultTexts], rfl⟩

/-- The object that the text of a result stands for. -/
def resultTree (result : Contracts.ReminderActionResult) : Tree :=
  Contracts.JsonValue.toTree wireNumber (.object (presentMembers (resultFields result)))

theorem interoperable_resultTree
    (hdetails : ∀ value ∈ result.details, value.Ordered ∧ value.All IsWireInteger IsUtf8) :
    (resultTree result).Interoperable := by
  apply interoperable_presentMembers (nodup_resultFields result)
  rintro ⟨key, value⟩ hfield found rfl
  rcases resultFields_cases hfield with ⟨text, -, rfl⟩ | hvalue
  · exact trivial
  · obtain ⟨hordered, hall⟩ := hdetails found hvalue
    exact Contracts.JsonValue.interoperable_toTree hordered
      (hall.imp (fun number hnumber => isDouble_wireNumber hnumber) fun _ h => h)

theorem all_resultFields (htexts : ∀ text ∈ resultTexts result, IsUtf8 text)
    (hdetails : ∀ value ∈ result.details, value.Ordered ∧ value.All IsWireInteger IsUtf8) :
    Contracts.JsonValue.All IsWireInteger IsUtf8 (.object (presentMembers (resultFields result))) := by
  rw [Contracts.JsonValue.All, Contracts.JsonValue.allMembers_iff]
  intro member hmember
  have hfield := mem_presentMembers.1 hmember
  refine ⟨isUtf8_key hfield, ?_⟩
  rcases resultFields_cases hfield with ⟨text, htext, heq⟩ | hvalue
  · rw [heq]
    exact htexts text htext
  · exact (hdetails _ hvalue).2

/-- The text of a valid result is parsed to its object. -/
theorem parseJson_result {read : JsonReader} (hread : FollowsRfc8259 read)
    (htexts : ∀ text ∈ resultTexts result, IsUtf8 text)
    (hdetails : ∀ value ∈ result.details, value.Ordered ∧ value.All IsWireInteger IsUtf8)
    (hlimits : WithinDefaultLimits (serializeReminderActionResult result)) :
    parseJson read (serializeReminderActionResult result) =
      .ok (Contracts.JsonValue.ofTree (resultTree result)) := by
  have hall := all_resultFields htexts hdetails
  rw [serializeReminderActionResult_eq] at hlimits ⊢
  exact parseJson_denotes hread (denotes_appendJsonValue hall) (isUtf8_appendJsonValue hall)
    (interoperable_resultTree hdetails) hlimits

/-- The fields of the object that is read. -/
theorem get_resultTree {key : Text}
    {value : Option Contracts.JsonValue} (h : (key, value) ∈ resultFields result) :
    (Contracts.JsonValue.ofTree (resultTree result)).get key =
      value.map fun value => Contracts.JsonValue.ofTree (value.toTree wireNumber) :=
  get_ofTree_toTree (nodup_resultFields result) h

/-- What was accepted is accepted again, if the details are the same. -/
theorem isResult_resultTree_iff {root : Contracts.JsonValue}
    (h : IsResult root result) : IsResult (Contracts.JsonValue.ofTree (resultTree result)) result ↔
      result.details.map (fun value => Contracts.JsonValue.ofTree (value.toTree wireNumber)) =
        result.details := by
  have htext : ∀ {text : Option Text}, (text.map Contracts.JsonValue.string).map
      (fun value => Contracts.JsonValue.ofTree (value.toTree wireNumber)) = text.map .string := by
    intro text
    cases text <;> rfl
  constructor
  · intro hresult
    rw [← get_resultTree (by simp [resultFields] : (ascii "details", result.details) ∈ resultFields result)]
    exact hresult.details.1
  · intro hsame
    have hversion := @get_resultTree result (ascii "schemaVersion") (some (.string result.schemaVersion))
      (by simp [resultFields])
    have hoperation := @get_resultTree result (ascii "operationId") (some (.string result.operationId))
      (by simp [resultFields])
    have htrigger := @get_resultTree result (ascii "reminderTriggerId")
      (some (.string result.reminderTriggerId)) (by simp [resultFields])
    have hstatus := @get_resultTree result (ascii "status") (some (.string result.status))
      (by simp [resultFields])
    have hnext := @get_resultTree result (ascii "nextTriggerAt") (result.nextTriggerAt.map .string)
      (by simp [resultFields])
    have herror := @get_resultTree result (ascii "errorCode") (result.errorCode.map .string)
      (by simp [resultFields])
    have hoccurred := @get_resultTree result (ascii "occurredAt") (some (.string result.occurredAt))
      (by simp [resultFields])
    have hdetails := @get_resultTree result (ascii "details") result.details (by simp [resultFields])
    exact ⟨rfl, ⟨hversion, h.schemaVersion.2⟩, ⟨hoperation, h.operationId.2⟩,
      ⟨htrigger, h.reminderTriggerId.2⟩, ⟨hstatus, h.status.2⟩, ⟨hnext.trans htext, h.nextTriggerAt.2⟩,
      ⟨herror.trans htext, h.errorCode.2⟩, ⟨hdetails.trans hsame, h.details.2⟩,
      ⟨hoccurred, h.occurredAt.2⟩⟩

/-- The two parsers after the writer read the fields of the result's tree. -/
theorem parse_serialized (read : JsonReader) (hread : FollowsRfc8259 read)
    (result : Contracts.ReminderActionResult) (htexts : ∀ text ∈ resultTexts result, IsUtf8 text)
    (hdetails : ∀ value ∈ result.details, value.Ordered ∧ value.All IsWireInteger IsUtf8)
    (hlimits : WithinDefaultLimits (serializeReminderActionResult result)) :
    (parseJson read (serializeReminderActionResult result) >>= parseReminderActionResult) =
      parseReminderActionResult (Contracts.JsonValue.ofTree (resultTree result)) := by
  rw [parseJson_result hread htexts hdetails hlimits]
  rfl

/-- A result comes back if and only if its details have no number of more than six digits from 10^15 on. -/
theorem result_roundtrip_iff (read : JsonReader) (hread : FollowsRfc8259 read) (root : Contracts.JsonValue)
    (result : Contracts.ReminderActionResult) (haccepted : parseReminderActionResult root = .ok result)
    (htexts : ∀ text ∈ resultTexts result, IsUtf8 text)
    (hdetails : ∀ value ∈ result.details, value.Ordered ∧ value.All IsWireInteger IsUtf8)
    (hlimits : WithinDefaultLimits (serializeReminderActionResult result)) :
    (parseJson read (serializeReminderActionResult result) >>= parseReminderActionResult) = .ok result ↔
      ∀ value ∈ result.details, value.All Survives fun _ => True := by
  rw [parse_serialized read hread result htexts hdetails hlimits, parseReminderActionResult_ok_iff, isResult_resultTree_iff (parseReminderActionResult_ok_iff.1 haccepted)]
  cases hvalue : result.details with
  | none => exact iff_of_true rfl fun _ h => by cases h
  | some value =>
      obtain ⟨hordered, hall⟩ := hdetails value hvalue
      rw [Option.map_some, Option.some.injEq, Contracts.JsonValue.ofTree_toTree_iff hordered]
      constructor
      · intro hsame other hother
        rw [← Option.some.inj hother]
        exact (hall.and hsame).imp (fun number h => (wireNumber_eq_iff h.1).1 h.2) fun _ _ => trivial
      · intro hsurvive
        exact (hall.and (hsurvive value rfl)).imp (fun number h => (wireNumber_eq_iff h.1).2 h.2)
          fun _ _ => trivial

/-! ## Two results -/

/-- A result with one number in its details. -/
def countResult (count : ℚ) : Contracts.ReminderActionResult where
  schemaVersion := kDeviceContractVersion
  operationId := ascii "op-1"
  reminderTriggerId := ascii "trigger-1"
  status := ascii "succeeded"
  nextTriggerAt := none
  errorCode := none
  details := some (.object [(ascii "count", .number count)])
  occurredAt := ascii "2026-08-17T09:00:00Z"

/-- The object that it is read from. -/
def countRoot (count : ℚ) : Contracts.JsonValue :=
  .object
    [(ascii "details", .object [(ascii "count", .number count)]),
      (ascii "occurredAt", .string (ascii "2026-08-17T09:00:00Z")),
      (ascii "operationId", .string (ascii "op-1")),
      (ascii "reminderTriggerId", .string (ascii "trigger-1")),
      (ascii "schemaVersion", .string kDeviceContractVersion),
      (ascii "status", .string (ascii "succeeded"))]

theorem countResult_accepted (count : ℚ) :
    parseReminderActionResult (countRoot count) = .ok (countResult count) := by
  rfl

theorem countResult_texts (count : ℚ) : ∀ text ∈ resultTexts (countResult count), IsUtf8 text := by
  refine List.forall_mem_cons.2 ⟨isUtf8_ascii rfl, List.forall_mem_cons.2 ⟨isUtf8_ascii rfl, ?_⟩⟩
  refine List.forall_mem_cons.2 ⟨isUtf8_ascii rfl, List.forall_mem_cons.2 ⟨isUtf8_ascii rfl, ?_⟩⟩
  exact List.forall_mem_singleton.2 (isUtf8_ascii rfl)

theorem countResult_details {count : ℚ} (h : IsWireInteger count) :
    ∀ value ∈ (countResult count).details, value.Ordered ∧ value.All IsWireInteger IsUtf8 := by
  rintro value hvalue
  rw [← Option.some.inj hvalue]
  refine ⟨⟨List.pairwise_singleton _ _, trivial, trivial⟩, ⟨isUtf8_ascii rfl, h⟩, trivial⟩

theorem countResult_limits {count : ℚ} (h : IsWireInteger count)
    (hlength : (serializeReminderActionResult (countResult count)).length ≤ 32 * 1024) :
    WithinDefaultLimits (serializeReminderActionResult (countResult count)) := by
  refine ⟨hlength, resultTree (countResult count), ?_, ?_, ?_⟩
  · rw [serializeReminderActionResult_eq]
    exact (denotes_appendJsonValue (all_resultFields (countResult_texts count)
      (countResult_details h))).read
  · -- every limit is one on a closed length or depth
    repeat' refine And.intro ?_ ?_
    all_goals first
      | exact trivial
      | exact Nat.le_of_ble_eq_true rfl
  · exact (by decide : 8 ≤ 512)

theorem small_count_comes_back :
    (parseJson grammarReader (serializeReminderActionResult (countResult 123456789012345)) >>=
      parseReminderActionResult) = .ok (countResult 123456789012345) := by
  have hcount : IsWireInteger 123456789012345 := ⟨123456789012345, by norm_num, by decide⟩
  have hlimits := countResult_limits hcount (by decide +kernel)
  refine (result_roundtrip_iff grammarReader followsRfc8259_grammarReader _ _ (countResult_accepted _)
    (countResult_texts _) (countResult_details hcount) hlimits).2 ?_
  rintro value hvalue
  rw [← Option.some.inj hvalue]
  exact ⟨⟨trivial, .inl (by norm_num [abs_of_pos])⟩, trivial⟩

/-- 9007199254740991 is written as `9.0072e+15`. -/
theorem large_count_lost :
    ¬(parseJson grammarReader (serializeReminderActionResult (countResult 9007199254740991)) >>=
      parseReminderActionResult) = .ok (countResult 9007199254740991) := by
  have hcount : IsWireInteger 9007199254740991 := ⟨9007199254740991, by norm_num, by decide⟩
  rw [parse_serialized grammarReader followsRfc8259_grammarReader _ (countResult_texts _)
    (countResult_details hcount) (countResult_limits hcount (by decide +kernel))]
  intro h
  have hresult := parseReminderActionResult_ok_iff.1 h
  have hsame := (isResult_resultTree_iff
    (parseReminderActionResult_ok_iff.1 (countResult_accepted 9007199254740991))).1 hresult
  have hordered := (countResult_details hcount _ rfl).1
  have hnumbers := (Contracts.JsonValue.ofTree_toTree_iff hordered).1 (Option.some.inj hsame)
  rcases (wireNumber_eq_iff hcount).1 hnumbers.1.2 with hsmall | ⟨factor, hfactor⟩
  · norm_num at hsmall
  · have hinteger : (9007199254740991 : ℤ) = factor * 10 ^ 10 := by exact_mod_cast hfactor
    omega

end VoiceLife.Im
