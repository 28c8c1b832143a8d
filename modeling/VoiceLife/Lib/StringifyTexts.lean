import VoiceLife.Lib.JsonTexts

/-! # Texts of `JSON.stringify`

A value whose strings are well formed and whose numbers are integers is written as a text that denotes it
(`denotes_stringify`). No text of `JSON.stringify` has a control character.
-/

open DecimalText (Text ascii)
open Rfc8259

namespace JsonValue

/-- Induction over a value: every item and the value of every field is covered. -/
@[elab_as_elim]
theorem induction {motive : JsonValue → Prop} (null : motive .null) (bool : ∀ value, motive (.bool value))
    (number : ∀ value, motive (.number value)) (string : ∀ value, motive (.string value))
    (array : ∀ items, (∀ item ∈ items, motive item) → motive (.array items))
    (object : ∀ fields, (∀ field ∈ fields, motive field.2) → motive (.object fields))
    (value : JsonValue) : motive value :=
  @JsonValue.rec motive (fun items => ∀ item ∈ items, motive item)
    (fun fields => ∀ field ∈ fields, motive field.2) (fun field => motive field.2)
    null bool number string array object
    (List.forall_mem_nil _) (fun _ _ hhead htail => List.forall_mem_cons.2 ⟨hhead, htail⟩)
    (List.forall_mem_nil _) (fun _ _ hhead htail => List.forall_mem_cons.2 ⟨hhead, htail⟩)
    (fun _ _ hvalue => hvalue) value

/-! ## Lists -/

theorem portableItems_iff {items : List JsonValue} :
    PortableItems items ↔ ∀ item ∈ items, item.Portable := by
  induction items with
  | nil => exact iff_of_true trivial (List.forall_mem_nil _)
  | cons item items ih => rw [PortableItems, ih, List.forall_mem_cons]

theorem portableFields_iff {fields : List (JsString × JsonValue)} :
    PortableFields fields ↔ ∀ field ∈ fields, isWellFormed field.1 = true ∧ field.2.Portable := by
  induction fields with
  | nil => exact iff_of_true trivial (List.forall_mem_nil _)
  | cons field fields ih => rw [PortableFields, ih, List.forall_mem_cons]

theorem toTrees_eq_map (items : List JsonValue) : toTrees items = items.map toTree := by
  induction items with
  | nil => rfl
  | cons item items ih => rw [toTrees, ih, List.map_cons]

theorem toMembers_eq_map (fields : List (JsString × JsonValue)) :
    toMembers fields = fields.map fun field => (utf8 field.1, field.2.toTree) := by
  induction fields with
  | nil => rfl
  | cons field fields ih => rw [toMembers, ih, List.map_cons]

/-! ## Well-formed texts -/

theorem isWellFormed_numberText (number : JsNumber) : isWellFormed number.text = true := by
  apply isWellFormed_of_ascii
  intro unit hunit
  have hnumber := number.text_isNumberUnit hunit
  simp only [JsNumber.isNumberUnit, JsNumber.isDigit, Bool.or_eq_true, Bool.and_eq_true,
    decide_eq_true_eq] at hnumber
  rcases hnumber with (((⟨-, hle⟩ | rfl) | rfl) | rfl) | rfl
  · exact decide_eq_true ((Fin.le_def.1 hle).trans_lt (by decide))
  all_goals rfl

/-- The items are joined by commas in UTF-8, too. -/
theorem stringifyItems_spec {items : List JsonValue}
    (h : ∀ item ∈ items, isWellFormed item.stringify = true) :
    isWellFormed (stringifyItems items) = true ∧
      utf8 (stringifyItems items) = joinTexts (items.map fun item => utf8 item.stringify) := by
  induction items with
  | nil => exact ⟨rfl, rfl⟩
  | cons item items ih =>
      have hitem := h item List.mem_cons_self
      have hrest := ih fun other hmem => h other (List.mem_cons_of_mem _ hmem)
      cases items with
      | nil => exact ⟨hitem, rfl⟩
      | cons other items =>
          rw [stringifyItems, utf8_append hitem, utf8_ascii_cons rfl, hrest.2]
          refine ⟨isWellFormed_append hitem ?_, rfl⟩
          rw [isWellFormed_cons rfl]
          exact hrest.1

/-- The text of a field is that of a member. -/
theorem stringifyField_spec {field : JsString × JsonValue} (hkey : isWellFormed field.1 = true)
    (hvalue : isWellFormed field.2.stringify = true) :
    isWellFormed (quoteJson field.1 ++ 58 :: field.2.stringify) = true ∧
      utf8 (quoteJson field.1 ++ 58 :: field.2.stringify) =
        memberText (utf8 (quoteJson field.1)) (utf8 field.2.stringify) := by
  rw [utf8_append (isWellFormed_quoteJson hkey), utf8_ascii_cons rfl]
  refine ⟨isWellFormed_append (isWellFormed_quoteJson hkey) ?_, rfl⟩
  rw [isWellFormed_cons rfl]
  exact hvalue

theorem stringifyFields_spec {fields : List (JsString × JsonValue)}
    (h : ∀ field ∈ fields, isWellFormed field.1 = true ∧ isWellFormed field.2.stringify = true) :
    isWellFormed (stringifyFields fields) = true ∧ utf8 (stringifyFields fields) =
      joinTexts (fields.map fun field => memberText (utf8 (quoteJson field.1)) (utf8 field.2.stringify)) := by
  induction fields with
  | nil => exact ⟨rfl, rfl⟩
  | cons field fields ih =>
      have hfield := h field List.mem_cons_self
      have hspec := stringifyField_spec hfield.1 hfield.2
      have hrest := ih fun other hmem => h other (List.mem_cons_of_mem _ hmem)
      cases fields with
      | nil => exact hspec
      | cons other fields =>
          have htext : stringifyFields (field :: other :: fields) =
              (quoteJson field.1 ++ 58 :: field.2.stringify) ++ 44 :: stringifyFields (other :: fields) := by
            rw [stringifyFields, List.append_assoc, List.cons_append]
          rw [htext, utf8_append hspec.1, hspec.2, utf8_ascii_cons rfl, hrest.2]
          refine ⟨isWellFormed_append hspec.1 ?_, rfl⟩
          rw [isWellFormed_cons rfl]
          exact hrest.1

/-- A text between two brackets. -/
theorem bracket_spec {opening closing : CodeUnit} (hopening : isAscii opening = true)
    (hclosing : isAscii closing = true) {text : JsString} (h : isWellFormed text = true) :
    isWellFormed (opening :: (text ++ [closing])) = true ∧
      utf8 (opening :: (text ++ [closing])) =
        asciiByte opening :: (utf8 text ++ [asciiByte closing]) := by
  have hlast : isWellFormed [closing] = true := isWellFormed_of_ascii (by simpa using hclosing)
  rw [utf8_ascii_cons hopening, utf8_append h, utf8_ascii_cons hclosing,
    isWellFormed_cons (isSurrogate_of_isAscii hopening)]
  exact ⟨isWellFormed_append h hlast, rfl⟩

theorem isWellFormed_stringify {value : JsonValue} (h : value.Portable) :
    isWellFormed value.stringify = true := by
  induction value using induction with
  | null => rfl
  | bool value => cases value <;> rfl
  | number value => exact isWellFormed_numberText value
  | string value => exact isWellFormed_quoteJson h
  | array items ih =>
      have hitems := portableItems_iff.1 h
      exact (bracket_spec rfl rfl
        (stringifyItems_spec fun item hmem => ih item hmem (hitems item hmem)).1).1
  | object fields ih =>
      have hfields := portableFields_iff.1 h
      exact (bracket_spec rfl rfl (stringifyFields_spec fun field hmem =>
        ⟨(hfields field hmem).1, ih field hmem (hfields field hmem).2⟩).1).1

theorem isUtf8_stringify {value : JsonValue} (h : value.Portable) : IsUtf8 (utf8 value.stringify) :=
  isUtf8_utf8 (isWellFormed_stringify h)

/-! ## What the texts denote -/

theorem denotes_numberText {number : JsNumber} (hinteger : number.isInteger = true)
    (hlt : |number.toInt| < 10 ^ 21) :
    Denotes (utf8 number.text) (.number (number.mantissa * 10 ^ number.exponent)) := by
  refine denotes_number ?_ fun rest hrest => JsNumber.readNumber_text hinteger hlt hrest
  obtain ⟨digits, hdigits, htext⟩ := JsNumber.text_of_isInteger hinteger hlt
  obtain ⟨unit, tail, rfl⟩ := List.exists_cons_of_ne_nil hdigits.ne_nil
  have hunit := isDigit_asciiByte (hdigits.allDigits unit List.mem_cons_self)
  rw [htext]
  by_cases hneg : number.mantissa < 0
  · rw [if_pos hneg, utf8_ascii_cons rfl]
    exact ⟨45, rfl, rfl⟩
  · rw [if_neg hneg, utf8_ascii_cons hunit.1]
    exact ⟨asciiByte unit, rfl, by rw [startsNumber, hunit.2.1, Bool.or_true]⟩

/-- What `JSON.stringify` writes denotes the value. -/
theorem denotes_stringify {value : JsonValue} (h : value.Portable) :
    Denotes (utf8 value.stringify) value.toTree := by
  induction value using induction with
  | null => exact denotes_null
  | bool value =>
      cases value with
      | true => exact denotes_true
      | false => exact denotes_false
  | number value => exact denotes_numberText h.1 h.2
  | string value =>
      rw [stringify, utf8_quoteJson h]
      exact denotes_string (readString_quoteUnits h)
  | array items ih =>
      have hitems := portableItems_iff.1 h
      have hspec := stringifyItems_spec fun item hmem => isWellFormed_stringify (hitems item hmem)
      have harray := @denotes_array (items.map fun item => (utf8 item.stringify, item.toTree)) (by
        intro pair hpair
        obtain ⟨item, hmem, rfl⟩ := List.mem_map.1 hpair
        exact ih item hmem (hitems item hmem))
      rw [List.map_map, List.map_map] at harray
      rw [stringify, (bracket_spec rfl rfl hspec.1).2, hspec.2, toTree, toTrees_eq_map]
      exact harray
  | object fields ih =>
      have hfields := portableFields_iff.1 h
      have hspec := stringifyFields_spec fun field hmem =>
        ⟨(hfields field hmem).1, isWellFormed_stringify (hfields field hmem).2⟩
      have hobject := @denotes_object (fields.map fun field =>
        (memberText (utf8 (quoteJson field.1)) (utf8 field.2.stringify), utf8 field.1, field.2.toTree)) (by
          intro member hmember
          obtain ⟨field, hmem, rfl⟩ := List.mem_map.1 hmember
          have hkey := (hfields field hmem).1
          refine ⟨utf8 (quoteUnits field.1), utf8 field.2.stringify, ?_, readString_quoteUnits hkey,
            ih field hmem (hfields field hmem).2⟩
          rw [utf8_quoteJson hkey])
      rw [List.map_map, List.map_map] at hobject
      rw [stringify, (bracket_spec rfl rfl hspec.1).2, hspec.2, toTree, toMembers_eq_map]
      exact hobject

/-! ## Control characters -/

/-- No unit is a control character. -/
def Printable (text : JsString) : Prop :=
  ∀ unit ∈ text, 32 ≤ unit.val

theorem Printable.append {left right : JsString} (hleft : Printable left) (hright : Printable right) :
    Printable (left ++ right) := by
  intro unit hunit
  rcases List.mem_append.1 hunit with h | h
  · exact hleft unit h
  · exact hright unit h

theorem Printable.cons {unit : CodeUnit} {text : JsString} (hunit : 32 ≤ unit.val)
    (htext : Printable text) : Printable (unit :: text) := by
  intro other hother
  rcases List.mem_cons.1 hother with rfl | h
  · exact hunit
  · exact htext other h

/-- A text is without control characters if its characters are. -/
theorem printable_js (text : String) (h : ∀ character ∈ text.toList, 32 ≤ character.toNat % 65536) :
    Printable (js text) := by
  intro unit hunit
  obtain ⟨character, hmem, rfl⟩ := List.mem_map.1 hunit
  exact h character hmem

theorem printable_unicodeEscape (unit : CodeUnit) : Printable (unicodeEscape unit) := by
  have hdigit : ∀ n < 16, 32 ≤ (hexDigit n).val := by
    decide
  have hlt := unit.isLt
  exact .cons (by decide) (.cons (by decide) (.cons (hdigit _ (by omega)) (.cons (hdigit _ (by omega))
    (.cons (hdigit _ (by omega)) (.cons (hdigit _ (by omega)) (List.forall_mem_nil _))))))

theorem printable_quoteUnit (unit : CodeUnit) : Printable (quoteUnit unit) := by
  have hletters : ∀ escape ∈ letterEscapes, 32 ≤ escape.2.val :=
    List.all_iff_forall_prop.1 (by decide)
  rcases quoteUnit_cases unit with ⟨letter, hmem, hquote⟩ | hquote | ⟨hquote, hprintable, -⟩
  · rw [hquote]
    exact .cons (by decide) (.cons (hletters _ hmem) (List.forall_mem_nil _))
  · rw [hquote]
    exact printable_unicodeEscape unit
  · rw [hquote]
    exact .cons hprintable (List.forall_mem_nil _)

theorem printable_quoteUnits (text : JsString) : Printable (quoteUnits text) := by
  induction text using quoteUnits.induct with
  | case1 => exact List.forall_mem_nil _
  | case2 unit => exact printable_quoteUnit unit
  | case3 high low rest hpair ih =>
      rw [quoteUnits, if_pos hpair]
      simp only [isHighSurrogate, isLowSurrogate, Bool.and_eq_true, decide_eq_true_eq] at hpair
      have hhigh : 0xd800 ≤ high.val := hpair.1.1
      have hlow : 0xdc00 ≤ low.val := hpair.2.1
      exact .cons (by omega) (.cons (by omega) ih)
  | case4 high low rest hpair ih =>
      rw [quoteUnits, if_neg hpair]
      exact (printable_quoteUnit high).append ih

theorem printable_quoteJson (text : JsString) : Printable (quoteJson text) :=
  .cons (by decide) ((printable_quoteUnits text).append (.cons (by decide) (List.forall_mem_nil _)))

theorem printable_stringifyItems {items : List JsonValue} (h : ∀ item ∈ items, Printable item.stringify) :
    Printable (stringifyItems items) := by
  induction items with
  | nil => exact List.forall_mem_nil _
  | cons item items ih =>
      have hitem := h item List.mem_cons_self
      have hrest := ih fun other hmem => h other (List.mem_cons_of_mem _ hmem)
      cases items with
      | nil => exact hitem
      | cons other items => exact hitem.append (.cons (by decide) hrest)

theorem printable_stringifyFields {fields : List (JsString × JsonValue)}
    (h : ∀ field ∈ fields, Printable field.2.stringify) : Printable (stringifyFields fields) := by
  induction fields with
  | nil => exact List.forall_mem_nil _
  | cons field fields ih =>
      have hvalue := h field List.mem_cons_self
      have hrest := ih fun other hmem => h other (List.mem_cons_of_mem _ hmem)
      have hkey := printable_quoteJson field.1
      cases fields with
      | nil => exact hkey.append (.cons (by decide) hvalue)
      | cons other fields =>
          exact hkey.append (.cons (by decide) (hvalue.append (.cons (by decide) hrest)))

theorem printable_stringify (value : JsonValue) : Printable value.stringify := by
  induction value using induction with
  | null => exact printable_js "null" (by simp)
  | bool value =>
      cases value with
      | true => exact printable_js "true" (by simp)
      | false => exact printable_js "false" (by simp)
  | number value =>
      intro unit hunit
      have hnumber := value.text_isNumberUnit hunit
      simp only [JsNumber.isNumberUnit, JsNumber.isDigit, Bool.or_eq_true, Bool.and_eq_true,
        decide_eq_true_eq] at hnumber
      rcases hnumber with (((⟨hle, -⟩ | rfl) | rfl) | rfl) | rfl
      · exact le_trans (by decide) (Fin.le_def.1 hle)
      all_goals decide
  | string value => exact printable_quoteJson value
  | array items ih =>
      exact .cons (by decide) ((printable_stringifyItems ih).append (.cons (by decide) (List.forall_mem_nil _)))
  | object fields ih =>
      exact .cons (by decide) ((printable_stringifyFields ih).append (.cons (by decide) (List.forall_mem_nil _)))

/-- A byte of a text without control characters is none either. -/
theorem Printable.le_of_mem {text : JsString} (h : Printable text) {byte : UInt8} (hbyte : byte ∈ utf8 text) :
    32 ≤ byte.toNat := by
  rcases mem_utf8 hbyte with ⟨unit, hunit, -, heq⟩ | hle
  · rw [heq]
    exact h unit hunit
  · omega

end JsonValue
