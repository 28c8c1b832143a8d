import VoiceLife.Lib.JsText

/-! # JSON values

The values that `JSON.parse` returns. An object is a list of fields; `WellFormed` says that no object
has a key twice, and `Same` compares values without regard to the order of the fields.
-/

/-- A JSON value. -/
inductive JsonValue where
  | null
  | bool (value : Bool)
  | number (value : JsNumber)
  | string (value : JsString)
  | array (items : List JsonValue)
  | object (fields : List (JsString × JsonValue))

namespace JsonValue

mutual

/-- No object inside has a key twice. -/
def WellFormed : JsonValue → Prop
  | .array items => WellFormedItems items
  | .object fields => (fields.map Prod.fst).Nodup ∧ WellFormedFields fields
  | _ => True

/-- `WellFormed` for every item. -/
def WellFormedItems : List JsonValue → Prop
  | [] => True
  | item :: items => item.WellFormed ∧ WellFormedItems items

/-- `WellFormed` for the value of every field. -/
def WellFormedFields : List (JsString × JsonValue) → Prop
  | [] => True
  | (_, value) :: fields => value.WellFormed ∧ WellFormedFields fields

end

mutual

/-- The same value, up to the order of fields. -/
def Same : JsonValue → JsonValue → Prop
  | .null, .null => True
  | .bool left, .bool right => left = right
  | .number left, .number right => left = right
  | .string left, .string right => left = right
  | .array left, .array right => SameItems left right
  | .object left, .object right => left.length = right.length ∧ SameFields left right
  | _, _ => False

/-- Equally many items, the same at each place. -/
def SameItems : List JsonValue → List JsonValue → Prop
  | [], [] => True
  | item :: items, other :: others => Same item other ∧ SameItems items others
  | _, _ => False

/-- Every field on the left has a field on the right with its key and the same value. -/
def SameFields : List (JsString × JsonValue) → List (JsString × JsonValue) → Prop
  | [], _ => True
  | (key, value) :: fields, others =>
    (∃ other, (key, other) ∈ others ∧ Same value other) ∧ SameFields fields others

end

/-- The value of a field of an object. -/
def get? (value : JsonValue) (key : JsString) : Option JsonValue :=
  match value with
  | .object fields => fields.lookup key
  | _ => none

theorem wellFormedItems_iff {items : List JsonValue} :
    WellFormedItems items ↔ ∀ item ∈ items, item.WellFormed := by
  induction items with
  | nil => simp [WellFormedItems]
  | cons item items ih => simp [WellFormedItems, ih]

theorem wellFormedFields_iff {fields : List (JsString × JsonValue)} :
    WellFormedFields fields ↔ ∀ field ∈ fields, field.2.WellFormed := by
  induction fields with
  | nil => simp [WellFormedFields]
  | cons field fields ih => simp [WellFormedFields, ih]

theorem sameItems_iff {items others : List JsonValue} :
    SameItems items others ↔ List.Forall₂ Same items others := by
  induction items generalizing others with
  | nil => cases others <;> simp [SameItems]
  | cons item items ih => cases others <;> simp [SameItems, ih]

theorem sameFields_iff {fields others : List (JsString × JsonValue)} :
    SameFields fields others ↔
      ∀ field ∈ fields, ∃ other, (field.1, other) ∈ others ∧ Same field.2 other := by
  induction fields with
  | nil => simp [SameFields]
  | cons field fields ih => simp [SameFields, ih]

end JsonValue

/-- A JSON value without repeated keys. -/
structure Json where
  value : JsonValue
  wellFormed : value.WellFormed
