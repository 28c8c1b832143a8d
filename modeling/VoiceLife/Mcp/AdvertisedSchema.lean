import VoiceLife.Lib.JsonSchema
import VoiceLife.Mcp.ObjectChecks

/-! # What an advertised schema says

The schema that `AppendInputField` writes for an object accepts what the checks of its properties accept,
with one exception: it wants an object for every member of type `object`, and the check inside an object takes
anything for a member without fields of its own (`objectAdvertised_iff`).
-/

open DecimalText (Text ascii)
open Rfc8259 (Tree)
open JsonSchema

namespace VoiceLife.Mcp

open Contracts

/-- Every member of type `object` without fields of its own is an object, at every level. -/
inductive PlainObjects : PropertyList → Contracts.JsonValue → Prop where
  | intro {properties : List Property} {value : Contracts.JsonValue}
      (plain : ∀ property ∈ properties, ∀ item, value.get property.name = some item →
        property.fields = none → property.type = .object → item.isObject = true)
      (inner : ∀ property ∈ properties, ∀ item, value.get property.name = some item →
        ∀ fields, property.fields = some fields → PlainObjects fields item) :
      PlainObjects ⟨properties⟩ value

/-- The integers that a double holds exactly. -/
def SmallInteger (number : ℚ) : Prop :=
  ∃ integer : ℤ, number = integer ∧ |integer| ≤ 2 ^ 53

/-! ## The schema of one field -/

/-- The members of an object are as its schema says. -/
def FieldsValid (schema : ToolInputSchema) (value : Tree) : Prop :=
  MembersValid (MutValue.toMembers (appendInputFields schema.properties)) value ∧
    HasMembers (schema.required.map Tree.string) value

/-- The members of an object are declared, at every level. -/
def FieldsClosed (schema : ToolInputSchema) (value : Tree) : Prop :=
  (∀ name ∈ memberNames value, name ∈ schema.properties.map Prod.fst) ∧
    MembersClosed (MutValue.toMembers (appendInputFields schema.properties)) value

theorem toMembers_append (members others : List (Text × MutValue)) :
    MutValue.toMembers (members ++ others) = MutValue.toMembers members ++ MutValue.toMembers others := by
  rw [MutValue.toMembers_eq_map, MutValue.toMembers_eq_map, MutValue.toMembers_eq_map, List.map_append]

theorem hasMembers_nil (value : Tree) : HasMembers [] value := by
  cases value with
  | object members => exact fun name hname => absurd hname List.not_mem_nil
  | _ => trivial

theorem toTrees_strings (names : List Text) :
    MutValue.toTrees (names.map MutValue.str) = names.map Tree.string := by
  rw [MutValue.toTrees_eq_map, List.map_map]
  rfl

/-- A keyword that is only written for a value. -/
theorem allValid_optionalMember {α : Type} {keyword : String} {argument : Option α} {write : α → MutValue}
    {value : Tree} :
    AllValid (MutValue.toMembers (optionalMember keyword argument write)) value ↔
      ∀ given, argument = some given → KeywordValid (write given).toTree (ascii keyword) value := by
  cases argument with
  | none => exact iff_of_true trivial fun given h => by cases h
  | some given =>
      show KeywordValid (write given).toTree (ascii keyword) value ∧ True ↔ _
      rw [and_true]
      exact ⟨fun h other hother => Option.some.inj hother ▸ h, fun h => h given rfl⟩

theorem allClosed_optionalMember {α : Type} {keyword : String} {argument : Option α} {write : α → MutValue}
    {value : Tree} (h : ∀ given, KeywordClosed (write given).toTree (ascii keyword) value) :
    AllClosed (MutValue.toMembers (optionalMember keyword argument write)) value := by
  cases argument with
  | none => trivial
  | some given => exact ⟨h given, trivial⟩

theorem map_fst_appendInputFields (fields : List (Text × ToolInputField)) :
    (MutValue.toMembers (appendInputFields fields)).map Prod.fst = fields.map Prod.fst := by
  induction fields with
  | nil => rfl
  | cons field fields ih => rw [appendInputFields, MutValue.toMembers, List.map_cons, List.map_cons, ih]

theorem allValid_objectSchema {schema : ToolInputSchema} {value : Tree} :
    AllValid (MutValue.toMembers (appendObjectSchema (some schema))) value ↔ FieldsValid schema value := by
  obtain ⟨type, properties, required⟩ := schema
  rw [appendObjectSchema, toMembers_append, allValid_append]
  have hproperties : AllValid (MutValue.toMembers [(ascii "properties", .obj (appendInputFields properties))])
      value ↔ MembersValid (MutValue.toMembers (appendInputFields properties)) value := by
    show (ascii "properties" = ascii "properties" → MembersValid _ value) ∧ True ↔ _
    rw [and_true]
    exact ⟨fun h => h rfl, fun h _ => h⟩
  rw [hproperties]
  apply and_congr_right
  intro _
  split_ifs with hempty
  · rw [hempty]
    exact iff_of_true trivial (hasMembers_nil value)
  · show (ascii "required" = ascii "required" → HasMembers (MutValue.toTrees (required.map .str)) value) ∧
      True ↔ _
    rw [and_true, toTrees_strings]
    exact ⟨fun h => h rfl, fun h _ => h⟩

/-- What the schema of a field asks for. -/
theorem valid_appendInputField {field : ToolInputField} {value : Tree} :
    Valid (appendInputField field).toTree value ↔
      HasType (inputTypeName field.type) value ∧
      (∀ bound, field.minimum = some bound → Bounded (ascii "minimum") bound.toInt value) ∧
      (∀ bound, field.maximum = some bound → Bounded (ascii "maximum") bound.toInt value) ∧
      (∀ length, field.minLength = some length → Bounded (ascii "minLength") (length : ℤ) value) ∧
      (∀ length, field.maxLength = some length → Bounded (ascii "maxLength") (length : ℤ) value) ∧
      (field.type = .object → ∀ schema, field.objectSchema = some schema → FieldsValid schema value) := by
  obtain ⟨type, defaultValue, description, objectSchema, minimum, maximum, minLength, maxLength⟩ := field
  have htype : AllValid (MutValue.toMembers [(ascii "type", .str (inputTypeName type))]) value ↔
      HasType (inputTypeName type) value := by
    show (ascii "type" = ascii "type" → HasType _ value) ∧ True ↔ _
    rw [and_true]
    exact ⟨fun h => h rfl, fun h _ => h⟩
  have hdescription : AllValid (MutValue.toMembers
      (if description = [] then [] else [(ascii "description", .str description)])) value := by
    split_ifs
    · trivial
    · exact ⟨fun h => absurd h (by decide), trivial⟩
  have hinner : AllValid (MutValue.toMembers (if type = .object then appendObjectSchema objectSchema else []))
      value ↔ (type = .object → ∀ schema, objectSchema = some schema → FieldsValid schema value) := by
    by_cases hobject : type = .object
    · rw [if_pos hobject]
      cases objectSchema with
      | none => exact iff_of_true trivial fun _ schema h => by cases h
      | some schema =>
          rw [allValid_objectSchema]
          exact ⟨fun h _ other hother => Option.some.inj hother ▸ h, fun h => h hobject schema rfl⟩
    · rw [if_neg hobject]
      exact iff_of_true trivial fun h => absurd h hobject
  rw [appendInputField, MutValue.toTree, Valid]
  simp only [toMembers_append, allValid_append, allValid_optionalMember, htype, hinner, and_assoc,
    and_iff_right hdescription]
  exact Iff.rfl

/-- What the schema of a field declares. -/
theorem closed_appendInputField {field : ToolInputField} {value : Tree} :
    Closed (appendInputField field).toTree value ↔
      (field.type = .object → ∀ schema, field.objectSchema = some schema → FieldsClosed schema value) := by
  obtain ⟨type, defaultValue, description, objectSchema, minimum, maximum, minLength, maxLength⟩ := field
  have htype : AllClosed (MutValue.toMembers [(ascii "type", .str (inputTypeName type))]) value :=
    ⟨trivial, trivial⟩
  have hdescription : AllClosed (MutValue.toMembers
      (if description = [] then [] else [(ascii "description", .str description)])) value := by
    split_ifs
    · trivial
    · exact ⟨trivial, trivial⟩
  have hbound : ∀ {α : Type} {keyword : String} {argument : Option α} {write : α → ℤ},
      AllClosed (MutValue.toMembers (optionalMember keyword argument fun given => .sint (write given))) value :=
    allClosed_optionalMember fun given => trivial
  rw [appendInputField, MutValue.toTree, Closed]
  simp only [toMembers_append, allClosed_append, and_iff_right htype, and_iff_right hdescription,
    and_iff_right hbound]
  by_cases hobject : type = .object
  · rw [if_pos hobject]
    cases objectSchema with
    | none => exact iff_of_true trivial fun _ schema h => by cases h
    | some schema =>
        obtain ⟨name, properties, required⟩ := schema
        have hclosed : AllClosed (MutValue.toMembers (appendObjectSchema (some ⟨name, properties, required⟩)))
            value ↔ FieldsClosed ⟨name, properties, required⟩ value := by
          rw [appendObjectSchema, toMembers_append, allClosed_append]
          have hrequired : AllClosed (MutValue.toMembers
              (if required = [] then [] else [(ascii "required", .arr (required.map .str))])) value := by
            split_ifs
            · trivial
            · exact ⟨trivial, trivial⟩
          rw [and_iff_left hrequired, FieldsClosed, ← map_fst_appendInputFields]
          show (ascii "properties" = ascii "properties" → _) ∧ True ↔ _
          rw [and_true]
          exact ⟨fun h => h rfl, fun h _ => h⟩
        rw [hclosed]
        exact ⟨fun h _ other hother => Option.some.inj hother ▸ h, fun h => h hobject _ rfl⟩
  · rw [if_neg hobject]
    exact iff_of_true trivial fun h => absurd h hobject

/-! ## Values -/

/-- The types of the four kinds of fields. -/
def IsOfType : ToolInputType → Tree → Prop
  | .boolean, .bool _ => True
  | .integer, .number value => ∃ integer : ℤ, value = integer
  | .string, .string _ => True
  | .object, .object _ => True
  | _, _ => False

theorem hasType_inputTypeName {type : ToolInputType} {value : Tree} :
    HasType (inputTypeName type) value ↔ IsOfType type value := by
  have hnumber : ∀ {name : Text} {value : ℚ}, name ≠ ascii "number" → name ≠ ascii "integer" →
      ¬HasType name (.number value) := by
    rintro name value hname hinteger (h | ⟨h, -⟩)
    · exact hname h
    · exact hinteger h
  cases type with
  | boolean =>
      cases value with
      | bool flag => exact iff_of_true rfl trivial
      | number value => exact iff_of_false (hnumber (by decide) (by decide)) id
      | _ => exact iff_of_false (by simp only [HasType]; decide) id
  | integer =>
      cases value with
      | number value =>
          constructor
          · rintro (h | ⟨-, h⟩)
            · exact absurd h (by decide)
            · exact h
          · exact fun h => .inr ⟨rfl, h⟩
      | _ => exact iff_of_false (by simp only [HasType]; decide) id
  | string =>
      cases value with
      | string text => exact iff_of_true rfl trivial
      | number value => exact iff_of_false (hnumber (by decide) (by decide)) id
      | _ => exact iff_of_false (by simp only [HasType]; decide) id
  | object =>
      cases value with
      | object members => exact iff_of_true rfl trivial
      | number value => exact iff_of_false (hnumber (by decide) (by decide)) id
      | _ => exact iff_of_false (by simp only [HasType]; decide) id

theorem outOfRange_eq_false {α : Type} [LT α] [DecidableLT α] {low high : Option α} {value : α} :
    outOfRange low high value = false ↔
      (∀ bound, low = some bound → ¬value < bound) ∧ ∀ bound, high = some bound → ¬bound < value := by
  rw [outOfRange, Bool.or_eq_false_iff]
  cases low <;> cases high <;> simp

theorem toInt64_small {unspecified : ℚ → Int64} {number : ℚ} (h : SmallInteger number) :
    number = (toInt64 unspecified number).toInt := by
  obtain ⟨integer, rfl, hsmall⟩ := h
  rw [abs_le] at hsmall
  have hinteger : (Int64.ofInt integer).toInt = integer :=
    Int64.toInt_ofInt_of_le (by omega) (by omega)
  have hcast := @toInt64_intCast unspecified (Int64.ofInt integer)
  rw [hinteger] at hcast
  rw [hcast, hinteger]

section

variable {unspecified : ℚ → Int64} {field : ToolInputField} {value : Contracts.JsonValue}

theorem isOfType_of_scalarPasses (hsmall : value.All SmallInteger fun _ => True)
    (h : ScalarPasses unspecified field value) (hobject : field.type = .object → value.isObject = true) :
    IsOfType field.type (value.toTree id) := by
  by_cases htype : field.type = .object
  · rw [htype]
    cases value with
    | object members => trivial
    | _ => cases hobject htype
  · cases value with
    | bool flag =>
        rw [h.resolve_left htype]
        trivial
    | number number =>
        rw [(h.resolve_left htype).1]
        obtain ⟨integer, hinteger, -⟩ := hsmall
        exact ⟨integer, hinteger⟩
    | string text =>
        rw [(h.resolve_left htype).1]
        trivial
    | _ => exact absurd h htype

/-- The bounds of a field, for a value of its type. -/
theorem bounded_iff (hsmall : value.All SmallInteger fun _ => True)
    (htype : IsOfType field.type (value.toTree id)) :
    ((∀ bound, field.minimum = some bound → Bounded (ascii "minimum") bound.toInt (value.toTree id)) ∧
      (∀ bound, field.maximum = some bound → Bounded (ascii "maximum") bound.toInt (value.toTree id)) ∧
      (∀ length, field.minLength = some length →
        Bounded (ascii "minLength") (length : ℤ) (value.toTree id)) ∧
      (∀ length, field.maxLength = some length →
        Bounded (ascii "maxLength") (length : ℤ) (value.toTree id))) ↔
      ScalarPasses unspecified field value := by
  cases value with
  | bool flag =>
      have hpasses : ScalarPasses unspecified field (.bool flag) := by
        cases hfield : field.type with
        | boolean => exact .inr hfield
        | _ => rw [hfield] at htype; cases htype
      exact iff_of_true ⟨fun _ _ => trivial, fun _ _ => trivial, fun _ _ => trivial, fun _ _ => trivial⟩ hpasses
  | object members =>
      have hpasses : ScalarPasses unspecified field (.object members) := by
        cases hfield : field.type with
        | object => exact hfield
        | _ => rw [hfield] at htype; cases htype
      exact iff_of_true ⟨fun _ _ => trivial, fun _ _ => trivial, fun _ _ => trivial, fun _ _ => trivial⟩ hpasses
  | number number =>
      have hfield : field.type = .integer := by
        cases hfield : field.type with
        | integer => rfl
        | _ => rw [hfield] at htype; cases htype
      have hexact := @toInt64_small unspecified number hsmall
      have hother : ∀ {keyword : Text} {bound : ℚ}, keyword ≠ ascii "minimum" → keyword ≠ ascii "maximum" →
          Bounded keyword bound (.number number) := fun hmin hmax =>
        ⟨fun h => absurd h hmin, fun h => absurd h hmax⟩
      have hminimum : ∀ bound : ℚ, Bounded (ascii "minimum") bound (.number number) ↔ bound ≤ number := by
        intro bound
        exact ⟨fun h => h.1 rfl, fun h => ⟨fun _ => h, fun hkeyword => absurd hkeyword (by decide)⟩⟩
      have hmaximum : ∀ bound : ℚ, Bounded (ascii "maximum") bound (.number number) ↔ number ≤ bound := by
        intro bound
        exact ⟨fun h => h.2 rfl, fun h => ⟨fun hkeyword => absurd hkeyword (by decide), fun _ => h⟩⟩
      have hrange : ScalarPasses unspecified field (.number number) ↔
          (∀ bound, field.minimum = some bound → (bound.toInt : ℚ) ≤ number) ∧
            ∀ bound, field.maximum = some bound → number ≤ (bound.toInt : ℚ) := by
        have hle : ∀ bound : Int64, ¬toInt64 unspecified number < bound ↔ (bound.toInt : ℚ) ≤ number := by
          intro bound
          rw [hexact, Int.cast_le, toInt64_intCast, Int64.lt_iff_toInt_lt, not_lt]
        have hge : ∀ bound : Int64, ¬bound < toInt64 unspecified number ↔ number ≤ (bound.toInt : ℚ) := by
          intro bound
          rw [hexact, Int.cast_le, toInt64_intCast, Int64.lt_iff_toInt_lt, not_lt]
        rw [ScalarPasses, or_iff_right (by rw [hfield]; exact fun h => by cases h), and_iff_right hfield,
          and_iff_right hexact, outOfRange_eq_false]
        simp only [hle, hge]
      rw [hrange]
      show (∀ bound, _ → Bounded _ _ (.number number)) ∧ (∀ bound, _ → Bounded _ _ (.number number)) ∧
        (∀ length, _ → Bounded _ _ (.number number)) ∧ (∀ length, _ → Bounded _ _ (.number number)) ↔ _
      simp only [hminimum, hmaximum]
      constructor
      · exact fun h => ⟨h.1, h.2.1⟩
      · exact fun h => ⟨h.1, h.2, fun _ _ => hother (by decide) (by decide),
          fun _ _ => hother (by decide) (by decide)⟩
  | string text =>
      have hfield : field.type = .string := by
        cases hfield : field.type with
        | string => rfl
        | _ => rw [hfield] at htype; cases htype
      have hother : ∀ {keyword : Text} {bound : ℚ}, keyword ≠ ascii "minLength" →
          keyword ≠ ascii "maxLength" → Bounded keyword bound (.string text) := fun hmin hmax =>
        ⟨fun h => absurd h hmin, fun h => absurd h hmax⟩
      have hminimum : ∀ length : ℕ, Bounded (ascii "minLength") (length : ℤ) (.string text) ↔
          ¬utf8Length text < length := by
        intro length
        rw [not_lt]
        constructor
        · exact fun h => by exact_mod_cast h.1 rfl
        · exact fun h => ⟨fun _ => by exact_mod_cast h, fun hkeyword => absurd hkeyword (by decide)⟩
      have hmaximum : ∀ length : ℕ, Bounded (ascii "maxLength") (length : ℤ) (.string text) ↔
          ¬length < utf8Length text := by
        intro length
        rw [not_lt]
        constructor
        · exact fun h => by exact_mod_cast h.2 rfl
        · exact fun h => ⟨fun hkeyword => absurd hkeyword (by decide), fun _ => by exact_mod_cast h⟩
      have hrange : ScalarPasses unspecified field (.string text) ↔
          (∀ length, field.minLength = some length → ¬utf8Length text < length) ∧
            ∀ length, field.maxLength = some length → ¬length < utf8Length text := by
        rw [ScalarPasses, or_iff_right (by rw [hfield]; exact fun h => by cases h), and_iff_right hfield,
          outOfRange_eq_false]
      rw [hrange]
      show (∀ bound, _ → Bounded _ _ (.string text)) ∧ (∀ bound, _ → Bounded _ _ (.string text)) ∧
        (∀ length, _ → Bounded _ _ (.string text)) ∧ (∀ length, _ → Bounded _ _ (.string text)) ↔ _
      simp only [hminimum, hmaximum]
      constructor
      · exact fun h => ⟨h.2.2.1, h.2.2.2⟩
      · exact fun h => ⟨fun _ _ => hother (by decide) (by decide),
          fun _ _ => hother (by decide) (by decide), h.1, h.2⟩
  | null =>
      cases hfield : field.type <;> rw [hfield] at htype <;> cases htype
  | array items =>
      cases hfield : field.type <;> rw [hfield] at htype <;> cases htype

/-- The schema of a field without fields inside accepts what the check inside an object does, and wants an
object where it wants one. -/
theorem valid_scalar (hfields : field.type = .object → field.objectSchema = none)
    (hsmall : value.All SmallInteger fun _ => True) :
    Valid (appendInputField field).toTree (value.toTree id) ↔
      ScalarPasses unspecified field value ∧ (field.type = .object → value.isObject = true) := by
  have hinner : field.type = .object → ∀ schema, field.objectSchema = some schema →
      FieldsValid schema (value.toTree id) := by
    intro htype schema hschema
    rw [hfields htype] at hschema
    cases hschema
  have hobject : IsOfType field.type (value.toTree id) → field.type = .object → value.isObject = true := by
    intro hof htype
    rw [htype] at hof
    cases value with
    | object members => rfl
    | _ => cases hof
  rw [valid_appendInputField, hasType_inputTypeName]
  simp only [and_iff_left hinner]
  constructor
  · rintro ⟨hof, hbounds⟩
    exact ⟨(bounded_iff hsmall hof).1 hbounds, hobject hof⟩
  · rintro ⟨hpasses, hplain⟩
    have hof := isOfType_of_scalarPasses hsmall hpasses hplain
    exact ⟨hof, (bounded_iff hsmall hof).2 hpasses⟩

end

/-! ## Objects -/

/-- A value is as the schema of an object says, and its members are declared. -/
def ObjectAdvertised (schema : ToolInputSchema) (value : Tree) : Prop :=
  IsOfType .object value ∧ FieldsValid schema value ∧ FieldsClosed schema value

theorem lookup_map {α β : Type} (f : α → β) (members : List (Text × α)) (name : Text) :
    (members.map fun member => (member.1, f member.2)).lookup name = (members.lookup name).map f := by
  induction members with
  | nil => rfl
  | cons member members ih =>
      rw [List.map_cons, List.lookup_cons, List.lookup_cons, ih]
      cases name == member.1 <;> rfl

theorem appendInputFields_eq_map (fields : List (Text × ToolInputField)) :
    MutValue.toMembers (appendInputFields fields) =
      fields.map fun field => (field.1, (appendInputField field.2).toTree) := by
  induction fields with
  | nil => rfl
  | cons field fields ih => rw [appendInputFields, MutValue.toMembers, ih, List.map_cons]

/-- One level: an object is as advertised when its members are declared, the required ones are there and each
is as the schema of its property says. -/
theorem objectAdvertised_object {map : MapOrder} {properties : List Property}
    (hnodup : (properties.map Property.name).Nodup) {members : List (Text × Tree)} :
    ObjectAdvertised ((⟨properties⟩ : PropertyList).toSchema map) (.object members) ↔
      (∀ member ∈ members, member.1 ∈ properties.map Property.name) ∧
      (∀ property ∈ properties, members.lookup property.name = none → property.required = true →
        property.defaultValue.isSome = true) ∧
      ∀ property ∈ properties, ∀ item, members.lookup property.name = some item →
        Valid (appendInputField (property.toField map)).toTree item ∧
          Closed (appendInputField (property.toField map)).toTree item := by
  have hperm := @toSchema_properties map properties hnodup
  have hfields : ∀ {holds : Tree → Tree → Prop},
      (∀ field ∈ MutValue.toMembers
        (appendInputFields ((⟨properties⟩ : PropertyList).toSchema map).properties),
        ∀ item, member field.1 (.object members) = some item → holds field.2 item) ↔
      ∀ property ∈ properties, ∀ item, members.lookup property.name = some item →
        holds (appendInputField (property.toField map)).toTree item := by
    intro holds
    rw [appendInputFields_eq_map]
    constructor
    · intro h property hmem item hitem
      exact h (property.name, (appendInputField (property.toField map)).toTree)
        (List.mem_map.2 ⟨(property.name, property.toField map),
          hperm.mem_iff.2 (List.mem_map.2 ⟨property, hmem, rfl⟩), rfl⟩) item hitem
    · intro h field hmem item hitem
      obtain ⟨entry, hentry, rfl⟩ := List.mem_map.1 hmem
      obtain ⟨property, hproperty, rfl⟩ := List.mem_map.1 (hperm.mem_iff.1 hentry)
      exact h property hproperty item hitem
  have hdeclared : (∀ name ∈ memberNames (.object members),
      name ∈ ((⟨properties⟩ : PropertyList).toSchema map).properties.map Prod.fst) ↔
      ∀ member ∈ members, member.1 ∈ properties.map Property.name := by
    have hnames : ∀ name, name ∈ ((⟨properties⟩ : PropertyList).toSchema map).properties.map Prod.fst ↔
        name ∈ properties.map Property.name := by
      intro name
      rw [(hperm.map Prod.fst).mem_iff, List.map_map]
      rfl
    simp only [hnames]
    exact List.forall_mem_map
  have hrequired : HasMembers (((⟨properties⟩ : PropertyList).toSchema map).required.map Tree.string)
      (.object members) ↔
      ∀ property ∈ properties, members.lookup property.name = none → property.required = true →
        property.defaultValue.isSome = true := by
    rw [toSchema_required]
    constructor
    · intro h property hmem hnone hproperty
      by_contra hdefault
      rw [Bool.not_eq_true, Option.isSome_eq_false_iff, Option.isNone_iff_eq_none] at hdefault
      have hthere := h property.name
        (List.mem_map_of_mem ((mem_requiredNames hnodup hmem).2 ⟨hproperty, hdefault⟩))
      rw [hnone] at hthere
      cases hthere
    · intro h name hname
      obtain ⟨other, hother, hequal⟩ := List.mem_map.1 hname
      cases hequal
      obtain ⟨property, hmem, rfl⟩ := List.mem_map.1 hother
      have hproperty := (List.mem_filter.1 hmem).1
      obtain ⟨hneeded, hdefault⟩ := (mem_requiredNames hnodup hproperty).1 hother
      by_contra hnone
      rw [Bool.not_eq_true, Option.isSome_eq_false_iff, Option.isNone_iff_eq_none] at hnone
      have := h property hproperty hnone hneeded
      rw [hdefault] at this
      cases this
  rw [ObjectAdvertised, FieldsValid, FieldsClosed, membersValid_iff, membersClosed_iff, hfields, hfields,
    hdeclared, hrequired]
  constructor
  · rintro ⟨-, ⟨hvalid, hneeded⟩, hnames, hclosed⟩
    exact ⟨hnames, hneeded, fun property hmem item hitem =>
      ⟨hvalid property hmem item hitem, hclosed property hmem item hitem⟩⟩
  · rintro ⟨hnames, hneeded, hboth⟩
    exact ⟨trivial, ⟨fun property hmem item hitem => (hboth property hmem item hitem).1, hneeded⟩, hnames,
      fun property hmem item hitem => (hboth property hmem item hitem).2⟩

/-- The schema of a property with fields inside is that of an object. -/
theorem advertised_property_object {map : MapOrder} {property : Property} {fields : PropertyList}
    (hfields : property.fields = some fields) {value : Tree} :
    Valid (appendInputField (property.toField map)).toTree value ∧
        Closed (appendInputField (property.toField map)).toTree value ↔
      ObjectAdvertised (fields.toSchema map) value := by
  obtain ⟨name, type, description, inner, defaultValue, minimum, maximum, minLength, maxLength, valid,
    required⟩ := property
  have htype : type = .object := by
    by_contra hother
    rw [Property.fields, if_neg hother] at hfields
    cases hfields
  subst htype
  have hinner : inner = some fields := hfields
  subst hinner
  rw [valid_appendInputField, closed_appendInputField, hasType_inputTypeName, ObjectAdvertised]
  show (IsOfType .object value ∧ _ ∧ _ ∧ _ ∧ _ ∧
      (ToolInputType.object = .object → ∀ schema, some (fields.toSchema map) = some schema →
        FieldsValid schema value)) ∧
    (ToolInputType.object = .object → ∀ schema, some (fields.toSchema map) = some schema →
      FieldsClosed schema value) ↔ _
  constructor
  · rintro ⟨⟨hobject, -, -, -, -, hvalid⟩, hclosed⟩
    exact ⟨hobject, hvalid rfl _ rfl, hclosed rfl _ rfl⟩
  · rintro ⟨hobject, hvalid, hclosed⟩
    have hbounds : ∀ {keyword : Text} {bound : ℚ}, Bounded keyword bound value := by
      intro keyword bound
      cases value with
      | object members => trivial
      | _ => cases hobject
    refine ⟨⟨hobject, fun _ _ => hbounds, fun _ _ => hbounds, fun _ _ => hbounds, fun _ _ => hbounds, ?_⟩, ?_⟩
    · rintro - schema hschema
      rw [← Option.some.inj hschema]
      exact hvalid
    · rintro - schema hschema
      rw [← Option.some.inj hschema]
      exact hclosed

/-- The schema of a property without fields inside. -/
theorem advertised_property_scalar {map : MapOrder} {unspecified : ℚ → Int64} {property : Property}
    (hfields : property.fields = none) {value : Contracts.JsonValue}
    (hsmall : value.All SmallInteger fun _ => True) :
    Valid (appendInputField (property.toField map)).toTree (value.toTree id) ∧
        Closed (appendInputField (property.toField map)).toTree (value.toTree id) ↔
      ScalarPasses unspecified property.scalarField value ∧
        (property.type = .object → value.isObject = true) := by
  obtain ⟨name, type, description, inner, defaultValue, minimum, maximum, minLength, maxLength, valid,
    required⟩ := property
  have hschema : toInputType type = .object → toObjectSchema map inner = none := by
    intro htype
    rw [Property.fields, if_pos (toInputType_eq_object.1 htype)] at hfields
    rw [show inner = none from hfields]
    rfl
  rw [closed_appendInputField, @valid_scalar unspecified _ _ hschema hsmall]
  have hclosed : toInputType type = .object → ∀ schema, toObjectSchema map inner = some schema →
      FieldsClosed schema (value.toTree id) := by
    intro htype schema hinner
    rw [hschema htype] at hinner
    cases hinner
  refine (and_iff_left hclosed).trans (and_congr ?_ ?_)
  · cases value <;> exact Iff.rfl
  · show (toInputType type = .object → _) ↔ _
    rw [toInputType_eq_object]

/-- The schema of an object accepts what passes the checks of its properties and has objects where it wants
them. -/
theorem objectAdvertised_iff {map : MapOrder} {unspecified : ℚ → Int64} {properties : PropertyList}
    (hdistinct : DistinctNames properties) {value : Contracts.JsonValue}
    (hsmall : value.All SmallInteger fun _ => True) :
    ObjectAdvertised (properties.toSchema map) (value.toTree id) ↔
      Checks unspecified properties value ∧ PlainObjects properties value := by
  induction properties using PropertyList.induction generalizing value with
  | level properties ih =>
    obtain ⟨hnodup, hinner⟩ := hdistinct
    cases value with
    | object members =>
        rw [Contracts.JsonValue.toTree, Contracts.JsonValue.toMembers_eq_map, objectAdvertised_object hnodup]
        simp only [lookup_map, Option.map_eq_none_iff, Option.map_eq_some_iff]
        rw [Contracts.JsonValue.All, Contracts.JsonValue.allMembers_iff] at hsmall
        have hitem : ∀ {name : Text} {item : Contracts.JsonValue}, members.lookup name = some item →
            item.All SmallInteger fun _ => True := by
          intro name item h
          obtain ⟨before, after, rfl, -⟩ := List.lookup_eq_some_iff.1 h
          exact (hsmall (name, item) (List.mem_append_right before List.mem_cons_self)).2
        constructor
        · rintro ⟨hdeclared, hneeded, hvalues⟩
          have hscalar : ∀ property ∈ properties, ∀ item, members.lookup property.name = some item →
              property.fields = none → ScalarPasses unspecified property.scalarField item ∧
                (property.type = .object → item.isObject = true) := fun property hmem item hlookup hfields =>
            (advertised_property_scalar hfields (hitem hlookup)).1
              (hvalues property hmem _ ⟨item, hlookup, rfl⟩)
          have hobject : ∀ property ∈ properties, ∀ item, members.lookup property.name = some item →
              ∀ fields, property.fields = some fields →
                Checks unspecified fields item ∧ PlainObjects fields item :=
            fun property hmem item hlookup fields hfields =>
              (ih property hmem fields hfields (hinner property hmem fields hfields) (hitem hlookup)).1
                ((advertised_property_object hfields).1 (hvalues property hmem _ ⟨item, hlookup, rfl⟩))
          refine ⟨.intro (fun member hmember => ?_) hneeded ?_ ?_, .intro ?_ ?_⟩
          · exact hdeclared (member.1, member.2.toTree id) (List.mem_map.2 ⟨member, hmember, rfl⟩)
          · exact fun property hmem item hlookup hfields => (hscalar property hmem item hlookup hfields).1
          · exact fun property hmem item hlookup fields hfields =>
              (hobject property hmem item hlookup fields hfields).1
          · exact fun property hmem item hlookup hfields => (hscalar property hmem item hlookup hfields).2
          · exact fun property hmem item hlookup fields hfields =>
              (hobject property hmem item hlookup fields hfields).2
        · rintro ⟨hchecks, hplain⟩
          cases hchecks with
          | intro hdeclared hneeded hscalar hobject =>
            cases hplain with
            | intro hplain hnested =>
              refine ⟨fun member hmember => ?_, hneeded, ?_⟩
              · obtain ⟨original, horiginal, rfl⟩ := List.mem_map.1 hmember
                exact hdeclared original horiginal
              · rintro property hmem tree ⟨item, hlookup, rfl⟩
                cases hfields : property.fields with
                | none =>
                    exact (advertised_property_scalar hfields (hitem hlookup)).2
                      ⟨hscalar property hmem item hlookup hfields, hplain property hmem item hlookup hfields⟩
                | some fields =>
                    exact (advertised_property_object hfields).2
                      ((ih property hmem fields hfields (hinner property hmem fields hfields)
                        (hitem hlookup)).2 ⟨hobject property hmem item hlookup fields hfields,
                          hnested property hmem item hlookup fields hfields⟩)
    | _ => exact iff_of_false (fun h => h.1) fun h => by cases h.1

end VoiceLife.Mcp
