import VoiceLife.Mcp.ToolCalls

/-! # What the check of an object inside comes to

`NormalizeAndValidateObject` accepts an object when it passes the checks of its properties and every default
that is filled in passes them as well (`normalizeObject_ok_iff`). What it returns has the defaults added at
every depth, provided that the integers among them are doubles, and is then accepted as it is.
-/

open DecimalText (Text ascii)

namespace VoiceLife.Mcp

open Contracts

/-! ## Declarations -/

/-- The fields inside an object, for a property that has them. -/
def Property.fields (property : Property) : Option PropertyList :=
  if property.type = .object then property.objectProperties else none

/-- No name is declared twice, at any level. -/
inductive DistinctNames : PropertyList → Prop where
  | intro {properties : List Property} (nodup : (properties.map Property.name).Nodup)
      (inner : ∀ property ∈ properties, ∀ fields, property.fields = some fields → DistinctNames fields) :
      DistinctNames ⟨properties⟩

/-- What registration has checked, at every level. -/
inductive WellDefined : PropertyList → Prop where
  | intro {properties : List Property} (valid : ∀ property ∈ properties, definitionInvalid property = false)
      (inner : ∀ property ∈ properties, ∀ fields, property.fields = some fields → WellDefined fields) :
      WellDefined ⟨properties⟩

/-- Induction over the levels of a list of properties. -/
@[elab_as_elim]
theorem PropertyList.induction {motive : PropertyList → Prop}
    (level : ∀ properties : List Property, (∀ property ∈ properties, ∀ fields,
      property.fields = some fields → motive fields) → motive ⟨properties⟩)
    (properties : PropertyList) : motive properties := by
  have hfields : ∀ (property : Property) (inner : Option PropertyList),
      property.objectProperties = inner → (∀ fields, inner = some fields → motive fields) →
      ∀ fields, property.fields = some fields → motive fields := by
    intro property inner hinner hmotive fields h
    unfold Property.fields at h
    split_ifs at h
    exact hmotive fields (hinner ▸ h)
  exact @PropertyList.rec
    (fun property => ∀ fields, property.fields = some fields → motive fields) motive
    (fun inner => ∀ fields, inner = some fields → motive fields)
    (fun properties => ∀ property ∈ properties, ∀ fields, property.fields = some fields → motive fields)
    (fun name type description inner defaultValue minimum maximum minLength maxLength valid required ih =>
      hfields ⟨name, type, description, inner, defaultValue, minimum, maximum, minLength, maxLength, valid,
        required⟩ inner rfl ih)
    (fun properties ih => level properties ih)
    (fun fields h => by cases h)
    (fun inner ih fields h => Option.some.inj h ▸ ih)
    (List.forall_mem_nil _)
    (fun property properties hproperty hproperties => List.forall_mem_cons.2 ⟨hproperty, hproperties⟩)
    properties

/-! ## Checks of a value -/

/-- The value of a field without fields inside passes its checks; objects are not checked at all. -/
def ScalarPasses (unspecified : ℚ → Int64) (field : ToolInputField) : Contracts.JsonValue → Prop
  | .number number => field.type = .object ∨ (field.type = .integer ∧
      number = (toInt64 unspecified number).toInt ∧
      outOfRange field.minimum field.maximum (toInt64 unspecified number) = false)
  | .string text => field.type = .object ∨ (field.type = .string ∧
      outOfRange field.minLength field.maxLength (utf8Length text) = false)
  | .bool _ => field.type = .object ∨ field.type = .boolean
  | _ => field.type = .object

/-- The type and the bounds of a property. -/
def Property.scalarField (property : Property) : ToolInputField where
  type := toInputType property.type
  minimum := property.minimum
  maximum := property.maximum
  minLength := property.minLength
  maxLength := property.maxLength

/-- The given members pass the checks of their properties, at every level. -/
inductive Checks (unspecified : ℚ → Int64) : PropertyList → Contracts.JsonValue → Prop where
  | intro {properties : List Property} {members : List (Text × Contracts.JsonValue)}
      (declared : ∀ member ∈ members, member.1 ∈ properties.map Property.name)
      (present : ∀ property ∈ properties, members.lookup property.name = none → property.required = true →
        property.defaultValue.isSome = true)
      (scalar : ∀ property ∈ properties, ∀ value, members.lookup property.name = some value →
        property.fields = none → ScalarPasses unspecified property.scalarField value)
      (inner : ∀ property ∈ properties, ∀ value, members.lookup property.name = some value →
        ∀ fields, property.fields = some fields → Checks unspecified fields value) :
      Checks unspecified ⟨properties⟩ (.object members)

/-- The defaults that are filled in pass the checks of the fields inside them. -/
inductive DefaultsPass (unspecified : ℚ → Int64) : PropertyList → Contracts.JsonValue → Prop where
  | intro {properties : List Property} {value : Contracts.JsonValue}
      (checked : ∀ property ∈ properties, value.get property.name = none → ∀ given,
        property.defaultValue = some given → ∀ fields, property.fields = some fields →
          Checks unspecified fields (toolValueToJson given))
      (filled : ∀ property ∈ properties, value.get property.name = none → ∀ given,
        property.defaultValue = some given → ∀ fields, property.fields = some fields →
          DefaultsPass unspecified fields (toolValueToJson given))
      (inner : ∀ property ∈ properties, ∀ item, value.get property.name = some item →
        ∀ fields, property.fields = some fields → DefaultsPass unspecified fields item) :
      DefaultsPass unspecified ⟨properties⟩ value

/-- The value that a default is declared to be. -/
def declaredJson : ToolValue → Contracts.JsonValue
  | .integer value => .number value.toInt
  | value => toolValueToJson value

/-- The integers among the defaults that are filled in are doubles. -/
inductive DefaultsExact : PropertyList → Contracts.JsonValue → Prop where
  | intro {properties : List Property} {value : Contracts.JsonValue}
      (scalar : ∀ property ∈ properties, value.get property.name = none → ∀ given,
        property.defaultValue = some given → property.fields = none →
          toolValueToJson given = declaredJson given)
      (filled : ∀ property ∈ properties, value.get property.name = none → ∀ given,
        property.defaultValue = some given → ∀ fields, property.fields = some fields →
          DefaultsExact fields (toolValueToJson given))
      (inner : ∀ property ∈ properties, ∀ item, value.get property.name = some item →
        ∀ fields, property.fields = some fields → DefaultsExact fields item) :
      DefaultsExact ⟨properties⟩ value

/-- The received value is the given one with the declared defaults of its absent members, at every level. It
is an object, so that a member with fields of its own is there. -/
inductive DefaultsAdded : PropertyList → Contracts.JsonValue → Contracts.JsonValue → Prop where
  | intro {properties : List Property} {given : Contracts.JsonValue}
      {received : List (Text × Contracts.JsonValue)}
      (scalar : ∀ property ∈ properties, ∀ item, given.get property.name = some item →
        property.fields = none → received.lookup property.name = some item)
      (inner : ∀ property ∈ properties, ∀ item, given.get property.name = some item →
        ∀ fields, property.fields = some fields →
          DefaultsAdded fields item ((received.lookup property.name).getD .null))
      (added : ∀ property ∈ properties, given.get property.name = none → ∀ value,
        property.defaultValue = some value → property.fields = none →
          received.lookup property.name = some (declaredJson value))
      (addedInner : ∀ property ∈ properties, given.get property.name = none → ∀ value,
        property.defaultValue = some value → ∀ fields, property.fields = some fields →
          DefaultsAdded fields (declaredJson value) ((received.lookup property.name).getD .null))
      (absent : ∀ property ∈ properties, given.get property.name = none → property.defaultValue = none →
        received.lookup property.name = none)
      (others : ∀ name, name ∉ properties.map Property.name → received.lookup name = given.get name) :
      DefaultsAdded ⟨properties⟩ given (.object received)

/-! ## The schema of a list of properties -/

section

variable {map : MapOrder}

theorem toFields_eq_map (properties : List Property) :
    toFields map properties = properties.map fun property => (property.name, property.toField map) := by
  induction properties with
  | nil => rfl
  | cons property properties ih => rw [toFields, ih, List.map_cons]

theorem emplaceAll_of_nodup {α : Type} {members : List (Text × α)} (h : (members.map Prod.fst).Nodup) :
    emplaceAll members = members := by
  have hloop : ∀ (members done : List (Text × α)), ((done ++ members).map Prod.fst).Nodup →
      members.foldl (fun map member => if (map.lookup member.1).isSome then map else map ++ [member]) done =
        done ++ members := by
    intro members
    induction members with
    | nil => exact fun done _ => (List.append_nil done).symm
    | cons member members ih =>
        intro done hnodup
        have hnew : done.lookup member.1 = none := by
          rw [List.lookup_eq_none_iff]
          intro other hother
          rw [bne_iff_ne]
          intro heq
          rw [List.map_append, List.nodup_append] at hnodup
          exact hnodup.2.2 _ (List.mem_map_of_mem hother) _ (List.mem_map_of_mem List.mem_cons_self) heq.symm
        rw [List.foldl_cons, hnew]
        show members.foldl _ (done ++ [member]) = _
        rw [ih _ (by rwa [List.append_assoc, List.singleton_append]), List.append_assoc, List.singleton_append]
  exact hloop members [] h

/-- The fields of a schema are those of the properties, in the order of the map. -/
theorem toSchema_properties {properties : List Property} (h : (properties.map Property.name).Nodup) :
    ((⟨properties⟩ : PropertyList).toSchema map).properties.Perm
      (properties.map fun property => (property.name, property.toField map)) := by
  rw [PropertyList.toSchema, toFields_eq_map, emplaceAll_of_nodup]
  · exact map.perm _
  · rw [List.map_map]
    exact h

theorem toSchema_required (properties : List Property) :
    ((⟨properties⟩ : PropertyList).toSchema map).required = requiredNames properties := by
  rw [PropertyList.toSchema]

theorem mem_requiredNames {properties : List Property} (h : (properties.map Property.name).Nodup)
    {property : Property} (hmem : property ∈ properties) :
    property.name ∈ requiredNames properties ↔
      property.required = true ∧ property.defaultValue = none := by
  rw [requiredNames, List.mem_map]
  constructor
  · rintro ⟨other, hother, hname⟩
    rw [List.mem_filter, Bool.and_eq_true, Option.isNone_iff_eq_none] at hother
    rw [← List.inj_on_of_nodup_map h hother.1 hmem hname]
    exact hother.2
  · intro hrequired
    refine ⟨property, List.mem_filter.2 ⟨hmem, ?_⟩, rfl⟩
    rw [Bool.and_eq_true, Option.isNone_iff_eq_none]
    exact hrequired

theorem contains_requiredNames {properties : List Property} (h : (properties.map Property.name).Nodup)
    {property : Property} (hmem : property ∈ properties) :
    (requiredNames properties).contains property.name =
      (property.required && property.defaultValue.isNone) := by
  rw [Bool.eq_iff_iff, List.contains_iff_mem, mem_requiredNames h hmem, Bool.and_eq_true,
    Option.isNone_iff_eq_none]

end

/-! ## One field -/

section

variable {map : MapOrder} {unspecified : ℚ → Int64}

theorem toInputType_eq_object {type : PropertyType} : toInputType type = .object ↔ type = .object := by
  cases type <;> decide

/-- A field of a schema is checked as its property says. -/
theorem normalizeField_eq (property : Property) (argument : Option Contracts.JsonValue) (isRequired : Bool)
    (path : Text) :
    normalizeField unspecified (property.toField map) argument isRequired path =
      match argument, property.defaultValue with
      | none, none => if isRequired then .error (invalidArgument "缺少参数：" path) else .ok none
      | none, some given =>
        match property.fields with
        | some fields =>
          (normalizeObject unspecified (fields.toSchema map) (toolValueToJson given) path).map some
        | none => .ok (some (toolValueToJson given))
      | some value, _ =>
        match property.fields with
        | some fields => (normalizeObject unspecified (fields.toSchema map) value path).map some
        | none => (normalizeScalar unspecified (property.toField map) value path).map some := by
  obtain ⟨name, type, description, inner, defaultValue, minimum, maximum, minLength, maxLength, valid,
    required⟩ := property
  have hobject := @toInputType_eq_object type
  cases inner with
  | none =>
      have hfields : Property.fields ⟨name, type, description, none, defaultValue, minimum, maximum, minLength,
          maxLength, valid, required⟩ = none := by
        unfold Property.fields
        split_ifs <;> rfl
      rw [hfields]
      cases argument with
      | none => cases defaultValue <;> rfl
      | some value => rfl
  | some fields =>
      by_cases htype : type = .object
      · subst htype
        cases argument with
        | none => cases defaultValue <;> rfl
        | some value => rfl
      · have hfields : Property.fields ⟨name, type, description, some fields, defaultValue, minimum, maximum,
            minLength, maxLength, valid, required⟩ = none := if_neg htype
        have hinput : ¬toInputType type = .object := mt hobject.1 htype
        rw [hfields]
        cases argument with
        | none =>
            cases defaultValue with
            | none => rfl
            | some given => exact if_neg hinput
        | some value => exact if_neg hinput

variable {value result : Contracts.JsonValue} {path : Text}

theorem normalizeScalar_eq_ok {field : ToolInputField} :
    normalizeScalar unspecified field value path = .ok result ↔
      ScalarPasses unspecified field value ∧ result = value := by
  have hok : ∀ {value : Contracts.JsonValue}, (Except.ok value : Except ToolStatus Contracts.JsonValue) =
      .ok result ↔ result = value := by
    intro value
    rw [Except.ok.injEq, eq_comm]
  have herror : ∀ {status : ToolStatus}, ¬(Except.error status : Except ToolStatus Contracts.JsonValue) =
      .ok result := by
    intro status h
    cases h
  unfold normalizeScalar
  cases htype : field.type <;> cases value <;>
    simp only [ScalarPasses, htype, reduceCtorEq, false_and, or_self, or_false, false_or, true_and, hok, herror]
  · rename_i text
    by_cases hrange : outOfRange field.minLength field.maxLength (utf8Length text) = true
    · rw [if_pos hrange]
      exact iff_of_false herror fun h => Bool.false_ne_true (h.1.symm.trans hrange)
    · rw [if_neg hrange]
      exact hok.trans (and_iff_right (Bool.eq_false_iff.2 hrange)).symm
  · rename_i number
    by_cases hexact : number = (toInt64 unspecified number).toInt
    · rw [if_neg (not_not.2 hexact)]
      by_cases hrange : outOfRange field.minimum field.maximum (toInt64 unspecified number) = true
      · rw [if_pos hrange]
        exact iff_of_false herror fun h => Bool.false_ne_true (h.1.2.symm.trans hrange)
      · rw [if_neg hrange]
        exact hok.trans (and_iff_right ⟨hexact, Bool.eq_false_iff.2 hrange⟩).symm
    · rw [if_pos hexact]
      exact iff_of_false herror fun h => hexact h.1.1

theorem normalizeScalar_ok_iff {property : Property} :
    normalizeScalar unspecified (property.toField map) value path = .ok result ↔
      ScalarPasses unspecified property.scalarField value ∧ result = value := by
  cases property
  exact normalizeScalar_eq_ok

theorem map_some_eq_ok {result : Except ToolStatus Contracts.JsonValue} {entry : Option Contracts.JsonValue} :
    result.map some = .ok entry ↔ ∃ value, result = .ok value ∧ entry = some value := by
  cases result with
  | error status => exact iff_of_false (fun h => by cases h) fun ⟨_, h, _⟩ => by cases h
  | ok value =>
      constructor
      · intro h
        exact ⟨value, rfl, (Except.ok.inj h).symm⟩
      · rintro ⟨_, h, rfl⟩
        rw [Except.ok.inj h]
        rfl

/-- When a field is accepted. -/
theorem normalizeField_ok_iff (property : Property) (argument : Option Contracts.JsonValue) (path : Text) :
    (∃ entry, normalizeField unspecified (property.toField map) argument
      (property.required && property.defaultValue.isNone) path = .ok entry) ↔
      (argument = none → property.required = true → property.defaultValue.isSome = true) ∧
      (∀ value, argument = some value → property.fields = none →
        ScalarPasses unspecified property.scalarField value) ∧
      (∀ value, argument = some value → ∀ fields, property.fields = some fields →
        ∃ result, normalizeObject unspecified (fields.toSchema map) value path = .ok result) ∧
      (argument = none → ∀ given, property.defaultValue = some given → ∀ fields,
        property.fields = some fields →
          ∃ result, normalizeObject unspecified (fields.toSchema map) (toolValueToJson given) path =
            .ok result) := by
  rw [normalizeField_eq]
  cases argument with
  | none =>
      cases hdefault : property.defaultValue with
      | none =>
          cases hrequired : property.required with
          | true => simp
          | false => simp
      | some given =>
          cases hfields : property.fields with
          | none => simp
          | some fields => simp [map_some_eq_ok]
  | some value =>
      cases hfields : property.fields with
      | none => simp [map_some_eq_ok, normalizeScalar_ok_iff]
      | some fields => simp [map_some_eq_ok]

/-- What an accepted field emplaces. -/
theorem entry_of_normalizeField {property : Property} {argument entry : Option Contracts.JsonValue}
    {isRequired : Bool}
    (h : normalizeField unspecified (property.toField map) argument isRequired path = .ok entry) :
    (∀ value, argument = some value → property.fields = none → entry = some value) ∧
    (∀ value, argument = some value → ∀ fields, property.fields = some fields →
      ∃ result, normalizeObject unspecified (fields.toSchema map) value path = .ok result ∧
        entry = some result) ∧
    (argument = none → ∀ given, property.defaultValue = some given → property.fields = none →
      entry = some (toolValueToJson given)) ∧
    (argument = none → ∀ given, property.defaultValue = some given → ∀ fields,
      property.fields = some fields →
        ∃ result, normalizeObject unspecified (fields.toSchema map) (toolValueToJson given) path = .ok result ∧
          entry = some result) ∧
    (argument = none → property.defaultValue = none → entry = none) := by
  rw [normalizeField_eq] at h
  cases argument with
  | none =>
      cases hdefault : property.defaultValue with
      | none =>
          rw [hdefault] at h
          cases isRequired with
          | true => cases h
          | false =>
              cases h
              simp
      | some given =>
          rw [hdefault] at h
          cases hfields : property.fields with
          | none =>
              rw [hfields] at h
              cases h
              simp
          | some fields =>
              rw [hfields] at h
              obtain ⟨result, hresult, rfl⟩ := map_some_eq_ok.1 h
              simp [hresult]
  | some value =>
      cases hfields : property.fields with
      | none =>
          rw [hfields] at h
          obtain ⟨result, hresult, rfl⟩ := map_some_eq_ok.1 h
          rw [(normalizeScalar_ok_iff.1 hresult).2]
          simp
      | some fields =>
          rw [hfields] at h
          obtain ⟨result, hresult, rfl⟩ := map_some_eq_ok.1 h
          simp [hresult]

/-! ## One level -/

/-- What a field emplaces. -/
def fieldEntry (unspecified : ℚ → Int64) (required : List Text) (members : List (Text × Contracts.JsonValue))
    (path : Text) (field : Text × ToolInputField) : Option Contracts.JsonValue :=
  ((normalizeField unspecified field.2 (members.lookup field.1) (required.contains field.1)
    (childPath path field.1)).toOption).join

theorem fieldEntry_eq {required : List Text} {members : List (Text × Contracts.JsonValue)}
    {field : Text × ToolInputField} {entry : Option Contracts.JsonValue}
    (h : normalizeField unspecified field.2 (members.lookup field.1) (required.contains field.1)
      (childPath path field.1) = .ok entry) :
    fieldEntry unspecified required members path field = entry := by
  rw [fieldEntry, h]
  cases entry <;> rfl

/-- The loop goes through when every field does. -/
theorem normalizeFields_eq_ok {required : List Text} {members : List (Text × Contracts.JsonValue)}
    {fields : List (Text × ToolInputField)} {entries : List (Text × Option Contracts.JsonValue)} :
    normalizeFields unspecified required members path fields = .ok entries ↔
      ∃ result : Text × ToolInputField → Option Contracts.JsonValue,
        (∀ field ∈ fields, normalizeField unspecified field.2 (members.lookup field.1)
          (required.contains field.1) (childPath path field.1) = .ok (result field)) ∧
        entries = fields.map fun field => (field.1, result field) := by
  constructor
  · intro h
    refine ⟨fieldEntry unspecified required members path, ?_⟩
    induction fields generalizing entries with
    | nil =>
        cases h
        exact ⟨List.forall_mem_nil _, rfl⟩
    | cons field fields ih =>
        obtain ⟨entry, hentry, h⟩ := bind_eq_ok.1 h
        obtain ⟨rest, hrest, h⟩ := bind_eq_ok.1 h
        cases h
        obtain ⟨hfields, rfl⟩ := ih hrest
        have hfield : normalizeField unspecified field.2 (members.lookup field.1) (required.contains field.1)
            (childPath path field.1) = .ok entry := hentry
        rw [List.map_cons, fieldEntry_eq hfield]
        exact ⟨List.forall_mem_cons.2
          ⟨hfield.trans (congrArg Except.ok (fieldEntry_eq hfield).symm), hfields⟩, rfl⟩
  · rintro ⟨result, hresult, rfl⟩
    induction fields with
    | nil => rfl
    | cons field fields ih =>
        obtain ⟨hfield, hfields⟩ := List.forall_mem_cons.1 hresult
        exact bind_eq_ok.2 ⟨result field, hfield, bind_eq_ok.2 ⟨_, ih hfields, rfl⟩⟩

/-- The object that is built from what the fields emplace. -/
def normalizedObject (fields : List (Text × ToolInputField))
    (result : Text × ToolInputField → Option Contracts.JsonValue) : Contracts.JsonValue :=
  .object ((presentMembers (fields.map fun field => (field.1, result field))).foldl emplace [])

theorem foldl_emplace_perm {members : List (Text × Contracts.JsonValue)} (h : (members.map Prod.fst).Nodup) :
    (members.foldl emplace []).Perm members := by
  have hloop : ∀ (members done : List (Text × Contracts.JsonValue)), ((done ++ members).map Prod.fst).Nodup →
      (members.foldl emplace done).Perm (done ++ members) := by
    intro members
    induction members with
    | nil => exact fun done _ => by rw [List.append_nil, List.foldl_nil]
    | cons member members ih =>
        intro done hnodup
        have hfresh : member.1 ∉ done.map Prod.fst := by
          rw [List.map_append, List.nodup_append] at hnodup
          exact fun hmem => hnodup.2.2 _ hmem _ (List.mem_map_of_mem List.mem_cons_self) rfl
        have hnew : done.lookup member.1 = none := by
          rw [List.lookup_eq_none_iff]
          intro other hother
          rw [bne_iff_ne]
          intro heq
          exact hfresh (heq ▸ List.mem_map_of_mem hother)
        have hperm : (emplace done member).Perm (done ++ [member]) := by
          rw [emplace, hnew]
          exact (insertOrAssign_perm hfresh member.2).trans (List.perm_append_singleton _ _).symm
        have hmiddle : (emplace done member ++ members).Perm (done ++ member :: members) := by
          rw [← List.singleton_append, ← List.append_assoc]
          exact hperm.append_right members
        rw [List.foldl_cons]
        exact (ih _ (((hmiddle.map Prod.fst).nodup_iff).2 hnodup)).trans hmiddle
  exact hloop members [] h

theorem get_normalizedObject {fields : List (Text × ToolInputField)}
    {result : Text × ToolInputField → Option Contracts.JsonValue} (hnodup : (fields.map Prod.fst).Nodup) :
    (∀ field ∈ fields, (normalizedObject fields result).get field.1 = result field) ∧
      ∀ name, name ∉ fields.map Prod.fst → (normalizedObject fields result).get name = none := by
  have hkeys : ((fields.map fun field => (field.1, result field)).map Prod.fst).Nodup := by
    rw [List.map_map]
    exact hnodup
  have hpresent := hkeys.sublist (sublist_keys _)
  have hlookup := JsonValue.lookup_of_perm (foldl_emplace_perm hpresent) hpresent
  constructor
  · intro field hfield
    rw [normalizedObject, JsonValue.get, hlookup]
    exact lookup_presentMembers hkeys (List.mem_map.2 ⟨field, hfield, rfl⟩)
  · intro name hname
    rw [normalizedObject, JsonValue.get, hlookup, List.lookup_eq_none_iff]
    intro member hmember
    rw [bne_iff_ne]
    rintro rfl
    have hkey := (sublist_keys _).subset (List.mem_map_of_mem hmember)
    rw [List.map_map] at hkey
    exact hname hkey

variable {properties : List Property}

/-- An object is accepted when its members are declared and every property is; the result is built from what
they come to. -/
theorem normalizeObject_eq_ok (hnodup : (properties.map Property.name).Nodup)
    :
    normalizeObject unspecified ((⟨properties⟩ : PropertyList).toSchema map) value path = .ok result ↔
      ∃ members, value = .object members ∧ (∀ member ∈ members, member.1 ∈ properties.map Property.name) ∧
        ∃ entry : Text × ToolInputField → Option Contracts.JsonValue,
          (∀ property ∈ properties, normalizeField unspecified (property.toField map)
            (members.lookup property.name) (property.required && property.defaultValue.isNone)
            (childPath path property.name) = .ok (entry (property.name, property.toField map))) ∧
          result =
            normalizedObject ((⟨properties⟩ : PropertyList).toSchema map).properties entry := by
  have hperm := @toSchema_properties map properties hnodup
  have hnames : ∀ name, name ∈ ((⟨properties⟩ : PropertyList).toSchema map).properties.map Prod.fst ↔
      name ∈ properties.map Property.name := by
    intro name
    rw [(hperm.map Prod.fst).mem_iff, List.map_map]
    rfl
  have hrequired : ∀ property ∈ properties,
      (((⟨properties⟩ : PropertyList).toSchema map).required.contains property.name) =
        (property.required && property.defaultValue.isNone) := by
    intro property hmem
    rw [toSchema_required, contains_requiredNames hnodup hmem]
  -- what the loop says about the fields, said about the properties
  have hfields : ∀ {members : List (Text × Contracts.JsonValue)}
      {entry : Text × ToolInputField → Option Contracts.JsonValue},
      (∀ field ∈ ((⟨properties⟩ : PropertyList).toSchema map).properties,
        normalizeField unspecified field.2 (members.lookup field.1)
          (((⟨properties⟩ : PropertyList).toSchema map).required.contains field.1) (childPath path field.1) =
            .ok (entry field)) ↔
      ∀ property ∈ properties, normalizeField unspecified (property.toField map)
        (members.lookup property.name) (property.required && property.defaultValue.isNone)
        (childPath path property.name) = .ok (entry (property.name, property.toField map)) := by
    intro members entry
    constructor
    · intro h property hmem
      rw [← hrequired property hmem]
      exact h (property.name, property.toField map)
        (hperm.mem_iff.2 (List.mem_map.2 ⟨property, hmem, rfl⟩))
    · intro h field hmem
      obtain ⟨property, hproperty, rfl⟩ := List.mem_map.1 (hperm.mem_iff.1 hmem)
      rw [hrequired property hproperty]
      exact h property hproperty
  obtain ⟨type, fields, required, hschema⟩ : ∃ type fields required,
      (⟨properties⟩ : PropertyList).toSchema map = ⟨type, fields, required⟩ := ⟨_, _, _, rfl⟩
  rw [hschema] at hnames hfields ⊢
  cases value with
  | object members =>
      rw [normalizeObject, bind_eq_ok]
      have hfind : (members.find? fun member => !(fields.map Prod.fst).contains member.1) = none ↔
          ∀ member ∈ members, member.1 ∈ properties.map Property.name := by
        rw [List.find?_eq_none]
        apply forall₂_congr
        intro member _
        rw [Bool.not_eq_true, Bool.not_eq_false', List.contains_iff_mem]
        exact hnames member.1
      constructor
      · rintro ⟨entries, hentries, h⟩
        obtain ⟨entry, hentry, rfl⟩ := normalizeFields_eq_ok.1 hentries
        cases hmember : members.find? fun member => !(fields.map Prod.fst).contains member.1 with
        | some member =>
            rw [hmember] at h
            cases h
        | none =>
            rw [hmember] at h
            cases h
            exact ⟨members, rfl, hfind.1 hmember, entry, hfields.1 hentry, rfl⟩
      · rintro ⟨members', hvalue, hdeclared, entry, hentry, rfl⟩
        cases hvalue
        refine ⟨_, normalizeFields_eq_ok.2 ⟨entry, hfields.2 hentry, rfl⟩, ?_⟩
        rw [hfind.2 hdeclared]
        rfl
  | _ =>
      refine iff_of_false (fun h => ?_) fun ⟨members, hvalue, _⟩ => ?_
      · cases h
      · cases hvalue

/-- The object that is built has what the properties come to, and no other member. -/
theorem normalizedObject_spec (map : MapOrder) (hnodup : (properties.map Property.name).Nodup)
    (entry : Text × ToolInputField → Option Contracts.JsonValue) :
    ∃ received, normalizedObject ((⟨properties⟩ : PropertyList).toSchema map).properties entry =
        .object received ∧
      (∀ property ∈ properties,
        received.lookup property.name = entry (property.name, property.toField map)) ∧
      (∀ name, name ∉ properties.map Property.name → received.lookup name = none) ∧
      ∀ member ∈ received, member.1 ∈ properties.map Property.name := by
  have hperm := @toSchema_properties map properties hnodup
  have hkeys : (((⟨properties⟩ : PropertyList).toSchema map).properties.map Prod.fst).Nodup := by
    rw [(hperm.map Prod.fst).nodup_iff, List.map_map]
    exact hnodup
  obtain ⟨hget, hother⟩ := @get_normalizedObject _ entry hkeys
  have hfresh : ∀ name, name ∉ properties.map Property.name →
      name ∉ ((⟨properties⟩ : PropertyList).toSchema map).properties.map Prod.fst := by
    intro name hname
    rw [(hperm.map Prod.fst).mem_iff, List.map_map]
    exact hname
  refine ⟨_, rfl, fun property hmem => ?_, fun name hname => hother name (hfresh name hname), ?_⟩
  · exact hget _ (hperm.mem_iff.2 (List.mem_map.2 ⟨property, hmem, rfl⟩))
  · intro member hmember
    by_contra hname
    have hnone := hother member.1 (hfresh member.1 hname)
    rw [normalizedObject, JsonValue.get, List.lookup_eq_none_iff] at hnone
    exact absurd rfl (bne_iff_ne.1 (hnone member hmember))

/-! ## All levels -/

/-- An object is accepted exactly when its members pass their checks and the defaults that it needs do. -/
theorem normalizeObject_ok_iff {properties : PropertyList} (hdistinct : DistinctNames properties)
    {value : Contracts.JsonValue} :
    (∃ result, normalizeObject unspecified (properties.toSchema map) value path = .ok result) ↔
      Checks unspecified properties value ∧ DefaultsPass unspecified properties value := by
  induction properties using PropertyList.induction generalizing value path with
  | level properties ih =>
    obtain ⟨hnodup, hinner⟩ := hdistinct
    have hlevel : ∀ property ∈ properties, ∀ fields, property.fields = some fields →
        ∀ {value : Contracts.JsonValue} {path : Text},
          (∃ result, normalizeObject unspecified (fields.toSchema map) value path = .ok result) ↔
            Checks unspecified fields value ∧ DefaultsPass unspecified fields value :=
      fun property hmem fields hfields => ih property hmem fields hfields (hinner property hmem fields hfields)
    constructor
    · rintro ⟨result, hresult⟩
      obtain ⟨members, rfl, hdeclared, entry, hentry, -⟩ := (normalizeObject_eq_ok hnodup).1 hresult
      have hfield := fun property hmem => (normalizeField_ok_iff property (members.lookup property.name)
        (childPath path property.name)).1 ⟨_, hentry property hmem⟩
      refine ⟨.intro hdeclared (fun property hmem => (hfield property hmem).1)
        (fun property hmem => (hfield property hmem).2.1) ?_, .intro ?_ ?_ ?_⟩
      · intro property hmem item hitem fields hfields
        exact ((hlevel property hmem fields hfields).1
          ((hfield property hmem).2.2.1 item hitem fields hfields)).1
      · intro property hmem habsent given hgiven fields hfields
        exact ((hlevel property hmem fields hfields).1
          ((hfield property hmem).2.2.2 habsent given hgiven fields hfields)).1
      · intro property hmem habsent given hgiven fields hfields
        exact ((hlevel property hmem fields hfields).1
          ((hfield property hmem).2.2.2 habsent given hgiven fields hfields)).2
      · intro property hmem item hitem fields hfields
        exact ((hlevel property hmem fields hfields).1
          ((hfield property hmem).2.2.1 item hitem fields hfields)).2
    · rintro ⟨hchecks, hpass⟩
      cases hchecks with
      | @intro _ members hdeclared hpresent hscalar hobject =>
        cases hpass with
        | intro hchecked hfilled hnested =>
          have hfield : ∀ property ∈ properties, ∃ entry, normalizeField unspecified (property.toField map)
              (members.lookup property.name) (property.required && property.defaultValue.isNone)
              (childPath path property.name) = .ok entry := by
            intro property hmem
            rw [normalizeField_ok_iff]
            refine ⟨hpresent property hmem, hscalar property hmem, ?_, ?_⟩
            · intro item hitem fields hfields
              exact (hlevel property hmem fields hfields).2
                ⟨hobject property hmem item hitem fields hfields, hnested property hmem item hitem fields hfields⟩
            · intro habsent given hgiven fields hfields
              exact (hlevel property hmem fields hfields).2
                ⟨hchecked property hmem habsent given hgiven fields hfields,
                  hfilled property hmem habsent given hgiven fields hfields⟩
          refine ⟨_, (normalizeObject_eq_ok hnodup).2 ⟨members, rfl, hdeclared,
            fieldEntry unspecified (requiredNames properties) members path, ?_, rfl⟩⟩
          intro property hmem
          obtain ⟨entry, hentry⟩ := hfield property hmem
          rw [← contains_requiredNames hnodup hmem] at hentry ⊢
          rw [@fieldEntry_eq _ _ _ _ (property.name, property.toField map) entry hentry, hentry]

/-- A default that is an object is declared to be this object. -/
theorem declaredJson_of_object {given : ToolValue} (h : (toolValueToJson given).isObject = true) :
    declaredJson given = toolValueToJson given := by
  cases given with
  | integer value => cases h
  | _ => rfl

theorem isObject_of_normalizeObject {schema : ToolInputSchema}
    (h : normalizeObject unspecified schema value path = .ok result) :
    value.isObject = true := by
  obtain ⟨type, fields, required⟩ := schema
  cases value with
  | object members => rfl
  | _ => cases h

/-- What is returned has the declared defaults, provided that the integers among them are doubles. -/
theorem defaultsAdded_iff {properties : PropertyList} (hdistinct : DistinctNames properties)
    (h : normalizeObject unspecified (properties.toSchema map) value path = .ok result) :
    DefaultsAdded properties value result ↔ DefaultsExact properties value := by
  induction properties using PropertyList.induction generalizing value result path with
  | level properties ih =>
    obtain ⟨hnodup, hinner⟩ := hdistinct
    obtain ⟨members, rfl, hdeclared, entry, hentry, rfl⟩ := (normalizeObject_eq_ok hnodup).1 h
    obtain ⟨received, hreceived, hlookup, hother, -⟩ := normalizedObject_spec map hnodup entry
    rw [hreceived]
    have hlevel : ∀ property ∈ properties, ∀ fields, property.fields = some fields →
        ∀ {value result : Contracts.JsonValue} {path : Text},
          normalizeObject unspecified (fields.toSchema map) value path = .ok result →
          (DefaultsAdded fields value result ↔ DefaultsExact fields value) :=
      fun property hmem fields hfields => ih property hmem fields hfields (hinner property hmem fields hfields)
    have hentries := fun property hmem => entry_of_normalizeField (hentry property hmem)
    constructor
    · intro hadded
      cases hadded with
      | intro hscalar hobject hadded haddedInner habsent hothers =>
        refine .intro ?_ ?_ ?_
        · intro property hmem hnone given hgiven hfields
          have hvalue := hadded property hmem hnone given hgiven hfields
          rw [hlookup property hmem, (hentries property hmem).2.2.1 hnone given hgiven hfields] at hvalue
          exact Option.some.inj hvalue
        · intro property hmem hnone given hgiven fields hfields
          obtain ⟨item, hitem, hvalue⟩ := (hentries property hmem).2.2.2.1 hnone given hgiven fields hfields
          have hthere := haddedInner property hmem hnone given hgiven fields hfields
          rw [hlookup property hmem, hvalue, Option.getD_some,
            declaredJson_of_object (isObject_of_normalizeObject hitem)] at hthere
          exact (hlevel property hmem fields hfields hitem).1 hthere
        · intro property hmem item hitem fields hfields
          obtain ⟨other, hother, hvalue⟩ := (hentries property hmem).2.1 item hitem fields hfields
          have hthere := hobject property hmem item hitem fields hfields
          rw [hlookup property hmem, hvalue, Option.getD_some] at hthere
          exact (hlevel property hmem fields hfields hother).1 hthere
    · intro hexact
      cases hexact with
      | intro hscalar hfilled hnested =>
        refine .intro ?_ ?_ ?_ ?_ ?_ ?_
        · intro property hmem item hitem hfields
          rw [hlookup property hmem]
          exact (hentries property hmem).1 item hitem hfields
        · intro property hmem item hitem fields hfields
          obtain ⟨other, hother, hvalue⟩ := (hentries property hmem).2.1 item hitem fields hfields
          rw [hlookup property hmem, hvalue, Option.getD_some]
          exact (hlevel property hmem fields hfields hother).2 (hnested property hmem item hitem fields hfields)
        · intro property hmem hnone given hgiven hfields
          rw [hlookup property hmem, ← hscalar property hmem hnone given hgiven hfields]
          exact (hentries property hmem).2.2.1 hnone given hgiven hfields
        · intro property hmem hnone given hgiven fields hfields
          obtain ⟨item, hitem, hvalue⟩ := (hentries property hmem).2.2.2.1 hnone given hgiven fields hfields
          rw [hlookup property hmem, hvalue, Option.getD_some,
            declaredJson_of_object (isObject_of_normalizeObject hitem)]
          exact (hlevel property hmem fields hfields hitem).2
            (hfilled property hmem hnone given hgiven fields hfields)
        · intro property hmem hnone hdefault
          rw [hlookup property hmem]
          exact (hentries property hmem).2.2.2.2 hnone hdefault
        · intro name hname
          have hnone : members.lookup name = none := by
            rw [List.lookup_eq_none_iff]
            intro member hmember
            rw [bne_iff_ne]
            rintro rfl
            exact hname (hdeclared member hmember)
          exact (hother name hname).trans hnone.symm

theorem toInt64_intCast (value : Int64) : toInt64 unspecified (value.toInt : ℚ) = value := by
  have htruncated : ((value.toInt : ℚ).num.tdiv (value.toInt : ℚ).den : ℤ) = value.toInt := by
    rw [Rat.num_intCast, Rat.den_intCast, Nat.cast_one, Int.tdiv_one]
  rw [toInt64, htruncated]
  show (if -2 ^ 63 ≤ value.toInt ∧ value.toInt < 2 ^ 63 then Int64.ofInt value.toInt else _) = _
  rw [if_pos ⟨value.le_toInt, value.toInt_lt⟩, Int64.ofInt_toInt]

/-- A default that registration has taken passes the checks of its property. -/
theorem scalarPasses_default {property : Property} (hvalid : definitionInvalid property = false)
    {given : ToolValue} (hgiven : property.defaultValue = some given)
    (hexact : toolValueToJson given = declaredJson given) :
    ScalarPasses unspecified property.scalarField (toolValueToJson given) := by
  simp only [definitionInvalid, hgiven, Option.any_some, Bool.or_eq_false_iff, Bool.not_eq_false'] at hvalid
  obtain ⟨⟨⟨⟨⟨⟨⟨htype, -⟩, hlength⟩, hrange⟩, -⟩, -⟩, -⟩, -⟩ := hvalid
  cases htyped : toInputType property.type with
  | boolean =>
      rw [htyped] at htype
      cases given with
      | boolean value => exact .inr htyped
      | _ => cases htype
  | integer =>
      rw [htyped] at htype hrange
      cases given with
      | integer value =>
          rw [hexact]
          refine .inr ⟨htyped, ?_, ?_⟩
          · rw [toInt64_intCast]
          · rw [toInt64_intCast]
            exact hrange
      | _ => cases htype
  | string =>
      rw [htyped] at htype hlength
      cases given with
      | string text => exact .inr ⟨htyped, hlength⟩
      | _ => cases htype
  | object =>
      rw [htyped] at htype
      cases given with
      | json value =>
          show ScalarPasses unspecified property.scalarField value
          cases value with
          | number number => exact .inl htyped
          | string text => exact .inl htyped
          | bool flag => exact .inl htyped
          | _ => exact htyped
      | _ => cases htype

/-- What is returned is accepted as it is. -/
theorem normalizeObject_idempotent {properties : PropertyList} (hdistinct : DistinctNames properties)
    (hdefined : WellDefined properties)
    (h : normalizeObject unspecified (properties.toSchema map) value path = .ok result)
    (hexact : DefaultsExact properties value) :
    normalizeObject unspecified (properties.toSchema map) result path = .ok result := by
  induction properties using PropertyList.induction generalizing value result path with
  | level properties ih =>
    obtain ⟨hnodup, hinner⟩ := hdistinct
    obtain ⟨hvalid, hdefined⟩ := hdefined
    obtain ⟨members, rfl, -, entry, hentry, rfl⟩ := (normalizeObject_eq_ok hnodup).1 h
    obtain ⟨received, hreceived, hlookup, -, hnames⟩ := normalizedObject_spec map hnodup entry
    refine (normalizeObject_eq_ok hnodup).2 ⟨received, hreceived, hnames, entry, fun property hmem => ?_, rfl⟩
    obtain ⟨hscalar, hobject, hadded, haddedInner, habsent⟩ := entry_of_normalizeField (hentry property hmem)
    have hlevel : ∀ fields, property.fields = some fields →
        ∀ {value result : Contracts.JsonValue} {path : Text},
          normalizeObject unspecified (fields.toSchema map) value path = .ok result →
          DefaultsExact fields value →
          normalizeObject unspecified (fields.toSchema map) result path = .ok result :=
      fun fields hfields => ih property hmem fields hfields (hinner property hmem fields hfields)
        (hdefined property hmem fields hfields)
    rw [hlookup property hmem]
    cases hexact with
    | intro hdoubles hfilled hnested =>
      cases hitem : members.lookup property.name with
      | some item =>
          cases hfields : property.fields with
          | none =>
              have hpasses := ((normalizeField_ok_iff property (members.lookup property.name) _).1
                ⟨_, hentry property hmem⟩).2.1 item hitem hfields
              rw [hscalar item hitem hfields, normalizeField_eq, hfields]
              exact map_some_eq_ok.2 ⟨item, normalizeScalar_ok_iff.2 ⟨hpasses, rfl⟩, rfl⟩
          | some fields =>
              obtain ⟨other, hother, hvalue⟩ := hobject item hitem fields hfields
              rw [hvalue, normalizeField_eq, hfields]
              exact map_some_eq_ok.2
                ⟨other, hlevel fields hfields hother (hnested property hmem item hitem fields hfields), rfl⟩
      | none =>
          cases hgiven : property.defaultValue with
          | none =>
              rw [habsent hitem hgiven]
              have hfield := hentry property hmem
              rw [hitem, habsent hitem hgiven, hgiven] at hfield
              exact hfield
          | some given =>
              cases hfields : property.fields with
              | none =>
                  have hpasses := @scalarPasses_default unspecified property (hvalid property hmem) given hgiven
                    (hdoubles property hmem hitem given hgiven hfields)
                  rw [hadded hitem given hgiven hfields, normalizeField_eq, hfields]
                  exact map_some_eq_ok.2 ⟨_, normalizeScalar_ok_iff.2 ⟨hpasses, rfl⟩, rfl⟩
              | some fields =>
                  obtain ⟨other, hother, hvalue⟩ := haddedInner hitem given hgiven fields hfields
                  rw [hvalue, normalizeField_eq, hfields]
                  exact map_some_eq_ok.2
                    ⟨other, hlevel fields hfields hother
                      (hfilled property hmem hitem given hgiven fields hfields), rfl⟩

end

end VoiceLife.Mcp
