import VoiceLife.Mcp.ObjectChecks

/-! # What the check of a call comes to

`call` checks every argument as its property says (`checkArgument_ok_iff`) and passes on the arguments with
the changes that the fields make (`normalizeCall_eq_ok`, `changedArguments_spec`).
-/

open DecimalText (Text ascii)

namespace VoiceLife.Mcp

open Contracts

/-! ## One argument -/

section

variable {map : MapOrder} {unspecified : ℚ → Int64}

variable {property : Property}

/-- The default of a property with fields inside is an object. -/
theorem default_of_fields (hvalid : definitionInvalid property = false)
    {given : ToolValue} (hgiven : property.defaultValue = some given) {fields : PropertyList}
    (hfields : property.fields = some fields) :
    ∃ json : Contracts.JsonValue, given = .json json ∧ json.isObject = true := by
  simp only [definitionInvalid, hgiven, Option.any_some, Bool.or_eq_false_iff, Bool.not_eq_false'] at hvalid
  obtain ⟨⟨⟨⟨⟨⟨⟨htype, -⟩, -⟩, -⟩, -⟩, -⟩, -⟩, -⟩ := hvalid
  have hobject : property.type = .object := by
    by_contra hother
    rw [Property.fields, if_neg hother] at hfields
    cases hfields
  rw [hobject] at htype
  cases given with
  | json json => exact ⟨json, rfl, htype⟩
  | _ => cases htype

theorem scalarPasses_of_object {field : ToolInputField} (h : field.type = .object)
    (value : Contracts.JsonValue) : ScalarPasses unspecified field value := by
  cases value with
  | number number => exact .inl h
  | string text => exact .inl h
  | bool flag => exact .inl h
  | _ => exact h

/-- An argument of a type without fields inside. -/
theorem checkScalar_iff {field : ToolInputField} {name : Text} {value : ToolValue} :
    (matchesType value field.type = true ∧ checkBounds field name value = .ok ()) ↔
      ScalarPasses unspecified field (declaredJson value) ∧
        (field.type = .object → (declaredJson value).isObject = true) ∧
        (field.type ≠ .object → ∀ json, value ≠ .json json) := by
  cases htype : field.type with
  | object =>
      rw [and_iff_right (scalarPasses_of_object htype _)]
      cases value with
      | json json => simp [matchesType, checkBounds, htype, declaredJson, toolValueToJson]
      | _ => simp [matchesType, declaredJson, toolValueToJson, JsonValue.isObject]
  | boolean =>
      cases value with
      | boolean flag => simp [matchesType, checkBounds, htype, declaredJson, toolValueToJson, ScalarPasses]
      | json json => simp [matchesType]
      | _ => simp [matchesType, htype, declaredJson, toolValueToJson, ScalarPasses]
  | integer =>
      cases value with
      | integer integer =>
          simp [matchesType, checkBounds, htype, declaredJson, ScalarPasses, toInt64_intCast]
      | json json => simp [matchesType]
      | _ => simp [matchesType, htype, declaredJson, toolValueToJson, ScalarPasses]
  | string =>
      cases value with
      | string text =>
          simp [matchesType, checkBounds, htype, declaredJson, toolValueToJson, ScalarPasses]
      | json json => simp [matchesType]
      | _ => simp [matchesType, htype, declaredJson, toolValueToJson, ScalarPasses]

/-- A default that registration has taken passes as an argument. -/
theorem checkScalar_default (hvalid : definitionInvalid property = false)
    {given : ToolValue} (hgiven : property.defaultValue = some given) (name : Text) :
    matchesType given property.scalarField.type = true ∧
      checkBounds property.scalarField name given = .ok () := by
  simp only [definitionInvalid, hgiven, Option.any_some, Bool.or_eq_false_iff, Bool.not_eq_false'] at hvalid
  obtain ⟨⟨⟨⟨⟨⟨⟨htype, -⟩, hlength⟩, hrange⟩, -⟩, -⟩, -⟩, -⟩ := hvalid
  refine ⟨htype, ?_⟩
  have hfield : property.scalarField.type = toInputType property.type := rfl
  rw [checkBounds.eq_def, hfield]
  cases hinput : toInputType property.type with
  | integer =>
      cases given with
      | integer value =>
          rw [hinput] at hrange
          exact if_neg (Bool.eq_false_iff.1 hrange)
      | _ => rfl
  | string =>
      cases given with
      | string text =>
          rw [hinput] at hlength
          exact if_neg (Bool.eq_false_iff.1 hlength)
      | _ => rfl
  | _ => rfl

/-- An argument is checked as its property says. -/
theorem checkArgument_eq (hvalid : definitionInvalid property = false) (name : Text)
    (isRequired : Bool) (argument : Option ToolValue) :
    checkArgument unspecified (property.toField map) name isRequired argument =
      match argument, property.defaultValue with
      | none, none => if isRequired then .error (invalidArgument "缺少参数：" name) else .ok none
      | none, some given =>
        match property.fields with
        | some fields =>
          (normalizeObject unspecified (fields.toSchema map) (toolValueToJson given) name).map
            fun normalized => some (.json normalized)
        | none => .ok (some given)
      | some value, _ =>
        match property.fields with
        | some fields =>
          match value with
          | .json given =>
            if !given.isObject then .error (invalidArgument "工具参数类型错误：" name)
            else (normalizeObject unspecified (fields.toSchema map) given name).map
              fun normalized => some (.json normalized)
          | _ => .error (invalidArgument "工具参数类型错误：" name)
        | none =>
          if !matchesType value (toInputType property.type) then
            .error (invalidArgument "工具参数类型错误：" name)
          else (checkBounds (property.toField map) name value).map fun _ => none := by
  cases hfields : property.fields with
  | some fields =>
      have hgiven : ∀ given, property.defaultValue = some given → ∃ json : Contracts.JsonValue, given = .json json :=
        fun given h => (default_of_fields hvalid h hfields).imp fun json h => h.1
      obtain ⟨name, type, description, inner, defaultValue, minimum, maximum, minLength, maxLength, valid,
        required⟩ := property
      have htype : type = .object := by
        by_contra hother
        rw [Property.fields, if_neg hother] at hfields
        cases hfields
      subst htype
      have hinner : inner = some fields := hfields
      subst hinner
      cases argument with
      | some value => rfl
      | none =>
          cases defaultValue with
          | none => rfl
          | some given =>
              obtain ⟨json, rfl⟩ := hgiven given rfl
              rfl
  | none =>
      obtain ⟨name, type, description, inner, defaultValue, minimum, maximum, minLength, maxLength, valid,
        required⟩ := property
      have hschema : type = .object → inner = none := by
        intro htype
        rw [Property.fields, if_pos htype] at hfields
        exact hfields
      cases htype : type with
      | object =>
          have hinner := hschema htype
          subst htype hinner
          cases argument with
          | some value => rfl
          | none =>
              cases defaultValue with
              | none => rfl
              | some given => cases given <;> rfl
      | _ =>
          subst htype
          cases argument with
          | some value => rfl
          | none =>
              cases defaultValue with
              | none => rfl
              | some given => cases given <;> rfl

theorem map_json_eq_ok {result : Except ToolStatus Contracts.JsonValue} {change : Option ToolValue} :
    (result.map fun normalized => some (ToolValue.json normalized)) = .ok change ↔
      ∃ value, result = .ok value ∧ change = some (.json value) := by
  cases result with
  | error status => exact iff_of_false (fun h => by cases h) fun ⟨_, h, _⟩ => by cases h
  | ok value =>
      constructor
      · intro h
        exact ⟨value, rfl, (Except.ok.inj h).symm⟩
      · rintro ⟨_, h, rfl⟩
        rw [Except.ok.inj h]
        rfl

/-- A given argument without fields inside stays as it is. -/
theorem checkArgument_scalar (hvalid : definitionInvalid property = false)
    (hfields : property.fields = none) {name : Text} {isRequired : Bool} {value : ToolValue}
    {change : Option ToolValue} :
    checkArgument unspecified (property.toField map) name isRequired (some value) = .ok change ↔
      (ScalarPasses unspecified property.scalarField (declaredJson value) ∧
        (property.type = .object → (declaredJson value).isObject = true) ∧
        (property.type ≠ .object → ∀ json, value ≠ .json json)) ∧ change = none := by
  have hbounds : checkBounds (property.toField map) name value =
      checkBounds property.scalarField name value := by
    cases property
    rfl
  have hscalar := @checkScalar_iff unspecified property.scalarField name value
  have hobject : property.scalarField.type = .object ↔ property.type = .object := toInputType_eq_object
  rw [ne_eq, hobject, ← ne_eq] at hscalar
  rw [← hscalar, checkArgument_eq hvalid, hfields]
  show (if !matchesType value (toInputType property.type) then _
      else (checkBounds (property.toField map) name value).map fun _ => none) = _ ↔
    (matchesType value (toInputType property.type) = true ∧ _) ∧ _
  rw [hbounds]
  cases matchesType value (toInputType property.type) with
  | false => exact iff_of_false (fun h => by cases h) fun h => by cases h.1.1
  | true =>
      rw [and_iff_right rfl]
      cases checkBounds property.scalarField name value with
      | error status => exact iff_of_false (fun h => by cases h) fun h => by cases h.1
      | ok unit =>
          constructor
          · intro h
            exact ⟨rfl, (Except.ok.inj h).symm⟩
          · rintro ⟨-, rfl⟩
            rfl

/-- A default without fields inside is taken as an argument too. -/
theorem checkArgument_given (hvalid : definitionInvalid property = false)
    (hfields : property.fields = none) {given : ToolValue} (hgiven : property.defaultValue = some given)
    (name : Text) (isRequired : Bool) :
    checkArgument unspecified (property.toField map) name isRequired (some given) = .ok none := by
  have hpasses := (@checkScalar_iff unspecified _ _ _).1 (checkScalar_default hvalid hgiven name)
  have hobject : property.scalarField.type = .object ↔ property.type = .object := toInputType_eq_object
  rw [ne_eq, hobject] at hpasses
  exact (checkArgument_scalar hvalid hfields).2 ⟨hpasses, rfl⟩

/-- A given argument with fields inside is replaced by what its check returns. -/
theorem checkArgument_object (hvalid : definitionInvalid property = false)
    {fields : PropertyList} (hfields : property.fields = some fields) {name : Text} {isRequired : Bool}
    {value : ToolValue} {change : Option ToolValue} :
    checkArgument unspecified (property.toField map) name isRequired (some value) = .ok change ↔
      ∃ result, normalizeObject unspecified (fields.toSchema map) (declaredJson value) name = .ok result ∧
        change = some (.json result) := by
  have hnone : ∀ {json : Contracts.JsonValue}, json.isObject = false →
      ¬∃ result, normalizeObject unspecified (fields.toSchema map) json name = .ok result ∧
        change = some (.json result) := by
    rintro json hjson ⟨result, hresult, -⟩
    rw [isObject_of_normalizeObject hresult] at hjson
    cases hjson
  rw [checkArgument_eq hvalid, hfields]
  cases value with
  | json json =>
      show (if !json.isObject then _ else _) = _ ↔ _
      cases hjson : json.isObject with
      | false => exact iff_of_false (fun h => by cases h) (hnone hjson)
      | true => exact map_json_eq_ok
  | _ => exact iff_of_false (fun h => by cases h) (hnone rfl)

/-- A default with fields inside is replaced by what its check returns. -/
theorem checkArgument_default (hvalid : definitionInvalid property = false)
    {fields : PropertyList} (hfields : property.fields = some fields) {name : Text} {isRequired : Bool}
    {given : ToolValue} (hgiven : property.defaultValue = some given) {change : Option ToolValue} :
    checkArgument unspecified (property.toField map) name isRequired none = .ok change ↔
      ∃ result, normalizeObject unspecified (fields.toSchema map) (declaredJson given) name = .ok result ∧
        change = some (.json result) := by
  obtain ⟨json, rfl, -⟩ := default_of_fields hvalid hgiven hfields
  rw [checkArgument_eq hvalid, hfields, hgiven]
  exact map_json_eq_ok

/-- When an argument is accepted. -/
theorem checkArgument_ok_iff (hvalid : definitionInvalid property = false)
    (argument : Option ToolValue) (name : Text) :
    (∃ change, checkArgument unspecified (property.toField map) name
      (property.required && property.defaultValue.isNone) argument = .ok change) ↔
      (argument = none → property.required = true → property.defaultValue.isSome = true) ∧
      (∀ value, argument = some value → property.fields = none →
        ScalarPasses unspecified property.scalarField (declaredJson value) ∧
          (property.type = .object → (declaredJson value).isObject = true) ∧
          (property.type ≠ .object → ∀ json, value ≠ .json json)) ∧
      (∀ value, argument = some value → ∀ fields, property.fields = some fields →
        ∃ result, normalizeObject unspecified (fields.toSchema map) (declaredJson value) name = .ok result) ∧
      (argument = none → ∀ given, property.defaultValue = some given → ∀ fields,
        property.fields = some fields →
          ∃ result, normalizeObject unspecified (fields.toSchema map) (declaredJson given) name =
            .ok result) := by
  cases argument with
  | some value =>
      cases hfields : property.fields with
      | none => simp [checkArgument_scalar hvalid hfields]
      | some fields => simp [checkArgument_object hvalid hfields]
  | none =>
      cases hdefault : property.defaultValue with
      | none =>
          rw [checkArgument_eq hvalid, hdefault]
          cases hrequired : property.required with
          | true => simp
          | false => simp
      | some given =>
          cases hfields : property.fields with
          | none =>
              rw [checkArgument_eq hvalid, hdefault, hfields]
              simp
          | some fields => simp [checkArgument_default hvalid hfields hdefault]

/-- What an accepted argument changes. -/
theorem change_of_checkArgument (hvalid : definitionInvalid property = false)
    {argument change : Option ToolValue} {isRequired : Bool} {name : Text}
    (h : checkArgument unspecified (property.toField map) name isRequired argument = .ok change) :
    (∀ value, argument = some value → property.fields = none → change = none) ∧
    (∀ value, argument = some value → ∀ fields, property.fields = some fields →
      ∃ result, normalizeObject unspecified (fields.toSchema map) (declaredJson value) name = .ok result ∧
        change = some (.json result)) ∧
    (argument = none → ∀ given, property.defaultValue = some given → property.fields = none →
      change = some given) ∧
    (argument = none → ∀ given, property.defaultValue = some given → ∀ fields,
      property.fields = some fields →
        ∃ result, normalizeObject unspecified (fields.toSchema map) (declaredJson given) name = .ok result ∧
          change = some (.json result)) ∧
    (argument = none → property.defaultValue = none → change = none) := by
  refine ⟨?_, ?_, ?_, ?_, ?_⟩
  · rintro value rfl hfields
    exact ((checkArgument_scalar hvalid hfields).1 h).2
  · rintro value rfl fields hfields
    exact (checkArgument_object hvalid hfields).1 h
  · rintro rfl given hgiven hfields
    rw [checkArgument_eq hvalid, hgiven, hfields] at h
    exact (Except.ok.inj h).symm
  · rintro rfl given hgiven fields hfields
    exact (checkArgument_default hvalid hfields hgiven).1 h
  · rintro rfl hgiven
    rw [checkArgument_eq hvalid, hgiven] at h
    cases isRequired with
    | true => cases h
    | false => exact (Except.ok.inj h).symm

end

/-! ## The changes -/

/-- What one round of the loop makes of the arguments. -/
def applyChange (given normalized : ToolArguments) (change : Text × Option ToolValue) : ToolArguments :=
  change.2.elim normalized fun value =>
    if (given.lookup change.1).isSome then assignArgument normalized change.1 value
    else emplaceArgument normalized change.1 value

section

variable {given normalized : ToolArguments}

theorem lookup_isSome_iff {arguments : ToolArguments} {name : Text} :
    (arguments.lookup name).isSome = true ↔ ∃ argument ∈ arguments, argument.1 = name := by
  rw [← not_iff_not, Bool.not_eq_true, Option.isSome_eq_false_iff, Option.isNone_iff_eq_none,
    List.lookup_eq_none_iff]
  push Not
  apply forall₂_congr
  intro argument _
  rw [bne_iff_ne, ne_comm]

theorem value_of_lookup {arguments : ToolArguments} {name : Text} {value : ToolValue}
    (hall : ∀ argument ∈ arguments, argument.1 = name → argument.2 = value)
    (hthere : (arguments.lookup name).isSome = true) : arguments.lookup name = some value := by
  obtain ⟨other, hother⟩ := Option.isSome_iff_exists.1 hthere
  obtain ⟨before, after, heq, -⟩ := List.lookup_eq_some_iff.1 hother
  rw [hother, ← hall (name, other) (heq ▸ List.mem_append_right before List.mem_cons_self) rfl]

/-- One change concerns one name. -/
theorem mem_applyChange_of_ne {change : Text × Option ToolValue} {argument : Text × ToolValue}
    (hne : argument.1 ≠ change.1) : argument ∈ applyChange given normalized change ↔ argument ∈ normalized := by
  obtain ⟨name, _ | value⟩ := change
  · exact Iff.rfl
  · show argument ∈ (if (given.lookup name).isSome then assignArgument normalized name value
      else emplaceArgument normalized name value) ↔ _
    split_ifs
    · rw [assignArgument, List.mem_map]
      constructor
      · rintro ⟨other, hother, heq⟩
        split_ifs at heq with hname
        · exact absurd (congrArg Prod.fst heq).symm hne
        · rwa [← heq]
      · exact fun h => ⟨argument, h, if_neg hne⟩
    · rw [emplaceArgument]
      split_ifs
      · exact Iff.rfl
      · rw [List.mem_append, List.mem_singleton, or_iff_left]
        exact fun heq => hne (congrArg Prod.fst heq)

theorem lookup_applyChange_of_ne {change : Text × Option ToolValue} {name : Text} (hne : name ≠ change.1) :
    (applyChange given normalized change).lookup name = normalized.lookup name := by
  obtain ⟨other, _ | value⟩ := change
  · rfl
  · show (if (given.lookup other).isSome then assignArgument normalized other value
      else emplaceArgument normalized other value).lookup name = _
    split_ifs
    · rw [assignArgument]
      induction normalized with
      | nil => rfl
      | cons argument arguments ih =>
          rw [List.map_cons, List.lookup_cons, List.lookup_cons, ih]
          split_ifs with hname
          · simp only [hname, beq_eq_false_iff_ne.2 hne]
          · rfl
    · rw [emplaceArgument]
      split_ifs
      · rfl
      · rw [List.lookup_append, List.lookup_cons, beq_eq_false_iff_ne.2 hne]
        exact Option.or_none

/-- After a change, its value is the one under its name. -/
theorem applyChange_self {name : Text} {value : ToolValue}
    (hsame : (normalized.lookup name).isSome = (given.lookup name).isSome) :
    (∀ argument ∈ applyChange given normalized (name, some value), argument.1 = name → argument.2 = value) ∧
      ∃ argument ∈ applyChange given normalized (name, some value), argument.1 = name := by
  show (∀ argument ∈ (if (given.lookup name).isSome then assignArgument normalized name value
      else emplaceArgument normalized name value), _) ∧
    ∃ argument ∈ (if (given.lookup name).isSome then assignArgument normalized name value
      else emplaceArgument normalized name value), _
  by_cases hthere : (given.lookup name).isSome = true
  · rw [if_pos hthere]
    constructor
    · intro argument hmem hname
      obtain ⟨other, -, rfl⟩ := List.mem_map.1 hmem
      split_ifs at hname ⊢ with heq
      · rfl
      · exact absurd hname heq
    · obtain ⟨other, hmem, hname⟩ := lookup_isSome_iff.1 (hsame.trans hthere)
      exact ⟨(name, value), List.mem_map.2 ⟨other, hmem, if_pos hname⟩, rfl⟩
  · have hnew : ¬(normalized.lookup name).isSome = true := hsame ▸ hthere
    rw [if_neg hthere, emplaceArgument, if_neg hnew]
    constructor
    · intro argument hmem hname
      rcases List.mem_append.1 hmem with hmem | hmem
      · exact absurd (lookup_isSome_iff.2 ⟨argument, hmem, hname⟩) hnew
      · rw [List.mem_singleton.1 hmem]
    · exact ⟨(name, value), List.mem_append_right _ (List.mem_singleton_self _), rfl⟩

/-- The arguments after all changes: every change is made once, and nothing else is touched. -/
theorem foldl_applyChange {changes : List (Text × Option ToolValue)} (hnodup : (changes.map Prod.fst).Nodup)
    (hsame : ∀ change ∈ changes, (normalized.lookup change.1).isSome = (given.lookup change.1).isSome) :
    let result := changes.foldl (applyChange given) normalized
    (∀ name value, (name, some value) ∈ changes →
      (∀ argument ∈ result, argument.1 = name → argument.2 = value) ∧ ∃ argument ∈ result, argument.1 = name) ∧
    (∀ name, (name, none) ∈ changes → result.lookup name = normalized.lookup name) ∧
    (∀ name, name ∉ changes.map Prod.fst → result.lookup name = normalized.lookup name) ∧
    ∀ argument, argument.1 ∉ changes.map Prod.fst → (argument ∈ result ↔ argument ∈ normalized) := by
  induction changes generalizing normalized with
  | nil => exact ⟨fun _ _ h => absurd h List.not_mem_nil, fun _ _ => rfl, fun _ _ => rfl, fun _ _ => Iff.rfl⟩
  | cons change changes ih =>
      rw [List.map_cons, List.nodup_cons] at hnodup
      have hother : ∀ other ∈ changes, other.1 ≠ change.1 := fun other hmem heq =>
        hnodup.1 (heq ▸ List.mem_map_of_mem hmem)
      have hrest := @ih (applyChange given normalized change) hnodup.2 fun other hmem => by
        rw [lookup_applyChange_of_ne (hother other hmem)]
        exact hsame other (List.mem_cons_of_mem _ hmem)
      obtain ⟨hvalue, hnone, houtside, hmem⟩ := hrest
      refine ⟨?_, ?_, ?_, ?_⟩
      · intro name value hchange
        rcases List.mem_cons.1 hchange with rfl | hchange
        · obtain ⟨hall, argument, hargument, hname⟩ :=
            @applyChange_self given normalized name value (hsame _ List.mem_cons_self)
          have hsurvives : ∀ argument : Text × ToolValue, argument.1 = name → argument.1 ∉ changes.map Prod.fst :=
            fun argument hname => hname ▸ hnodup.1
          exact ⟨fun argument hargument hname =>
              hall argument ((hmem argument (hsurvives argument hname)).1 hargument) hname,
            argument, (hmem argument (hsurvives argument hname)).2 hargument, hname⟩
        · exact hvalue name value hchange
      · intro name hchange
        rcases List.mem_cons.1 hchange with rfl | hchange
        · exact houtside name hnodup.1
        · exact (hnone name hchange).trans (lookup_applyChange_of_ne (hother _ hchange))
      · intro name hname
        rw [List.map_cons, List.mem_cons, not_or] at hname
        exact (houtside name hname.2).trans (lookup_applyChange_of_ne hname.1)
      · intro argument hargument
        rw [List.map_cons, List.mem_cons, not_or] at hargument
        exact (hmem argument hargument.2).trans (mem_applyChange_of_ne hargument.1)

/-- Changes that have been made before change nothing. -/
theorem foldl_applyChange_eq_self {changes : List (Text × Option ToolValue)}
    (hmade : ∀ name value, (name, some value) ∈ changes → (given.lookup name).isSome = true ∧
      ∀ argument ∈ normalized, argument.1 = name → argument.2 = value) :
    changes.foldl (applyChange given) normalized = normalized := by
  induction changes with
  | nil => rfl
  | cons change changes ih =>
      have hstep : applyChange given normalized change = normalized := by
        obtain ⟨name, _ | value⟩ := change
        · rfl
        · obtain ⟨hthere, hall⟩ := hmade name value List.mem_cons_self
          show (if (given.lookup name).isSome then assignArgument normalized name value
            else emplaceArgument normalized name value) = normalized
          rw [if_pos hthere, assignArgument, List.map_congr_left, List.map_id]
          intro argument hmem
          split_ifs with hname
          · rw [← hname, ← hall argument hmem hname]
            rfl
          · rfl
      rw [List.foldl_cons, hstep]
      exact ih fun name value hmem => hmade name value (List.mem_cons_of_mem _ hmem)

end

/-! ## One call -/

section

variable {map : MapOrder} {unspecified : ℚ → Int64} {properties : List Property}

/-- What the loop changes for a field. -/
def argumentChange (unspecified : ℚ → Int64) (required : List Text) (given : ToolArguments)
    (field : Text × ToolInputField) : Option ToolValue :=
  ((checkArgument unspecified field.2 field.1 (required.contains field.1)
    (given.lookup field.1)).toOption).join

theorem argumentChange_eq {required : List Text} {given : ToolArguments} {field : Text × ToolInputField}
    {change : Option ToolValue}
    (h : checkArgument unspecified field.2 field.1 (required.contains field.1) (given.lookup field.1) =
      .ok change) : argumentChange unspecified required given field = change := by
  rw [argumentChange, h]
  cases change <;> rfl

/-- The loop goes through when every field does. -/
theorem checkArguments_eq_ok {required : List Text} {given normalized result : ToolArguments}
    {fields : List (Text × ToolInputField)} :
    checkArguments unspecified required given normalized fields = .ok result ↔
      ∃ change : Text × ToolInputField → Option ToolValue,
        (∀ field ∈ fields, checkArgument unspecified field.2 field.1 (required.contains field.1)
          (given.lookup field.1) = .ok (change field)) ∧
        result = (fields.map fun field => (field.1, change field)).foldl (applyChange given) normalized := by
  constructor
  · intro h
    refine ⟨argumentChange unspecified required given, ?_⟩
    induction fields generalizing normalized with
    | nil =>
        cases h
        exact ⟨List.forall_mem_nil _, rfl⟩
    | cons field fields ih =>
        obtain ⟨change, hchange, h⟩ := bind_eq_ok.1 h
        obtain ⟨hfields, rfl⟩ := ih h
        have hfield : checkArgument unspecified field.2 field.1 (required.contains field.1)
            (given.lookup field.1) = .ok change := hchange
        rw [List.map_cons, List.foldl_cons, argumentChange_eq hfield]
        exact ⟨List.forall_mem_cons.2
          ⟨hfield.trans (congrArg Except.ok (argumentChange_eq hfield).symm), hfields⟩, rfl⟩
  · rintro ⟨change, hchange, rfl⟩
    induction fields generalizing normalized with
    | nil => rfl
    | cons field fields ih =>
        obtain ⟨hfield, hfields⟩ := List.forall_mem_cons.1 hchange
        exact bind_eq_ok.2 ⟨change field, hfield, ih hfields⟩

/-- The arguments with what the fields change. -/
def changedArguments (fields : List (Text × ToolInputField))
    (change : Text × ToolInputField → Option ToolValue) (given : ToolArguments) : ToolArguments :=
  (fields.map fun field => (field.1, change field)).foldl (applyChange given) given

/-- A call is passed on when its arguments are declared and every property is accepted. -/
theorem normalizeCall_eq_ok (hnodup : (properties.map Property.name).Nodup) {call received : ToolCall} :
    normalizeCall unspecified ((⟨properties⟩ : PropertyList).toSchema map) call = .ok received ↔
      (∀ argument ∈ call.arguments, argument.1 ∈ properties.map Property.name) ∧
        ∃ change : Text × ToolInputField → Option ToolValue,
          (∀ property ∈ properties, checkArgument unspecified (property.toField map) property.name
            (property.required && property.defaultValue.isNone) (call.arguments.lookup property.name) =
              .ok (change (property.name, property.toField map))) ∧
          received = ⟨call.requestId, call.name,
            changedArguments ((⟨properties⟩ : PropertyList).toSchema map).properties change
              call.arguments⟩ := by
  have hperm := @toSchema_properties map properties hnodup
  have hfind : (call.arguments.find? fun argument =>
      !(((⟨properties⟩ : PropertyList).toSchema map).properties.map Prod.fst).contains argument.1) = none ↔
      ∀ argument ∈ call.arguments, argument.1 ∈ properties.map Property.name := by
    rw [List.find?_eq_none]
    apply forall₂_congr
    intro argument _
    rw [Bool.not_eq_true, Bool.not_eq_false', List.contains_iff_mem, (hperm.map Prod.fst).mem_iff, List.map_map]
    rfl
  -- what the loop says about the fields, said about the properties
  have hfields : ∀ {change : Text × ToolInputField → Option ToolValue},
      (∀ field ∈ ((⟨properties⟩ : PropertyList).toSchema map).properties,
        checkArgument unspecified field.2 field.1
          (((⟨properties⟩ : PropertyList).toSchema map).required.contains field.1)
          (call.arguments.lookup field.1) = .ok (change field)) ↔
      ∀ property ∈ properties, checkArgument unspecified (property.toField map) property.name
        (property.required && property.defaultValue.isNone) (call.arguments.lookup property.name) =
          .ok (change (property.name, property.toField map)) := by
    intro change
    rw [toSchema_required]
    constructor
    · intro h property hmem
      rw [← contains_requiredNames hnodup hmem]
      exact h (property.name, property.toField map)
        (hperm.mem_iff.2 (List.mem_map.2 ⟨property, hmem, rfl⟩))
    · intro h field hmem
      obtain ⟨property, hproperty, rfl⟩ := List.mem_map.1 (hperm.mem_iff.1 hmem)
      rw [contains_requiredNames hnodup hproperty]
      exact h property hproperty
  rw [normalizeCall, bind_eq_ok]
  constructor
  · rintro ⟨normalized, hnormalized, h⟩
    obtain ⟨change, hchange, rfl⟩ := checkArguments_eq_ok.1 hnormalized
    cases hargument : call.arguments.find? fun argument =>
        !(((⟨properties⟩ : PropertyList).toSchema map).properties.map Prod.fst).contains argument.1 with
    | some argument =>
        rw [hargument] at h
        cases h
    | none =>
        rw [hargument] at h
        exact ⟨hfind.1 hargument, change, hfields.1 hchange, (Except.ok.inj h).symm⟩
  · rintro ⟨hdeclared, change, hchange, rfl⟩
    refine ⟨_, checkArguments_eq_ok.2 ⟨change, hfields.2 hchange, rfl⟩, ?_⟩
    rw [hfind.2 hdeclared]
    rfl

/-- The changed arguments have what the properties come to. -/
theorem changedArguments_spec (map : MapOrder) (hnodup : (properties.map Property.name).Nodup)
    (change : Text × ToolInputField → Option ToolValue) (given : ToolArguments) :
    let received := changedArguments ((⟨properties⟩ : PropertyList).toSchema map).properties change given
    (∀ property ∈ properties, ∀ value, change (property.name, property.toField map) = some value →
      (∀ argument ∈ received, argument.1 = property.name → argument.2 = value) ∧
        received.lookup property.name = some value) ∧
    (∀ property ∈ properties, change (property.name, property.toField map) = none →
      received.lookup property.name = given.lookup property.name) ∧
    (∀ name, name ∉ properties.map Property.name → received.lookup name = given.lookup name) ∧
    ∀ argument, argument.1 ∉ properties.map Property.name → (argument ∈ received ↔ argument ∈ given) := by
  have hperm := @toSchema_properties map properties hnodup
  have hnames : ((((⟨properties⟩ : PropertyList).toSchema map).properties.map fun field =>
      (field.1, change field)).map Prod.fst).Perm (properties.map Property.name) := by
    rw [List.map_map]
    refine (hperm.map Prod.fst).trans ?_
    rw [List.map_map]
    exact List.Perm.refl _
  have hchange : ∀ property ∈ properties, ∀ result, change (property.name, property.toField map) = result →
      (property.name, result) ∈ ((⟨properties⟩ : PropertyList).toSchema map).properties.map fun field =>
        (field.1, change field) := by
    rintro property hmem _ rfl
    exact List.mem_map.2 ⟨(property.name, property.toField map),
      hperm.mem_iff.2 (List.mem_map.2 ⟨property, hmem, rfl⟩), rfl⟩
  obtain ⟨hvalue, hnone, houtside, hothers⟩ := @foldl_applyChange given given _ (hnames.nodup_iff.2 hnodup)
    fun _ _ => rfl
  refine ⟨?_, ?_, ?_, ?_⟩
  · intro property hmem value h
    obtain ⟨hall, argument, hargument, hname⟩ := hvalue property.name value (hchange property hmem _ h)
    exact ⟨hall, value_of_lookup hall (lookup_isSome_iff.2 ⟨argument, hargument, hname⟩)⟩
  · exact fun property hmem h => hnone property.name (hchange property hmem _ h)
  · exact fun name hname => houtside name (mt hnames.mem_iff.1 hname)
  · exact fun argument hname => hothers argument (mt hnames.mem_iff.1 hname)

end

end VoiceLife.Mcp
