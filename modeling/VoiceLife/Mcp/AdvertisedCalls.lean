import VoiceLife.Mcp.AdvertisedSchema
import VoiceLife.Mcp.CallChecks

/-! # Calls and the schema that is advertised

A call is checked in two places, and against what registration has accepted. The handler is called exactly
for the arguments that the advertised schema accepts, with the declared defaults, when the arguments keep
clear of the gaps between these places (`calls_asAdvertised_iff`): a default object is not checked against
its own fields when it is registered, an object without fields of its own is not checked inside an object,
and an integer default inside an object becomes a double.
-/

open DecimalText (Text ascii)
open Rfc8259 (Tree)
open JsonSchema (Valid Closed member)

namespace VoiceLife.Mcp

open Contracts

/-! ## Arguments as JSON -/

/-- The arguments as the object that they stand for. -/
def argumentsJson (arguments : ToolArguments) : Contracts.JsonValue :=
  .object (arguments.map fun argument => (argument.1, declaredJson argument.2))

/-- Members of type `object` are objects; the loop over the arguments checks this one. -/
def ObjectArguments (properties : PropertyList) (arguments : ToolArguments) : Prop :=
  ∀ property ∈ properties.properties, ∀ value, arguments.lookup property.name = some value →
    property.fields = none → property.type = .object → (declaredJson value).isObject = true

/-- Members of type `object` without fields of their own are objects, inside the arguments. -/
def InnerPlainObjects (properties : PropertyList) (arguments : ToolArguments) : Prop :=
  ∀ property ∈ properties.properties, ∀ value, arguments.lookup property.name = some value →
    ∀ fields, property.fields = some fields → PlainObjects fields (declaredJson value)

/-- No argument for a boolean, an integer or a string comes as a `JsonValue`. -/
def ScalarArguments (properties : PropertyList) (arguments : ToolArguments) : Prop :=
  ∀ property ∈ properties.properties, ∀ value, arguments.lookup property.name = some value →
    property.type ≠ .object → ∀ json, value ≠ .json json

/-- The integers among the defaults that are filled in are doubles, inside the arguments. -/
structure InnerDefaultsExact (properties : PropertyList) (arguments : ToolArguments) : Prop where
  filled : ∀ property ∈ properties.properties, arguments.lookup property.name = none → ∀ given,
    property.defaultValue = some given → ∀ fields, property.fields = some fields →
      DefaultsExact fields (declaredJson given)
  inner : ∀ property ∈ properties.properties, ∀ value, arguments.lookup property.name = some value →
    ∀ fields, property.fields = some fields → DefaultsExact fields (declaredJson value)

/-- The received arguments are the given ones with the declared defaults of the absent ones, at every level. -/
structure ArgumentsAdded (properties : PropertyList) (given received : ToolArguments) : Prop where
  scalar : ∀ property ∈ properties.properties, ∀ value, given.lookup property.name = some value →
    property.fields = none → received.lookup property.name = some value
  inner : ∀ property ∈ properties.properties, ∀ value, given.lookup property.name = some value →
    ∀ fields, property.fields = some fields → ∃ json, received.lookup property.name = some (.json json) ∧
      DefaultsAdded fields (declaredJson value) json
  added : ∀ property ∈ properties.properties, given.lookup property.name = none → ∀ value,
    property.defaultValue = some value → property.fields = none →
      received.lookup property.name = some value
  addedInner : ∀ property ∈ properties.properties, given.lookup property.name = none → ∀ value,
    property.defaultValue = some value → ∀ fields, property.fields = some fields →
      ∃ json, received.lookup property.name = some (.json json) ∧
        DefaultsAdded fields (declaredJson value) json
  absent : ∀ property ∈ properties.properties, given.lookup property.name = none →
    property.defaultValue = none → received.lookup property.name = none
  others : ∀ name, name ∉ properties.properties.map Property.name → received.lookup name = given.lookup name

theorem get_argumentsJson (arguments : ToolArguments) (name : Text) :
    (argumentsJson arguments).get name = (arguments.lookup name).map declaredJson :=
  lookup_map declaredJson arguments name

theorem get_argumentsJson_eq_none {arguments : ToolArguments} {name : Text} :
    (argumentsJson arguments).get name = none ↔ arguments.lookup name = none := by
  rw [get_argumentsJson, Option.map_eq_none_iff]

/-- A statement about an argument, and about its value as JSON. -/
theorem forall_argumentsJson {arguments : ToolArguments} {name : Text} {holds : Contracts.JsonValue → Prop} :
    (∀ item, (argumentsJson arguments).get name = some item → holds item) ↔
      ∀ value, arguments.lookup name = some value → holds (declaredJson value) := by
  simp only [get_argumentsJson, Option.map_eq_some_iff]
  constructor
  · exact fun h value hvalue => h (declaredJson value) ⟨value, hvalue, rfl⟩
  · rintro h _ ⟨value, hvalue, rfl⟩
    exact h value hvalue

/-! ## What the call accepts and what the schema does -/

section

variable {map : MapOrder} {unspecified : ℚ → Int64} {properties : PropertyList}

theorem DistinctNames.nodup {properties : List Property} (h : DistinctNames ⟨properties⟩) :
    (properties.map Property.name).Nodup := by
  obtain ⟨hnodup, -⟩ := h
  exact hnodup

/-- The handler is called for arguments that pass the checks of their properties, with defaults that do. -/
theorem normalizeCall_ok_iff (hdistinct : DistinctNames properties) (hdefined : WellDefined properties)
    {call : ToolCall} :
    (∃ received, normalizeCall unspecified (properties.toSchema map) call = .ok received) ↔
      (Checks unspecified properties (argumentsJson call.arguments) ∧
        ObjectArguments properties call.arguments) ∧
      ScalarArguments properties call.arguments ∧
        DefaultsPass unspecified properties (argumentsJson call.arguments) := by
  obtain ⟨properties⟩ := properties
  obtain ⟨hnodup, hinner⟩ := hdistinct
  obtain ⟨hvalid, -⟩ := hdefined
  have hlevel : ∀ property ∈ properties, ∀ fields, property.fields = some fields →
      ∀ {value : Contracts.JsonValue} {path : Text},
        (∃ result, normalizeObject unspecified (fields.toSchema map) value path = .ok result) ↔
          Checks unspecified fields value ∧ DefaultsPass unspecified fields value :=
    fun property hmem fields hfields => normalizeObject_ok_iff (hinner property hmem fields hfields)
  have hgiven : ∀ property ∈ properties, ∀ given, property.defaultValue = some given → ∀ fields,
      property.fields = some fields → declaredJson given = toolValueToJson given := by
    intro property hmem given hdefault fields hfields
    obtain ⟨json, rfl, -⟩ := default_of_fields (hvalid property hmem) hdefault hfields
    rfl
  constructor
  · rintro ⟨received, h⟩
    obtain ⟨hdeclared, change, hchange, -⟩ := (normalizeCall_eq_ok hnodup).1 h
    have hfield := fun property hmem => (checkArgument_ok_iff (hvalid property hmem)
      (call.arguments.lookup property.name) property.name).1 ⟨_, hchange property hmem⟩
    refine ⟨⟨.intro (List.forall_mem_map.2 hdeclared) ?_ ?_ ?_, ?_⟩, ?_, .intro ?_ ?_ ?_⟩
    · intro property hmem habsent
      exact (hfield property hmem).1 (get_argumentsJson_eq_none.1 habsent)
    · intro property hmem
      exact forall_argumentsJson.2 fun value hvalue hfields =>
        ((hfield property hmem).2.1 value hvalue hfields).1
    · intro property hmem
      exact forall_argumentsJson.2 fun value hvalue fields hfields =>
        ((hlevel property hmem fields hfields).1 ((hfield property hmem).2.2.1 value hvalue fields hfields)).1
    · exact fun property hmem value hvalue hfields =>
        ((hfield property hmem).2.1 value hvalue hfields).2.1
    · intro property hmem value hvalue htype
      exact ((hfield property hmem).2.1 value hvalue (if_neg htype)).2.2 htype
    · intro property hmem habsent given hdefault fields hfields
      rw [← hgiven property hmem given hdefault fields hfields]
      exact ((hlevel property hmem fields hfields).1
        ((hfield property hmem).2.2.2 (get_argumentsJson_eq_none.1 habsent) given hdefault fields hfields)).1
    · intro property hmem habsent given hdefault fields hfields
      rw [← hgiven property hmem given hdefault fields hfields]
      exact ((hlevel property hmem fields hfields).1
        ((hfield property hmem).2.2.2 (get_argumentsJson_eq_none.1 habsent) given hdefault fields hfields)).2
    · intro property hmem
      exact forall_argumentsJson.2 fun value hvalue fields hfields =>
        ((hlevel property hmem fields hfields).1 ((hfield property hmem).2.2.1 value hvalue fields hfields)).2
  · rintro ⟨⟨hchecks, hobjects⟩, hscalars, hpass⟩
    cases hchecks with
    | intro hdeclared hpresent hscalar hobject =>
      cases hpass with
      | intro hchecked hfilled hnested =>
        have hfield : ∀ property ∈ properties, ∃ change, checkArgument unspecified (property.toField map)
            property.name (property.required && property.defaultValue.isNone)
            (call.arguments.lookup property.name) = .ok change := by
          intro property hmem
          rw [checkArgument_ok_iff (hvalid property hmem)]
          refine ⟨fun habsent => hpresent property hmem (get_argumentsJson_eq_none.2 habsent), ?_, ?_, ?_⟩
          · exact fun value hvalue hfields => ⟨forall_argumentsJson.1 (hscalar property hmem) value hvalue hfields,
              hobjects property hmem value hvalue hfields, hscalars property hmem value hvalue⟩
          · intro value hvalue fields hfields
            exact (hlevel property hmem fields hfields).2
              ⟨forall_argumentsJson.1 (hobject property hmem) value hvalue fields hfields,
                forall_argumentsJson.1 (hnested property hmem) value hvalue fields hfields⟩
          · intro habsent given hdefault fields hfields
            rw [hgiven property hmem given hdefault fields hfields]
            exact (hlevel property hmem fields hfields).2
              ⟨hchecked property hmem (get_argumentsJson_eq_none.2 habsent) given hdefault fields hfields,
                hfilled property hmem (get_argumentsJson_eq_none.2 habsent) given hdefault fields hfields⟩
        have hnames : ∀ argument ∈ call.arguments, argument.1 ∈ properties.map Property.name :=
          fun argument hmem => hdeclared _ (List.mem_map_of_mem hmem)
        refine ⟨_, (normalizeCall_eq_ok hnodup).2 ⟨hnames,
          argumentChange unspecified (requiredNames properties) call.arguments, ?_, rfl⟩⟩
        intro property hmem
        obtain ⟨change, hchange⟩ := hfield property hmem
        rw [← contains_requiredNames hnodup hmem] at hchange ⊢
        rw [@argumentChange_eq _ _ _ (property.name, property.toField map) change hchange, hchange]

/-- The schema accepts arguments that pass the checks of their properties, with objects where it wants them. -/
theorem argumentsAdvertised_iff (hdistinct : DistinctNames properties) {arguments : ToolArguments}
    (hsmall : (argumentsJson arguments).All SmallInteger fun _ => True) :
    ObjectAdvertised (properties.toSchema map) ((argumentsJson arguments).toTree id) ↔
      (Checks unspecified properties (argumentsJson arguments) ∧ ObjectArguments properties arguments) ∧
        InnerPlainObjects properties arguments := by
  rw [objectAdvertised_iff hdistinct hsmall, and_assoc]
  apply and_congr_right
  intro _
  obtain ⟨properties⟩ := properties
  constructor
  · rintro ⟨hplain, hnested⟩
    exact ⟨fun property hmem => forall_argumentsJson.1 (hplain property hmem),
      fun property hmem => forall_argumentsJson.1 (hnested property hmem)⟩
  · rintro ⟨hplain, hnested⟩
    exact .intro (fun property hmem => forall_argumentsJson.2 (hplain property hmem))
      fun property hmem => forall_argumentsJson.2 (hnested property hmem)

/-- The received arguments have the declared defaults, provided that the integers inside are doubles. -/
theorem argumentsAdded_iff (hdistinct : DistinctNames properties) (hdefined : WellDefined properties)
    {call received : ToolCall}
    (h : normalizeCall unspecified (properties.toSchema map) call = .ok received) :
    ArgumentsAdded properties call.arguments received.arguments ↔
      InnerDefaultsExact properties call.arguments := by
  obtain ⟨properties⟩ := properties
  obtain ⟨hnodup, hinner⟩ := hdistinct
  obtain ⟨hvalid, -⟩ := hdefined
  obtain ⟨-, change, hchange, rfl⟩ := (normalizeCall_eq_ok hnodup).1 h
  obtain ⟨hchanged, hkept, hothers, -⟩ := changedArguments_spec map hnodup change call.arguments
  have hlevel : ∀ property ∈ properties, ∀ fields, property.fields = some fields →
      ∀ {value result : Contracts.JsonValue} {path : Text},
        normalizeObject unspecified (fields.toSchema map) value path = .ok result →
        (DefaultsAdded fields value result ↔ DefaultsExact fields value) :=
    fun property hmem fields hfields => defaultsAdded_iff (hinner property hmem fields hfields)
  have hfield := fun property hmem => change_of_checkArgument (hvalid property hmem) (hchange property hmem)
  constructor
  · rintro ⟨-, hobject, -, hfilled, -, -⟩
    constructor
    · intro property hmem habsent given hdefault fields hfields
      obtain ⟨result, hresult, hvalue⟩ := (hfield property hmem).2.2.2.1 habsent given hdefault fields hfields
      obtain ⟨json, hjson, hadded⟩ := hfilled property hmem habsent given hdefault fields hfields
      rw [(hchanged property hmem _ hvalue).2] at hjson
      cases hjson
      exact (hlevel property hmem fields hfields hresult).1 hadded
    · intro property hmem value hvalue fields hfields
      obtain ⟨result, hresult, hother⟩ := (hfield property hmem).2.1 value hvalue fields hfields
      obtain ⟨json, hjson, hadded⟩ := hobject property hmem value hvalue fields hfields
      rw [(hchanged property hmem _ hother).2] at hjson
      cases hjson
      exact (hlevel property hmem fields hfields hresult).1 hadded
  · rintro ⟨hfilled, hnested⟩
    refine ⟨?_, ?_, ?_, ?_, ?_, hothers⟩
    · intro property hmem value hvalue hfields
      exact (hkept property hmem ((hfield property hmem).1 value hvalue hfields)).trans hvalue
    · intro property hmem value hvalue fields hfields
      obtain ⟨result, hresult, hother⟩ := (hfield property hmem).2.1 value hvalue fields hfields
      exact ⟨result, (hchanged property hmem _ hother).2, (hlevel property hmem fields hfields hresult).2
        (hnested property hmem value hvalue fields hfields)⟩
    · intro property hmem habsent given hdefault hfields
      exact (hchanged property hmem _ ((hfield property hmem).2.2.1 habsent given hdefault hfields)).2
    · intro property hmem habsent given hdefault fields hfields
      obtain ⟨result, hresult, hvalue⟩ := (hfield property hmem).2.2.2.1 habsent given hdefault fields hfields
      exact ⟨result, (hchanged property hmem _ hvalue).2, (hlevel property hmem fields hfields hresult).2
        (hfilled property hmem habsent given hdefault fields hfields)⟩
    · intro property hmem habsent hdefault
      exact (hkept property hmem ((hfield property hmem).2.2.2.2 habsent hdefault)).trans habsent

/-- What is received is passed on as it is. -/
theorem normalizeCall_again (hdistinct : DistinctNames properties) (hdefined : WellDefined properties)
    {call received : ToolCall}
    (h : normalizeCall unspecified (properties.toSchema map) call = .ok received)
    (hexact : InnerDefaultsExact properties call.arguments) :
    normalizeCall unspecified (properties.toSchema map) received = .ok received := by
  obtain ⟨properties⟩ := properties
  obtain ⟨hnodup, hinner⟩ := hdistinct
  obtain ⟨hvalid, hdefined⟩ := hdefined
  obtain ⟨hdeclared, change, hchange, rfl⟩ := (normalizeCall_eq_ok hnodup).1 h
  obtain ⟨hchanged, hkept, -, hothers⟩ := changedArguments_spec map hnodup change call.arguments
  have hfield := fun property hmem => change_of_checkArgument (hvalid property hmem) (hchange property hmem)
  -- the second round changes nothing, or puts back what is there
  have hround : ∀ property ∈ properties, ∃ again,
      checkArgument unspecified (property.toField map) property.name
        (property.required && property.defaultValue.isNone)
        ((changedArguments ((⟨properties⟩ : PropertyList).toSchema map).properties change
          call.arguments).lookup property.name) = .ok again ∧
      (again = none ∨ again = change (property.name, property.toField map)) := by
    intro property hmem
    have hlevel : ∀ fields, property.fields = some fields →
        ∀ {value result : Contracts.JsonValue},
          normalizeObject unspecified (fields.toSchema map) value property.name = .ok result →
          DefaultsExact fields value → change (property.name, property.toField map) = some (.json result) →
          ∃ again, checkArgument unspecified (property.toField map) property.name
            (property.required && property.defaultValue.isNone)
            ((changedArguments ((⟨properties⟩ : PropertyList).toSchema map).properties change
              call.arguments).lookup property.name) = .ok again ∧
            (again = none ∨ again = change (property.name, property.toField map)) := by
      intro fields hfields value result hresult hdoubles hvalue
      refine ⟨_, ?_, .inr rfl⟩
      rw [(hchanged property hmem _ hvalue).2, hvalue]
      exact (checkArgument_object (hvalid property hmem) hfields).2 ⟨result,
        normalizeObject_idempotent (hinner property hmem fields hfields) (hdefined property hmem fields hfields)
          hresult hdoubles, rfl⟩
    obtain ⟨hscalar, hobject, hadded, haddedInner, habsent⟩ := hfield property hmem
    obtain hvalue | ⟨value, hvalue⟩ := Option.eq_none_or_eq_some (call.arguments.lookup property.name)
    · obtain hdefault | ⟨given, hdefault⟩ := Option.eq_none_or_eq_some property.defaultValue
      · refine ⟨none, ?_, .inl rfl⟩
        rw [hkept property hmem (habsent hvalue hdefault), ← habsent hvalue hdefault]
        exact hchange property hmem
      · obtain hfields | ⟨fields, hfields⟩ := Option.eq_none_or_eq_some property.fields
        · refine ⟨none, ?_, .inl rfl⟩
          rw [(hchanged property hmem _ (hadded hvalue given hdefault hfields)).2]
          exact checkArgument_given (hvalid property hmem) hfields hdefault property.name _
        · obtain ⟨result, hresult, hjson⟩ := haddedInner hvalue given hdefault fields hfields
          exact hlevel fields hfields hresult
            (hexact.filled property hmem hvalue given hdefault fields hfields) hjson
    · obtain hfields | ⟨fields, hfields⟩ := Option.eq_none_or_eq_some property.fields
      · refine ⟨none, ?_, .inl rfl⟩
        rw [hkept property hmem (hscalar value hvalue hfields), ← hscalar value hvalue hfields]
        exact hchange property hmem
      · obtain ⟨result, hresult, hjson⟩ := hobject value hvalue fields hfields
        exact hlevel fields hfields hresult (hexact.inner property hmem value hvalue fields hfields) hjson
  have hchanges : ∀ property ∈ properties,
      checkArgument unspecified (property.toField map) property.name
        (property.required && property.defaultValue.isNone)
        ((changedArguments ((⟨properties⟩ : PropertyList).toSchema map).properties change
          call.arguments).lookup property.name) =
        .ok (argumentChange unspecified (requiredNames properties)
          (changedArguments ((⟨properties⟩ : PropertyList).toSchema map).properties change call.arguments)
          (property.name, property.toField map)) := by
    intro property hmem
    obtain ⟨again, hagain, -⟩ := hround property hmem
    rw [← contains_requiredNames hnodup hmem] at hagain ⊢
    rw [@argumentChange_eq _ _ _ (property.name, property.toField map) again hagain, hagain]
  refine (normalizeCall_eq_ok hnodup).2 ⟨?_, _, hchanges, ?_⟩
  · intro argument hargument
    by_contra hname
    exact hname (hdeclared argument ((hothers argument hname).1 hargument))
  · congr 1
    symm
    apply foldl_applyChange_eq_self
    intro name value hmade
    obtain ⟨field, hfieldmem, heq⟩ := List.mem_map.1 hmade
    obtain ⟨property, hmem, rfl⟩ := List.mem_map.1 ((toSchema_properties hnodup).mem_iff.1 hfieldmem)
    obtain ⟨rfl, hvalue⟩ := Prod.mk.inj heq
    obtain ⟨again, hagain, hcases⟩ := hround property hmem
    rw [← Except.ok.inj ((hchanges property hmem).symm.trans hagain), hvalue] at hcases
    obtain ⟨hall, hlookup⟩ := hchanged property hmem value (hcases.resolve_left (Option.some_ne_none value)).symm
    exact ⟨by rw [hlookup]; rfl, hall⟩

end

/-! ## Registration -/

theorem validatePropertyDefinition_ok {property : Property} {path : Text}
    (h : validatePropertyDefinition property path = .ok ()) :
    definitionInvalid property = false ∧
      ∀ fields, property.fields = some fields → validateProperties fields.properties path = .ok () := by
  obtain ⟨name, type, description, inner, defaultValue, minimum, maximum, minLength, maxLength, valid,
    required⟩ := property
  rw [validatePropertyDefinition] at h
  split_ifs at h with hinvalid
  refine ⟨Bool.eq_false_iff.2 hinvalid, fun fields hfields => ?_⟩
  unfold Property.fields at hfields
  split_ifs at hfields with htype
  have hinner : inner = some fields := hfields
  subst hinner
  obtain ⟨properties⟩ := fields
  rw [validateInner, if_neg (not_not.2 htype)] at h
  exact h

theorem validateProperties_ok {properties : List Property} {path : Text}
    (h : validateProperties properties path = .ok ()) :
    ∀ property ∈ properties, validatePropertyDefinition property (childPath path property.name) = .ok () := by
  induction properties with
  | nil => exact List.forall_mem_nil _
  | cons property properties ih =>
      rw [validateProperties] at h
      obtain ⟨unit, hproperty, h⟩ := bind_eq_ok.1 h
      exact List.forall_mem_cons.2 ⟨hproperty, ih h⟩

/-- Registration checks the properties of every level. -/
theorem wellDefined_of_validate {properties : PropertyList} {path : Text}
    (h : validateProperties properties.properties path = .ok ()) : WellDefined properties := by
  induction properties using PropertyList.induction generalizing path with
  | level properties ih =>
    have hproperties := validateProperties_ok h
    refine .intro (fun property hmem => (validatePropertyDefinition_ok (hproperties property hmem)).1) ?_
    intro property hmem fields hfields
    exact ih property hmem fields hfields ((validatePropertyDefinition_ok (hproperties property hmem)).2 fields hfields)

variable {ρ : Type}

/-- What registration has done when it says so. -/
theorem McpServer.of_addToolWithContext {map : MapOrder} {server server' : McpServer ρ} {name description : Text}
    {properties : PropertyList} {handler : ToolCall → ρ}
    (h : server.addToolWithContext map name description properties (some handler) = .ok server') :
    WellDefined properties ∧
      server'.tools.lookup name = some ⟨⟨name, description, properties.toSchema map⟩, handler⟩ := by
  unfold McpServer.addToolWithContext at h
  simp only at h
  split_ifs at h with hempty hknown
  obtain ⟨unit, hvalidate, h⟩ := bind_eq_ok.1 h
  cases h
  refine ⟨wellDefined_of_validate hvalidate, ?_⟩
  rw [McpServer.register, List.lookup_cons, beq_self_eq_true]

/-- The schema that a tool list has for a tool, its text read as JSON. -/
def Advertises (listing name : Text) (schema : Tree) : Prop :=
  ∃ tree tools, Rfc8259.read listing = some tree ∧ member (ascii "tools") tree = some (.array tools) ∧
    ∃ tool ∈ tools, member (ascii "name") tool = some (.string name) ∧
      member (ascii "inputSchema") tool = some schema

/-- The schema in the list is that of the registered tool. -/
theorem McpServer.schema_of_advertises {server : McpServer ρ} {name : Text} {schema : Tree}
    (h : Advertises server.listToolsJson name schema) {tool : RegisteredTool ρ}
    (htool : server.tools.lookup name = some tool) :
    schema = (inputSchemaValue tool.definition.inputSchema).toTree := by
  obtain ⟨tree, tools, hread, htools, listed, hmem, hname, hschema⟩ := h
  rw [McpServer.listToolsJson, serializeListToolsResult, serializeListToolsResultPage,
    if_neg (by omega), writeDocument] at hread
  cases hwritten : writeValue (pageDocument server.listTools 0 server.listTools.length) with
  | none =>
      rw [hwritten] at hread
      have hempty : Rfc8259.read (ascii "\x7b\x7d") = some (.object []) := rfl
      rw [Option.getD_none, hempty] at hread
      cases hread
      cases htools
  | some text =>
      rw [hwritten, Option.getD_some, (denotes_writeValue hwritten).read] at hread
      cases hread
      rw [pageDocument, List.take_length, List.drop_zero] at htools
      have hlist : tools = MutValue.toTrees (server.listTools.map appendTool) :=
        (Tree.array.inj (Option.some.inj htools)).symm
      rw [hlist, MutValue.toTrees_eq_map, List.map_map] at hmem
      obtain ⟨definition, hdefinition, rfl⟩ := List.mem_map.1 hmem
      have hequal : definition.name = name := Tree.string.inj (Option.some.inj hname)
      obtain ⟨⟨other, hother⟩, -, rfl⟩ := List.mem_map.1 hdefinition
      have hfound : server.tools.lookup other =
          some ((server.tools.lookup other).get (server.registered other hother)) := (Option.some_get _).symm
      have hsame : other = name := (server.named other _ hfound).symm.trans hequal
      subst hsame
      rw [Option.some.inj (htool.symm.trans hfound)]
      exact (Option.some.inj hschema).symm

/-- A list that is written has the schema of every tool in it. -/
theorem McpServer.advertises_of_written {server : McpServer ρ} {definition : ToolDefinition}
    (hmem : definition ∈ server.listTools)
    (hwritten : (writeValue (pageDocument server.listTools 0 server.listTools.length)).isSome = true) :
    Advertises server.listToolsJson definition.name (inputSchemaValue definition.inputSchema).toTree := by
  obtain ⟨text, htext⟩ := Option.isSome_iff_exists.1 hwritten
  refine ⟨(pageDocument server.listTools 0 server.listTools.length).toTree,
    MutValue.toTrees (server.listTools.map appendTool), ?_, ?_, (appendTool definition).toTree, ?_, rfl, rfl⟩
  · rw [McpServer.listToolsJson, serializeListToolsResult, serializeListToolsResultPage, if_neg (by omega),
      writeDocument, htext, Option.getD_some]
    exact (denotes_writeValue htext).read
  · rw [pageDocument, List.take_length, List.drop_zero]
    rfl
  · rw [MutValue.toTrees_eq_map, List.map_map]
    exact List.mem_map_of_mem hmem

/-- What a call should come to, for the schema that is advertised. -/
structure AsAdvertised (unspecified : ℚ → Int64) (server : McpServer ρ) (handler : ToolCall → ρ) (schema : Tree)
    (properties : PropertyList) (call : ToolCall) : Prop where
  invoked : (∃ received result, server.call unspecified call = .handled received result) ↔
    Valid schema ((argumentsJson call.arguments).toTree id) ∧
      Closed schema ((argumentsJson call.arguments).toTree id)
  received : ∀ received result, server.call unspecified call = .handled received result →
    result = handler received ∧ received.requestId = call.requestId ∧ received.name = call.name ∧
      ArgumentsAdded properties call.arguments received.arguments
  again : ∀ received result, server.call unspecified call = .handled received result →
    server.call unspecified received = .handled received result

/-- Arguments that pass the checks of their properties keep clear of the gaps, or fall into two of them that
make up for each other. -/
def ClearOfGaps (unspecified : ℚ → Int64) (properties : PropertyList) (arguments : ToolArguments) : Prop :=
  Checks unspecified properties (argumentsJson arguments) ∧ ObjectArguments properties arguments →
    ((ScalarArguments properties arguments ∧ DefaultsPass unspecified properties (argumentsJson arguments)) ∧
      InnerPlainObjects properties arguments ∧ InnerDefaultsExact properties arguments) ∨
    (¬(ScalarArguments properties arguments ∧ DefaultsPass unspecified properties (argumentsJson arguments)) ∧
      ¬InnerPlainObjects properties arguments)

/-- The schema of a tool is the one that its arguments are held against. -/
theorem inputSchema_iff {schema : ToolInputSchema} (htype : schema.type = ascii "object") {value : Tree} :
    Valid (inputSchemaValue schema).toTree value ∧ Closed (inputSchemaValue schema).toTree value ↔
      ObjectAdvertised schema value := by
  obtain ⟨type, fields, required⟩ := schema
  have hname : type = inputTypeName .object := htype
  subst hname
  rw [ObjectAdvertised, FieldsValid, FieldsClosed, ← hasType_inputTypeName, ← toTrees_strings,
    ← map_fst_appendInputFields]
  show ((ascii "type" = ascii "type" → JsonSchema.HasType _ value) ∧
      (ascii "properties" = ascii "properties" → JsonSchema.MembersValid _ value) ∧
      (ascii "required" = ascii "required" → JsonSchema.HasMembers _ value) ∧ True) ∧
    (True ∧ (ascii "properties" = ascii "properties" → _ ∧ JsonSchema.MembersClosed _ value) ∧ True ∧ True) ↔ _
  constructor
  · rintro ⟨⟨hobject, hmembers, hrequired, -⟩, -, hclosed, -⟩
    exact ⟨hobject rfl, ⟨hmembers rfl, hrequired rfl⟩, hclosed rfl⟩
  · rintro ⟨hobject, ⟨hmembers, hrequired⟩, hclosed⟩
    exact ⟨⟨fun _ => hobject, fun _ => hmembers, fun _ => hrequired, trivial⟩, trivial, fun _ => hclosed, trivial,
      trivial⟩

/-- Calls are as advertised exactly when their arguments keep clear of the gaps. -/
theorem calls_asAdvertised_iff {map : MapOrder} {unspecified : ℚ → Int64} {server server' : McpServer ρ}
    {name description : Text} {properties : PropertyList} {handler : ToolCall → ρ}
    (hadd : server.addToolWithContext map name description properties (some handler) = .ok server')
    (hdistinct : DistinctNames properties) {schema : Tree} (hlisted : Advertises server'.listToolsJson name schema)
    {call : ToolCall} (hname : call.name = name) (hid : call.requestId ≠ [])
    (hsmall : (argumentsJson call.arguments).All SmallInteger fun _ => True) :
    AsAdvertised unspecified server' handler schema properties call ↔
      ClearOfGaps unspecified properties call.arguments := by
  obtain ⟨hdefined, htool⟩ := McpServer.of_addToolWithContext hadd
  have hschema := McpServer.schema_of_advertises hlisted htool
  have hcall : ∀ {other : ToolCall}, other.name = name → other.requestId ≠ [] → ∀ received result,
      server'.call unspecified other = .handled received result ↔
        normalizeCall unspecified (properties.toSchema map) other = .ok received ∧ result = handler received := by
    intro other hname hid received result
    rw [McpServer.call, if_neg hid, hname, htool]
    dsimp only
    cases normalizeCall unspecified (properties.toSchema map) other with
    | error status => exact iff_of_false (fun h => by cases h) fun h => by cases h.1
    | ok normalized =>
        constructor
        · intro h
          cases h
          exact ⟨rfl, rfl⟩
        · rintro ⟨h, rfl⟩
          rw [Except.ok.inj h]
  have hcalled : (∃ received result, server'.call unspecified call = .handled received result) ↔
      ∃ received, normalizeCall unspecified (properties.toSchema map) call = .ok received := by
    constructor
    · rintro ⟨received, result, h⟩
      exact ⟨received, ((hcall hname hid received result).1 h).1⟩
    · rintro ⟨received, h⟩
      exact ⟨received, handler received, (hcall hname hid _ _).2 ⟨h, rfl⟩⟩
  have hinvoked := hcalled.trans (@normalizeCall_ok_iff map unspecified properties hdistinct hdefined call)
  have hadvertised := (@inputSchema_iff (properties.toSchema map) (by cases properties; rfl) _).trans
    (@argumentsAdvertised_iff map unspecified properties hdistinct call.arguments hsmall)
  rw [← hschema] at hadvertised
  have hreceived : ∀ {received result}, server'.call unspecified call = .handled received result →
      result = handler received ∧ received.requestId = call.requestId ∧ received.name = call.name := by
    intro received result h
    obtain ⟨hnormalized, rfl⟩ := (hcall hname hid received result).1 h
    obtain ⟨properties⟩ := properties
    obtain ⟨-, change, -, rfl⟩ := (normalizeCall_eq_ok hdistinct.nodup).1 hnormalized
    exact ⟨rfl, rfl, rfl⟩
  constructor
  · rintro ⟨hboth, hreceived, -⟩ hchecks
    rw [hinvoked, hadvertised, and_congr_right_iff] at hboth
    by_cases hpasses : ScalarArguments properties call.arguments ∧
        DefaultsPass unspecified properties (argumentsJson call.arguments)
    · obtain ⟨received, hnormalized⟩ := (normalizeCall_ok_iff hdistinct hdefined).2 ⟨hchecks, hpasses⟩
      have hadded := (hreceived received _ ((hcall hname hid _ _).2 ⟨hnormalized, rfl⟩)).2.2.2
      exact .inl ⟨hpasses, (hboth hchecks).1 hpasses, (argumentsAdded_iff hdistinct hdefined hnormalized).1 hadded⟩
    · exact .inr ⟨hpasses, mt (hboth hchecks).2 hpasses⟩
  · intro hclear
    have hexact : ∀ {received}, normalizeCall unspecified (properties.toSchema map) call = .ok received →
        InnerDefaultsExact properties call.arguments := by
      intro received h
      obtain ⟨hchecks, hpasses⟩ := (normalizeCall_ok_iff hdistinct hdefined).1 ⟨received, h⟩
      exact ((hclear hchecks).resolve_right fun h => h.1 hpasses).2.2
    refine ⟨?_, ?_, ?_⟩
    · rw [hinvoked, hadvertised, and_congr_right_iff]
      intro hchecks
      rcases hclear hchecks with ⟨hpasses, hplain, -⟩ | ⟨hpasses, hplain⟩
      · exact iff_of_true hpasses hplain
      · exact iff_of_false hpasses hplain
    · intro received result h
      obtain ⟨hnormalized, -⟩ := (hcall hname hid received result).1 h
      obtain ⟨hresult, hrequest, hsame⟩ := hreceived h
      exact ⟨hresult, hrequest, hsame,
        (argumentsAdded_iff hdistinct hdefined hnormalized).2 (hexact hnormalized)⟩
    · intro received result h
      obtain ⟨hnormalized, hresult⟩ := (hcall hname hid received result).1 h
      obtain ⟨-, hrequest, hsame⟩ := hreceived h
      exact (hcall (hsame.trans hname) (hrequest ▸ hid) received result).2
        ⟨normalizeCall_again hdistinct hdefined hnormalized (hexact hnormalized), hresult⟩

/-- A map that is gone through as it has been filled. -/
def MapOrder.asFilled : MapOrder where
  order members := members
  perm members := List.Perm.refl members

/-- A server without tools. -/
def McpServer.empty : McpServer Unit where
  registered := List.forall_mem_nil _
  nodup := List.nodup_nil
  named _ _ h := by cases h

/-- A rate, with a default. -/
def voiceProperties : PropertyList where
  properties := [{ name := ascii "rate", type := .integer, defaultValue := some (.integer 5) }]

/-- A volume, and a voice with a rate. -/
def speakProperties : PropertyList where
  properties := [
    { name := ascii "volume", type := .integer, minimum := some 0, maximum := some 100 },
    { name := ascii "voice", type := .object, required := false, objectProperties := some voiceProperties }]

def speakServer : McpServer Unit :=
  McpServer.empty.register ⟨ascii "speak", ascii "Speaks.", speakProperties.toSchema .asFilled⟩ (fun _ => ()) rfl

theorem calls_asAdvertised_speak :
    AsAdvertised (fun _ => 0) speakServer (fun _ => ())
      (inputSchemaValue (speakProperties.toSchema .asFilled)).toTree speakProperties
      ⟨ascii "1", ascii "speak", [(ascii "volume", .integer 30), (ascii "voice", .json (.object []))]⟩ := by
  have hadd : McpServer.empty.addToolWithContext .asFilled (ascii "speak") (ascii "Speaks.") speakProperties
      (some fun _ => ()) = .ok speakServer := rfl
  have hlisted : Advertises speakServer.listToolsJson (ascii "speak")
      (inputSchemaValue (speakProperties.toSchema .asFilled)).toTree :=
    @McpServer.advertises_of_written _ speakServer
      ⟨ascii "speak", ascii "Speaks.", speakProperties.toSchema .asFilled⟩ List.mem_cons_self (by decide +kernel)
  have hvoice : ∀ {property : Property} {fields : PropertyList}, property ∈ speakProperties.properties →
      property.fields = some fields →
        property.name = ascii "voice" ∧ property.defaultValue = none ∧ fields = voiceProperties := by
    intro property fields hmem hfields
    rcases List.mem_cons.1 hmem with rfl | hmem
    · cases hfields
    · rcases List.mem_singleton.1 hmem with rfl
      exact ⟨rfl, rfl, (Option.some.inj hfields).symm⟩
  have hrate : ∀ {property : Property} {fields : PropertyList}, property ∈ voiceProperties.properties →
      property.fields ≠ some fields := by
    intro property fields hmem hfields
    rw [List.mem_singleton.1 hmem] at hfields
    cases hfields
  have hgiven : ∀ {property : Property} {value : ToolValue}, property.name = ascii "voice" →
      List.lookup property.name [(ascii "volume", .integer 30), (ascii "voice", .json (.object []))] =
        some value → value = .json (.object []) := by
    intro property value hname hvalue
    rw [hname] at hvalue
    exact (Option.some.inj hvalue).symm
  refine (calls_asAdvertised_iff hadd ?_ hlisted rfl (by decide +kernel) ?_).2 ?_
  · refine .intro (by decide +kernel) fun property hmem fields hfields => ?_
    rw [(hvoice hmem hfields).2.2]
    exact .intro (by decide +kernel) fun _ hinner _ hother => absurd hother (hrate hinner)
  · exact ⟨⟨trivial, 30, rfl, by decide⟩, ⟨trivial, trivial⟩, trivial⟩
  · intro _
    refine .inl ⟨⟨?_, .intro ?_ ?_ ?_⟩, ?_, ?_, ?_⟩
    · intro property hmem value hvalue htype json
      rcases List.mem_cons.1 hmem with rfl | hmem
      · cases hvalue
        exact fun h => by cases h
      · rw [List.mem_singleton.1 hmem] at htype
        exact absurd rfl htype
    · intro property hmem _ given hdefault fields hfields
      rw [(hvoice hmem hfields).2.1] at hdefault
      cases hdefault
    · intro property hmem _ given hdefault fields hfields
      rw [(hvoice hmem hfields).2.1] at hdefault
      cases hdefault
    · intro property hmem
      refine forall_argumentsJson.2 fun value hvalue fields hfields => ?_
      obtain ⟨hname, -, rfl⟩ := hvoice hmem hfields
      rw [hgiven hname hvalue]
      exact .intro (fun _ hinner _ _ _ _ hother => absurd hother (hrate hinner))
        (fun _ hinner _ _ _ _ hother => absurd hother (hrate hinner))
        fun _ hinner _ _ _ hother => absurd hother (hrate hinner)
    · intro property hmem value hvalue fields hfields
      obtain ⟨hname, -, rfl⟩ := hvoice hmem hfields
      rw [hgiven hname hvalue]
      exact .intro (fun _ _ item hitem => by cases hitem) fun _ _ item hitem => by cases hitem
    · intro property hmem _ given hdefault fields hfields
      rw [(hvoice hmem hfields).2.1] at hdefault
      cases hdefault
    · intro property hmem value hvalue fields hfields
      obtain ⟨hname, -, rfl⟩ := hvoice hmem hfields
      rw [hgiven hname hvalue]
      refine .intro ?_ (fun _ hinner _ _ _ _ hother => absurd hother (hrate hinner))
        fun _ hinner _ _ _ hother => absurd hother (hrate hinner)
      intro inner hinner _ given hdefault _
      rw [List.mem_singleton.1 hinner] at hdefault
      rw [← Option.some.inj hdefault]
      have hfive : toDouble 5 = ((5 : Int64).toInt : ℚ) := by decide +kernel
      exact congrArg Contracts.JsonValue.number hfive

/-- A sound that is absent by default, and has a volume when it is there. -/
def alarmProperties : PropertyList where
  properties := [
    { name := ascii "sound", type := .object, required := false, defaultValue := some (.json (.object [])),
      objectProperties := some ⟨[{ name := ascii "volume", type := .integer }]⟩ }]

def alarmServer : McpServer Unit :=
  McpServer.empty.register ⟨ascii "alarm", ascii "Rings.", alarmProperties.toSchema .asFilled⟩ (fun _ => ()) rfl

theorem empty_default_not_called :
    McpServer.empty.addToolWithContext .asFilled (ascii "alarm") (ascii "Rings.") alarmProperties
      (some fun _ => ()) = .ok alarmServer ∧
    DistinctNames alarmProperties ∧
    Advertises alarmServer.listToolsJson (ascii "alarm")
      (inputSchemaValue (alarmProperties.toSchema .asFilled)).toTree ∧
    (argumentsJson []).All SmallInteger (fun _ => True) ∧
    ¬AsAdvertised (fun _ => 0) alarmServer (fun _ => ())
      (inputSchemaValue (alarmProperties.toSchema .asFilled)).toTree alarmProperties
      ⟨ascii "1", ascii "alarm", []⟩ := by
  have hsound : ∀ {property : Property}, property ∈ alarmProperties.properties →
      property = { name := ascii "sound", type := .object, required := false,
                   defaultValue := some (.json (.object [])),
                   objectProperties := some ⟨[{ name := ascii "volume", type := .integer }]⟩ } :=
    List.mem_singleton.1
  refine ⟨rfl, ?_, ?_, trivial, ?_⟩
  · refine .intro (by decide +kernel) fun property hmem fields hfields => ?_
    rw [hsound hmem] at hfields
    cases hfields
    refine .intro (by decide +kernel) fun inner hinner other hother => ?_
    rw [List.mem_singleton.1 hinner] at hother
    cases hother
  · exact @McpServer.advertises_of_written _ alarmServer
      ⟨ascii "alarm", ascii "Rings.", alarmProperties.toSchema .asFilled⟩ List.mem_cons_self (by decide +kernel)
  · rintro ⟨hinvoked, -, -⟩
    have hfails : alarmServer.call (fun _ => 0) ⟨ascii "1", ascii "alarm", []⟩ =
        .failure (invalidArgument "缺少参数：" (ascii "sound.volume")) := rfl
    have hadvertised : ObjectAdvertised (alarmProperties.toSchema .asFilled) (.object []) := by
      refine (objectAdvertised_object (by decide +kernel)).2 ⟨List.forall_mem_nil _, ?_, ?_⟩
      · intro property hmem _ _
        rw [hsound hmem]
        rfl
      · intro property _ item hitem
        cases hitem
    obtain ⟨received, result, hcall⟩ := hinvoked.2 ((inputSchema_iff rfl).2 hadvertised)
    rw [hfails] at hcall
    cases hcall

end VoiceLife.Mcp
