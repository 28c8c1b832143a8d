import VoiceLife.Contracts.Json

/-! # `mcp_server.h` and `tool.h`: tool values, properties and input schemas

Business code declares properties, and `to_schema` turns them into the schema that is advertised and checked.
A schema keeps its fields in a `std::unordered_map`, whose order is not specified: it is a parameter.
-/

open DecimalText (Text ascii)

namespace VoiceLife.Mcp

/-! ### tool.h::ToolValue, ToolArguments, ToolCall -/

/-- `ToolValue`. -/
inductive ToolValue where
  | boolean (value : Bool)
  | integer (value : Int64)
  | string (value : Text)
  | json (value : Contracts.JsonValue)

/-- `ToolArguments`, in the order of the map. -/
abbrev ToolArguments := List (Text × ToolValue)

/-- `ToolCall`. -/
structure ToolCall where
  requestId : Text
  name : Text
  arguments : ToolArguments

/-! ### mcp_server.h::ToolInputField, ToolInputSchema, ToolDefinition -/

/-- `ToolInputType`. -/
inductive ToolInputType where
  | string
  | integer
  | boolean
  | object
deriving DecidableEq

mutual

/-- `ToolInputField`. -/
structure ToolInputField where
  type : ToolInputType := .string
  defaultValue : Option ToolValue := none
  description : Text := []
  objectSchema : Option ToolInputSchema := none
  minimum : Option Int64 := none
  maximum : Option Int64 := none
  minLength : Option ℕ := none
  maxLength : Option ℕ := none

/-- `ToolInputSchema`. -/
structure ToolInputSchema where
  type : Text := ascii "object"
  properties : List (Text × ToolInputField) := []
  required : List Text := []

end

/-- `ToolDefinition`. -/
structure ToolDefinition where
  name : Text
  description : Text
  inputSchema : ToolInputSchema

/-! ### mcp_server.h::Property, PropertyList -/

/-- `PropertyType`. -/
inductive PropertyType where
  | boolean
  | integer
  | string
  | object
deriving DecidableEq

mutual

/-- `Property`. -/
structure Property where
  name : Text
  type : PropertyType
  description : Text := []
  objectProperties : Option PropertyList := none
  defaultValue : Option ToolValue := none
  minimum : Option Int64 := none
  maximum : Option Int64 := none
  minLength : Option ℕ := none
  maxLength : Option ℕ := none
  constraintValid : Bool := true
  required : Bool := true

/-- `PropertyList`, without the values of a call. -/
structure PropertyList where
  properties : List Property := []

end

/-! ### mcp_server.cc::PropertyList::to_schema -/

/-- `ToInputType`. -/
def toInputType : PropertyType → ToolInputType
  | .boolean => .boolean
  | .integer => .integer
  | .string => .string
  | .object => .object

/-- The order in which a `std::unordered_map` is gone through. -/
structure MapOrder where
  order : {α : Type} → List (Text × α) → List (Text × α)
  perm : ∀ {α : Type} (members : List (Text × α)), (order members).Perm members

/-- `emplace`, one after another: the first member with a name stays. -/
def emplaceAll {α : Type} (members : List (Text × α)) : List (Text × α) :=
  members.foldl (fun map member => if (map.lookup member.1).isSome then map else map ++ [member]) []

/-- The names that `to_schema` requires. -/
def requiredNames (properties : List Property) : List Text :=
  (properties.filter fun property => property.required && property.defaultValue.isNone).map Property.name

mutual

/-- `PropertyList::to_schema`. -/
def PropertyList.toSchema (map : MapOrder) : PropertyList → ToolInputSchema
  | ⟨properties⟩ =>
    { properties := map.order (emplaceAll (toFields map properties)), required := requiredNames properties }

/-- The loop over the properties. -/
def toFields (map : MapOrder) : List Property → List (Text × ToolInputField)
  | [] => []
  | property :: properties => (property.name, property.toField map) :: toFields map properties

/-- The field of one property. -/
def Property.toField (map : MapOrder) : Property → ToolInputField
  | ⟨_, type, description, objectProperties, defaultValue, minimum, maximum, minLength, maxLength, _, _⟩ =>
    { type := toInputType type, defaultValue, description, objectSchema := toObjectSchema map objectProperties,
      minimum, maximum, minLength, maxLength }

/-- The schema of the fields inside an object. -/
def toObjectSchema (map : MapOrder) : Option PropertyList → Option ToolInputSchema
  | none => none
  | some properties => some (properties.toSchema map)

end

end VoiceLife.Mcp
