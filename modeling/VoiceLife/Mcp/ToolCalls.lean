import VoiceLife.Contracts.JsonTrees
import VoiceLife.Lib.PrintfG
import VoiceLife.Mcp.McpServer

/-! # `mcp_server.cc`: registration and calls

`add_tool_with_context` checks the properties of a tool, and `call` checks arguments against its fields: the
arguments themselves in one loop, the objects inside them in `NormalizeAndValidateObject`. Absent arguments
are filled in where there is a default.
-/

open DecimalText (Text ascii)

namespace VoiceLife.Mcp

open Contracts

/-- `Status`, with a message in bytes. -/
structure ToolStatus where
  code : ErrorCode
  message : Text

/-- `Status::Error` with `kInvalidArgument`, for a place in the arguments. -/
def invalidArgument (message : String) (path : Text) : ToolStatus :=
  ⟨.invalidArgument, stringBytes message ++ path⟩

/-! ### mcp_server.cc::MatchesType, Utf8Length, ToolValueToJson -/

def matchesType : ToolValue → ToolInputType → Bool
  | .boolean _, .boolean => true
  | .integer _, .integer => true
  | .string _, .string => true
  | .json value, .object => value.isObject
  | _, _ => false

def utf8Length (value : Text) : ℕ :=
  value.countP fun byte => byte &&& 0xC0 ≠ 0x80

/-- `static_cast<double>` of an integer, ties to even. -/
def toDouble (value : Int64) : ℚ :=
  let exponent := Nat.log2 value.toInt.natAbs - 52
  (DecimalText.roundHalfEven (value.toInt / 2 ^ exponent) * 2 ^ exponent : ℤ)

/-- `static_cast<int64_t>` of a double; out of range its value is not specified. -/
def toInt64 (unspecified : ℚ → Int64) (number : ℚ) : Int64 :=
  let truncated := number.num.tdiv number.den
  if -2 ^ 63 ≤ truncated ∧ truncated < 2 ^ 63 then Int64.ofInt truncated else unspecified number

def toolValueToJson : ToolValue → Contracts.JsonValue
  | .boolean value => .bool value
  | .integer value => .number (toDouble value)
  | .string value => .string value
  | .json value => value

/-! ### mcp_server.cc::NormalizeAndValidateObject -/

/-- The path of a member. -/
def childPath (path name : Text) : Text :=
  if path = [] then name else path ++ ascii "." ++ name

/-- The bounds that a field sets. -/
def outOfRange {α : Type} [LT α] [DecidableLT α] (low high : Option α) (value : α) : Bool :=
  low.any (fun bound => value < bound) || high.any (fun bound => bound < value)

/-- `emplace` into a `std::map`. -/
def emplace (members : List (Text × Contracts.JsonValue)) (member : Text × Contracts.JsonValue) :
    List (Text × Contracts.JsonValue) :=
  if (members.lookup member.1).isSome then members else insertOrAssign member.1 member.2 members

/-- A member of a type without fields of its own. -/
def normalizeScalar (unspecified : ℚ → Int64) (field : ToolInputField) (value : Contracts.JsonValue)
    (path : Text) : Except ToolStatus Contracts.JsonValue :=
  match field.type with
  | .integer =>
    match value with
    | .number number =>
      let integer := toInt64 unspecified number
      if number ≠ integer.toInt then .error (invalidArgument "工具参数类型错误：" path)
      else if outOfRange field.minimum field.maximum integer then
        .error (invalidArgument "工具整数参数超出范围：" path)
      else .ok (.number number)
    | _ => .error (invalidArgument "工具参数类型错误：" path)
  | .string =>
    match value with
    | .string text =>
      if outOfRange field.minLength field.maxLength (utf8Length text) then
        .error (invalidArgument "工具字符串参数长度超出范围：" path)
      else .ok (.string text)
    | _ => .error (invalidArgument "工具参数类型错误：" path)
  | .boolean =>
    match value with
    | .bool flag => .ok (.bool flag)
    | _ => .error (invalidArgument "工具参数类型错误：" path)
  -- an object without fields is taken as it is, whatever it is
  | .object => .ok value

section

variable (unspecified : ℚ → Int64)

mutual

/-- `NormalizeAndValidateObject`. -/
def normalizeObject : ToolInputSchema → Contracts.JsonValue → Text → Except ToolStatus Contracts.JsonValue
  | ⟨_, properties, required⟩, value, path =>
    match value with
    | .object members => do
      let entries ← normalizeFields required members path properties
      match members.find? fun member => !(properties.map Prod.fst).contains member.1 with
      | some member => .error (invalidArgument "不支持的参数：" (childPath path member.1))
      | none => .ok (.object ((presentMembers entries).foldl emplace []))
    | _ => .error (invalidArgument "工具参数类型错误：" path)

/-- The loop over the fields: what each of them emplaces. -/
def normalizeFields (required : List Text) (members : List (Text × Contracts.JsonValue)) (path : Text) :
    List (Text × ToolInputField) → Except ToolStatus (List (Text × Option Contracts.JsonValue))
  | [] => .ok []
  | (name, field) :: fields => do
    let entry ← normalizeField field (members.lookup name) (required.contains name) (childPath path name)
    let entries ← normalizeFields required members path fields
    .ok ((name, entry) :: entries)

/-- One field: its member is checked, or filled in. -/
def normalizeField : ToolInputField → Option Contracts.JsonValue → Bool → Text →
    Except ToolStatus (Option Contracts.JsonValue)
  | field@⟨type, defaultValue, _, objectSchema, _, _, _, _⟩, argument, isRequired, path =>
    match argument, defaultValue with
    | none, some given =>
      match normalizeInner objectSchema with
      | some normalize =>
        if type = .object then (normalize (toolValueToJson given) path).map some
        else .ok (some (toolValueToJson given))
      | none => .ok (some (toolValueToJson given))
    | none, none => if isRequired then .error (invalidArgument "缺少参数：" path) else .ok none
    | some value, _ =>
      match normalizeInner objectSchema with
      | some normalize =>
        if type = .object then (normalize value path).map some
        else (normalizeScalar unspecified field value path).map some
      | none => (normalizeScalar unspecified field value path).map some

/-- The check of the fields inside an object. -/
def normalizeInner : Option ToolInputSchema →
    Option (Contracts.JsonValue → Text → Except ToolStatus Contracts.JsonValue)
  | none => none
  | some schema => some fun value path => normalizeObject schema value path

end

end

/-! ### mcp_server.cc::ValidatePropertyDefinition -/

/-- The bounds of a range the wrong way round. -/
def invertedRange {α : Type} [LT α] [DecidableLT α] (low high : Option α) : Bool :=
  low.any fun bound => high.any fun other => other < bound

/-- What is wrong with a property, its inner fields apart. -/
def definitionInvalid (property : Property) : Bool :=
  let inputType := toInputType property.type
  let defaultStringLengthInvalid :=
    match property.defaultValue, inputType with
    | some (.string text), .string => outOfRange property.minLength property.maxLength (utf8Length text)
    | _, _ => false
  let defaultIntegerRangeInvalid :=
    match property.defaultValue, inputType with
    | some (.integer value), .integer => outOfRange property.minimum property.maximum value
    | _, _ => false
  property.defaultValue.any (fun value => !matchesType value inputType) || !property.constraintValid ||
    defaultStringLengthInvalid || defaultIntegerRangeInvalid ||
    ((property.minimum.isSome || property.maximum.isSome) && property.type ≠ .integer) ||
    ((property.minLength.isSome || property.maxLength.isSome) && property.type ≠ .string) ||
    invertedRange property.minimum property.maximum || invertedRange property.minLength property.maxLength

mutual

/-- `ValidatePropertyDefinition`. -/
def validatePropertyDefinition : Property → Text → Except ToolStatus Unit
  | property@⟨_, type, _, objectProperties, _, _, _, _, _, _, _⟩, path =>
    if definitionInvalid property then .error (invalidArgument "工具参数定义无效：" path)
    else validateInner type objectProperties path

/-- The fields inside an object. -/
def validateInner (type : PropertyType) : Option PropertyList → Text → Except ToolStatus Unit
  | none, _ => .ok ()
  | some ⟨properties⟩, path =>
    if type ≠ .object then .error (invalidArgument "只有对象参数可以定义内部字段：" path)
    else validateProperties properties path

/-- The loop over the properties. -/
def validateProperties : List Property → Text → Except ToolStatus Unit
  | [], _ => .ok ()
  | property :: properties, path => do
    validatePropertyDefinition property (childPath path property.name)
    validateProperties properties path

end

/-! ### mcp_server.cc::McpServer::add_tool_with_context, call -/

namespace McpServer

variable {ρ : Type}

/-- The tool is emplaced and its name put at the end of the order. -/
def register (server : McpServer ρ) (definition : ToolDefinition) (handler : ToolCall → ρ)
    (hnew : (server.tools.lookup definition.name).isSome = false) : McpServer ρ where
  tools := (definition.name, ⟨definition, handler⟩) :: server.tools
  registrationOrder := server.registrationOrder ++ [definition.name]
  registered := by
    intro name hname
    rw [List.lookup_cons]
    by_cases heq : name = definition.name
    · rw [heq, beq_self_eq_true]
      rfl
    · rw [beq_eq_false_iff_ne.2 heq]
      rcases List.mem_append.1 hname with hold | hlast
      · exact server.registered name hold
      · exact absurd (List.mem_singleton.1 hlast) heq
  nodup := by
    apply server.nodup.append (List.nodup_singleton _)
    rw [List.disjoint_singleton]
    intro hmem
    rw [server.registered _ hmem] at hnew
    cases hnew
  named := by
    intro name tool h
    rw [List.lookup_cons] at h
    by_cases heq : name = definition.name
    · rw [heq, beq_self_eq_true] at h
      rw [← Option.some.inj h, heq]
    · rw [beq_eq_false_iff_ne.2 heq] at h
      exact server.named name tool h

/-- `add_tool_with_context`. -/
def addToolWithContext (map : MapOrder) (server : McpServer ρ) (name description : Text)
    (properties : PropertyList) (handler : Option (ToolCall → ρ)) : Except ToolStatus (McpServer ρ) :=
  match handler with
  | none => .error (invalidArgument "工具定义不完整" [])
  | some handler =>
    if name = [] ∨ description = [] then .error (invalidArgument "工具定义不完整" [])
    else
      let definition : ToolDefinition := ⟨name, description, properties.toSchema map⟩
      if hknown : (server.tools.lookup definition.name).isSome = false then do
        validateProperties properties.properties []
        .ok (server.register definition handler hknown)
      else .error ⟨.alreadyExists, stringBytes "工具已注册：" ++ name⟩

end McpServer

/-- `emplace` into the arguments. -/
def emplaceArgument (arguments : ToolArguments) (name : Text) (value : ToolValue) : ToolArguments :=
  if (arguments.lookup name).isSome then arguments else arguments ++ [(name, value)]

/-- `operator[]` and an assignment, for an argument that is there. -/
def assignArgument (arguments : ToolArguments) (name : Text) (value : ToolValue) : ToolArguments :=
  arguments.map fun argument => if argument.1 = name then (name, value) else argument

/-- The range or the length of an argument of the right type. -/
def checkBounds (field : ToolInputField) (name : Text) (value : ToolValue) : Except ToolStatus Unit :=
  match field.type, value with
  | .integer, .integer integer =>
    if outOfRange field.minimum field.maximum integer then
      .error (invalidArgument "工具整数参数超出范围：" name)
    else .ok ()
  | .string, .string text =>
    if outOfRange field.minLength field.maxLength (utf8Length text) then
      .error (invalidArgument "工具字符串参数长度超出范围：" name)
    else .ok ()
  | _, _ => .ok ()

/-- What one round of the loop makes of an argument: `none` leaves it as it is. -/
def checkArgument (unspecified : ℚ → Int64) (field : ToolInputField) (name : Text) (isRequired : Bool) :
    Option ToolValue → Except ToolStatus (Option ToolValue)
  | none =>
    match field.defaultValue, field.type, field.objectSchema with
    -- registration has seen to it that the default is an object
    | some (.json given), .object, some schema =>
      (normalizeObject unspecified schema given name).map fun normalized => some (.json normalized)
    | some given, _, _ => .ok (some given)
    | none, _, _ => if isRequired then .error (invalidArgument "缺少参数：" name) else .ok none
  | some value =>
    match field.type, field.objectSchema with
    | .object, some schema =>
      match value with
      | .json given =>
        if !given.isObject then .error (invalidArgument "工具参数类型错误：" name)
        else (normalizeObject unspecified schema given name).map fun normalized => some (.json normalized)
      | _ => .error (invalidArgument "工具参数类型错误：" name)
    | _, _ =>
      if !matchesType value field.type then .error (invalidArgument "工具参数类型错误：" name)
      else (checkBounds field name value).map fun _ => none

/-- The loop over the fields. -/
def checkArguments (unspecified : ℚ → Int64) (required : List Text) (given : ToolArguments) :
    ToolArguments → List (Text × ToolInputField) → Except ToolStatus ToolArguments
  | normalized, [] => .ok normalized
  | normalized, (name, field) :: fields => do
    let argument := given.lookup name
    let changed ← checkArgument unspecified field name (required.contains name) argument
    let normalized := changed.elim normalized fun value =>
      if argument.isSome then assignArgument normalized name value
      else emplaceArgument normalized name value
    checkArguments unspecified required given normalized fields

/-- What a call comes to: a failure, or the result of the handler for the call that it received. -/
inductive CallOutcome (ρ : Type) where
  | failure (status : ToolStatus)
  | handled (received : ToolCall) (result : ρ)

/-- The call as it is passed to the handler. -/
def normalizeCall (unspecified : ℚ → Int64) (schema : ToolInputSchema) (call : ToolCall) :
    Except ToolStatus ToolCall := do
  let normalized ← checkArguments unspecified schema.required call.arguments call.arguments schema.properties
  match call.arguments.find? fun argument => !(schema.properties.map Prod.fst).contains argument.1 with
  | some argument => .error (invalidArgument "不支持的参数：" argument.1)
  | none => .ok { call with arguments := normalized }

/-- `McpServer::call`. -/
def McpServer.call {ρ : Type} (unspecified : ℚ → Int64) (server : McpServer ρ) (call : ToolCall) :
    CallOutcome ρ :=
  if call.requestId = [] then .failure (invalidArgument "工具调用缺少 request_id" [])
  else
    match server.tools.lookup call.name with
    | none => .failure ⟨.notFound, stringBytes "工具不存在：" ++ call.name⟩
    | some registered =>
      match normalizeCall unspecified registered.definition.inputSchema call with
      | .error status => .failure status
      | .ok normalizedCall => .handled normalizedCall (registered.handler normalizedCall)

end VoiceLife.Mcp
