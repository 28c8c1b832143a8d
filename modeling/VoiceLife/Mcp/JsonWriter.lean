import VoiceLife.Mcp.ToolSchema

/-! # `mcp_json_writer.cc`: the pages of a tool list

A page is built as a mutable yyjson document and written without spaces. yyjson refuses strings that are no
UTF-8; everything else is written as a text that denotes the document (`denotes_writeValue`).
-/

open DecimalText (Text ascii printInt)
open Rfc8259 (Tree Denotes IsMember Escapes isPlain joinTexts memberText)

namespace VoiceLife.Mcp

/-! ### yyjson.c::write_str, yyjson_mut_write -/

/-- `yyjson_mut_val`, as far as the writer builds it. -/
inductive MutValue where
  | null
  | sint (value : ℤ)
  | str (value : Text)
  | arr (items : List MutValue)
  | obj (members : List (Text × MutValue))

/-- A hexadecimal digit of `esc_hex_char_table`. -/
def upperHex (digit : ℕ) : UInt8 :=
  UInt8.ofNat (if digit < 10 then 48 + digit else 55 + digit)

/-- What `enc_table_cpy` has written for a byte. -/
def encByte (byte : UInt8) : Text :=
  if byte = 34 then ascii "\\\""
  else if byte = 92 then ascii "\\\\"
  else if byte = 8 then ascii "\\b"
  else if byte = 12 then ascii "\\f"
  else if byte = 10 then ascii "\\n"
  else if byte = 13 then ascii "\\r"
  else if byte = 9 then ascii "\\t"
  else if byte < 32 then ascii "\\u00" ++ [upperHex (byte.toNat / 16), upperHex (byte.toNat % 16)]
  else [byte]

/-- `is_utf8_seq2`. -/
def isUtf8Seq2 (b0 b1 : UInt8) : Bool :=
  b0 &&& 0xE0 = 0xC0 ∧ b1 &&& 0xC0 = 0x80 ∧ b0 &&& 0x1E ≠ 0

/-- `is_utf8_seq3`. -/
def isUtf8Seq3 (b0 b1 b2 : UInt8) : Bool :=
  b0 &&& 0xF0 = 0xE0 ∧ b1 &&& 0xC0 = 0x80 ∧ b2 &&& 0xC0 = 0x80 ∧
    (b0 &&& 0x0F ≠ 0 ∨ b1 &&& 0x20 ≠ 0) ∧ ¬(b0 &&& 0x0F = 0x0D ∧ b1 &&& 0x20 = 0x20)

/-- `is_utf8_seq4`. -/
def isUtf8Seq4 (b0 b1 b2 b3 : UInt8) : Bool :=
  b0 &&& 0xF8 = 0xF0 ∧ b1 &&& 0xC0 = 0x80 ∧ b2 &&& 0xC0 = 0x80 ∧ b3 &&& 0xC0 = 0x80 ∧
    (b0 &&& 0x07 ≠ 0 ∨ b1 &&& 0x30 ≠ 0) ∧
    (b0 &&& 0x04 = 0 ∨ (b0 &&& 0x03 = 0 ∧ b1 &&& 0x30 = 0))

/-- The sequences that `write_str` copies. -/
def isValidUtf8 : Text → Bool
  | [] => true
  | b0 :: rest =>
    if b0 < 0x80 then isValidUtf8 rest
    else if b0 < 0xC0 then false
    else if b0 < 0xE0 then
      match rest with
      | b1 :: rest => isUtf8Seq2 b0 b1 && isValidUtf8 rest
      | _ => false
    else if b0 < 0xF0 then
      match rest with
      | b1 :: b2 :: rest => isUtf8Seq3 b0 b1 b2 && isValidUtf8 rest
      | _ => false
    else if b0 < 0xF8 then
      match rest with
      | b1 :: b2 :: b3 :: rest => isUtf8Seq4 b0 b1 b2 b3 && isValidUtf8 rest
      | _ => false
    else false

/-- `write_str`. -/
def writeStr (value : Text) : Option Text :=
  if isValidUtf8 value then some (34 :: (value.flatMap encByte ++ [34])) else none

mutual

/-- `yyjson_mut_write` without flags. -/
def writeValue : MutValue → Option Text
  | .null => some (ascii "null")
  | .sint value => some (printInt 0 value)
  | .str value => writeStr value
  | .arr items => (writeItems items).map fun texts => 91 :: (joinTexts texts ++ [93])
  | .obj members => (writeMembers members).map fun texts => 123 :: (joinTexts texts ++ [125])

/-- The items of an array. -/
def writeItems : List MutValue → Option (List Text)
  | [] => some []
  | item :: items => do
    let text ← writeValue item
    let texts ← writeItems items
    some (text :: texts)

/-- The members of an object. -/
def writeMembers : List (Text × MutValue) → Option (List Text)
  | [] => some []
  | (key, value) :: members => do
    let name ← writeStr key
    let text ← writeValue value
    let texts ← writeMembers members
    some (memberText name text :: texts)

end

/-- `WriteDocument`. -/
def writeDocument (document : MutValue) : Text :=
  (writeValue document).getD (ascii "\x7b\x7d")

/-! ### mcp_json_writer.cc::InputTypeName, AppendInputField, AppendTool -/

def inputTypeName : ToolInputType → Text
  | .boolean => ascii "boolean"
  | .integer => ascii "integer"
  | .string => ascii "string"
  | .object => ascii "object"

/-- A member that is only added for a value. -/
def optionalMember {α : Type} (key : String) (value : Option α) (write : α → MutValue) : List (Text × MutValue) :=
  value.elim [] fun given => [(ascii key, write given)]

mutual

/-- `AppendInputField`. -/
def appendInputField : ToolInputField → MutValue
  | ⟨type, _, description, objectSchema, minimum, maximum, minLength, maxLength⟩ =>
    .obj ([(ascii "type", .str (inputTypeName type))] ++
      (if description = [] then [] else [(ascii "description", .str description)]) ++
      optionalMember "minimum" minimum (fun bound => .sint bound.toInt) ++
      optionalMember "maximum" maximum (fun bound => .sint bound.toInt) ++
      optionalMember "minLength" minLength (fun length => .sint length) ++
      optionalMember "maxLength" maxLength (fun length => .sint length) ++
      if type = .object then appendObjectSchema objectSchema else [])

/-- The members for the fields inside an object. -/
def appendObjectSchema : Option ToolInputSchema → List (Text × MutValue)
  | none => []
  | some ⟨_, properties, required⟩ =>
    [(ascii "properties", .obj (appendInputFields properties))] ++
      if required = [] then [] else [(ascii "required", .arr (required.map .str))]

/-- The loop over the fields. -/
def appendInputFields : List (Text × ToolInputField) → List (Text × MutValue)
  | [] => []
  | (name, field) :: fields => (name, appendInputField field) :: appendInputFields fields

end

/-- The `inputSchema` of a tool. -/
def inputSchemaValue (schema : ToolInputSchema) : MutValue :=
  .obj [(ascii "type", .str schema.type), (ascii "properties", .obj (appendInputFields schema.properties)),
    (ascii "required", .arr (schema.required.map .str))]

/-- `AppendTool`. -/
def appendTool (definition : ToolDefinition) : MutValue :=
  .obj [(ascii "name", .str definition.name), (ascii "description", .str definition.description),
    (ascii "type", .sint 0), (ascii "inputSchema", inputSchemaValue definition.inputSchema)]

/-! ### mcp_json_writer.cc::SerializeListToolsResultPage, SerializeListToolsResult -/

/-- `std::to_string` of an index. -/
def stdToString (index : ℕ) : Text :=
  printInt 0 index

/-- The document of the tools `[begin, end)` out of all of them. -/
def pageDocument (tools : List ToolDefinition) (beginIndex endIndex : ℕ) : MutValue :=
  .obj [(ascii "tools", .arr (((tools.take endIndex).drop beginIndex).map appendTool)),
    (ascii "nextCursor", if endIndex = tools.length then .null else .str (stdToString endIndex))]

/-- `SerializeListToolsResultPage`. -/
def serializeListToolsResultPage (tools : List ToolDefinition) (beginIndex endIndex : ℕ) : Text :=
  if endIndex < beginIndex ∨ tools.length < endIndex then ascii "\x7b\x7d"
  else writeDocument (pageDocument tools beginIndex endIndex)

/-- `SerializeListToolsResult`. -/
def serializeListToolsResult (tools : List ToolDefinition) : Text :=
  serializeListToolsResultPage tools 0 tools.length

/-! ## Documents and their texts -/

namespace MutValue

/-- Induction over a value: every item and the value of every member is covered. -/
@[elab_as_elim, induction_eliminator]
theorem induction {motive : MutValue → Prop} (null : motive .null) (sint : ∀ value, motive (.sint value))
    (str : ∀ value, motive (.str value))
    (arr : ∀ items, (∀ item ∈ items, motive item) → motive (.arr items))
    (obj : ∀ members, (∀ member ∈ members, motive member.2) → motive (.obj members))
    (value : MutValue) : motive value :=
  @MutValue.rec motive (fun items => ∀ item ∈ items, motive item)
    (fun members => ∀ member ∈ members, motive member.2) (fun member => motive member.2)
    null sint str arr obj
    (List.forall_mem_nil _) (fun _ _ hhead htail => List.forall_mem_cons.2 ⟨hhead, htail⟩)
    (List.forall_mem_nil _) (fun _ _ hhead htail => List.forall_mem_cons.2 ⟨hhead, htail⟩)
    (fun _ _ hvalue => hvalue) value

mutual

/-- What a document says. -/
def toTree : MutValue → Tree
  | .null => .null
  | .sint value => .number value
  | .str value => .string value
  | .arr items => .array (toTrees items)
  | .obj members => .object (toMembers members)

/-- What the items say. -/
def toTrees : List MutValue → List Tree
  | [] => []
  | item :: items => toTree item :: toTrees items

/-- What the members say. -/
def toMembers : List (Text × MutValue) → List (Text × Tree)
  | [] => []
  | (key, value) :: members => (key, toTree value) :: toMembers members

end

theorem toTrees_eq_map (items : List MutValue) : toTrees items = items.map toTree := by
  induction items with
  | nil => rfl
  | cons item items ih => rw [toTrees, ih, List.map_cons]

theorem toMembers_eq_map (members : List (Text × MutValue)) :
    toMembers members = members.map fun member => (member.1, toTree member.2) := by
  induction members with
  | nil => rfl
  | cons member members ih => rw [toMembers, ih, List.map_cons]

end MutValue

theorem hexValue_upperHex : ∀ digit < 16, Rfc8259.hexValue (upperHex digit) = some digit := by
  decide

/-- yyjson makes every byte safe. -/
theorem escapes_encByte (byte : UInt8) : Escapes encByte byte := by
  by_cases h34 : byte = 34
  · subst h34
    exact .inr ⟨[34], rfl, fun _ => rfl⟩
  by_cases h92 : byte = 92
  · subst h92
    exact .inr ⟨[92], rfl, fun _ => rfl⟩
  by_cases h8 : byte = 8
  · subst h8
    exact .inr ⟨[98], rfl, fun _ => rfl⟩
  by_cases h12 : byte = 12
  · subst h12
    exact .inr ⟨[102], rfl, fun _ => rfl⟩
  by_cases h10 : byte = 10
  · subst h10
    exact .inr ⟨[110], rfl, fun _ => rfl⟩
  by_cases h13 : byte = 13
  · subst h13
    exact .inr ⟨[114], rfl, fun _ => rfl⟩
  by_cases h9 : byte = 9
  · subst h9
    exact .inr ⟨[116], rfl, fun _ => rfl⟩
  by_cases hcontrol : byte < 32
  · refine .control hexValue_upperHex hcontrol ?_
    rw [encByte, if_neg h34, if_neg h92, if_neg h8, if_neg h12, if_neg h10, if_neg h13, if_neg h9,
      if_pos hcontrol]
    rfl
  · refine .plain h34 h92 (UInt8.not_lt.1 hcontrol) ?_
    rw [encByte, if_neg h34, if_neg h92, if_neg h8, if_neg h12, if_neg h10, if_neg h13, if_neg h9,
      if_neg hcontrol]

theorem writeStr_eq_some {value text : Text} (h : writeStr value = some text) :
    text = 34 :: (value.flatMap encByte ++ [34]) := by
  unfold writeStr at h
  split_ifs at h with hvalid
  exact (Option.some.inj h).symm

/-- Every item is written on its own. -/
theorem writeItems_eq_some {items : List MutValue} {texts : List Text} (h : writeItems items = some texts) :
    ∃ pairs : List (MutValue × Text), pairs.map Prod.fst = items ∧ pairs.map Prod.snd = texts ∧
      ∀ pair ∈ pairs, writeValue pair.1 = some pair.2 := by
  induction items generalizing texts with
  | nil =>
      rw [← Option.some.inj h]
      exact ⟨[], rfl, rfl, List.forall_mem_nil _⟩
  | cons item items ih =>
      obtain ⟨text, htext, h⟩ := Option.bind_eq_some_iff.1 h
      obtain ⟨rest, hrest, h⟩ := Option.bind_eq_some_iff.1 h
      obtain ⟨pairs, rfl, rfl, hpairs⟩ := ih hrest
      rw [← Option.some.inj h]
      exact ⟨(item, text) :: pairs, rfl, rfl, List.forall_mem_cons.2 ⟨htext, hpairs⟩⟩

/-- Every member is written on its own. -/
theorem writeMembers_eq_some {members : List (Text × MutValue)} {texts : List Text}
    (h : writeMembers members = some texts) :
    ∃ pairs : List ((Text × MutValue) × Text), pairs.map Prod.fst = members ∧ pairs.map Prod.snd = texts ∧
      ∀ pair ∈ pairs, ∃ name value, writeStr pair.1.1 = some name ∧ writeValue pair.1.2 = some value ∧
        pair.2 = memberText name value := by
  induction members generalizing texts with
  | nil =>
      rw [← Option.some.inj h]
      exact ⟨[], rfl, rfl, List.forall_mem_nil _⟩
  | cons member members ih =>
      obtain ⟨name, hname, h⟩ := Option.bind_eq_some_iff.1 h
      obtain ⟨value, hvalue, h⟩ := Option.bind_eq_some_iff.1 h
      obtain ⟨rest, hrest, h⟩ := Option.bind_eq_some_iff.1 h
      obtain ⟨pairs, rfl, rfl, hpairs⟩ := ih hrest
      rw [← Option.some.inj h]
      refine ⟨(member, memberText name value) :: pairs, rfl, rfl, List.forall_mem_cons.2 ⟨?_, hpairs⟩⟩
      exact ⟨name, value, hname, hvalue, rfl⟩

/-- A member whose name is escaped and whose value is denoted. -/
theorem isMember_written {name key text : Text} {tree : Tree} (hname : writeStr key = some name)
    (htext : Denotes text tree) : IsMember (memberText name text) key (some tree) := by
  rw [writeStr_eq_some hname]
  refine ⟨⟨key.flatMap encByte, text, rfl, fun rest => ?_, htext⟩⟩
  apply Rfc8259.reads_escaped (fun byte _ => escapes_encByte byte) rest
  rw [List.length_append]
  omega

/-- What is written denotes the document. -/
theorem denotes_writeValue {value : MutValue} {text : Text} (h : writeValue value = some text) :
    Denotes text value.toTree := by
  induction value generalizing text with
  | null =>
      rw [← Option.some.inj h]
      exact Rfc8259.denotes_null
  | sint value =>
      rw [← Option.some.inj h]
      exact Rfc8259.denotes_printInt value
  | str value =>
      rw [writeStr_eq_some h]
      exact Rfc8259.denotes_escaped fun byte _ => escapes_encByte byte
  | arr items ih =>
      obtain ⟨texts, htexts, rfl⟩ := Option.map_eq_some_iff.1 h
      obtain ⟨pairs, rfl, rfl, hpairs⟩ := writeItems_eq_some htexts
      have hdenotes := @Rfc8259.denotes_array (pairs.map fun pair => (pair.2, pair.1.toTree)) <| by
        intro item hitem
        obtain ⟨pair, hmem, rfl⟩ := List.mem_map.1 hitem
        exact ih pair.1 (List.mem_map_of_mem hmem) (hpairs pair hmem)
      rw [List.map_map, List.map_map] at hdenotes
      rw [MutValue.toTree, MutValue.toTrees_eq_map, List.map_map]
      exact hdenotes
  | obj members ih =>
      obtain ⟨texts, htexts, rfl⟩ := Option.map_eq_some_iff.1 h
      obtain ⟨pairs, rfl, rfl, hpairs⟩ := writeMembers_eq_some htexts
      have hdenotes := @Rfc8259.denotes_object
          (pairs.map fun pair => (pair.2, pair.1.1, pair.1.2.toTree)) <| by
        intro member hmember
        obtain ⟨pair, hmem, rfl⟩ := List.mem_map.1 hmember
        obtain ⟨name, value, hname, hvalue, htext⟩ := hpairs pair hmem
        show IsMember pair.2 _ _
        rw [htext]
        exact isMember_written hname (ih pair.1 (List.mem_map_of_mem hmem) hvalue)
      rw [List.map_map, List.map_map] at hdenotes
      rw [MutValue.toTree, MutValue.toMembers_eq_map, List.map_map]
      exact hdenotes

/-- A page that is written is no empty object. -/
theorem writeDocument_pageDocument {tools : List ToolDefinition} {beginIndex endIndex : ℕ} :
    writeDocument (pageDocument tools beginIndex endIndex) ≠ ascii "\x7b\x7d" ↔
      (writeValue (pageDocument tools beginIndex endIndex)).isSome = true := by
  rw [writeDocument]
  cases hwritten : writeValue (pageDocument tools beginIndex endIndex) with
  | none => exact ⟨fun h => absurd rfl h, fun h => absurd h Bool.false_ne_true⟩
  | some text =>
      refine ⟨fun _ => rfl, fun _ htext => ?_⟩
      have hread := (denotes_writeValue hwritten).read
      rw [Option.getD_some] at htext
      rw [htext] at hread
      have hempty : Rfc8259.read (ascii "\x7b\x7d") = some (.object []) := rfl
      rw [hempty] at hread
      cases Option.some.inj hread

end VoiceLife.Mcp
