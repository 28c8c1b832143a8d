import VoiceLife.Lib.PrintfG
import VoiceLife.Mcp.McpServer

/-! # `linx_mcp_bridge.cc`: the pages of `tools/list`

A response is put together from texts around the page, and all of it has to stay within
`kLinxMcpMaxResponseBytes`. A client asks for the first page and then for the one at each cursor that it is
given: it is told every tool once (`tools_listed`).
-/

open DecimalText (Text ascii isDigit decimal digitValue printInt natDigits)
open Rfc8259 (Tree Denotes IsMember Escapes isPlain joinTexts memberText)

namespace VoiceLife.Runtime

open Contracts Mcp

/-! ### linx_mcp_bridge.cc::Escape, Serialize, Wrap, ErrorResponse -/

/-- A digit of `std::hex`. -/
def lowerHex (digit : ℕ) : UInt8 :=
  UInt8.ofNat (if digit < 10 then 48 + digit else 87 + digit)

/-- The `switch` of `Escape`. -/
def escapeCharacter (character : UInt8) : Text :=
  if character = 34 then ascii "\\\""
  else if character = 92 then ascii "\\\\"
  else if character = 8 then ascii "\\b"
  else if character = 12 then ascii "\\f"
  else if character = 10 then ascii "\\n"
  else if character = 13 then ascii "\\r"
  else if character = 9 then ascii "\\t"
  else if character < 32 then
    ascii "\\u00" ++ [lowerHex (character.toNat / 16), lowerHex (character.toNat % 16)]
  else [character]

/-- `Escape`. -/
def escape (value : Text) : Text :=
  value.flatMap escapeCharacter

mutual

/-- `Serialize`. -/
def serialize : Contracts.JsonValue → Text
  | .null => ascii "null"
  | .bool value => if value then ascii "true" else ascii "false"
  | .number value => DecimalText.printfPrecise 17 value
  | .string value => ascii "\"" ++ escape value ++ ascii "\""
  | .array items => ascii "[" ++ joinTexts (serializeItems items) ++ ascii "]"
  | .object members => ascii "\x7b" ++ joinTexts (serializeMembers members) ++ ascii "\x7d"

/-- The loop over the items. -/
def serializeItems : List Contracts.JsonValue → List Text
  | [] => []
  | item :: items => serialize item :: serializeItems items

/-- The loop over the members. -/
def serializeMembers : List (Text × Contracts.JsonValue) → List Text
  | [] => []
  | (key, item) :: members =>
    (ascii "\"" ++ escape key ++ ascii "\":" ++ serialize item) :: serializeMembers members

end

/-- `Wrap`. -/
def wrap (payload sessionId : Text) : Text :=
  ascii "\x7b\"type\":\"mcp\"" ++
    (if sessionId = [] then [] else ascii ",\"session_id\":\"" ++ escape sessionId ++ ascii "\"") ++
    (ascii ",\"payload\":" ++ payload ++ ascii "\x7d")

/-- `ErrorResponse`. -/
def errorResponse (id : Contracts.JsonValue) (code : ℤ) (message : String) (sessionId : Text) : Result Text :=
  .ok (wrap (ascii "\x7b\"jsonrpc\":\"2.0\",\"id\":" ++ serialize id ++
    (ascii ",\"error\":\x7b\"code\":" ++ printInt 0 code ++ ascii ",\"message\":\"" ++
      escape (stringBytes message) ++ ascii "\"\x7d\x7d")) sessionId)

/-! ### linx_mcp_bridge.cc::ParseToolsListStart, BuildToolsListResponse -/

/-- `kLinxMcpMaxResponseBytes`. -/
def kLinxMcpMaxResponseBytes : ℕ := 3000

/-- The loop over the characters of a cursor; `sizeMax` is the largest `std::size_t`. -/
def parseCursor (sizeMax : ℕ) : ℕ → Text → Result ℕ
  | start, [] => .ok start
  | start, character :: rest =>
    if character < 48 ∨ 57 < character then .failure .invalidArgument "tools/list cursor 无效"
    else
      let digit := character.toNat - 48
      if (sizeMax - digit) / 10 < start then .failure .invalidArgument "tools/list cursor 超出范围"
      else parseCursor sizeMax (start * 10 + digit) rest

/-- `ParseToolsListStart`. -/
def parseToolsListStart (sizeMax : ℕ) (request : Contracts.JsonValue) : Result ℕ :=
  match request.get (ascii "params") with
  | none => .ok 0
  | some params =>
    if !params.isObject then .failure .invalidArgument "tools/list params 无效"
    else
      match params.get (ascii "cursor") with
      | some (.string cursor) =>
        if cursor = [] then .failure .invalidArgument "tools/list cursor 无效"
        else parseCursor sizeMax 0 cursor
      | _ => .failure .invalidArgument "tools/list cursor 无效"

/-- `json_rpc_prefix`. -/
def jsonRpcPrefix (id : Contracts.JsonValue) : Text :=
  ascii "\x7b\"jsonrpc\":\"2.0\",\"id\":" ++ serialize id ++ ascii ",\"result\":"

/-- The response around the text of a result. -/
def resultResponse (id : Contracts.JsonValue) (sessionId result : Text) : Text :=
  wrap (jsonRpcPrefix id ++ result ++ ascii "\x7d") sessionId

variable {ρ : Type}

/-- `BuildToolsListResponse`. -/
def buildToolsListResponse (id : Contracts.JsonValue) (server : McpServer ρ) (sessionId : Text)
    (startIndex : ℕ) : Result Text :=
  let emptyResultEnvelope := resultResponse id sessionId []
  if kLinxMcpMaxResponseBytes ≤ emptyResultEnvelope.length then
    .failure .unavailable "tools/list 响应超过安全上限"
  else do
    let page ← server.listToolsPageJson startIndex (kLinxMcpMaxResponseBytes - emptyResultEnvelope.length)
    let response := resultResponse id sessionId page
    if kLinxMcpMaxResponseBytes < response.length then .failure .internal "tools/list 响应超过安全上限"
    else .ok response

/-- The branch of `HandleLinxMcpPayload` for `tools/list`. -/
def handleToolsList (sizeMax : ℕ) (id request : Contracts.JsonValue) (server : McpServer ρ)
    (sessionId : Text) : Result Text :=
  match parseToolsListStart sizeMax request with
  | .error status => errorResponse id (-32602) status.message sessionId
  | .ok start =>
    match buildToolsListResponse id server sessionId start with
    | .ok response => .ok response
    | .error status =>
      errorResponse id (if status.code = .invalidArgument then -32602 else -32603) status.message sessionId

/-! ## Cursors -/

theorem parseCursor_digits {sizeMax : ℕ} {digits : Text} (hdigits : ∀ byte ∈ digits, isDigit byte = true)
    {start : ℕ} (h : digits.foldl (fun acc byte => acc * 10 + digitValue byte) start ≤ sizeMax) :
    parseCursor sizeMax start digits =
      .ok (digits.foldl (fun acc byte => acc * 10 + digitValue byte) start) := by
  have hgrows : ∀ (digits : Text) (start : ℕ),
      start ≤ digits.foldl (fun acc byte => acc * 10 + digitValue byte) start := by
    intro digits
    induction digits with
    | nil => exact fun start => le_rfl
    | cons byte digits ih => exact fun start => le_trans (by omega) (ih (start * 10 + digitValue byte))
  induction digits generalizing start with
  | nil => rfl
  | cons byte digits ih =>
      have hbyte := (DecimalText.isDigit_iff byte).1 (hdigits byte List.mem_cons_self)
      have hdigit : ¬(byte < 48 ∨ 57 < byte) := by
        rw [UInt8.lt_iff_toNat_lt, UInt8.lt_iff_toNat_lt, not_or, not_lt, not_lt]
        exact hbyte
      rw [List.foldl_cons] at h ⊢
      have hle := (hgrows digits _).trans h
      rw [digitValue] at hle
      rw [parseCursor, if_neg hdigit]
      simp only []
      rw [if_neg (by omega)]
      exact ih (fun other hmem => hdigits other (List.mem_cons_of_mem _ hmem)) h

/-- A request for the first page, or for the page at a cursor. -/
def Asks (request : Contracts.JsonValue) : Option Text → Prop
  | none => request.get (ascii "params") = none
  | some cursor => ∃ params, request.get (ascii "params") = some params ∧ params.isObject = true ∧
      params.get (ascii "cursor") = some (.string cursor)

/-- An index is read back from the text that was written for it. -/
theorem parseToolsListStart_stdToString {sizeMax index : ℕ} (hindex : index ≤ sizeMax)
    {request : Contracts.JsonValue} (h : Asks request (some (Mcp.stdToString index))) :
    parseToolsListStart sizeMax request = .ok index := by
  obtain ⟨params, hparams, hobject, hcursor⟩ := h
  have htext : Mcp.stdToString index = natDigits index := by
    rw [Mcp.stdToString, Rfc8259.printInt_eq, if_neg (by omega), List.nil_append, Int.natAbs_natCast]
  have hdecimal := DecimalText.decimal_natDigits index
  have hne : natDigits index ≠ [] := by
    unfold natDigits
    split_ifs with hzero
    · exact List.cons_ne_nil _ _
    · rw [Ne, List.map_eq_nil_iff, List.reverse_eq_nil_iff]
      exact Nat.digits_ne_nil_iff_ne_zero.2 hzero
  rw [decimal] at hdecimal
  rw [parseToolsListStart, hparams]
  simp only [hobject, Bool.not_true, Bool.false_eq_true, if_false, hcursor]
  rw [htext, if_neg hne, parseCursor_digits (fun byte hmem => Rfc8259.isDigit_of_mem_natDigits hmem)
    (hdecimal.le.trans hindex), hdecimal]

theorem parseToolsListStart_none {sizeMax : ℕ} {request : Contracts.JsonValue} (h : Asks request none) :
    parseToolsListStart sizeMax request = .ok 0 := by
  rw [parseToolsListStart, show request.get (ascii "params") = none from h]

/-! ## Responses -/

/-- `result_budget`. -/
def resultBudget (id : Contracts.JsonValue) (sessionId : Text) : ℕ :=
  kLinxMcpMaxResponseBytes - (resultResponse id sessionId []).length

theorem length_resultResponse (id : Contracts.JsonValue) (sessionId result : Text) :
    (resultResponse id sessionId result).length = (resultResponse id sessionId []).length + result.length := by
  simp only [resultResponse, wrap, jsonRpcPrefix, List.length_append, List.length_nil]
  omega

/-- A page within the budget is sent. -/
theorem buildToolsListResponse_of_page {id : Contracts.JsonValue} {server : McpServer ρ} {sessionId : Text}
    {startIndex : ℕ} {page : Text} (hne : page ≠ []) (hlength : page.length ≤ resultBudget id sessionId)
    (h : server.listToolsPageJson startIndex (resultBudget id sessionId) = .ok page) :
    buildToolsListResponse id server sessionId startIndex = .ok (resultResponse id sessionId page) ∧
      (resultResponse id sessionId page).length ≤ kLinxMcpMaxResponseBytes := by
  have hpositive := List.length_pos_iff.2 hne
  have htotal := length_resultResponse id sessionId page
  have hbudget : resultBudget id sessionId =
      kLinxMcpMaxResponseBytes - (resultResponse id sessionId []).length := rfl
  have hle : (resultResponse id sessionId page).length ≤ kLinxMcpMaxResponseBytes := by omega
  refine ⟨?_, hle⟩
  simp only [buildToolsListResponse]
  rw [if_neg (by omega), ← hbudget, h]
  show (if _ then _ else _) = _
  rw [if_neg (not_lt.2 hle)]

/-- What a result says. -/
def resultTree (tools : List ToolDefinition) (nextCursor : Option Text) : Tree :=
  .object [(ascii "tools", .array (tools.map fun tool => (appendTool tool).toTree)),
    (ascii "nextCursor", nextCursor.elim .null .string)]

/-- What a whole response says. -/
def responseTree (id : Tree) (sessionId : Text) (result : Tree) : Tree :=
  .object ([(ascii "type", Tree.string (ascii "mcp"))] ++
    (if sessionId = [] then [] else [(ascii "session_id", Tree.string sessionId)]) ++
    [(ascii "payload", Tree.object [(ascii "jsonrpc", .string (ascii "2.0")), (ascii "id", id),
      (ascii "result", result)])])

theorem hexValue_lowerHex : ∀ digit < 16, Rfc8259.hexValue (lowerHex digit) = some digit := by
  decide

theorem escapes_escapeCharacter (character : UInt8) : Escapes escapeCharacter character := by
  by_cases h34 : character = 34
  · subst h34
    exact .inr ⟨[34], rfl, fun _ => rfl⟩
  by_cases h92 : character = 92
  · subst h92
    exact .inr ⟨[92], rfl, fun _ => rfl⟩
  by_cases h8 : character = 8
  · subst h8
    exact .inr ⟨[98], rfl, fun _ => rfl⟩
  by_cases h12 : character = 12
  · subst h12
    exact .inr ⟨[102], rfl, fun _ => rfl⟩
  by_cases h10 : character = 10
  · subst h10
    exact .inr ⟨[110], rfl, fun _ => rfl⟩
  by_cases h13 : character = 13
  · subst h13
    exact .inr ⟨[114], rfl, fun _ => rfl⟩
  by_cases h9 : character = 9
  · subst h9
    exact .inr ⟨[116], rfl, fun _ => rfl⟩
  by_cases hcontrol : character < 32
  · refine .control hexValue_lowerHex hcontrol ?_
    rw [escapeCharacter, if_neg h34, if_neg h92, if_neg h8, if_neg h12, if_neg h10, if_neg h13, if_neg h9,
      if_pos hcontrol]
    rfl
  · refine .plain h34 h92 (UInt8.not_lt.1 hcontrol) ?_
    rw [escapeCharacter, if_neg h34, if_neg h92, if_neg h8, if_neg h12, if_neg h10, if_neg h13, if_neg h9,
      if_neg hcontrol]

theorem denotes_quoted (value : Text) : Denotes (34 :: (escape value ++ [34])) (.string value) :=
  Rfc8259.denotes_escaped fun byte _ => escapes_escapeCharacter byte

/-- A member with a plain name. -/
theorem isMember_plain {name value : Text} {tree : Tree} (hname : ∀ byte ∈ name, isPlain byte = true)
    (hvalue : Denotes value tree) : IsMember (memberText (34 :: (name ++ [34])) value) name (some tree) :=
  ⟨⟨name, value, rfl, Rfc8259.readString_plain hname, hvalue⟩⟩

/-- The payload around a result. -/
theorem denotes_payload {id : Contracts.JsonValue} {idTree result : Tree} {text : Text}
    (hid : Denotes (serialize id) idTree) (htext : Denotes text result) :
    Denotes (jsonRpcPrefix id ++ text ++ ascii "\x7d")
      (.object [(ascii "jsonrpc", .string (ascii "2.0")), (ascii "id", idTree), (ascii "result", result)]) := by
  have hversion : Denotes (ascii "\"2.0\"") (.string (ascii "2.0")) := denotes_quoted (ascii "2.0")
  have hobject := @Rfc8259.denotes_object
    [(memberText (ascii "\"jsonrpc\"") (ascii "\"2.0\""), ascii "jsonrpc", .string (ascii "2.0")),
      (memberText (ascii "\"id\"") (serialize id), ascii "id", idTree),
      (memberText (ascii "\"result\"") text, ascii "result", result)] <| by
    intro member hmember
    rcases List.mem_cons.1 hmember with rfl | hmember
    · exact @isMember_plain (ascii "jsonrpc") _ _ (List.all_eq_true.1 rfl) hversion
    rcases List.mem_cons.1 hmember with rfl | hmember
    · exact @isMember_plain (ascii "id") _ _ (List.all_eq_true.1 rfl) hid
    rw [List.mem_singleton.1 hmember]
    exact @isMember_plain (ascii "result") _ _ (List.all_eq_true.1 rfl) htext
  have hparts : jsonRpcPrefix id ++ text ++ ascii "\x7d" =
      123 :: (joinTexts [memberText (ascii "\"jsonrpc\"") (ascii "\"2.0\""),
        memberText (ascii "\"id\"") (serialize id), memberText (ascii "\"result\"") text] ++ [125]) := by
    simp only [jsonRpcPrefix, joinTexts, memberText, List.append_assoc, List.cons_append]
    rfl
  rw [hparts]
  exact hobject

/-- The envelope around a payload. -/
theorem denotes_wrap {payload : Text} {tree : Tree} (sessionId : Text) (h : Denotes payload tree) :
    Denotes (wrap payload sessionId) (.object ([(ascii "type", Tree.string (ascii "mcp"))] ++
      (if sessionId = [] then [] else [(ascii "session_id", Tree.string sessionId)]) ++
      [(ascii "payload", tree)])) := by
  have htype : IsMember (memberText (ascii "\"type\"") (ascii "\"mcp\"")) (ascii "type")
      (some (.string (ascii "mcp"))) :=
    @isMember_plain (ascii "type") _ _ (List.all_eq_true.1 rfl) (denotes_quoted (ascii "mcp"))
  have hsession : IsMember (memberText (ascii "\"session_id\"") (34 :: (escape sessionId ++ [34])))
      (ascii "session_id") (some (.string sessionId)) :=
    @isMember_plain (ascii "session_id") _ _ (List.all_eq_true.1 rfl) (denotes_quoted sessionId)
  have hpayload : IsMember (memberText (ascii "\"payload\"") payload) (ascii "payload") (some tree) :=
    @isMember_plain (ascii "payload") _ _ (List.all_eq_true.1 rfl) h
  unfold wrap
  split_ifs with hempty
  · have hobject := @Rfc8259.denotes_object
      [(memberText (ascii "\"type\"") (ascii "\"mcp\""), ascii "type", .string (ascii "mcp")),
        (memberText (ascii "\"payload\"") payload, ascii "payload", tree)] <| by
      intro member hmember
      rcases List.mem_cons.1 hmember with rfl | hmember
      · exact htype
      · rw [List.mem_singleton.1 hmember]
        exact hpayload
    have hparts : ascii "\x7b\"type\":\"mcp\"" ++ [] ++ (ascii ",\"payload\":" ++ payload ++ ascii "\x7d") =
        123 :: (joinTexts [memberText (ascii "\"type\"") (ascii "\"mcp\""),
          memberText (ascii "\"payload\"") payload] ++ [125]) := by
      simp only [joinTexts, memberText, List.append_assoc, List.nil_append, List.cons_append]
      rfl
    rw [hparts]
    exact hobject
  · have hobject := @Rfc8259.denotes_object
      [(memberText (ascii "\"type\"") (ascii "\"mcp\""), ascii "type", .string (ascii "mcp")),
        (memberText (ascii "\"session_id\"") (34 :: (escape sessionId ++ [34])), ascii "session_id",
          .string sessionId),
        (memberText (ascii "\"payload\"") payload, ascii "payload", tree)] <| by
      intro member hmember
      rcases List.mem_cons.1 hmember with rfl | hmember
      · exact htype
      rcases List.mem_cons.1 hmember with rfl | hmember
      · exact hsession
      rw [List.mem_singleton.1 hmember]
      exact hpayload
    have hparts : ascii "\x7b\"type\":\"mcp\"" ++
        (ascii ",\"session_id\":\"" ++ escape sessionId ++ ascii "\"") ++
          (ascii ",\"payload\":" ++ payload ++ ascii "\x7d") =
        123 :: (joinTexts [memberText (ascii "\"type\"") (ascii "\"mcp\""),
          memberText (ascii "\"session_id\"") (34 :: (escape sessionId ++ [34])),
          memberText (ascii "\"payload\"") payload] ++ [125]) := by
      simp only [joinTexts, memberText, List.append_assoc, List.cons_append]
      rfl
    rw [hparts]
    exact hobject

/-! ## Listings -/

/-- A response carries tools and the cursor behind them; a reader of JSON finds them in it. -/
structure Carries (id : Contracts.JsonValue) (sessionId response : Text) (tools : List ToolDefinition)
    (nextCursor : Option Text) : Prop where
  result : ∃ text, response = resultResponse id sessionId text ∧
    Rfc8259.read text = some (resultTree tools nextCursor)
  read : ∀ idTree, Denotes (serialize id) idTree →
    Rfc8259.read response = some (responseTree idTree sessionId (resultTree tools nextCursor))

theorem carries_page {tools : List ToolDefinition} {beginIndex endIndex budget : ℕ}
    (hbegin : beginIndex ≤ endIndex) (hend : endIndex ≤ tools.length)
    (h : PageFits tools beginIndex endIndex budget) (id : Contracts.JsonValue) (sessionId : Text) :
    Carries id sessionId (resultResponse id sessionId (serializeListToolsResultPage tools beginIndex endIndex))
      ((tools.take endIndex).drop beginIndex)
      (if endIndex = tools.length then none else some (Mcp.stdToString endIndex)) := by
  obtain ⟨text, htext⟩ := Option.isSome_iff_exists.1 h.written
  have hdenotes : Denotes text (resultTree ((tools.take endIndex).drop beginIndex)
      (if endIndex = tools.length then none else some (Mcp.stdToString endIndex))) := by
    have hpage := denotes_writeValue htext
    rw [pageDocument, MutValue.toTree, MutValue.toMembers, MutValue.toMembers, MutValue.toMembers,
      MutValue.toTree, MutValue.toTrees_eq_map, List.map_map] at hpage
    split_ifs at hpage ⊢ with hlast
    · exact hpage
    · exact hpage
  rw [serializeListToolsResultPage_eq hbegin hend, writeDocument, htext, Option.getD_some]
  refine ⟨⟨text, rfl, hdenotes.read⟩, fun idTree hid => ?_⟩
  exact (denotes_wrap sessionId (denotes_payload hid hdenotes)).read

/-- A request, for the first page or at a cursor, is answered with tools and the next cursor. -/
structure Answered (sizeMax : ℕ) (id : Contracts.JsonValue) (server : McpServer ρ) (sessionId : Text)
    (sent : Option ℕ) (tools : List ToolDefinition) (next : Option ℕ) : Prop where
  intro ::
  answers : ∀ request, Asks request (sent.map Mcp.stdToString) → ∃ response,
    parseToolsListStart sizeMax request = .ok (sent.getD 0) ∧
    buildToolsListResponse id server sessionId (sent.getD 0) = .ok response ∧
    handleToolsList sizeMax id request server sessionId = .ok response ∧
    response.length ≤ kLinxMcpMaxResponseBytes ∧
    Carries id sessionId response tools (next.map Mcp.stdToString)

/-- The pages that a client is given who sends each cursor back. -/
inductive Listing (sizeMax : ℕ) (id : Contracts.JsonValue) (server : McpServer ρ) (sessionId : Text) :
    Option ℕ → List (List ToolDefinition) → Prop where
  | last {sent : Option ℕ} {tools : List ToolDefinition}
      (answered : Answered sizeMax id server sessionId sent tools none) :
      Listing sizeMax id server sessionId sent [tools]
  | more {sent : Option ℕ} {next : ℕ} {tools : List ToolDefinition} {pages : List (List ToolDefinition)}
      (answered : Answered sizeMax id server sessionId sent tools (some next)) (nonempty : tools ≠ [])
      (larger : sent.getD 0 < next) (rest : Listing sizeMax id server sessionId (some next) pages) :
      Listing sizeMax id server sessionId sent (tools :: pages)

section

variable {sizeMax : ℕ} {id : Contracts.JsonValue} {server : McpServer ρ} {sessionId : Text}

theorem parseToolsListStart_of_asks {sent : Option ℕ} (hsent : sent.getD 0 ≤ sizeMax)
    {request : Contracts.JsonValue} (h : Asks request (sent.map Mcp.stdToString)) :
    parseToolsListStart sizeMax request = .ok (sent.getD 0) := by
  cases sent with
  | none => exact parseToolsListStart_none h
  | some index => exact parseToolsListStart_stdToString hsent h

/-- A page that is taken and fits is an answer. -/
theorem answered_of_page {sent : Option ℕ} {endIndex : ℕ} (hsent : sent.getD 0 ≤ sizeMax)
    (hbegin : sent.getD 0 ≤ endIndex) (hend : endIndex ≤ server.listTools.length)
    (hfits : PageFits server.listTools (sent.getD 0) endIndex (resultBudget id sessionId))
    (hpage : server.listToolsPageJson (sent.getD 0) (resultBudget id sessionId) =
      .ok (serializeListToolsResultPage server.listTools (sent.getD 0) endIndex)) :
    Answered sizeMax id server sessionId sent ((server.listTools.take endIndex).drop (sent.getD 0))
      (if endIndex = server.listTools.length then none else some endIndex) := by
  constructor
  intro request hrequest
  have hstart := parseToolsListStart_of_asks hsent hrequest
  have hne : serializeListToolsResultPage server.listTools (sent.getD 0) endIndex ≠ [] := by
    obtain ⟨text, htext⟩ := Option.isSome_iff_exists.1 hfits.written
    obtain ⟨byte, hbyte, -⟩ := (denotes_writeValue htext).starts
    rw [serializeListToolsResultPage_eq hbegin hend, writeDocument, htext, Option.getD_some]
    rintro rfl
    cases hbyte
  obtain ⟨hbuild, hlength⟩ := buildToolsListResponse_of_page hne hfits.length_le hpage
  refine ⟨_, hstart, hbuild, ?_, hlength, ?_⟩
  · simp only [handleToolsList, hstart, hbuild]
  · have hcarries := carries_page hbegin hend hfits id sessionId
    split_ifs at hcarries ⊢ with hlast
    · exact hcarries
    · exact hcarries

/-- From any index behind which every tool fits, the rest of the tools is listed. -/
theorem listing_from (hsize : server.listTools.length ≤ sizeMax)
    (hfits : ∀ index < server.listTools.length,
      PageFits server.listTools index (index + 1) (resultBudget id sessionId))
    {sent : Option ℕ} (hsent : sent.getD 0 < server.listTools.length) :
    ∃ pages, Listing sizeMax id server sessionId sent pages ∧
      pages.flatten = server.listTools.drop (sent.getD 0) := by
  -- what is left of the tools becomes shorter with every page
  induction hleft : server.listTools.length - sent.getD 0 using Nat.strong_induction_on generalizing sent with
  | _ left ih =>
    obtain ⟨endIndex, hlt, hle, hpage, hanswer⟩ := server.listToolsPageJson_of_fits hsent (hfits _ hsent)
    have hanswered := answered_of_page (hsent.le.trans hsize) hlt.le hle hpage hanswer
    by_cases hlast : endIndex = server.listTools.length
    · rw [if_pos hlast] at hanswered
      refine ⟨_, .last hanswered, ?_⟩
      rw [List.flatten_singleton, hlast, List.take_length]
    · rw [if_neg hlast] at hanswered
      have hnonempty : (server.listTools.take endIndex).drop (sent.getD 0) ≠ [] := by
        rw [← List.length_pos_iff, List.length_drop, List.length_take]
        omega
      have hnext : (some endIndex).getD 0 < server.listTools.length := lt_of_le_of_ne hle hlast
      obtain ⟨pages, hlisting, hflatten⟩ := ih (server.listTools.length - endIndex) (by omega) hnext rfl
      refine ⟨_, .more hanswered hnonempty hlt hlisting, ?_⟩
      rw [List.flatten_cons, hflatten, Option.getD_some, List.drop_take]
      calc (server.listTools.drop (sent.getD 0)).take (endIndex - sent.getD 0) ++ server.listTools.drop endIndex
          = (server.listTools.drop (sent.getD 0)).take (endIndex - sent.getD 0) ++
              (server.listTools.drop (sent.getD 0)).drop (endIndex - sent.getD 0) := by
            rw [List.drop_drop, Nat.add_sub_cancel' hlt.le]
        _ = server.listTools.drop (sent.getD 0) := List.take_append_drop _ _

end

/-- Each page of one tool fits the budget; where there is no tool, the page without one. -/
structure SinglePagesFit (id : Contracts.JsonValue) (server : McpServer ρ) (sessionId : Text) : Prop where
  single : ∀ index < server.listTools.length,
    PageFits server.listTools index (index + 1) (resultBudget id sessionId)
  empty : server.listTools = [] → PageFits server.listTools 0 0 (resultBudget id sessionId)

/-- Following the cursors lists every tool once, in the order of registration, in responses that are bounded;
and every index is read back from its cursor. -/
theorem tools_listed (sizeMax : ℕ) (id : Contracts.JsonValue) (server : McpServer ρ) (sessionId : Text)
    (hsize : server.listTools.length ≤ sizeMax) (hfits : SinglePagesFit id server sessionId) :
    (∃ pages, Listing sizeMax id server sessionId none pages ∧ pages.flatten = server.listTools ∧
        pages.flatten.map ToolDefinition.name = server.registrationOrder) ∧
      ∀ index ≤ sizeMax, ∀ request, Asks request (some (Mcp.stdToString index)) →
        parseToolsListStart sizeMax request = .ok index := by
  refine ⟨?_, fun index hindex request => parseToolsListStart_stdToString hindex⟩
  suffices hlisting : ∃ pages, Listing sizeMax id server sessionId none pages ∧
      pages.flatten = server.listTools by
    obtain ⟨pages, hpages, hflatten⟩ := hlisting
    exact ⟨pages, hpages, hflatten, hflatten ▸ server.listTools_names⟩
  by_cases hempty : server.listTools = []
  · have hpage := hfits.empty hempty
    have hzero : server.listTools.length = 0 := List.length_eq_zero_iff.2 hempty
    have hanswer := server.listToolsPageJson_at_end hzero.symm hpage
    have hanswered : Answered sizeMax id server sessionId none _ _ :=
      answered_of_page (Nat.zero_le _) le_rfl (Nat.zero_le _) hpage hanswer
    rw [Option.getD_none, if_pos hzero.symm] at hanswered
    refine ⟨_, .last hanswered, ?_⟩
    rw [hempty]
    rfl
  · exact listing_from hsize hfits.single (List.length_pos_iff.2 hempty)

/-- Two tools, and a tool list that a client reads in one page. -/
def volumeServer : McpServer Unit where
  tools := [(ascii "volume.set", ⟨⟨ascii "volume.set", ascii "Sets the volume.",
      { properties := [(ascii "level", { type := .integer, minimum := some 0, maximum := some 100 })],
        required := [ascii "level"] }⟩, fun _ => ()⟩),
    (ascii "volume.get", ⟨⟨ascii "volume.get", ascii "Reads the volume.", {}⟩, fun _ => ()⟩)]
  registrationOrder := [ascii "volume.set", ascii "volume.get"]
  registered := by decide +kernel
  nodup := by decide +kernel
  named := by
    intro name tool h
    rw [List.lookup_cons] at h
    split at h
    · next heq =>
        rw [← Option.some.inj h, eq_of_beq heq]
    · rw [List.lookup_cons] at h
      split at h
      · next heq =>
          rw [← Option.some.inj h, eq_of_beq heq]
      · cases h

theorem tools_listed_volume : SinglePagesFit (.string (ascii "1")) volumeServer (ascii "s") ∧
    (∃ pages, Listing 4294967295 (.string (ascii "1")) volumeServer (ascii "s") none pages ∧
        pages.flatten = volumeServer.listTools ∧
        pages.flatten.map ToolDefinition.name = volumeServer.registrationOrder) ∧
      ∀ index ≤ 4294967295, ∀ request, Asks request (some (Mcp.stdToString index)) →
        parseToolsListStart 4294967295 request = .ok index := by
  have hfits : SinglePagesFit (.string (ascii "1")) volumeServer (ascii "s") := by
    constructor
    · intro index hindex
      have hlength : volumeServer.listTools.length = 2 := rfl
      rw [hlength] at hindex
      interval_cases index
      · exact ⟨by decide +kernel, by decide +kernel⟩
      · exact ⟨by decide +kernel, by decide +kernel⟩
    · exact fun hempty => absurd (congrArg List.length hempty) (by decide)
  exact ⟨hfits, tools_listed 4294967295 _ _ _ (by decide) hfits⟩

theorem noTools_registered :
    ∀ name ∈ ([] : List Text), (List.lookup name ([] : List (Text × RegisteredTool Unit))).isSome = true :=
  List.forall_mem_nil _

theorem noTools_named (name : Text) (tool : RegisteredTool Unit)
    (h : List.lookup name ([] : List (Text × RegisteredTool Unit)) = some tool) : tool.definition.name = name :=
  absurd h.symm (Option.some_ne_none tool)

/-- A server without tools. -/
def emptyServer : McpServer Unit where
  registered := noTools_registered
  nodup := List.nodup_nil
  named := noTools_named

/-- An id that leaves no room for a result. -/
def longId : Contracts.JsonValue :=
  .string (List.replicate 3000 97)

/-- Without tools every page of one tool fits, but even the empty list is not sent under a long id. -/
theorem empty_list_not_sent :
    (∀ index < emptyServer.listTools.length,
        PageFits emptyServer.listTools index (index + 1) (resultBudget longId [])) ∧
      ¬∃ pages, Listing 4294967295 longId emptyServer [] none pages := by
  refine ⟨fun index hindex => absurd hindex (Nat.not_lt_zero index), ?_⟩
  have hid : (escape (List.replicate 3000 97)).length = 3000 := by
    have hletter : escapeCharacter 97 = [97] := rfl
    rw [escape, List.flatMap_replicate, hletter, List.length_flatten, List.map_replicate, List.sum_replicate]
    rfl
  have hlong : kLinxMcpMaxResponseBytes ≤ (resultResponse longId [] []).length := by
    rw [kLinxMcpMaxResponseBytes]
    simp only [resultResponse, wrap, jsonRpcPrefix, longId, serialize, List.length_append, hid]
    omega
  have hrefused : buildToolsListResponse longId emptyServer [] 0 =
      .failure .unavailable "tools/list 响应超过安全上限" := by
    simp only [buildToolsListResponse]
    rw [if_pos hlong]
  have hnever : ∀ tools next, ¬Answered 4294967295 longId emptyServer [] none tools next := by
    rintro tools next ⟨hanswers⟩
    obtain ⟨response, -, hbuild, -⟩ := hanswers (.object []) rfl
    rw [Option.getD_none, hrefused] at hbuild
    cases hbuild
  rintro ⟨pages, hlisting⟩
  cases hlisting with
  | last hanswered => exact hnever _ _ hanswered
  | more hanswered => exact hnever _ _ hanswered

end VoiceLife.Runtime
