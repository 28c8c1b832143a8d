import VoiceLife.Mcp.JsonWriter

/-! # `mcp_server.cc`: the registry and its pages

The server keeps its tools under their names, and the names in the order of their registration. A page is
the longest run of tools from an index whose text fits.
-/

open DecimalText (Text ascii)

namespace VoiceLife.Mcp

open Contracts

/-- `RegisteredTool`, with a type of results. -/
structure RegisteredTool (ρ : Type) where
  definition : ToolDefinition
  handler : ToolCall → ρ

/-- `McpServer`: every name is registered once and its tool is found under it. -/
structure McpServer (ρ : Type) where
  tools : List (Text × RegisteredTool ρ) := []
  registrationOrder : List Text := []
  registered : ∀ name ∈ registrationOrder, (tools.lookup name).isSome = true
  nodup : registrationOrder.Nodup
  named : ∀ name tool, tools.lookup name = some tool → tool.definition.name = name

namespace McpServer

variable {ρ : Type} (server : McpServer ρ)

/-! ### mcp_server.cc::McpServer::list_tools, list_tools_json, list_tools_page_json -/

/-- `list_tools`. -/
def listTools : List ToolDefinition :=
  server.registrationOrder.attach.map fun name =>
    ((server.tools.lookup name.1).get (server.registered name.1 name.2)).definition

/-- `list_tools_json`. -/
def listToolsJson : Text :=
  serializeListToolsResult server.listTools

/-- The loop over the ends of a page: the last text that fits stays. -/
def selectPage (tools : List ToolDefinition) (startIndex maximumJsonBytes : ℕ) : Text :=
  (List.range' (startIndex + 1) (tools.length - startIndex)).foldl
    (fun selected endIndex =>
      let candidate := serializeListToolsResultPage tools startIndex endIndex
      if candidate = ascii "\x7b\x7d" ∨ maximumJsonBytes < candidate.length then selected else candidate) []

/-- `list_tools_page_json`. -/
def listToolsPageJson (startIndex maximumJsonBytes : ℕ) : Result Text :=
  let tools := server.listTools
  if tools.length < startIndex then .failure .invalidArgument "tools/list cursor 超出范围"
  else if startIndex = tools.length then
    let terminal := serializeListToolsResultPage tools startIndex startIndex
    if terminal ≠ ascii "\x7b\x7d" ∧ terminal.length ≤ maximumJsonBytes then .ok terminal
    else .failure .unavailable "tools/list 响应超过安全上限"
  else
    let selected := selectPage tools startIndex maximumJsonBytes
    if selected = [] then .failure .unavailable "单个工具定义超过安全上限"
    else .ok selected

/-! ## The list of the tools -/

/-- Every registered tool is listed under its name. -/
theorem listTools_names : server.listTools.map ToolDefinition.name = server.registrationOrder := by
  rw [listTools, List.map_map]
  calc server.registrationOrder.attach.map _
      = server.registrationOrder.attach.map Subtype.val := by
        apply List.map_congr_left
        rintro ⟨name, hmem⟩ -
        exact server.named name _ (Option.some_get _).symm
    _ = server.registrationOrder := List.attach_map_subtype_val _

end McpServer

/-! ## The longest page that fits -/

/-- The page has a text, and it fits. -/
structure PageFits (tools : List ToolDefinition) (beginIndex endIndex maximumJsonBytes : ℕ) : Prop where
  written : (writeValue (pageDocument tools beginIndex endIndex)).isSome = true
  length_le : (serializeListToolsResultPage tools beginIndex endIndex).length ≤ maximumJsonBytes

/-- The last element that passes a test determines the result of a loop that overwrites it. -/
theorem foldl_overwrite {α β : Type} {skips : α → Prop} [DecidablePred skips] {text : α → β} {items : List α}
    {item : α} (hmem : item ∈ items) (hitem : ¬skips item) (start : β) :
    ∃ before found after, items = before ++ found :: after ∧ ¬skips found ∧ (∀ other ∈ after, skips other) ∧
      items.foldl (fun selected other => if skips other then selected else text other) start = text found := by
  induction items using List.reverseRecOn with
  | nil => exact absurd hmem List.not_mem_nil
  | append_singleton items last ih =>
      rw [List.foldl_append, List.foldl_cons, List.foldl_nil]
      by_cases hlast : skips last
      · rcases List.mem_append.1 hmem with hmem | hmem
        · obtain ⟨before, found, after, rfl, hfound, hafter, hresult⟩ := ih hmem
          refine ⟨before, found, after ++ [last], by simp, hfound, fun other hother => ?_, ?_⟩
          · rcases List.mem_append.1 hother with hother | hother
            · exact hafter other hother
            · rwa [List.mem_singleton.1 hother]
          · rw [if_pos hlast, hresult]
        · rw [List.mem_singleton.1 hmem] at hitem
          exact absurd hlast hitem
      · refine ⟨items, last, [], rfl, hlast, fun other hother => absurd hother List.not_mem_nil, ?_⟩
        rw [if_neg hlast]

variable {tools : List ToolDefinition} {startIndex endIndex maximumJsonBytes : ℕ}

theorem serializeListToolsResultPage_eq (hstart : startIndex ≤ endIndex) (hend : endIndex ≤ tools.length) :
    serializeListToolsResultPage tools startIndex endIndex =
      writeDocument (pageDocument tools startIndex endIndex) := by
  rw [serializeListToolsResultPage, if_neg]
  rintro (h | h)
  · exact absurd h (not_lt.2 hstart)
  · exact absurd h (not_lt.2 hend)

/-- What the loop takes is a page that fits. -/
theorem pageFits_iff (hstart : startIndex ≤ endIndex) (hend : endIndex ≤ tools.length) :
    PageFits tools startIndex endIndex maximumJsonBytes ↔
      ¬(serializeListToolsResultPage tools startIndex endIndex = ascii "\x7b\x7d" ∨
        maximumJsonBytes < (serializeListToolsResultPage tools startIndex endIndex).length) := by
  rw [not_or, not_lt]
  have hpage := serializeListToolsResultPage_eq hstart hend
  constructor
  · intro h
    refine ⟨?_, h.length_le⟩
    rw [hpage]
    exact writeDocument_pageDocument.2 h.written
  · rintro ⟨hwritten, hlength⟩
    rw [hpage] at hwritten
    exact ⟨writeDocument_pageDocument.1 hwritten, hlength⟩

/-- When the first tool fits, the loop takes the longest page that does. -/
theorem selectPage_of_fits (hstart : startIndex < tools.length)
    (hfits : PageFits tools startIndex (startIndex + 1) maximumJsonBytes) :
    ∃ endIndex, startIndex < endIndex ∧ endIndex ≤ tools.length ∧
      PageFits tools startIndex endIndex maximumJsonBytes ∧
      (∀ other, endIndex < other → other ≤ tools.length →
        ¬PageFits tools startIndex other maximumJsonBytes) ∧
      McpServer.selectPage tools startIndex maximumJsonBytes =
        serializeListToolsResultPage tools startIndex endIndex := by
  have hmem : ∀ {index : ℕ}, index ∈ List.range' (startIndex + 1) (tools.length - startIndex) ↔
      startIndex < index ∧ index ≤ tools.length := by
    intro index
    rw [List.mem_range'_1]
    omega
  have hfirst := (pageFits_iff (Nat.le_succ _) hstart).1 hfits
  obtain ⟨before, endIndex, after, hitems, hfound, hafter, hresult⟩ :=
    @foldl_overwrite ℕ Text
      (fun endIndex => serializeListToolsResultPage tools startIndex endIndex = ascii "\x7b\x7d" ∨
        maximumJsonBytes < (serializeListToolsResultPage tools startIndex endIndex).length) _
      (serializeListToolsResultPage tools startIndex) _ _
      (hmem.2 ⟨Nat.lt_succ_self _, hstart⟩) hfirst []
  obtain ⟨hlt, hle⟩ := hmem.1 (hitems ▸ List.mem_append_right before List.mem_cons_self)
  refine ⟨endIndex, hlt, hle, (pageFits_iff hlt.le hle).2 hfound, fun other hother hle' hfits' => ?_, hresult⟩
  -- a larger end stands behind the one that was taken
  have hsorted : (before ++ endIndex :: after).Pairwise (· < ·) := by
    rw [← hitems]
    exact List.pairwise_lt_range'
  have hplace := hmem.2 ⟨hlt.trans hother, hle'⟩
  rw [hitems, List.mem_append, List.mem_cons] at hplace
  rw [List.pairwise_append, List.pairwise_cons] at hsorted
  rcases hplace with hbefore | rfl | hbehind
  · exact absurd (hsorted.2.2 other hbefore endIndex List.mem_cons_self) (not_lt.2 hother.le)
  · exact absurd hother (lt_irrefl other)
  · exact (pageFits_iff (hlt.trans hother).le hle').1 hfits' (hafter other hbehind)

/-- A page is answered from every index whose tool fits. -/
theorem McpServer.listToolsPageJson_of_fits {ρ : Type} (server : McpServer ρ)
    (hstart : startIndex < server.listTools.length)
    (hfits : PageFits server.listTools startIndex (startIndex + 1) maximumJsonBytes) :
    ∃ endIndex, startIndex < endIndex ∧ endIndex ≤ server.listTools.length ∧
      PageFits server.listTools startIndex endIndex maximumJsonBytes ∧
      server.listToolsPageJson startIndex maximumJsonBytes =
        .ok (serializeListToolsResultPage server.listTools startIndex endIndex) := by
  obtain ⟨endIndex, hlt, hle, hpage, -, hselect⟩ := selectPage_of_fits hstart hfits
  refine ⟨endIndex, hlt, hle, hpage, ?_⟩
  have hne : serializeListToolsResultPage server.listTools startIndex endIndex ≠ [] := by
    intro hnil
    obtain ⟨text, htext⟩ := Option.isSome_iff_exists.1 hpage.written
    obtain ⟨byte, hbyte, -⟩ := (denotes_writeValue htext).starts
    rw [serializeListToolsResultPage_eq hlt.le hle, writeDocument, htext, Option.getD_some] at hnil
    rw [hnil] at hbyte
    cases hbyte
  simp only [McpServer.listToolsPageJson]
  rw [if_neg (not_lt.2 hstart.le), if_neg hstart.ne, hselect, if_neg hne]

/-- At the end of the list the empty page is answered. -/
theorem McpServer.listToolsPageJson_at_end {ρ : Type} (server : McpServer ρ)
    (hstart : startIndex = server.listTools.length)
    (hfits : PageFits server.listTools startIndex startIndex maximumJsonBytes) :
    server.listToolsPageJson startIndex maximumJsonBytes =
      .ok (serializeListToolsResultPage server.listTools startIndex startIndex) := by
  have hsent := (pageFits_iff le_rfl hstart.le).1 hfits
  rw [not_or, not_lt] at hsent
  simp only [McpServer.listToolsPageJson]
  rw [if_neg (not_lt.2 hstart.le), if_pos hstart, if_pos hsent]

end VoiceLife.Mcp
