import VoiceLife.Contracts.IsoDateTime
import VoiceLife.Contracts.Json

/-! # `contract_parsing.h`, `reminder_action_command.cc` and `reminder_action_result.cc`

The parsers of the two contracts for reminder actions, over JSON values. `parseReminderActionCommand_ok_iff`
and `parseReminderActionResult_ok_iff` say what they accept.
-/

open DecimalText (Text ascii)

namespace VoiceLife.Contracts

/-! ## Fields -/

/-- `Reject`. -/
def reject {α : Type} (message : String) : Result α :=
  .failure .invalidArgument message

/-- A text that passes a check. -/
def requireText (check : Text → Bool) (message : String) (root : JsonValue) (key : Text) : Result Text :=
  match root.get key with
  | some (.string value) => if check value then .ok value else reject message
  | _ => reject message

/-- A text that passes a check, if the field is there. -/
def optionalText (check : Text → Bool) (message : String) (root : JsonValue) (key : Text) :
    Result (Option Text) :=
  match root.get key with
  | none => .ok none
  | some (.string value) => if check value then .ok (some value) else reject message
  | some _ => reject message

/-- `!value->string.empty()`. -/
def nonempty (value : Text) : Bool :=
  !value.isEmpty

/-- `RequireString`. -/
def requireString (root : JsonValue) (key : Text) : Result Text :=
  requireText nonempty "缺少非空字符串字段" root key

/-- `OptionalString`. -/
def optionalString (root : JsonValue) (key : Text) : Result (Option Text) :=
  optionalText nonempty "可选字符串字段必须非空" root key

/-- `RequireEnum`. -/
def requireEnum (root : JsonValue) (key : Text) (allowed : List Text) : Result Text := do
  let value ← requireString root key
  if value ∈ allowed then return value else reject "枚举字段取值非法"

/-- `RequireIsoDateTime`. -/
def requireIsoDateTime (root : JsonValue) (key : Text) : Result Text :=
  requireText isValidIsoDateTime "时间字段必须是合法 ISO 8601" root key

/-- `OptionalIsoDateTime`. -/
def optionalIsoDateTime (root : JsonValue) (key : Text) : Result (Option Text) :=
  optionalText isValidIsoDateTime "可选时间字段必须是合法 ISO 8601" root key

mutual

/-- `FitsOptionalJsonBudget`, with the nodes counted so far. -/
def fitsOptionalJsonBudget : JsonValue → ℕ → ℕ → Option ℕ
  | .string value, depth, nodes =>
    if depth > 4 ∨ nodes + 1 > 64 then none else if value.length ≤ 1024 then some (nodes + 1) else none
  | .array items, depth, nodes =>
    if depth > 4 ∨ nodes + 1 > 64 then none
    else if items.length > 16 then none
    else fitsItems items (depth + 1) (nodes + 1)
  | .object members, depth, nodes =>
    if depth > 4 ∨ nodes + 1 > 64 then none
    else if members.length > 16 then none
    else fitsMembers members (depth + 1) (nodes + 1)
  | _, depth, nodes => if depth > 4 ∨ nodes + 1 > 64 then none else some (nodes + 1)

/-- The loop over the items of an array. -/
def fitsItems : List JsonValue → ℕ → ℕ → Option ℕ
  | [], _, nodes => some nodes
  | item :: items, depth, nodes => do
    let nodes ← fitsOptionalJsonBudget item depth nodes
    fitsItems items depth nodes

/-- The loop over the members of an object. -/
def fitsMembers : List (Text × JsonValue) → ℕ → ℕ → Option ℕ
  | [], _, nodes => some nodes
  | (key, item) :: members, depth, nodes =>
    if key.length > 1024 then none
    else do
      let nodes ← fitsOptionalJsonBudget item depth nodes
      fitsMembers members depth nodes

end

/-- `OptionalJsonValue`. -/
def optionalJsonValue (root : JsonValue) (key : Text) : Result (Option JsonValue) :=
  match root.get key with
  | none => .ok none
  | some value =>
    if (fitsOptionalJsonBudget value 0 0).isSome then .ok (some value)
    else reject "可选 JSON 字段超出资源预算"

/-- `kDeviceContractVersion`. -/
def kDeviceContractVersion : Text := ascii "1"

/-- The check of `schemaVersion`. -/
def requireSchemaVersion (root : JsonValue) : Result Text :=
  requireText (· = kDeviceContractVersion) "schemaVersion 必须等于 1" root (ascii "schemaVersion")

/-! ## Commands -/

/-- `ReminderActionCommand`. -/
structure ReminderActionCommand where
  schemaVersion : Text
  commandId : Text
  operationId : Text
  correlationId : Text
  deviceId : Text
  actorBindingId : Text
  reminderTriggerId : Text
  action : Text
  minutes : Option ℤ
  occurredAt : Text
  expiresAt : Text

/-- `kMaxSnoozeMinutes`. -/
def kMaxSnoozeMinutes : ℤ := 24 * 60

/-- The minutes in the `params`; without `params` there are none. -/
def parseMinutes (params : Option JsonValue) : Result (Option ℤ) :=
  match params with
  | none => .ok none
  | some params =>
    if !params.isObject then reject "动作 params 必须是对象"
    else
      match params.get (ascii "minutes") with
      | some (.number minutes) =>
        if minutes ≤ 0 ∨ (⌊minutes⌋ : ℚ) ≠ minutes ∨ minutes > 2147483647 ∨ minutes > kMaxSnoozeMinutes then
          reject "动作 params.minutes 必须是 1 到 1440 的整数"
        else .ok (some ⌊minutes⌋)
      | _ => reject "动作 params.minutes 必须是 1 到 1440 的整数"

/-- `ParseReminderActionCommand`. -/
def parseReminderActionCommand (root : JsonValue) : Result ReminderActionCommand := do
  if !root.isObject then reject "ReminderActionCommand 必须是对象"
  else
    let schemaVersion ← requireSchemaVersion root
    let commandId ← requireString root (ascii "commandId")
    let operationId ← requireString root (ascii "operationId")
    let correlationId ← requireString root (ascii "correlationId")
    let deviceId ← requireString root (ascii "deviceId")
    let actorBindingId ← requireString root (ascii "actorBindingId")
    let reminderTriggerId ← requireString root (ascii "reminderTriggerId")
    let action ← requireEnum root (ascii "action") [ascii "acknowledge", ascii "snooze"]
    let minutes ← parseMinutes (root.get (ascii "params"))
    if action = ascii "acknowledge" ∧ (root.get (ascii "params")).isSome then
      reject "acknowledge 命令不得携带 params"
    else if action = ascii "snooze" ∧ minutes.isNone then reject "snooze 命令必须携带 minutes"
    else
      let occurredAt ← requireIsoDateTime root (ascii "occurredAt")
      let expiresAt ← requireIsoDateTime root (ascii "expiresAt")
      return { schemaVersion, commandId, operationId, correlationId, deviceId, actorBindingId,
               reminderTriggerId, action, minutes, occurredAt, expiresAt }

/-! ## Results -/

/-- `ReminderActionResult`. -/
structure ReminderActionResult where
  schemaVersion : Text
  operationId : Text
  reminderTriggerId : Text
  status : Text
  nextTriggerAt : Option Text
  errorCode : Option Text
  details : Option JsonValue
  occurredAt : Text

/-- `ParseReminderActionResult`. -/
def parseReminderActionResult (root : JsonValue) : Result ReminderActionResult := do
  if !root.isObject then reject "ReminderActionResult 必须是对象"
  else
    let schemaVersion ← requireSchemaVersion root
    let operationId ← requireString root (ascii "operationId")
    let reminderTriggerId ← requireString root (ascii "reminderTriggerId")
    let status ← requireEnum root (ascii "status")
      [ascii "succeeded", ascii "retryable_failed", ascii "failed", ascii "expired"]
    let nextTriggerAt ← optionalIsoDateTime root (ascii "nextTriggerAt")
    let errorCode ← optionalString root (ascii "errorCode")
    let details ← optionalJsonValue root (ascii "details")
    let occurredAt ← requireIsoDateTime root (ascii "occurredAt")
    return { schemaVersion, operationId, reminderTriggerId, status, nextTriggerAt, errorCode, details,
             occurredAt }

/-! ## What the fields accept -/

variable {root : JsonValue} {key : Text}

theorem reject_ne_ok {α : Type} {message : String} {value : α} : reject message ≠ .ok value := by
  intro h
  cases h

theorem requireText_ok_iff {check : Text → Bool} {message : String} {value : Text} :
    requireText check message root key = .ok value ↔
      root.get key = some (.string value) ∧ check value = true := by
  unfold requireText
  split
  · rename_i text htext
    rw [htext, Option.some.injEq, JsonValue.string.injEq]
    by_cases hcheck : check text = true
    · rw [if_pos hcheck, Except.ok.injEq]
      exact ⟨fun h => ⟨h, h ▸ hcheck⟩, fun h => h.1⟩
    · rw [if_neg hcheck]
      refine iff_of_false reject_ne_ok ?_
      rintro ⟨rfl, h⟩
      exact hcheck h
  · rename_i hother
    exact iff_of_false reject_ne_ok fun h => hother value h.1

theorem optionalText_ok_iff {check : Text → Bool} {message : String} {value : Option Text} :
    optionalText check message root key = .ok value ↔
      root.get key = value.map .string ∧ ∀ text ∈ value, check text = true := by
  unfold optionalText
  split
  · rename_i hnone
    rw [hnone, Except.ok.injEq]
    constructor
    · rintro rfl
      exact ⟨rfl, fun _ h => by cases h⟩
    · rintro ⟨h, -⟩
      exact (Option.map_eq_none_iff.1 h.symm).symm
  · rename_i text htext
    rw [htext]
    by_cases hcheck : check text = true
    · rw [if_pos hcheck, Except.ok.injEq]
      constructor
      · rintro rfl
        exact ⟨rfl, fun other h => Option.some.inj h ▸ hcheck⟩
      · rintro ⟨h, -⟩
        obtain ⟨other, rfl, hother⟩ := Option.map_eq_some_iff.1 h.symm
        rw [JsonValue.string.inj hother]
    · rw [if_neg hcheck]
      refine iff_of_false reject_ne_ok ?_
      rintro ⟨h, hall⟩
      obtain ⟨other, rfl, hother⟩ := Option.map_eq_some_iff.1 h.symm
      exact hcheck (JsonValue.string.inj hother ▸ hall other rfl)
  · rename_i found hother hfound
    rw [hfound]
    refine iff_of_false reject_ne_ok ?_
    rintro ⟨h, -⟩
    obtain ⟨other, -, heq⟩ := Option.map_eq_some_iff.1 h.symm
    exact hother other heq.symm

theorem requireString_ok_iff {value : Text} : requireString root key = .ok value ↔
    root.get key = some (.string value) ∧ value ≠ [] := by
  rw [requireString, requireText_ok_iff, nonempty, Bool.not_eq_true', List.isEmpty_eq_false_iff]

theorem requireEnum_ok_iff {allowed : List Text} (hallowed : [] ∉ allowed) {value : Text} :
    requireEnum root key allowed = .ok value ↔
      root.get key = some (.string value) ∧ value ∈ allowed := by
  rw [requireEnum, bind_eq_ok]
  constructor
  · rintro ⟨text, htext, h⟩
    by_cases hmem : text ∈ allowed
    · rw [if_pos hmem] at h
      cases h
      exact ⟨(requireString_ok_iff.1 htext).1, hmem⟩
    · rw [if_neg hmem] at h
      exact absurd h reject_ne_ok
  · rintro ⟨hget, hmem⟩
    refine ⟨value, requireString_ok_iff.2 ⟨hget, ?_⟩, if_pos hmem⟩
    rintro rfl
    exact hallowed hmem

theorem optionalJsonValue_ok_iff {value : Option JsonValue} : optionalJsonValue root key = .ok value ↔
    root.get key = value ∧ ∀ found ∈ value, (fitsOptionalJsonBudget found 0 0).isSome = true := by
  unfold optionalJsonValue
  split
  · rename_i hnone
    rw [hnone, Except.ok.injEq]
    refine ⟨fun h => ⟨h, ?_⟩, fun h => h.1⟩
    rintro found hfound
    rw [← h] at hfound
    cases hfound
  · rename_i found hfound
    rw [hfound]
    by_cases hfits : (fitsOptionalJsonBudget found 0 0).isSome = true
    · rw [if_pos hfits, Except.ok.injEq]
      refine ⟨fun h => ⟨h, fun other hother => ?_⟩, fun h => h.1⟩
      rw [← h] at hother
      exact Option.some.inj hother ▸ hfits
    · rw [if_neg hfits]
      refine iff_of_false reject_ne_ok fun h => hfits (h.2 found ?_)
      rw [← h.1]
      rfl

/-! ## What the contracts accept -/

/-- The object is read as the result. -/
structure IsResult (root : JsonValue) (result : ReminderActionResult) : Prop where
  isObject : root.isObject = true
  schemaVersion : root.get (ascii "schemaVersion") = some (.string result.schemaVersion) ∧
    result.schemaVersion = kDeviceContractVersion
  operationId : root.get (ascii "operationId") = some (.string result.operationId) ∧
    result.operationId ≠ []
  reminderTriggerId : root.get (ascii "reminderTriggerId") = some (.string result.reminderTriggerId) ∧
    result.reminderTriggerId ≠ []
  status : root.get (ascii "status") = some (.string result.status) ∧
    result.status ∈ [ascii "succeeded", ascii "retryable_failed", ascii "failed", ascii "expired"]
  nextTriggerAt : root.get (ascii "nextTriggerAt") = result.nextTriggerAt.map .string ∧
    ∀ text ∈ result.nextTriggerAt, isValidIsoDateTime text = true
  errorCode : root.get (ascii "errorCode") = result.errorCode.map .string ∧
    ∀ text ∈ result.errorCode, nonempty text = true
  details : root.get (ascii "details") = result.details ∧
    ∀ value ∈ result.details, (fitsOptionalJsonBudget value 0 0).isSome = true
  occurredAt : root.get (ascii "occurredAt") = some (.string result.occurredAt) ∧
    isValidIsoDateTime result.occurredAt = true

theorem requireSchemaVersion_ok_iff {value : Text} : requireSchemaVersion root = .ok value ↔
    root.get (ascii "schemaVersion") = some (.string value) ∧ value = kDeviceContractVersion := by
  rw [requireSchemaVersion, requireText_ok_iff, decide_eq_true_iff]

theorem parseReminderActionResult_ok_iff {result : ReminderActionResult} :
    parseReminderActionResult root = .ok result ↔ IsResult root result := by
  unfold parseReminderActionResult
  by_cases hobject : root.isObject = true
  · rw [if_neg (by rw [hobject]; exact Bool.false_ne_true)]
    constructor
    · intro h
      obtain ⟨schemaVersion, hversion, h⟩ := bind_eq_ok.1 h
      obtain ⟨operationId, hoperation, h⟩ := bind_eq_ok.1 h
      obtain ⟨reminderTriggerId, htrigger, h⟩ := bind_eq_ok.1 h
      obtain ⟨status, hstatus, h⟩ := bind_eq_ok.1 h
      obtain ⟨nextTriggerAt, hnext, h⟩ := bind_eq_ok.1 h
      obtain ⟨errorCode, herror, h⟩ := bind_eq_ok.1 h
      obtain ⟨details, hdetails, h⟩ := bind_eq_ok.1 h
      obtain ⟨occurredAt, hoccurred, h⟩ := bind_eq_ok.1 h
      cases h
      exact ⟨hobject, requireSchemaVersion_ok_iff.1 hversion, requireString_ok_iff.1 hoperation,
        requireString_ok_iff.1 htrigger, (requireEnum_ok_iff (by decide)).1 hstatus,
        optionalText_ok_iff.1 hnext, optionalText_ok_iff.1 herror, optionalJsonValue_ok_iff.1 hdetails,
        requireText_ok_iff.1 hoccurred⟩
    · intro h
      refine bind_eq_ok.2 ⟨_, requireSchemaVersion_ok_iff.2 h.schemaVersion, ?_⟩
      refine bind_eq_ok.2 ⟨_, requireString_ok_iff.2 h.operationId, ?_⟩
      refine bind_eq_ok.2 ⟨_, requireString_ok_iff.2 h.reminderTriggerId, ?_⟩
      refine bind_eq_ok.2 ⟨_, (requireEnum_ok_iff (by decide)).2 h.status, ?_⟩
      refine bind_eq_ok.2 ⟨_, optionalText_ok_iff.2 h.nextTriggerAt, ?_⟩
      refine bind_eq_ok.2 ⟨_, optionalText_ok_iff.2 h.errorCode, ?_⟩
      refine bind_eq_ok.2 ⟨_, optionalJsonValue_ok_iff.2 h.details, ?_⟩
      exact bind_eq_ok.2 ⟨_, requireText_ok_iff.2 h.occurredAt, rfl⟩
  · rw [Bool.not_eq_true] at hobject
    rw [hobject, Bool.not_false, if_pos rfl]
    exact iff_of_false reject_ne_ok fun h => Bool.false_ne_true (hobject.symm.trans h.isObject)

/-- The minutes of the parameters: a whole number up to the limit. -/
def IsMinutes (params : Option JsonValue) (minutes : Option ℤ) : Prop :=
  (params = none ∧ minutes = none) ∨
    ∃ found count, params = some found ∧ minutes = some count ∧ found.isObject = true ∧
      found.get (ascii "minutes") = some (.number count) ∧ 1 ≤ count ∧ count ≤ kMaxSnoozeMinutes

/-- The object is read as the command. -/
structure IsCommand (root : JsonValue) (command : ReminderActionCommand) : Prop where
  isObject : root.isObject = true
  schemaVersion : root.get (ascii "schemaVersion") = some (.string command.schemaVersion) ∧
    command.schemaVersion = kDeviceContractVersion
  commandId : root.get (ascii "commandId") = some (.string command.commandId) ∧ command.commandId ≠ []
  operationId : root.get (ascii "operationId") = some (.string command.operationId) ∧ command.operationId ≠ []
  correlationId : root.get (ascii "correlationId") = some (.string command.correlationId) ∧
    command.correlationId ≠ []
  deviceId : root.get (ascii "deviceId") = some (.string command.deviceId) ∧ command.deviceId ≠ []
  actorBindingId : root.get (ascii "actorBindingId") = some (.string command.actorBindingId) ∧
    command.actorBindingId ≠ []
  reminderTriggerId : root.get (ascii "reminderTriggerId") = some (.string command.reminderTriggerId) ∧
    command.reminderTriggerId ≠ []
  action : root.get (ascii "action") = some (.string command.action) ∧
    command.action ∈ [ascii "acknowledge", ascii "snooze"]
  minutes : IsMinutes (root.get (ascii "params")) command.minutes
  acknowledge : ¬(command.action = ascii "acknowledge" ∧ (root.get (ascii "params")).isSome)
  snooze : ¬(command.action = ascii "snooze" ∧ command.minutes.isNone)
  occurredAt : root.get (ascii "occurredAt") = some (.string command.occurredAt) ∧
    isValidIsoDateTime command.occurredAt = true
  expiresAt : root.get (ascii "expiresAt") = some (.string command.expiresAt) ∧
    isValidIsoDateTime command.expiresAt = true

theorem parseMinutes_ok_iff {params : Option JsonValue} {minutes : Option ℤ} :
    parseMinutes params = .ok minutes ↔ IsMinutes params minutes := by
  unfold parseMinutes
  split
  · constructor
    · intro h
      cases h
      exact .inl ⟨rfl, rfl⟩
    · rintro (⟨-, rfl⟩ | ⟨found, count, h, -⟩)
      · rfl
      · cases h
  · rename_i found
    by_cases hobject : found.isObject = true
    · rw [hobject, Bool.not_true, if_neg Bool.false_ne_true]
      split
      · rename_i number hnumber
        by_cases hwrong : number ≤ 0 ∨ (⌊number⌋ : ℚ) ≠ number ∨ number > 2147483647 ∨ number > kMaxSnoozeMinutes
        · rw [if_pos hwrong]
          refine iff_of_false reject_ne_ok ?_
          rintro (⟨h, -⟩ | ⟨other, count, hother, -, -, hget, hlow, hhigh⟩)
          · cases h
          · rw [← Option.some.inj hother, hnumber] at hget
            cases hget
            rw [Int.floor_intCast] at hwrong
            have hlimit : (kMaxSnoozeMinutes : ℚ) = 1440 := by norm_num [kMaxSnoozeMinutes]
            have hlow' : (1 : ℚ) ≤ count := by exact_mod_cast hlow
            have hhigh' : (count : ℚ) ≤ kMaxSnoozeMinutes := by exact_mod_cast hhigh
            rcases hwrong with h | h | h | h
            · linarith
            · exact h rfl
            · linarith
            · linarith
        · rw [if_neg hwrong]
          simp only [not_or, not_le, ne_eq, not_not, gt_iff_lt, not_lt] at hwrong
          obtain ⟨hpositive, hfloor, -, hlimit⟩ := hwrong
          constructor
          · intro h
            cases h
            refine .inr ⟨found, ⌊number⌋, rfl, rfl, hobject, ?_, ?_, ?_⟩
            · rw [hnumber, hfloor]
            · rw [← hfloor] at hpositive
              exact_mod_cast hpositive
            · rw [← hfloor] at hlimit
              exact_mod_cast hlimit
          · rintro (⟨h, -⟩ | ⟨other, count, hother, rfl, -, hget, -⟩)
            · cases h
            · rw [← Option.some.inj hother, hnumber] at hget
              cases hget
              rw [Int.floor_intCast]
      · rename_i hother
        refine iff_of_false reject_ne_ok ?_
        rintro (⟨h, -⟩ | ⟨other, count, hsome, -, -, hget, -⟩)
        · cases h
        · rw [← Option.some.inj hsome] at hget
          exact hother _ hget
    · rw [Bool.not_eq_true] at hobject
      rw [hobject, Bool.not_false, if_pos rfl]
      refine iff_of_false reject_ne_ok ?_
      rintro (⟨h, -⟩ | ⟨other, count, hsome, -, hother, -⟩)
      · cases h
      · rw [← Option.some.inj hsome, hobject] at hother
        cases hother

theorem parseReminderActionCommand_ok_iff {command : ReminderActionCommand} :
    parseReminderActionCommand root = .ok command ↔ IsCommand root command := by
  unfold parseReminderActionCommand
  by_cases hobject : root.isObject = true
  · rw [if_neg (by rw [hobject]; exact Bool.false_ne_true)]
    constructor
    · intro h
      obtain ⟨schemaVersion, hversion, h⟩ := bind_eq_ok.1 h
      obtain ⟨commandId, hcommand, h⟩ := bind_eq_ok.1 h
      obtain ⟨operationId, hoperation, h⟩ := bind_eq_ok.1 h
      obtain ⟨correlationId, hcorrelation, h⟩ := bind_eq_ok.1 h
      obtain ⟨deviceId, hdevice, h⟩ := bind_eq_ok.1 h
      obtain ⟨actorBindingId, hbinding, h⟩ := bind_eq_ok.1 h
      obtain ⟨reminderTriggerId, htrigger, h⟩ := bind_eq_ok.1 h
      obtain ⟨action, haction, h⟩ := bind_eq_ok.1 h
      obtain ⟨minutes, hminutes, h⟩ := bind_eq_ok.1 h
      split_ifs at h with hacknowledge hsnooze
      · exact absurd h reject_ne_ok
      · exact absurd h reject_ne_ok
      · obtain ⟨occurredAt, hoccurred, h⟩ := bind_eq_ok.1 h
        obtain ⟨expiresAt, hexpires, h⟩ := bind_eq_ok.1 h
        cases h
        exact ⟨hobject, requireSchemaVersion_ok_iff.1 hversion, requireString_ok_iff.1 hcommand,
          requireString_ok_iff.1 hoperation, requireString_ok_iff.1 hcorrelation,
          requireString_ok_iff.1 hdevice, requireString_ok_iff.1 hbinding, requireString_ok_iff.1 htrigger,
          (requireEnum_ok_iff (by decide)).1 haction, parseMinutes_ok_iff.1 hminutes, hacknowledge,
          hsnooze, requireText_ok_iff.1 hoccurred, requireText_ok_iff.1 hexpires⟩
    · intro h
      refine bind_eq_ok.2 ⟨_, requireSchemaVersion_ok_iff.2 h.schemaVersion, ?_⟩
      refine bind_eq_ok.2 ⟨_, requireString_ok_iff.2 h.commandId, ?_⟩
      refine bind_eq_ok.2 ⟨_, requireString_ok_iff.2 h.operationId, ?_⟩
      refine bind_eq_ok.2 ⟨_, requireString_ok_iff.2 h.correlationId, ?_⟩
      refine bind_eq_ok.2 ⟨_, requireString_ok_iff.2 h.deviceId, ?_⟩
      refine bind_eq_ok.2 ⟨_, requireString_ok_iff.2 h.actorBindingId, ?_⟩
      refine bind_eq_ok.2 ⟨_, requireString_ok_iff.2 h.reminderTriggerId, ?_⟩
      refine bind_eq_ok.2 ⟨_, (requireEnum_ok_iff (by decide)).2 h.action, ?_⟩
      refine bind_eq_ok.2 ⟨_, parseMinutes_ok_iff.2 h.minutes, ?_⟩
      rw [if_neg h.acknowledge, if_neg h.snooze]
      refine bind_eq_ok.2 ⟨_, requireText_ok_iff.2 h.occurredAt, ?_⟩
      exact bind_eq_ok.2 ⟨_, requireText_ok_iff.2 h.expiresAt, rfl⟩
  · rw [Bool.not_eq_true] at hobject
    rw [hobject, Bool.not_false, if_pos rfl]
    exact iff_of_false reject_ne_ok fun h => Bool.false_ne_true (hobject.symm.trans h.isObject)

end VoiceLife.Contracts
