import VoiceLife.Contracts.ReminderActions
import VoiceLife.Gateway.ActionStream
import VoiceLife.Im.SseDecoder

/-! # Commands on the way to the device

The gateway writes commands to a stream of events, and the device decodes the bytes, parses the data of each
frame and reads the command. `action_commands_survive` follows the commands through both programs.
-/

open DecimalText (Text ascii fixedDigits)

namespace VoiceLife.Im

open Contracts (IsoTime Zone fractionText)

/-! ## Date-times -/

/-- The text begins with ASCII characters, which have these bytes. -/
def BeginsWith (text : JsString) (bytes : Text) (rest : JsString) : Prop :=
  ∃ front, (∀ unit ∈ front, isAscii unit = true) ∧ text = front ++ rest ∧ front.map asciiByte = bytes

theorem BeginsWith.append {text middle rest : JsString} {left right : Text} (h : BeginsWith text left middle)
    (h' : BeginsWith middle right rest) : BeginsWith text (left ++ right) rest := by
  obtain ⟨front, hfront, rfl, rfl⟩ := h
  obtain ⟨back, hback, rfl, rfl⟩ := h'
  refine ⟨front ++ back, fun unit hunit => ?_, (List.append_assoc _ _ _).symm, List.map_append⟩
  rcases List.mem_append.1 hunit with hmem | hmem
  · exact hfront unit hmem
  · exact hback unit hmem

theorem BeginsWith.utf8_eq {text : JsString} {bytes : Text} (h : BeginsWith text bytes []) :
    isWellFormed text = true ∧ utf8 text = bytes := by
  obtain ⟨front, hfront, rfl, rfl⟩ := h
  rw [List.append_nil]
  exact ⟨isWellFormed_of_ascii hfront, utf8_of_ascii hfront⟩

/-- Digits have the bytes of digits. -/
theorem digits_bytes {digits : JsString} (h : JsNumber.AllDigits digits) :
    (∀ unit ∈ digits, isAscii unit = true) ∧
      ∀ byte ∈ digits.map asciiByte, DecimalText.isDigit byte = true := by
  refine ⟨fun unit hunit => (Rfc8259.isDigit_asciiByte (h unit hunit)).1, fun byte hbyte => ?_⟩
  obtain ⟨unit, hunit, rfl⟩ := List.mem_map.1 hbyte
  exact (Rfc8259.isDigit_asciiByte (h unit hunit)).2.1

theorem beginsWith_digits {count value : ℕ} {text rest : JsString}
    (h : Gateway.readDigits count text = some (value, rest)) :
    value < 10 ^ count ∧ BeginsWith text (fixedDigits count value) rest := by
  unfold Gateway.readDigits at h
  split_ifs at h with hdigits
  cases h
  obtain ⟨hlength, hall⟩ := hdigits
  have hunits : JsNumber.AllDigits (text.take count) := List.all_eq_true.1 hall
  obtain ⟨hascii, hbytes⟩ := digits_bytes hunits
  have hcount : ((text.take count).map asciiByte).length = count := by
    rw [List.length_map, List.length_take, Nat.min_eq_left hlength]
  have hlt := DecimalText.decimal_lt hbytes
  have hfixed := DecimalText.fixedDigits_decimal hbytes
  rw [hcount, Rfc8259.decimal_asciiByte hunits] at hlt hfixed
  exact ⟨hlt, text.take count, hascii, (List.take_append_drop _ _).symm, hfixed.symm⟩

theorem beginsWith_expect {unit : CodeUnit} (hascii : isAscii unit = true) {text rest : JsString}
    (h : Gateway.expect unit text = some rest) : BeginsWith text [asciiByte unit] rest := by
  cases text with
  | nil => cases h
  | cons head text =>
      unfold Gateway.expect at h
      dsimp only at h
      split_ifs at h with hhead
      cases h
      rw [hhead]
      exact ⟨[unit], List.forall_mem_singleton.2 hascii, rfl, rfl⟩

theorem beginsWith_fraction {text digits rest : JsString}
    (h : Gateway.readFraction text = some (digits, rest)) :
    ∃ fraction, (∀ byte ∈ fraction, DecimalText.isDigit byte = true) ∧ fraction.length ≤ 9 ∧
      BeginsWith text (fractionText fraction) rest := by
  unfold Gateway.readFraction at h
  split at h
  · rename_i tail
    dsimp only at h
    split_ifs at h with hlength
    cases h
    obtain ⟨hascii, hbytes⟩ := @digits_bytes (tail.takeWhile JsNumber.isDigit) fun unit hunit =>
      List.mem_takeWhile_imp hunit
    have hne : (tail.takeWhile JsNumber.isDigit).map asciiByte ≠ [] := by
      rw [← List.length_pos_iff, List.length_map]
      exact hlength.1
    refine ⟨_, hbytes, ?_, 46 :: tail.takeWhile JsNumber.isDigit, List.forall_mem_cons.2 ⟨rfl, hascii⟩,
      ?_, ?_⟩
    · rw [List.length_map]
      exact hlength.2
    · rw [List.cons_append, List.takeWhile_append_dropWhile]
    · rw [fractionText, if_neg hne]
      rfl
  · cases h
    exact ⟨[], List.forall_mem_nil _, Nat.zero_le _, [], List.forall_mem_nil _, rfl, rfl⟩

theorem beginsWith_offset {text : JsString} {sign : ℤ} {hour minute : ℕ}
    (h : Gateway.readOffset text = some (sign, hour, minute)) (hhour : hour ≤ 23) (hminute : minute ≤ 59) :
    ∃ zone : Zone, zone.Valid ∧ BeginsWith text zone.text [] := by
  unfold Gateway.readOffset at h
  split at h
  · exact ⟨.utc, ⟨Nat.zero_le _, Nat.zero_le _⟩, [90], List.forall_mem_singleton.2 rfl, rfl, rfl⟩
  · rename_i head offset hutc
    by_cases hsign : head = 43 ∨ head = 45
    swap
    · rw [if_neg hsign] at h
      cases h
    rw [if_pos hsign] at h
    obtain ⟨⟨hour', t1⟩, hreadHour, h⟩ := Option.bind_eq_some_iff.1 h
    obtain ⟨t2, hcolon, h⟩ := Option.bind_eq_some_iff.1 h
    obtain ⟨⟨minute', t3⟩, hreadMinute, h⟩ := Option.bind_eq_some_iff.1 h
    dsimp only at h hcolon
    by_cases hend : t3 = []
    swap
    · rw [if_neg hend] at h
      cases h
    rw [if_pos hend] at h
    cases h
    subst hend
    have htime := (beginsWith_digits hreadHour).2.append
      ((beginsWith_expect rfl hcolon).append (beginsWith_digits hreadMinute).2)
    have hfirst : ∀ unit, isAscii unit = true → BeginsWith (unit :: offset) [asciiByte unit] offset :=
      fun unit hunit => ⟨[unit], List.forall_mem_singleton.2 hunit, rfl, rfl⟩
    rcases hsign with rfl | rfl
    · exact ⟨.offset true hour minute, ⟨hhour, hminute⟩, (hfirst 43 rfl).append htime⟩
    · exact ⟨.offset false hour minute, ⟨hhour, hminute⟩, (hfirst 45 rfl).append htime⟩
  · cases h

/-- A date-time of the gateway is one of the contracts. -/
theorem exists_isoTime (time : Gateway.IsoDateTime) :
    ∃ isoTime : IsoTime, isoTime.Valid ∧ BeginsWith time.text isoTime.text [] := by
  have hvalid := time.valid
  unfold Gateway.isValidIsoDateTime at hvalid
  split at hvalid
  · cases hvalid
  · rename_i fields hmatch
    obtain ⟨⟨year, t1⟩, hyear, hmatch⟩ := Option.bind_eq_some_iff.1 hmatch
    obtain ⟨t2, hdash, hmatch⟩ := Option.bind_eq_some_iff.1 hmatch
    obtain ⟨⟨month, t3⟩, hmonth, hmatch⟩ := Option.bind_eq_some_iff.1 hmatch
    obtain ⟨t4, hdash', hmatch⟩ := Option.bind_eq_some_iff.1 hmatch
    obtain ⟨⟨day, t5⟩, hday, hmatch⟩ := Option.bind_eq_some_iff.1 hmatch
    obtain ⟨t6, hT, hmatch⟩ := Option.bind_eq_some_iff.1 hmatch
    obtain ⟨⟨hour, t7⟩, hhour, hmatch⟩ := Option.bind_eq_some_iff.1 hmatch
    obtain ⟨t8, hcolon, hmatch⟩ := Option.bind_eq_some_iff.1 hmatch
    obtain ⟨⟨minute, t9⟩, hminute, hmatch⟩ := Option.bind_eq_some_iff.1 hmatch
    obtain ⟨t10, hcolon', hmatch⟩ := Option.bind_eq_some_iff.1 hmatch
    obtain ⟨⟨second, t11⟩, hsecond, hmatch⟩ := Option.bind_eq_some_iff.1 hmatch
    obtain ⟨⟨digits, t12⟩, hdigits, hmatch⟩ := Option.bind_eq_some_iff.1 hmatch
    obtain ⟨⟨sign, offsetHour, offsetMinute⟩, hoffset, hmatch⟩ := Option.bind_eq_some_iff.1 hmatch
    cases hmatch
    obtain ⟨hmonth1, hmonth12, hday1, hdayLength, hhour23, hminute59, hsecond59, hoffset23, hoffset59⟩ :=
      of_decide_eq_true hvalid
    obtain ⟨hyearLt, hyearText⟩ := beginsWith_digits hyear
    obtain ⟨fraction, hfraction, hnine, hfractionText⟩ := beginsWith_fraction hdigits
    obtain ⟨zone, hzone, hzoneText⟩ := beginsWith_offset hoffset hoffset23 hoffset59
    have hdate : (⟨year, month, day⟩ : Gregorian.Date).Valid :=
      (Gregorian.Date.valid_iff _).2 ⟨Int.ofNat_le.2 hmonth1, Int.ofNat_le.2 hmonth12, Int.ofNat_le.2 hday1,
        hdayLength⟩
    refine ⟨⟨year, month, day, hour, minute, second, fraction, zone⟩,
      ⟨hdate, Nat.le_of_lt_succ hyearLt, hhour23, hminute59, hsecond59, hfraction, hnine, hzone⟩, ?_⟩
    have htime := (beginsWith_digits hhour).2.append ((beginsWith_expect rfl hcolon).append
      ((beginsWith_digits hminute).2.append ((beginsWith_expect rfl hcolon').append
        ((beginsWith_digits hsecond).2.append (hfractionText.append hzoneText)))))
    exact hyearText.append ((beginsWith_expect rfl hdash).append
      ((beginsWith_digits hmonth).2.append ((beginsWith_expect rfl hdash').append
        ((beginsWith_digits hday).2.append ((beginsWith_expect rfl hT).append htime)))))

theorem isoDateTime_utf8 (time : Gateway.IsoDateTime) :
    isWellFormed time.text = true ∧ Contracts.isValidIsoDateTime (utf8 time.text) = true := by
  obtain ⟨isoTime, hvalid, htext⟩ := exists_isoTime time
  obtain ⟨hwell, hutf8⟩ := htext.utf8_eq
  exact ⟨hwell, (Contracts.isValidIsoDateTime_iff _).2 ⟨isoTime, hvalid, hutf8.symm⟩⟩

/-! ## The data of a command -/

/-- The command as the device has it. -/
def received (command : Gateway.ReminderActionCommand) : Contracts.ReminderActionCommand where
  schemaVersion := Contracts.kDeviceContractVersion
  commandId := utf8 command.commandId
  operationId := utf8 command.operationId
  correlationId := utf8 command.correlationId
  deviceId := utf8 command.deviceId
  actorBindingId := utf8 command.actorBindingId
  reminderTriggerId := utf8 command.reminderTriggerId
  action := utf8 command.action.text
  minutes := command.minutes.map JsNumber.toInt
  occurredAt := utf8 command.occurredAt.text
  expiresAt := utf8 command.expiresAt.text

/-- The texts of a command are valid Unicode. -/
def IsUnicode (command : Gateway.ReminderActionCommand) : Prop :=
  ∀ text ∈ [command.commandId, command.operationId, command.correlationId, command.deviceId,
    command.actorBindingId, command.reminderTriggerId], isWellFormed text = true

theorem fields_nodup (command : Gateway.ReminderActionCommand) :
    (command.fields.map fun field => utf8 field.1).Nodup := by
  have hkeys : ([js "schemaVersion", js "commandId", js "operationId", js "correlationId", js "deviceId",
      js "actorBindingId", js "reminderTriggerId", js "action", js "params", js "occurredAt",
      js "expiresAt"].map utf8).Nodup := by
    decide
  have hparams := (Gateway.ReminderActionStatusReport.optionalField_sublist "params" command.params).map utf8
  rw [List.map_map] at hparams
  rw [Gateway.ReminderActionCommand.fields, List.map_append, List.map_append]
  exact hkeys.sublist (((List.Sublist.refl _).append hparams).append (List.Sublist.refl _))

theorem minutes_bounds {minutes : JsNumber} (h : Gateway.validMinutes minutes = true) :
    minutes.isInteger = true ∧ 1 ≤ minutes.toInt ∧ minutes.toInt ≤ Contracts.kMaxSnoozeMinutes := by
  simp only [Gateway.validMinutes, Bool.and_eq_true, decide_eq_true_eq] at h
  exact ⟨h.1.1, h.1.2, h.2⟩

variable {command : Gateway.ReminderActionCommand}

theorem minutes_valid (h : command.Sendable) :
    ∀ minutes ∈ command.minutes, Gateway.validMinutes minutes = true := by
  intro minutes hminutes
  cases haction : command.action with
  | acknowledge =>
      rw [h.acknowledge haction] at hminutes
      cases hminutes
  | snooze =>
      obtain ⟨found, hfound, hvalid⟩ := h.snooze haction
      rw [Option.mem_unique hminutes hfound]
      exact hvalid

theorem portable_toJsonValue (h : command.Sendable)
    (hunicode : IsUnicode command) : command.toJsonValue.Portable := by
  have hminutes := minutes_valid h
  unfold IsUnicode at hunicode
  simp only [List.forall_mem_cons] at hunicode
  obtain ⟨hcommand, hoperation, hcorrelation, hdevice, hbinding, htrigger, -⟩ := hunicode
  have haction : isWellFormed command.action.text = true := by
    cases command.action <;> rfl
  rw [Gateway.ReminderActionCommand.toJsonValue, JsonValue.Portable, JsonValue.portableFields_iff]
  unfold Gateway.ReminderActionCommand.fields Gateway.ReminderActionCommand.params
  cases hparams : command.minutes with
  | none =>
      simp only [Gateway.optionalField, Option.map_none, Option.toList_none, List.append_nil, List.cons_append,
        List.nil_append, List.forall_mem_cons, JsonValue.Portable]
      exact ⟨⟨rfl, rfl⟩, ⟨rfl, hcommand⟩, ⟨rfl, hoperation⟩, ⟨rfl, hcorrelation⟩, ⟨rfl, hdevice⟩,
        ⟨rfl, hbinding⟩, ⟨rfl, htrigger⟩, ⟨rfl, haction⟩, ⟨rfl, (isoDateTime_utf8 _).1⟩,
        ⟨rfl, (isoDateTime_utf8 _).1⟩, List.forall_mem_nil _⟩
  | some minutes =>
      obtain ⟨hinteger, hlow, hhigh⟩ := minutes_bounds (hminutes minutes hparams)
      have hsmall : |minutes.toInt| < 10 ^ 21 := by
        rw [abs_of_nonneg (by omega)]
        exact lt_of_le_of_lt hhigh (by decide)
      have hvalue : (Gateway.minutesParams minutes).value.Portable := ⟨⟨rfl, hinteger, hsmall⟩, trivial⟩
      simp only [Gateway.optionalField, Option.map_some, Option.toList_some, List.cons_append,
        List.nil_append, List.forall_mem_cons, JsonValue.Portable]
      exact ⟨⟨rfl, rfl⟩, ⟨rfl, hcommand⟩, ⟨rfl, hoperation⟩, ⟨rfl, hcorrelation⟩, ⟨rfl, hdevice⟩,
        ⟨rfl, hbinding⟩, ⟨rfl, htrigger⟩, ⟨rfl, haction⟩, ⟨rfl, hvalue⟩, ⟨rfl, (isoDateTime_utf8 _).1⟩,
        ⟨rfl, (isoDateTime_utf8 _).1⟩, List.forall_mem_nil _⟩

/-- The members of a command that was read. -/
theorem get_received (command : Gateway.ReminderActionCommand) (key : Text) :
    (Contracts.JsonValue.ofTree command.toJsonValue.toTree).get key =
      (command.fields.map fun field =>
        (utf8 field.1, Contracts.JsonValue.ofTree field.2.toTree)).lookup key := by
  have hnodup := fields_nodup command
  rw [Gateway.ReminderActionCommand.toJsonValue, JsonValue.toTree, JsonValue.toMembers_eq_map, Contracts.JsonValue.get_ofTree_object]
  · rw [List.map_map]
    rfl
  · rw [List.map_map]
    exact hnodup

/-- A field of a command that was read. -/
theorem get_field {key : JsString} {value : JsonValue} (h : (key, value) ∈ command.fields) :
    (Contracts.JsonValue.ofTree command.toJsonValue.toTree).get (utf8 key) =
      some (.ofTree value.toTree) := by
  rw [get_received, Contracts.JsonValue.lookup_eq_some_iff_mem]
  · exact List.mem_map.2 ⟨(key, value), h, rfl⟩
  · rw [List.map_map]
    exact fields_nodup command

theorem get_params (command : Gateway.ReminderActionCommand) :
    (Contracts.JsonValue.ofTree command.toJsonValue.toTree).get (ascii "params") =
      command.params.map fun value => .ofTree value.toTree := by
  cases hparams : command.params with
  | none =>
      rw [get_received, Gateway.ReminderActionCommand.fields, hparams]
      rfl
  | some value =>
      have hfield : (js "params", value) ∈ command.fields := by
        rw [Gateway.ReminderActionCommand.fields, hparams]
        exact List.mem_append_left _ (List.mem_append_right _ (List.mem_singleton_self _))
      exact get_field hfield

theorem encodePoint_ne_nil (point : ℕ) : encodePoint point ≠ [] := by
  unfold encodePoint
  split_ifs <;> exact List.cons_ne_nil _ _

theorem utf8_ne_nil {text : JsString} (h : text ≠ []) : utf8 text ≠ [] := by
  cases text with
  | nil => exact absurd rfl h
  | cons high text =>
      cases text with
      | nil => exact encodePoint_ne_nil _
      | cons low text =>
          rw [utf8]
          split_ifs
          · exact List.append_ne_nil_of_left_ne_nil (encodePoint_ne_nil _) _
          · exact List.append_ne_nil_of_left_ne_nil (encodePoint_ne_nil _) _

/-- A command that the gateway sends is read as it is. -/
theorem isCommand_received (h : command.Sendable) :
    Contracts.IsCommand (.ofTree command.toJsonValue.toTree) (received command) := by
  have hminutes := minutes_valid h
  obtain ⟨hcommand, htexts, hacknowledge, hsnooze⟩ := h
  simp only [List.forall_mem_cons] at htexts
  obtain ⟨hoperation, hcorrelation, hdevice, hbinding, htrigger, -⟩ := htexts
  have htext : ∀ (key : String) (text : JsString), (js key, JsonValue.string text) ∈ command.fields →
      (Contracts.JsonValue.ofTree command.toJsonValue.toTree).get (utf8 (js key)) =
        some (.string (utf8 text)) := fun _ _ h => get_field h
  refine ⟨rfl, ⟨htext "schemaVersion" Gateway.deviceContractVersion (by simp [Gateway.ReminderActionCommand.fields]), rfl⟩,
    ⟨htext "commandId" command.commandId (by simp [Gateway.ReminderActionCommand.fields]), utf8_ne_nil hcommand.1⟩,
    ⟨htext "operationId" command.operationId (by simp [Gateway.ReminderActionCommand.fields]), utf8_ne_nil hoperation⟩,
    ⟨htext "correlationId" command.correlationId (by simp [Gateway.ReminderActionCommand.fields]), utf8_ne_nil hcorrelation⟩,
    ⟨htext "deviceId" command.deviceId (by simp [Gateway.ReminderActionCommand.fields]), utf8_ne_nil hdevice⟩,
    ⟨htext "actorBindingId" command.actorBindingId (by simp [Gateway.ReminderActionCommand.fields]), utf8_ne_nil hbinding⟩,
    ⟨htext "reminderTriggerId" command.reminderTriggerId (by simp [Gateway.ReminderActionCommand.fields]), utf8_ne_nil htrigger⟩,
    ⟨htext "action" command.action.text (by simp [Gateway.ReminderActionCommand.fields]), ?_⟩, ?_, ?_, ?_,
    ⟨htext "occurredAt" command.occurredAt.text (by simp [Gateway.ReminderActionCommand.fields]), (isoDateTime_utf8 _).2⟩,
    ⟨htext "expiresAt" command.expiresAt.text (by simp [Gateway.ReminderActionCommand.fields]), (isoDateTime_utf8 _).2⟩⟩
  · show utf8 command.action.text ∈ _
    cases command.action
    · exact List.mem_cons_self
    · exact List.mem_cons_of_mem _ List.mem_cons_self
  · rw [get_params, Gateway.ReminderActionCommand.params]
    cases hfound : command.minutes with
    | none => exact .inl ⟨rfl, congrArg (Option.map JsNumber.toInt) hfound⟩
    | some minutes =>
        obtain ⟨hinteger, hlow, hhigh⟩ := minutes_bounds (hminutes minutes hfound)
        refine .inr ⟨_, minutes.toInt, rfl, congrArg (Option.map JsNumber.toInt) hfound, rfl, ?_, hlow, hhigh⟩
        rw [JsNumber.cast_toInt hinteger]
        rfl
  · rintro ⟨haction, hsome⟩
    have hother : utf8 Gateway.ReminderActionKind.snooze.text ≠ ascii "acknowledge" := by decide
    have hkind : command.action = .acknowledge := by
      cases hkind : command.action with
      | acknowledge => rfl
      | snooze =>
          rw [received, hkind] at haction
          exact absurd haction hother
    rw [get_params, Gateway.ReminderActionCommand.params, hacknowledge hkind] at hsome
    cases hsome
  · rintro ⟨haction, hnone⟩
    have hother : utf8 Gateway.ReminderActionKind.acknowledge.text ≠ ascii "snooze" := by decide
    have hkind : command.action = .snooze := by
      cases hkind : command.action with
      | acknowledge =>
          rw [received, hkind] at haction
          exact absurd haction hother
      | snooze => rfl
    obtain ⟨minutes, hfound, -⟩ := hsnooze hkind
    rw [received, Option.mem_def.1 hfound] at hnone
    cases hnone

theorem interoperable_toJsonValue (h : command.Sendable) : command.toJsonValue.toTree.Interoperable := by
  have hminutes := minutes_valid h
  have hparams : ∀ value ∈ command.params, value.toTree.Interoperable := by
    intro value hvalue
    obtain ⟨minutes, hfound, rfl⟩ := Option.map_eq_some_iff.1 hvalue
    obtain ⟨hinteger, hlow, hhigh⟩ := minutes_bounds (hminutes minutes hfound)
    have hdouble : Rfc8259.IsDouble (minutes.mantissa * 10 ^ minutes.exponent) := by
      rw [← JsNumber.cast_toInt hinteger]
      apply Rfc8259.isDouble_intCast
      rw [abs_of_nonneg (by omega)]
      exact hhigh.trans (by decide)
    exact ⟨List.nodup_singleton _, hdouble, trivial⟩
  rw [Gateway.ReminderActionCommand.toJsonValue, JsonValue.toTree, Rfc8259.Tree.Interoperable, Rfc8259.Tree.interoperableMembers_iff,
    JsonValue.toMembers_eq_map, List.map_map]
  refine ⟨fields_nodup command, List.forall_mem_map.2 fun field hfield => ?_⟩
  rcases List.mem_append.1 hfield with hfront | hback
  · rcases List.mem_append.1 hfront with hfirst | hoptional
    · simp only [List.mem_cons, List.not_mem_nil, or_false] at hfirst
      rcases hfirst with rfl | rfl | rfl | rfl | rfl | rfl | rfl | rfl <;> trivial
    · obtain ⟨value, hvalue, rfl⟩ := Option.map_eq_some_iff.1 (Option.mem_toList.1 hoptional)
      exact hparams value hvalue
  · simp only [List.mem_cons, List.not_mem_nil, or_false] at hback
    rcases hback with rfl | rfl <;> trivial

/-- The device parses what the gateway writes for a command, and reads the command. -/
theorem data_received {read : Contracts.JsonReader} (hread : Contracts.FollowsRfc8259 read)
    (h : command.Sendable) (hunicode : IsUnicode command)
    (hlimits : Contracts.WithinDefaultLimits (utf8 command.toJsonValue.stringify)) :
    (Contracts.parseJson read (utf8 command.toJsonValue.stringify) >>= Contracts.parseReminderActionCommand) =
      .ok (received command) := by
  have hportable := portable_toJsonValue h hunicode
  have hparsed := Contracts.parseJson_denotes hread (JsonValue.denotes_stringify hportable)
    (JsonValue.isUtf8_stringify hportable) (interoperable_toJsonValue h) hlimits
  exact bind_eq_ok.2 ⟨_, hparsed, Contracts.parseReminderActionCommand_ok_iff.2 (isCommand_received h)⟩

/-! ## Frames -/

open Gateway (StreamWrite)

/-- A line without control characters that is valid Unicode and not empty. -/
structure IsLine (line : JsString) : Prop where
  ne_nil : line ≠ []
  printable : JsonValue.Printable line
  wellFormed : isWellFormed line = true

theorem isLine_append {label text : JsString} (hlabel : IsLine label) (hprintable : JsonValue.Printable text)
    (hwellFormed : isWellFormed text = true) : IsLine (label ++ text) where
  ne_nil := List.append_ne_nil_of_left_ne_nil hlabel.ne_nil _
  printable := hlabel.printable.append hprintable
  wellFormed := isWellFormed_append hlabel.wellFormed hwellFormed

theorem printable_of_isPlainId {id : JsString} (h : Gateway.IsPlainId id) : JsonValue.Printable id :=
  fun unit hunit => Nat.le_of_succ_le (h.2 unit hunit).1

/-- What is written is made of such lines. -/
theorem isLine_lines {write : StreamWrite}
    (h : ∀ command ∈ write.command?, command.Sendable ∧ IsUnicode command) : ∀ line ∈ write.lines, IsLine line := by
  cases write with
  | heartbeat =>
      refine List.forall_mem_singleton.2 ⟨List.cons_ne_nil _ _, ?_, rfl⟩
      exact JsonValue.printable_js ": heartbeat" (by simp)
  | event command =>
      obtain ⟨hsendable, hunicode⟩ := h command rfl
      have hid : IsLine (js "id: ") := ⟨List.cons_ne_nil _ _, JsonValue.printable_js "id: " (by simp), rfl⟩
      have hevent : IsLine (js "event: reminder.action") :=
        ⟨List.cons_ne_nil _ _, JsonValue.printable_js "event: reminder.action" (by simp), rfl⟩
      have hdata : IsLine (js "data: ") := ⟨List.cons_ne_nil _ _, JsonValue.printable_js "data: " (by simp), rfl⟩
      refine List.forall_mem_cons.2 ⟨isLine_append hid (printable_of_isPlainId hsendable.commandId)
        (hunicode _ List.mem_cons_self), List.forall_mem_cons.2 ⟨hevent, List.forall_mem_singleton.2 ?_⟩⟩
      exact isLine_append hdata (JsonValue.printable_stringify _)
        (JsonValue.isWellFormed_stringify (portable_toJsonValue hsendable hunicode))

/-- The block of a write. -/
def block (write : StreamWrite) : Text :=
  [10].intercalate (write.lines.map utf8)

theorem lines_ne_nil (write : StreamWrite) : write.lines ≠ [] := by
  cases write <;> exact List.cons_ne_nil _ _

theorem utf8_lines {lines : List JsString} (h : ∀ line ∈ lines, IsLine line) :
    isWellFormed (lines.map (· ++ [10])).flatten = true ∧
      utf8 (lines.map (· ++ [10])).flatten = ((lines.map utf8).map (· ++ [10])).flatten := by
  induction lines with
  | nil => exact ⟨rfl, rfl⟩
  | cons line lines ih =>
      have hline := h line List.mem_cons_self
      obtain ⟨hwell, hutf8⟩ := ih fun other hother => h other (List.mem_cons_of_mem _ hother)
      have hend : isWellFormed (line ++ [10]) = true := isWellFormed_append hline.wellFormed rfl
      rw [List.map_cons, List.flatten_cons]
      refine ⟨isWellFormed_append hend hwell, ?_⟩
      rw [utf8_append hend, utf8_append hline.wellFormed, hutf8]
      rfl

/-- The bytes of a write: its block and an empty line. -/
theorem utf8_text {write : StreamWrite} (h : ∀ line ∈ write.lines, IsLine line) :
    utf8 write.text = block write ++ [10, 10] := by
  obtain ⟨hwell, hutf8⟩ := utf8_lines h
  have hne : write.lines.map utf8 ≠ [] := mt List.map_eq_nil_iff.1 (lines_ne_nil write)
  rw [StreamWrite.text, utf8_append hwell, hutf8, ← Framing.intercalate_append hne, List.append_assoc]
  rfl

theorem byte_ge {line : JsString} (h : IsLine line) {byte : UInt8} (hbyte : byte ∈ utf8 line) :
    32 ≤ byte.toNat :=
  h.printable.le_of_mem hbyte

/-- No byte of a line ends a line. -/
theorem not_mem_line {line : JsString} (h : IsLine line) :
    (10 : UInt8) ∉ utf8 line ∧ (13 : UInt8) ∉ utf8 line :=
  ⟨fun hmem => absurd (byte_ge h hmem) (by decide), fun hmem => absurd (byte_ge h hmem) (by decide)⟩

theorem not_infix_block {write : StreamWrite} (h : ∀ line ∈ write.lines, IsLine line) :
    ¬ [10, 10] <:+: block write ++ [10] := by
  have hne : write.lines.map utf8 ≠ [] := mt List.map_eq_nil_iff.1 (lines_ne_nil write)
  rw [block, Framing.intercalate_append hne]
  refine Framing.not_infix_lines (List.forall_mem_map.2 fun line hline => ?_)
  exact ⟨utf8_ne_nil (h line hline).ne_nil, (not_mem_line (h line hline)).1⟩

/-- A text without CR has its line ends already. -/
theorem unifyLineEnds_of_not_mem {bytes : Text} (h : (13 : UInt8) ∉ bytes) : unifyLineEnds bytes = bytes := by
  induction bytes with
  | nil => rfl
  | cons byte bytes ih =>
      rw [List.mem_cons, not_or] at h
      rw [unifyLineEnds, ih h.2]
      · intro rest hbyte
        exact absurd hbyte.symm h.1
      · intro hbyte
        exact absurd hbyte.symm h.1

/-! ## What the decoder reads -/

theorem trim_eq_self {value : Text} (h : ∀ byte ∈ value, isBlank byte = false) : trim value = value := by
  have hdrop : ∀ bytes : Text, (∀ byte ∈ bytes, isBlank byte = false) → bytes.dropWhile isBlank = bytes := by
    intro bytes hbytes
    cases bytes with
    | nil => rfl
    | cons byte bytes => exact List.dropWhile_cons_of_neg (Bool.eq_false_iff.1 (hbytes byte List.mem_cons_self))
  have hreverse : ∀ byte ∈ value.reverse, isBlank byte = false :=
    fun byte hbyte => h byte (List.mem_reverse.1 hbyte)
  rw [trim, hdrop value h, hdrop _ hreverse, List.reverse_reverse]

theorem isBlank_of_isPlainId {id : JsString} (h : Gateway.IsPlainId id) :
    ∀ byte ∈ utf8 id, isBlank byte = false := by
  intro byte hbyte
  have hge : 33 ≤ byte.toNat := by
    rcases mem_utf8 hbyte with ⟨unit, hunit, -, heq⟩ | hlarge
    · rw [heq]
      exact (h.2 unit hunit).1
    · omega
  rw [isBlank, Bool.or_eq_false_iff, beq_eq_false_iff_ne, beq_eq_false_iff_ne]
  constructor
  · rintro rfl
    exact absurd hge (by decide)
  · rintro rfl
    exact absurd hge (by decide)

/-- A line with a field, a colon and a space. -/
theorem readLine_field (state : BlockState) {field value : Text} (hne : field ≠ [])
    (hfield : field.all (· != 58) = true) : state.readLine (field ++ 58 :: 32 :: value) =
      if field = ascii "id" then
        { state with frame := { state.frame with id := trim value }, present := true }
      else if field = ascii "event" then
        { state with frame := { state.frame with event := trim value }, present := true }
      else if field = ascii "data" then
        { state with data := (if state.data = [] then [] else state.data ++ [10]) ++ value, present := true }
      else state := by
  have hcolon : ∀ byte ∈ field, (byte != 58) = true := List.all_eq_true.1 hfield
  have hdrop : (field ++ 58 :: 32 :: value).dropWhile (· != 58) = 58 :: 32 :: value := by
    rw [List.dropWhile_append_of_pos hcolon]
    rfl
  have htake : (field ++ 58 :: 32 :: value).takeWhile (· != 58) = field := by
    rw [List.takeWhile_append_of_pos hcolon, List.takeWhile_cons_of_neg (by decide), List.append_nil]
  have hcomment : ¬(field ++ 58 :: 32 :: value = [] ∨ (field ++ 58 :: 32 :: value).head? = some 58) := by
    obtain ⟨byte, tail, rfl⟩ := List.exists_cons_of_ne_nil hne
    rintro (h | h)
    · cases h
    · cases h
      exact absurd (hcolon 58 List.mem_cons_self) (by decide)
  rw [BlockState.readLine, if_neg hcomment, hdrop, htake]
  rfl

theorem parseBlock_heartbeat : parseBlock (block .heartbeat) = none := by
  decide

/-- The frame of a command. -/
def frameOf (command : Gateway.ReminderActionCommand) : SseFrame where
  id := utf8 command.commandId
  event := ascii "reminder.action"
  data := utf8 command.toJsonValue.stringify

theorem parseBlock_event (h : command.Sendable)
    (hunicode : IsUnicode command) : parseBlock (block (.event command)) = some (frameOf command) := by
  have hlines := @isLine_lines (.event command) fun other hother => Option.some.inj hother ▸ ⟨h, hunicode⟩
  have hsplit : (block (.event command)).splitOn 10 = (StreamWrite.event command).lines.map utf8 :=
    List.splitOn_intercalate 10 (List.forall_mem_map.2 fun line hline => (not_mem_line (hlines line hline)).1)
      (mt List.map_eq_nil_iff.1 (lines_ne_nil _))
  have hid : utf8 (js "id: " ++ command.commandId) = ascii "id" ++ 58 :: 32 :: utf8 command.commandId :=
    utf8_append rfl _
  have hevent : utf8 (js "event: reminder.action") = ascii "event" ++ 58 :: 32 :: ascii "reminder.action" := by
    decide
  have hdata : utf8 (js "data: " ++ command.toJsonValue.stringify) =
      ascii "data" ++ 58 :: 32 :: utf8 command.toJsonValue.stringify := utf8_append rfl _
  have hreadId := fun state value => @readLine_field state (ascii "id") value (List.cons_ne_nil _ _) rfl
  have hreadEvent := fun state value => @readLine_field state (ascii "event") value (List.cons_ne_nil _ _) rfl
  have hreadData := fun state value => @readLine_field state (ascii "data") value (List.cons_ne_nil _ _) rfl
  rw [parseBlock, hsplit, StreamWrite.lines, List.map_cons, List.map_cons, List.map_cons, List.map_nil, hid,
    hevent, hdata, List.foldl_cons, List.foldl_cons, List.foldl_cons, List.foldl_nil,
    hreadId, hreadEvent, hreadData, trim_eq_self (isBlank_of_isPlainId h.commandId)]
  rfl

/-! ## The stream -/

/-- The bytes that the gateway writes. -/
def streamBytes (writes : List StreamWrite) : Text :=
  (writes.map fun write => utf8 write.text).flatten

/-- The commands among the writes. -/
def commandsOf (writes : List StreamWrite) : List Gateway.ReminderActionCommand :=
  writes.filterMap StreamWrite.command?

/-- The stream is made of the blocks of its writes. -/
theorem blocks_streamBytes {writes : List StreamWrite}
    (h : ∀ command ∈ commandsOf writes, command.Sendable ∧ IsUnicode command) :
    Framing.Blocks 10 (unifyLineEnds (streamBytes writes)) (writes.map block) [] := by
  have hlines : ∀ write ∈ writes, ∀ line ∈ write.lines, IsLine line := fun write hwrite =>
    isLine_lines fun command hcommand => h command (List.mem_filterMap.2 ⟨write, hwrite, hcommand⟩)
  have hbytes : streamBytes writes = ((writes.map block).map (· ++ [10, 10])).flatten := by
    rw [streamBytes, List.map_map]
    exact congrArg List.flatten (List.map_congr_left fun write hwrite => utf8_text (hlines write hwrite))
  have hcr : (13 : UInt8) ∉ streamBytes writes := by
    intro hmem
    obtain ⟨bytes, hbytes, hmem⟩ := List.mem_flatten.1 hmem
    obtain ⟨write, hwrite, rfl⟩ := List.mem_map.1 hbytes
    obtain ⟨hwell, hutf8⟩ := utf8_lines (hlines write hwrite)
    rw [StreamWrite.text, utf8_append hwell, hutf8] at hmem
    rcases List.mem_append.1 hmem with hmem | hmem
    · obtain ⟨ended, hended, hmem⟩ := List.mem_flatten.1 hmem
      rw [List.map_map] at hended
      obtain ⟨line, hline, rfl⟩ := List.mem_map.1 hended
      rcases List.mem_append.1 hmem with hmem | hmem
      · exact (not_mem_line (hlines write hwrite line hline)).2 hmem
      · exact absurd (List.mem_singleton.1 hmem) (by decide)
    · exact absurd (List.mem_singleton.1 hmem) (by decide)
  refine ⟨?_, List.forall_mem_map.2 fun write hwrite => not_infix_block (hlines write hwrite), fun hinfix => ?_⟩
  · rw [unifyLineEnds_of_not_mem hcr, List.append_nil]
    exact hbytes
  · exact absurd hinfix.length_le (by decide)

theorem filterMap_blocks {writes : List StreamWrite}
    (h : ∀ command ∈ commandsOf writes, command.Sendable ∧ IsUnicode command) :
    (writes.map block).filterMap parseBlock = (commandsOf writes).map frameOf := by
  induction writes with
  | nil => rfl
  | cons write writes ih =>
      cases write with
      | heartbeat =>
          rw [List.map_cons, List.filterMap_cons_none parseBlock_heartbeat]
          exact ih h
      | event command =>
          obtain ⟨hsendable, hunicode⟩ := h command List.mem_cons_self
          rw [List.map_cons, List.filterMap_cons_some (parseBlock_event hsendable hunicode)]
          exact congrArg (frameOf command :: ·) (ih fun other hother => h other (List.mem_cons_of_mem _ hother))

/-- The command of an action that `triggerPrepared` created on a delivery of an accepted intent. The ids of
bindings are drawn like all others, and the texts of the intent are valid Unicode. -/
structure FromGateway (ids : Gateway.IdGenerator) (command : Gateway.ReminderActionCommand)
    (intent : Gateway.NotificationIntent) (action : Gateway.ImAction) : Prop where
  triggered : Gateway.Triggered ids intent action
  command : command = Gateway.toCommand action
  binding : ∃ n, action.actorBindingId = ids.nth n
  unicode : ∀ text ∈ [intent.correlationId, intent.deviceId, intent.reminderTriggerId], isWellFormed text = true

theorem isWellFormed_of_isPlainId {id : JsString} (h : Gateway.IsPlainId id) : isWellFormed id = true := by
  apply isWellFormed_of_ascii
  intro unit hunit
  have hle := (h.2 unit hunit).2
  exact decide_eq_true (Fin.lt_def.2 (Nat.lt_of_le_of_lt hle (by decide)))

theorem sendable_of_fromGateway {ids : Gateway.IdGenerator} (hids : ∀ n, Gateway.IsPlainId (ids.nth n))
    {intent : Gateway.NotificationIntent} {action : Gateway.ImAction}
    (h : FromGateway ids command intent action) : command.Sendable ∧ IsUnicode command := by
  obtain ⟨htriggered, rfl, ⟨binding, hbinding⟩, hunicode⟩ := h
  have hsendable := Gateway.sendable_of_triggered hids htriggered (hbinding ▸ (hids binding).1)
  obtain ⟨-, ⟨operation, hoperation⟩, hcorrelation, hdevice, htrigger, -⟩ :=
    Gateway.drawn_of_triggered htriggered
  refine ⟨hsendable, ?_⟩
  show ∀ text ∈ [action.id, action.operationId, action.correlationId, action.deviceId, action.actorBindingId,
    action.reminderTriggerId], isWellFormed text = true
  rw [hoperation, hcorrelation, hdevice, hbinding, htrigger]
  simp only [List.forall_mem_cons] at hunicode ⊢
  obtain ⟨hcorrelationId, hdeviceId, htriggerId, -⟩ := hunicode
  exact ⟨isWellFormed_of_isPlainId hsendable.commandId, isWellFormed_of_isPlainId (hids _), hcorrelationId,
    hdeviceId, isWellFormed_of_isPlainId (hids _), htriggerId, List.forall_mem_nil _⟩

/-- A frame with the command that the device reads from it. -/
def readFrame (read : Contracts.JsonReader) (frame : SseFrame) :
    Text × Text × Result Contracts.ReminderActionCommand :=
  (frame.event, frame.id, Contracts.parseJson read frame.data >>= Contracts.parseReminderActionCommand)

/-- However the stream is cut into chunks, the device reads the commands that the gateway wrote, one from each
frame and in the same order, and nothing from the heartbeats. -/
theorem action_commands_survive {read : Contracts.JsonReader} (hread : Contracts.FollowsRfc8259 read)
    {ids : Gateway.IdGenerator} (hids : ∀ n, Gateway.IsPlainId (ids.nth n)) (writes : List StreamWrite)
    (hcommands : ∀ command ∈ commandsOf writes, ∃ intent action, FromGateway ids command intent action)
    (hframes : ∀ command ∈ commandsOf writes, (utf8 (StreamWrite.event command).text).length < kMaxFrameBytes)
    (hlimits : ∀ command ∈ commandsOf writes,
      Contracts.WithinDefaultLimits (utf8 command.toJsonValue.stringify))
    (chunks : List Text) (hchunks : chunks.flatten = streamBytes writes) :
    (SseDecoder.feeds chunks).2.map (readFrame read) = (commandsOf writes).map (fun command =>
        (ascii "reminder.action", utf8 command.commandId, .ok (received command))) ∧
      ∀ done, done <+: chunks → (SseDecoder.feeds done).1.overflow = false := by
  have hsendable : ∀ command ∈ commandsOf writes, command.Sendable ∧ IsUnicode command := by
    intro command hcommand
    obtain ⟨intent, action, hfrom⟩ := hcommands command hcommand
    exact sendable_of_fromGateway hids hfrom
  have hblocks := blocks_streamBytes hsendable
  rw [← hchunks] at hblocks
  have hshort : ∀ found ∈ writes.map block, found.length + 2 < kMaxFrameBytes := by
    refine List.forall_mem_map.2 fun write hwrite => ?_
    cases write with
    | heartbeat => decide +kernel
    | event command =>
        have hcommand : command ∈ commandsOf writes := List.mem_filterMap.2 ⟨_, hwrite, rfl⟩
        have hlines := @isLine_lines (.event command) fun other hother =>
          Option.some.inj hother ▸ hsendable command hcommand
        have hlength := hframes command hcommand
        rw [utf8_text hlines, List.length_append] at hlength
        exact hlength
  obtain ⟨-, hfed, hoverflow, -⟩ := SseDecoder.feeds_frames chunks hblocks hshort (by decide)
  refine ⟨?_, hoverflow⟩
  rw [hfed, filterMap_blocks hsendable, List.map_map]
  refine List.map_congr_left fun command hcommand => ?_
  obtain ⟨hsend, hunicode⟩ := hsendable command hcommand
  have hdata := data_received hread hsend hunicode (hlimits command hcommand)
  show (ascii "reminder.action", utf8 command.commandId, _) = _
  rw [← hdata]
  rfl

section

open Gateway

/-- Ids of a growing row of letters. -/
def letterIds : IdGenerator where
  nth n := List.replicate (n + 1) 65
  injective m n h := by simpa using congrArg List.length h

theorem letterIds_plain (n : ℕ) : IsPlainId (letterIds.nth n) := by
  refine ⟨List.cons_ne_nil _ _, fun unit hunit => ?_⟩
  rw [List.eq_of_mem_replicate hunit]
  decide

/-- The time of a reminder. -/
def reminderTime : IsoDateTime :=
  ⟨js "2026-05-04T20:00:00.5+08:00", by decide⟩

/-- The end of its action window. -/
def windowEnd : IsoDateTime :=
  ⟨js "2026-05-04T20:10:00+08:00", by decide⟩

/-- A strong reminder that can be put off by ten minutes. -/
def snoozeIntent : NotificationIntent where
  businessEventId := js "event"
  correlationId := js "关联\n1"
  userId := js "user"
  deviceId := js "设备"
  scheduleId := js "schedule"
  taskId := js "task"
  instanceId := js "instance"
  reminderTriggerId := js "trigger: 1"
  title := js "title"
  body := none
  plannedAt := reminderTime
  triggerAt := reminderTime
  occurredAt := reminderTime
  reminderType := .strong
  actions := [⟨.snooze, js "OK", some ⟨1, 1, by decide⟩⟩]

/-- The binding it is delivered on. -/
def snoozeBinding : ImBinding :=
  ⟨letterIds.nth 0, js "user", none, js "identity", 0, .active⟩

/-- Its delivery. -/
def snoozeDelivery : Gateway.Delivery :=
  { (submitNotification (fun _ _ => windowEnd) snoozeIntent).candidate reminderTime (letterIds.nth 1) snoozeBinding
      ⟨js "account", .active⟩ .textWithActionUi with
    status := .accepted
    externalMessageId := some (js "message") }

/-- The gateway after the delivery. -/
def snoozeStore : ImStore where
  channelAccounts := KeyTable.empty.set ⟨js "account", .active⟩
  identities := KeyTable.empty.set ⟨js "identity", js "account", .active⟩
  bindings := KeyTable.empty.set snoozeBinding
  deliveries := KeyTable.empty.set snoozeDelivery
  idsUsed := 2

/-- The user puts the reminder off. -/
def snoozeCommand : TriggerPreparedActionCommand where
  claims := ⟨actionIdForDelivery (letterIds.nth 1), letterIds.nth 1, windowEnd⟩
  actionType := .snooze
  actionKeyHash := js "hash"
  actualIdentityId := none
  actionParams := some (minutesParams ⟨1, 1, by decide⟩)

/-- The action that is created. -/
def snoozeAction : ImAction :=
  newAction (letterIds.nth 2) reminderTime snoozeCommand (some (minutesParams ⟨1, 1, by decide⟩)) snoozeDelivery
    snoozeBinding ⟨snoozeIntent.deviceId, snoozeIntent.reminderTriggerId, snoozeIntent.actions⟩ none

/-- The action was created for an accepted intent. -/
theorem snoozeAction_fromGateway :
    FromGateway letterIds (toCommand snoozeAction) snoozeIntent snoozeAction := by
  have haccepted : parseNotificationIntent snoozeIntent.toJson.value = .ok snoozeIntent := rfl
  have hprepared : prepareToken reminderTime snoozeCommand.claims.deliveryId snoozeStore =
      .ok snoozeCommand.claims := rfl
  have htriggered : triggerPrepared letterIds reminderTime snoozeCommand snoozeStore =
      .ok ((toCommand snoozeAction, true),
        ((snoozeStore.nextId letterIds).2.createActionIfAbsent snoozeAction).2) := rfl
  have hmade : SameDelivery ((submitNotification (fun _ _ => windowEnd) snoozeIntent).candidate reminderTime
      (letterIds.nth 1) snoozeBinding ⟨js "account", .active⟩ .textWithActionUi) snoozeDelivery :=
    ⟨_, _, _, _, _, _, rfl⟩
  exact ⟨.intro haccepted hmade hprepared rfl htriggered rfl rfl, rfl, ⟨0, rfl⟩, by decide⟩

theorem snoozeAction_limits :
    Contracts.WithinDefaultLimits (utf8 (toCommand snoozeAction).toJsonValue.stringify) := by
  obtain ⟨hsendable, hunicode⟩ := sendable_of_fromGateway letterIds_plain snoozeAction_fromGateway
  have hdenotes := JsonValue.denotes_stringify (portable_toJsonValue hsendable hunicode)
  refine ⟨by decide +kernel, _, hdenotes.read, ?_, ?_⟩
  · -- every limit is one on a closed length or depth
    repeat' refine And.intro ?_ ?_
    all_goals first
      | exact trivial
      | exact Nat.le_of_ble_eq_true rfl
  · exact Nat.le_of_ble_eq_true rfl

/-- The command between two heartbeats, cut inside its data. -/
theorem snooze_survives :
    let writes := [StreamWrite.heartbeat, .event (toCommand snoozeAction), .heartbeat]
    let chunks := [(streamBytes writes).take 100, (streamBytes writes).drop 100]
    (SseDecoder.feeds chunks).2.map (readFrame Contracts.grammarReader) =
        [(ascii "reminder.action", utf8 (toCommand snoozeAction).commandId,
          .ok (received (toCommand snoozeAction)))] ∧
      ∀ done, done <+: chunks → (SseDecoder.feeds done).1.overflow = false := by
  intro writes chunks
  have honly : ∀ command ∈ commandsOf writes, command = toCommand snoozeAction :=
    fun command hcommand => List.mem_singleton.1 hcommand
  refine action_commands_survive Contracts.followsRfc8259_grammarReader letterIds_plain writes ?_ ?_ ?_ chunks ?_
  · intro command hcommand
    rw [honly command hcommand]
    exact ⟨snoozeIntent, snoozeAction, snoozeAction_fromGateway⟩
  · intro command hcommand
    rw [honly command hcommand]
    decide +kernel
  · intro command hcommand
    rw [honly command hcommand]
    exact snoozeAction_limits
  · show (streamBytes writes).take 100 ++ ((streamBytes writes).drop 100 ++ []) = _
    rw [List.append_nil, List.take_append_drop]

end

end VoiceLife.Im
