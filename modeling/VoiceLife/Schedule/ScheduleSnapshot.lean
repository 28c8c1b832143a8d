import VoiceLife.Contracts.Json
import VoiceLife.Storage.SqliteDatabase

/-! # `schedule_snapshot_helpers.cc`: the snapshot of a schedule

`serializeScheduleSnapshot` writes a schedule as a JSON object for the undo log. Of the control characters
it escapes only five, and `ParseJson` takes strings of 4096 bytes at most: `snapshot_readable_iff` says
which snapshots are read back.
-/

open DecimalText (Text ascii printInt)
open Rfc8259 (Tree IsMember Denotes Escapes isPlain joinTexts memberText)

namespace VoiceLife

open Contracts

/-! ## The writer -/

/-- The `switch` of `AppendJsonString`. -/
def ScheduleSnapshot.escape (byte : UInt8) : Text :=
  if byte = 34 then ascii "\\\""
  else if byte = 92 then ascii "\\\\"
  else if byte = 8 then ascii "\\b"
  else if byte = 12 then ascii "\\f"
  else if byte = 10 then ascii "\\n"
  else if byte = 13 then ascii "\\r"
  else if byte = 9 then ascii "\\t"
  else [byte]

namespace ScheduleSnapshot

/-- `AppendJsonString`. -/
def appendJsonString (value : Text) : Text :=
  34 :: (value.flatMap escape ++ [34])

/-- `AppendOptionalInteger`. -/
def appendOptionalInteger (key : Text) (value : Option ℤ) : Text :=
  34 :: (key ++ ascii "\":" ++ (value.elim (ascii "null") (printInt 0)) ++ [44])

/-- `AppendOptionalString`. -/
def appendOptionalString (key : Text) (value : Option Text) : Text :=
  34 :: (key ++ ascii "\":" ++ (value.elim (ascii "null") appendJsonString) ++ [44])

end ScheduleSnapshot

open ScheduleSnapshot

/-- `SerializeScheduleSnapshot`. -/
def serializeScheduleSnapshot (schedule : Schedule) : Text :=
  [123] ++ ascii "\"id\":" ++ printInt 0 schedule.id ++ [44] ++
    ascii "\"event\":" ++ appendJsonString (stringBytes schedule.event) ++ [44] ++
    appendOptionalInteger (ascii "start_time") schedule.startTime ++
    appendOptionalInteger (ascii "end_time") schedule.endTime ++
    appendOptionalString (ascii "location") (schedule.location.map stringBytes) ++
    appendOptionalString (ascii "notes") (schedule.notes.map stringBytes) ++
    appendOptionalInteger (ascii "rule_id") schedule.ruleId ++
    ascii "\"status\":" ++ printInt 0 schedule.status.toInt ++ [44] ++
    ascii "\"created_at\":" ++ printInt 0 schedule.createdAt ++ [44] ++
    ascii "\"updated_at\":" ++ printInt 0 schedule.updatedAt ++ [125]

/-! ## What it stands for -/

namespace Schedule

/-- The texts of a schedule, in UTF-8. -/
def texts (schedule : Schedule) : List Text :=
  stringBytes schedule.event :: ((schedule.location.map stringBytes).toList ++
    (schedule.notes.map stringBytes).toList)

/-- The integers of a schedule, without the status. -/
def integers (schedule : Schedule) : List ℤ :=
  [schedule.id, schedule.createdAt, schedule.updatedAt] ++ schedule.startTime.toList ++
    schedule.endTime.toList ++ schedule.ruleId.toList

/-- The fields of the snapshot. -/
def snapshotMembers (schedule : Schedule) : List (Text × Contracts.JsonValue) :=
  [(ascii "id", .number schedule.id),
    (ascii "event", .string (stringBytes schedule.event)),
    (ascii "start_time", schedule.startTime.elim .null fun time => .number time),
    (ascii "end_time", schedule.endTime.elim .null fun time => .number time),
    (ascii "location", schedule.location.elim .null fun text => .string (stringBytes text)),
    (ascii "notes", schedule.notes.elim .null fun text => .string (stringBytes text)),
    (ascii "rule_id", schedule.ruleId.elim .null fun id => .number id),
    (ascii "status", .number schedule.status.toInt),
    (ascii "created_at", .number schedule.createdAt),
    (ascii "updated_at", .number schedule.updatedAt)]

end Schedule

/-- `ParseJson` accepts the snapshot, as an object with exactly the fields of the schedule. -/
def SnapshotReadable (read : JsonReader) (schedule : Schedule) : Prop :=
  ∃ members, parseJson read (serializeScheduleSnapshot schedule) = .ok (.object members) ∧
    members.Perm schedule.snapshotMembers

/-- The control characters that the writer escapes. -/
def isEscapedControl (byte : UInt8) : Bool :=
  byte = 8 || byte = 9 || byte = 10 || byte = 12 || byte = 13

/-- A text that survives the snapshot. -/
def Snapshotable (text : Text) : Prop :=
  text.length ≤ 4096 ∧ ∀ byte ∈ text, 32 ≤ byte ∨ isEscapedControl byte = true

instance (text : Text) : Decidable (Snapshotable text) :=
  inferInstanceAs (Decidable (_ ∧ _))

/-! ## Its members -/

namespace ScheduleSnapshot

theorem escapes_escape {byte : UInt8} (h : 32 ≤ byte ∨ isEscapedControl byte = true) :
    Escapes escape byte := by
  by_cases h34 : byte = 34
  · subst h34
    exact .inr ⟨[34], rfl, fun _ => rfl⟩
  by_cases h92 : byte = 92
  · subst h92
    exact .inr ⟨[92], rfl, fun _ => rfl⟩
  by_cases h8 : byte = 8
  · subst h8
    exact .inr ⟨[98], rfl, fun _ => rfl⟩
  by_cases h12 : byte = 12
  · subst h12
    exact .inr ⟨[102], rfl, fun _ => rfl⟩
  by_cases h10 : byte = 10
  · subst h10
    exact .inr ⟨[110], rfl, fun _ => rfl⟩
  by_cases h13 : byte = 13
  · subst h13
    exact .inr ⟨[114], rfl, fun _ => rfl⟩
  by_cases h9 : byte = 9
  · subst h9
    exact .inr ⟨[116], rfl, fun _ => rfl⟩
  have hlow : 32 ≤ byte := by
    refine h.resolve_right fun hcontrol => ?_
    simp [isEscapedControl, h8, h9, h10, h12, h13] at hcontrol
  refine .plain h34 h92 hlow ?_
  rw [escape, if_neg h34, if_neg h92, if_neg h8, if_neg h12, if_neg h10, if_neg h13, if_neg h9]

theorem escape_control {byte : UInt8} (h : ¬(32 ≤ byte ∨ isEscapedControl byte = true)) :
    byte < 32 ∧ escape byte = [byte] := by
  rw [not_or, UInt8.not_le, isEscapedControl] at h
  obtain ⟨hlow, hcontrol⟩ := h
  have h34 : byte ≠ 34 := by
    rintro rfl
    exact absurd hlow (by decide)
  have h92 : byte ≠ 92 := by
    rintro rfl
    exact absurd hlow (by decide)
  simp only [Bool.or_eq_true, decide_eq_true_eq, not_or] at hcontrol
  obtain ⟨⟨⟨⟨h8, h9⟩, h10⟩, h12⟩, h13⟩ := hcontrol
  refine ⟨hlow, ?_⟩
  rw [escape, if_neg h34, if_neg h92, if_neg h8, if_neg h12, if_neg h10, if_neg h13, if_neg h9]

/-- A field with an integer: its key, what is written for the value, and the value. -/
def integerField (key : Text) (value : Option ℤ) : Text × Text × Tree :=
  (key, value.elim (ascii "null") (printInt 0), value.elim .null fun value => .number value)

/-- A field with a text. -/
def textField (key : Text) (value : Option Text) : Text × Text × Tree :=
  (key, value.elim (ascii "null") appendJsonString, value.elim .null .string)

/-- The fields that are written. -/
def fields (schedule : Schedule) : List (Text × Text × Tree) :=
  [integerField (ascii "id") (some schedule.id),
    textField (ascii "event") (some (stringBytes schedule.event)),
    integerField (ascii "start_time") schedule.startTime,
    integerField (ascii "end_time") schedule.endTime,
    textField (ascii "location") (schedule.location.map stringBytes),
    textField (ascii "notes") (schedule.notes.map stringBytes),
    integerField (ascii "rule_id") schedule.ruleId,
    integerField (ascii "status") (some schedule.status.toInt),
    integerField (ascii "created_at") (some schedule.createdAt),
    integerField (ascii "updated_at") (some schedule.updatedAt)]

/-- The text of a field. -/
def fieldText (field : Text × Text × Tree) : Text :=
  memberText (34 :: (field.1 ++ [34])) field.2.1

theorem serialize_eq (schedule : Schedule) : serializeScheduleSnapshot schedule =
    123 :: (joinTexts ((fields schedule).map fieldText) ++ [125]) := by
  have hclose : ascii "\":" = [34, 58] := rfl
  have hid : ascii "\"id\":" = 34 :: (ascii "id" ++ [34, 58]) := rfl
  have hevent : ascii "\"event\":" = 34 :: (ascii "event" ++ [34, 58]) := rfl
  have hstatus : ascii "\"status\":" = 34 :: (ascii "status" ++ [34, 58]) := rfl
  have hcreated : ascii "\"created_at\":" = 34 :: (ascii "created_at" ++ [34, 58]) := rfl
  have hupdated : ascii "\"updated_at\":" = 34 :: (ascii "updated_at" ++ [34, 58]) := rfl
  unfold serializeScheduleSnapshot fields
  rw [hid, hevent, hstatus, hcreated, hupdated]
  -- the keys are not looked at any more
  generalize ascii "id" = id, ascii "event" = event, ascii "start_time" = start, ascii "end_time" = stop,
    ascii "location" = location, ascii "notes" = notes, ascii "rule_id" = rule, ascii "status" = status,
    ascii "created_at" = created, ascii "updated_at" = updated
  simp only [fieldText, integerField, textField, memberText, joinTexts, appendOptionalInteger,
    appendOptionalString, hclose, List.map_cons, List.map_nil, List.append_assoc, List.cons_append,
    List.nil_append, Option.elim_some]

/-- A field of the snapshot: a short key that needs no escape, and an integer or a text of the schedule. -/
structure IsField (schedule : Schedule) (field : Text × Text × Tree) : Prop where
  plain : ∀ byte ∈ field.1, isPlain byte = true ∧ byte.toNat < 0x80
  short : field.1.length ≤ 10
  value : (∃ value, field = integerField field.1 value ∧
      ∀ integer ∈ value, integer ∈ schedule.status.toInt :: schedule.integers) ∨
    ∃ value, field = textField field.1 value ∧ ∀ text ∈ value, text ∈ schedule.texts

variable {schedule : Schedule}

theorem isField_of_mem {field : Text × Text × Tree} (h : field ∈ fields schedule) :
    IsField schedule field := by
  -- the test of a key goes through its bytes: over the bound, `decide` would go through all 256
  have hinteger : ∀ key value, (key.all fun byte => decide (isPlain byte = true ∧ byte.toNat < 0x80)) = true →
      key.length ≤ 10 → (∀ integer ∈ value, integer ∈ schedule.status.toInt :: schedule.integers) →
      field = integerField key value → IsField schedule field := by
    rintro key value hkey hlength hvalue rfl
    exact ⟨List.all_iff_forall_prop.1 hkey, hlength, .inl ⟨value, rfl, hvalue⟩⟩
  have htext : ∀ key value, (key.all fun byte => decide (isPlain byte = true ∧ byte.toNat < 0x80)) = true →
      key.length ≤ 10 → (∀ text ∈ value, text ∈ schedule.texts) → field = textField key value →
      IsField schedule field := by
    rintro key value hkey hlength hvalue rfl
    exact ⟨List.all_iff_forall_prop.1 hkey, hlength, .inr ⟨value, rfl, hvalue⟩⟩
  simp only [fields, List.mem_cons, List.not_mem_nil, or_false] at h
  rcases h with h | h | h | h | h | h | h | h | h | h
  · exact hinteger _ _ (by decide +kernel) (by decide) (by simp [Schedule.integers]) h
  · exact htext _ _ (by decide +kernel) (by decide) (by simp [Schedule.texts]) h
  · exact hinteger _ _ (by decide +kernel) (by decide) (by simp +contextual [Schedule.integers]) h
  · exact hinteger _ _ (by decide +kernel) (by decide) (by simp +contextual [Schedule.integers]) h
  · exact htext _ _ (by decide +kernel) (by decide) (by simp +contextual [Schedule.texts]) h
  · exact htext _ _ (by decide +kernel) (by decide) (by simp +contextual [Schedule.texts]) h
  · exact hinteger _ _ (by decide +kernel) (by decide) (by simp +contextual [Schedule.integers]) h
  · exact hinteger _ _ (by decide +kernel) (by decide) (by simp) h
  · exact hinteger _ _ (by decide +kernel) (by decide) (by simp [Schedule.integers]) h
  · exact hinteger _ _ (by decide +kernel) (by decide) (by simp [Schedule.integers]) h

/-- Every text of the schedule has a field. -/
theorem exists_textField {text : Text} (h : text ∈ schedule.texts) :
    ∃ key, textField key (some text) ∈ fields schedule := by
  rw [Schedule.texts, List.mem_cons, List.mem_append, Option.mem_toList, Option.mem_toList] at h
  rcases h with rfl | hlocation | hnotes
  · exact ⟨ascii "event", by simp [fields]⟩
  · exact ⟨ascii "location", by simp [fields, Option.mem_def.1 hlocation]⟩
  · exact ⟨ascii "notes", by simp [fields, Option.mem_def.1 hnotes]⟩

/-! ## Reading the fields -/

/-- The bytes that the writer makes safe. -/
def IsSafe (byte : UInt8) : Prop :=
  32 ≤ byte ∨ isEscapedControl byte = true

theorem isMember_field {field : Text × Text × Tree} (h : field ∈ fields schedule)
    {tree : Option Tree} (hvalue : tree.elim (Rfc8259.Broken field.2.1) (Denotes field.2.1)) :
    IsMember (fieldText field) field.1 tree :=
  ⟨⟨field.1, field.2.1, rfl, Rfc8259.readString_plain fun byte hmem => ((isField_of_mem h).plain byte hmem).1, hvalue⟩⟩

theorem denotes_integerField (key : Text) (value : Option ℤ) :
    Denotes (integerField key value).2.1 (integerField key value).2.2 := by
  cases value with
  | none => exact Rfc8259.denotes_null
  | some value => exact Rfc8259.denotes_printInt value

theorem denotes_textField (key : Text) {value : Option Text}
    (h : ∀ text ∈ value, ∀ byte ∈ text, IsSafe byte) :
    Denotes (textField key value).2.1 (textField key value).2.2 := by
  cases value with
  | none => exact Rfc8259.denotes_null
  | some text => exact Rfc8259.denotes_escaped fun byte hmem => escapes_escape (h text rfl byte hmem)

theorem broken_textField (key : Text) {text : Text} (h : ∃ byte ∈ text, ¬IsSafe byte) :
    Rfc8259.Broken (textField key (some text)).2.1 := by
  apply Rfc8259.broken_escaped
  · intro byte _
    by_cases hsafe : IsSafe byte
    · exact .inl (escapes_escape hsafe)
    · exact .inr (escape_control hsafe)
  · obtain ⟨byte, hmem, hunsafe⟩ := h
    refine ⟨byte, hmem, ?_⟩
    -- a control character is neither plain nor escaped
    obtain ⟨hlow, hraw⟩ := escape_control hunsafe
    rintro (⟨-, hplain⟩ | ⟨letters, hescape, -⟩)
    · simp only [isPlain, Bool.and_eq_true, decide_eq_true_eq] at hplain
      exact absurd hplain.1.1 (not_le.2 (UInt8.lt_iff_toNat_lt.1 hlow))
    · rw [hraw] at hescape
      rw [(List.cons.inj hescape).1] at hlow
      exact absurd hlow (by decide)

/-- With safe texts the snapshot is the object of the fields. -/
theorem denotes_snapshot (h : ∀ text ∈ schedule.texts, ∀ byte ∈ text, IsSafe byte) :
    Denotes (serializeScheduleSnapshot schedule)
      (.object ((fields schedule).map fun field => (field.1, field.2.2))) := by
  have hmembers : ∀ member ∈ (fields schedule).map fun field => (fieldText field, field.1, field.2.2),
      IsMember member.1 member.2.1 (some member.2.2) := by
    intro member hmember
    obtain ⟨field, hfield, rfl⟩ := List.mem_map.1 hmember
    apply isMember_field hfield
    show Denotes field.2.1 field.2.2
    rcases (isField_of_mem hfield).value with ⟨value, heq, -⟩ | ⟨value, heq, htexts⟩
    · rw [heq]
      exact denotes_integerField _ value
    · rw [heq]
      exact denotes_textField _ fun text htext => h text (htexts text htext)
  have hobject := Rfc8259.denotes_object hmembers
  rw [List.map_map, List.map_map] at hobject
  rw [serialize_eq]
  exact hobject

/-- An unsafe byte leaves no JSON text. -/
theorem read_snapshot_none {text : Text} (htext : text ∈ schedule.texts)
    (h : ∃ byte ∈ text, ¬IsSafe byte) : Rfc8259.read (serializeScheduleSnapshot schedule) = none := by
  rw [serialize_eq]
  apply Rfc8259.read_object_broken
  · intro written hwritten
    obtain ⟨field, hfield, rfl⟩ := List.mem_map.1 hwritten
    rcases (isField_of_mem hfield).value with ⟨value, heq, -⟩ | ⟨value, heq, -⟩
    · refine ⟨_, some field.2.2, isMember_field hfield ?_⟩
      show Denotes field.2.1 field.2.2
      rw [heq]
      exact denotes_integerField _ value
    · by_cases hsafe : ∀ text ∈ value, ∀ byte ∈ text, IsSafe byte
      · refine ⟨_, some field.2.2, isMember_field hfield ?_⟩
        show Denotes field.2.1 field.2.2
        rw [heq]
        exact denotes_textField _ hsafe
      · push Not at hsafe
        obtain ⟨other, hother, hunsafe⟩ := hsafe
        refine ⟨_, none, isMember_field hfield ?_⟩
        show Rfc8259.Broken field.2.1
        rw [heq, Option.mem_def.1 hother]
        exact broken_textField _ hunsafe
  · obtain ⟨key, hfield⟩ := exists_textField htext
    refine ⟨_, List.mem_map_of_mem hfield, _, isMember_field hfield ?_⟩
    exact broken_textField key h

/-! ## The text of a snapshot -/

/-- What is written for a byte is the byte itself, or a letter after a backslash. -/
theorem escape_cases (byte : UInt8) :
    escape byte = [byte] ∨ ∃ letter : UInt8, letter.toNat < 0x80 ∧ escape byte = [92, letter] := by
  by_cases h34 : byte = 34
  · subst h34
    exact .inr ⟨34, by decide, rfl⟩
  by_cases h92 : byte = 92
  · subst h92
    exact .inr ⟨92, by decide, rfl⟩
  by_cases h8 : byte = 8
  · subst h8
    exact .inr ⟨98, by decide, rfl⟩
  by_cases h12 : byte = 12
  · subst h12
    exact .inr ⟨102, by decide, rfl⟩
  by_cases h10 : byte = 10
  · subst h10
    exact .inr ⟨110, by decide, rfl⟩
  by_cases h13 : byte = 13
  · subst h13
    exact .inr ⟨114, by decide, rfl⟩
  by_cases h9 : byte = 9
  · subst h9
    exact .inr ⟨116, by decide, rfl⟩
  left
  rw [escape, if_neg h34, if_neg h92, if_neg h8, if_neg h12, if_neg h10, if_neg h13, if_neg h9]

theorem length_escape (byte : UInt8) : (escape byte).length ≤ 2 := by
  rcases escape_cases byte with hraw | ⟨letter, -, hletter⟩
  · rw [hraw]
    exact Nat.le_of_ble_eq_true rfl
  · rw [hletter]
    exact Nat.le_of_ble_eq_true rfl

theorem isUtf8_appendJsonString {value : Text} (h : IsUtf8 value) : IsUtf8 (appendJsonString value) := by
  have hbody : IsUtf8 (value.flatMap escape) := by
    apply h.flatMap
    · intro byte hbyte other hother
      rcases escape_cases byte with hraw | ⟨letter, hletter, hescape⟩
      · rw [hraw] at hother
        rwa [List.mem_singleton.1 hother]
      · rw [hescape] at hother
        rcases List.mem_cons.1 hother with rfl | hother
        · decide
        · rwa [List.mem_singleton.1 hother]
    · intro byte hbyte
      have hne : ∀ code : UInt8, code.toNat < 0x80 → byte ≠ code := by
        rintro code hcode rfl
        exact absurd hcode (not_lt.2 hbyte)
      rw [escape, if_neg (hne 34 (by decide)), if_neg (hne 92 (by decide)), if_neg (hne 8 (by decide)),
        if_neg (hne 12 (by decide)), if_neg (hne 10 (by decide)), if_neg (hne 13 (by decide)),
        if_neg (hne 9 (by decide))]
  exact (@isUtf8_byte 34 (by decide)).append (hbody.append (@isUtf8_byte 34 (by decide)))

theorem isUtf8_texts {text : Text} (h : text ∈ schedule.texts) : IsUtf8 text := by
  rw [Schedule.texts, List.mem_cons, List.mem_append, Option.mem_toList, Option.mem_toList] at h
  rcases h with rfl | h | h
  · exact isUtf8_stringBytes _
  · obtain ⟨location, -, rfl⟩ := Option.map_eq_some_iff.1 h
    exact isUtf8_stringBytes _
  · obtain ⟨notes, -, rfl⟩ := Option.map_eq_some_iff.1 h
    exact isUtf8_stringBytes _

theorem isUtf8_snapshot (schedule : Schedule) : IsUtf8 (serializeScheduleSnapshot schedule) := by
  have hfields : IsUtf8 (joinTexts ((fields schedule).map fieldText)) := by
    apply Rfc8259.isUtf8_joinTexts
    intro written hwritten
    obtain ⟨field, hfield, rfl⟩ := List.mem_map.1 hwritten
    have hparts := isField_of_mem hfield
    have hkey : IsUtf8 field.1 := isUtf8_of_ascii fun byte hmem => (hparts.plain byte hmem).2
    have hnull : IsUtf8 (ascii "null") := isUtf8_ascii rfl
    have hvalue : IsUtf8 field.2.1 := by
      rcases hparts.value with ⟨value, heq, -⟩ | ⟨value, heq, htexts⟩
      · rw [heq]
        cases value with
        | none => exact hnull
        | some value => exact Rfc8259.isUtf8_printInt value
      · rw [heq]
        cases value with
        | none => exact hnull
        | some text => exact isUtf8_appendJsonString (isUtf8_texts (htexts text rfl))
    have hquote := @isUtf8_byte 34 (by decide)
    exact (hquote.append (hkey.append hquote)).append ((@isUtf8_byte 58 (by decide)).append hvalue)
  rw [serialize_eq]
  exact (@isUtf8_byte 123 (by decide)).append (hfields.append (@isUtf8_byte 125 (by decide)))

theorem length_integerField {key : Text} {value : Option ℤ} (h : ∀ integer ∈ value, |integer| ≤ 2 ^ 53) :
    (fieldText (integerField key value)).length ≤ key.length + 20 := by
  have hvalue : (integerField key value).2.1.length ≤ 17 := by
    cases value with
    | none =>
        show (ascii "null").length ≤ 17
        decide
    | some integer =>
        have hlt : integer.natAbs < 10 ^ 16 := by
          have hle := h integer rfl
          rw [← Int.natCast_natAbs] at hle
          omega
        have hdigits := DecimalText.length_natDigits_le (by norm_num) hlt
        show (printInt 0 integer).length ≤ 17
        rw [Rfc8259.printInt_eq, List.length_append]
        split_ifs
        · rw [List.length_singleton]
          omega
        · rw [List.length_nil]
          omega
  rw [fieldText, memberText, List.length_append, List.length_cons, List.length_append,
    List.length_singleton, List.length_cons]
  show key.length + 1 + 1 + (_ + 1) ≤ _
  omega

theorem length_textField {key : Text} {value : Option Text} (h : ∀ text ∈ value, text.length ≤ 4096) :
    (fieldText (textField key value)).length ≤ key.length + 8197 := by
  have hvalue : (textField key value).2.1.length ≤ 8194 := by
    cases value with
    | none =>
        show (ascii "null").length ≤ 8194
        decide
    | some text =>
        have hbody : (text.flatMap escape).length ≤ text.length * 2 := by
          rw [List.length_flatMap, ← smul_eq_mul, ← List.length_map (f := fun byte => (escape byte).length)]
          apply List.sum_le_card_nsmul
          intro length hlength
          obtain ⟨byte, -, rfl⟩ := List.mem_map.1 hlength
          exact length_escape byte
        have htext := h text rfl
        show (appendJsonString text).length ≤ 8194
        rw [appendJsonString, List.length_cons, List.length_append, List.length_singleton]
        omega
  rw [fieldText, memberText, List.length_append, List.length_cons, List.length_append,
    List.length_singleton, List.length_cons]
  show key.length + 1 + 1 + (_ + 1) ≤ _
  omega

/-- Texts of 4096 bytes fit into a text of 32 KiB. -/
theorem length_snapshot (hintegers : ∀ integer ∈ schedule.integers, |integer| ≤ 2 ^ 53)
    (htexts : ∀ text ∈ schedule.texts, text.length ≤ 4096) :
    (serializeScheduleSnapshot schedule).length ≤ 32 * 1024 := by
  have hinteger : ∀ key value, key.length ≤ 10 →
      (∀ integer ∈ value, integer ∈ schedule.status.toInt :: schedule.integers) →
        (fieldText (integerField key value)).length ≤ 30 := by
    intro key value hkey hvalue
    refine (length_integerField fun integer hmem => ?_).trans (by omega)
    rcases List.mem_cons.1 (hvalue integer hmem) with rfl | hmem
    · cases schedule.status <;> decide
    · exact hintegers integer hmem
  have htext : ∀ key value, key.length ≤ 10 → (∀ text ∈ value, text ∈ schedule.texts) →
      (fieldText (textField key value)).length ≤ 8207 := by
    intro key value hkey hvalue
    exact (length_textField fun text hmem => htexts text (hvalue text hmem)).trans (by omega)
  have hsum : (((fields schedule).map fieldText).map List.length).sum ≤ 7 * 30 + 3 * 8207 := by
    have h1 := hinteger (ascii "id") (some schedule.id) (by decide) (by simp [Schedule.integers])
    have h2 := htext (ascii "event") (some (stringBytes schedule.event)) (by decide)
      (by simp [Schedule.texts])
    have h3 := hinteger (ascii "start_time") schedule.startTime (by decide)
      (by simp +contextual [Schedule.integers])
    have h4 := hinteger (ascii "end_time") schedule.endTime (by decide)
      (by simp +contextual [Schedule.integers])
    have h5 := htext (ascii "location") (schedule.location.map stringBytes) (by decide)
      (by simp +contextual [Schedule.texts])
    have h6 := htext (ascii "notes") (schedule.notes.map stringBytes) (by decide)
      (by simp +contextual [Schedule.texts])
    have h7 := hinteger (ascii "rule_id") schedule.ruleId (by decide)
      (by simp +contextual [Schedule.integers])
    have h8 := hinteger (ascii "status") (some schedule.status.toInt) (by decide) (by simp)
    have h9 := hinteger (ascii "created_at") (some schedule.createdAt) (by decide)
      (by simp [Schedule.integers])
    have h10 := hinteger (ascii "updated_at") (some schedule.updatedAt) (by decide)
      (by simp [Schedule.integers])
    simp only [fields, List.map_cons, List.map_nil, List.sum_cons, List.sum_nil]
    omega
  have hjoin := Rfc8259.length_joinTexts_le ((fields schedule).map fieldText)
  rw [List.length_map] at hjoin
  have hten : (fields schedule).length = 10 := rfl
  rw [serialize_eq, List.length_cons, List.length_append, List.length_singleton]
  omega

/-- The object of the fields. -/
def snapshotTree (schedule : Schedule) : Tree :=
  .object ((fields schedule).map fun field => (field.1, field.2.2))

theorem nodup_keys (schedule : Schedule) : ((fields schedule).map Prod.fst).Nodup := by
  have hkeys : [ascii "id", ascii "event", ascii "start_time", ascii "end_time", ascii "location",
      ascii "notes", ascii "rule_id", ascii "status", ascii "created_at", ascii "updated_at"].Nodup := by
    decide
  exact hkeys

theorem interoperable_snapshotTree
    (h : ∀ integer ∈ schedule.integers, |integer| ≤ 2 ^ 53) : (snapshotTree schedule).Interoperable := by
  refine ⟨?_, Tree.interoperableMembers_iff.2 fun member hmember => ?_⟩
  · rw [List.map_map]
    exact nodup_keys schedule
  · obtain ⟨field, hfield, rfl⟩ := List.mem_map.1 hmember
    show field.2.2.Interoperable
    rcases (isField_of_mem hfield).value with ⟨value, heq, hintegers⟩ | ⟨value, heq, -⟩
    · rw [heq]
      cases value with
      | none => exact trivial
      | some integer =>
          apply Rfc8259.isDouble_intCast
          rcases List.mem_cons.1 (hintegers integer rfl) with rfl | hmem
          · cases schedule.status <;> decide
          · exact h integer hmem
    · rw [heq]
      cases value <;> exact trivial

theorem size_snapshotTree (schedule : Schedule) : (snapshotTree schedule).size = 11 := by
  have hinteger : ∀ key value, (integerField key value).2.2.size = 1 := by
    intro key value
    cases value <;> rfl
  have htext : ∀ key value, (textField key value).2.2.size = 1 := by
    intro key value
    cases value <;> rfl
  simp only [snapshotTree, fields, List.map_cons, List.map_nil, Tree.size, Tree.sizeMembers, hinteger, htext]

/-- The limits of the parse are those on the lengths of the texts. -/
theorem fits_snapshotTree_iff (schedule : Schedule) :
    Fits {} (snapshotTree schedule) 0 ↔ ∀ text ∈ schedule.texts, text.length ≤ 4096 := by
  rw [snapshotTree, Fits, fitsMembers_iff]
  constructor
  · rintro ⟨-, -, hmembers⟩ text htext
    obtain ⟨key, hfield⟩ := exists_textField htext
    exact (hmembers _ (List.mem_map_of_mem hfield)).2.2
  · intro h
    refine ⟨Nat.zero_le _, ?_, fun member hmember => ?_⟩
    · rw [List.length_map]
      show 10 ≤ 64
      decide
    · obtain ⟨field, hfield, rfl⟩ := List.mem_map.1 hmember
      have hparts := isField_of_mem hfield
      refine ⟨hparts.short.trans (by decide), ?_⟩
      show Fits {} field.2.2 1
      rcases hparts.value with ⟨value, heq, -⟩ | ⟨value, heq, htexts⟩
      · rw [heq]
        cases value <;> exact (by decide : 1 ≤ 32)
      · rw [heq]
        cases value with
        | none => exact (by decide : 1 ≤ 32)
        | some text => exact ⟨(by decide : 1 ≤ 32), h text (htexts text rfl)⟩

theorem ofTree_snapshotTree (schedule : Schedule) : ∃ members,
    Contracts.JsonValue.ofTree (snapshotTree schedule) = .object members ∧
      members.Perm schedule.snapshotMembers := by
  have hperm := @Contracts.JsonValue.ofMembers_perm
    ((fields schedule).map fun field => (field.1, field.2.2)) [] (by
      rw [List.map_nil, List.nil_append, List.map_map]
      exact nodup_keys schedule)
  refine ⟨_, by rw [snapshotTree, Contracts.JsonValue.ofTree], hperm.trans ?_⟩
  have hinteger : ∀ key value, Contracts.JsonValue.ofTree (integerField key value).2.2 =
      value.elim .null fun value => .number value := by
    intro key value
    cases value <;> rw [integerField] <;> rfl
  have htext : ∀ key (text : Option String),
      Contracts.JsonValue.ofTree (textField key (text.map stringBytes)).2.2 =
        text.elim .null fun text => .string (stringBytes text) := by
    intro key text
    cases text <;> rw [textField] <;> rfl
  have hmembers : (fields schedule).map (fun field => (field.1, Contracts.JsonValue.ofTree field.2.2)) =
      schedule.snapshotMembers := by
    unfold fields Schedule.snapshotMembers
    generalize ascii "id" = id, ascii "event" = event, ascii "start_time" = start,
      ascii "end_time" = stop, ascii "location" = location, ascii "notes" = notes,
      ascii "rule_id" = rule, ascii "status" = status, ascii "created_at" = created,
      ascii "updated_at" = updated
    have hevent := htext event (some schedule.event)
    rw [Option.map_some, Option.elim_some] at hevent
    simp only [List.map_cons, List.map_nil, hinteger, htext, hevent, Option.elim_some]
    rfl
  rw [List.nil_append, List.map_map, ← hmembers]
  exact List.Perm.refl _

end ScheduleSnapshot

/-- A snapshot is read back if and only if its texts are short enough and have no control characters but
the five that are escaped. -/
theorem snapshot_readable_iff (read : JsonReader) (hread : FollowsRfc8259 read) (schedule : Schedule)
    (hintegers : ∀ integer ∈ schedule.integers, |integer| ≤ 2 ^ 53) :
    SnapshotReadable read schedule ↔ ∀ text ∈ schedule.texts, Snapshotable text := by
  by_cases hsafe : ∀ text ∈ schedule.texts, ∀ byte ∈ text, IsSafe byte
  · have hparse := fun value => @parseJson_ok_iff read hread _ _ (denotes_snapshot hsafe)
      (isUtf8_snapshot schedule) (interoperable_snapshotTree hintegers)
      ((size_snapshotTree schedule).le.trans (by decide)) value
    constructor
    · rintro ⟨members, hok, -⟩ text htext
      have hfits := ((hparse _).1 hok).1.2
      exact ⟨(fits_snapshotTree_iff schedule).1 hfits text htext, hsafe text htext⟩
    · intro h
      obtain ⟨members, hvalue, hperm⟩ := ofTree_snapshotTree schedule
      have hlengths : ∀ text ∈ schedule.texts, text.length ≤ 4096 := fun text htext => (h text htext).1
      refine ⟨members, (hparse _).2 ⟨⟨length_snapshot hintegers hlengths, ?_⟩, hvalue.symm⟩, hperm⟩
      exact (fits_snapshotTree_iff schedule).2 hlengths
  · refine iff_of_false ?_ fun h => hsafe fun text htext => (h text htext).2
    push Not at hsafe
    obtain ⟨text, htext, hunsafe⟩ := hsafe
    rintro ⟨members, hok, -⟩
    exact parseJson_refuses hread (read_snapshot_none htext hunsafe) _ hok

/-- A schedule with a line break in its notes. -/
def plainSchedule : Schedule :=
  { id := 7, event := "Meeting", startTime := some 1786928400, notes := some "Room 5\nbring slides" }

theorem plainSchedule_readable : SnapshotReadable grammarReader plainSchedule := by
  refine (snapshot_readable_iff grammarReader followsRfc8259_grammarReader plainSchedule
    (by decide +kernel)).2 ?_
  have htexts : plainSchedule.texts = [stringBytes "Meeting", stringBytes "Room 5\nbring slides"] := rfl
  rw [htexts]
  refine List.forall_mem_cons.2 ⟨⟨by decide +kernel, List.all_iff_forall_prop.1 (by decide +kernel)⟩, ?_⟩
  exact List.forall_mem_singleton.2 ⟨by decide +kernel, List.all_iff_forall_prop.1 (by decide +kernel)⟩

/-- A vertical tab is written as it is, and the snapshot is no JSON text. -/
theorem vertical_tab_unreadable :
    ¬SnapshotReadable grammarReader { id := 7, event := "Meeting\x0bRoom 5" } := by
  rintro ⟨members, hok, -⟩
  refine parseJson_refuses followsRfc8259_grammarReader (read_snapshot_none List.mem_cons_self ?_) _ hok
  exact ⟨11, by decide +kernel, by unfold IsSafe; decide⟩

end VoiceLife
