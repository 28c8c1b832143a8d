import VoiceLife.Mcp.ToolText
import VoiceLife.Schedule.PlannerRange

/-! # `schedule_mcp_tools_input.cc`: the arguments of the rule tools

`ParseFlat` reads the recurrence fields one after another and stops at the first that it rejects. A
field that is left out stays empty; the create tool then fills in its defaults, the update tool leaves
the stored field alone.
-/

namespace VoiceLife.Mcp

open CInt DecimalText Gregorian

/-- The arguments that `CreateRuleProperties` and `UpdateRuleProperties` name. -/
structure RuleArguments where
  ruleId : Option ℤ := none
  event : Option String := none
  location : Option String := none
  notes : Option String := none
  freqType : Option String := none
  startTime : Option Text := none
  endTime : Option Text := none
  startDate : Option Text := none
  endDate : Option Text := none
  intervalVal : Option ℤ := none
  weekdaysMask : Option ℤ := none
  dayOfMonth : Option ℤ := none
  monthOfYear : Option ℤ := none
  monthlyMode : Option String := none
  occurrenceCount : Option ℤ := none
  ignoreConflict : Option Bool := none

/-- `ParsedRepeat`, without its error. -/
structure ParsedRepeat where
  freqType : Option Frequency := none
  startTime : Option LocalTime := none
  endTime : Option LocalTime := none
  startDate : Option LocalDate := none
  endDate : Option LocalDate := none
  intervalVal : Option ℤ := none
  weekdaysMask : Option UInt8 := none
  dayOfMonth : Option UInt8 := none
  monthOfYear : Option UInt8 := none
  monthlyMode : Option MonthlyMode := none
  occurrenceCount : Option ℤ := none

/-! ### schedule_mcp_tools_input.cc::ParseFrequency, ParseMonthlyMode, ParseFlat -/

def parseFrequency (text : String) : Option Frequency :=
  if text = "daily" then some .daily
  else if text = "weekly" then some .weekly
  else if text = "monthly" then some .monthly
  else if text = "yearly" then some .yearly
  else none

def parseMonthlyMode (text : String) : Option MonthlyMode :=
  if text = "specific_day" then some .specificDay
  else if text = "last_day" then some .lastDay
  else none

/-- One field of `ParseFlat`: left out, read, or rejected with a message. -/
def parseField {α β : Type} (value : Option α) (parse : α → Option β) (message : String) :
    Except String (Option β) :=
  match value with
  | none => .ok none
  | some given =>
    match parse given with
    | none => .error message
    | some field => .ok (some field)

/-- A count between 1 and a bound, kept as an `int32_t`. -/
def parseCount (high value : ℤ) : Option ℤ :=
  if value < 1 ∨ value > high then none else some value

/-- A number between 1 and a bound, kept as a `uint8_t`. -/
def parseByte (high value : ℤ) : Option UInt8 :=
  if value < 1 ∨ value > high then none else some (UInt8.ofNat value.toNat)

def parseFlat (properties : RuleArguments) (requireAnchor : Bool) : Except String ParsedRepeat := do
  let freqType ← parseField properties.freqType parseFrequency
    "freq_type 必须是 daily、weekly、monthly 或 yearly；请不要传入其他周期名称"
  let startTime ← parseField properties.startTime parseLocalTime
    "start_time 必须是严格的 HH:mm:ss 格式，例如 08:30:00"
  let endTime ← parseField properties.endTime parseLocalTime
    "end_time 必须是严格的 HH:mm:ss 格式，例如 09:30:00"
  let startDate ← parseField properties.startDate parseLocalDate
    "start_date 必须是严格的 YYYY-MM-DD 格式，例如 2026-08-27"
  let endDate ← parseField properties.endDate parseLocalDate
    "end_date 必须是严格的 YYYY-MM-DD 格式，例如 2026-12-31"
  let intervalVal ← parseField properties.intervalVal (parseCount intMax)
    "interval_val 必须是 1 到 2147483647 之间的整数"
  let weekdaysMask ← parseField properties.weekdaysMask (parseByte 127)
    "weekdays_mask 必须是 1 到 127 之间的整数；仅 weekly 周期需要传入"
  let dayOfMonth ← parseField properties.dayOfMonth (parseByte 31)
    "day_of_month 必须是 1 到 31 之间的整数；按月指定日期时传入"
  let monthOfYear ← parseField properties.monthOfYear (parseByte 12)
    "month_of_year 必须是 1 到 12 之间的整数；yearly 周期需要传入"
  let monthlyMode ← parseField properties.monthlyMode parseMonthlyMode
    "monthly_mode 只能是 specific_day 或 last_day；仅 monthly 周期使用"
  let occurrenceCount ← parseField properties.occurrenceCount (parseCount intMax)
    "occurrence_count 必须是 1 到 2147483647 之间的整数"
  if requireAnchor ∧ (freqType.isNone ∨ startTime.isNone ∨ startDate.isNone) then
    .error "创建周期日程时必须传入 freq_type、start_date 和 start_time；这些字段不能省略"
  else
    .ok { freqType, startTime, endTime, startDate, endDate, intervalVal, weekdaysMask, dayOfMonth,
          monthOfYear, monthlyMode, occurrenceCount }

/-- `ParseRuleProperties`. -/
def parseRuleProperties (properties : RuleArguments) (requireAnchor : Bool) :
    Except String ParsedRepeat :=
  parseFlat properties requireAnchor

/-! ### schedule_mcp_tools_input.cc::CreateRuleCommand, UpdateRuleCommand -/

def createRuleCommand (properties : RuleArguments) (parsed : ParsedRepeat) :
    CreateScheduleRuleCommand where
  event := properties.event.getD ""
  location := properties.location
  notes := properties.notes
  freqType := parsed.freqType.getD .daily
  intervalVal := parsed.intervalVal.getD 1
  weekdaysMask := parsed.weekdaysMask
  dayOfMonth := parsed.dayOfMonth
  monthOfYear := parsed.monthOfYear
  monthlyMode := parsed.monthlyMode
  startTime := parsed.startTime.getD {}
  startDate := parsed.startDate
  endTime := parsed.endTime
  endDate := parsed.endDate
  occurrenceCount := parsed.occurrenceCount
  ignoreConflict := properties.ignoreConflict.getD false

/-- A field that was given is set; none is ever cleared. -/
def updateRuleCommand (properties : RuleArguments) (parsed : ParsedRepeat) :
    UpdateScheduleRuleCommand where
  ruleId := properties.ruleId.getD 0
  event := properties.event
  location := properties.location.map some
  notes := properties.notes.map some
  freqType := parsed.freqType
  intervalVal := parsed.intervalVal
  weekdaysMask := parsed.weekdaysMask.map some
  dayOfMonth := parsed.dayOfMonth.map some
  monthOfYear := parsed.monthOfYear.map some
  monthlyMode := parsed.monthlyMode.map some
  startTime := parsed.startTime
  endTime := parsed.endTime.map some
  startDate := parsed.startDate.map some
  endDate := parsed.endDate.map some
  occurrenceCount := parsed.occurrenceCount.map some
  ignoreConflict := properties.ignoreConflict.getD false

/-! ## What the parser accepts -/

/-- A field that was read and passed on. -/
theorem parseField_bind {α β γ : Type} {value : Option α} {parse : α → Option β} {message : String}
    {rest : Option β → Except String γ} {result : γ}
    (h : parseField value parse message >>= rest = .ok result) :
    ∃ field, (∀ v, field = some v → ∃ given, value = some given ∧ parse given = some v) ∧
      rest field = .ok result := by
  unfold parseField at h
  cases value with
  | none => exact ⟨none, (fun v hv => absurd hv.symm (Option.some_ne_none v)), h⟩
  | some given =>
      cases hparse : parse given with
      | none =>
          simp only [hparse] at h
          cases h
      | some w =>
          simp only [hparse] at h
          exact ⟨some w, fun v hv => ⟨given, rfl, hparse.trans hv⟩, h⟩

theorem parseCount_eq_some {high value v : ℤ} (h : parseCount high value = some v) :
    v = value ∧ 1 ≤ v ∧ v ≤ high := by
  unfold parseCount at h
  split_ifs at h
  cases h
  omega

/-- The fields of an accepted call lie in their ranges. -/
structure ParsedRepeat.InRange (parsed : ParsedRepeat) : Prop where
  startTime : ∀ t, parsed.startTime = some t → t.InClockRange
  endTime : ∀ t, parsed.endTime = some t → t.InClockRange
  startDate : ∀ d, parsed.startDate = some d → Writable d
  endDate : ∀ d, parsed.endDate = some d → Writable d
  intervalVal : ∀ n, parsed.intervalVal = some n → 1 ≤ n ∧ n ≤ intMax

theorem parseRuleProperties_ok {properties : RuleArguments} {requireAnchor : Bool}
    {parsed : ParsedRepeat} (h : parseRuleProperties properties requireAnchor = .ok parsed) :
    parsed.InRange ∧ (requireAnchor = true → parsed.freqType.isSome ∧ parsed.startTime.isSome ∧
      parsed.startDate.isSome) := by
  obtain ⟨freqType, -, h⟩ := parseField_bind h
  obtain ⟨startTime, hstartTime, h⟩ := parseField_bind h
  obtain ⟨endTime, hendTime, h⟩ := parseField_bind h
  obtain ⟨startDate, hstartDate, h⟩ := parseField_bind h
  obtain ⟨endDate, hendDate, h⟩ := parseField_bind h
  obtain ⟨intervalVal, hintervalVal, h⟩ := parseField_bind h
  obtain ⟨weekdaysMask, -, h⟩ := parseField_bind h
  obtain ⟨dayOfMonth, -, h⟩ := parseField_bind h
  obtain ⟨monthOfYear, -, h⟩ := parseField_bind h
  obtain ⟨monthlyMode, -, h⟩ := parseField_bind h
  obtain ⟨occurrenceCount, -, h⟩ := parseField_bind h
  split_ifs at h with hanchor
  cases h
  have hclock : ∀ {value : Option Text} {field : Option LocalTime},
      (∀ t, field = some t → ∃ text, value = some text ∧ parseLocalTime text = some t) →
        ∀ t, field = some t → t.InClockRange := by
    intro value field hfield t ht
    obtain ⟨text, -, htext⟩ := hfield t ht
    exact (parseLocalTime_eq_some_iff.1 htext).1
  have hdate : ∀ {value : Option Text} {field : Option LocalDate},
      (∀ d, field = some d → ∃ text, value = some text ∧ parseLocalDate text = some d) →
        ∀ d, field = some d → Writable d := by
    intro value field hfield d hd
    obtain ⟨text, -, htext⟩ := hfield d hd
    exact (parseLocalDate_eq_some_iff.1 htext).1
  refine ⟨⟨hclock hstartTime, hclock hendTime, hdate hstartDate, hdate hendDate, ?_⟩, ?_⟩
  · intro n hn
    obtain ⟨value, -, hvalue⟩ := hintervalVal n hn
    exact (parseCount_eq_some hvalue).2
  · rintro rfl
    simp only [true_and, Option.isNone_iff_eq_none, ← Option.not_isSome_iff_eq_none] at hanchor
    push Not at hanchor
    exact hanchor

/-! ## The arithmetic of an accepted rule -/

/-- The rule is one that a call of the create tool asks for, whatever its id, status and times. -/
def PassesParser (rule : ScheduleRule) : Prop :=
  ∃ properties parsed, parseRuleProperties properties true = .ok parsed ∧
    rule = { ScheduleFactory.createRuleFromCommand (createRuleCommand properties parsed) with
      id := rule.id, status := rule.status, createdAt := rule.createdAt,
      updatedAt := rule.updatedAt }

theorem PassesParser.ranges {rule : ScheduleRule} (h : PassesParser rule) :
    Writable rule.startDate ∧ 1 ≤ rule.intervalVal ∧ rule.intervalVal ≤ intMax := by
  obtain ⟨properties, parsed, hparse, hrule⟩ := h
  obtain ⟨hrange, hanchor⟩ := parseRuleProperties_ok hparse
  obtain ⟨-, -, hdate⟩ := hanchor rfl
  obtain ⟨date, hdate⟩ := Option.isSome_iff_exists.1 hdate
  have hstart : rule.startDate = date := by
    rw [hrule]
    simp only [ScheduleFactory.createRuleFromCommand, createRuleCommand, hdate, Option.getD_some]
  have hinterval : rule.intervalVal = parsed.intervalVal.getD 1 := by
    rw [hrule]
    rfl
  rw [hstart, hinterval]
  refine ⟨hrange.startDate date hdate, ?_⟩
  cases hval : parsed.intervalVal with
  | none => decide
  | some n => exact hrange.intervalVal n hval

/-- The texts of times name the seconds of the years 1 to 9999. -/
theorem parseDateTime_bounds {s : Text} {t : ℤ} (h : parseDateTime s = some t) :
    -719162 * 86400 ≤ t + kTimezoneOffsetSeconds ∧ t + kTimezoneOffsetSeconds < 2932897 * 86400 := by
  obtain ⟨d, clock, hnames, rfl⟩ := parseDateTime_eq_some_iff.1 h
  have hd := hnames.date
  have hclock := localTimeToSeconds_range hnames.clock
  have hlow := dayNumber_ge hd.valid hd.one_le_year
  have hhigh := dayNumber_lt_yearStart_succ hd.valid
  have hyear := hd.year_le
  have hend := yearStart_le_of_le (show d.year + 1 ≤ 10000 by omega)
  have : yearStart 10000 = 2932897 := by decide
  rw [unixFromLocal_add_offset hd.valid]
  omega

/-- For every accepted rule and every time with a text, the search for the next occurrence stays in
the types of its values just when the rule is inactive, daily or weekly, or the months or years that
the search reaches lie in years that fit. -/
theorem nextOccurrence_inRange_iff (rule : ScheduleRule) (s : Text) (t : ℤ)
    (hparse : PassesParser rule) (hok : (validateRuleFields rule).ok = true)
    (ht : parseDateTime s = some t) :
    ((Checked.nextOccurrence rule t).isSome ↔
        (rule.status = .active → rule.freqType = .monthly ∨ rule.freqType = .yearly →
          RoundsFit rule t (searchDay rule t))) ∧
      ∀ result, Checked.nextOccurrence rule t = some result → result = nextOccurrence rule t := by
  obtain ⟨hs, hi, hi'⟩ := hparse.ranges
  obtain ⟨-, -, hfreq, hclock⟩ := validateRuleFields_ok hok
  have hrange := (validateClockFields_ok hclock).1
  obtain ⟨h0, h1⟩ := parseDateTime_bounds ht
  have hyear := hs.year_le
  have hnear : Checked.Near rule.startDate := ⟨hs.valid, hs.one_le_year, by omega⟩
  by_cases hactive : rule.status = .active
  · obtain ⟨hfits, hover⟩ :=
      Checked.nextOccurrence_eq hi hi' hfreq hrange hnear h0 h1 hactive
    have hplain := Checked.roundsFit_of_daily_or_weekly hi hi' hfreq hrange hnear h0 h1
    have hcases : RoundsFit rule t (searchDay rule t) ↔
        (rule.freqType = .monthly ∨ rule.freqType = .yearly →
          RoundsFit rule t (searchDay rule t)) := by
      constructor
      · intro h _
        exact h
      · intro h
        cases hf : rule.freqType with
        | daily => exact hplain (Or.inl hf)
        | weekly => exact hplain (Or.inr hf)
        | monthly => exact h (Or.inl hf)
        | yearly => exact h (Or.inr hf)
    by_cases hfit : RoundsFit rule t (searchDay rule t)
    · rw [hfits hfit]
      exact ⟨⟨fun _ _ _ => hfit, fun _ => rfl⟩, fun result h => (Option.some.inj h).symm⟩
    · rw [hover hfit]
      refine ⟨⟨fun h => absurd h Bool.false_ne_true, fun h => absurd ?_ hfit⟩, fun result h => ?_⟩
      · exact hcases.2 (h hactive)
      · cases h
  · have hchecked : Checked.nextOccurrence rule t = some none := by
      rw [Checked.nextOccurrence, if_pos hactive]
    have hplain : nextOccurrence rule t = none := by rw [nextOccurrence, if_pos hactive]
    rw [hchecked, hplain]
    exact ⟨⟨fun _ h => absurd h hactive, fun _ => rfl⟩, fun result h => (Option.some.inj h).symm⟩

/-- Each leap day, but only every 2147483647 years. -/
def rareLeapDay : RuleArguments :=
  { event := some "e", freqType := some "yearly", startDate := some (ascii "2026-01-01"),
    startTime := some (ascii "09:00:00"), monthOfYear := some 2, dayOfMonth := some 29,
    intervalVal := some 2147483647 }

/-- The rule that such a call asks for. -/
def rareLeapDayRule : ScheduleRule :=
  { event := "e", freqType := .yearly, startDate := ⟨2026, 1, 1⟩, startTime := ⟨9, 0, 0⟩,
    monthOfYear := some 2, dayOfMonth := some 29, intervalVal := 2147483647 }

theorem passesParser_rareLeapDayRule : PassesParser rareLeapDayRule :=
  ⟨rareLeapDay, _, rfl, rfl⟩

/-- The second round of its search adds 2147483647 to the year 2026. -/
theorem rareLeapDayRule_overflows :
    PassesParser rareLeapDayRule ∧ (validateRuleFields rareLeapDayRule).ok = true ∧
      parseDateTime (ascii "2026-08-17 09:00:01") = some 1786928401 ∧
      ¬ (Checked.nextOccurrence rareLeapDayRule 1786928401).isSome := by
  refine ⟨passesParser_rareLeapDayRule, by decide, by decide, by decide +kernel⟩

/-- So the years that this search reaches do not fit. -/
theorem not_roundsFit_rareLeapDayRule :
    ¬ RoundsFit rareLeapDayRule 1786928401
      (searchDay rareLeapDayRule 1786928401) := by
  intro hfit
  have hdefined := (nextOccurrence_inRange_iff rareLeapDayRule (ascii "2026-08-17 09:00:01")
    1786928401 passesParser_rareLeapDayRule (by decide) (by decide)).1.2 fun _ _ => hfit
  exact absurd hdefined (by decide +kernel)

end VoiceLife.Mcp
