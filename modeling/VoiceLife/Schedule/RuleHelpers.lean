import VoiceLife.Schedule.Factory
import VoiceLife.Schedule.RecurrencePlanner

/-! # `schedule_rule_service_helpers.cc`: rule validation -/

namespace VoiceLife

/-- `kMaximumEventLength` of rules, in bytes. -/
def kMaximumRuleEventLength : ℕ := 100

def kMaximumDayOfMonth : ℕ := 31

def kMaximumMonthOfYear : ℕ := 12

/-- `AtLocalDate`. -/
def atLocalDate (date : LocalDate) (time : LocalTime) : ℤ :=
  daysFromCivil date.year date.month date.day * 86400 + localTimeToSeconds time -
    kTimezoneOffsetSeconds

private def invalidRule (message : String) : Status :=
  Status.error .invalidArgument message

/-- The frequency part of `ValidateRuleFields`: the fields each frequency needs. -/
def validateFrequencyFields (rule : ScheduleRule) : Status :=
  match rule.freqType with
  | .weekly =>
    if rule.weekdaysMask.all fun mask => mask.toNat < 1 ∨ mask.toNat > 127 then
      invalidRule "每周规则必须提供有效的星期位图"
    else Status.success
  | .monthly =>
    match rule.monthlyMode, rule.dayOfMonth with
    | none, _ => invalidRule "每月规则必须提供月模式"
    | some .lastDay, _ => Status.success
    | some .specificDay, none => invalidRule "指定日期模式必须提供日期"
    | some .specificDay, some day =>
      if day.toNat < 1 ∨ day.toNat > kMaximumDayOfMonth then
        invalidRule "每月指定日期必须在 1 到 31 之间"
      else Status.success
  | .yearly =>
    match rule.monthOfYear, rule.dayOfMonth with
    | some month, some day =>
      if month.toNat < 1 ∨ month.toNat > kMaximumMonthOfYear then
        invalidRule "每年规则月份必须在 1 到 12 之间"
      else if day.toNat < 1 ∨ day.toNat > kMaximumDayOfMonth then
        invalidRule "每年规则日期必须在 1 到 31 之间"
      else if (day.toNat : ℤ) > daysInMonth 2000 month.toNat then
        invalidRule "每年规则月份与日期组合必须有效"
      else Status.success
    | _, _ => invalidRule "每年规则必须提供月份和日期"
  | .daily => Status.success

/-- The clock range that the start and the end time of a rule must lie in. -/
def LocalTime.InClockRange (time : LocalTime) : Prop :=
  0 ≤ time.hour ∧ time.hour ≤ 23 ∧ 0 ≤ time.minute ∧ time.minute ≤ 59 ∧ 0 ≤ time.second ∧
    time.second ≤ 59

instance (time : LocalTime) : Decidable time.InClockRange := by
  unfold LocalTime.InClockRange
  infer_instance

/-- The clock part of `ValidateRuleFields`. -/
def validateClockFields (rule : ScheduleRule) : Status :=
  if ¬ rule.startTime.InClockRange then invalidRule "规则开始时间必须在有效时钟范围内"
  else if rule.endTime.any fun endTime =>
      localTimeToSeconds endTime ≤ localTimeToSeconds rule.startTime then
    invalidRule "规则结束时间必须晚于开始时间"
  else if rule.endTime.any fun endTime => ¬ endTime.InClockRange then
    invalidRule "规则结束时间必须在有效时钟范围内"
  else Status.success

/-- `ValidateRuleFields`. -/
def validateRuleFields (rule : ScheduleRule) : Status :=
  if rule.event.isEmpty then invalidRule "规则名称不能为空"
  else if rule.event.utf8ByteSize > kMaximumRuleEventLength then
    invalidRule "规则名称不能超过 100 个字符"
  else if rule.intervalVal < 1 then invalidRule "周期间隔必须大于零"
  else if rule.occurrenceCount.isSome then invalidRule "当前版本暂不支持最大发生次数"
  else if (validateFrequencyFields rule).ok then validateClockFields rule
  else validateFrequencyFields rule

/-- `ValidateRuleDateRange`. -/
def validateRuleDateRange (rule : ScheduleRule) : Status :=
  if rule.endDate.any fun endDate => compareDate endDate rule.startDate < 0 then
    invalidRule "规则失效日期不能早于生效日期"
  else Status.success

/-! ## What an accepted rule satisfies -/

theorem ok_ite {p : Prop} [Decidable p] {message : String} {rest : Status} :
    (if p then invalidRule message else rest).ok = true ↔ ¬ p ∧ rest.ok = true := by
  split_ifs with h <;> simp [h, invalidRule]

/-- The parts of an accepted rule. -/
theorem validateRuleFields_ok {rule : ScheduleRule} (h : (validateRuleFields rule).ok = true) :
    rule.event.isEmpty = false ∧ 1 ≤ rule.intervalVal ∧
      (validateFrequencyFields rule).ok = true ∧ (validateClockFields rule).ok = true := by
  rw [validateRuleFields, ok_ite, ok_ite, ok_ite, ok_ite] at h
  obtain ⟨hevent, -, hinterval, -, hrest⟩ := h
  split_ifs at hrest with hfreq
  · exact ⟨by simpa using hevent, by omega, hfreq, hrest⟩
  · exact absurd hrest hfreq

theorem validateClockFields_ok {rule : ScheduleRule} (h : (validateClockFields rule).ok = true) :
    rule.startTime.InClockRange ∧
      ∀ endTime, rule.endTime = some endTime →
        localTimeToSeconds rule.startTime < localTimeToSeconds endTime := by
  rw [validateClockFields, ok_ite, ok_ite] at h
  obtain ⟨hstart, hend, -⟩ := h
  refine ⟨not_not.1 hstart, fun endTime he => ?_⟩
  simpa [he] using hend

end VoiceLife
