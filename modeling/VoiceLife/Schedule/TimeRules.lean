import VoiceLife.Schedule.Types

/-! # `schedule_time_rules.cc`: conflicts and neighbours

A schedule without an end is a point in time, one with an end a half-open interval. The functions
read the start time of their arguments without a test; `startOf` is that read, with 0 where the
source leaves it undefined.
-/

namespace VoiceLife

/-- `kNearbyWindow`: 15 minutes. -/
def kNearbyWindow : ℤ := 15 * 60

/-- `*schedule.start_time`. -/
def Schedule.startOf (schedule : Schedule) : ℤ :=
  schedule.startTime.getD 0

/-- `ScheduleRangeEnd`. -/
def scheduleRangeEnd (schedule : Schedule) : ℤ :=
  schedule.endTime.getD schedule.startOf

/-- `SchedulesConflict`. -/
def schedulesConflict (left right : Schedule) : Bool :=
  let leftStart := left.startOf
  let rightStart := right.startOf
  let leftEnd := scheduleRangeEnd left
  let rightEnd := scheduleRangeEnd right
  let leftIsPoint := left.endTime.isNone
  let rightIsPoint := right.endTime.isNone
  if leftIsPoint && rightIsPoint then leftStart == rightStart
  else if leftIsPoint then leftStart ≥ rightStart && leftStart < rightEnd
  else if rightIsPoint then rightStart ≥ leftStart && rightStart < leftEnd
  else leftStart < rightEnd && rightStart < leftEnd

/-- `SchedulesAreNearby`: the starts are at most 15 minutes apart. -/
def schedulesAreNearby (left right : Schedule) : Bool :=
  let leftStart := left.startOf
  let rightStart := right.startOf
  if leftStart ≤ rightStart then rightStart - leftStart ≤ kNearbyWindow
  else leftStart - rightStart ≤ kNearbyWindow

/-- `ScheduleNearbyWindow`. -/
def scheduleNearbyWindow (schedule : Schedule) : ℤ × ℤ :=
  (schedule.startOf - kNearbyWindow, scheduleRangeEnd schedule + kNearbyWindow)

/-- The schedules that `FindConflictingSchedules` and `FindNearbySchedules` compare with a candidate:
active, with a start and another id. -/
def comparable (candidate existing : Schedule) : Bool :=
  !(existing.id == candidate.id || existing.status != .active || existing.startTime.isNone)

/-- `FindConflictingSchedules`. -/
def findConflictingSchedules (candidate : Schedule) (schedules : List Schedule)
    (ignoredRuleId : Option ℤ) : List Schedule :=
  schedules.filter fun existing =>
    comparable candidate existing && !(ignoredRuleId.isSome && existing.ruleId == ignoredRuleId) &&
      schedulesConflict candidate existing

/-- `FindNearbySchedules`. -/
def findNearbySchedules (candidate : Schedule) (schedules : List Schedule) : List Schedule :=
  schedules.filter fun existing =>
    comparable candidate existing && (!schedulesConflict candidate existing &&
      schedulesAreNearby candidate existing)

/-! ## The relations behind the tests -/

/-- The instants a schedule occupies: one instant or a half-open interval. -/
def Schedule.occupied (schedule : Schedule) : Set ℤ :=
  if schedule.endTime.isNone then {schedule.startOf}
  else Set.Ico schedule.startOf (scheduleRangeEnd schedule)

/-- An end implies a start, and the end lies after the start. -/
def Schedule.WellTimed (schedule : Schedule) : Prop :=
  ∀ e, schedule.endTime = some e → ∃ s, schedule.startTime = some s ∧ s < e

theorem Schedule.WellTimed.startOf_lt {schedule : Schedule} (h : schedule.WellTimed) (e : ℤ)
    (he : schedule.endTime = some e) : schedule.startOf < e := by
  obtain ⟨s, hs, hlt⟩ := h e he
  simpa only [Schedule.startOf, hs, Option.getD_some] using hlt

theorem Schedule.WellTimed.startOf_le {schedule : Schedule} (h : schedule.WellTimed) :
    schedule.startOf ≤ scheduleRangeEnd schedule := by
  unfold scheduleRangeEnd
  cases he : schedule.endTime with
  | none => exact le_rfl
  | some e => exact (h.startOf_lt e he).le

theorem schedulesConflict_comm (left right : Schedule) :
    schedulesConflict left right = schedulesConflict right left := by
  rw [Bool.eq_iff_iff]
  cases hl : left.endTime <;> cases hr : right.endTime <;>
    simp only [schedulesConflict, scheduleRangeEnd, hl, hr, Option.isNone_none, Option.isNone_some,
      Bool.and_true, Bool.and_false, if_true, Bool.false_eq_true, if_false, Option.getD_some,
      Bool.and_eq_true, decide_eq_true_eq, beq_iff_eq] <;>
    omega

theorem Schedule.occupied_point {schedule : Schedule} (h : schedule.endTime = none) :
    schedule.occupied = {schedule.startOf} := by
  simp only [Schedule.occupied, h, Option.isNone_none, if_true]

theorem Schedule.occupied_interval {schedule : Schedule} {e : ℤ} (h : schedule.endTime = some e) :
    schedule.occupied = Set.Ico schedule.startOf e := by
  simp only [Schedule.occupied, scheduleRangeEnd, h, Option.isNone_some, Bool.false_eq_true,
    if_false, Option.getD_some]

/-- Two well-timed schedules conflict exactly if they occupy a common instant. -/
theorem schedulesConflict_iff {left right : Schedule} (hl : left.WellTimed) (hr : right.WellTimed) :
    schedulesConflict left right = true ↔ (left.occupied ∩ right.occupied).Nonempty := by
  have hl' := hl.startOf_lt
  have hr' := hr.startOf_lt
  cases hle : left.endTime with
  | none =>
      rw [Schedule.occupied_point hle, Set.singleton_inter_nonempty]
      cases hre : right.endTime with
      | none =>
          rw [Schedule.occupied_point hre, Set.mem_singleton_iff]
          simp [schedulesConflict, hle, hre]
      | some e =>
          rw [Schedule.occupied_interval hre, Set.mem_Ico]
          simp [schedulesConflict, scheduleRangeEnd, hle, hre]
  | some e =>
      rw [Schedule.occupied_interval hle]
      cases hre : right.endTime with
      | none =>
          rw [Schedule.occupied_point hre, Set.inter_singleton_nonempty, Set.mem_Ico]
          simp [schedulesConflict, scheduleRangeEnd, hle, hre]
      | some e' =>
          rw [Schedule.occupied_interval hre, Set.Ico_inter_Ico, Set.nonempty_Ico]
          have := hl' e hle
          have := hr' e' hre
          simp [schedulesConflict, scheduleRangeEnd, hle, hre]
          omega

theorem schedulesAreNearby_iff (left right : Schedule) :
    schedulesAreNearby left right = true ↔ |left.startOf - right.startOf| ≤ kNearbyWindow := by
  simp only [schedulesAreNearby]
  rw [abs_le]
  split_ifs <;> simp <;> omega

end VoiceLife
