import VoiceLife.Mcp.ToolText
import VoiceLife.Schedule.RuleQuery

/-! # `schedule_mcp_tools.cc`: the `schedule.query` tool

The two dates of a query become the midnights around the range, and three filters read them: the
store's, the occurrence window's and the tool's own. The last two stop before the final midnight;
the store still accepts it.
-/

namespace VoiceLife.Mcp

open CInt DecimalText Gregorian

/-- The arguments that `QueryProperties` names. -/
structure QueryArguments where
  scheduleId : Option ℤ := none
  ruleId : Option ℤ := none
  keyword : Option String := none
  status : Option String := none
  startDate : Option Text := none
  endDate : Option Text := none

/-- The lists of a successful answer, with the schedules and rules themselves for their texts. -/
structure QueryAnswer where
  message : String
  resultCount : ℕ
  oneTimeSchedules : List Schedule
  recurringRules : List ScheduleRule
  recurringSchedules : List Schedule
  futureOccurrences : List (ScheduleRule × ℤ)
  exceptions : List ScheduleException

/-- What the tool answers: `FailureOutput` or the lists. -/
inductive QueryOutput where
  | failure (message : String)
  | success (answer : QueryAnswer)

/-- The clock, whether there is a rule service, and whether `OutputJson` takes the lists. -/
structure QueryEnv where
  now : ℤ
  hasRuleService : Bool
  outputJson : QueryAnswer → Bool

/-- `kMaxScheduleQueryItems`. -/
def kMaxScheduleQueryItems : ℕ := 100

/-! ### schedule_mcp_tools.cc::ParseStatus -/

def parseStatus (value : String) : ScheduleStatusFilter :=
  if value = "all" then .all
  else if value = "active" then .active
  else if value = "cancelled" then .cancelled
  else if value = "completed" then .completed
  else .active

/-! ### schedule_mcp_tools.cc::FormatDateStart, FormatDateEnd, ParseDateStart, ParseDateEnd -/

def formatDateStart (date : LocalDate) : Text :=
  (printDate date ++ ascii " 00:00:00").take 23

/-- `FormatDateEnd`: the start of the next day. -/
def formatDateEnd (date : LocalDate) : Text :=
  let days := daysFromCivil date.year date.month date.day + 1
  formatDateStart (civilFromDays days)

def parseDateStart (properties : QueryArguments) : Option ℤ := do
  let value ← properties.startDate
  let date ← parseLocalDate value
  parseDateTime (formatDateStart date)

def parseDateEnd (properties : QueryArguments) : Option ℤ := do
  let value ← properties.endDate
  let date ← parseLocalDate value
  parseDateTime (formatDateEnd date)

/-! ### schedule_mcp_tools.cc::WithinRange -/

def withinRange (start finish : Option ℤ) (value : ℤ) : Bool :=
  !(start.any fun start => value < start) && !(finish.any fun finish => value ≥ finish)

/-! ### schedule_mcp_tools.cc: the handler of schedule.query -/

/-- The loop that appends the accepted items while the list is below its cap. -/
def appendWithin {α : Type} (accept : α → Bool) (collected items : List α) : List α :=
  items.foldl
    (fun collected item =>
      if collected.length < kMaxScheduleQueryItems ∧ accept item then collected ++ [item]
      else collected)
    collected

def queryCommand (properties : QueryArguments) : QueryScheduleCommand :=
  { scheduleId := properties.scheduleId
    ruleId := properties.ruleId
    keyword := properties.keyword
    startFrom := parseDateStart properties
    startTo := parseDateEnd properties
    status := parseStatus (properties.status.getD "active")
    limit := 50
    offset := 0 }

def queryRulesCommand (properties : QueryArguments) : QueryScheduleRulesCommand :=
  { ruleId := properties.ruleId
    keyword := properties.keyword
    status := parseStatus (properties.status.getD "active")
    occurrenceStart := parseDateStart properties
    occurrenceEnd := parseDateEnd properties
    limit := 50
    offset := 0 }

/-- The rules of the answer, none for a query by schedule. -/
def queryViews (env : QueryEnv) (repo : MemoryScheduleRepository) (properties : QueryArguments) :
    List ScheduleRuleView :=
  if env.hasRuleService && properties.scheduleId.isNone then
    (ScheduleRuleService.queryScheduleRules repo env.now (queryRulesCommand properties)).rules
  else []

/-- The lists collected from the schedules found and the rules' views. -/
def queryAnswer (properties : QueryArguments) (schedules : List Schedule)
    (views : List ScheduleRuleView) : QueryAnswer :=
  let start := parseDateStart properties
  let finish := parseDateEnd properties
  let oneTime := schedules.filter fun item => item.ruleId.isNone
  let recurringSchedules := schedules.filter fun item => item.ruleId.isSome
  let exceptions := views.foldl
    (fun collected view =>
      appendWithin (fun exc => withinRange start finish exc.originalStartTime) collected
        view.exceptions)
    []
  let futureOccurrences := views.foldl
    (fun collected view =>
      appendWithin (fun occurrence => withinRange start finish occurrence.2) collected
        (view.upcomingOccurrences.map fun occurrence => (view.rule, occurrence)))
    []
  let keyword := properties.keyword.getD ""
  let lead := if keyword.isEmpty then "查询到" else "根据“" ++ keyword ++ "”关键字查询到"
  { message := lead ++ " " ++ toString oneTime.length ++ " 条一次性日程、" ++
      toString views.length ++ " 条周期规则、" ++ toString recurringSchedules.length ++
      " 条周期实例和 " ++ toString futureOccurrences.length ++ " 条未来 occurrence"
    resultCount := oneTime.length + recurringSchedules.length + futureOccurrences.length
    oneTimeSchedules := oneTime
    recurringRules := views.map ScheduleRuleView.rule
    recurringSchedules
    futureOccurrences
    exceptions }

def scheduleQuery (env : QueryEnv) (repo : MemoryScheduleRepository)
    (properties : QueryArguments) : QueryOutput :=
  let start := parseDateStart properties
  let finish := parseDateEnd properties
  if properties.startDate.isSome && start.isNone then
    .failure "start_date 格式必须是 YYYY-MM-DD"
  else if properties.endDate.isSome && finish.isNone then
    .failure "end_date 格式必须是 YYYY-MM-DD"
  else if start.any fun start => finish.any fun finish => start > finish then
    .failure "start_date 不能晚于 end_date"
  else if properties.scheduleId.isSome && properties.ruleId.isSome then
    .failure "schedule_id 和 rule_id 不能同时传入；查询 schedule 使用前者，查询周期规则使用后者"
  else
    match (ScheduleService.querySchedule repo (queryCommand properties)).result with
    | .error status =>
      .failure (if status.message.isEmpty then "查询已物化日程失败" else status.message)
    | .ok schedules =>
      let answer := queryAnswer properties schedules (queryViews env repo properties)
      if env.outputJson answer then .success answer else .failure "查询结果序列化失败"

/-! ### Capped lists -/

theorem appendWithin_eq {α : Type} (accept : α → Bool) (collected items : List α)
    (h : collected.length ≤ kMaxScheduleQueryItems) :
    appendWithin accept collected items =
      (collected ++ items.filter accept).take kMaxScheduleQueryItems := by
  induction items generalizing collected with
  | nil => simp [appendWithin, List.take_of_length_le h]
  | cons item items ih =>
      rw [appendWithin, List.foldl_cons, ← appendWithin]
      by_cases haccept : accept item = true
      · by_cases hroom : collected.length < kMaxScheduleQueryItems
        · rw [if_pos ⟨hroom, haccept⟩, ih _ (by simpa using hroom),
            List.filter_cons_of_pos haccept]
          simp
        · -- the list is full, and both sides are its present items
          have hfull : collected.length = kMaxScheduleQueryItems := by omega
          rw [if_neg (by simp [hroom]), ih _ h, List.take_append_of_le_length hfull.ge,
            List.take_append_of_le_length hfull.ge]
      · rw [if_neg (by simp [haccept]), ih _ h, List.filter_cons_of_neg haccept]

theorem foldl_appendWithin_eq {α β : Type} (accept : α → Bool) (items : β → List α)
    (views : List β) (collected : List α) (h : collected.length ≤ kMaxScheduleQueryItems) :
    views.foldl (fun collected view => appendWithin accept collected (items view)) collected =
      (collected ++ views.flatMap fun view => (items view).filter accept).take
        kMaxScheduleQueryItems := by
  induction views generalizing collected with
  | nil => simp [List.take_of_length_le h]
  | cons view views ih =>
      rw [List.foldl_cons, appendWithin_eq accept collected _ h, ih _ (List.length_take_le _ _),
        List.flatMap_cons, ← List.append_assoc]
      generalize collected ++ (items view).filter accept = front
      by_cases hfull : kMaxScheduleQueryItems ≤ front.length
      · rw [List.take_append_of_le_length (by rw [List.length_take]; omega),
          List.take_append_of_le_length hfull, List.take_take, min_self]
      · rw [List.take_of_length_le (l := front) (by omega)]

/-! ### The midnights around a range of days -/

/-- The first instant of a local day. -/
def dayStart (d : LocalDate) : ℤ :=
  unixFromLocal d 0 0 0

theorem dayStart_eq {d : LocalDate} (hd : d.Valid) :
    dayStart d = dayNumber d * 86400 - kTimezoneOffsetSeconds := by
  rw [dayStart, unixFromLocal, daysFromCivil_eq_dayNumber hd]
  omega

theorem dayStart_le_iff {d : LocalDate} (hd : d.Valid) (t : ℤ) :
    dayStart d ≤ t ↔ d ≤ localDay t := by
  rw [localDay, ← dayNumber_le_iff hd (ofDayNumber_valid _), dayNumber_ofDayNumber, dayStart_eq hd]
  omega

theorem lt_dayStart_next_iff {d : LocalDate} (hd : d.Valid) (t : ℤ) :
    t < dayStart d.next ↔ localDay t ≤ d := by
  rw [localDay, ← dayNumber_le_iff (ofDayNumber_valid _) hd, dayNumber_ofDayNumber,
    dayStart_eq hd.next, dayNumber_next hd]
  omega

theorem formatDateStart_eq {d : LocalDate} (hd : Writable d) :
    formatDateStart d = dateTimeText d ⟨0, 0, 0⟩ := by
  rw [formatDateStart, printDate_eq hd]
  have hmidnight : ascii " 00:00:00" = 32 :: timeText ⟨0, 0, 0⟩ := by decide
  rw [hmidnight, ← dateTimeText]
  apply List.take_of_length_le
  rw [length_dateTimeText]
  omega

theorem parseDateTime_formatDateStart {d : LocalDate} (hd : Writable d) :
    parseDateTime (formatDateStart d) = some (dayStart d) :=
  parseDateTime_eq_some_iff.2 ⟨d, ⟨0, 0, 0⟩, ⟨hd, by decide, formatDateStart_eq hd⟩, rfl⟩

theorem formatDateEnd_eq {d : LocalDate} (hd : Writable d) :
    formatDateEnd d = formatDateStart d.next := by
  have hmin := hd.one_le_year
  have hmax := hd.year_le
  have hyear : d.year ≤ d.next.year ∧ d.next.year ≤ d.year + 1 := by
    unfold Date.next
    split_ifs <;> dsimp only <;> omega
  rw [formatDateEnd, daysFromCivil_eq_dayNumber hd.valid, ← dayNumber_next hd.valid,
    civilFromDays_dayNumber hd.valid.next (by omega) (by unfold intMax; omega)]

/-- Every writable date but the last has a writable next day. -/
theorem Writable.next {d : LocalDate} (hd : Writable d) (hne : d ≠ ⟨9999, 12, 31⟩) :
    Writable d.next := by
  obtain ⟨hvalid, hmin, hmax⟩ := hd
  refine ⟨hvalid.next, ?_, ?_⟩
  · unfold Date.next
    split_ifs <;> dsimp only <;> omega
  · unfold Date.next
    split_ifs with hday hmonth
    · exact hmax
    · exact hmax
    · show d.year + 1 ≤ 9999
      have hm := hvalid.month_le
      have hle := hvalid.day_le
      have hdec : d.month = 12 := by omega
      have hlen : monthLength d.year 12 = 31 := by simp [monthLength]
      rw [hdec, hlen] at hday hle
      by_contra hyear
      apply hne
      show (⟨d.year, d.month, d.day⟩ : LocalDate) = _
      rw [hdec, show d.year = 9999 by omega, show d.day = 31 by omega]

section

variable {properties : QueryArguments} {first last : LocalDate}

theorem parseDateStart_eq (hfirst : Writable first)
    (h : properties.startDate = some (dateText first)) :
    parseDateStart properties = some (dayStart first) := by
  have hdate : parseLocalDate (dateText first) = some first := parseLocalDate_eq_some_iff.2 ⟨hfirst, rfl⟩
  unfold parseDateStart
  exact Option.bind_eq_some_iff.2 ⟨_, h, Option.bind_eq_some_iff.2
    ⟨_, hdate, parseDateTime_formatDateStart hfirst⟩⟩

theorem parseDateEnd_eq (hlast : Writable last) (hne : last ≠ ⟨9999, 12, 31⟩)
    (h : properties.endDate = some (dateText last)) :
    parseDateEnd properties = some (dayStart last.next) := by
  have hdate : parseLocalDate (dateText last) = some last := parseLocalDate_eq_some_iff.2 ⟨hlast, rfl⟩
  have htime : parseDateTime (formatDateEnd last) = some (dayStart last.next) := by
    rw [formatDateEnd_eq hlast]
    exact parseDateTime_formatDateStart (hlast.next hne)
  unfold parseDateEnd
  exact Option.bind_eq_some_iff.2 ⟨_, h, Option.bind_eq_some_iff.2 ⟨_, hdate, htime⟩⟩

/-- The day after the last writable date has a year of five digits. -/
theorem parseDateEnd_last (h : properties.endDate = some (dateText ⟨9999, 12, 31⟩)) :
    parseDateEnd properties = none := by
  rw [parseDateEnd, h]
  decide

/-! ### What a date range selects -/

/-- The local day of the instant lies in the range. -/
def InDays (first last : LocalDate) (t : ℤ) : Prop :=
  first ≤ localDay t ∧ localDay t ≤ last

theorem inDays_iff (hfirst : first.Valid) (hlast : last.Valid) (t : ℤ) :
    InDays first last t ↔ dayStart first ≤ t ∧ t < dayStart last.next := by
  rw [InDays, dayStart_le_iff hfirst, lt_dayStart_next_iff hlast]

/-- The fields of the query other than the dates accept the schedule. -/
def MatchesUndated (properties : QueryArguments) (schedule : Schedule) : Prop :=
  matchesSchedule schedule
    (queryCommand { properties with startDate := none, endDate := none }) = true

open Classical in
/-- The occurrences of a rule that the planner lists from the first day on, in the range. -/
noncomputable def occurrencesInDays (first last : LocalDate) (rule : ScheduleRule) : List ℤ :=
  (nextOccurrences rule (dayStart first) ScheduleRuleService.kMaximumQueryOccurrences).filter
    fun t => InDays first last t

/-- The dates of a query select by local calendar day. -/
structure FiltersByLocalDay (env : QueryEnv) (repo : MemoryScheduleRepository)
    (properties : QueryArguments) (first last : LocalDate) : Prop where
  /-- The tool does not refuse the dates. -/
  accepts_dates : ∀ message ∈ ["start_date 格式必须是 YYYY-MM-DD", "end_date 格式必须是 YYYY-MM-DD",
    "start_date 不能晚于 end_date"], scheduleQuery env repo properties ≠ .failure message
  /-- A stored schedule passes just when its start lies in the range. -/
  schedules : ∀ schedule ∈ repo.schedules.rows,
    matchesSchedule schedule (queryCommand properties) = true ↔
      MatchesUndated properties schedule ∧ ∃ t, schedule.startTime = some t ∧ InDays first last t
  /-- The occurrences in the range are listed, rule by rule up to the cap. -/
  occurrences : ∀ answer, scheduleQuery env repo properties = .success answer →
    answer.futureOccurrences =
      (answer.recurringRules.flatMap fun rule =>
        (occurrencesInDays first last rule).map fun t => (rule, t)).take kMaxScheduleQueryItems

theorem matchesSchedule_iff {schedule : Schedule} {start finish : ℤ}
    (hstart : parseDateStart properties = some start)
    (hfinish : parseDateEnd properties = some finish) :
    matchesSchedule schedule (queryCommand properties) = true ↔
      MatchesUndated properties schedule ∧
        ∃ t, schedule.startTime = some t ∧ start ≤ t ∧ t ≤ finish := by
  unfold MatchesUndated matchesSchedule queryCommand
  rw [hstart, hfinish]
  have hnone : parseDateStart { properties with startDate := none, endDate := none } = none := rfl
  have hnone' : parseDateEnd { properties with startDate := none, endDate := none } = none := rfl
  rw [hnone, hnone']
  dsimp only
  split_ifs <;> cases schedule.startTime <;> simp_all

/-- The refusals of `query_schedule` itself. -/
theorem querySchedule_error {repo : MemoryScheduleRepository} {command : QueryScheduleCommand}
    {status : Status} (h : (ScheduleService.querySchedule repo command).result = .error status) :
    status.message ∈ ["日程 ID 必须大于 0", "规则 ID 必须大于 0", "开始时间范围下限不能晚于上限",
      "返回条数必须在 1 到 50 之间", "分页偏移量不能小于 0"] := by
  unfold ScheduleService.querySchedule at h
  dsimp only at h
  split_ifs at h with hok
  obtain rfl := Except.error.inj h
  unfold ScheduleService.validateQueryScheduleCommand at hok ⊢
  split_ifs at hok ⊢ <;> simp_all [Status.error]

/-- Once both dates are read and in order, no later refusal is about them. -/
theorem scheduleQuery_ne_failure {env : QueryEnv} {repo : MemoryScheduleRepository}
    {start finish : ℤ} (hstart : parseDateStart properties = some start)
    (hfinish : parseDateEnd properties = some finish) (hle : start ≤ finish) :
    ∀ message ∈ ["start_date 格式必须是 YYYY-MM-DD", "end_date 格式必须是 YYYY-MM-DD",
      "start_date 不能晚于 end_date"], scheduleQuery env repo properties ≠ .failure message := by
  intro message hmem heq
  unfold scheduleQuery at heq
  rw [hstart, hfinish] at heq
  dsimp only at heq
  rw [if_neg (by simp), if_neg (by simp), if_neg (by simp [hle])] at heq
  split_ifs at heq with hids
  · obtain rfl := QueryOutput.failure.inj heq
    revert hmem
    decide
  · split at heq
    · rename_i status hstatus
      have hmessage := querySchedule_error hstatus
      have hne : status.message.isEmpty = false := by
        simp only [List.mem_cons, List.not_mem_nil, or_false] at hmessage
        rcases hmessage with h | h | h | h | h <;> rw [h] <;> decide
      rw [hne] at heq
      obtain rfl := QueryOutput.failure.inj heq
      simp only [List.mem_cons, List.not_mem_nil, or_false] at hmessage hmem
      rcases hmessage with h | h | h | h | h <;> rw [if_neg (by decide), h] at hmem <;>
        revert hmem <;> decide
    · split_ifs at heq
      obtain rfl := QueryOutput.failure.inj heq
      revert hmem
      decide

/-- Every view of the rule query carries the planner's occurrences up to the end of the window. -/
theorem upcomingOccurrences_eq {repo : MemoryScheduleRepository} {now start finish : ℤ}
    (command : QueryScheduleRulesCommand) {view : ScheduleRuleView}
    (hstart : command.occurrenceStart = some start) (hfinish : command.occurrenceEnd = some finish)
    (hlt : start < finish)
    (h : view ∈ (ScheduleRuleService.queryScheduleRules repo now command).rules) :
    view.upcomingOccurrences =
      (nextOccurrences view.rule start ScheduleRuleService.kMaximumQueryOccurrences).filter
        fun t => t < finish := by
  have hview := List.mem_of_mem_drop (List.mem_of_mem_take h)
  obtain ⟨rule, -, rfl⟩ := List.mem_map.1 hview
  show ScheduleRuleService.occurrencesForQuery rule now command = _
  rw [ScheduleRuleService.occurrencesForQuery, hstart, hfinish]
  dsimp only [Option.getD_some]
  rw [if_neg (by omega), ScheduleRuleService.occurrencesBefore_eq_filter]

open Classical in
/-- Of a view's occurrences the tool keeps those in the range. -/
theorem filter_withinRange_eq (hfirst : first.Valid) (hlast : last.Valid) {view : ScheduleRuleView}
    (h : view.upcomingOccurrences =
      (nextOccurrences view.rule (dayStart first)
        ScheduleRuleService.kMaximumQueryOccurrences).filter fun t => t < dayStart last.next) :
    ((view.upcomingOccurrences.map fun t => (view.rule, t)).filter fun occurrence =>
        withinRange (some (dayStart first)) (some (dayStart last.next)) occurrence.2) =
      (occurrencesInDays first last view.rule).map fun t => (view.rule, t) := by
  rw [List.filter_map, h, List.filter_filter, occurrencesInDays]
  congr 1
  apply List.filter_congr
  intro t ht
  rw [Bool.eq_iff_iff, decide_eq_true_iff, inDays_iff hfirst hlast]
  simp [withinRange]

end

/-- A date range selects by local day unless it ends with the last day of 9999 or a stored schedule
that the other fields accept starts at the midnight after it. -/
theorem filtersByLocalDay_iff (env : QueryEnv) (repo : MemoryScheduleRepository)
    (properties : QueryArguments) {first last : LocalDate} (hfirst : Writable first)
    (hlast : Writable last) (hle : first ≤ last)
    (hstart : properties.startDate = some (dateText first))
    (hend : properties.endDate = some (dateText last)) :
    FiltersByLocalDay env repo properties first last ↔
      last ≠ ⟨9999, 12, 31⟩ ∧
        ∀ schedule ∈ repo.schedules.rows, MatchesUndated properties schedule →
          schedule.startTime ≠ some (dayStart last.next) := by
  have hs := parseDateStart_eq hfirst hstart
  by_cases hne : last = ⟨9999, 12, 31⟩
  · -- the end date is refused
    subst hne
    have hf := parseDateEnd_last hend
    refine ⟨fun h => ?_, fun h => absurd rfl h.1⟩
    have hrefused := h.accepts_dates "end_date 格式必须是 YYYY-MM-DD" (by simp)
    apply absurd _ hrefused
    unfold scheduleQuery
    rw [hs, hf, hend]
    dsimp only
    rw [if_neg (by simp), if_pos (by simp)]
  have hf := parseDateEnd_eq hlast hne hend
  have hlt : dayStart first < dayStart last.next := by
    have := (dayNumber_le_iff hfirst.valid hlast.valid).2 hle
    rw [dayStart_eq hfirst.valid, dayStart_eq hlast.valid.next, dayNumber_next hlast.valid]
    omega
  constructor
  · intro h
    refine ⟨hne, ?_⟩
    intro schedule hmem hundated hmidnight
    have hmatch : matchesSchedule schedule (queryCommand properties) = true :=
      (matchesSchedule_iff hs hf).2 ⟨hundated, _, hmidnight, hlt.le, le_rfl⟩
    obtain ⟨-, t, ht, hin⟩ := (h.schedules schedule hmem).1 hmatch
    rw [hmidnight] at ht
    obtain rfl := Option.some.inj ht
    have := ((inDays_iff hfirst.valid hlast.valid _).1 hin).2
    omega
  · rintro ⟨-, hmidnight⟩
    refine ⟨scheduleQuery_ne_failure hs hf hlt.le, ?_, ?_⟩
    · intro schedule hmem
      rw [matchesSchedule_iff hs hf]
      refine and_congr_right fun hundated => exists_congr fun t => and_congr_right fun ht => ?_
      rw [inDays_iff hfirst.valid hlast.valid]
      have hnot : t ≠ dayStart last.next := by
        rintro rfl
        exact hmidnight schedule hmem hundated ht
      omega
    · intro answer hanswer
      unfold scheduleQuery at hanswer
      rw [hs, hf] at hanswer
      dsimp only at hanswer
      split_ifs at hanswer
      split at hanswer
      · cases hanswer
      · split_ifs at hanswer
        obtain rfl := QueryOutput.success.inj hanswer
        unfold queryAnswer
        dsimp only
        rw [hs, hf, foldl_appendWithin_eq _ _ _ _ (by simp), List.nil_append, List.flatMap_map]
        congr 1
        apply List.flatMap_congr
        intro view hview
        apply filter_withinRange_eq hfirst.valid hlast.valid
        unfold queryViews at hview
        split_ifs at hview
        · exact upcomingOccurrences_eq (queryRulesCommand properties) hs hf hlt hview
        · cases hview

/-- A meeting at midnight of 2026-08-18, and a store with no other schedule. -/
def midnightMeeting : Schedule :=
  { id := 1, event := "早会", startTime := some 1786982400 }

def midnightStore : MemoryScheduleRepository :=
  ({ : MemoryScheduleRepository}.insert 0 midnightMeeting).2

/-- The query for a single day. -/
def dayQuery (d : LocalDate) : QueryArguments :=
  { startDate := some (dateText d), endDate := some (dateText d) }

theorem midnightStore_rows : midnightStore.schedules.rows = [midnightMeeting] := rfl

/-- A query for 2026-08-16 selects by local day over that store. -/
theorem filtersByLocalDay_sixteenth :
    FiltersByLocalDay ⟨0, true, fun _ => true⟩ midnightStore (dayQuery ⟨2026, 8, 16⟩)
      ⟨2026, 8, 16⟩ ⟨2026, 8, 16⟩ := by
  refine (filtersByLocalDay_iff _ _ _ (by decide) (by decide) le_rfl rfl rfl).2 ⟨by decide, ?_⟩
  intro schedule hmem _
  rw [midnightStore_rows, List.mem_singleton] at hmem
  subst hmem
  decide

/-- The query for 2026-08-17 accepts the meeting of the next day. -/
theorem not_filtersByLocalDay_seventeenth :
    matchesSchedule midnightMeeting (queryCommand (dayQuery ⟨2026, 8, 17⟩)) = true ∧
      ¬ FiltersByLocalDay ⟨0, true, fun _ => true⟩ midnightStore (dayQuery ⟨2026, 8, 17⟩)
        ⟨2026, 8, 17⟩ ⟨2026, 8, 17⟩ := by
  have hmatch : matchesSchedule midnightMeeting (queryCommand (dayQuery ⟨2026, 8, 17⟩)) = true := by
    decide
  refine ⟨hmatch, ?_⟩
  intro h
  have hmem : midnightMeeting ∈ midnightStore.schedules.rows := by
    rw [midnightStore_rows]
    exact List.mem_singleton_self _
  obtain ⟨-, t, ht, hin⟩ := (h.schedules _ hmem).1 hmatch
  obtain rfl := Option.some.inj ht
  have hlt := ((inDays_iff (by decide) (by decide) _).1 hin).2
  revert hlt
  decide

end VoiceLife.Mcp
