import VoiceLife.Schedule.ServiceLemmas

/-! # `schedule_rule_service.cc`: queries over the stored rules

Each rule that passes the filters is shown with the occurrences the planner lists for it. The
planner's listing starts at a cursor and moves it one second past every occurrence found, so the
listing is strictly increasing and a window over it cuts off a front part.
-/

namespace VoiceLife

/-- `QueryScheduleRulesCommand`. -/
structure QueryScheduleRulesCommand where
  ruleId : Option ℤ := none
  keyword : Option String := none
  status : ScheduleStatusFilter := .active
  occurrenceStart : Option ℤ := none
  occurrenceEnd : Option ℤ := none
  limit : ℤ := 10
  offset : ℤ := 0

/-- `ScheduleRuleView`. -/
structure ScheduleRuleView where
  rule : ScheduleRule
  upcomingOccurrences : List ℤ := []
  exceptions : List ScheduleException := []

/-- `QueryScheduleRulesResult`, which succeeds over the memory store. -/
structure QueryScheduleRulesResult where
  rules : List ScheduleRuleView
  total : ℕ

/-! ### schedule_rule_service_helpers.cc::NextOccurrences, MatchesKeyword, MatchesStatus -/

/-- `NextOccurrences`: the first `n` occurrences at or after the cursor. -/
def nextOccurrences (rule : ScheduleRule) : ℤ → ℕ → List ℤ
  | _, 0 => []
  | cursor, n + 1 =>
    match nextOccurrence rule cursor with
    | none => []
    | some next => next :: nextOccurrences rule (next + 1) n

namespace ScheduleRuleService

/-- `std::string::find` on the event, location and notes. -/
def matchesKeyword (rule : ScheduleRule) (keyword : String) : Bool :=
  let found (text : String) : Bool := decide (keyword.toList <:+: text.toList)
  keyword.isEmpty || found rule.event || rule.location.any found || rule.notes.any found

/-- `MatchesStatus`. -/
def matchesStatus (rule : ScheduleRule) : ScheduleStatusFilter → Bool
  | .all => true
  | .active => rule.status == .active
  | .cancelled => rule.status == .cancelled
  | .completed => rule.status == .completed

/-! ### schedule_rule_service.cc::OccurrencesForQuery, query_schedule_rules -/

/-- `kMaximumQueryOccurrences`. -/
def kMaximumQueryOccurrences : ℕ := 256

/-- The loop of `OccurrencesForQuery`, with the occurrences left to list. -/
def occurrencesBefore (rule : ScheduleRule) (occurrenceEnd : ℤ) : ℤ → ℕ → List ℤ
  | _, 0 => []
  | cursor, n + 1 =>
    match nextOccurrence rule cursor with
    | none => []
    | some next =>
      if next ≥ occurrenceEnd then []
      else next :: occurrencesBefore rule occurrenceEnd (next + 1) n

/-- `OccurrencesForQuery`. -/
def occurrencesForQuery (rule : ScheduleRule) (now : ℤ) (command : QueryScheduleRulesCommand) :
    List ℤ :=
  let start := command.occurrenceStart.getD now
  match command.occurrenceEnd with
  | none => nextOccurrences rule start 3
  | some occurrenceEnd =>
    if occurrenceEnd ≤ start then []
    else occurrencesBefore rule occurrenceEnd start kMaximumQueryOccurrences

/-- The filters of `query_schedule_rules`. -/
def selectsRule (command : QueryScheduleRulesCommand) (rule : ScheduleRule) : Bool :=
  if command.ruleId.any fun id => rule.id ≠ id then false
  else if command.keyword.any fun keyword => !matchesKeyword rule keyword then false
  else matchesStatus rule command.status

/-- `query_schedule_rules`. -/
def queryScheduleRules (repo : MemoryScheduleRepository) (now : ℤ)
    (command : QueryScheduleRulesCommand) : QueryScheduleRulesResult :=
  let views := ((MemoryScheduleRuleRepository.findAll repo).filter (selectsRule command)).map
    fun rule => {
      rule
      upcomingOccurrences := occurrencesForQuery rule now command
      exceptions := MemoryScheduleRuleRepository.findByRule repo rule.id : ScheduleRuleView }
  let start := if command.offset ≥ views.length then views.length else toSize command.offset
  { rules := (views.drop start).take (toSize command.limit), total := views.length }

end ScheduleRuleService

/-! ## The listing is increasing -/

/-- The search never returns an instant before the one asked for. -/
theorem searchOccurrence_ge {rule : ScheduleRule} {start found : ℤ} {attempts : ℕ}
    {threshold : LocalDate} (h : searchOccurrence rule start attempts threshold = some found) :
    start ≤ found := by
  induction attempts generalizing threshold with
  | zero => cases h
  | succ attempts ih =>
      unfold searchOccurrence at h
      split at h
      · cases h
      · rename_i date hdate
        split_ifs at h with hanchor hend hearly
        · exact ih h
        · split at h
          · cases h
          · exact ih h
        · obtain rfl := Option.some.inj h
          omega

theorem nextOccurrence_ge {rule : ScheduleRule} {start found : ℤ}
    (h : nextOccurrence rule start = some found) : start ≤ found := by
  unfold nextOccurrence at h
  split_ifs at h
  exact searchOccurrence_ge h

theorem le_of_mem_nextOccurrences {rule : ScheduleRule} {n : ℕ} {cursor t : ℤ}
    (h : t ∈ nextOccurrences rule cursor n) : cursor ≤ t := by
  induction n generalizing cursor with
  | zero => cases h
  | succ n ih =>
      unfold nextOccurrences at h
      split at h
      · cases h
      · rename_i next hnext
        have hge := nextOccurrence_ge hnext
        rcases List.mem_cons.1 h with rfl | h
        · exact hge
        · have := ih h
          omega

/-- The window loop lists what the planner's listing has before the end of the window. -/
theorem ScheduleRuleService.occurrencesBefore_eq_filter (rule : ScheduleRule) (finish cursor : ℤ)
    (n : ℕ) :
    occurrencesBefore rule finish cursor n =
      (nextOccurrences rule cursor n).filter fun t => t < finish := by
  induction n generalizing cursor with
  | zero => rfl
  | succ n ih =>
      unfold occurrencesBefore nextOccurrences
      split
      · rfl
      · rename_i next hnext
        by_cases hlate : next ≥ finish
        · -- everything after the first late occurrence is later still
          rw [if_pos hlate, List.filter_cons_of_neg (by simpa using hlate)]
          symm
          apply List.filter_eq_nil_iff.2
          intro t ht
          have := le_of_mem_nextOccurrences ht
          simp only [decide_eq_true_eq, not_lt]
          omega
        · rw [if_neg hlate, List.filter_cons_of_pos (by simpa using hlate), ih]

end VoiceLife
