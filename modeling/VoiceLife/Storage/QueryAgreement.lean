import VoiceLife.Schedule.ScheduleService
import VoiceLife.Storage.RebuildAgreement
import VoiceLife.Storage.SqliteScheduleRepository

/-! # Queries in the two stores

Both repositories filter, rank and page the schedules. The filters are the same up to the keyword: the
memory store looks for each word of it in the title, the database for all of it in the title, the location
or the notes. The ranks differ through the wildcards of `LIKE`.
-/

namespace VoiceLife

open Sql

variable {repo : MemoryScheduleRepository} {db : SqliteDatabase} {query : QueryScheduleCommand}

/-! ## Filters -/

/-- The memory store finds the keyword. -/
def memoryMatches (query : QueryScheduleCommand) (row : Schedule) : Bool :=
  query.keyword.all fun keyword => matchesKeyword row.event keyword

/-- The database finds the keyword. -/
def sqliteMatches (query : QueryScheduleCommand) (row : Schedule) : Bool :=
  holds (keywordWhere query.boundKeyword row)

/-- The row passes the filters besides the keyword. -/
def passesFilters (query : QueryScheduleCommand) (row : Schedule) : Bool :=
  matchesSchedule row { query with keyword := none }

/-- The start time lies in the range of the query. -/
def inTimeRange (query : QueryScheduleCommand) (row : Schedule) : Bool :=
  if query.startFrom.isSome || query.startTo.isSome then
    match row.startTime with
    | none => false
    | some start =>
      !(query.startFrom.any fun startFrom => start < startFrom) &&
        !(query.startTo.any fun startTo => start > startTo)
  else true

theorem matchesSchedule_eq_all (query : QueryScheduleCommand) (row : Schedule) :
    matchesSchedule row query = (!(query.scheduleId.any fun id => row.id ≠ id) &&
      (!(query.ruleId.any fun ruleId => row.ruleId ≠ some ruleId) &&
        (matchesStatus row.status query.status && (memoryMatches query row && inTimeRange query row)))) := by
  have hkeyword : (query.keyword.any fun keyword => !matchesKeyword row.event keyword) =
      !memoryMatches query row := by
    unfold memoryMatches
    cases query.keyword <;> rfl
  have hbranches : ∀ otherId otherRule status keyword range : Bool,
      (if otherId then false else if otherRule then false else if !status then false
        else if !keyword then false else range) =
        (!otherId && (!otherRule && (status && (keyword && range)))) := by decide
  unfold matchesSchedule
  rw [hkeyword]
  exact hbranches _ _ _ _ (inTimeRange query row)

theorem matchesSchedule_eq (query : QueryScheduleCommand) (row : Schedule) :
    matchesSchedule row query = (passesFilters query row && memoryMatches query row) := by
  have hnone : memoryMatches { query with keyword := none } row = true := rfl
  have htime : inTimeRange { query with keyword := none } row = inTimeRange query row := rfl
  rw [passesFilters, matchesSchedule_eq_all, matchesSchedule_eq_all, hnone, htime]
  simp only [Bool.true_and, Bool.and_assoc, Bool.and_comm (inTimeRange query row)]

theorem boundStatus_matches (query : QueryScheduleCommand) (row : Schedule) :
    holds (Sql.or (isNull query.boundStatus) (eq (some row.status.toInt) query.boundStatus)) =
      matchesStatus row.status query.status := by
  unfold QueryScheduleCommand.boundStatus
  cases query.status <;> cases row.status <;> rfl

theorem timeRange_where (query : QueryScheduleCommand) (row : Schedule) :
    (holds (Sql.or (isNull query.startFrom) (le query.startFrom row.startTime)) &&
      holds (Sql.or (isNull query.startTo) (le row.startTime query.startTo))) =
        inTimeRange query row := by
  have hnot : ∀ a b : ℤ, (!decide (a < b)) = decide (b ≤ a) := by
    intro a b
    rw [← decide_not]
    exact decide_eq_decide.2 not_lt
  rw [holds_or, holds_or, holds_isNull, holds_isNull, holds_le, holds_le, inTimeRange]
  cases query.startFrom <;> cases query.startTo <;> cases row.startTime <;> simp [Option.any, hnot]

theorem scheduleWhere_eq (query : QueryScheduleCommand) (row : Schedule) :
    holds (scheduleWhere query row) = (passesFilters query row && sqliteMatches query row) := by
  have hid : holds (Sql.or (isNull query.scheduleId) (eq (some row.id) query.scheduleId)) =
      !query.scheduleId.any fun id => row.id ≠ id := by
    cases query.scheduleId <;> simp [Option.any]
  have hrule : holds (Sql.or (isNull query.ruleId) (eq row.ruleId query.ruleId)) =
      !query.ruleId.any fun ruleId => row.ruleId ≠ some ruleId := by
    cases query.ruleId <;> cases row.ruleId <;> simp [Option.any]
  have hnone : memoryMatches { query with keyword := none } row = true := rfl
  have htime : inTimeRange { query with keyword := none } row = inTimeRange query row := rfl
  rw [scheduleWhere, holds_and, holds_and, holds_and, boundStatus_matches, holds_and, holds_and, hid,
    hrule, timeRange_where, passesFilters, matchesSchedule_eq_all, hnone, htime, sqliteMatches]
  simp only [Bool.true_and, Bool.and_assoc, Bool.and_comm (inTimeRange query row)]

/-! ## Order -/

/-- The rank in the memory store: the score of the title, if there is a keyword. -/
def memoryRank (query : QueryScheduleCommand) (row : Schedule) : ℤ :=
  if query.keyword.any fun keyword => !keyword.isEmpty then
    scoreScheduleKeyword row.event (query.keyword.getD "")
  else 0

/-- The columns that the memory store sorts by. -/
def memoryColumns (query : QueryScheduleCommand) (row : Schedule) : ℤ ×ₗ Bool ×ₗ WithBot ℤ ×ₗ ℤ :=
  findColumns (memoryRank query row) row

/-- The columns that the database sorts by. -/
def sqliteColumns (query : QueryScheduleCommand) (row : Schedule) : ℤ ×ₗ Bool ×ₗ WithBot ℤ ×ₗ ℤ :=
  findColumns (findRank query.boundKeyword row) row

theorem findColumns_lt {rank rank' : ℤ} {left right : Schedule} :
    findColumns rank left < findColumns rank' right ↔ rank' < rank ∨ rank = rank' ∧
      (left.startTime.isNone < right.startTime.isNone ∨
        left.startTime.isNone = right.startTime.isNone ∧
          (nullsFirst left.startTime < nullsFirst right.startTime ∨
            nullsFirst left.startTime = nullsFirst right.startTime ∧ left.id < right.id)) := by
  simp only [findColumns, Prod.Lex.toLex_lt_toLex, neg_lt_neg_iff, neg_inj]

/-- The last comparison of `Find`: the start times, absent ones first, and then the ids. -/
def startsBefore (left right : Schedule) : Bool :=
  if left.startTime ≠ right.startTime then
    match left.startTime, right.startTime with
    | none, _ => false
    | some _, none => true
    | some leftStart, some rightStart => decide (leftStart < rightStart)
  else decide (left.id < right.id)

theorem findBefore_iff (query : QueryScheduleCommand) (left right : Schedule) :
    MemoryScheduleRepository.findBefore query left right = true ↔
      memoryColumns query left < memoryColumns query right := by
  have hstart : startsBefore left right = true ↔
      (left.startTime.isNone < right.startTime.isNone ∨
        left.startTime.isNone = right.startTime.isNone ∧
          (nullsFirst left.startTime < nullsFirst right.startTime ∨
            nullsFirst left.startTime = nullsFirst right.startTime ∧ left.id < right.id)) := by
    unfold startsBefore
    cases left.startTime with
    | none => cases right.startTime <;> simp [nullsFirst]
    | some leftStart =>
        cases right.startTime with
        | none => simp [nullsFirst]
        | some rightStart =>
            by_cases heq : leftStart = rightStart
            · simp [nullsFirst, heq]
            · simp [nullsFirst, heq]
  have hranks : ∀ (scored : Bool) (score score' : ℤ) (before : Bool),
      (if (scored && score != score') = true then decide (score > score') else before) = true ↔
        ((if scored then score' else 0) < (if scored then score else 0) ∨
          (if scored then score else 0) = (if scored then score' else 0) ∧ before = true) := by
    intro scored score score' before
    cases scored with
    | false => simp
    | true => by_cases heq : score = score' <;> simp [heq]
  rw [memoryColumns, memoryColumns, findColumns_lt, memoryRank, memoryRank, ← hstart]
  exact hranks _ _ _ _

/-- The order of the memory store is the order of its columns. -/
theorem memory_find_eq (repo : MemoryScheduleRepository) (query : QueryScheduleCommand) :
    repo.find query = ((orderBy (memoryColumns query)
      (repo.schedules.rows.filter (matchesSchedule · query))).drop (toSize query.offset)).take
        (toSize query.limit) := by
  have horder : (fun left right => (!MemoryScheduleRepository.findBefore query right left) = true) =
      fun left right => memoryColumns query left ≤ memoryColumns query right := by
    funext left right
    rw [Bool.not_eq_true', Bool.eq_false_iff, ne_eq, findBefore_iff, not_lt]
  have hsort : ∀ (before before' : Schedule → Schedule → Prop) [DecidableRel before]
      [DecidableRel before'] (rows : List Schedule), before = before' →
        rows.insertionSort before = rows.insertionSort before' := by
    intro before before' _ _ rows heq
    subst heq
    congr
  unfold MemoryScheduleRepository.find orderBy
  rw [hsort _ _ _ horder.symm]

/-- A page of an accepted query is cut alike. -/
theorem toSize_eq {x : ℤ} (h : 0 ≤ x) (hlt : x ≤ 9223372036854775807) : toSize x = x.toNat := by
  rw [toSize, Int.emod_eq_of_lt h (by omega)]

/-! ## When the answers agree -/

/-- `ValidateQueryScheduleCommand` accepts the query, and its offset is a 64-bit number. -/
def Accepted (query : QueryScheduleCommand) : Prop :=
  (ScheduleService.validateQueryScheduleCommand query).ok = true ∧ query.offset ≤ 9223372036854775807

/-- The two stores answer a query alike. -/
def AnswersAlike (repo : MemoryScheduleRepository) (db : SqliteDatabase)
    (query : QueryScheduleCommand) : Prop :=
  repo.find query = SqliteScheduleRepository.find db query ∧
    repo.count query = SqliteScheduleRepository.count db query

/-- The row passes the filters, and the memory store finds the keyword in it. -/
def Found (query : QueryScheduleCommand) (row : Schedule) : Prop :=
  passesFilters query row = true ∧ memoryMatches query row = true

/-- The columns after the rank. -/
def laterColumns (row : Schedule) : Bool ×ₗ WithBot ℤ ×ₗ ℤ :=
  toLex (row.startTime.isNone, toLex (nullsFirst row.startTime, row.id))

/-- The keyword finds the same rows among those that pass the other filters, and it ranks any two rows
that it finds alike. -/
def KeywordAlike (repo : MemoryScheduleRepository) (query : QueryScheduleCommand) : Prop :=
  (∀ row ∈ repo.schedules.rows, passesFilters query row →
    memoryMatches query row = sqliteMatches query row) ∧
  ∀ left, left ∈ repo.schedules.rows ∧ Found query left →
    ∀ right, right ∈ repo.schedules.rows ∧ Found query right → laterColumns left < laterColumns right →
      (memoryRank query right ≤ memoryRank query left ↔
        findRank query.boundKeyword right ≤ findRank query.boundKeyword left)

theorem laterColumns_inj {left right : Schedule} (h : laterColumns left = laterColumns right) :
    left.id = right.id := by
  simp only [laterColumns, toLex_inj, Prod.mk.injEq] at h
  exact h.2.2

theorem validateQueryScheduleCommand_ok (query : QueryScheduleCommand) :
    (ScheduleService.validateQueryScheduleCommand query).ok = true ↔
      ((query.scheduleId.any fun id => id ≤ 0) = false ∧ (query.ruleId.any fun id => id ≤ 0) = false ∧
        (query.startFrom.any fun startFrom => query.startTo.any fun startTo =>
          startFrom > startTo) = false) ∧
      0 < query.limit ∧ query.limit ≤ 50 ∧ 0 ≤ query.offset := by
  unfold ScheduleService.validateQueryScheduleCommand
  split_ifs with hid hrule htime hlimit hoffset
  · simp [Status.ok, Status.error, hid]
  · simp [Status.ok, Status.error, hrule]
  · simp [Status.ok, Status.error, htime]
  · refine iff_of_false (by simp [Status.ok, Status.error]) fun h => ?_
    omega
  · refine iff_of_false (by simp [Status.ok, Status.error]) fun h => ?_
    omega
  · refine iff_of_true rfl ⟨⟨?_, ?_, ?_⟩, ?_⟩
    · exact Bool.eq_false_iff.2 hid
    · exact Bool.eq_false_iff.2 hrule
    · exact Bool.eq_false_iff.2 htime
    · omega

/-- Other pages of an accepted query are accepted. -/
theorem Accepted.page (h : Accepted query) {limit offset : ℤ} (hlimit : 0 < limit)
    (hmost : limit ≤ 50) (hoffset : 0 ≤ offset) (hlast : offset ≤ 9223372036854775807) :
    Accepted { query with limit, offset } := by
  have hfilters := ((validateQueryScheduleCommand_ok query).1 h.1).1
  exact ⟨(validateQueryScheduleCommand_ok _).2 ⟨hfilters, hlimit, hmost, hoffset⟩, hlast⟩

theorem find_eq_iff (hcommon : SameStore repo db) (query : QueryScheduleCommand) :
    orderBy (memoryColumns query) (repo.schedules.rows.filter (matchesSchedule · query)) =
      orderBy (sqliteColumns query) (db.schedule.rows.filter fun row => holds (scheduleWhere query row)) ↔
        KeywordAlike repo query := by
  have hmem : ∀ {row}, row ∈ repo.schedules.rows.filter (matchesSchedule · query) ↔
      row ∈ repo.schedules.rows ∧ Found query row := by
    intro row
    rw [List.mem_filter, matchesSchedule_eq, Bool.and_eq_true, Found]
  have hid : ∀ a, a ∈ repo.schedules.rows ∧ Found query a →
      ∀ b, b ∈ repo.schedules.rows ∧ Found query b → laterColumns a = laterColumns b → a = b :=
    fun a ha b hb heq => repo.schedules.eq_of_getId_eq ha.1 hb.1 (laterColumns_inj heq)
  have hcolumns : ∀ (rank : Schedule → ℤ),
      ∀ a ∈ repo.schedules.rows.filter (matchesSchedule · query),
        ∀ b ∈ repo.schedules.rows.filter (matchesSchedule · query),
          findColumns (rank a) a = findColumns (rank b) b → a = b := by
    intro rank a ha b hb heq
    have hlater : laterColumns a = laterColumns b := (Prod.mk.inj (toLex_inj.1 heq)).2
    exact hid a (hmem.1 ha) b (hmem.1 hb) hlater
  rw [orderBy_eq_iff (f := memoryColumns query) (g := sqliteColumns query)
    (hcolumns (memoryRank query)) (hcolumns (findRank query.boundKeyword))]
  refine and_congr ?_ ?_
  · rw [(hcommon.schedules.filter _).congr_right]
    constructor
    · intro hperm row hrow hpasses
      have hiff := hperm.mem_iff (a := row)
      rw [hmem, List.mem_filter, scheduleWhere_eq, Bool.and_eq_true] at hiff
      exact Bool.eq_iff_iff.2 ⟨fun h => (hiff.1 ⟨hrow, hpasses, h⟩).2.2,
        fun h => (hiff.2 ⟨hrow, hpasses, h⟩).2.2⟩
    · intro halike
      refine List.Perm.of_eq (List.filter_congr fun row hrow => ?_)
      rw [matchesSchedule_eq, scheduleWhere_eq]
      cases hpasses : passesFilters query row with
      | true => rw [halike row hrow hpasses]
      | false => rfl
  · simp only [hmem]
    exact ranked_alike_iff hid

theorem count_eq (hcommon : SameStore repo db) (h : KeywordAlike repo query) :
    repo.count query = SqliteScheduleRepository.count db query := by
  unfold MemoryScheduleRepository.count SqliteScheduleRepository.count
  rw [hcommon.schedules.countP_eq]
  refine List.countP_congr fun row hrow => ?_
  rw [matchesSchedule_eq, scheduleWhere_eq, Bool.and_eq_true, Bool.and_eq_true]
  exact and_congr_right fun hpasses => by rw [h.1 row hrow hpasses]

theorem memory_page (h : Accepted query) : repo.find query =
    page query.limit query.offset (orderBy (memoryColumns query)
      (repo.schedules.rows.filter (matchesSchedule · query))) := by
  obtain ⟨-, hlimit, hmost, hoffset⟩ := (validateQueryScheduleCommand_ok query).1 h.1
  rw [memory_find_eq, page_of_nonneg hlimit.le, toSize_eq hoffset h.2,
    toSize_eq hlimit.le (hmost.trans (by norm_num))]

/-- The two stores answer every page of an accepted query alike exactly when the keyword is alike for
both. -/
theorem queries_agree_iff (hcommon : SameStore repo db)
    (hids : ∀ row ∈ repo.schedules.rows, row.id ≤ 9223372036854775807) (haccepted : Accepted query) :
    (∀ limit offset, Accepted { query with limit, offset } →
      AnswersAlike repo db { query with limit, offset }) ↔ KeywordAlike repo query := by
  constructor
  · intro h
    have hrows : repo.schedules.rows.length ≤ 9223372036854775807 := IdTable.length_le hids
    have hlength : (orderBy (memoryColumns query)
        (repo.schedules.rows.filter (matchesSchedule · query))).length ≤ 9223372036854775807 := by
      rw [(orderBy_perm _ _).length_eq]
      exact (List.length_filter_le _ _).trans hrows
    have hlength' : (orderBy (sqliteColumns query)
        (db.schedule.rows.filter fun row => holds (scheduleWhere query row))).length ≤
          9223372036854775807 := by
      rw [(orderBy_perm _ _).length_eq]
      refine (List.length_filter_le _ _).trans ?_
      rw [hcommon.schedules.length_eq]
      exact hrows
    refine (find_eq_iff hcommon query).1 (eq_of_pages hlength hlength' fun offset hoffset => ?_)
    have hpage : Accepted { query with limit := 1, offset := offset } :=
      haccepted.page zero_lt_one (by norm_num) (Int.natCast_nonneg offset) (by exact_mod_cast hoffset)
    have hfind := (h 1 offset hpage).1
    rw [memory_page hpage] at hfind
    exact hfind
  · intro halike limit offset haccepted
    refine ⟨?_, count_eq hcommon halike⟩
    rw [memory_page haccepted]
    exact congrArg (page limit offset) ((find_eq_iff hcommon query).2 halike)

/-- Queries without a keyword are answered alike. -/
theorem keywordAlike_of_none (hkeyword : query.keyword = none) : KeywordAlike repo query := by
  have hbound : query.boundKeyword = none := by
    rw [QueryScheduleCommand.boundKeyword, hkeyword]
    rfl
  refine ⟨fun row _ _ => ?_, fun left _ right _ _ => ?_⟩
  · rw [memoryMatches, sqliteMatches, hkeyword, hbound]
    rfl
  · rw [memoryRank, memoryRank, hkeyword, hbound]
    exact iff_of_true le_rfl le_rfl

/-! ## Keywords of two words -/

/-- A schedule with two words in its title. -/
def twoWordSchedule : Schedule where
  id := 1
  event := "数据库 连接池"
  startTime := some 2000

/-- A query for both words in the other order. -/
def twoWordQuery : QueryScheduleCommand where
  keyword := some "连接 +数据库"

/-- The memory store with that schedule. -/
def twoWordRepository : MemoryScheduleRepository where
  schedules := IdTable.empty.insert twoWordSchedule

/-- The database with that schedule. -/
def twoWordDatabase : SqliteDatabase where
  scheduleRule := IdTable.empty
  schedule := IdTable.empty.insert twoWordSchedule
  scheduleRuleException := IdTable.empty
  scheduleRule_check := ScheduleRuleRow.check_of_mem_empty
  schedule_check row hrow := by
    rw [List.mem_singleton.1 hrow]
    decide +kernel
  exception_check := ScheduleException.check_of_mem_empty
  exception_unique := ScheduleException.occurrence_empty_nodup

theorem twoWordStores : SameStore twoWordRepository twoWordDatabase :=
  ⟨List.Perm.refl _, List.Perm.refl _, List.Perm.refl _⟩

theorem twoWordQuery_accepted : Accepted twoWordQuery := by
  unfold Accepted
  decide

/-- The memory store finds both words, the database does not find the keyword. -/
theorem two_words_counted_in_memory_only :
    ¬ ∀ repo db, SameStore repo db → ∀ query, Accepted query → AnswersAlike repo db query := by
  intro h
  have hcount := (h twoWordRepository twoWordDatabase twoWordStores twoWordQuery
    twoWordQuery_accepted).2
  revert hcount
  decide +kernel

/-- Without a keyword the two stores answer alike. -/
theorem query_without_keyword : AnswersAlike twoWordRepository twoWordDatabase {} := by
  have haccepted : Accepted {} := by
    unfold Accepted
    decide +kernel
  have hids : ∀ row ∈ twoWordRepository.schedules.rows, row.id ≤ 9223372036854775807 := by
    intro row hrow
    rw [List.mem_singleton.1 hrow]
    decide +kernel
  exact (queries_agree_iff twoWordStores hids haccepted).2 (keywordAlike_of_none rfl) 10 0 haccepted

end VoiceLife
