import VoiceLife.Storage.MemoryScheduleRepository

/-! # What the operations of the memory store can do

One lemma for each write says which states it can produce; the services' lemmas use these and never
unfold the store.
-/

namespace VoiceLife

@[simp] theorem getId_schedule (schedule : Schedule) : getId schedule = schedule.id := rfl

@[simp] theorem setId_schedule (schedule : Schedule) (id : ℤ) :
    setId schedule id = { schedule with id } := rfl

@[simp] theorem getId_rule (rule : ScheduleRule) : getId rule = rule.id := rfl

@[simp] theorem setId_rule (rule : ScheduleRule) (id : ℤ) : setId rule id = { rule with id } := rfl

@[simp] theorem getId_exception (exc : ScheduleException) : getId exc = exc.id := rfl

@[simp] theorem setId_exception (exc : ScheduleException) (id : ℤ) :
    setId exc id = { exc with id } := rfl

namespace MemoryScheduleRepository

theorem insert_of_event (repo : MemoryScheduleRepository) (now : ℤ) (schedule : Schedule)
    (h : schedule.event.isEmpty = false) :
    ∃ createdAt updatedAt, repo.insert now schedule =
      (.ok { schedule with id := repo.schedules.nextId, createdAt, updatedAt },
        { repo with schedules := repo.schedules.insert { schedule with createdAt, updatedAt } }) := by
  unfold insert
  rw [h]
  exact ⟨_, _, rfl⟩

theorem update_of_find? (repo : MemoryScheduleRepository) {schedule found : Schedule}
    (h : repo.schedules.find? schedule.id = some found) :
    repo.update schedule =
      (.success, { repo with schedules := repo.schedules.replace schedule }) := by
  unfold update
  rw [h]

theorem findById_eq_ok {repo : MemoryScheduleRepository} {id : ℤ} {found : Schedule} :
    repo.findById id = .ok found ↔ repo.schedules.find? id = some found := by
  unfold findById
  cases repo.schedules.find? id with
  | none => simp [Result.failure]
  | some s => simp

theorem findById_error {repo : MemoryScheduleRepository} {id : ℤ} {status : Status}
    (h : repo.findById id = .error status) :
    status.ok = false ∧ repo.schedules.find? id = none := by
  unfold findById at h
  cases hfind : repo.schedules.find? id with
  | none =>
      rw [hfind] at h
      rw [← Except.error.inj h]
      exact ⟨rfl, rfl⟩
  | some schedule =>
      rw [hfind] at h
      cases h

/-- `Find` returns the matching schedules of the page in another order. -/
theorem find_perm (repo : MemoryScheduleRepository) (query : QueryScheduleCommand) :
    ∃ sorted : List Schedule, sorted.Perm (repo.schedules.rows.filter (matchesSchedule · query)) ∧
      repo.find query = (sorted.drop (toSize query.offset)).take (toSize query.limit) :=
  ⟨_, List.perm_insertionSort _ _, rfl⟩

/-- `FindOverlapping` returns the active schedules of the window in another order. -/
theorem findOverlapping_perm (repo : MemoryScheduleRepository) (start finish : ℤ)
    (excludeId : Option ℤ) :
    (repo.findOverlapping start finish excludeId).Perm (repo.schedules.rows.filter fun schedule =>
      schedule.status == .active && !(excludeId.any fun id => schedule.id = id) &&
        schedule.startTime.any fun startTime =>
          startTime ≤ finish && schedule.endTime.getD startTime ≥ start) :=
  List.perm_insertionSort _ _

end MemoryScheduleRepository

namespace MemoryScheduleRuleRepository

variable (repo : MemoryScheduleRepository) (now : ℤ)

theorem findById_eq_ok {repo : MemoryScheduleRepository} {id : ℤ} {found : ScheduleRule} :
    findById repo id = .ok found ↔ repo.rules.find? id = some found := by
  unfold findById
  cases repo.rules.find? id with
  | none => simp [Result.failure]
  | some s => simp

theorem findById_error {repo : MemoryScheduleRepository} {id : ℤ} {status : Status}
    (h : findById repo id = .error status) : status = .error .notFound "规则不存在" := by
  unfold findById at h
  cases hfind : repo.rules.find? id with
  | none =>
      rw [hfind] at h
      exact (Except.error.inj h).symm
  | some rule =>
      rw [hfind] at h
      cases h

theorem findByRuleAndTime_eq_some {repo : MemoryScheduleRepository} {ruleId time : ℤ} {exc : ScheduleException}
    (h : findByRuleAndTime repo ruleId time = some exc) :
    exc ∈ repo.exceptions.rows ∧ exc.ruleId = ruleId ∧ exc.originalStartTime = time := by
  unfold findByRuleAndTime at h
  have := List.find?_some h
  simp only [Bool.and_eq_true, beq_iff_eq] at this
  exact ⟨List.mem_of_find?_eq_some h, this⟩

/-- Creating a rule with its first instance adds both, the instance under the id of the rule. -/
theorem createWithFirstInstance_cases (rule : ScheduleRule) (firstInstance : Schedule) :
    (∃ status, createWithFirstInstance repo now rule (some firstInstance) = (.error status, repo)) ∨
      ∃ ruleCreated ruleUpdated createdAt updatedAt,
        createWithFirstInstance repo now rule (some firstInstance) =
          (.ok { rule with id := repo.rules.nextId, createdAt := ruleCreated,
                           updatedAt := ruleUpdated },
            { repo with
              rules := repo.rules.insert
                { rule with createdAt := ruleCreated, updatedAt := ruleUpdated }
              schedules := repo.schedules.insert { firstInstance with
                ruleId := some repo.rules.nextId, createdAt, updatedAt } }) := by
  unfold createWithFirstInstance
  split_ifs with hempty
  · exact Or.inl ⟨_, rfl⟩
  · simp only [Option.any_some, Bool.or_eq_true, not_or, Bool.not_eq_true] at hempty
    refine Or.inr ?_
    simp only [insert, hempty.1, Bool.false_eq_true, if_false]
    obtain ⟨createdAt, updatedAt, h⟩ := MemoryScheduleRepository.insert_of_event
      { repo with rules := repo.rules.insert { rule with
          id := repo.rules.nextId
          createdAt := if rule.createdAt = 0 then now else rule.createdAt
          updatedAt := if rule.updatedAt = 0 then
            (if rule.createdAt = 0 then now else rule.createdAt) else rule.updatedAt } } now
      ({ firstInstance with ruleId := some repo.rules.nextId }) hempty.2
    refine ⟨if rule.createdAt = 0 then now else rule.createdAt, if rule.updatedAt = 0 then
            (if rule.createdAt = 0 then now else rule.createdAt) else rule.updatedAt,
            createdAt, updatedAt, ?_⟩
    rw [h]
    rfl

/-- Rebuilding a rule replaces it, erases its future and adds the first instance. -/
theorem updateAndRebuild_cases (rule : ScheduleRule) (firstInstance : Schedule) :
    (∃ status, updateAndRebuild repo now rule (some firstInstance) = (.error status, repo)) ∨
      ∃ found createdAt updatedAt, repo.rules.find? rule.id = some found ∧
        updateAndRebuild repo now rule (some firstInstance) =
          (.ok rule,
            { rules := repo.rules.replace rule
              schedules := (repo.schedules.removeIf fun schedule =>
                schedule.ruleId == some rule.id && schedule.status == .active &&
                  schedule.startTime.any fun startTime => startTime > now).insert
                    { firstInstance with ruleId := some rule.id, createdAt, updatedAt }
              exceptions := repo.exceptions.removeIf fun exc =>
                exc.ruleId == rule.id && exc.originalStartTime > now }) := by
  unfold updateAndRebuild
  cases hfind : repo.rules.find? rule.id with
  | none => exact Or.inl ⟨_, rfl⟩
  | some found =>
      dsimp only
      split_ifs with hempty
      · exact Or.inl ⟨_, rfl⟩
      · simp only [Option.any_some, Bool.or_eq_true, not_or, Bool.not_eq_true] at hempty
        refine Or.inr ?_
        obtain ⟨createdAt, updatedAt, h⟩ := MemoryScheduleRepository.insert_of_event
          { rules := repo.rules.replace rule
            schedules := repo.schedules.removeIf fun schedule =>
              schedule.ruleId == some rule.id && schedule.status == .active &&
                schedule.startTime.any fun startTime => startTime > now
            exceptions := repo.exceptions.removeIf fun exc =>
              exc.ruleId == rule.id && exc.originalStartTime > now } now
          ({ firstInstance with ruleId := some rule.id }) hempty.2
        exact ⟨found, createdAt, updatedAt, rfl, by rw [h]⟩

/-! ## The exception table as a map from rule and time -/

theorem findByRuleAndTime_congr {repo repo' : MemoryScheduleRepository}
    (h : repo'.exceptions = repo.exceptions) (ruleId time : ℤ) :
    findByRuleAndTime repo' ruleId time = findByRuleAndTime repo ruleId time := by
  unfold findByRuleAndTime
  rw [h]

theorem findByRuleAndTime_insert (exc : ScheduleException)
    (hnone : findByRuleAndTime repo exc.ruleId exc.originalStartTime = none) (ruleId time : ℤ) :
    findByRuleAndTime { repo with exceptions := repo.exceptions.insert exc } ruleId time =
      if ruleId = exc.ruleId ∧ time = exc.originalStartTime then
        some { exc with id := repo.exceptions.nextId }
      else findByRuleAndTime repo ruleId time := by
  unfold findByRuleAndTime at hnone ⊢
  simp only [IdTable.insert, List.find?_append, setId_exception]
  split_ifs with hkey
  · obtain ⟨rfl, rfl⟩ := hkey
    rw [hnone, Option.none_or, List.find?_singleton]
    simp
  · rw [List.find?_singleton, if_neg, Option.or_none]
    simp only [Bool.and_eq_true, beq_iff_eq]
    exact fun h => hkey ⟨h.1.symm, h.2.symm⟩

theorem findByRuleAndTime_replace (exc : ScheduleException) {found : ScheduleException}
    (hfound : findByRuleAndTime repo exc.ruleId exc.originalStartTime = some found)
    (hid : exc.id = found.id) (ruleId time : ℤ) :
    findByRuleAndTime { repo with exceptions := repo.exceptions.replace exc } ruleId time =
      if ruleId = exc.ruleId ∧ time = exc.originalStartTime then some exc
      else findByRuleAndTime repo ruleId time := by
  obtain ⟨hmem, hrule, htime⟩ := findByRuleAndTime_eq_some hfound
  -- the replaced row is the one found, and it keeps its rule and time
  have hrow : ∀ row ∈ repo.exceptions.rows, row.id = exc.id → row = found := fun row hrow h =>
    repo.exceptions.eq_of_getId_eq hrow hmem (h.trans hid)
  have hsame : findByRuleAndTime { repo with exceptions := repo.exceptions.replace exc } ruleId time =
      (findByRuleAndTime repo ruleId time).map fun row => if row.id = exc.id then exc else row := by
    unfold findByRuleAndTime
    simp only [IdTable.replace, IdTable.modify, List.find?_map, getId_exception]
    congr 1
    refine List.find?_congr fun row hin => ?_
    simp only [Function.comp_apply]
    split_ifs with h
    · rw [hrow row hin h, hrule, htime]
    · rfl
  rw [hsame]
  split_ifs with hkey
  · obtain ⟨rfl, rfl⟩ := hkey
    rw [hfound, Option.map_some, if_pos hid.symm]
  · cases hother : findByRuleAndTime repo ruleId time with
    | none => rfl
    | some row =>
        obtain ⟨hin, hr, ht⟩ := findByRuleAndTime_eq_some hother
        rw [Option.map_some, if_neg]
        intro h
        rw [hrow row hin h] at hr ht
        exact hkey ⟨hr.symm.trans hrule, ht.symm.trans htime⟩

/-- Writing an exception changes the answer for its own rule and time only. -/
theorem upsert_cases (exc : ScheduleException) (hrule : 0 < exc.ruleId) :
    ∃ id createdAt updatedAt, (upsert repo now exc).1 = .ok { exc with id, createdAt, updatedAt } ∧
      (upsert repo now exc).2.schedules = repo.schedules ∧
      (upsert repo now exc).2.rules = repo.rules ∧
      ∀ ruleId time, findByRuleAndTime (upsert repo now exc).2 ruleId time =
        if ruleId = exc.ruleId ∧ time = exc.originalStartTime then
          some { exc with id, createdAt, updatedAt }
        else findByRuleAndTime repo ruleId time := by
  have hpos : ¬ exc.ruleId ≤ 0 := by omega
  cases hfind : findByRuleAndTime repo exc.ruleId exc.originalStartTime with
  | none =>
      simp only [upsert, if_neg hpos, hfind]
      exact ⟨_, _, _, rfl, trivial, trivial, findByRuleAndTime_insert _ { exc with
        id := repo.exceptions.nextId
        createdAt := if exc.createdAt = 0 then now else exc.createdAt
        updatedAt := if exc.updatedAt = 0 then (if exc.createdAt = 0 then now else exc.createdAt)
          else exc.updatedAt } hfind⟩
  | some found =>
      simp only [upsert, if_neg hpos, hfind]
      exact ⟨_, _, _, rfl, trivial, trivial, findByRuleAndTime_replace _ { exc with
        id := found.id
        createdAt := if exc.createdAt = 0 then found.createdAt else exc.createdAt
        updatedAt := if exc.updatedAt = 0 then now else exc.updatedAt } hfind rfl⟩

/-- Erasing exceptions by rule and time removes exactly these answers. -/
theorem findByRuleAndTime_removeIf (p : ℤ → ℤ → Bool) {repo repo' : MemoryScheduleRepository}
    (h : repo'.exceptions = repo.exceptions.removeIf fun exc => p exc.ruleId exc.originalStartTime)
    (ruleId time : ℤ) :
    findByRuleAndTime repo' ruleId time =
      if p ruleId time then none else findByRuleAndTime repo ruleId time := by
  unfold findByRuleAndTime
  rw [h]
  simp only [IdTable.removeIf, List.find?_filter]
  split_ifs with hp
  · rw [List.find?_eq_none]
    intro exc _ hexc
    simp only [Bool.and_eq_true, beq_iff_eq, Bool.not_eq_true', decide_eq_true_eq] at hexc
    rw [← hexc.2.1, ← hexc.2.2, hexc.1] at hp
    cases hp
  · refine List.find?_congr fun exc _ => ?_
    by_cases hkey : exc.ruleId = ruleId ∧ exc.originalStartTime = time
    · obtain ⟨rfl, rfl⟩ := hkey
      simp [hp]
    · rw [not_and_or] at hkey
      rcases hkey with hkey | hkey <;> simp [hkey]

/-! ## Instances -/

/-- The exceptions after an instance has been linked to the exception it was made with. -/
def LinksException (repo repo' : MemoryScheduleRepository) (scheduleId : ℤ) :
    Option ScheduleException → Prop
  | none => repo'.exceptions = repo.exceptions
  | some exc => ∃ id createdAt updatedAt, ∀ ruleId time,
      findByRuleAndTime repo' ruleId time =
        if ruleId = exc.ruleId ∧ time = exc.originalStartTime then
          some { exc with id, createdAt, updatedAt, scheduleId := some scheduleId }
        else findByRuleAndTime repo ruleId time

/-- Creating an instance adds it and links the exception it was made with. -/
theorem createNextInstance_cases (schedule : Schedule) (linked : Option ScheduleException)
    (hlinked : ∀ exc, linked = some exc → some exc.ruleId = schedule.ruleId) :
    (createNextInstance repo now schedule linked =
        (.failure .invalidArgument "日程实例字段无效", repo) ∧
      (schedule.event.isEmpty || schedule.ruleId.all fun ruleId => ruleId ≤ 0) = true) ∨
      ∃ createdAt updatedAt repo', schedule.event.isEmpty = false ∧
        createNextInstance repo now schedule linked =
          (.ok { schedule with id := repo.schedules.nextId, createdAt, updatedAt }, repo') ∧
        repo'.schedules = repo.schedules.insert { schedule with createdAt, updatedAt } ∧
        repo'.rules = repo.rules ∧
        LinksException repo repo' repo.schedules.nextId linked := by
  unfold createNextInstance
  split_ifs with hinvalid
  · exact Or.inl ⟨rfl, hinvalid⟩
  · simp only [Bool.or_eq_true, not_or, Bool.not_eq_true] at hinvalid
    obtain ⟨createdAt, updatedAt, hinsert⟩ := repo.insert_of_event now schedule hinvalid.1
    refine Or.inr ?_
    rw [hinsert]
    cases linked with
    | none => exact ⟨createdAt, updatedAt, _, hinvalid.1, rfl, rfl, rfl, rfl⟩
    | some exc =>
        have hrule : 0 < exc.ruleId := by
          have := hinvalid.2
          rw [← hlinked exc rfl] at this
          simpa using this
        obtain ⟨id, created, updated, hok, hschedules, hrules, hlookup⟩ := upsert_cases
          { repo with schedules := repo.schedules.insert { schedule with createdAt, updatedAt } }
          now { exc with scheduleId := some repo.schedules.nextId } hrule
        dsimp only
        generalize upsert { repo with
          schedules := repo.schedules.insert { schedule with createdAt, updatedAt } } now
          { exc with scheduleId := some repo.schedules.nextId } = answer at *
        obtain ⟨result, repo'⟩ := answer
        dsimp only at hok hschedules hrules hlookup
        rw [hok]
        exact ⟨createdAt, updatedAt, repo', hinvalid.1, rfl, hschedules, hrules, id, created, updated,
          hlookup⟩

end MemoryScheduleRuleRepository

end VoiceLife
