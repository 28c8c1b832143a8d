import VoiceLife.Storage.SqliteDatabase

/-! # Rule rebuilds in the two stores

Both repositories clear what a rule still has in the future and insert its first instance. They start
from the same rows here, and the results are compared up to ids and timestamps.
-/

namespace VoiceLife

/-- The two stores have the same rows. -/
structure SameStore (repo : MemoryScheduleRepository) (db : SqliteDatabase) : Prop where
  rules : db.scheduleRule.rows.Perm (repo.rules.rows.map bindScheduleRule)
  schedules : db.schedule.rows.Perm repo.schedules.rows
  exceptions : db.scheduleRuleException.rows.Perm repo.exceptions.rows

/-- A schedule without its id and timestamps. -/
def Schedule.content (schedule : Schedule) : Schedule :=
  { schedule with id := 0, createdAt := 0, updatedAt := 0 }

/-- An exception without its id and timestamps. -/
def ScheduleException.content (exc : ScheduleException) : ScheduleException :=
  { exc with id := 0, createdAt := 0, updatedAt := 0 }

/-- The two stores have the same schedules and exceptions up to ids and timestamps. -/
def SameContents (repo : MemoryScheduleRepository) (db : SqliteDatabase) : Prop :=
  (repo.schedules.rows.map Schedule.content).Perm (db.schedule.rows.map Schedule.content) ∧
    (repo.exceptions.rows.map ScheduleException.content).Perm
      (db.scheduleRuleException.rows.map ScheduleException.content)

/-! ## What is removed and inserted -/

/-- The memory store removes the schedule. -/
def memoryRemoves (now : ℤ) (rule : ScheduleRule) (schedule : Schedule) : Bool :=
  schedule.ruleId == some rule.id && schedule.status == .active &&
    schedule.startTime.any fun startTime => startTime > now

/-- The database removes the schedule. -/
def sqliteRemoves (now : ℤ) (rule : ScheduleRule) (schedule : Schedule) : Bool :=
  schedule.ruleId == some rule.id && schedule.startTime.any fun startTime => startTime ≥ now

/-- The memory store removes the exception. -/
def memoryRemovesException (now : ℤ) (rule : ScheduleRule) (exc : ScheduleException) : Bool :=
  exc.ruleId == rule.id && exc.originalStartTime > now

/-- The database removes the exception. -/
def sqliteRemovesException (now : ℤ) (rule : ScheduleRule) (exc : ScheduleException) : Bool :=
  exc.ruleId == rule.id && exc.originalStartTime ≥ now

/-- The first instance as it is inserted, without id and timestamps. -/
def instanceContent (rule : ScheduleRule) (firstInstance : Option Schedule) : List Schedule :=
  firstInstance.toList.map fun instance_ => { instance_ with ruleId := some rule.id }.content

/-- The memory store accepts the rebuild. -/
def memoryAccepts (repo : MemoryScheduleRepository) (rule : ScheduleRule)
    (firstInstance : Option Schedule) : Bool :=
  (repo.rules.find? rule.id).isSome && !rule.event.isEmpty &&
    firstInstance.all fun instance_ => !instance_.event.isEmpty

/-- The database accepts the rebuild: the rows that it writes satisfy its constraints. -/
def sqliteAccepts (repo : MemoryScheduleRepository) (rule : ScheduleRule)
    (firstInstance : Option Schedule) : Bool :=
  (repo.rules.find? rule.id).isSome && !rule.event.isEmpty && (bindScheduleRule rule).check &&
    firstInstance.all Schedule.check

variable {repo : MemoryScheduleRepository} {db : SqliteDatabase} {rule : ScheduleRule}
  {firstInstance : Option Schedule} {now : ℤ}

/-- What the memory store has after a rebuild. -/
theorem memory_rebuild_rows (repo : MemoryScheduleRepository) (now : ℤ) (rule : ScheduleRule)
    (firstInstance : Option Schedule) :
    ((MemoryScheduleRuleRepository.updateAndRebuild repo now rule firstInstance).2.schedules.rows.map
      Schedule.content =
        if memoryAccepts repo rule firstInstance then
          (repo.schedules.rows.filter fun schedule => !memoryRemoves now rule schedule).map
            Schedule.content ++ instanceContent rule firstInstance
        else repo.schedules.rows.map Schedule.content) ∧
    (MemoryScheduleRuleRepository.updateAndRebuild repo now rule firstInstance).2.exceptions.rows =
      if memoryAccepts repo rule firstInstance then
        repo.exceptions.rows.filter fun exc => !memoryRemovesException now rule exc
      else repo.exceptions.rows := by
  unfold MemoryScheduleRuleRepository.updateAndRebuild
  cases hfind : repo.rules.find? rule.id with
  | none => simp [memoryAccepts, hfind]
  | some found =>
      cases hevent : rule.event.isEmpty with
      | true => simp [memoryAccepts, hevent]
      | false =>
          cases firstInstance with
          | none =>
              simp [memoryAccepts, hfind, hevent, instanceContent, IdTable.removeIf, memoryRemoves,
                memoryRemovesException]
          | some instance_ =>
              cases hempty : instance_.event.isEmpty with
              | true => simp [memoryAccepts, hevent, hempty]
              | false =>
                  simp [memoryAccepts, hfind, hevent, hempty, instanceContent, IdTable.removeIf,
                    memoryRemoves, memoryRemovesException, MemoryScheduleRepository.insert,
                    IdTable.insert, Schedule.content, HasId.setId]

theorem SameStore.find?_isSome (h : SameStore repo db) (id : ℤ) :
    (db.scheduleRule.find? id).isSome = (repo.rules.find? id).isSome := by
  rw [Bool.eq_iff_iff, Option.isSome_iff_exists, Option.isSome_iff_exists]
  constructor
  · rintro ⟨row, hrow⟩
    obtain ⟨hmem, hid⟩ := IdTable.find?_eq_some.1 hrow
    obtain ⟨found, hfound, rfl⟩ := List.mem_map.1 (h.rules.mem_iff.1 hmem)
    exact ⟨found, IdTable.find?_eq_some.2 ⟨hfound, hid⟩⟩
  · rintro ⟨found, hfound⟩
    obtain ⟨hmem, hid⟩ := IdTable.find?_eq_some.1 hfound
    exact ⟨bindScheduleRule found, IdTable.find?_eq_some.2
      ⟨h.rules.mem_iff.2 (List.mem_map_of_mem hmem), hid⟩⟩

theorem holds_future (ruleId start : Option ℤ) (id : ℤ) :
    Sql.holds (Sql.and (Sql.eq ruleId (some id)) (Sql.le (some now) start)) =
      (ruleId == some id && start.any fun startTime => startTime ≥ now) := by
  rw [Sql.holds_and, Sql.holds_eq, Sql.holds_le]
  cases ruleId with
  | none => rfl
  | some ruleId => simp [Option.any, beq_eq_decide]

theorem updateScheduleRule_cases (db : SqliteDatabase) (row : ScheduleRuleRow) :
    (db.scheduleRule.find? row.id = none ∧ db.updateScheduleRule row = some (0, db)) ∨
      (db.scheduleRule.find? row.id).isSome ∧
        (row.check = false ∧ db.updateScheduleRule row = none ∨
          row.check = true ∧ ∃ updated, db.updateScheduleRule row = some (1, updated) ∧
            updated.schedule = db.schedule ∧
            updated.scheduleRuleException = db.scheduleRuleException) := by
  unfold SqliteDatabase.updateScheduleRule
  split
  · rename_i hfind
    exact Or.inl ⟨hfind, rfl⟩
  · rename_i found hfind
    rw [hfind]
    split_ifs with hcheck
    · exact Or.inr ⟨rfl, Or.inr ⟨hcheck, _, rfl, rfl, rfl⟩⟩
    · exact Or.inr ⟨rfl, Or.inl ⟨Bool.eq_false_iff.2 hcheck, rfl⟩⟩

theorem insertSchedule_cases (db : SqliteDatabase) (row : Schedule) :
    (row.check = false ∧ db.insertSchedule row = none) ∨
    (row.check = true ∧ ∃ inserted, db.insertSchedule row = some inserted ∧
      inserted.schedule.rows.map Schedule.content =
        db.schedule.rows.map Schedule.content ++ [row.content] ∧
      inserted.scheduleRuleException = db.scheduleRuleException) := by
  unfold SqliteDatabase.insertSchedule
  split_ifs with hcheck
  · refine Or.inr ⟨hcheck, _, rfl, ?_, rfl⟩
    exact List.map_append
  · exact Or.inl ⟨Bool.eq_false_iff.2 hcheck, rfl⟩

/-- The id and the timestamps of an inserted schedule do not matter. -/
theorem insertScheduleLocked_cases (db : SqliteDatabase) (now : ℤ) (schedule : Schedule) :
    (schedule.check = false ∧
      SqliteScheduleRuleRepository.insertScheduleLocked db now schedule = none) ∨
    (schedule.check = true ∧ ∃ inserted,
      SqliteScheduleRuleRepository.insertScheduleLocked db now schedule = some inserted ∧
      inserted.schedule.rows.map Schedule.content =
        db.schedule.rows.map Schedule.content ++ [schedule.content] ∧
      inserted.scheduleRuleException = db.scheduleRuleException) := by
  have hcases : ∀ createdAt updatedAt,
      let row := { schedule with id := 0, createdAt, updatedAt }
      (schedule.check = false ∧ db.insertSchedule row = none) ∨
      (schedule.check = true ∧ ∃ inserted, db.insertSchedule row = some inserted ∧
        inserted.schedule.rows.map Schedule.content =
          db.schedule.rows.map Schedule.content ++ [schedule.content] ∧
        inserted.scheduleRuleException = db.scheduleRuleException) := by
    intro createdAt updatedAt row
    exact insertSchedule_cases db row
  exact hcases _ _

/-- What the database has after a rebuild. -/
theorem sqlite_rebuild_rows (h : SameStore repo db) (detail : String) (now : ℤ)
    (rule : ScheduleRule) (firstInstance : Option Schedule) :
    ((SqliteScheduleRuleRepository.updateAndRebuild db detail now rule firstInstance).2.schedule.rows.map
      Schedule.content =
        if sqliteAccepts repo rule firstInstance then
          (db.schedule.rows.filter fun schedule => !sqliteRemoves now rule schedule).map
            Schedule.content ++ instanceContent rule firstInstance
        else db.schedule.rows.map Schedule.content) ∧
    (SqliteScheduleRuleRepository.updateAndRebuild db detail now rule
      firstInstance).2.scheduleRuleException.rows =
        if sqliteAccepts repo rule firstInstance then
          db.scheduleRuleException.rows.filter fun exc => !sqliteRemovesException now rule exc
        else db.scheduleRuleException.rows := by
  have hfound := h.find?_isSome rule.id
  unfold SqliteScheduleRuleRepository.updateAndRebuild
  rcases updateScheduleRule_cases db (bindScheduleRule rule) with ⟨hnone, hupdate⟩ |
    ⟨hsome, ⟨hcheck, hupdate⟩ | ⟨hcheck, updated, hupdate, hschedule, hexception⟩⟩
  · have hrejects : sqliteAccepts repo rule firstInstance = false := by
      rw [sqliteAccepts, ← hfound, show db.scheduleRule.find? rule.id = none from hnone]
      rfl
    rw [hupdate, hrejects]
    split <;> exact ⟨rfl, rfl⟩
  · have hrejects : sqliteAccepts repo rule firstInstance = false := by
      rw [sqliteAccepts, hcheck, Bool.and_false, Bool.false_and]
    rw [hupdate, hrejects]
    split <;> exact ⟨rfl, rfl⟩
  · have hpos : ¬ rule.id ≤ 0 := by
      obtain ⟨row, hrow⟩ := Option.isSome_iff_exists.1 hsome
      obtain ⟨hmem, hid⟩ := IdTable.find?_eq_some.1 hrow
      have hle := db.scheduleRule.one_le_id row hmem
      rw [hid] at hle
      exact not_le.2 (Int.lt_of_lt_of_le zero_lt_one hle)
    have hrule : (repo.rules.find? rule.id).isSome = true := hfound.symm.trans hsome
    cases hevent : rule.event.isEmpty with
    | true => simp [sqliteAccepts, hevent]
    | false =>
        have hcleared : ((updated.deleteFutureSchedulesByRule rule.id now).deleteFutureExceptionsByRule
            rule.id now).schedule.rows =
              db.schedule.rows.filter fun schedule => !sqliteRemoves now rule schedule := by
          simp only [SqliteDatabase.deleteFutureExceptionsByRule,
            SqliteDatabase.deleteFutureSchedulesByRule, IdTable.removeIf, hschedule, holds_future,
            sqliteRemoves]
        have hexceptions : ((updated.deleteFutureSchedulesByRule
            rule.id now).deleteFutureExceptionsByRule rule.id now).scheduleRuleException.rows =
              db.scheduleRuleException.rows.filter fun exc => !sqliteRemovesException now rule exc := by
          simp only [SqliteDatabase.deleteFutureExceptionsByRule,
            SqliteDatabase.deleteFutureSchedulesByRule, IdTable.removeIf, hexception, holds_future,
            sqliteRemovesException]
          rfl
        rw [hupdate, decide_eq_false hpos]
        cases firstInstance with
        | none =>
            have haccepts : sqliteAccepts repo rule none = true := by
              rw [sqliteAccepts, hrule, hevent, hcheck]
              rfl
            rw [haccepts, if_pos rfl, if_pos rfl, ← hcleared, ← hexceptions]
            exact ⟨(List.append_nil _).symm, rfl⟩
        | some instance_ =>
            rcases insertScheduleLocked_cases ((updated.deleteFutureSchedulesByRule
              rule.id now).deleteFutureExceptionsByRule rule.id now) now
              { instance_ with ruleId := some rule.id } with ⟨hinstance, hinsert⟩ |
                ⟨hinstance, inserted, hinsert, hrows, hsame⟩
            · have hrejects : sqliteAccepts repo rule (some instance_) = false := by
                rw [sqliteAccepts, Option.all_some, show instance_.check = false from hinstance,
                  Bool.and_false]
              dsimp only
              rw [hrejects, hinsert]
              exact ⟨rfl, rfl⟩
            · have haccepts : sqliteAccepts repo rule (some instance_) = true := by
                rw [sqliteAccepts, hrule, hevent, hcheck, Option.all_some,
                  show instance_.check = true from hinstance]
                rfl
              dsimp only
              rw [haccepts, hinsert, if_pos rfl, if_pos rfl, ← hcleared, ← hexceptions]
              exact ⟨hrows, congrArg IdTable.rows hsame⟩

/-! ## When the results agree -/

section

variable {α β : Type*} (f : α → β) {p q : α → Bool} {rows : List α}

/-- Removing more rows leaves the same rows exactly when no more of them are removed. -/
theorem perm_rest_iff (hle : ∀ a ∈ rows, p a = true → q a = true) :
    ((rows.filter fun a => !p a).map f).Perm ((rows.filter fun a => !q a).map f) ↔
      ∀ a ∈ rows, q a = true → p a = true := by
  constructor
  · intro h a ha hq
    have hsub : (rows.filter fun a => !q a).Sublist (rows.filter fun a => !p a) := by
      have hboth : (rows.filter fun a => !p a).filter (fun a => !q a) =
          rows.filter fun a => !q a := by
        rw [List.filter_filter]
        refine List.filter_congr fun b hb => ?_
        cases hqb : q b with
        | true => simp
        | false =>
            have hpb : p b = false := Bool.eq_false_iff.2 fun hpb => by simp [hle b hb hpb] at hqb
            simp [hpb]
      rw [← hboth]
      exact List.filter_sublist
    have hlength := h.length_eq
    rw [List.length_map, List.length_map] at hlength
    have heq := hsub.eq_of_length hlength.symm
    by_contra hp
    have hmem : a ∈ rows.filter fun a => !p a := List.mem_filter.2 ⟨ha, by simpa using hp⟩
    rw [← heq] at hmem
    simp [hq] at hmem
  · intro h
    have heq : (rows.filter fun a => !p a) = rows.filter fun a => !q a := by
      refine List.filter_congr fun a ha => ?_
      rw [Bool.eq_iff_iff.2 ⟨hle a ha, h a ha⟩]
    rw [heq]

/-- Rows that are removed and added again. -/
theorem perm_readded_iff {added : List β} :
    ((rows.filter fun a => !p a).map f ++ added).Perm (rows.map f) ↔
      added.Perm ((rows.filter p).map f) := by
  have hrows : (rows.map f).Perm ((rows.filter fun a => !p a).map f ++ (rows.filter p).map f) := by
    rw [← List.map_append]
    exact ((List.filter_append_perm p rows).symm.trans List.perm_append_comm).map f
  exact ⟨fun h => (List.perm_append_left_iff _).1 (h.trans hrows),
    fun h => (h.append_left _).trans hrows.symm⟩

/-- Removing rows leaves the same rows exactly when none is removed. -/
theorem perm_unchanged_iff :
    ((rows.filter fun a => !p a).map f).Perm (rows.map f) ↔ ∀ a ∈ rows, p a = false := by
  have hnone : ((rows.filter fun a => !p a).map f ++ []).Perm (rows.map f) ↔
      List.Perm [] ((rows.filter p).map f) := perm_readded_iff f
  rw [List.append_nil, List.nil_perm, List.map_eq_nil_iff, List.filter_eq_nil_iff] at hnone
  rw [hnone]
  exact forall₂_congr fun a _ => Bool.eq_false_iff.symm

end

/-- What the rule has from now on is active and starts later, and no exception is for now itself. -/
def FutureIsPlain (repo : MemoryScheduleRepository) (now : ℤ) (rule : ScheduleRule) : Prop :=
  (∀ schedule ∈ repo.schedules.rows, schedule.ruleId = some rule.id →
    ∀ startTime ∈ schedule.startTime, now ≤ startTime →
      schedule.status = .active ∧ startTime ≠ now) ∧
  ∀ exc ∈ repo.exceptions.rows, exc.ruleId = rule.id → exc.originalStartTime ≠ now

/-- A rebuild removes no exception, and only a schedule that is the first instance again. -/
def ChangesNothing (repo : MemoryScheduleRepository) (rule : ScheduleRule)
    (firstInstance : Option Schedule) (removes : Schedule → Bool)
    (removesException : ScheduleException → Bool) : Prop :=
  (instanceContent rule firstInstance).Perm
    ((repo.schedules.rows.filter removes).map Schedule.content) ∧
  ∀ exc ∈ repo.exceptions.rows, removesException exc = false

/-- Both stores accept the rebuild and the future is plain, or none accepts it, or the rebuild of the one
that accepts it changes nothing. -/
def RebuildsAlike (repo : MemoryScheduleRepository) (now : ℤ) (rule : ScheduleRule)
    (firstInstance : Option Schedule) : Prop :=
  match memoryAccepts repo rule firstInstance, sqliteAccepts repo rule firstInstance with
  | true, true => FutureIsPlain repo now rule
  | true, false => ChangesNothing repo rule firstInstance (memoryRemoves now rule)
      (memoryRemovesException now rule)
  | false, true => ChangesNothing repo rule firstInstance (sqliteRemoves now rule)
      (sqliteRemovesException now rule)
  | false, false => True

theorem memoryRemoves_eq_true {schedule : Schedule} : memoryRemoves now rule schedule = true ↔
    schedule.ruleId = some rule.id ∧ schedule.status = .active ∧
      ∃ startTime ∈ schedule.startTime, now < startTime := by
  simp [memoryRemoves, Option.any_eq_true, and_assoc]

theorem sqliteRemoves_eq_true {schedule : Schedule} : sqliteRemoves now rule schedule = true ↔
    schedule.ruleId = some rule.id ∧ ∃ startTime ∈ schedule.startTime, now ≤ startTime := by
  simp [sqliteRemoves, Option.any_eq_true]

theorem sqliteRemoves_of_memoryRemoves {schedule : Schedule}
    (h : memoryRemoves now rule schedule = true) : sqliteRemoves now rule schedule = true := by
  obtain ⟨hrule, -, startTime, hstart, hlt⟩ := memoryRemoves_eq_true.1 h
  exact sqliteRemoves_eq_true.2 ⟨hrule, startTime, hstart, hlt.le⟩

theorem futureIsPlain_iff : FutureIsPlain repo now rule ↔
    (∀ schedule ∈ repo.schedules.rows, sqliteRemoves now rule schedule = true →
      memoryRemoves now rule schedule = true) ∧
    ∀ exc ∈ repo.exceptions.rows, sqliteRemovesException now rule exc = true →
      memoryRemovesException now rule exc = true := by
  refine and_congr (forall₂_congr fun schedule _ => ?_) (forall₂_congr fun exc _ => ?_)
  · rw [sqliteRemoves_eq_true, memoryRemoves_eq_true]
    constructor
    · rintro h ⟨hrule, startTime, hstart, hle⟩
      obtain ⟨hstatus, hne⟩ := h hrule startTime hstart hle
      exact ⟨hrule, hstatus, startTime, hstart, lt_of_le_of_ne hle hne.symm⟩
    · intro h hrule startTime hstart hle
      obtain ⟨-, hstatus, startTime', hstart', hlt⟩ := h ⟨hrule, startTime, hstart, hle⟩
      rw [Option.mem_unique hstart hstart']
      exact ⟨hstatus, hlt.ne'⟩
  · simp only [sqliteRemovesException, memoryRemovesException, Bool.and_eq_true, beq_iff_eq,
      decide_eq_true_eq]
    constructor
    · rintro h ⟨hrule, hle⟩
      exact ⟨hrule, lt_of_le_of_ne hle (h hrule).symm⟩
    · rintro h hrule heq
      exact (h ⟨hrule, heq.ge⟩).2.ne' heq

/-- The two stores agree after a rebuild exactly when it is alike for both. -/
theorem rebuild_agrees_iff (h : SameStore repo db) (detail : String) (now : ℤ) (rule : ScheduleRule)
    (firstInstance : Option Schedule) :
    SameContents (MemoryScheduleRuleRepository.updateAndRebuild repo now rule firstInstance).2
      (SqliteScheduleRuleRepository.updateAndRebuild db detail now rule firstInstance).2 ↔
      RebuildsAlike repo now rule firstInstance := by
  obtain ⟨hmemory, hmemoryExceptions⟩ := memory_rebuild_rows repo now rule firstInstance
  obtain ⟨hsqlite, hsqliteExceptions⟩ := sqlite_rebuild_rows h detail now rule firstInstance
  have hrows := h.schedules.map Schedule.content
  have hexceptions := h.exceptions.map ScheduleException.content
  have hfuture := (h.schedules.filter fun schedule => !sqliteRemoves now rule schedule).map
    Schedule.content
  have hfutureExceptions := (h.exceptions.filter fun exc => !sqliteRemovesException now rule exc).map
    ScheduleException.content
  rw [SameContents, hmemory, hmemoryExceptions, hsqlite, hsqliteExceptions, RebuildsAlike]
  cases memoryAccepts repo rule firstInstance with
  | true =>
      cases sqliteAccepts repo rule firstInstance with
      | true =>
          simp only [if_true]
          rw [List.perm_append_right_iff, futureIsPlain_iff, hfuture.congr_right,
            hfutureExceptions.congr_right, perm_rest_iff, perm_rest_iff]
          · intro exc _ hremoved
            simp only [memoryRemovesException, Bool.and_eq_true, decide_eq_true_eq] at hremoved
            simp only [sqliteRemovesException, hremoved.1, Bool.true_and, decide_eq_true_eq]
            exact hremoved.2.le
          · exact fun schedule _ => sqliteRemoves_of_memoryRemoves
      | false =>
          simp only [if_true, if_false, Bool.false_eq_true]
          rw [hrows.congr_right, hexceptions.congr_right, perm_readded_iff, perm_unchanged_iff,
            ChangesNothing]
  | false =>
      cases sqliteAccepts repo rule firstInstance with
      | true =>
          simp only [if_true, if_false, Bool.false_eq_true]
          refine and_congr (List.perm_comm.trans ?_) (List.perm_comm.trans ?_)
          · rw [(hfuture.append_right _).congr_left, perm_readded_iff]
          · rw [hfutureExceptions.congr_left, perm_unchanged_iff]
      | false =>
          simp only [if_false, Bool.false_eq_true, iff_true]
          exact ⟨hrows.symm, hexceptions.symm⟩

/-- A rule of the database. -/
def sampleRule : ScheduleRule where
  id := 1
  event := "run"
  startDate := ⟨2026, 1, 1⟩

/-- A cancelled schedule of the rule. -/
def cancelledSchedule : Schedule where
  id := 1
  event := "run"
  startTime := some 2000
  ruleId := some 1
  status := .cancelled

/-- A memory store with the rule and its cancelled schedule. -/
def sampleRepository : MemoryScheduleRepository where
  schedules := IdTable.empty.insert cancelledSchedule
  rules := IdTable.empty.insert sampleRule

/-- A database with the same rows. -/
def sampleDatabase : SqliteDatabase where
  scheduleRule := IdTable.empty.insert (bindScheduleRule sampleRule)
  schedule := IdTable.empty.insert cancelledSchedule
  scheduleRuleException := IdTable.empty
  scheduleRule_check row hrow := by
    rw [List.mem_singleton.1 hrow]
    decide +kernel
  schedule_check row hrow := by
    rw [List.mem_singleton.1 hrow]
    decide +kernel
  exception_check := ScheduleException.check_of_mem_empty
  exception_unique := ScheduleException.occurrence_empty_nodup

theorem sampleStores : SameStore sampleRepository sampleDatabase :=
  ⟨List.Perm.refl _, List.Perm.refl _, List.Perm.refl _⟩

/-- A rebuild before the cancelled schedule starts keeps it in memory and deletes it in the database. -/
theorem cancelled_schedule_deleted :
    ¬ ∀ repo db, SameStore repo db → ∀ detail now rule firstInstance,
      SameContents (MemoryScheduleRuleRepository.updateAndRebuild repo now rule firstInstance).2
        (SqliteScheduleRuleRepository.updateAndRebuild db detail now rule firstInstance).2 := by
  intro h
  have hlength := (h sampleRepository sampleDatabase sampleStores "" 1000 sampleRule none).1.length_eq
  revert hlength
  decide +kernel

/-- After its start the rebuilds agree. -/
theorem rebuild_after_cancelled_schedule :
    SameContents (MemoryScheduleRuleRepository.updateAndRebuild sampleRepository 3000 sampleRule none).2
      (SqliteScheduleRuleRepository.updateAndRebuild sampleDatabase "" 3000 sampleRule none).2 := by
  refine (rebuild_agrees_iff sampleStores "" 3000 sampleRule none).2 ?_
  refine ⟨fun schedule hschedule _ startTime hstart hle => ?_, fun _ hexc => absurd hexc List.not_mem_nil⟩
  rw [List.mem_singleton.1 hschedule] at hstart
  cases hstart
  exact absurd hle (by decide)

end VoiceLife
