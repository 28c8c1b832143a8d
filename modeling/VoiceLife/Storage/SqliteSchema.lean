import VoiceLife.Contracts.Status

/-! # `sqlite_schema.cc`: versions and migrations

`ApplyMigrations` over an SQLite connection. A transaction works on a copy of the contents, which
`COMMIT` makes the contents and `ROLLBACK` drops; every statement may fail, with any status and after
any change to the copy.
-/

namespace VoiceLife.Schema

/-- `kMaximumSchemaVersion`. -/
def kMaximumSchemaVersion : ℕ := 2147483647

/-- The contents of a database: the tables, and `user_version`. -/
structure Contents (δ : Type*) where
  data : δ
  userVersion : ℤ

/-- A connection, with the copy of an open transaction. -/
structure Connection (δ : Type*) where
  isOpen : Bool
  committed : Contents δ
  transaction : Option (Contents δ) := none

/-- `SqliteStep`. -/
inductive SqliteStep where
  | row
  | done
  deriving DecidableEq

/-- How the statements of one call end. -/
structure Outcomes where
  /-- `Prepare` of `PRAGMA user_version`, and the two calls of `Step` with their values. -/
  prepared : Status := Status.success
  firstStep : Status × SqliteStep := (Status.success, .row)
  secondStep : Status × SqliteStep := (Status.success, .done)
  begins : Status := Status.success
  marks : ℕ → Status := fun _ => Status.success
  commits : Status := Status.success
  rollsBack : Status := Status.success

/-- `SqliteMigration`; the callback changes the tables of the transaction. -/
structure SqliteMigration (δ : Type*) where
  version : ℕ
  apply : Option (δ → Status × δ)

/-- What a call leaves, and the versions whose callbacks it called. -/
structure Migrated (δ : Type*) where
  status : Status
  database : Connection δ
  started : List ℕ := []

variable {δ : Type*}

namespace Connection

/-- What the connection reads. -/
def contents (database : Connection δ) : Contents δ :=
  database.transaction.getD database.committed

/-- `BeginTransaction`: SQLite refuses a transaction within a transaction. -/
def beginTransaction (outcomes : Outcomes) (database : Connection δ) : Status × Connection δ :=
  if !outcomes.begins.ok then (outcomes.begins, database)
  else if database.transaction.isSome then
    (Status.error .internal "cannot start a transaction within a transaction", database)
  else (Status.success, { database with transaction := some database.committed })

/-- `Commit`. -/
def commit (outcomes : Outcomes) (database : Connection δ) : Status × Connection δ :=
  if outcomes.commits.ok then
    (outcomes.commits, { database with committed := database.contents, transaction := none })
  else (outcomes.commits, database)

/-- `Rollback`. It only reports a failure when SQLite has rolled the transaction back before. -/
def rollback (outcomes : Outcomes) (database : Connection δ) : Status × Connection δ :=
  (outcomes.rollsBack, { database with transaction := none })

/-- A statement of a transaction that changes its contents. -/
def write (database : Connection δ) (contents : Contents δ) : Connection δ :=
  { database with transaction := some contents }

end Connection

/-! ## The source -/

/-- `MigrationFailure`. -/
def migrationFailure (migrationStatus rollbackStatus : Status) : Status :=
  if rollbackStatus.ok then migrationStatus
  else Status.error migrationStatus.code
    (migrationStatus.message ++ "；迁移回滚失败：" ++ rollbackStatus.message)

/-- The loop of `ValidateMigrations`. -/
def validateDescriptions : ℕ → List (SqliteMigration δ) → Status
  | _, [] => Status.success
  | previous, migration :: migrations =>
      if migration.version = 0 ∨ migration.version > kMaximumSchemaVersion ∨
          migration.version ≤ previous then
        Status.error .invalidArgument "SQLite 迁移版本必须为非零且严格递增"
      else if migration.apply.isNone then
        Status.error .invalidArgument "SQLite 迁移缺少执行回调"
      else validateDescriptions migration.version migrations

/-- `ValidateMigrations`. The list is the array behind the pointer, or nothing for `nullptr`. -/
def validateMigrations (migrations : Option (List (SqliteMigration δ))) (migrationCount : ℕ) : Status :=
  if migrationCount ≠ 0 ∧ migrations.isNone then
    Status.error .invalidArgument "SQLite 迁移数量非零时必须提供迁移列表"
  else validateDescriptions 0 ((migrations.getD []).take migrationCount)

/-- `ConvertVersion`. -/
def convertVersion (value : ℤ) : Result ℕ :=
  if value < 0 ∨ value > kMaximumSchemaVersion then
    Result.failure .internal "SQLite Schema 版本值无效"
  else .ok value.toNat

/-- The migrations that are not applied yet: from `start_index` on. -/
def skipApplied (currentVersion : ℕ) (migrations : List (SqliteMigration δ)) :
    List (SqliteMigration δ) :=
  migrations.dropWhile fun migration => migration.version ≤ currentVersion

/-- The loop of `FindMigrationRange` with the expected version, and the check after it. -/
def checkRange (targetVersion : ℕ) : ℕ → List (SqliteMigration δ) → Status
  | expected, [] => checkTarget targetVersion expected
  | expected, migration :: migrations =>
      if migration.version ≤ targetVersion then
        if migration.version ≠ expected then
          Status.error .invalidArgument "SQLite 迁移列表未覆盖连续 Schema 版本"
        else checkRange targetVersion (expected + 1) migrations
      else checkTarget targetVersion expected
where
  /-- The target is the last version before the expected one. -/
  checkTarget (targetVersion expected : ℕ) : Status :=
    if expected ≠ targetVersion + 1 then
      Status.error .invalidArgument "SQLite 迁移列表缺少目标 Schema 版本"
    else Status.success

/-- `FindMigrationRange`: the migrations from `start_index` on. -/
def findMigrationRange (currentVersion targetVersion : ℕ)
    (migrations : List (SqliteMigration δ)) : Status × List (SqliteMigration δ) :=
  let pending := skipApplied currentVersion migrations
  (checkRange targetVersion (currentVersion + 1) pending, pending)

/-- `ReadVersion`. -/
def readVersion (outcomes : Outcomes) (database : Connection δ) : Result ℕ :=
  if !database.isOpen then Result.failure .unavailable "SQLite 数据库尚未打开"
  else if !outcomes.prepared.ok then .error outcomes.prepared
  else
    let (row, step) := outcomes.firstStep
    if !row.ok then .error row
    else if step ≠ .row then Result.failure .internal "读取 SQLite Schema 版本未返回结果"
    else
      match convertVersion database.contents.userVersion with
      | .error status => .error status
      | .ok version =>
        let (done, step) := outcomes.secondStep
        if !done.ok then .error done
        else if step ≠ .done then Result.failure .internal "读取 SQLite Schema 版本返回多行结果"
        else .ok version

/-- The end of a call that has failed in its transaction. -/
def failMigration (outcomes : Outcomes) (status : Status) (database : Connection δ)
    (started : List ℕ) : Migrated δ :=
  let (rolledBack, database) := database.rollback outcomes
  ⟨migrationFailure status rolledBack, database, started⟩

/-- The loop of `ApplyMigrations` and the commit after it. -/
def runMigrations (outcomes : Outcomes) (targetVersion : ℕ) :
    List (SqliteMigration δ) → Connection δ → List ℕ → Migrated δ
  | [], database, started => finish outcomes database started
  | migration :: migrations, database, started =>
      if migration.version ≤ targetVersion then
        let (applied, data) := (migration.apply.getD fun data => (Status.success, data))
          database.contents.data
        let database := database.write { database.contents with data }
        let started := started ++ [migration.version]
        if !applied.ok then failMigration outcomes applied database started
        else
          let marked := outcomes.marks migration.version
          if !marked.ok then failMigration outcomes marked database started
          else
            runMigrations outcomes targetVersion migrations
              (database.write { database.contents with userVersion := migration.version }) started
      else finish outcomes database started
where
  /-- `Commit`, or the rollback if it fails. -/
  finish (outcomes : Outcomes) (database : Connection δ) (started : List ℕ) : Migrated δ :=
    let (committed, database) := database.commit outcomes
    if !committed.ok then failMigration outcomes committed database started
    else ⟨Status.success, database, started⟩

/-- `SqliteSchema::ApplyMigrations`. -/
def applyMigrations (outcomes : Outcomes) (database : Connection δ) (targetVersion : ℕ)
    (migrations : Option (List (SqliteMigration δ))) (migrationCount : ℕ) : Migrated δ :=
  let descriptions := validateMigrations migrations migrationCount
  if !descriptions.ok then { status := descriptions, database }
  else if targetVersion > kMaximumSchemaVersion then
    { status := Status.error .invalidArgument "SQLite Schema 目标版本超出 user_version 支持范围"
      database }
  else
    match readVersion outcomes database with
    | .error status => { status, database }
    | .ok current =>
      if current > targetVersion then
        { status := Status.error .conflict "SQLite 数据库 Schema 版本高于当前固件支持版本", database }
      else if current = targetVersion then { status := Status.success, database }
      else
        let (range, pending) := findMigrationRange current targetVersion
          ((migrations.getD []).take migrationCount)
        if !range.ok then { status := range, database }
        else
          let (begun, database) := database.beginTransaction outcomes
          if !begun.ok then { status := begun, database }
          else runMigrations outcomes targetVersion pending database []

/-! ## What the list says -/

/-- The migrations that lead from one version to another. -/
def between (currentVersion targetVersion : ℕ) (migrations : List (SqliteMigration δ)) :
    List (SqliteMigration δ) :=
  migrations.filter fun migration =>
    currentVersion < migration.version ∧ migration.version ≤ targetVersion

/-- The contents after one migration. -/
def SqliteMigration.migrate (contents : Contents δ) (migration : SqliteMigration δ) : Contents δ where
  data := ((migration.apply.getD fun data => (Status.success, data)) contents.data).2
  userVersion := migration.version

/-- The migrations of the pending ones that the loops go through. -/
def due (targetVersion : ℕ) (pending : List (SqliteMigration δ)) :
    List (SqliteMigration δ) :=
  pending.takeWhile fun migration => migration.version ≤ targetVersion

variable {migrations : List (SqliteMigration δ)}

theorem validateDescriptions_ok {previous : ℕ}
    (h : (validateDescriptions previous migrations).ok = true) :
    (migrations.map SqliteMigration.version).Pairwise (· < ·) ∧
      ∀ migration ∈ migrations, previous < migration.version := by
  induction migrations generalizing previous with
  | nil => exact ⟨List.Pairwise.nil, fun _ hmem => absurd hmem List.not_mem_nil⟩
  | cons migration migrations ih =>
      unfold validateDescriptions at h
      split at h
      · cases h
      rename_i hversion
      split at h
      · cases h
      obtain ⟨hsorted, hlater⟩ := ih h
      have hnext : previous < migration.version := by
        apply not_le.1
        intro hle
        exact hversion (Or.inr (Or.inr hle))
      constructor
      · rw [List.map_cons, List.pairwise_cons]
        refine ⟨fun version hmem => ?_, hsorted⟩
        obtain ⟨later, hin, rfl⟩ := List.mem_map.1 hmem
        exact hlater later hin
      · intro later hmem
        rcases List.mem_cons.1 hmem with rfl | hin
        · exact hnext
        · exact hnext.trans (hlater later hin)

/-- Among pending migrations only the target decides. -/
theorem due_eq_between {currentVersion targetVersion : ℕ} {pending : List (SqliteMigration δ)}
    (hsorted : (pending.map SqliteMigration.version).Pairwise (· < ·))
    (hpending : ∀ migration ∈ pending, currentVersion < migration.version) :
    due targetVersion pending = between currentVersion targetVersion pending := by
  induction pending with
  | nil => rfl
  | cons first rest ih =>
      rw [List.map_cons, List.pairwise_cons] at hsorted
      by_cases hdue : first.version ≤ targetVersion
      · have hfirst : between currentVersion targetVersion (first :: rest) =
            first :: between currentVersion targetVersion rest :=
          List.filter_cons_of_pos (decide_eq_true ⟨hpending first List.mem_cons_self, hdue⟩)
        rw [hfirst, ← ih hsorted.2 fun later hmem => hpending later (List.mem_cons_of_mem _ hmem)]
        exact List.takeWhile_cons_of_pos (decide_eq_true hdue)
      · have hnone : due targetVersion (first :: rest) = [] :=
          List.takeWhile_cons_of_neg (by simpa using hdue)
        rw [hnone]
        symm
        apply List.filter_eq_nil_iff.2
        intro later hmem
        have hge : first.version ≤ later.version := by
          rcases List.mem_cons.1 hmem with rfl | hin
          · exact le_rfl
          · exact (hsorted.1 later.version (List.mem_map_of_mem hin)).le
        simp only [decide_eq_true_eq, not_and, not_le]
        exact fun _ => (not_le.1 hdue).trans_le hge

/-- In a sorted list the pending migrations up to the target are those in between. -/
theorem due_skipApplied {currentVersion targetVersion : ℕ}
    (hsorted : (migrations.map SqliteMigration.version).Pairwise (· < ·)) :
    due targetVersion (skipApplied currentVersion migrations) =
      between currentVersion targetVersion migrations := by
  induction migrations with
  | nil => rfl
  | cons migration migrations ih =>
      have hrest := hsorted
      rw [List.map_cons, List.pairwise_cons] at hrest
      by_cases hold : migration.version ≤ currentVersion
      · have hskip : skipApplied currentVersion (migration :: migrations) =
            skipApplied currentVersion migrations :=
          List.dropWhile_cons_of_pos (decide_eq_true hold)
        have hbetween : between currentVersion targetVersion (migration :: migrations) =
            between currentVersion targetVersion migrations := by
          apply List.filter_cons_of_neg
          simp [not_lt.2 hold]
        rw [hskip, hbetween, ih hrest.2]
      · have hskip : skipApplied currentVersion (migration :: migrations) = migration :: migrations :=
          List.dropWhile_cons_of_neg (by simpa using hold)
        rw [hskip]
        apply due_eq_between hsorted
        intro later hmem
        rcases List.mem_cons.1 hmem with rfl | hin
        · exact not_le.1 hold
        · exact (not_le.1 hold).trans (hrest.1 later.version (List.mem_map_of_mem hin))

theorem checkTarget_ok {targetVersion expected : ℕ}
    (h : (checkRange.checkTarget targetVersion expected).ok = true) : expected = targetVersion + 1 := by
  unfold checkRange.checkTarget at h
  split at h
  · cases h
  · rename_i heq
    exact not_not.1 heq

/-- A range that passes the check has every version from the expected one to the target. -/
theorem checkRange_ok {targetVersion expected : ℕ} {pending : List (SqliteMigration δ)}
    (hexpected : expected ≤ targetVersion + 1)
    (h : (checkRange targetVersion expected pending).ok = true) :
    (due targetVersion pending).map SqliteMigration.version =
      List.range' expected (targetVersion + 1 - expected) := by
  induction pending generalizing expected with
  | nil =>
      rw [checkTarget_ok h, Nat.sub_self]
      rfl
  | cons migration pending ih =>
      unfold checkRange at h
      by_cases hdue : migration.version ≤ targetVersion
      · rw [if_pos hdue] at h
        split at h
        · cases h
        rename_i hversion
        rw [not_not] at hversion
        have hcons : due targetVersion (migration :: pending) = migration :: due targetVersion pending :=
          List.takeWhile_cons_of_pos (decide_eq_true hdue)
        rw [hversion] at hdue
        rw [hcons, List.map_cons, ih (Nat.succ_le_succ hdue) h, hversion,
          show targetVersion + 1 - expected = (targetVersion + 1 - (expected + 1)) + 1 by omega,
          List.range'_succ]
      · rw [if_neg hdue] at h
        have hnone : due targetVersion (migration :: pending) = [] :=
          List.takeWhile_cons_of_neg (by simpa using hdue)
        rw [hnone, checkTarget_ok h, Nat.sub_self]
        rfl

/-! ## The transaction -/

theorem migrationFailure_ok (migrationStatus rollbackStatus : Status) :
    (migrationFailure migrationStatus rollbackStatus).ok = migrationStatus.ok := by
  unfold migrationFailure
  split <;> rfl

/-- All or nothing, once the transaction is open. -/
theorem runMigrations_cases (outcomes : Outcomes) (targetVersion : ℕ)
    (pending : List (SqliteMigration δ)) (database : Connection δ) (started : List ℕ) :
    let result := runMigrations outcomes targetVersion pending database started
    (result.status.ok = true ∧
      result.started = started ++ (due targetVersion pending).map SqliteMigration.version ∧
      result.database = { database with
        committed := (due targetVersion pending).foldl SqliteMigration.migrate database.contents
        transaction := none }) ∨
      (result.status.ok = false ∧ result.database = { database with transaction := none }) := by
  have hfail : ∀ (status : Status) (database : Connection δ) (started : List ℕ),
      status.ok = false → (failMigration outcomes status database started).status.ok = false ∧
        (failMigration outcomes status database started).database =
          { database with transaction := none } := by
    intro status database started hstatus
    exact ⟨(migrationFailure_ok status outcomes.rollsBack).trans hstatus, rfl⟩
  have hfinish : ∀ (database : Connection δ) (started : List ℕ),
      let result := runMigrations.finish outcomes database started
      (result.status.ok = true ∧ result.started = started ∧
        result.database = { database with committed := database.contents, transaction := none }) ∨
        (result.status.ok = false ∧ result.database = { database with transaction := none }) := by
    intro database started
    unfold runMigrations.finish Connection.commit
    by_cases hcommits : outcomes.commits.ok = true
    · left
      simp [hcommits]
    · right
      simp only [hcommits, Bool.not_false, if_true, if_false, Bool.false_eq_true]
      exact hfail outcomes.commits database started (Bool.eq_false_of_not_eq_true hcommits)
  induction pending generalizing database started with
  | nil =>
      rw [runMigrations]
      rcases hfinish database started with ⟨hok, hstarted, hdatabase⟩ | hfailed
      · exact Or.inl ⟨hok, hstarted.trans (List.append_nil started).symm, hdatabase⟩
      · exact Or.inr hfailed
  | cons migration pending ih =>
      unfold runMigrations
      dsimp only
      by_cases hdue : migration.version ≤ targetVersion
      · have hcons : due targetVersion (migration :: pending) = migration :: due targetVersion pending :=
          List.takeWhile_cons_of_pos (decide_eq_true hdue)
        rw [if_pos hdue, hcons, List.map_cons, List.foldl_cons]
        split
        · rename_i hfailed
          exact Or.inr (hfail _ _ _ (by simpa using hfailed))
        · split
          · rename_i hfailed
            exact Or.inr (hfail _ _ _ (by simpa using hfailed))
          · rcases ih _ _ with ⟨hok, hstarted, hdatabase⟩ | hfailed
            · refine Or.inl ⟨hok, hstarted.trans (List.append_assoc _ _ _), hdatabase.trans ?_⟩
              rfl
            · exact Or.inr hfailed
      · have hnone : due targetVersion (migration :: pending) = [] :=
          List.takeWhile_cons_of_neg (by simpa using hdue)
        rw [if_neg hdue, hnone]
        rcases hfinish database started with ⟨hok, hstarted, hdatabase⟩ | hfailed
        · exact Or.inl ⟨hok, hstarted.trans (List.append_nil started).symm, hdatabase⟩
        · exact Or.inr hfailed

/-! ## `ApplyMigrations` -/

theorem convertVersion_ok {value : ℤ} {version : ℕ} (h : convertVersion value = .ok version) :
    value = version := by
  unfold convertVersion at h
  split at h
  · cases h
  · rename_i hrange
    cases h
    rw [not_or, not_lt] at hrange
    exact (Int.toNat_of_nonneg hrange.1).symm

theorem readVersion_cases (outcomes : Outcomes) (database : Connection δ) :
    (∃ status, readVersion outcomes database = .error status ∧ status.ok = false) ∨
      ∃ version : ℕ, readVersion outcomes database = .ok version ∧
        database.contents.userVersion = version := by
  unfold readVersion
  split
  · exact Or.inl ⟨_, rfl, rfl⟩
  split
  · rename_i hfailed
    exact Or.inl ⟨_, rfl, by simpa using hfailed⟩
  dsimp only
  split
  · rename_i hfailed
    exact Or.inl ⟨_, rfl, by simpa using hfailed⟩
  split
  · exact Or.inl ⟨_, rfl, rfl⟩
  split
  · rename_i status hconvert
    refine Or.inl ⟨status, rfl, ?_⟩
    unfold convertVersion at hconvert
    split at hconvert <;> cases hconvert
    rfl
  rename_i version hconvert
  split
  · rename_i hfailed
    exact Or.inl ⟨_, rfl, by simpa using hfailed⟩
  split
  · exact Or.inl ⟨_, rfl, rfl⟩
  · exact Or.inr ⟨version, rfl, convertVersion_ok hconvert⟩

/-- The database has reached the target, and exactly the migrations in between ran, once each and in
order. -/
structure Reached (database : Connection δ) (targetVersion : ℕ) (migrations : List (SqliteMigration δ))
    (currentVersion : ℕ) (result : Migrated δ) : Prop where
  started : result.started =
    (between currentVersion targetVersion migrations).map SqliteMigration.version
  versions : result.started = List.range' (currentVersion + 1) (targetVersion - currentVersion)
  contents : result.database.contents =
    (between currentVersion targetVersion migrations).foldl SqliteMigration.migrate database.contents
  userVersion : result.database.contents.userVersion = targetVersion
  committed : currentVersion < targetVersion → result.database.transaction = none

theorem foldl_migrate_userVersion {contents : Contents δ}
    {first count : ℕ} (hversions : migrations.map SqliteMigration.version = List.range' first (count + 1)) :
    (migrations.foldl SqliteMigration.migrate contents).userVersion = (first + count : ℕ) := by
  induction count generalizing migrations contents first with
  | zero =>
      obtain ⟨migration, rest, rfl, hfirst, hrest⟩ := List.map_eq_cons_iff.1 hversions
      rw [List.map_eq_nil_iff.1 hrest, List.foldl_cons, List.foldl_nil, SqliteMigration.migrate,
        hfirst, Nat.add_zero]
  | succ count ih =>
      rw [List.range'_succ] at hversions
      obtain ⟨migration, rest, rfl, -, hrest⟩ := List.map_eq_cons_iff.1 hversions
      rw [List.foldl_cons, ih hrest, Nat.add_right_comm, Nat.add_assoc]

/-- What `ApplyMigrations` promises of a call. -/
structure AllOrNothing (database : Connection δ) (targetVersion : ℕ)
    (migrations : List (SqliteMigration δ)) (result : Migrated δ) : Prop where
  reached : result.status.ok = true → ∃ currentVersion : ℕ,
    database.contents.userVersion = currentVersion ∧ currentVersion ≤ targetVersion ∧
      Reached database targetVersion migrations currentVersion result
  unchanged : result.status.ok = false → result.database = database
  refused : ∀ currentVersion : ℕ, database.contents.userVersion = currentVersion →
    (targetVersion < currentVersion ∨ ∃ version, currentVersion < version ∧
      version ≤ targetVersion ∧ version ∉ migrations.map SqliteMigration.version) →
    result.status.ok = false ∧ result.started = []

theorem AllOrNothing.stopped {database : Connection δ} {targetVersion : ℕ}
    {migrations : List (SqliteMigration δ)} {status : Status} (hfailed : status.ok = false) :
    AllOrNothing database targetVersion migrations { status, database } where
  reached hok := absurd (hfailed.symm.trans hok) Bool.false_ne_true
  unchanged _ := rfl
  refused _ _ _ := ⟨hfailed, rfl⟩

/-- At the target there is nothing to do. -/
theorem AllOrNothing.equal {database : Connection δ} {targetVersion : ℕ}
    {migrations : List (SqliteMigration δ)} (hcurrent : database.contents.userVersion = targetVersion) :
    AllOrNothing database targetVersion migrations { status := Status.success, database } where
  reached _ := by
    have hnone : between targetVersion targetVersion migrations = [] := by
      apply List.filter_eq_nil_iff.2
      intro migration _
      simp only [decide_eq_true_eq, not_and, not_le]
      exact fun hlt => hlt
    refine ⟨targetVersion, hcurrent, le_rfl, ?_, ?_, ?_, hcurrent, fun h => absurd h (lt_irrefl _)⟩
    · rw [hnone]
      rfl
    · rw [Nat.sub_self]
      rfl
    · rw [hnone]
      rfl
  unchanged _ := rfl
  refused currentVersion hversion hrefused := by
    have hsame : currentVersion = targetVersion := by
      rw [hcurrent] at hversion
      exact_mod_cast hversion.symm
    rcases hrefused with hdown | ⟨version, hafter, hbefore, -⟩ <;> omega

/-- Migrations in a transaction that has begun, for versions that lead to the target. -/
theorem AllOrNothing.of_runMigrations (outcomes : Outcomes) {database : Connection δ}
    {currentVersion targetVersion : ℕ} (hidle : database.transaction = none)
    (hsorted : (migrations.map SqliteMigration.version).Pairwise (· < ·))
    (hcurrent : database.contents.userVersion = currentVersion) (hlt : currentVersion < targetVersion)
    (hrange : (checkRange targetVersion (currentVersion + 1)
      (skipApplied currentVersion migrations)).ok = true) :
    AllOrNothing database targetVersion migrations (runMigrations outcomes targetVersion
      (skipApplied currentVersion migrations)
      { database with transaction := some database.committed } []) := by
  have hversions := checkRange_ok (Nat.succ_le_succ hlt.le) hrange
  rw [due_skipApplied hsorted, Nat.succ_sub_succ] at hversions
  have hclosed : ({ database with transaction := none } : Connection δ) = database := by
    rw [← hidle]
  have hcases := runMigrations_cases outcomes targetVersion (skipApplied currentVersion migrations)
    { database with transaction := some database.committed } []
  rw [due_skipApplied hsorted] at hcases
  have hcontents : database.contents = database.committed := by
    rw [Connection.contents, hidle, Option.getD_none]
  constructor
  · intro hok
    rcases hcases with ⟨-, hstarted, hdatabase⟩ | ⟨hfailed, -⟩
    · refine ⟨currentVersion, hcurrent, hlt.le, hstarted, hstarted.trans hversions, ?_, ?_, fun _ => ?_⟩
      · rw [hdatabase, hcontents]
        rfl
      · obtain ⟨count, rfl⟩ := Nat.exists_eq_add_of_lt hlt
        rw [Nat.add_assoc, Nat.add_sub_cancel_left] at hversions
        have hlast : ((between currentVersion (currentVersion + (count + 1)) migrations).foldl
            SqliteMigration.migrate database.committed).userVersion = (currentVersion + 1 + count : ℕ) :=
          foldl_migrate_userVersion hversions
        rw [hdatabase]
        refine hlast.trans (congrArg _ ?_)
        omega
      · rw [hdatabase]
    · exact absurd (hfailed.symm.trans hok) Bool.false_ne_true
  · intro hfailed
    rcases hcases with ⟨hok, -, -⟩ | ⟨-, hdatabase⟩
    · exact absurd (hfailed.symm.trans hok) Bool.false_ne_true
    · exact hdatabase.trans hclosed
  · intro version hversion hrefused
    have hsame : version = currentVersion := by
      rw [hcurrent] at hversion
      exact_mod_cast hversion.symm
    subst hsame
    exfalso
    rcases hrefused with hdown | ⟨missing, hafter, hbefore, hmissing⟩
    · exact absurd hlt (not_lt.2 hdown.le)
    · -- the range check has found every version in between
      have hlisted : missing ∈ List.range' (version + 1) (targetVersion - version) := by
        rw [List.mem_range'_1]
        omega
      rw [← hversions] at hlisted
      obtain ⟨migration, hmem, rfl⟩ := List.mem_map.1 hlisted
      exact hmissing (List.mem_map_of_mem (List.mem_of_mem_filter hmem))

/-- The call succeeds at the target, or leaves the database as it was, without starting anything if the
versions do not lead to the target. -/
theorem applyMigrations_all_or_nothing (outcomes : Outcomes) (database : Connection δ)
    (targetVersion : ℕ) (migrations : Option (List (SqliteMigration δ))) (migrationCount : ℕ) :
    AllOrNothing database targetVersion ((migrations.getD []).take migrationCount)
      (applyMigrations outcomes database targetVersion migrations migrationCount) := by
  unfold applyMigrations
  dsimp only
  split
  · rename_i hinvalid
    exact AllOrNothing.stopped (by simpa using hinvalid)
  rename_i hvalid
  rw [Bool.not_eq_true', Bool.not_eq_false] at hvalid
  have hsorted : (((migrations.getD []).take migrationCount).map
      SqliteMigration.version).Pairwise (· < ·) := by
    unfold validateMigrations at hvalid
    split at hvalid
    · cases hvalid
    · exact (validateDescriptions_ok hvalid).1
  split
  · exact AllOrNothing.stopped rfl
  rcases readVersion_cases outcomes database with ⟨status, hread, hfailed⟩ | ⟨current, hread, hcurrent⟩
  · rw [hread]
    exact AllOrNothing.stopped hfailed
  rw [hread]
  dsimp only
  split
  · exact AllOrNothing.stopped rfl
  rename_i hle
  rw [not_lt] at hle
  split
  · rename_i heq
    exact AllOrNothing.equal (heq ▸ hcurrent)
  rename_i hne
  split
  · rename_i hrange
    exact AllOrNothing.stopped (by simpa using hrange)
  rename_i hrange
  rw [Bool.not_eq_true', Bool.not_eq_false] at hrange
  have hlt : current < targetVersion := lt_of_le_of_ne hle hne
  unfold Connection.beginTransaction
  by_cases hbegins : outcomes.begins.ok = true
  · by_cases hopen : database.transaction.isSome = true
    · simp only [hbegins, hopen, Bool.not_true, Bool.false_eq_true, if_false, if_true]
      exact AllOrNothing.stopped rfl
    · simp only [hbegins, hopen, Bool.not_true, Bool.false_eq_true, if_false]
      apply AllOrNothing.of_runMigrations outcomes _ hsorted hcurrent hlt hrange
      simpa using hopen
  · simp only [hbegins, Bool.not_false, if_true]
    exact AllOrNothing.stopped (Bool.eq_false_of_not_eq_true hbegins)

/-- A migration that notes its version. -/
def noting (version : ℕ) : SqliteMigration (List ℕ) where
  version := version
  apply := some fun data => (Status.success, data ++ [version])

example : let result := applyMigrations {} ⟨true, ⟨[], 1⟩, none⟩ 3 (some [noting 1, noting 2, noting 3]) 3
    result.started = [2, 3] ∧ result.database.committed.data = [2, 3] := by
  decide

end VoiceLife.Schema
