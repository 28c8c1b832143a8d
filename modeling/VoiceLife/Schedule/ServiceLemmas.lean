import VoiceLife.Schedule.RuleService
import VoiceLife.Storage.RepositoryLemmas

/-! # What the operations of the two services can do

Each operation either leaves the store alone or makes one write; its lemma names the write and what
the guards have established by then.
-/

namespace VoiceLife

/-! ## Materialised occurrences -/

/-- An occurrence counts as materialised by its time if the rule has a schedule that starts there. -/
theorem findMaterialized_none_isSome {repo : MemoryScheduleRepository} {ruleId time : ℤ} :
    (findMaterializedScheduleOccurrence repo ruleId time none).isSome = true ↔
      ∃ s ∈ repo.schedules.rows, s.ruleId = some ruleId ∧ s.startTime = some time := by
  unfold findMaterializedScheduleOccurrence
  obtain ⟨sorted, hperm, hfind⟩ := repo.find_perm
    { ruleId := some ruleId, startFrom := some time, startTo := some time, status := .all,
      limit := 1 }
  have hhead : (sorted.head?.isSome = true) ↔ ∃ s, s ∈ sorted := by
    cases sorted <;> simp
  dsimp only
  rw [hfind, show toSize 0 = 0 by decide, show toSize 1 = 1 by decide, List.drop_zero,
    List.head?_take, if_neg one_ne_zero, hhead]
  simp only [hperm.mem_iff, List.mem_filter]
  refine exists_congr fun s => and_congr_right fun _ => ?_
  unfold matchesSchedule matchesStatus
  by_cases hrule : s.ruleId = some ruleId
  · cases hstart : s.startTime with
    | none => simp
    | some start =>
        simp only [Option.any_none, Bool.false_eq_true, if_false, Option.any_some, hrule, ne_eq,
          not_true_eq_false, decide_false, Option.isSome_some, Bool.or_self, beq_self_eq_true,
          Bool.true_or, Bool.not_true, if_true, Bool.and_eq_true, Bool.not_eq_true',
          decide_eq_false_iff_not, Option.some.injEq, true_and]
        omega
  · simp [hrule]

/-- An operation either refuses and leaves the store alone, or writes once. -/
def Outcome {β : Type} (repo : MemoryScheduleRepository) (refused : β → Prop)
    (written : β → MemoryScheduleRepository → Prop) (answer : β × MemoryScheduleRepository) : Prop :=
  (refused answer.1 ∧ answer.2 = repo) ∨ written answer.1 answer.2

/-- A guard that refuses. -/
theorem Outcome.guard {β : Type} {repo : MemoryScheduleRepository} {refused : β → Prop}
    {written : β → MemoryScheduleRepository → Prop} {p : Prop} [Decidable p]
    {a b : β × MemoryScheduleRepository} (ha : refused a.1 ∧ a.2 = repo)
    (hb : ¬ p → Outcome repo refused written b) :
    Outcome repo refused written (if p then a else b) := by
  by_cases hp : p
  · rw [if_pos hp]
    exact Or.inl ha
  · rw [if_neg hp]
    exact hb hp

/-- A result without a value. -/
def Failed {α : Type} (result : Result α) : Prop :=
  ∃ status, result = .error status

namespace ScheduleService

/-! ## `schedule_service.cc` -/

/-- The tests of `create_schedule` and `update_schedule` on the two times. -/
theorem wellTimed_of_tests {schedule : Schedule}
    (h1 : ¬ (schedule.startTime.isNone && schedule.endTime.isSome) = true)
    (h2 : ¬ (schedule.startTime.any fun start => schedule.endTime.any fun finish =>
      finish ≤ start) = true) : schedule.WellTimed := by
  intro e he
  cases hs : schedule.startTime with
  | none => simp [hs, he] at h1
  | some s =>
      simp only [hs, he, Option.any_some, decide_eq_true_eq, not_le] at h2
      exact ⟨s, rfl, h2⟩

/-- An accepted conflict test has found nothing unless conflicts are ignored. -/
theorem conflicts_eq_nil {conflicts : List Schedule} {ignore : Bool}
    (h : ¬ (!conflicts.isEmpty && !ignore) = true) (hignore : ignore = false) : conflicts = [] := by
  subst hignore
  simpa using h

theorem createSchedule_outcome (repo : MemoryScheduleRepository) (now : ℤ)
    (command : CreateScheduleCommand) :
    Outcome repo (fun answer => Failed answer.result) (fun answer repo' =>
      ∃ s : Schedule, s.id = 0 ∧ s.WellTimed ∧ s.ruleId = none ∧
        (command.ignoreConflict = false → s.startTime.isSome = true →
          findConflictingSchedules s (nearbyCandidates repo s none) none = []) ∧
        answer.result = .ok (some { s with id := repo.schedules.nextId }) ∧
        repo' = { repo with schedules := repo.schedules.insert s })
      (createSchedule repo now command) := by
  unfold createSchedule
  dsimp only
  refine Outcome.guard ⟨⟨_, rfl⟩, rfl⟩ fun hempty => Outcome.guard ⟨⟨_, rfl⟩, rfl⟩ fun _ =>
    Outcome.guard ⟨⟨_, rfl⟩, rfl⟩ fun hstart => Outcome.guard ⟨⟨_, rfl⟩, rfl⟩ fun horder =>
      Outcome.guard ⟨⟨_, rfl⟩, rfl⟩ fun hconflict => ?_
  obtain ⟨createdAt, updatedAt, hinsert⟩ := repo.insert_of_event now
    (ScheduleFactory.createFromCommand { command with event := trimScheduleText command.event })
    (Bool.eq_false_iff.2 hempty)
  rw [hinsert]
  refine Or.inr ⟨_, rfl, wellTimed_of_tests hstart horder, rfl, ?_, rfl, rfl⟩
  intro hignore hsome
  have hnone := conflicts_eq_nil hconflict hignore
  rwa [candidatesIf, if_pos hsome] at hnone

theorem updateSchedule_outcome (repo : MemoryScheduleRepository) (now : ℤ)
    (command : UpdateScheduleCommand) :
    Outcome repo (fun answer => Failed answer.result) (fun answer repo' =>
      ∃ loaded s : Schedule, repo.schedules.find? command.scheduleId = some loaded ∧
        s = { applyUpdate command loaded with updatedAt := now } ∧ s.WellTimed ∧
        (command.ignoreConflict = false → s.status = .active → s.startTime.isSome = true →
          findConflictingSchedules s (nearbyCandidates repo s (some s.id)) none = []) ∧
        answer.result = .ok (some s) ∧
        repo' = { repo with schedules := repo.schedules.replace s })
      (updateSchedule repo now command) := by
  unfold updateSchedule
  dsimp only
  refine Outcome.guard ⟨⟨_, rfl⟩, rfl⟩ fun _ => Outcome.guard ⟨⟨_, rfl⟩, rfl⟩ fun _ => ?_
  cases hload : repo.findById command.scheduleId with
  | error status => exact Or.inl ⟨⟨_, rfl⟩, rfl⟩
  | ok loaded =>
      rw [MemoryScheduleRepository.findById_eq_ok] at hload
      refine Outcome.guard ⟨⟨_, rfl⟩, rfl⟩ fun _ => Outcome.guard ⟨⟨_, rfl⟩, rfl⟩ fun _ =>
        Outcome.guard ⟨⟨_, rfl⟩, rfl⟩ fun hstart => Outcome.guard ⟨⟨_, rfl⟩, rfl⟩ fun horder =>
          Outcome.guard ⟨⟨_, rfl⟩, rfl⟩ fun hconflict => ?_
      have hsame : loaded.id = command.scheduleId := (IdTable.find?_eq_some.1 hload).2
      have hfind : repo.schedules.find?
          ({ applyUpdate command loaded with updatedAt := now } : Schedule).id = some loaded := by
        rw [← hload, ← hsame]
        rfl
      rw [repo.update_of_find? hfind]
      refine Or.inr ⟨loaded, _, hload, rfl, wellTimed_of_tests hstart horder, ?_, rfl, rfl⟩
      intro hignore hactive hsome
      have hnone := conflicts_eq_nil hconflict hignore
      rwa [candidatesIf, if_pos] at hnone
      rw [Bool.and_eq_true, beq_iff_eq]
      exact ⟨hactive, hsome⟩

/-- A cancellation only changes the status of one schedule. -/
theorem cancelSchedule_outcome (repo : MemoryScheduleRepository) (now : ℤ)
    (command : CancelScheduleCommand) :
    Outcome repo (fun answer => Failed answer.result) (fun answer repo' =>
      ∃ loaded : Schedule, repo.schedules.find? command.scheduleId = some loaded ∧
        loaded.status ≠ .cancelled ∧ answer.result = .ok true ∧
        repo' = { repo with
          schedules := repo.schedules.replace { loaded with status := .cancelled, updatedAt := now } })
      (cancelSchedule repo now command) := by
  unfold cancelSchedule
  dsimp only
  refine Outcome.guard ⟨⟨_, rfl⟩, rfl⟩ fun _ => ?_
  cases hload : repo.findById command.scheduleId with
  | error status => exact Or.inl ⟨⟨_, rfl⟩, rfl⟩
  | ok loaded =>
      rw [MemoryScheduleRepository.findById_eq_ok] at hload
      simp only [MemoryScheduleRepository.delete, hload]
      by_cases hcancelled : loaded.status = .cancelled
      · rw [if_pos hcancelled]
        exact Or.inl ⟨⟨_, rfl⟩, rfl⟩
      · rw [if_neg hcancelled]
        exact Or.inr ⟨loaded, rfl, hcancelled, rfl, rfl⟩

/-- A completion only changes the status of one active schedule. -/
theorem completeSchedule_outcome (repo : MemoryScheduleRepository) (now : ℤ) (scheduleId : ℤ) :
    Outcome repo (fun answer => answer.ok = false) (fun answer repo' =>
      ∃ loaded : Schedule, repo.schedules.find? scheduleId = some loaded ∧
        loaded.status = .active ∧ answer = .success ∧
        repo' = { repo with
          schedules := repo.schedules.replace { loaded with status := .completed, updatedAt := now } })
      (completeSchedule repo now scheduleId) := by
  unfold completeSchedule
  refine Outcome.guard ⟨rfl, rfl⟩ fun _ => ?_
  cases hload : repo.findById scheduleId with
  | error status =>
      refine Or.inl ⟨?_, rfl⟩
      unfold MemoryScheduleRepository.findById at hload
      cases hfind : repo.schedules.find? scheduleId with
      | none =>
          rw [hfind] at hload
          cases hload
          rfl
      | some s =>
          rw [hfind] at hload
          cases hload
  | ok loaded =>
      rw [MemoryScheduleRepository.findById_eq_ok] at hload
      refine Outcome.guard ⟨rfl, rfl⟩ fun hactive => ?_
      have hsame : loaded.id = scheduleId := (IdTable.find?_eq_some.1 hload).2
      refine Or.inr ⟨loaded, hload, not_not.1 hactive, ?_⟩
      rw [repo.update_of_find? (by rw [← hload, ← hsame])]
      exact ⟨rfl, rfl⟩

end ScheduleService

namespace ScheduleRuleService

open MemoryScheduleRuleRepository ScheduleService

/-! ## `schedule_rule_service.cc` -/

/-- The validation reads neither the id, the start date nor the time stamps. -/
theorem validateRuleFields_congr (rule : ScheduleRule) (id : ℤ) (startDate : LocalDate)
    (createdAt updatedAt : ℤ) :
    (validateRuleFields { rule with id, startDate, createdAt, updatedAt }).ok =
      (validateRuleFields rule).ok := rfl

/-- The rule and the first instance that a creation stores. -/
theorem createScheduleRule_outcome (repo : MemoryScheduleRepository) (now stamp : ℤ)
    (command : CreateScheduleRuleCommand) :
    Outcome repo (fun answer => answer.rule = none) (fun answer repo' =>
      ∃ (rule : ScheduleRule) (firstTime createdAt updatedAt : ℤ),
        (validateRuleFields rule).ok = true ∧ rule.status = .active ∧
        answer.rule = some { rule with id := repo.rules.nextId } ∧
        answer.schedules = [{ ScheduleFactory.createOccurrence rule firstTime with
          ruleId := some repo.rules.nextId }] ∧
        repo' = { repo with
          rules := repo.rules.insert rule
          schedules := repo.schedules.insert { ScheduleFactory.createOccurrence rule firstTime with
            ruleId := some repo.rules.nextId, createdAt, updatedAt } })
      (createScheduleRule repo now stamp command) := by
  unfold createScheduleRule
  dsimp only
  refine Outcome.guard ⟨rfl, rfl⟩ fun hvalid => ?_
  cases hnext : nextOccurrence { ScheduleFactory.createRuleFromCommand command with
      startDate := command.startDate.getD (localDateFromUtc now) }
      ((command.startDate.map (atLocalDate ·
        (ScheduleFactory.createRuleFromCommand command).startTime)).getD now) with
  | none => exact Or.inl ⟨rfl, rfl⟩
  | some firstTime =>
      refine Outcome.guard ⟨rfl, rfl⟩ fun _ => Outcome.guard ⟨rfl, rfl⟩ fun _ => ?_
      rcases createWithFirstInstance_cases repo stamp
        { ScheduleFactory.createRuleFromCommand command with
          startDate := localDateFromUtc firstTime }
        (ScheduleFactory.createOccurrence { ScheduleFactory.createRuleFromCommand command with
          startDate := localDateFromUtc firstTime } firstTime) with
        ⟨status, hcreate⟩ | ⟨ruleCreated, ruleUpdated, createdAt, updatedAt, hcreate⟩
      · rw [hcreate]
        exact Or.inl ⟨rfl, rfl⟩
      · rw [hcreate]
        exact Or.inr ⟨{ ScheduleFactory.createRuleFromCommand command with
          startDate := localDateFromUtc firstTime, createdAt := ruleCreated,
          updatedAt := ruleUpdated }, firstTime, createdAt, updatedAt,
          (validateRuleFields_congr _ _ _ _ _).trans (by simpa using hvalid), rfl, rfl, rfl, rfl⟩

/-- The rule, the instance and the erased future of a rule update. -/
theorem updateScheduleRule_outcome (repo : MemoryScheduleRepository) (now stamp : ℤ)
    (command : UpdateScheduleRuleCommand) :
    Outcome repo (fun answer => answer.rule = none) (fun answer repo' =>
      ∃ (loaded rule : ScheduleRule) (firstTime createdAt updatedAt : ℤ),
        repo.rules.find? command.ruleId = some loaded ∧ rule.id = command.ruleId ∧
        rule.status = loaded.status ∧ (validateRuleFields rule).ok = true ∧
        answer.status = .success ∧ answer.rule = some rule ∧
        answer.schedules = [{ ScheduleFactory.createOccurrence rule firstTime with
          ruleId := some command.ruleId }] ∧
        repo' =
          { rules := repo.rules.replace rule
            schedules := (repo.schedules.removeIf fun schedule =>
              schedule.ruleId == some command.ruleId && schedule.status == .active &&
                schedule.startTime.any fun startTime => startTime > stamp).insert
                  { ScheduleFactory.createOccurrence rule firstTime with
                    ruleId := some command.ruleId, createdAt, updatedAt }
            exceptions := repo.exceptions.removeIf fun exc =>
              exc.ruleId == command.ruleId && exc.originalStartTime > stamp })
      (updateScheduleRule repo now stamp command) := by
  unfold updateScheduleRule
  dsimp only
  refine Outcome.guard ⟨rfl, rfl⟩ fun _ => ?_
  cases hload : findById repo command.ruleId with
  | error status => exact Or.inl ⟨rfl, rfl⟩
  | ok loaded =>
      rw [findById_eq_ok] at hload
      have hid : loaded.id = command.ruleId := (IdTable.find?_eq_some.1 hload).2
      refine Outcome.guard ⟨rfl, rfl⟩ fun hvalid => ?_
      cases hnext : nextOccurrence (applyScheduleRulePatch command loaded)
          ((command.startDate.join.map
            (atLocalDate · (applyScheduleRulePatch command loaded).startTime)).getD now) with
      | none => exact Or.inl ⟨rfl, rfl⟩
      | some firstTime =>
          refine Outcome.guard ⟨rfl, rfl⟩ fun _ => Outcome.guard ⟨rfl, rfl⟩ fun _ => ?_
          rcases updateAndRebuild_cases repo stamp
            { applyScheduleRulePatch command loaded with
              startDate := localDateFromUtc firstTime, updatedAt := now }
            (ScheduleFactory.createOccurrence { applyScheduleRulePatch command loaded with
              startDate := localDateFromUtc firstTime, updatedAt := now } firstTime) with
            ⟨status, hupdate⟩ | ⟨found, createdAt, updatedAt, -, hupdate⟩
          · rw [hupdate]
            exact Or.inl ⟨rfl, rfl⟩
          · rw [hupdate]
            refine Or.inr ⟨loaded, { applyScheduleRulePatch command loaded with
              startDate := localDateFromUtc firstTime, updatedAt := now }, firstTime, createdAt,
              updatedAt, hload, hid, rfl, (validateRuleFields_congr _ _ _ _ _).trans
                (by simpa using hvalid), rfl, rfl, ?_, ?_⟩
            · rw [← hid]
              rfl
            · rw [← hid]
              rfl

/-- The statuses and exceptions that a rule cancellation changes. -/
theorem cancelScheduleRule_outcome (repo : MemoryScheduleRepository) (stamp : ℤ)
    (command : CancelScheduleRuleCommand) :
    Outcome repo (fun answer => answer.rule = none) (fun _ repo' =>
      ∃ (loaded : ScheduleRule) (f : Schedule → Schedule) (hf : ∀ s, getId (f s) = getId s),
        repo.rules.find? command.ruleId = some loaded ∧
        (∀ s, f s = if s.ruleId == some command.ruleId && s.status == .active then
          { s with status := .cancelled, updatedAt := stamp } else s) ∧
        repo' =
          { rules := repo.rules.replace { loaded with status := .cancelled, updatedAt := stamp }
            schedules := repo.schedules.modify f hf
            exceptions := repo.exceptions.removeIf fun exc => exc.ruleId == command.ruleId })
      (cancelScheduleRule repo stamp command) := by
  unfold cancelScheduleRule
  refine Outcome.guard ⟨rfl, rfl⟩ fun _ => ?_
  unfold cancelRuleAndInstances
  cases hfind : repo.rules.find? command.ruleId with
  | none => exact Or.inl ⟨rfl, rfl⟩
  | some loaded =>
      refine Or.inr ⟨loaded, fun s =>
        if s.ruleId == some command.ruleId && s.status == .active then
          { s with status := .cancelled, updatedAt := stamp } else s,
        fun s => by dsimp only; split_ifs <;> rfl, rfl, fun s => rfl, ?_⟩
      dsimp only
      split <;> rfl

/-- The exception that `update_schedule_occurrence` writes, and that its occurrence is not
materialised. -/
theorem updateScheduleOccurrence_outcome (repo : MemoryScheduleRepository) (stamp : ℤ)
    (command : UpdateScheduleOccurrenceCommand) :
    Outcome repo (fun answer => answer.status.ok = false) (fun answer repo' =>
      ∃ exc : ScheduleException, 0 < command.ruleId ∧ answer.status = .success ∧
        (∃ rule, repo.rules.find? command.ruleId = some rule) ∧
        exc.ruleId = command.ruleId ∧ exc.originalStartTime = command.originalStartTime ∧
        exc.type = .modify ∧
        exc.scheduleId = (findByRuleAndTime repo command.ruleId command.originalStartTime).bind
          (·.scheduleId) ∧
        findMaterializedScheduleOccurrence repo command.ruleId command.originalStartTime
          exc.scheduleId = none ∧
        repo' = (upsert repo stamp exc).2)
      (updateScheduleOccurrence repo stamp command) := by
  unfold updateScheduleOccurrence
  dsimp only
  refine Outcome.guard ⟨rfl, rfl⟩ fun hpos => ?_
  cases hload : findById repo command.ruleId with
  | error status =>
      refine Or.inl ⟨?_, rfl⟩
      rw [findById_error hload]
      rfl
  | ok rule =>
      refine Outcome.guard ⟨rfl, rfl⟩ fun _ => Outcome.guard ⟨rfl, rfl⟩ fun hfresh => ?_
      -- the written exception has the key of the command, whether it existed before or not
      obtain ⟨exc, hexc, hrule, htime, htype, hlink⟩ : ∃ exc : ScheduleException,
          applyScheduleOccurrencePatch command
            { (if ((findByRuleAndTime repo command.ruleId command.originalStartTime).getD {}).ruleId
                  = 0 then
                { (findByRuleAndTime repo command.ruleId command.originalStartTime).getD {} with
                  ruleId := command.ruleId, originalStartTime := command.originalStartTime }
              else (findByRuleAndTime repo command.ruleId command.originalStartTime).getD {}) with
              type := .modify } = exc ∧
          exc.ruleId = command.ruleId ∧ exc.originalStartTime = command.originalStartTime ∧
          exc.type = .modify ∧ exc.scheduleId =
            (findByRuleAndTime repo command.ruleId command.originalStartTime).bind
              (·.scheduleId) := by
        cases hfind : findByRuleAndTime repo command.ruleId command.originalStartTime with
        | none => exact ⟨_, rfl, rfl, rfl, rfl, rfl⟩
        | some existing =>
            obtain ⟨-, hr, ht⟩ := findByRuleAndTime_eq_some hfind
            simp only [Option.getD_some]
            rw [if_neg (by omega)]
            exact ⟨_, rfl, hr, ht, rfl, rfl⟩
      rw [hexc] at hfresh ⊢
      obtain ⟨id, createdAt, updatedAt, hok, -⟩ := upsert_cases repo stamp exc (by omega)
      refine Or.inr ⟨exc, by omega, ?_, ⟨rule, findById_eq_ok.1 hload⟩, hrule, htime, htype, hlink,
        Option.not_isSome_iff_eq_none.1 hfresh, ?_⟩
      · generalize upsert repo stamp exc = answer at hok ⊢
        obtain ⟨result, repo'⟩ := answer
        dsimp only at hok
        rw [hok]
      · generalize upsert repo stamp exc = answer at hok ⊢
        obtain ⟨result, repo'⟩ := answer
        dsimp only at hok
        rw [hok]

/-- The exception that `skip_schedule_occurrence` leaves behind. -/
theorem skipScheduleOccurrence_outcome (repo : MemoryScheduleRepository) (stamp : ℤ)
    (command : SkipScheduleOccurrenceCommand) :
    Outcome repo (fun answer => answer.status.ok = true →
        (findByRuleAndTime repo command.ruleId command.originalStartTime).isSome = true)
      (fun answer repo' => 0 < command.ruleId ∧ answer.status = .success ∧
        findByRuleAndTime repo command.ruleId command.originalStartTime = none ∧
        findMaterializedScheduleOccurrence repo command.ruleId command.originalStartTime none =
          none ∧
        repo' = (upsert repo stamp (skipException command.ruleId command.originalStartTime)).2)
      (skipScheduleOccurrence repo stamp command) := by
  unfold skipScheduleOccurrence
  refine Outcome.guard ⟨(fun h => by cases h), rfl⟩ fun hpos => ?_
  cases hfind : findByRuleAndTime repo command.ruleId command.originalStartTime with
  | some existing => exact Or.inl ⟨fun _ => rfl, rfl⟩
  | none =>
      refine Outcome.guard ⟨(fun h => by cases h), rfl⟩ fun hfresh => ?_
      obtain ⟨id, createdAt, updatedAt, hok, -⟩ := upsert_cases repo stamp
        (skipException command.ruleId command.originalStartTime) (not_le.1 hpos)
      generalize upsert repo stamp (skipException command.ruleId command.originalStartTime) =
        answer at hok ⊢
      obtain ⟨result, repo'⟩ := answer
      dsimp only at hok
      rw [hok]
      exact Or.inr ⟨not_le.1 hpos, rfl, rfl, Option.not_isSome_iff_eq_none.1 hfresh, rfl⟩

/-- Operations on exceptions leave schedules and rules alone. -/
theorem updateScheduleOccurrence_frame (repo : MemoryScheduleRepository) (stamp : ℤ)
    (command : UpdateScheduleOccurrenceCommand) :
    (updateScheduleOccurrence repo stamp command).2.schedules = repo.schedules ∧
      (updateScheduleOccurrence repo stamp command).2.rules = repo.rules := by
  rcases updateScheduleOccurrence_outcome repo stamp command with
    ⟨-, hsame⟩ | ⟨exc, hpos, -, -, hrule, -, -, -, -, hrepo⟩
  · rw [hsame]
    exact ⟨rfl, rfl⟩
  · obtain ⟨_, _, _, -, hschedules, hrules, -⟩ := upsert_cases repo stamp exc (hrule ▸ hpos)
    rw [hrepo]
    exact ⟨hschedules, hrules⟩

theorem skipScheduleOccurrence_frame (repo : MemoryScheduleRepository) (stamp : ℤ)
    (command : SkipScheduleOccurrenceCommand) :
    (skipScheduleOccurrence repo stamp command).2.schedules = repo.schedules ∧
      (skipScheduleOccurrence repo stamp command).2.rules = repo.rules := by
  rcases skipScheduleOccurrence_outcome repo stamp command with
    ⟨-, hsame⟩ | ⟨hpos, -, -, -, hrepo⟩
  · rw [hsame]
    exact ⟨rfl, rfl⟩
  · obtain ⟨_, _, _, -, hschedules, hrules, -⟩ := upsert_cases repo stamp
      (skipException command.ruleId command.originalStartTime) hpos
    rw [hrepo]
    exact ⟨hschedules, hrules⟩

/-- What the search of `generate_next_schedule_instance` finds: an occurrence of an active rule
whose exception, if there is one, is an unlinked modification. -/
theorem searchNextInstance_found {repo : MemoryScheduleRepository} {rule : ScheduleRule}
    {ruleId : ℤ} {attempts : ℕ} {cursor occurrence : ℤ} {exc : Option ScheduleException}
    (h : searchNextInstance repo rule ruleId attempts cursor = .found occurrence exc) :
    rule.status = .active ∧ findByRuleAndTime repo ruleId occurrence = exc ∧
      (∀ e, exc = some e → e.scheduleId = none ∧ e.type = .modify) ∧
      (exc = none → ¬ ∃ s ∈ repo.schedules.rows,
        s.ruleId = some ruleId ∧ s.startTime = some occurrence) := by
  induction attempts generalizing cursor with
  | zero => cases h
  | succ attempts ih =>
      unfold searchNextInstance at h
      cases hnext : nextOccurrence rule cursor with
      | none =>
          rw [hnext] at h
          cases h
      | some next =>
          have hactive : rule.status = .active := by
            by_contra hn
            unfold nextOccurrence at hnext
            rw [if_pos hn] at hnext
            cases hnext
          simp only [hnext] at h
          cases hfind : findByRuleAndTime repo ruleId next with
          | some e =>
              simp only [hfind] at h
              split_ifs at h with hlinked hskip
              · exact ih h
              · exact ih h
              · cases h
                refine ⟨hactive, hfind, ?_, fun hnone => by cases hnone⟩
                rintro e' ⟨⟩
                refine ⟨Option.not_isSome_iff_eq_none.1 hlinked, ?_⟩
                cases htype : e.type with
                | modify => rfl
                | skip => exact absurd htype hskip
          | none =>
              simp only [hfind] at h
              split_ifs at h with hmaterialized
              · exact ih h
              · cases h
                exact ⟨hactive, hfind, (fun e he => by cases he),
                  fun _ hex => hmaterialized (findMaterialized_none_isSome.2 hex)⟩

/-- The instance that a generation stores, and the link of its exception. A generation that has
found an occurrence is only refused for an empty event. -/
theorem generateNextScheduleInstance_outcome (repo : MemoryScheduleRepository) (now stamp : ℤ)
    (command : GenerateNextScheduleInstanceCommand) :
    Outcome repo
      (fun answer => answer.schedule = none ∧ ∀ rule occurrence exc,
        repo.rules.find? command.ruleId = some rule →
        searchNextInstance repo rule command.ruleId kMaximumGenerateAttempts now =
          .found occurrence exc →
        (instanceOf rule command.ruleId occurrence exc).event.isEmpty = true)
      (fun answer repo' =>
      ∃ (rule : ScheduleRule) (occurrence createdAt updatedAt : ℤ)
          (exc : Option ScheduleException),
        repo.rules.find? command.ruleId = some rule ∧
        searchNextInstance repo rule command.ruleId kMaximumGenerateAttempts now =
          .found occurrence exc ∧
        (instanceOf rule command.ruleId occurrence exc).event.isEmpty = false ∧
        answer.schedule = some { instanceOf rule command.ruleId occurrence exc with
          id := repo.schedules.nextId, createdAt, updatedAt } ∧
        repo'.schedules = repo.schedules.insert
          { instanceOf rule command.ruleId occurrence exc with createdAt, updatedAt } ∧
        repo'.rules = repo.rules ∧
        LinksException repo repo' repo.schedules.nextId exc)
      (generateNextScheduleInstance repo now stamp command) := by
  unfold generateNextScheduleInstance
  by_cases hpos : command.ruleId ≤ 0
  · rw [if_pos hpos]
    refine Or.inl ⟨⟨rfl, fun rule occurrence exc hfind => ?_⟩, rfl⟩
    obtain ⟨hmem, hid⟩ := IdTable.find?_eq_some.1 hfind
    have := repo.rules.one_le_id rule hmem
    omega
  rw [if_neg hpos]
  cases hload : findById repo command.ruleId with
  | error status =>
      refine Or.inl ⟨⟨rfl, fun rule occurrence exc hfind => ?_⟩, rfl⟩
      rw [← findById_eq_ok, hload] at hfind
      cases hfind
  | ok rule =>
      rw [findById_eq_ok] at hload
      dsimp only
      have hnot : ∀ next, searchNextInstance repo rule command.ruleId kMaximumGenerateAttempts now =
          next → (∀ occurrence exc, next ≠ .found occurrence exc) →
          ∀ rule' occurrence exc, repo.rules.find? command.ruleId = some rule' →
            searchNextInstance repo rule' command.ruleId kMaximumGenerateAttempts now =
              .found occurrence exc →
            (instanceOf rule' command.ruleId occurrence exc).event.isEmpty = true := by
        rintro next hnext hne rule' occurrence exc hfind hfound
        rw [hload, Option.some_inj] at hfind
        subst hfind
        exact absurd (hnext.symm.trans hfound) (hne occurrence exc)
      cases hsearch : searchNextInstance repo rule command.ruleId kMaximumGenerateAttempts now with
      | finished => exact Or.inl ⟨⟨rfl, hnot _ hsearch fun _ _ h => by cases h⟩, rfl⟩
      | exhausted => exact Or.inl ⟨⟨rfl, hnot _ hsearch fun _ _ h => by cases h⟩, rfl⟩
      | found occurrence exc =>
          dsimp only
          have hkey : ∀ e, exc = some e →
              some e.ruleId = (instanceOf rule command.ruleId occurrence exc).ruleId := by
            rintro e rfl
            obtain ⟨-, hfind, -⟩ := searchNextInstance_found hsearch
            rw [(findByRuleAndTime_eq_some hfind).2.1]
            rfl
          rcases createNextInstance_cases repo stamp
            (instanceOf rule command.ruleId occurrence exc) exc hkey with
            ⟨hcreate, hinvalid⟩ | ⟨createdAt, updatedAt, repo', hevent, hcreate, hrest⟩
          · rw [hcreate]
            refine Or.inl ⟨⟨rfl, fun rule' occurrence' exc' hfind hfound => ?_⟩, rfl⟩
            rw [hload, Option.some_inj] at hfind
            subst hfind
            rw [hsearch] at hfound
            cases hfound
            have hall : ((instanceOf rule command.ruleId occurrence exc).ruleId.all
                fun ruleId => ruleId ≤ 0) = false := by
              simpa [instanceOf] using hpos
            simpa only [hall, Bool.or_false] using hinvalid
          · rw [hcreate]
            exact Or.inr ⟨rule, occurrence, createdAt, updatedAt, exc, hload, hsearch, hevent, rfl,
              hrest⟩

end ScheduleRuleService

end VoiceLife
