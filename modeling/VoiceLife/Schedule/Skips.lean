import VoiceLife.Schedule.ServiceCalls

/-! # A skipped occurrence is not generated

`skip_schedule_occurrence` accepts any exception that already exists. It is honoured if it leaves a
skip or a linked exception behind; an unlinked modification is generated nevertheless.
-/

namespace VoiceLife

open ScheduleRuleService MemoryScheduleRuleRepository

/-- The exception blocks the generation of its occurrence. -/
def Blocks (exc : ScheduleException) : Prop :=
  exc.scheduleId.isSome = true ∨ exc.type = .skip

/-- The stored exceptions of an occurrence, if any, block it: no unlinked modification is stored. -/
def NoOpenModification (repo : MemoryScheduleRepository) (ruleId time : ℤ) : Prop :=
  ∀ exc, findByRuleAndTime repo ruleId time = some exc → Blocks exc

/-- The occurrence is out of reach: its exception blocks it, or its rule is no longer active. -/
def Skipped (repo : MemoryScheduleRepository) (ruleId time : ℤ) : Prop :=
  (∃ exc, findByRuleAndTime repo ruleId time = some exc ∧ Blocks exc) ∨
    ∃ rule, repo.rules.find? ruleId = some rule ∧ rule.status ≠ .active

/-- The call rewrites the occurrence or its rule, and succeeds. -/
def Rewrites (ruleId time : ℤ) (repo : MemoryScheduleRepository) : ServiceCall → Prop
  | .updateScheduleRule now stamp command => command.ruleId = ruleId ∧
      (ScheduleRuleService.updateScheduleRule repo now stamp command).1.status.ok = true
  | .updateScheduleOccurrence stamp command => command.ruleId = ruleId ∧
      command.originalStartTime = time ∧
      (ScheduleRuleService.updateScheduleOccurrence repo stamp command).1.status.ok = true
  | _ => False

theorem Skipped.not_generated {repo : MemoryScheduleRepository} {ruleId time : ℤ}
    (h : Skipped repo ruleId time) (call : ServiceCall) :
    call.generated repo ≠ some (ruleId, time) := by
  intro hgen
  obtain ⟨now, stamp, rule, exc, -, hfind, hsearch⟩ := generated_eq_some hgen
  obtain ⟨hactive, hlookup, hopen, -⟩ := searchNextInstance_found hsearch
  rcases h with ⟨e, he, hblocks⟩ | ⟨rule', hfind', hinactive⟩
  · rw [hlookup] at he
    obtain ⟨hunlinked, htype⟩ := hopen e he
    rcases hblocks with hlinked | hskip
    · rw [hunlinked] at hlinked
      cases hlinked
    · rw [htype] at hskip
      cases hskip
  · rw [hfind, Option.some_inj] at hfind'
    subst hfind'
    exact hinactive hactive

/-! ## Steps -/

theorem Skipped.of_exceptions {repo repo' : MemoryScheduleRepository} {ruleId time : ℤ}
    (h : Skipped repo ruleId time)
    (hexceptions : findByRuleAndTime repo' ruleId time = findByRuleAndTime repo ruleId time)
    (hrules : ∀ rule, repo.rules.find? ruleId = some rule → rule.status ≠ .active →
      ∃ rule', repo'.rules.find? ruleId = some rule' ∧ rule'.status ≠ .active) :
    Skipped repo' ruleId time := by
  rcases h with ⟨exc, hexc, hblocks⟩ | ⟨rule, hfind, hinactive⟩
  · exact Or.inl ⟨exc, hexceptions.trans hexc, hblocks⟩
  · exact Or.inr (hrules rule hfind hinactive)

/-- An exception written for another key, or one that blocks, keeps the occurrence skipped. -/
theorem Skipped.upsert {repo : MemoryScheduleRepository} {ruleId time : ℤ}
    (h : Skipped repo ruleId time) (stamp : ℤ) {exc : ScheduleException} (hpos : 0 < exc.ruleId)
    (hother : exc.ruleId = ruleId → exc.originalStartTime = time → Blocks exc) :
    Skipped (upsert repo stamp exc).2 ruleId time := by
  obtain ⟨id, createdAt, updatedAt, -, -, hrules, hlookup⟩ := upsert_cases repo stamp exc hpos
  by_cases hkey : ruleId = exc.ruleId ∧ time = exc.originalStartTime
  · refine Or.inl ⟨_, (hlookup ruleId time).trans (if_pos hkey), ?_⟩
    exact hother hkey.1.symm hkey.2.symm
  · apply h.of_exceptions ((hlookup ruleId time).trans (if_neg hkey))
    intro rule hfind hinactive
    exact ⟨rule, by rw [hrules, hfind], hinactive⟩

/-- A call that does not rewrite the occurrence keeps it skipped. -/
theorem Skipped.step {repo : MemoryScheduleRepository} {ruleId time : ℤ}
    (h : Skipped repo ruleId time) (call : ServiceCall) (hcall : ¬ Rewrites ruleId time repo call) :
    Skipped (call.step repo) ruleId time := by
  cases call with
  | schedule call =>
      obtain ⟨hrules, hexceptions⟩ := call.step_frame repo
      apply h.of_exceptions (findByRuleAndTime_congr hexceptions ruleId time)
      intro rule hfind hinactive
      exact ⟨rule, by rw [hrules, hfind], hinactive⟩
  | createScheduleRule now stamp command =>
      rcases createScheduleRule_outcome repo now stamp command with
        ⟨-, hsame⟩ | ⟨rule, _, _, _, -, -, -, -, hrepo⟩
      · rwa [ServiceCall.step, hsame]
      · rw [ServiceCall.step, hrepo]
        apply h.of_exceptions
        · rfl
        · intro rule' hfind hinactive
          obtain ⟨hmem, hid⟩ := IdTable.find?_eq_some.1 hfind
          exact ⟨rule', IdTable.find?_eq_some.2 ⟨IdTable.mem_insert.2 (Or.inl hmem), hid⟩,
            hinactive⟩
  | updateScheduleRule now stamp command =>
      rcases updateScheduleRule_outcome repo now stamp command with
        ⟨-, hsame⟩ | ⟨loaded, rule, _, _, _, hload, hid, -, -, hstatus, -, -, hrepo⟩
      · rwa [ServiceCall.step, hsame]
      · have hne : command.ruleId ≠ ruleId := fun he => hcall ⟨he, by rw [hstatus]; rfl⟩
        rw [ServiceCall.step, hrepo]
        apply h.of_exceptions
        · rw [findByRuleAndTime_removeIf
            (fun id time => id == command.ruleId && time > stamp) rfl, if_neg]
          simp only [Bool.and_eq_true, beq_iff_eq]
          exact fun hdeleted => hne hdeleted.1.symm
        · intro rule' hfind hinactive
          obtain ⟨hmem, hid'⟩ := IdTable.find?_eq_some.1 hfind
          refine ⟨rule', IdTable.find?_eq_some.2 ⟨IdTable.mem_replace.2 (Or.inl ⟨hmem, ?_⟩), hid'⟩,
            hinactive⟩
          rw [hid', getId_rule, hid]
          exact hne.symm
  | cancelScheduleRule stamp command =>
      rcases cancelScheduleRule_outcome repo stamp command with
        ⟨-, hsame⟩ | ⟨loaded, f, hf, hload, -, hrepo⟩
      · rwa [ServiceCall.step, hsame]
      · rw [ServiceCall.step, hrepo]
        obtain ⟨hmem, hid⟩ := IdTable.find?_eq_some.1 hload
        by_cases hrule : command.ruleId = ruleId
        · -- the rule itself is cancelled, and its exceptions are erased with it
          refine Or.inr ⟨_, IdTable.find?_eq_some.2
            ⟨IdTable.mem_replace.2 (Or.inr ⟨rfl, loaded, hmem, rfl⟩), ?_⟩, ?_⟩
          · exact hid.trans hrule
          · intro hactive
            cases hactive
        · apply h.of_exceptions
          · rw [findByRuleAndTime_removeIf (fun id _ => id == command.ruleId) rfl, if_neg]
            rw [beq_iff_eq]
            exact fun hdeleted => hrule hdeleted.symm
          · intro rule' hfind hinactive
            obtain ⟨hmem', hid'⟩ := IdTable.find?_eq_some.1 hfind
            refine ⟨rule', IdTable.find?_eq_some.2
              ⟨IdTable.mem_replace.2 (Or.inl ⟨hmem', ?_⟩), hid'⟩, hinactive⟩
            rw [hid']
            exact fun he => hrule (hid.symm.trans he.symm)
  | updateScheduleOccurrence stamp command =>
      rcases updateScheduleOccurrence_outcome repo stamp command with
        ⟨-, hsame⟩ | ⟨exc, hpos, hstatus, -, hrule, htime, -, -, -, hrepo⟩
      · rwa [ServiceCall.step, hsame]
      · rw [ServiceCall.step, hrepo]
        apply h.upsert stamp (by omega)
        intro he ht
        refine absurd ⟨hrule.symm.trans he, htime.symm.trans ht, ?_⟩ hcall
        rw [hstatus]
        rfl
  | skipScheduleOccurrence stamp command =>
      rcases skipScheduleOccurrence_outcome repo stamp command with
        ⟨-, hsame⟩ | ⟨hpos, -, -, -, hrepo⟩
      · rwa [ServiceCall.step, hsame]
      · rw [ServiceCall.step, hrepo]
        exact h.upsert stamp hpos fun _ _ => Or.inr rfl
  | generateNextScheduleInstance now stamp command =>
      rcases generateNextScheduleInstance_outcome repo now stamp command with
        ⟨-, hsame⟩ | ⟨rule, occurrence, _, _, exc, -, hsearch, -, -, -, hrules, hlinks⟩
      · rwa [ServiceCall.step, hsame]
      · have hkept : ∀ rule, repo.rules.find? ruleId = some rule → rule.status ≠ .active →
            ∃ rule', ((ServiceCall.generateNextScheduleInstance now stamp command).step
              repo).rules.find? ruleId = some rule' ∧ rule'.status ≠ .active := by
          intro rule' hfind hinactive
          exact ⟨rule', by rw [ServiceCall.step, hrules, hfind], hinactive⟩
        cases exc with
        | none => exact h.of_exceptions (findByRuleAndTime_congr hlinks ruleId time) hkept
        | some exc =>
            obtain ⟨id, createdAt, updatedAt, hlookup⟩ := hlinks
            by_cases hkey : ruleId = exc.ruleId ∧ time = exc.originalStartTime
            · exact Or.inl ⟨_, (hlookup ruleId time).trans (if_pos hkey), Or.inl rfl⟩
            · exact h.of_exceptions ((hlookup ruleId time).trans (if_neg hkey)) hkept

/-- A successful skip puts the occurrence out of reach unless it found an open modification. -/
theorem skipped_of_skip {repo : MemoryScheduleRepository} {stamp : ℤ}
    {command : SkipScheduleOccurrenceCommand}
    (hok : (ScheduleRuleService.skipScheduleOccurrence repo stamp command).1.status.ok = true)
    (hopen : NoOpenModification repo command.ruleId command.originalStartTime) :
    Skipped (ScheduleRuleService.skipScheduleOccurrence repo stamp command).2 command.ruleId
      command.originalStartTime := by
  rcases skipScheduleOccurrence_outcome repo stamp command with
    ⟨hfound, hsame⟩ | ⟨hpos, -, -, -, hrepo⟩
  · obtain ⟨exc, hexc⟩ := Option.isSome_iff_exists.1 (hfound hok)
    rw [hsame]
    exact Or.inl ⟨exc, hexc, hopen exc hexc⟩
  · obtain ⟨id, createdAt, updatedAt, -, -, -, hlookup⟩ := upsert_cases repo stamp
      (skipException command.ruleId command.originalStartTime) hpos
    rw [hrepo]
    exact Or.inl ⟨_, (hlookup _ _).trans (if_pos ⟨rfl, rfl⟩), Or.inr rfl⟩

/-! ## Runs -/

/-- **A successful skip is honoured.** After a skip that found no open modification, and as long as
neither the occurrence nor its rule is rewritten, no generation creates the occurrence. -/
theorem skip_honoured (repo : MemoryScheduleRepository) (stamp : ℤ)
    (command : SkipScheduleOccurrenceCommand) (calls : List ServiceCall)
    (hok : (ScheduleRuleService.skipScheduleOccurrence repo stamp command).1.status.ok = true)
    (hopen : NoOpenModification repo command.ruleId command.originalStartTime)
    (hcalls : Run.AllSteps ServiceCall.step
      (fun repo call => ¬ Rewrites command.ruleId command.originalStartTime repo call)
      (ScheduleRuleService.skipScheduleOccurrence repo stamp command).2 calls) :
    Run.AllSteps ServiceCall.step
      (fun repo call => call.generated repo ≠ some (command.ruleId, command.originalStartTime))
      (ScheduleRuleService.skipScheduleOccurrence repo stamp command).2 calls := by
  have hstep : ∀ repo call, Skipped repo command.ruleId command.originalStartTime →
      ¬ Rewrites command.ruleId command.originalStartTime repo call →
      Skipped (ServiceCall.step repo call) command.ruleId command.originalStartTime ∧
        call.generated repo ≠ some (command.ruleId, command.originalStartTime) := by
    intro repo call hskipped hcall
    exact ⟨hskipped.step call hcall, hskipped.not_generated call⟩
  exact Run.AllSteps.of_invariant hstep (skipped_of_skip hok hopen) hcalls

/-- A daily rule at nine from 17 August 2026, stored with its first instance. -/
def dailyRuleCall : ServiceCall :=
  .createScheduleRule 1786924800 1786924800
    { event := "e", startTime := ⟨9, 0, 0⟩, startDate := some ⟨2026, 8, 17⟩ }

theorem skip_honoured_dailyRule :
    Run.AllSteps ServiceCall.step (fun repo call => call.generated repo ≠ some (1, 1787014800))
      (ScheduleRuleService.skipScheduleOccurrence (dailyRuleCall.step {}) 1786924801
        { ruleId := 1, originalStartTime := 1787014800 }).2
      [.generateNextScheduleInstance 1786928401 1786928401 { ruleId := 1 }] := by
  refine skip_honoured (dailyRuleCall.step {}) 1786924801
    { ruleId := 1, originalStartTime := 1787014800 } _ (by decide +kernel) ?_ ⟨id, trivial⟩
  intro exc hexc
  have hnone : findByRuleAndTime (dailyRuleCall.step {}) 1 1787014800 = none := by decide +kernel
  rw [hnone] at hexc
  cases hexc

/-- The second occurrence is given a note and then skipped; both calls succeed, and the next
generation creates it. -/
theorem skip_modified_generated :
    ¬ ∀ (before : List ServiceCall) (stamp : ℤ) (command : SkipScheduleOccurrenceCommand)
        (calls : List ServiceCall),
      (ScheduleRuleService.skipScheduleOccurrence (Run.run ServiceCall.step {} before) stamp
        command).1.status.ok = true →
      Run.AllSteps ServiceCall.step
        (fun repo call => ¬ Rewrites command.ruleId command.originalStartTime repo call)
        (ScheduleRuleService.skipScheduleOccurrence (Run.run ServiceCall.step {} before) stamp
          command).2 calls →
      Run.AllSteps ServiceCall.step
        (fun repo call => call.generated repo ≠ some (command.ruleId, command.originalStartTime))
        (ScheduleRuleService.skipScheduleOccurrence (Run.run ServiceCall.step {} before) stamp
          command).2 calls := by
  intro h
  have hgenerated := h
    [dailyRuleCall, .updateScheduleOccurrence 1786924801
      { ruleId := 1, originalStartTime := 1787014800, notes := some (some "n") }]
    1786924802 { ruleId := 1, originalStartTime := 1787014800 }
    [.generateNextScheduleInstance 1786928401 1786928401 { ruleId := 1 }] (by decide +kernel)
    ⟨id, trivial⟩
  exact hgenerated.1 (by decide +kernel)

end VoiceLife
