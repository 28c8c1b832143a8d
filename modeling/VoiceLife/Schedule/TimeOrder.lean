import VoiceLife.Schedule.ServiceCalls

/-! # Stored schedules end after they start

Commands and rules are checked before they become schedules. The overrides of an exception are not:
they are written field by field and applied to an occurrence when it is generated. A run keeps every
schedule well-timed exactly if no generation applies overrides that end before they start.
-/

namespace VoiceLife

open ScheduleService ScheduleRuleService MemoryScheduleRuleRepository

/-- Every stored schedule is well-timed. -/
def AllWellTimed (repo : MemoryScheduleRepository) : Prop :=
  ∀ s ∈ repo.schedules.rows, s.WellTimed

/-- Every stored rule is one that `validateRuleFields` accepts. -/
def RulesValid (repo : MemoryScheduleRepository) : Prop :=
  ∀ r ∈ repo.rules.rows, (validateRuleFields r).ok = true

/-- The overrides of an exception, over the default times of its occurrence, end after they start. -/
def OverridesOrdered (rule : ScheduleRule) (occurrence : ℤ) (exc : ScheduleException) : Prop :=
  ∀ finish, (exc.overrideEndTime <|> (ScheduleFactory.createOccurrence rule occurrence).endTime) =
      some finish →
    exc.overrideStartTime.getD occurrence < finish

/-- The call does not generate an occurrence from disordered overrides. An exception that clears the
event is refused by the store. -/
def GeneratesInOrder (repo : MemoryScheduleRepository) : ServiceCall → Prop
  | .generateNextScheduleInstance now _ command =>
    ∀ rule occurrence exc, repo.rules.find? command.ruleId = some rule →
      searchNextInstance repo rule command.ruleId kMaximumGenerateAttempts now =
        .found occurrence (some exc) →
      exc.overrideEvent ≠ some "" → OverridesOrdered rule occurrence exc
  | _ => True

/-! ## Construction paths -/

theorem createOccurrence_wellTimed {rule : ScheduleRule} (h : (validateRuleFields rule).ok = true)
    (occurrence : ℤ) : (ScheduleFactory.createOccurrence rule occurrence).WellTimed := by
  intro finish hfinish
  obtain ⟨-, -, -, hclock⟩ := validateRuleFields_ok h
  obtain ⟨endTime, he, hend⟩ := Option.map_eq_some_iff.1 hfinish
  have := (validateClockFields_ok hclock).2 endTime he
  exact ⟨occurrence, rfl, by omega⟩

theorem instanceOf_wellTimed_iff (rule : ScheduleRule) (ruleId occurrence : ℤ)
    (exc : ScheduleException) :
    (instanceOf rule ruleId occurrence (some exc)).WellTimed ↔
      OverridesOrdered rule occurrence exc := by
  have hstart : (instanceOf rule ruleId occurrence (some exc)).startTime =
      some (exc.overrideStartTime.getD occurrence) := by
    cases hs : exc.overrideStartTime <;>
      simp [instanceOf, ScheduleFactory.applyOverride, ScheduleFactory.createOccurrence, hs]
  unfold Schedule.WellTimed OverridesOrdered
  refine forall_congr' fun finish => imp_congr Iff.rfl ?_
  rw [hstart]
  simp

/-- Being well-timed only depends on the two times. -/
theorem Schedule.WellTimed.congr {s s' : Schedule} (h : s.WellTimed)
    (hstart : s'.startTime = s.startTime) (hend : s'.endTime = s.endTime) : s'.WellTimed := by
  intro e he
  rw [hend] at he
  rw [hstart]
  exact h e he

variable {repo : MemoryScheduleRepository}

theorem AllWellTimed.insert (h : AllWellTimed repo) {s : Schedule}
    (hs : s.WellTimed) : ∀ a ∈ (repo.schedules.insert s).rows, a.WellTimed := by
  intro a ha
  rcases IdTable.mem_insert.1 ha with ha | rfl
  · exact h a ha
  · exact hs.congr rfl rfl

theorem AllWellTimed.replace (h : AllWellTimed repo) {s : Schedule}
    (hs : s.WellTimed) : ∀ a ∈ (repo.schedules.replace s).rows, a.WellTimed := by
  intro a ha
  rcases IdTable.mem_replace_of_mem ha with rfl | ha
  · exact hs
  · exact h a ha

/-! ## Steps -/

theorem allWellTimed_scheduleStep (h : AllWellTimed repo)
    (call : ScheduleServiceCall) : AllWellTimed (call.step repo) := by
  cases call with
  | createSchedule now command =>
      rcases createSchedule_outcome repo now command with ⟨-, hsame⟩ | ⟨s, -, hs, -, -, -, hrepo⟩
      · rwa [ScheduleServiceCall.step, hsame]
      · rw [ScheduleServiceCall.step, hrepo]
        exact h.insert hs
  | updateSchedule now command =>
      rcases updateSchedule_outcome repo now command with
        ⟨-, hsame⟩ | ⟨loaded, s, -, -, hs, -, -, hrepo⟩
      · rwa [ScheduleServiceCall.step, hsame]
      · rw [ScheduleServiceCall.step, hrepo]
        exact h.replace hs
  | cancelSchedule now command =>
      rcases cancelSchedule_outcome repo now command with
        ⟨-, hsame⟩ | ⟨loaded, hload, -, -, hrepo⟩
      · rwa [ScheduleServiceCall.step, hsame]
      · rw [ScheduleServiceCall.step, hrepo]
        exact h.replace ((h loaded (IdTable.find?_eq_some.1 hload).1).congr rfl rfl)
  | completeSchedule now scheduleId =>
      rcases completeSchedule_outcome repo now scheduleId with
        ⟨-, hsame⟩ | ⟨loaded, hload, -, -, hrepo⟩
      · rwa [ScheduleServiceCall.step, hsame]
      · rw [ScheduleServiceCall.step, hrepo]
        exact h.replace ((h loaded (IdTable.find?_eq_some.1 hload).1).congr rfl rfl)

/-- A call keeps every stored rule acceptable. -/
theorem rulesValid_step (h : RulesValid repo) (call : ServiceCall) : RulesValid (call.step repo) := by
  cases call with
  | schedule call =>
      unfold RulesValid
      rw [ServiceCall.step, (call.step_frame repo).1]
      exact h
  | createScheduleRule now stamp command =>
      rcases createScheduleRule_outcome repo now stamp command with
        ⟨-, hsame⟩ | ⟨rule, firstTime, _, _, hvalid, -, -, -, hrepo⟩
      · rwa [ServiceCall.step, hsame]
      · rw [ServiceCall.step, hrepo]
        intro r hr
        rcases IdTable.mem_insert.1 hr with hr | rfl
        · exact h r hr
        · exact hvalid
  | updateScheduleRule now stamp command =>
      rcases updateScheduleRule_outcome repo now stamp command with
        ⟨-, hsame⟩ | ⟨loaded, rule, firstTime, _, _, -, -, -, hvalid, -, -, -, hrepo⟩
      · rwa [ServiceCall.step, hsame]
      · rw [ServiceCall.step, hrepo]
        intro r hr
        rcases IdTable.mem_replace_of_mem hr with rfl | hr
        · exact hvalid
        · exact h r hr
  | cancelScheduleRule stamp command =>
      rcases cancelScheduleRule_outcome repo stamp command with
        ⟨-, hsame⟩ | ⟨loaded, f, hf, hload, -, hrepo⟩
      · rwa [ServiceCall.step, hsame]
      · rw [ServiceCall.step, hrepo]
        intro r hr
        rcases IdTable.mem_replace_of_mem hr with rfl | hr
        · exact h loaded (IdTable.find?_eq_some.1 hload).1
        · exact h r hr
  | updateScheduleOccurrence stamp command =>
      unfold RulesValid
      rw [ServiceCall.step, (updateScheduleOccurrence_frame repo stamp command).2]
      exact h
  | skipScheduleOccurrence stamp command =>
      unfold RulesValid
      rw [ServiceCall.step, (skipScheduleOccurrence_frame repo stamp command).2]
      exact h
  | generateNextScheduleInstance now stamp command =>
      rcases generateNextScheduleInstance_outcome repo now stamp command with
        ⟨-, hsame⟩ | ⟨_, _, _, _, _, -, -, -, -, -, hrules, -⟩
      · rwa [ServiceCall.step, hsame]
      · unfold RulesValid
        rw [ServiceCall.step, hrules]
        exact h

/-- A call keeps every schedule well-timed exactly if it does not generate from disordered
overrides. -/
theorem allWellTimed_step_iff (h : AllWellTimed repo) (hrules : RulesValid repo) (call : ServiceCall) :
    AllWellTimed (call.step repo) ↔ GeneratesInOrder repo call := by
  cases call with
  | schedule call => exact iff_of_true (allWellTimed_scheduleStep h call) trivial
  | createScheduleRule now stamp command =>
      refine iff_of_true ?_ trivial
      rcases createScheduleRule_outcome repo now stamp command with
        ⟨-, hsame⟩ | ⟨rule, firstTime, _, _, hvalid, -, -, -, hrepo⟩
      · rwa [ServiceCall.step, hsame]
      · rw [ServiceCall.step, hrepo]
        exact h.insert ((createOccurrence_wellTimed hvalid firstTime).congr rfl rfl)
  | updateScheduleRule now stamp command =>
      refine iff_of_true ?_ trivial
      rcases updateScheduleRule_outcome repo now stamp command with
        ⟨-, hsame⟩ | ⟨loaded, rule, firstTime, _, _, -, -, -, hvalid, -, -, -, hrepo⟩
      · rwa [ServiceCall.step, hsame]
      · rw [ServiceCall.step, hrepo]
        intro a ha
        rcases IdTable.mem_insert.1 ha with ha | rfl
        · exact h a (IdTable.mem_removeIf.1 ha).1
        · exact (createOccurrence_wellTimed hvalid firstTime).congr rfl rfl
  | cancelScheduleRule stamp command =>
      refine iff_of_true ?_ trivial
      rcases cancelScheduleRule_outcome repo stamp command with
        ⟨-, hsame⟩ | ⟨loaded, f, hf, -, hfeq, hrepo⟩
      · rwa [ServiceCall.step, hsame]
      · rw [ServiceCall.step, hrepo]
        intro a ha
        rw [IdTable.mem_modify] at ha
        obtain ⟨b, hb, rfl⟩ := ha
        rw [hfeq]
        split_ifs
        · exact (h b hb).congr rfl rfl
        · exact h b hb
  | updateScheduleOccurrence stamp command =>
      refine iff_of_true ?_ trivial
      unfold AllWellTimed
      rw [ServiceCall.step, (updateScheduleOccurrence_frame repo stamp command).1]
      exact h
  | skipScheduleOccurrence stamp command =>
      refine iff_of_true ?_ trivial
      unfold AllWellTimed
      rw [ServiceCall.step, (skipScheduleOccurrence_frame repo stamp command).1]
      exact h
  | generateNextScheduleInstance now stamp command =>
      rcases generateNextScheduleInstance_outcome repo now stamp command with
        ⟨⟨-, hempty⟩, hsame⟩ |
          ⟨rule, occurrence, createdAt, updatedAt, exc, hfind, hsearch, hevent, -, hschedules, -, -⟩
      · -- refused: only an exception that clears the event can have been found
        rw [ServiceCall.step, hsame]
        refine iff_of_true h ?_
        intro rule occurrence exc hfind hsearch hevent
        have hvalid := hrules rule (IdTable.find?_eq_some.1 hfind).1
        have hrule := (validateRuleFields_ok hvalid).1
        have := hempty rule occurrence (some exc) hfind hsearch
        exfalso
        cases he : exc.overrideEvent with
        | none =>
            simp only [instanceOf, ScheduleFactory.applyOverride, Option.map_some, Option.getD_some,
              he, Option.getD_none] at this
            exact absurd this (Bool.eq_false_iff.1 hrule)
        | some event =>
            simp only [instanceOf, ScheduleFactory.applyOverride, Option.map_some, Option.getD_some,
              he] at this
            rw [he] at hevent
            exact hevent (by rw [String.isEmpty_iff.1 this])
      · have hvalid := hrules rule (IdTable.find?_eq_some.1 hfind).1
        have hnew : AllWellTimed ((ServiceCall.generateNextScheduleInstance now stamp command).step
            repo) ↔ (instanceOf rule command.ruleId occurrence exc).WellTimed := by
          unfold AllWellTimed
          rw [ServiceCall.step, hschedules]
          constructor
          · intro hall
            exact (hall _ (IdTable.mem_insert.2 (Or.inr rfl))).congr rfl rfl
          · intro hinstance
            exact h.insert (hinstance.congr rfl rfl)
        rw [hnew]
        cases exc with
        | none =>
            refine iff_of_true ((createOccurrence_wellTimed hvalid occurrence).congr rfl rfl) ?_
            intro rule' occurrence' exc' hfind' hsearch'
            rw [hfind, Option.some_inj] at hfind'
            subst hfind'
            rw [hsearch] at hsearch'
            cases hsearch'
        | some exc =>
            rw [instanceOf_wellTimed_iff]
            constructor
            · intro hordered rule' occurrence' exc' hfind' hsearch' _
              rw [hfind, Option.some_inj] at hfind'
              subst hfind'
              rw [hsearch] at hsearch'
              cases hsearch'
              exact hordered
            · intro hcall
              refine hcall rule occurrence exc hfind hsearch fun hcleared => ?_
              simp [instanceOf, ScheduleFactory.applyOverride, hcleared] at hevent

/-! ## Runs -/

/-- **Well-formed in time.** Every state of a run from the empty store is well-timed exactly if no
call of the run generates an occurrence from disordered overrides. -/
theorem allWellTimed_run_iff (calls : List ServiceCall) :
    Run.AllStates ServiceCall.step AllWellTimed {} calls ↔
      Run.AllSteps ServiceCall.step GeneratesInOrder {} calls := by
  have hempty : AllWellTimed {} ∧ RulesValid {} :=
    ⟨fun s hs => absurd hs List.not_mem_nil, fun r hr => absurd hr List.not_mem_nil⟩
  have hstep : ∀ repo call, AllWellTimed repo ∧ RulesValid repo →
      (AllWellTimed (ServiceCall.step repo call) ∧ RulesValid (ServiceCall.step repo call) ↔
        GeneratesInOrder repo call) := by
    intro repo call h
    rw [and_iff_left (rulesValid_step h.2 call)]
    exact allWellTimed_step_iff h.1 h.2 call
  have hrules : Run.AllStates ServiceCall.step RulesValid {} calls :=
    Run.allStates_of_invariant (fun repo call h => rulesValid_step h call) hempty.2
  rw [← Run.allStates_iff_allSteps hstep hempty]
  exact ⟨fun h done hd => ⟨h done hd, hrules done hd⟩, fun h done hd => (h done hd).1⟩

/-- A daily hour at nine whose second occurrence is moved to eleven without a new end. -/
def movedOccurrenceCalls : List ServiceCall :=
  [.createScheduleRule 1786924800 1786924800
     { event := "e", startTime := ⟨9, 0, 0⟩, endTime := some ⟨10, 0, 0⟩,
       startDate := some ⟨2026, 8, 17⟩ },
   .updateScheduleOccurrence 1786924801
     { ruleId := 1, originalStartTime := 1787014800, startTime := some (some 1787022000) },
   .generateNextScheduleInstance 1786928401 1786928401 { ruleId := 1 }]

/-- The generated instance starts at eleven and ends at ten. -/
theorem movedOccurrence_not_wellTimed :
    ¬ ∀ calls, AllWellTimed (Run.run ServiceCall.step {} calls) := by
  intro h
  have hstored := h movedOccurrenceCalls
  have hrow : ∃ s ∈ (Run.run ServiceCall.step {} movedOccurrenceCalls).schedules.rows,
      s.startTime = some 1787022000 ∧ s.endTime = some 1787018400 := by decide +kernel
  obtain ⟨s, hs, hstart, hend⟩ := hrow
  obtain ⟨start, hstart', hlt⟩ := hstored s hs _ hend
  rw [hstart, Option.some_inj] at hstart'
  omega

end VoiceLife
