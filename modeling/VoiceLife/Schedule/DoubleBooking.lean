import VoiceLife.Schedule.ServiceCalls

/-! # No unannounced double booking

The window of `findOverlapping` misses no schedule that conflicts with the candidate or lies near it,
so the conflict test of the services is a test against the whole store. A test against the whole
store before every write keeps active schedules apart.
-/

namespace VoiceLife

open ScheduleService

/-! ## The window is wide enough -/

/-- The test of `findOverlapping` on one schedule. -/
def inWindow (candidate : Schedule) (excludeId : Option ℤ) (existing : Schedule) : Bool :=
  existing.status == .active && !(excludeId.any fun id => existing.id = id) &&
    existing.startTime.any fun startTime =>
      startTime ≤ (scheduleNearbyWindow candidate).2 &&
        existing.endTime.getD startTime ≥ (scheduleNearbyWindow candidate).1

theorem nearbyCandidates_perm (repo : MemoryScheduleRepository) (candidate : Schedule)
    (excludeId : Option ℤ) :
    (nearbyCandidates repo candidate excludeId).Perm
      (repo.schedules.rows.filter (inWindow candidate excludeId)) :=
  repo.findOverlapping_perm _ _ _

variable {excludeId : Option ℤ}

/-- A comparable schedule is in the window if its times are. -/
theorem inWindow_of_times {candidate existing : Schedule}
    (hexclude : ∀ id, excludeId = some id → id = candidate.id)
    (hcomparable : comparable candidate existing = true)
    (h1 : existing.startOf ≤ scheduleRangeEnd candidate + kNearbyWindow)
    (h2 : candidate.startOf - kNearbyWindow ≤ scheduleRangeEnd existing) :
    inWindow candidate excludeId existing = true := by
  simp only [comparable, Bool.not_eq_true', Bool.or_eq_false_iff, beq_eq_false_iff_ne, ne_eq,
    bne_eq_false_iff_eq] at hcomparable
  obtain ⟨⟨hid, hactive⟩, hstart⟩ := hcomparable
  obtain ⟨start, hs⟩ := Option.isSome_iff_exists.1 (Option.isNone_eq_false_iff.1 hstart)
  have hstartOf : existing.startOf = start := by
    simp only [Schedule.startOf, hs, Option.getD_some]
  have hnot : (excludeId.any fun id => existing.id = id) = false := by
    cases hx : excludeId with
    | none => rfl
    | some id =>
        rw [Option.any_some, decide_eq_false_iff_not, hexclude id hx]
        exact hid
  simp only [inWindow, hactive, hnot, hs, Option.any_some, scheduleNearbyWindow, beq_self_eq_true,
    Bool.not_false, Bool.and_true, Bool.true_and, Bool.and_eq_true]
  unfold scheduleRangeEnd at h2
  rw [hstartOf] at h1 h2
  exact ⟨decide_eq_true h1, decide_eq_true h2⟩

theorem inWindow_of_conflict {candidate existing : Schedule}
    (hexclude : ∀ id, excludeId = some id → id = candidate.id)
    (hcomparable : comparable candidate existing = true)
    (hconflict : schedulesConflict candidate existing = true) :
    inWindow candidate excludeId existing = true := by
  have htimes : existing.startOf ≤ scheduleRangeEnd candidate ∧
      candidate.startOf ≤ scheduleRangeEnd existing := by
    unfold schedulesConflict scheduleRangeEnd at *
    cases hc : candidate.endTime <;> cases he : existing.endTime <;>
      simp only [hc, he, Option.isNone_none, Option.isNone_some, Bool.and_true, Bool.and_false,
        if_true, Bool.false_eq_true, if_false, Option.getD_none, Option.getD_some,
        Bool.and_eq_true, decide_eq_true_eq, beq_iff_eq] at hconflict ⊢ <;>
      omega
  refine inWindow_of_times hexclude hcomparable ?_ ?_ <;> unfold kNearbyWindow <;> omega

theorem inWindow_of_nearby {candidate existing : Schedule}
    (hcandidate : candidate.WellTimed) (hexisting : existing.WellTimed)
    (hexclude : ∀ id, excludeId = some id → id = candidate.id)
    (hcomparable : comparable candidate existing = true)
    (hnearby : schedulesAreNearby candidate existing = true) :
    inWindow candidate excludeId existing = true := by
  rw [schedulesAreNearby_iff, abs_le] at hnearby
  have h1 := hcandidate.startOf_le
  have h2 := hexisting.startOf_le
  exact inWindow_of_times hexclude hcomparable (by omega) (by omega)

variable {repo : MemoryScheduleRepository}

/-- Filtering the window is filtering the store if the window holds everything that passes. -/
theorem filter_window_perm {candidate : Schedule} {p : Schedule → Bool}
    (h : ∀ s ∈ repo.schedules.rows, p s = true → inWindow candidate excludeId s = true) :
    ((nearbyCandidates repo candidate excludeId).filter p).Perm (repo.schedules.rows.filter p) := by
  refine ((nearbyCandidates_perm repo candidate excludeId).filter p).trans (List.Perm.of_eq ?_)
  rw [List.filter_filter]
  refine List.filter_congr fun s hs => ?_
  cases hp : p s with
  | false => simp
  | true => simp [h s hs hp]

/-- The conflicts found in the window are the conflicts with the whole store. -/
theorem findConflictingSchedules_window (repo : MemoryScheduleRepository) (candidate : Schedule)
    (hexclude : ∀ id, excludeId = some id → id = candidate.id) (ignoredRuleId : Option ℤ) :
    (findConflictingSchedules candidate (nearbyCandidates repo candidate excludeId)
      ignoredRuleId).Perm
        (findConflictingSchedules candidate repo.schedules.rows ignoredRuleId) := by
  refine filter_window_perm fun s _ hs => ?_
  rw [Bool.and_eq_true, Bool.and_eq_true] at hs
  exact inWindow_of_conflict hexclude hs.1.1 hs.2

/-- The neighbours found in the window are the neighbours in the whole store. -/
theorem findNearbySchedules_window {candidate : Schedule} (hcandidate : candidate.WellTimed)
    (hstored : ∀ s ∈ repo.schedules.rows, s.WellTimed)
    (hexclude : ∀ id, excludeId = some id → id = candidate.id) :
    (findNearbySchedules candidate (nearbyCandidates repo candidate excludeId)).Perm
      (findNearbySchedules candidate repo.schedules.rows) := by
  refine filter_window_perm fun s hs hp => ?_
  rw [Bool.and_eq_true, Bool.and_eq_true] at hp
  exact inWindow_of_nearby hcandidate (hstored s hs) hexclude hp.1 hp.2.2

/-! ## Active schedules stay apart -/

/-- Two stored schedules that the rules compare: both active and with a start. -/
def Booked (schedule : Schedule) : Prop :=
  schedule.status = .active ∧ schedule.startTime.isSome = true

/-- No two booked schedules of the store conflict. -/
def NoDoubleBooking (repo : MemoryScheduleRepository) : Prop :=
  ∀ a ∈ repo.schedules.rows, ∀ b ∈ repo.schedules.rows, a.id ≠ b.id → Booked a → Booked b →
    schedulesConflict a b = false

theorem comparable_of_booked {candidate existing : Schedule} (hid : existing.id ≠ candidate.id)
    (h : Booked existing) : comparable candidate existing = true := by
  simp [comparable, hid, h.1, h.2]

/-- A candidate without conflicts in the window conflicts with no booked schedule of another id. -/
theorem no_conflict_of_window {candidate : Schedule}
    (hexclude : ∀ id, excludeId = some id → id = candidate.id)
    (h : findConflictingSchedules candidate (nearbyCandidates repo candidate excludeId) none = []) :
    ∀ s ∈ repo.schedules.rows, s.id ≠ candidate.id → Booked s →
      schedulesConflict candidate s = false := by
  intro s hs hid hbooked
  have hperm := findConflictingSchedules_window repo candidate hexclude none
  rw [h, List.nil_perm] at hperm
  have := List.filter_eq_nil_iff.1 hperm s hs
  rw [comparable_of_booked hid hbooked] at this
  simpa using this

/-- Writing a schedule that conflicts with no other keeps the store free of conflicts. -/
theorem NoDoubleBooking.of_rows {repo repo' : MemoryScheduleRepository} (h : NoDoubleBooking repo)
    (written : Schedule)
    (hrows : ∀ a ∈ repo'.schedules.rows, a = written ∨ a ∈ repo.schedules.rows ∧ a.id ≠ written.id)
    (hwritten : Booked written → ∀ s ∈ repo.schedules.rows, s.id ≠ written.id → Booked s →
      schedulesConflict written s = false) : NoDoubleBooking repo' := by
  intro a ha b hb hab hba hbb
  rcases hrows a ha with rfl | ⟨ha', haid⟩
  · rcases hrows b hb with rfl | ⟨hb', hbid⟩
    · exact absurd rfl hab
    · exact hwritten hba b hb' hbid hbb
  · rcases hrows b hb with rfl | ⟨hb', hbid⟩
    · rw [schedulesConflict_comm]
      exact hwritten hbb a ha' haid hba
    · exact h a ha' b hb' hab hba hbb

theorem NoDoubleBooking.replace (h : NoDoubleBooking repo) (written : Schedule)
    (hwritten : Booked written → ∀ s ∈ repo.schedules.rows, s.id ≠ written.id → Booked s →
      schedulesConflict written s = false) :
    NoDoubleBooking { repo with schedules := repo.schedules.replace written } := by
  refine h.of_rows written (fun a ha => ?_) hwritten
  rcases IdTable.mem_replace.1 ha with ⟨ha, hid⟩ | ⟨rfl, -⟩
  · exact Or.inr ⟨ha, hid⟩
  · exact Or.inl rfl

theorem noDoubleBooking_step (h : NoDoubleBooking repo)
    (call : ScheduleServiceCall) (hrespects : call.RespectsConflicts) :
    NoDoubleBooking (call.step repo) := by
  cases call with
  | createSchedule now command =>
      rcases createSchedule_outcome repo now command with ⟨-, hsame⟩ | ⟨s, hid, -, -, hfree, -, hrepo⟩
      · rwa [ScheduleServiceCall.step, hsame]
      · rw [ScheduleServiceCall.step, hrepo]
        -- the fresh id differs from the id of the candidate and of every stored schedule
        refine h.of_rows { s with id := repo.schedules.nextId } (fun a ha => ?_) ?_
        · rcases IdTable.mem_insert.1 ha with ha | rfl
          · exact Or.inr ⟨ha, (repo.schedules.id_lt a ha).ne⟩
          · exact Or.inl rfl
        · intro hbooked x hx _ hbx
          refine no_conflict_of_window (fun id he => by cases he)
            (hfree hrespects hbooked.2) x hx ?_ hbx
          have := repo.schedules.one_le_id x hx
          rw [getId_schedule] at this
          omega
  | updateSchedule now command =>
      rcases updateSchedule_outcome repo now command with
        ⟨-, hsame⟩ | ⟨loaded, s, hload, hs, -, hfree, -, hrepo⟩
      · rwa [ScheduleServiceCall.step, hsame]
      · rw [ScheduleServiceCall.step, hrepo]
        refine h.replace s fun hbooked => no_conflict_of_window ?_
          (hfree hrespects hbooked.1 hbooked.2)
        rintro id ⟨⟩
        rfl
  | cancelSchedule now command =>
      rcases cancelSchedule_outcome repo now command with
        ⟨-, hsame⟩ | ⟨loaded, hload, -, -, hrepo⟩
      · rwa [ScheduleServiceCall.step, hsame]
      · rw [ScheduleServiceCall.step, hrepo]
        exact h.replace _ fun hbooked => by cases hbooked.1
  | completeSchedule now scheduleId =>
      rcases completeSchedule_outcome repo now scheduleId with
        ⟨-, hsame⟩ | ⟨loaded, hload, -, -, hrepo⟩
      · rwa [ScheduleServiceCall.step, hsame]
      · rw [ScheduleServiceCall.step, hrepo]
        exact h.replace _ fun hbooked => by cases hbooked.1

theorem noDoubleBooking_run {calls : List ScheduleServiceCall}
    (hrespects : ∀ call ∈ calls, call.RespectsConflicts) :
    NoDoubleBooking (Run.run ScheduleServiceCall.step {} calls) := by
  refine List.foldlRecOn calls ScheduleServiceCall.step (motive := NoDoubleBooking) ?_ ?_
  · intro a ha
    exact absurd ha List.not_mem_nil
  · intro repo h call hcall
    exact noDoubleBooking_step h call (hrespects call hcall)

/-! ## What the services report -/

/-- A guard whose refusal is excluded did not apply. -/
theorem not_refused {β : Type} {p : Prop} [Decidable p] {a b : β × MemoryScheduleRepository}
    {refusal : String → β} (ha : ∃ error, a.1 = refusal error)
    (h : ∀ error, (if p then a else b).1 ≠ refusal error) : ¬ p := by
  intro hp
  obtain ⟨error, ha⟩ := ha
  rw [if_pos hp] at h
  exact h error ha

/-- A creation that is not refused as invalid reports the conflicts and neighbours of its candidate
among the candidates of the window. -/
theorem createSchedule_reports (repo : MemoryScheduleRepository) (now : ℤ)
    (command : CreateScheduleCommand) (hstart : command.startTime.isSome = true)
    (hvalid : ∀ error, (createSchedule repo now command).1 ≠ invalidCreateScheduleResult error) :
    ∃ candidate, candidate = ScheduleFactory.createFromCommand
        { command with event := trimScheduleText command.event } ∧
      candidate.WellTimed ∧
      (createSchedule repo now command).1.conflicts =
        findConflictingSchedules candidate (nearbyCandidates repo candidate none) none ∧
      (createSchedule repo now command).1.nearbySchedules =
        findNearbySchedules candidate (nearbyCandidates repo candidate none) := by
  unfold createSchedule at hvalid ⊢
  dsimp only at hvalid ⊢
  have hempty := not_refused ⟨_, rfl⟩ hvalid
  rw [if_neg hempty] at hvalid ⊢
  have hlong := not_refused ⟨_, rfl⟩ hvalid
  rw [if_neg hlong] at hvalid ⊢
  have hmissing := not_refused ⟨_, rfl⟩ hvalid
  rw [if_neg hmissing] at hvalid ⊢
  have horder := not_refused ⟨_, rfl⟩ hvalid
  rw [if_neg horder]
  refine ⟨_, rfl, wellTimed_of_tests hmissing horder, ?_⟩
  obtain ⟨createdAt, updatedAt, hinsert⟩ := repo.insert_of_event now
    (ScheduleFactory.createFromCommand { command with event := trimScheduleText command.event })
    (Bool.eq_false_iff.2 hempty)
  have hwanted : (ScheduleFactory.createFromCommand
      { command with event := trimScheduleText command.event }).startTime.isSome = true := hstart
  rw [hinsert, candidatesIf, if_pos hwanted]
  split_ifs <;> exact ⟨rfl, rfl⟩

/-- An update that is not refused as invalid reports the conflicts of the updated schedule among the
candidates of the window. -/
theorem updateSchedule_reports (repo : MemoryScheduleRepository) (now : ℤ)
    (command : UpdateScheduleCommand) {loaded : Schedule}
    (hload : repo.schedules.find? command.scheduleId = some loaded)
    (hactive : loaded.status = .active)
    (hstart : (applyUpdate command loaded).startTime.isSome = true)
    (hvalid : ∀ error, (updateSchedule repo now command).1 ≠ invalidUpdateScheduleResult error) :
    (updateSchedule repo now command).1.conflicts =
      findConflictingSchedules (applyUpdate command loaded)
        (nearbyCandidates repo (applyUpdate command loaded) (some loaded.id)) none := by
  unfold updateSchedule at hvalid ⊢
  rw [MemoryScheduleRepository.findById_eq_ok.2 hload] at hvalid ⊢
  dsimp only at hvalid ⊢
  have hid := not_refused ⟨_, rfl⟩ hvalid
  rw [if_neg hid] at hvalid ⊢
  have hupdate := not_refused ⟨_, rfl⟩ hvalid
  rw [if_neg hupdate] at hvalid ⊢
  have hempty := not_refused ⟨_, rfl⟩ hvalid
  rw [if_neg hempty] at hvalid ⊢
  have hlong := not_refused ⟨_, rfl⟩ hvalid
  rw [if_neg hlong] at hvalid ⊢
  have hmissing := not_refused ⟨_, rfl⟩ hvalid
  rw [if_neg hmissing] at hvalid ⊢
  have horder := not_refused ⟨_, rfl⟩ hvalid
  rw [if_neg horder]
  have hwanted : ((applyUpdate command loaded).status == ScheduleStatus.active &&
      (applyUpdate command loaded).startTime.isSome) = true := by
    rw [hstart, Bool.and_true, beq_iff_eq]
    exact hactive
  rw [candidatesIf, if_pos hwanted]
  split_ifs <;> rfl

/-- A lunch, a walk that would overlap it, and the same walk after the lunch has moved. -/
def lunchCalls : List ScheduleServiceCall :=
  [.createSchedule 1 { event := "lunch", startTime := some 3600, endTime := some 7200 },
   .createSchedule 2 { event := "walk", startTime := some 5400 },
   .updateSchedule 3 { scheduleId := 1, startTime := some (some 6000) },
   .createSchedule 4 { event := "walk", startTime := some 5400 }]

example : (Run.run ScheduleServiceCall.step {} lunchCalls).schedules.rows.map (·.startTime) =
    [some 6000, some 5400] := by decide +kernel

end VoiceLife
