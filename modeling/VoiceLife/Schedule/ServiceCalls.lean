import VoiceLife.Lib.Run
import VoiceLife.Schedule.ServiceLemmas

/-! # Runs of the two services

A run is any sequence of calls, each with its own clock readings; nothing orders the clocks.
-/

namespace VoiceLife

/-- The calls of `ScheduleService` that write. -/
inductive ScheduleServiceCall where
  | createSchedule (now : ℤ) (command : CreateScheduleCommand)
  | updateSchedule (now : ℤ) (command : UpdateScheduleCommand)
  | cancelSchedule (now : ℤ) (command : CancelScheduleCommand)
  | completeSchedule (now : ℤ) (scheduleId : ℤ)

/-- The store after a call. -/
def ScheduleServiceCall.step (repo : MemoryScheduleRepository) :
    ScheduleServiceCall → MemoryScheduleRepository
  | .createSchedule now command => (ScheduleService.createSchedule repo now command).2
  | .updateSchedule now command => (ScheduleService.updateSchedule repo now command).2
  | .cancelSchedule now command => (ScheduleService.cancelSchedule repo now command).2
  | .completeSchedule now scheduleId => (ScheduleService.completeSchedule repo now scheduleId).2

/-- The call does not ask to ignore conflicts. -/
def ScheduleServiceCall.RespectsConflicts : ScheduleServiceCall → Prop
  | .createSchedule _ command => command.ignoreConflict = false
  | .updateSchedule _ command => command.ignoreConflict = false
  | .cancelSchedule _ _ => True
  | .completeSchedule _ _ => True

/-- The calls of both services that write. -/
inductive ServiceCall where
  | schedule (call : ScheduleServiceCall)
  | createScheduleRule (now stamp : ℤ) (command : CreateScheduleRuleCommand)
  | updateScheduleRule (now stamp : ℤ) (command : UpdateScheduleRuleCommand)
  | cancelScheduleRule (stamp : ℤ) (command : CancelScheduleRuleCommand)
  | updateScheduleOccurrence (stamp : ℤ) (command : UpdateScheduleOccurrenceCommand)
  | skipScheduleOccurrence (stamp : ℤ) (command : SkipScheduleOccurrenceCommand)
  | generateNextScheduleInstance (now stamp : ℤ) (command : GenerateNextScheduleInstanceCommand)

/-- The store after a call. -/
def ServiceCall.step (repo : MemoryScheduleRepository) : ServiceCall → MemoryScheduleRepository
  | .schedule call => call.step repo
  | .createScheduleRule now stamp command =>
    (ScheduleRuleService.createScheduleRule repo now stamp command).2
  | .updateScheduleRule now stamp command =>
    (ScheduleRuleService.updateScheduleRule repo now stamp command).2
  | .cancelScheduleRule stamp command =>
    (ScheduleRuleService.cancelScheduleRule repo stamp command).2
  | .updateScheduleOccurrence stamp command =>
    (ScheduleRuleService.updateScheduleOccurrence repo stamp command).2
  | .skipScheduleOccurrence stamp command =>
    (ScheduleRuleService.skipScheduleOccurrence repo stamp command).2
  | .generateNextScheduleInstance now stamp command =>
    (ScheduleRuleService.generateNextScheduleInstance repo now stamp command).2

/-! ## What a schedule call leaves alone -/

open ScheduleService in
theorem ScheduleServiceCall.step_frame (repo : MemoryScheduleRepository)
    (call : ScheduleServiceCall) :
    (call.step repo).rules = repo.rules ∧ (call.step repo).exceptions = repo.exceptions := by
  cases call with
  | createSchedule now command =>
      rcases createSchedule_outcome repo now command with ⟨-, hsame⟩ | ⟨s, -, -, -, -, -, hrepo⟩
      · rw [step, hsame]
        exact ⟨rfl, rfl⟩
      · rw [step, hrepo]
        exact ⟨rfl, rfl⟩
  | updateSchedule now command =>
      rcases updateSchedule_outcome repo now command with
        ⟨-, hsame⟩ | ⟨loaded, s, -, -, -, -, -, hrepo⟩
      · rw [step, hsame]
        exact ⟨rfl, rfl⟩
      · rw [step, hrepo]
        exact ⟨rfl, rfl⟩
  | cancelSchedule now command =>
      rcases cancelSchedule_outcome repo now command with ⟨-, hsame⟩ | ⟨loaded, -, -, -, hrepo⟩
      · rw [step, hsame]
        exact ⟨rfl, rfl⟩
      · rw [step, hrepo]
        exact ⟨rfl, rfl⟩
  | completeSchedule now scheduleId =>
      rcases completeSchedule_outcome repo now scheduleId with ⟨-, hsame⟩ | ⟨loaded, -, -, -, hrepo⟩
      · rw [step, hsame]
        exact ⟨rfl, rfl⟩
      · rw [step, hrepo]
        exact ⟨rfl, rfl⟩

/-! ## What a generation creates -/

section Generated

open ScheduleRuleService

/-- The rule and original time of the instance that a generation creates. -/
def ServiceCall.generated (repo : MemoryScheduleRepository) : ServiceCall → Option (ℤ × ℤ)
  | .generateNextScheduleInstance now stamp command =>
    if (ScheduleRuleService.generateNextScheduleInstance repo now stamp command).1.schedule.isSome then
      match repo.rules.find? command.ruleId with
      | none => none
      | some rule =>
        match searchNextInstance repo rule command.ruleId kMaximumGenerateAttempts now with
        | .found occurrence _ => some (command.ruleId, occurrence)
        | _ => none
    else none
  | _ => none

theorem generated_eq_some {repo : MemoryScheduleRepository} {call : ServiceCall} {ruleId time : ℤ}
    (h : call.generated repo = some (ruleId, time)) :
    ∃ now stamp rule exc, call = .generateNextScheduleInstance now stamp ⟨ruleId⟩ ∧
      repo.rules.find? ruleId = some rule ∧
      searchNextInstance repo rule ruleId kMaximumGenerateAttempts now = .found time exc := by
  cases call with
  | generateNextScheduleInstance now stamp command =>
      simp only [ServiceCall.generated] at h
      split_ifs at h
      cases hfind : repo.rules.find? command.ruleId with
      | none =>
          rw [hfind] at h
          cases h
      | some rule =>
          simp only [hfind] at h
          cases hsearch : searchNextInstance repo rule command.ruleId kMaximumGenerateAttempts
              now with
          | finished =>
              rw [hsearch] at h
              cases h
          | exhausted =>
              rw [hsearch] at h
              cases h
          | found occurrence exc =>
              simp only [hsearch, Option.some.injEq, Prod.mk.injEq] at h
              obtain ⟨rfl, rfl⟩ := h
              exact ⟨now, stamp, rule, exc, rfl, hfind, hsearch⟩
  | _ => cases h

end Generated

end VoiceLife
