import VoiceLife.Mcp.RuleInput
import VoiceLife.Reminder.RuleReminders

/-! # `schedule_mcp_tools.cc`: the `schedule.update_rule` tool

The tool suspends the reminders of the rule before it updates the rule, and synchronises them
afterwards, also if the update fails. The synchronisation knows the times of the instances only, so
a follow-up, a snoozed reminder or a generation retry that was suspended is lost.
-/

namespace VoiceLife.Mcp

open ScheduleReminderService ScheduleRuleService

/-- What the tool answers: `FailureOutput`, `ConflictOutput` or the updated rule. -/
inductive UpdateRuleOutput where
  | failure (message : String)
  | conflict (message : String) (conflicts : List Schedule)
  | success (rule : Option ScheduleRule) (conflicts : List Schedule)

/-! ### schedule_mcp_tools.cc: the handler of schedule.update_rule -/

/-- The handler of a server with a rule service and a reminder service. -/
def updateRule (env : ReminderEnv) (s : ScheduleReminderService) (properties : RuleArguments) :
    UpdateRuleOutput × ScheduleReminderService :=
  match parseRuleProperties properties false with
  | .error message => (.failure message, s)
  | .ok parsed =>
    let ruleId := properties.ruleId.getD 0
    let suspended := suspendRuleReminders env s ruleId
    if !suspended.1.ok then
      (.failure ("周期规则已修改，但旧提醒撤销失败：" ++ suspended.1.message), suspended.2)
    else
      let result := updateScheduleRule suspended.2.repo env.now env.stamp
        (updateRuleCommand properties parsed)
      let synchronized := synchronizeRule env { suspended.2 with repo := result.2 } ruleId
      if !result.1.status.ok then
        (if result.1.status.code = .conflict then
          .conflict result.1.status.message result.1.conflicts
          else .failure result.1.status.message, synchronized.2)
      else if !synchronized.1.ok then
        (.failure ("周期规则已修改，但提醒同步失败：" ++ synchronized.1.message), synchronized.2)
      else (.success result.1.rule result.1.conflicts, synchronized.2)

/-! ## What a rejected update leaves -/

/-- The pending reminders of the instances of a rule, with their times. -/
def ruleReminders (s : ScheduleReminderService) (ruleId : ℤ) : Set (ℤ × ℤ) :=
  {p ∈ pendingPairs s | IsInstance s.repo ruleId p.1}

/-- The call reaches `update_schedule_rule`, which fails, and no other command does. A service that
is not running sends no command when it synchronises. -/
structure OnlyUpdateFails (env : ReminderEnv) (s : ScheduleReminderService)
    (properties : RuleArguments) (parsed : ParsedRepeat) : Prop where
  parses : parseRuleProperties properties false = .ok parsed
  suspends : (suspendRuleReminders env s (properties.ruleId.getD 0)).1.ok = true
  fails : (updateScheduleRule (suspendRuleReminders env s (properties.ruleId.getD 0)).2.repo env.now
    env.stamp (updateRuleCommand properties parsed)).1.status.ok = false
  synchronizes : s.running = true → (synchronizeRule env
    (suspendRuleReminders env s (properties.ruleId.getD 0)).2 (properties.ruleId.getD 0)).1.ok = true

/-- A call of the tool leaves the reminders and the retry of the rule as they were. -/
def LeavesReminders (env : ReminderEnv) (s : ScheduleReminderService)
    (properties : RuleArguments) : Prop :=
  ruleReminders (updateRule env s properties).2 (properties.ruleId.getD 0) =
      ruleReminders s (properties.ruleId.getD 0) ∧
    (updateRule env s properties).2.generationRetries.lookup (properties.ruleId.getD 0) =
      s.generationRetries.lookup (properties.ruleId.getD 0)

/-- The rule has no generation retry, and its pending reminders are those that a running service
registers anew: one for each active instance that lies ahead, at its time. -/
structure OnlyFirstReminders (env : ReminderEnv) (s : ScheduleReminderService) (ruleId : ℤ) :
    Prop where
  no_retry : s.generationRetries.lookup ruleId = none
  first : ∀ p ∈ ruleReminders s ruleId, s.running = true ∧ ∃ schedule ∈ s.repo.findAll,
    IsActiveInstance ruleId schedule ∧ p.1 = schedule.id ∧ LiesAhead env schedule p.2
  all : s.running = true → ∀ schedule ∈ s.repo.findAll, IsActiveInstance ruleId schedule →
    ∀ triggerAt, LiesAhead env schedule triggerAt →
      (schedule.id, triggerAt) ∈ ruleReminders s ruleId

/-- The service behind a rejected update. -/
theorem updateRule_rejected {env : ReminderEnv} {s : ScheduleReminderService}
    {properties : RuleArguments} {parsed : ParsedRepeat}
    (h : OnlyUpdateFails env s properties parsed) :
    (updateRule env s properties).2 = (synchronizeRule env
      (suspendRuleReminders env s (properties.ruleId.getD 0)).2 (properties.ruleId.getD 0)).2 := by
  have hrepo : (updateScheduleRule (suspendRuleReminders env s (properties.ruleId.getD 0)).2.repo
      env.now env.stamp (updateRuleCommand properties parsed)).2 =
        (suspendRuleReminders env s (properties.ruleId.getD 0)).2.repo := by
    rcases updateScheduleRule_outcome (suspendRuleReminders env s (properties.ruleId.getD 0)).2.repo
        env.now env.stamp (updateRuleCommand properties parsed) with
      ⟨-, hsame⟩ | ⟨_, _, _, _, _, -, -, -, -, hstatus, -⟩
    · exact hsame
    · have hfails := h.fails
      rw [hstatus] at hfails
      cases hfails
  unfold updateRule
  rw [h.parses]
  dsimp only
  rw [h.suspends, hrepo, h.fails]
  rfl

/-- The reminders of the rule behind a rejected update. -/
theorem ruleReminders_updateRule {env : ReminderEnv} {s : ScheduleReminderService}
    {properties : RuleArguments} {parsed : ParsedRepeat}
    (h : OnlyUpdateFails env s properties parsed) :
    (updateRule env s properties).2.generationRetries.lookup (properties.ruleId.getD 0) = none ∧
      ∀ p, p ∈ ruleReminders (updateRule env s properties).2 (properties.ruleId.getD 0) ↔
        s.running = true ∧ ∃ schedule ∈ s.repo.findAll,
          IsActiveInstance (properties.ruleId.getD 0) schedule ∧ p.1 = schedule.id ∧
            LiesAhead env schedule p.2 := by
  obtain ⟨-, hrepo, hrunning, hretry, hpairs⟩ := suspendRuleReminders_spec h.suspends
  rw [updateRule_rejected h]
  have hsync := h.synchronizes
  generalize (suspendRuleReminders env s (properties.ruleId.getD 0)).2 = suspended
    at hrepo hrunning hretry hpairs hsync ⊢
  generalize properties.ruleId.getD 0 = ruleId at hretry hpairs hsync ⊢
  cases hstate : s.running with
  | true =>
      obtain ⟨hsame, hnew⟩ := synchronizeRule_spec (hrunning.trans hstate) (hsync hstate)
      refine ⟨by rw [hsame.retries]; exact hretry, fun p => ?_⟩
      unfold ruleReminders
      rw [hnew, hpairs, hsame.repo, hrepo]
      constructor
      · rintro ⟨⟨⟨-, hgone⟩, -⟩ | hfresh, hinstance⟩
        · exact absurd hinstance hgone
        · exact ⟨rfl, hfresh⟩
      · rintro ⟨-, schedule, hschedule, hactive, hid, hahead⟩
        exact ⟨Or.inr ⟨schedule, hschedule, hactive, hid, hahead⟩,
          schedule, hschedule, hactive.1, hid.symm⟩
  | false =>
      rw [synchronizeRule_stopped env ruleId (hrunning.trans hstate)]
      refine ⟨hretry, fun p => ?_⟩
      unfold ruleReminders
      rw [hpairs, hrepo]
      constructor
      · rintro ⟨⟨-, hgone⟩, hinstance⟩
        exact absurd hinstance hgone
      · rintro ⟨hfalse, -⟩
        cases hfalse

/-- A rejected update leaves the reminders as they were exactly if they are first reminders. -/
theorem leavesReminders_iff {env : ReminderEnv} {s : ScheduleReminderService}
    {properties : RuleArguments} {parsed : ParsedRepeat}
    (h : OnlyUpdateFails env s properties parsed) :
    LeavesReminders env s properties ↔
      OnlyFirstReminders env s (properties.ruleId.getD 0) := by
  obtain ⟨hretry, hreminders⟩ := ruleReminders_updateRule h
  unfold LeavesReminders
  constructor
  · rintro ⟨hsame, hlookup⟩
    rw [hsame] at hreminders
    refine ⟨hlookup.symm.trans hretry, fun p hp => (hreminders p).1 hp, ?_⟩
    intro hrunning schedule hschedule hactive triggerAt hahead
    exact (hreminders _).2 ⟨hrunning, schedule, hschedule, hactive, rfl, hahead⟩
  · rintro ⟨hnone, hfirst, hall⟩
    refine ⟨?_, hretry.trans hnone.symm⟩
    ext p
    rw [hreminders]
    constructor
    · rintro ⟨hrunning, schedule, hschedule, hactive, hid, hahead⟩
      have hmem := hall hrunning schedule hschedule hactive p.2 hahead
      rwa [← hid] at hmem
    · exact hfirst p

/-! ## Runs -/

/-- The calls of the reminder service, and of the tool. -/
inductive UpdateRuleCall where
  | reminders (call : ReminderCall)
  | updateRule (env : ReminderEnv) (properties : RuleArguments)

namespace UpdateRuleCall

/-- The service after a call. -/
def step (s : ScheduleReminderService) : UpdateRuleCall → ScheduleReminderService
  | .reminders call => call.step s
  | .updateRule env properties => (Mcp.updateRule env s properties).2

/-- The call is no update that fails alone and leaves the reminders of its rule changed. -/
def RejectsCleanly (s : ScheduleReminderService) : UpdateRuleCall → Prop
  | .reminders _ => True
  | .updateRule env properties =>
    ∀ parsed, OnlyUpdateFails env s properties parsed → LeavesReminders env s properties

/-- The call is no update that fails alone while its rule has other reminders than first ones. -/
def FindsFirstReminders (s : ScheduleReminderService) : UpdateRuleCall → Prop
  | .reminders _ => True
  | .updateRule env properties => ∀ parsed, OnlyUpdateFails env s properties parsed →
    OnlyFirstReminders env s (properties.ruleId.getD 0)

/-- In a run, every rejected update leaves the reminders as they were exactly if each one finds first
reminders only. -/
theorem rejectsCleanly_iff (s : ScheduleReminderService) (calls : List UpdateRuleCall) :
    Run.AllSteps step RejectsCleanly s calls ↔ Run.AllSteps step FindsFirstReminders s calls := by
  have hcall : ∀ s call, RejectsCleanly s call ↔ FindsFirstReminders s call := by
    intro s call
    cases call with
    | reminders call => exact Iff.rfl
    | updateRule env properties =>
        apply forall_congr'
        intro parsed
        apply forall_congr'
        intro hfails
        exact leavesReminders_iff hfails
  constructor
  · exact fun h => h.imp fun s call => (hcall s call).1
  · exact fun h => h.imp fun s call => (hcall s call).2

/-- Each morning; the first reminder of the first day rings, and then the rule is to lose its
name. -/
def namelessMorning : List UpdateRuleCall :=
  [.reminders (.edit fun repo => (createScheduleRule repo 1786838400 1786838400
      { event := "morning", freqType := .daily, startTime := ⟨9, 0, 0⟩ }).2),
    .reminders (.start { now := 1786838400, stamp := 1786838400 }),
    .reminders (.handleReminder { now := 1786842000, stamp := 1786842000 } 1
      "schedule-reminder-1"),
    .updateRule { now := 1786842060, stamp := 1786842060 } { ruleId := some 1, event := some "" }]

/-- The update is rejected, and the follow-up of the first day is gone. -/
theorem namelessMorning_loses_followUp :
    ¬ ∀ calls : List UpdateRuleCall, Run.AllSteps step RejectsCleanly {} calls := by
  intro h
  have hrejects := (Run.allSteps_iff_forall_prefix.1 (h namelessMorning)) (namelessMorning.take 3) _
    List.prefix_rfl
  obtain ⟨hsame, -⟩ := hrejects {}
    ⟨rfl, by decide +kernel, by decide +kernel, fun _ => by decide +kernel⟩
  -- ten minutes after the first reminder
  have hbefore : (1, 1786842600) ∈
      ruleReminders (Run.run step {} (namelessMorning.take 3)) 1 := by
    have hpending : ∃ task ∈ (Run.run step {} (namelessMorning.take 3)).reminders.tasks.rows,
        task.isPending = true ∧ (task.scheduleId, task.triggerAt) = (1, 1786842600) := by
      decide +kernel
    have hinstance : ∃ schedule ∈ (Run.run step {} (namelessMorning.take 3)).repo.findAll,
        schedule.ruleId = some 1 ∧ schedule.id = 1 := by
      decide +kernel
    exact ⟨hpending, hinstance⟩
  have hafter : ∀ task ∈ (Run.run step {} namelessMorning).reminders.tasks.rows,
      task.isPending = true → (task.scheduleId, task.triggerAt) ≠ (1, 1786842600) := by
    decide +kernel
  have hkept : (1, 1786842600) ∈ ruleReminders (Run.run step {} namelessMorning) 1 := by
    rw [← show _ = ruleReminders (Run.run step {} (namelessMorning.take 3)) 1 from hsame] at hbefore
    exact hbefore
  obtain ⟨⟨task, htask, hpending, hpair⟩, -⟩ := hkept
  exact hafter task htask hpending hpair

end UpdateRuleCall

end VoiceLife.Mcp
