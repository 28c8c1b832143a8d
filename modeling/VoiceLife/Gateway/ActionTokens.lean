import VoiceLife.Gateway.ActionEffects
import VoiceLife.Gateway.Soundness

/-! # Action tokens

A token creates at most one action, every execution of it answers with the same command, and a command
that reaches a device is an option that the notification of its delivery offers.
-/

namespace VoiceLife.Gateway

variable {ports : Ports} {store store' : ImStore} {state : GatewayState}
  {publishing : ReminderActionCommand → Prop}

/-! ## Actions -/

theorem dispatchTransaction_same {now : IsoDateTime} {command : ReminderActionCommand} :
    (∀ action ∈ store.actions.rows,
      ∃ action' ∈ (dispatchTransaction now command store).actions.rows, SameAction action action') ∧
    ∀ action' ∈ (dispatchTransaction now command store).actions.rows,
      ∃ action ∈ store.actions.rows, SameAction action action' := by
  have hrefl : (∀ action ∈ store.actions.rows, ∃ action' ∈ store.actions.rows,
      SameAction action action') ∧ ∀ action' ∈ store.actions.rows, ∃ action ∈ store.actions.rows,
        SameAction action action' :=
    ⟨fun action h => ⟨action, h, SameAction.refl action⟩,
      fun action h => ⟨action, h, SameAction.refl action⟩⟩
  unfold dispatchTransaction
  split
  · exact hrefl
  · rename_i found hget
    have hfound := (KeyTable.get?_eq_some.1 hget).1
    split
    · exact hrefl
    · constructor
      · intro action hmem
        by_cases hid : action.id = found.id
        · rw [store.actions.eq_of_key_eq hmem hfound hid]
          exact ⟨_, KeyTable.mem_set.2 (Or.inl rfl), _, _, _, _, rfl⟩
        · exact ⟨action, KeyTable.mem_set.2 (Or.inr ⟨hmem, hid⟩), SameAction.refl action⟩
      · intro action' hmem
        rcases KeyTable.mem_set.1 hmem with rfl | ⟨hmem, -⟩
        · exact ⟨found, hfound, _, _, _, _, rfl⟩
        · exact ⟨action', hmem, SameAction.refl action'⟩

/-- Actions stay, and keep what they are about. -/
theorem ActionEffect.kept (h : ActionEffect publishing store store') {action : ImAction}
    (hmem : action ∈ store.actions.rows) :
    ∃ action' ∈ store'.actions.rows, SameAction action action' := by
  have hchanges : ∀ {before : ImStore}, ChangesOpen before store' →
      action ∈ before.actions.rows → ∃ action' ∈ store'.actions.rows, SameAction action action' := by
    intro before h hmem
    rcases h.kept action hmem with hkept | ⟨-, hlater⟩
    · exact ⟨action, hkept, SameAction.refl action⟩
    · exact hlater
  cases h with
  | same h =>
      refine ⟨action, ?_, SameAction.refl action⟩
      rw [h.actions]
      exact hmem
  | changes h => exact hchanges h hmem
  | creates h =>
      refine ⟨action, ?_, SameAction.refl action⟩
      rw [h.actions, KeyTable.rows_set_of_fresh h.absent]
      exact List.mem_append_left _ hmem
  | reports hfact h =>
      refine hchanges h ?_
      rw [hfact.facts]
      exact hmem
  | dispatches _ hstore =>
      rw [hstore]
      exact dispatchTransaction_same.1 action hmem

/-- An action is an earlier one, or was created by a command. -/
theorem ActionEffect.origin (h : ActionEffect publishing store store') {action' : ImAction}
    (hmem : action' ∈ store'.actions.rows) :
    (∃ action ∈ store.actions.rows, SameAction action action') ∨
      ∃ command, CreatesAction store store' command action' := by
  cases h with
  | same h =>
      rw [h.actions] at hmem
      exact Or.inl ⟨action', hmem, SameAction.refl action'⟩
  | changes h => exact Or.inl (h.origin action' hmem)
  | @creates command action h =>
      rw [h.actions, KeyTable.rows_set_of_fresh h.absent] at hmem
      rcases List.mem_append.1 hmem with hold | hnew
      · exact Or.inl ⟨action', hold, SameAction.refl action'⟩
      · rw [List.mem_singleton.1 hnew]
        exact Or.inr ⟨command, h⟩
  | reports hfact h =>
      have horigin := h.origin action' hmem
      rw [hfact.facts] at horigin
      exact Or.inl horigin
  | dispatches _ hstore =>
      rw [hstore] at hmem
      exact Or.inl (dispatchTransaction_same.2 action' hmem)

/-- The action with an id, at another point of its life. -/
def KeepsAction (action : ImAction) (store : ImStore) : Prop :=
  ∃ action' ∈ store.actions.rows, SameAction action action'

theorem KeepsAction.step {action : ImAction} (h : KeepsAction action state.store)
    (event : GatewayEvent) : KeepsAction action (step ports state event).store := by
  obtain ⟨action', hmem, hsame⟩ := h
  obtain ⟨action'', hmem', hsame'⟩ := (step_actionEffect ports state event).kept hmem
  exact ⟨action'', hmem', hsame.trans hsame'⟩

theorem KeepsAction.run {action : ImAction} (h : KeepsAction action state.store)
    (events : List GatewayEvent) :
    KeepsAction action (Run.run (Gateway.step ports) state events).store := by
  induction events generalizing state with
  | nil => exact h
  | cons event events ih => exact ih (h.step event)

theorem KeepsAction.get? {action : ImAction} (h : KeepsAction action store) :
    ∃ action', store.actions.get? action.id = some action' ∧ SameAction action action' := by
  obtain ⟨action', hmem, hsame⟩ := h
  exact ⟨action', KeyTable.get?_eq_some.2 ⟨hmem, hsame.id_eq⟩, hsame⟩

/-! ## Executions of a token -/

/-- An execution of a token in a run. -/
structure Execution (events : List GatewayEvent) (token : JsString) where
  done : List GatewayEvent
  now : IsoDateTime
  action : ReminderActionKind
  params : Option Json
  actualIdentityId : Option ExternalIdentityId
  happens : done ++ [GatewayEvent.execute now token action params actualIdentityId] <+: events

namespace Execution

variable {events : List GatewayEvent} {token : JsString}

/-- The event of an execution. -/
def event (x : Execution events token) : GatewayEvent :=
  .execute x.now token x.action x.params x.actualIdentityId

/-- The state in which an execution starts. -/
def before (ports : Ports) (x : Execution events token) : GatewayState :=
  Run.run (step ports) {} x.done

/-- The execution succeeds with a command. -/
def Answers (ports : Ports) (x : Execution events token) (command : ReminderActionCommand) : Prop :=
  ∃ shouldDispatch store', executeAction ports x.now token x.action x.params x.actualIdentityId
    (x.before ports).store = .ok ((command, shouldDispatch), store')

/-- The execution creates an action. -/
def Creates (ports : Ports) (x : Execution events token) : Prop :=
  ∃ action ∈ (step ports (x.before ports) x.event).store.actions.rows,
    (x.before ports).store.actions.get? action.id = none

/-- The store after a successful execution. -/
theorem step_store {x : Execution events token} {command : ReminderActionCommand}
    {shouldDispatch : Bool} (h : executeAction ports x.now token x.action x.params x.actualIdentityId
      (x.before ports).store = .ok ((command, shouldDispatch), store')) :
    (step ports (x.before ports) x.event).store = store' := by
  simp only [event, step, h, GatewayState.triggered]
  split <;> rfl

/-- The action of a token is stored once the token has been executed. -/
theorem Answers.keepsAction {x : Execution events token} {command : ReminderActionCommand}
    (h : x.Answers ports command) : ∃ claims action, ports.verify token = some claims ∧
      action.id = claims.actionId ∧ toCommand action = command ∧
      KeepsAction action (step ports (x.before ports) x.event).store := by
  obtain ⟨shouldDispatch, store', hexecute⟩ := h
  obtain ⟨claims, hverify, htrigger⟩ := executeAction_ok hexecute
  rw [step_store hexecute]
  rcases triggerPrepared_cases htrigger with ⟨hstore, -, action, hget, hanswer⟩ |
    ⟨action, hcreates, hanswer⟩
  · obtain ⟨hmem, hid⟩ := KeyTable.get?_eq_some.1 hget
    rw [hstore]
    exact ⟨claims, action, hverify, hid, hanswer.symm, action, hmem, SameAction.refl action⟩
  · refine ⟨claims, action, hverify, hcreates.id, hanswer.symm, action, ?_, SameAction.refl action⟩
    rw [hcreates.actions]
    exact KeyTable.mem_set.2 (Or.inl rfl)

/-- While its action is stored, a token answers with the command of this action. -/
theorem Answers.eq_of_keepsAction {x : Execution events token} {command : ReminderActionCommand}
    (h : x.Answers ports command) {claims : ActionTokenClaims} {action : ImAction}
    (hverify : ports.verify token = some claims) (hid : action.id = claims.actionId)
    (hkeeps : KeepsAction action (x.before ports).store) : command = toCommand action := by
  obtain ⟨shouldDispatch, store', hexecute⟩ := h
  obtain ⟨claims', hverify', htrigger⟩ := executeAction_ok hexecute
  rw [hverify] at hverify'
  cases hverify'
  obtain ⟨stored, hstored, hsame⟩ := hkeeps.get?
  rw [hid] at hstored
  rcases triggerPrepared_cases htrigger with ⟨-, -, found, hget, hanswer⟩ | ⟨created, hcreates, -⟩
  · rw [hstored] at hget
    cases hget
    rw [hanswer, hsame.toCommand_eq]
  · have habsent := hcreates.absent
    rw [hcreates.id, hstored] at habsent
    cases habsent

/-- An execution creates the action of its token. -/
theorem Creates.keepsAction {x : Execution events token} (h : x.Creates ports) :
    ∃ claims action, ports.verify token = some claims ∧ action.id = claims.actionId ∧
      (x.before ports).store.actions.get? claims.actionId = none ∧
      KeepsAction action (step ports (x.before ports) x.event).store := by
  obtain ⟨created, hmem, hnew⟩ := h
  cases hexecute : executeAction ports x.now token x.action x.params x.actualIdentityId
    (x.before ports).store with
  | error error =>
      simp only [event, step, hexecute, GatewayState.triggered] at hmem
      exact absurd rfl (KeyTable.get?_eq_none.1 hnew created hmem)
  | ok result =>
      obtain ⟨⟨command, shouldDispatch⟩, store'⟩ := result
      obtain ⟨claims, hverify, htrigger⟩ := executeAction_ok hexecute
      rw [step_store hexecute] at hmem ⊢
      rcases triggerPrepared_cases htrigger with ⟨rfl, -⟩ | ⟨action, hcreates, -⟩
      · exact absurd rfl (KeyTable.get?_eq_none.1 hnew created hmem)
      · refine ⟨claims, action, hverify, hcreates.id, ?_, action, ?_, SameAction.refl action⟩
        · rw [← hcreates.absent, hcreates.id]
        · rw [hcreates.actions]
          exact KeyTable.mem_set.2 (Or.inl rfl)

/-- What is stored by an execution is still stored when a later one starts. -/
theorem keepsAction_before {x y : Execution events token} (hlt : x.done.length < y.done.length)
    {action : ImAction} (h : KeepsAction action (step ports (x.before ports) x.event).store) :
    KeepsAction action (y.before ports).store := by
  have hy : y.done <+: events := (List.prefix_append _ _).trans y.happens
  have hpre : x.done ++ [x.event] <+: y.done :=
    List.prefix_of_prefix_length_le x.happens hy (by simpa using hlt)
  obtain ⟨more, hmore⟩ := hpre
  rw [before, ← hmore, Run.run_append, Run.run_append]
  exact h.run more

/-- Executions at the same place are the same. -/
theorem eq_of_length_eq {x y : Execution events token} (h : x.done.length = y.done.length) :
    x.done = y.done ∧ x.event = y.event := by
  have hpre : x.done ++ [x.event] <+: y.done ++ [y.event] :=
    List.prefix_of_prefix_length_le x.happens y.happens (by simp [h])
  have heq := hpre.eq_of_length (by simp [h])
  obtain ⟨hdone, hevent⟩ := List.append_inj heq h
  exact ⟨hdone, List.singleton_inj.1 hevent⟩

theorem Answers.unique {x y : Execution events token} {command command' : ReminderActionCommand}
    (hx : x.Answers ports command) (hy : y.Answers ports command') : command = command' := by
  have hlater : ∀ {x y : Execution events token} {command command' : ReminderActionCommand},
      x.done.length < y.done.length → x.Answers ports command → y.Answers ports command' →
        command = command' := by
    intro x y command command' hlt hx hy
    obtain ⟨claims, action, hverify, hid, hcommand, hkeeps⟩ := hx.keepsAction
    rw [hy.eq_of_keepsAction hverify hid (keepsAction_before hlt hkeeps), hcommand]
  rcases lt_trichotomy x.done.length y.done.length with hlt | heq | hgt
  · exact hlater hlt hx hy
  · obtain ⟨shouldDispatch, store', hexecute⟩ := hx
    obtain ⟨shouldDispatch', store'', hexecute'⟩ := hy
    obtain ⟨hdone, hevent⟩ := eq_of_length_eq heq
    injection hevent with hnow _ haction hparams hidentity
    rw [before, hdone, hnow, haction, hparams, hidentity, ← before, hexecute'] at hexecute
    cases hexecute
    rfl
  · exact (hlater hgt hy hx).symm

theorem Creates.unique {x y : Execution events token} (hx : x.Creates ports) (hy : y.Creates ports) :
    x.done = y.done := by
  have hlater : ∀ {x y : Execution events token}, x.done.length < y.done.length →
      x.Creates ports → ¬ y.Creates ports := by
    intro x y hlt hx hy
    obtain ⟨claims, action, hverify, hid, -, hkeeps⟩ := hx.keepsAction
    obtain ⟨claims', -, hverify', -, hnone, -⟩ := hy.keepsAction
    rw [hverify] at hverify'
    cases hverify'
    obtain ⟨stored, hstored, -⟩ := (keepsAction_before hlt hkeeps).get?
    rw [hid, hnone] at hstored
    cases hstored
  rcases lt_trichotomy x.done.length y.done.length with hlt | heq | hgt
  · exact absurd hy (hlater hlt hx)
  · exact (eq_of_length_eq heq).1
  · exact absurd hx (hlater hgt hy)

end Execution

/-! ## Commands that are published -/

/-- The commands that a call still has to publish. -/
def Call.commands : Call → List ReminderActionCommand
  | .publishingCommands commands => commands
  | _ => []

/-- The command belongs to a stored action. -/
def FromAction (store : ImStore) (command : ReminderActionCommand) : Prop :=
  ∃ action ∈ store.actions.rows, toCommand action = command

theorem FromAction.effect {command : ReminderActionCommand} (h : FromAction store command)
    (heffect : ActionEffect publishing store store') : FromAction store' command := by
  obtain ⟨action, hmem, rfl⟩ := h
  obtain ⟨action', hmem', hsame⟩ := heffect.kept hmem
  exact ⟨action', hmem', hsame.toCommand_eq⟩

/-- The command belongs to a stored action, and the notification of its delivery offers it. -/
def OfferedCommand (store : ImStore) (command : ReminderActionCommand) : Prop :=
  ∃ action delivery metadata, store.actions.get? command.commandId = some action ∧
    store.deliveries.get? action.deliveryId = some delivery ∧
    readStrongReminderMetadata delivery.semanticPayload.value = some metadata ∧
    metadata.deviceId = command.deviceId ∧
    metadata.reminderTriggerId = command.reminderTriggerId ∧
    ∃ option ∈ metadata.options, option.type = command.action ∧ option.minutes = command.minutes

theorem Offered.command {action : ImAction} (h : Offered store action)
    (hmem : action ∈ store.actions.rows) : OfferedCommand store (toCommand action) := by
  obtain ⟨delivery, metadata, hget, hread, hdevice, htrigger, happroved⟩ := h
  refine ⟨action, delivery, metadata, KeyTable.get?_key hmem, hget, hread, hdevice.symm,
    htrigger.symm, ?_⟩
  obtain ⟨option, hoption, hmatch⟩ := List.any_eq_true.1 happroved
  rw [Bool.and_eq_true, decide_eq_true_eq] at hmatch
  refine ⟨option, hoption, hmatch.1, ?_⟩
  have hminutes := hmatch.2
  dsimp only [toCommand]
  split at hminutes
  · rename_i hnone
    rw [hnone, paramsMinutes, Option.isNone_iff_eq_none.1 hminutes]
    rfl
  · rename_i minutes hsome
    split at hminutes
    · rw [hsome, of_decide_eq_true hminutes]
    · cases hminutes

/-- Actions are offered, and commands belong to actions. -/
structure CommandsSound (ports : Ports) (state : GatewayState) : Prop extends Sound ports state where
  offered : ∀ action ∈ state.store.actions.rows, Offered state.store action
  published : ∀ command ∈ state.published, FromAction state.store command
  commands : ∀ call ∈ state.calls, ∀ command ∈ call.commands, FromAction state.store command

theorem Offered.step {action action' : ImAction} (h : Offered state.store action)
    (hsame : SameAction action action') (hsound : Sound ports state) (event : GatewayEvent) :
    Offered (step ports state event).store action' := by
  obtain ⟨delivery, metadata, hget, hread, hrest⟩ := h
  obtain ⟨delivery', hget', hdelivery⟩ :=
    (step_steps hsound event).effects.delivery hsound.store hget
  obtain ⟨_, _, _, _, rfl⟩ := hsame
  refine ⟨delivery', metadata, hget', ?_, hrest⟩
  rw [hdelivery.semanticPayload_eq, hread]

theorem nextTask_commands (events : List ImOutboxEvent) : (nextTask events).commands = [] := by
  cases events <;> rfl

theorem afterDispatch_commands (owner : Option WorkerTask) (result : Delivery) :
    (afterDispatch owner result).commands = [] := by
  cases owner with
  | none => rfl
  | some task =>
      dsimp only [afterDispatch]
      split
      · exact nextTask_commands task.rest
      · rfl
      · rfl

theorem afterDispatchError_commands (owner : Option WorkerTask) (error : ImGatewayError) :
    (afterDispatchError owner error).commands = [] := by
  cases owner with
  | none => rfl
  | some task =>
      dsimp only [afterDispatchError]
      split
      · rfl
      · exact nextTask_commands task.rest

theorem startDispatch_commands {owner : Option WorkerTask} {claimTime now : IsoDateTime}
    {deliveryId : DeliveryId} {next : Call}
    (h : startDispatch ports owner claimTime now deliveryId store = (next, store')) :
    next.commands = [] := by
  rcases startDispatch_cases h with ⟨error, rfl, -⟩ | ⟨delivery, result, attempt, rfl, -⟩ |
    ⟨delivery, target, rfl, -⟩
  · exact afterDispatchError_commands owner error
  · exact afterDispatch_commands owner result
  · rfl

/-- A call publishes its commands one after the other and never gets new ones. -/
theorem advanceCall_commands {answers : Answers} {call next : Call}
    (hcall : CallSound ports.ids store call)
    (h : advanceCall ports answers store call = (next, store')) :
    next.commands ⊆ call.commands ∧ publication call ⊆ call.commands := by
  have hnone : next.commands = [] → next.commands ⊆ call.commands := by
    intro hnil
    rw [hnil]
    exact List.nil_subset _
  cases call with
  | dispatching owner phase =>
      refine ⟨hnone ?_, List.nil_subset _⟩
      rcases advanceDispatch_cases h (hcall.dispatch _ rfl).target with ⟨result, rfl, -⟩ |
        ⟨attempt, delivery, -, rfl, -⟩ | ⟨attempt, -, rfl, -⟩
      · exact afterDispatch_commands owner result
      · rfl
      · rfl
  | reading task =>
      cases h
      refine ⟨hnone ?_, List.nil_subset _⟩
      unfold processEvent
      split
      · rfl
      · split
        · rfl
        · split <;> rfl
  | claiming task => exact ⟨hnone (startDispatch_commands h), List.nil_subset _⟩
  | deadLettering task insideTry =>
      refine ⟨hnone ?_, List.nil_subset _⟩
      dsimp only [advanceCall, deadLetterCall] at h
      split at h
      · cases h
        rfl
      · split at h <;> cases h
        · exact afterDispatchError_commands _ _
        · rfl
  | publishing task =>
      cases h
      exact ⟨hnone (nextTask_commands task.rest), List.nil_subset _⟩
  | failing task =>
      cases h
      exact ⟨hnone (nextTask_commands task.rest), List.nil_subset _⟩
  | publishingCommands commands =>
      cases commands with
      | nil =>
          cases h
          exact ⟨hnone rfl, List.nil_subset _⟩
      | cons command rest =>
          cases h
          exact ⟨List.subset_cons_self _ _, List.cons_subset_cons _ (List.nil_subset _)⟩
  | finished =>
      cases h
      exact ⟨hnone rfl, List.nil_subset _⟩

/-- The commands of a state after a step are earlier ones or belong to stored actions. -/
structure NewCommands (state state' : GatewayState) : Prop where
  published : ∀ command ∈ state'.published, command ∈ state.published ∨
    (∃ call ∈ state.calls, command ∈ call.commands) ∨ FromAction state'.store command
  commands : ∀ call ∈ state'.calls, ∀ command ∈ call.commands,
    (∃ call ∈ state.calls, command ∈ call.commands) ∨ FromAction state'.store command

theorem NewCommands.of_store (store' : ImStore) : NewCommands state { state with store := store' } where
  published _ := Or.inl
  commands call hcall _ hcommand := Or.inl ⟨call, hcall, hcommand⟩

theorem NewCommands.of_call {store' : ImStore} {call : Call}
    (h : ∀ command ∈ call.commands, FromAction store' command) :
    NewCommands state { state with store := store', calls := state.calls ++ [call] } where
  published _ := Or.inl
  commands call' hcall command hcommand := by
    rcases List.mem_append.1 hcall with hold | hnew
    · exact Or.inl ⟨call', hold, hcommand⟩
    · rw [List.mem_singleton.1 hnew] at hcommand
      exact Or.inr (h command hcommand)

theorem NewCommands.of_idle_call {store' : ImStore} {call : Call} (h : call.commands = []) :
    NewCommands state { state with store := store', calls := state.calls ++ [call] } := by
  refine NewCommands.of_call ?_
  rw [h]
  exact fun _ hmem => absurd hmem List.not_mem_nil

theorem NewCommands.triggered
    {result : Except ImGatewayError ((ReminderActionCommand × Bool) × ImStore)}
    (h : ∀ command shouldDispatch store', result = .ok ((command, shouldDispatch), store') →
      FromAction store' command) : NewCommands state (state.triggered result) := by
  unfold GatewayState.triggered
  split
  · exact NewCommands.of_store state.store
  · split
    · refine NewCommands.of_call fun command hcommand => ?_
      rw [List.mem_singleton.1 hcommand]
      exact h _ _ _ rfl
    · exact NewCommands.of_store _

theorem NewCommands.committed {α : Type} (result : Except ImGatewayError (α × ImStore)) :
    NewCommands state (state.committed result) := by
  unfold GatewayState.committed
  split
  · exact NewCommands.of_store state.store
  · exact NewCommands.of_store _

theorem triggerPrepared_fromAction {ids : IdGenerator} {now : IsoDateTime}
    {command : TriggerPreparedActionCommand} {answer : ReminderActionCommand} {shouldDispatch : Bool}
    (h : triggerPrepared ids now command store = .ok ((answer, shouldDispatch), store')) :
    FromAction store' answer := by
  rcases triggerPrepared_cases h with ⟨rfl, -, action, hget, rfl⟩ | ⟨action, hcreates, rfl⟩
  · exact ⟨action, (KeyTable.get?_eq_some.1 hget).1, rfl⟩
  · refine ⟨action, ?_, rfl⟩
    rw [hcreates.actions]
    exact KeyTable.mem_set.2 (Or.inl rfl)

theorem step_newCommands (hsound : Sound ports state) (event : GatewayEvent) :
    NewCommands state (step ports state event) := by
  have hstored : ∀ {action : ImAction} {command : ReminderActionCommand},
      action ∈ state.store.actions.rows → command = toCommand action →
        FromAction (step ports state event).store command := by
    rintro action command hmem rfl
    have hfrom : FromAction state.store (toCommand action) := ⟨action, hmem, rfl⟩
    exact hfrom.effect (step_actionEffect ports state event)
  cases event with
  | directory | expireDue => exact .of_store _
  | submit | retryDeadLetter | markDeadLetter | recordDeviceActionStatus => exact .committed _
  | recordReceipt now receipt =>
      dsimp only [step]
      split
      · exact .of_store state.store
      · exact .of_store _
  | markProcessing now actionId deviceId reminderTriggerId =>
      dsimp only [step]
      split
      · exact .of_store state.store
      · exact .of_store _
  | dispatch claimTime now deliveryId =>
      generalize hstart : startDispatch ports none claimTime now deliveryId state.store = result
      dsimp only [step]
      rw [hstart]
      exact .of_idle_call (startDispatch_commands hstart)
  | runOnce now leaseUntil limit => exact .of_idle_call (nextTask_commands _)
  | execute now token action params actualIdentityId =>
      refine .triggered fun command shouldDispatch store' h => ?_
      obtain ⟨claims, -, htrigger⟩ := executeAction_ok h
      exact triggerPrepared_fromAction htrigger
  | triggerPrepared now command =>
      exact .triggered fun _ _ _ => triggerPrepared_fromAction
  | recordResult now commandId deviceId result =>
      dsimp only [step]
      split
      · exact .of_store state.store
      · rename_i action _ hresult
        split
        · refine .of_call fun command hcommand => ?_
          rw [List.mem_singleton.1 hcommand]
          exact ⟨action, (recordResult_cases hresult).2.1, rfl⟩
        · exact .of_store _
  | recoverStaleProcessing now staleBefore =>
      refine .of_call fun command hcommand => ?_
      obtain ⟨action, hmem, hanswer⟩ := recoverStaleProcessing_commands hcommand
      exact hstored hmem hanswer
  | replayPending now deviceId reminderTriggerId =>
      refine ⟨fun command hcommand => ?_, fun call hcall _ hcommand => Or.inl ⟨call, hcall, hcommand⟩⟩
      rcases List.mem_append.1 hcommand with hold | hnew
      · exact Or.inl hold
      · obtain ⟨action, hmem, hanswer⟩ := replayPending_commands hnew
        exact Or.inr (Or.inr (hstored hmem hanswer))
  | advance index answers =>
      dsimp only [step]
      split
      · exact .of_store state.store
      · rename_i call hget
        have hmem := List.mem_of_getElem? hget
        obtain ⟨hnext, hpublication⟩ := advanceCall_commands (hsound.calls call hmem)
          (rfl : advanceCall ports answers state.store call = _)
        refine ⟨fun command hcommand => ?_, fun call' hcall command hcommand => ?_⟩
        · rcases List.mem_append.1 hcommand with hold | hnew
          · exact Or.inl hold
          · exact Or.inr (Or.inl ⟨call, hmem, hpublication hnew⟩)
        · rcases List.mem_or_eq_of_mem_set hcall with hold | rfl
          · exact Or.inl ⟨call', hold, hcommand⟩
          · exact Or.inl ⟨call, hmem, hnext hcommand⟩
  | crash index =>
      refine ⟨fun _ => Or.inl, fun call hcall command hcommand => ?_⟩
      rcases List.mem_or_eq_of_mem_set hcall with hold | rfl
      · exact Or.inl ⟨call, hold, hcommand⟩
      · exact absurd hcommand List.not_mem_nil

theorem step_commandsSound (h : CommandsSound ports state) (event : GatewayEvent) :
    CommandsSound ports (step ports state event) := by
  have heffect := step_actionEffect ports state event
  have hsteps := step_steps h.toSound event
  have hnew := step_newCommands h.toSound event
  refine ⟨hsteps.sound h.toSound, fun action' hmem => ?_, fun command hcommand => ?_, ?_⟩
  · rcases heffect.origin hmem with ⟨action, haction, hsame⟩ | ⟨command, hcreates⟩
    · exact (h.offered action haction).step hsame h.toSound event
    · exact hcreates.offered.step (SameAction.refl action') h.toSound event
  · rcases hnew.published command hcommand with hold | ⟨call, hcall, hold⟩ | hfrom
    · exact (h.published command hold).effect heffect
    · exact (h.commands call hcall command hold).effect heffect
    · exact hfrom
  · intro call hcall command hcommand
    rcases hnew.commands call hcall command hcommand with ⟨old, hold, hmem⟩ | hfrom
    · exact (h.commands old hold command hmem).effect heffect
    · exact hfrom

theorem commandsSound_run (ports : Ports) (events : List GatewayEvent) :
    Run.AllStates (step ports) (CommandsSound ports) {} events := by
  refine Run.allStates_of_invariant (fun _ event h => step_commandsSound h event) ?_
  exact ⟨Sound.init ports, fun _ h => absurd h List.not_mem_nil, fun _ h => absurd h List.not_mem_nil,
    fun _ h => absurd h List.not_mem_nil⟩

/-- A token creates at most one action, its executions answer with one command, and every published
command is offered by the notification of its delivery. -/
theorem one_action_per_token (ports : Ports) (events : List GatewayEvent) :
    (∀ (token : JsString) (x y : Execution events token),
      (x.Creates ports → y.Creates ports → x.done = y.done) ∧
      ∀ command command', x.Answers ports command → y.Answers ports command' →
        command = command') ∧
    Run.AllStates (step ports)
      (fun state => ∀ command ∈ state.published, OfferedCommand state.store command) {} events := by
  refine ⟨fun token x y => ⟨Execution.Creates.unique, fun _ _ => Execution.Answers.unique⟩, ?_⟩
  intro done hdone command hcommand
  have hsound := commandsSound_run ports events done hdone
  obtain ⟨action, hmem, rfl⟩ := hsound.published command hcommand
  exact (hsound.offered action hmem).command hmem

end VoiceLife.Gateway
