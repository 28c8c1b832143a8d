import VoiceLife.Gateway.ActionEffects

/-! # Terminal actions

When an action in an end state stays as it is. Only the internal dispatch, which writes `dispatched` over
whatever it finds, reopens such an action: a report of the device that comes between the creation of the
action and its dispatch is lost this way.
-/

namespace VoiceLife.Gateway

variable {ports : Ports} {store store' store'' : ImStore}

/-- Actions in an end state keep their status and their result. -/
def KeepsTerminal (store store' : ImStore) : Prop :=
  ∀ action ∈ store.actions.rows, action.status.isTerminal → ∃ action' ∈ store'.actions.rows,
    action'.id = action.id ∧ action'.status = action.status ∧ action'.result = action.result

theorem KeepsTerminal.of_mem (h : ∀ action ∈ store.actions.rows, action.status.isTerminal →
    action ∈ store'.actions.rows) : KeepsTerminal store store' :=
  fun action hmem hterminal => ⟨action, h action hmem hterminal, rfl, rfl, rfl⟩

theorem KeepsTerminal.refl (store : ImStore) : KeepsTerminal store store :=
  KeepsTerminal.of_mem fun _ hmem _ => hmem

theorem KeepsTerminal.trans (h : KeepsTerminal store store') (h' : KeepsTerminal store' store'') :
    KeepsTerminal store store'' := by
  intro action hmem hterminal
  obtain ⟨action', hmem', hid, hstatus, hresult⟩ := h action hmem hterminal
  obtain ⟨action'', hmem'', hid', hstatus', hresult'⟩ := h' action' hmem' (hstatus ▸ hterminal)
  exact ⟨action'', hmem'', hid'.trans hid, hstatus'.trans hstatus, hresult'.trans hresult⟩

theorem ChangesOpen.keepsTerminal (h : ChangesOpen store store') : KeepsTerminal store store' := by
  refine KeepsTerminal.of_mem fun action hmem hterminal => ?_
  rcases h.kept action hmem with hkept | ⟨hopen, -⟩
  · exact hkept
  · rw [hopen] at hterminal
    cases hterminal

/-- A step dispatches the command of an action in an end state. -/
def dispatchesTerminal (state : GatewayState) (event : GatewayEvent) : Bool :=
  match dispatchesCommand state event with
  | none => false
  | some command =>
    match state.store.actions.get? command.commandId with
    | none => false
    | some action => action.status.isTerminal

/-- Every other step keeps end states. -/
theorem step_keepsTerminal {state : GatewayState} {event : GatewayEvent}
    (h : dispatchesTerminal state event = false) :
    KeepsTerminal state.store (step ports state event).store := by
  cases step_actionEffect ports state event with
  | same hsame =>
      refine KeepsTerminal.of_mem fun action hmem _ => ?_
      rw [hsame.actions]
      exact hmem
  | changes hchanges => exact hchanges.keepsTerminal
  | @creates command action hcreates =>
      refine KeepsTerminal.of_mem fun found hmem _ => ?_
      rw [hcreates.actions, KeyTable.rows_set_of_fresh hcreates.absent]
      exact List.mem_append_left _ hmem
  | @reports middle fact hfact hchanges =>
      have hkeeps := hchanges.keepsTerminal
      rw [hfact.facts] at hkeeps
      exact hkeeps
  | @dispatches now command hcommand hstore =>
      rw [hstore]
      refine (dispatchTransaction_changesOpen fun action hget => ?_).keepsTerminal
      simpa only [dispatchesTerminal, hcommand, hget] using h

theorem step_of_dispatchesCommand (ports : Ports) {state : GatewayState} {event : GatewayEvent}
    {command : ReminderActionCommand} (h : dispatchesCommand state event = some command) :
    ∃ now, (step ports state event).store = dispatchTransaction now command state.store := by
  unfold dispatchesCommand at h
  split at h
  · rename_i index answers
    split at h
    · rename_i hget
      cases h
      refine ⟨answers.now, ?_⟩
      simp only [step, hget, advanceCall]
    · cases h
  · cases h

/-- The dispatch of an action in an end state reopens it. -/
theorem dispatchTransaction_reopens {now : IsoDateTime} {command : ReminderActionCommand}
    {action : ImAction} (hget : store.actions.get? command.commandId = some action)
    (hterminal : action.status.isTerminal) :
    ¬ KeepsTerminal store (dispatchTransaction now command store) := by
  intro hkeeps
  have hstatus : action.status ≠ .dispatched := by
    intro hdispatched
    rw [hdispatched] at hterminal
    cases hterminal
  obtain ⟨action', hmem, hid, hsame, -⟩ :=
    hkeeps action (KeyTable.get?_eq_some.1 hget).1 hterminal
  unfold dispatchTransaction at hmem
  rw [hget] at hmem
  dsimp only at hmem
  rw [if_neg hstatus] at hmem
  rcases KeyTable.mem_set.1 hmem with rfl | ⟨-, hne⟩
  · exact hstatus hsame.symm
  · exact hne hid

theorem dispatchesTerminal_loses (ports : Ports) {state : GatewayState} {event : GatewayEvent}
    (h : dispatchesTerminal state event = true) :
    ¬ KeepsTerminal state.store (step ports state event).store := by
  unfold dispatchesTerminal at h
  split at h
  · cases h
  · rename_i command hcommand
    split at h
    · cases h
    · rename_i action hget
      obtain ⟨now, hstore⟩ := step_of_dispatchesCommand ports hcommand
      rw [hstore]
      exact dispatchTransaction_reopens hget h

/-- Actions in an end state keep it, with their result, throughout a run exactly if no step dispatches
the command of an action in an end state. -/
theorem terminal_actions_kept_iff (ports : Ports) (events : List GatewayEvent) :
    (∀ done more, done ++ more <+: events → KeepsTerminal (Run.run (step ports) {} done).store
      (Run.run (step ports) {} (done ++ more)).store) ↔
    Run.AllSteps (step ports) (fun state event => dispatchesTerminal state event = false) {}
      events := by
  constructor
  · intro h
    rw [Run.allSteps_iff_forall_prefix]
    intro done event hpre
    rw [← Bool.not_eq_true]
    intro hdispatches
    refine dispatchesTerminal_loses ports hdispatches ?_
    have hkept := h done [event] hpre
    rw [Run.run_append] at hkept
    exact hkept
  · intro h done more hpre
    exact Run.rel_of_allSteps (fun before after => KeepsTerminal before.store after.store)
      (fun state => KeepsTerminal.refl state.store) (fun _ _ _ => KeepsTerminal.trans)
      (fun state event => step_keepsTerminal) h done more hpre

/-! ## A report between creation and dispatch -/

/-- A generator that counts in unary. -/
def unaryIds : IdGenerator where
  nth n := List.replicate n 65
  injective m n h := by simpa using congrArg List.length h

/-- Ports around the unary generator. -/
def samplePorts : Ports where
  ids := unaryIds
  addMinutes time _ := time
  verify _ := none
  fingerprint token := token

/-- The time at which everything happens. -/
def sampleTime : IsoDateTime :=
  isoTime "2026-01-01T08:00:00Z" (by decide)

/-- The end of the action window. -/
def sampleExpiry : IsoDateTime :=
  isoTime "2026-01-01T09:00:00Z" (by decide)

/-- A strong reminder that can be acknowledged. -/
def strongReminder : Json where
  value := .object [(js "reminderType", .string (js "strong")),
    (js "reminderTriggerId", .string (js "trigger")),
    (js "recipient", .object [(js "deviceId", .string (js "device"))]),
    (js "actions", .array [.object [(js "type", .string (js "acknowledge")),
      (js "label", .string (js "OK"))]])]
  wellFormed := by
    simp [JsonValue.WellFormed, JsonValue.WellFormedFields, JsonValue.WellFormedItems, js]

/-- One account, identity and binding. -/
def sampleDirectory : GatewayEvent :=
  .directory (KeyTable.empty.set ⟨js "account", .active⟩)
    (KeyTable.empty.set ⟨js "identity", js "account", .active⟩)
    (KeyTable.empty.set ⟨js "binding", js "user", none, js "identity", 0, .active⟩)

/-- The submission of the strong reminder. -/
def sampleSubmission : GatewayEvent :=
  .submit (fun _ => .ok ⟨true, true, true, [.textWithActionUi]⟩) sampleTime
    { businessEventId := js "event"
      correlationId := js "correlation"
      userId := some (js "user")
      deviceId := none
      kind := .reminderDue
      payload := strongReminder
      actionStream := some ⟨js "trigger", sampleExpiry⟩ }

/-- A channel that accepts every message. -/
def acceptingAnswers : Answers where
  claimTime := sampleTime
  now := sampleTime
  renderedPayload := some ⟨.null, trivial⟩
  acceptance := { accepted := true, platformMessageId := some (js "message") }

/-- The acknowledgement of the reminder in the channel. -/
def sampleCommand : TriggerPreparedActionCommand where
  claims := ⟨js "action", unaryIds.nth 0, sampleExpiry⟩
  actionType := .acknowledge
  actionKeyHash := js "hash"
  actualIdentityId := none
  actionParams := none

/-- The acknowledgement of the reminder on the device. -/
def sampleReport : ReminderActionStatusReport where
  eventId := js "report"
  correlationId := js "correlation"
  deviceId := js "device"
  reminderTriggerId := js "trigger"
  operationId := js "operation"
  action := .acknowledge
  status := .succeeded
  occurredAt := sampleTime
  nextTriggerAt := none
  errorCode := none
  details := none

/-- The device settles the action before its command is dispatched. -/
def acknowledgedRun : List GatewayEvent :=
  [sampleDirectory, sampleSubmission, .dispatch sampleTime sampleTime (unaryIds.nth 0),
    .advance 0 acceptingAnswers, .advance 0 acceptingAnswers, .advance 0 acceptingAnswers,
    .triggerPrepared sampleTime sampleCommand, .recordDeviceActionStatus sampleTime sampleReport]

/-- The actions of a state, with their status. -/
def actionStatuses (state : GatewayState) : List (ActionId × ActionStatus) :=
  state.store.actions.rows.map fun action => (action.id, action.status)

/-- The dispatch of the command turns the succeeded action back into a dispatched one. -/
theorem dispatch_reopens_acknowledged_action : ¬ ∀ (ports : Ports) (events done more : List GatewayEvent),
    done ++ more <+: events → KeepsTerminal (Run.run (step ports) {} done).store
      (Run.run (step ports) {} (done ++ more)).store := by
  intro h
  have hkeeps := h samplePorts (acknowledgedRun ++ [GatewayEvent.advance 1 acceptingAnswers]) acknowledgedRun
    [GatewayEvent.advance 1 acceptingAnswers] List.prefix_rfl
  have hbefore : actionStatuses (Run.run (step samplePorts) {} acknowledgedRun) =
      [(js "action", .succeeded)] := by
    decide +kernel
  have hafter : actionStatuses (Run.run (step samplePorts) {}
      (acknowledgedRun ++ [GatewayEvent.advance 1 acceptingAnswers])) = [(js "action", .dispatched)] := by
    decide +kernel
  obtain ⟨action, hmem, heq⟩ : ∃ action ∈ (Run.run (step samplePorts) {} acknowledgedRun).store.actions.rows,
      (action.id, action.status) = (js "action", ActionStatus.succeeded) := by
    refine List.mem_map.1 ?_
    rw [actionStatuses] at hbefore
    rw [hbefore]
    exact List.mem_singleton_self _
  obtain ⟨-, hstatus⟩ := Prod.mk.inj heq
  obtain ⟨action', hmem', -, hstatus', -⟩ := hkeeps action hmem (by rw [hstatus]; rfl)
  have hlisted : (action'.id, action'.status) ∈ [(js "action", ActionStatus.dispatched)] := by
    rw [← hafter]
    exact List.mem_map_of_mem hmem'
  have hdispatched := congrArg Prod.snd (List.mem_singleton.1 hlisted)
  rw [show action'.status = action.status from hstatus', hstatus] at hdispatched
  cases hdispatched

end VoiceLife.Gateway
