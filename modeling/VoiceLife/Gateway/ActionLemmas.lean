import VoiceLife.Gateway.Machine

/-! # What the transactions of actions can do

For every transaction, one lemma with all that it can do: which rows of the action table it writes, and
that it leaves the delivery side of the store alone.
-/

namespace VoiceLife.Gateway

/-- The delivery side of a store is untouched. -/
structure KeepsDeliveries (store store' : ImStore) : Prop where
  channelAccounts : store'.channelAccounts = store.channelAccounts
  identities : store'.identities = store.identities
  bindings : store'.bindings = store.bindings
  intentSubmissions : store'.intentSubmissions = store.intentSubmissions
  deliveries : store'.deliveries = store.deliveries
  attempts : store'.attempts = store.attempts
  receipts : store'.receipts = store.receipts
  outbox : store'.outbox = store.outbox
  idsUsed : store.idsUsed ≤ store'.idsUsed

theorem KeepsDeliveries.refl (store : ImStore) : KeepsDeliveries store store :=
  ⟨rfl, rfl, rfl, rfl, rfl, rfl, rfl, rfl, le_rfl⟩

/-- The same action at another point of its life. -/
def SameAction (action action' : ImAction) : Prop :=
  ∃ status dispatchedAt result updatedAt,
    action' = { action with status, dispatchedAt, result, updatedAt }

theorem SameAction.refl (action : ImAction) : SameAction action action :=
  ⟨_, _, _, _, rfl⟩

theorem SameAction.trans {action action' action'' : ImAction} (h : SameAction action action')
    (h' : SameAction action' action'') : SameAction action action'' := by
  obtain ⟨_, _, _, _, rfl⟩ := h
  obtain ⟨_, _, _, _, rfl⟩ := h'
  exact ⟨_, _, _, _, rfl⟩

theorem SameAction.id_eq {action action' : ImAction} (h : SameAction action action') :
    action'.id = action.id := by
  obtain ⟨_, _, _, _, rfl⟩ := h
  rfl

theorem SameAction.toCommand_eq {action action' : ImAction} (h : SameAction action action') :
    toCommand action' = toCommand action := by
  obtain ⟨_, _, _, _, rfl⟩ := h
  rfl

/-- Open actions go on; no action appears or disappears. -/
structure ChangesOpen (store store' : ImStore) : Prop where
  keepsDeliveries : KeepsDeliveries store store'
  facts : store'.reminderActionFacts = store.reminderActionFacts
  kept : ∀ action ∈ store.actions.rows, action ∈ store'.actions.rows ∨
    (action.status.isTerminal = false ∧ ∃ action' ∈ store'.actions.rows, SameAction action action')
  origin : ∀ action' ∈ store'.actions.rows, ∃ action ∈ store.actions.rows, SameAction action action'

theorem ChangesOpen.refl (store : ImStore) : ChangesOpen store store where
  keepsDeliveries := KeepsDeliveries.refl store
  facts := rfl
  kept := fun _ h => Or.inl h
  origin := fun action h => ⟨action, h, SameAction.refl action⟩

/-- Writing later states of open actions. -/
theorem ChangesOpen.setAll {store : ImStore} (rows : List ImAction)
    (hnodup : (rows.map key).Nodup) (hopen : ∀ row ∈ rows, ∃ action ∈ store.actions.rows,
      SameAction action row ∧ action.status.isTerminal = false) :
    ChangesOpen store { store with actions := store.actions.setAll rows } where
  keepsDeliveries := ⟨rfl, rfl, rfl, rfl, rfl, rfl, rfl, rfl, le_rfl⟩
  facts := rfl
  kept := by
    intro action haction
    by_cases hwritten : ∃ row ∈ rows, key action = key row
    · obtain ⟨row, hrow, hkey⟩ := hwritten
      obtain ⟨found, hfound, hsame, hterminal⟩ := hopen row hrow
      have heq : action = found :=
        store.actions.eq_of_key_eq haction hfound (hkey.trans hsame.id_eq)
      rw [← heq] at hsame hterminal
      exact Or.inr ⟨hterminal, row, (KeyTable.mem_setAll hnodup).2 (Or.inl hrow), hsame⟩
    · refine Or.inl ((KeyTable.mem_setAll hnodup).2 (Or.inr ⟨haction, fun row hrow hkey => ?_⟩))
      exact hwritten ⟨row, hrow, hkey⟩
  origin := by
    intro action' haction'
    rcases (KeyTable.mem_setAll hnodup).1 haction' with hrow | ⟨hmem, -⟩
    · obtain ⟨action, haction, hsame, -⟩ := hopen action' hrow
      exact ⟨action, haction, hsame⟩
    · exact ⟨action', hmem, SameAction.refl action'⟩

/-- Writing changed copies of selected open actions. -/
theorem ChangesOpen.setAll_map {store : ImStore} {p : ImAction → Bool} {change : ImAction → ImAction}
    (hsame : ∀ action, SameAction action (change action))
    (hopen : ∀ action, p action = true → action.status.isTerminal = false) :
    ChangesOpen store
      { store with actions := store.actions.setAll ((store.actions.rows.filter p).map change) } := by
  refine ChangesOpen.setAll _ ?_ ?_
  · have hkeys : ((store.actions.rows.filter p).map change).map key =
        (store.actions.rows.filter p).map key := by
      rw [List.map_map]
      exact List.map_congr_left fun action _ => (hsame action).id_eq
    rw [hkeys]
    exact (List.filter_sublist.map key).nodup store.actions.nodup
  · intro row hrow
    obtain ⟨action, haction, rfl⟩ := List.mem_map.1 hrow
    obtain ⟨hmem, hp⟩ := List.mem_filter.1 haction
    exact ⟨action, hmem, hsame action, hopen action hp⟩

/-- Writing one open action. -/
theorem ChangesOpen.saveAction {store : ImStore} {actionId : ActionId} {action action' : ImAction}
    (hget : store.actions.get? actionId = some action) (hsame : SameAction action action')
    (hopen : action.status.isTerminal = false) : ChangesOpen store (store.saveAction action') := by
  refine ChangesOpen.setAll [action'] (List.nodup_singleton _) fun row hrow => ?_
  rw [List.mem_singleton.1 hrow]
  exact ⟨action, (KeyTable.get?_eq_some.1 hget).1, hsame, hopen⟩

theorem isTerminal_eq_false_of_isOpen {status : ActionStatus}
    (h : ImStore.isOpenStatus status = true) : status.isTerminal = false := by
  cases status <;> first | rfl | cases h

/-! ## Results, expiry, processing and replay -/

variable {now : IsoDateTime} {store store' : ImStore}

theorem recordResult_cases {commandId : ActionId} {deviceId : DeviceId}
    {result : ReminderActionResult} {action : ImAction}
    (h : recordResult now commandId deviceId result store = .ok (action, store')) :
    ChangesOpen store store' ∧ action ∈ store'.actions.rows ∧ action.id = commandId := by
  unfold recordResult at h
  split at h
  · cases h
  · rename_i found hget
    obtain ⟨hmem, hid⟩ := KeyTable.get?_eq_some.1 hget
    split at h
    · cases h
    split at h
    · cases h
    split at h
    · split at h <;> cases h
      exact ⟨ChangesOpen.refl store, hmem, hid⟩
    · rename_i hterminal
      cases h
      refine ⟨ChangesOpen.saveAction hget ⟨_, _, _, _, rfl⟩ (Bool.not_eq_true _ ▸ hterminal), ?_, hid⟩
      exact KeyTable.mem_set.2 (Or.inl rfl)

theorem expireDue_changesOpen (now : IsoDateTime) (store : ImStore) :
    ChangesOpen store (expireDue now store) := by
  refine ChangesOpen.setAll_map (fun action => ⟨_, _, _, _, rfl⟩) fun action h => ?_
  exact isTerminal_eq_false_of_isOpen (of_decide_eq_true h).2

theorem recoverStaleProcessing_changesOpen (now staleBefore : IsoDateTime) (store : ImStore) :
    ChangesOpen store (recoverStaleProcessing now staleBefore store).2 := by
  refine ChangesOpen.setAll_map (fun action => ⟨_, _, _, _, rfl⟩) fun action h => ?_
  rw [(of_decide_eq_true h).1]
  rfl

/-- A recovered command belongs to a stored action. -/
theorem recoverStaleProcessing_commands {now staleBefore : IsoDateTime} {store : ImStore}
    {command : ReminderActionCommand}
    (h : command ∈ (recoverStaleProcessing now staleBefore store).1) :
    ∃ action ∈ store.actions.rows, command = toCommand action := by
  obtain ⟨recovered, hrecovered, rfl⟩ := List.mem_map.1 h
  obtain ⟨action, haction, rfl⟩ := List.mem_map.1 hrecovered
  exact ⟨action, List.mem_of_mem_filter haction, rfl⟩

theorem markProcessing_changesOpen {actionId : ActionId} {deviceId : DeviceId}
    {reminderTriggerId : ReminderTriggerId}
    (h : markProcessing now actionId deviceId reminderTriggerId store = .ok store') :
    ChangesOpen store store' := by
  unfold markProcessing at h
  dsimp only at h
  split at h
  · cases h
  · rename_i action hget
    split at h
    · cases h
    split at h
    · cases h
      exact ChangesOpen.refl store
    · rename_i hstatus
      cases h
      have hopen : action.status.isTerminal = false := by
        simpa using fun hterminal => hstatus (Or.inr hterminal)
      exact ChangesOpen.saveAction hget ⟨_, _, _, _, rfl⟩ hopen

theorem replayPending_changesOpen (now : IsoDateTime) (deviceId : DeviceId)
    (reminderTriggerId : ReminderTriggerId) (store : ImStore) :
    ChangesOpen store (replayPending now deviceId reminderTriggerId store).2 := by
  have hreplay : (replayPending now deviceId reminderTriggerId store).2 = { store with
      actions := store.actions.setAll ((store.actions.rows.filter fun action =>
        action.status = .pending && decide (action.deviceId = deviceId ∧
          action.reminderTriggerId = reminderTriggerId ∧ !action.expiresAt.textLe now ∧
            ImStore.isOpenStatus action.status)).map fun action =>
        { action with status := .dispatched, dispatchedAt := some now, updatedAt := now }) } := by
    rw [← List.filter_filter]
    rfl
  rw [hreplay]
  refine ChangesOpen.setAll_map (fun action => ⟨_, _, _, _, rfl⟩) fun action h => ?_
  rw [of_decide_eq_true (Bool.and_eq_true_iff.1 h).1]
  rfl

/-- A replayed command belongs to a stored action. -/
theorem replayPending_commands {deviceId : DeviceId}
    {reminderTriggerId : ReminderTriggerId} {store : ImStore} {command : ReminderActionCommand}
    (h : command ∈ (replayPending now deviceId reminderTriggerId store).1) :
    ∃ action ∈ store.actions.rows, command = toCommand action := by
  obtain ⟨action, haction, rfl⟩ := List.mem_map.1 h
  exact ⟨action, List.mem_of_mem_filter haction, rfl⟩

/-- The internal dispatch is harmless on an action that is not terminal. -/
theorem dispatchTransaction_changesOpen {command : ReminderActionCommand}
    {store : ImStore} (hopen : ∀ action, store.actions.get? command.commandId = some action →
      action.status.isTerminal = false) :
    ChangesOpen store (dispatchTransaction now command store) := by
  unfold dispatchTransaction
  split
  · exact ChangesOpen.refl store
  · rename_i action hget
    split
    · exact ChangesOpen.refl store
    · exact ChangesOpen.saveAction hget ⟨_, _, _, _, rfl⟩ (hopen action hget)

theorem dispatchTransaction_keepsDeliveries (now : IsoDateTime) (command : ReminderActionCommand)
    (store : ImStore) : KeepsDeliveries store (dispatchTransaction now command store) := by
  unfold dispatchTransaction
  split
  · exact KeepsDeliveries.refl store
  · split
    · exact KeepsDeliveries.refl store
    · exact ⟨rfl, rfl, rfl, rfl, rfl, rfl, rfl, rfl, le_rfl⟩

/-! ## New actions -/

/-- The notification of an action's delivery offers it. -/
def Offered (store : ImStore) (action : ImAction) : Prop :=
  ∃ delivery metadata, store.deliveries.get? action.deliveryId = some delivery ∧
    readStrongReminderMetadata delivery.semanticPayload.value = some metadata ∧
    action.deviceId = metadata.deviceId ∧ action.reminderTriggerId = metadata.reminderTriggerId ∧
    hasApprovedActionOption metadata.options action.actionType action.actionParams = true

/-- A command creates an action that its delivery offers. -/
structure CreatesAction (store store' : ImStore) (command : TriggerPreparedActionCommand)
    (action : ImAction) : Prop where
  keepsDeliveries : KeepsDeliveries store store'
  facts : store'.reminderActionFacts = store.reminderActionFacts
  id : action.id = command.claims.actionId
  actionKeyHash : action.actionKeyHash = command.actionKeyHash
  absent : store.actions.get? action.id = none
  unused : store.findByActionKeyHash action.actionKeyHash = none
  actions : store'.actions = store.actions.set action
  offered : Offered store action

variable {command : TriggerPreparedActionCommand}

/-- The target of a command is its stored delivery, with a notification. -/
theorem actionTarget_eq_some {store : ImStore} {delivery : Delivery} {binding : ImBinding}
    {metadata : StrongReminderMetadata}
    (h : actionTarget store command now = some (delivery, binding, metadata)) :
    store.deliveries.get? command.claims.deliveryId = some delivery ∧
      readStrongReminderMetadata delivery.semanticPayload.value = some metadata := by
  unfold actionTarget at h
  split at h
  · cases h
  · rename_i found hfound
    split at h
    · rename_i hread
      split at h
      · cases h
      · split at h <;> cases h
        exact ⟨hfound, hread⟩
    · cases h

/-- A token without an action creates one on its delivery. -/
theorem triggerTransaction_new {ids : IdGenerator} {actionParams : Option Json}
    {answer : ReminderActionCommand} {shouldDispatch : Bool}
    (h : triggerTransaction ids now command actionParams store = .ok ((answer, shouldDispatch), store'))
    (habsent : store.actions.get? command.claims.actionId = none) :
    ∃ delivery binding metadata settled,
      actionTarget store command now = some (delivery, binding, metadata) ∧
        store.findByActionKeyHash command.actionKeyHash = none ∧
        hasApprovedActionOption metadata.options command.actionType actionParams = true ∧
        answer = toCommand (newAction (ids.nth store.idsUsed) now command actionParams delivery binding
          metadata settled) ∧
        store' = (store.nextId ids).2.saveAction (newAction (ids.nth store.idsUsed) now command
          actionParams delivery binding metadata settled) := by
  unfold triggerTransaction at h
  split at h
  · cases h
  · rename_i delivery binding metadata htarget
    rw [habsent] at h
    dsimp only at h
    split at h
    · rename_i duplicate hduplicate
      split at h
      · cases h
      · rename_i hid
        have hmem := List.mem_of_find?_eq_some hduplicate
        exact absurd (not_not.1 hid) (KeyTable.get?_eq_none.1 habsent duplicate hmem)
    · rename_i hunused
      split at h
      · cases h
      · rename_i happroved
        generalize settlingReport _ = settled at h
        have hcreate : (store.nextId ids).2.createActionIfAbsent (newAction (store.nextId ids).1 now
            command actionParams delivery binding metadata settled) =
          ((newAction (store.nextId ids).1 now command actionParams delivery binding metadata
            settled, true), (store.nextId ids).2.saveAction (newAction (store.nextId ids).1 now
              command actionParams delivery binding metadata settled)) := by
          have hget : (store.nextId ids).2.actions.get? command.claims.actionId = none := habsent
          have hfind : (store.nextId ids).2.findByActionKeyHash command.actionKeyHash = none :=
            hunused
          simp only [ImStore.createActionIfAbsent, newAction, hget, hfind]
        rw [hcreate] at h
        cases h
        exact ⟨delivery, binding, metadata, settled, htarget, hunused, by simpa using happroved, rfl, rfl⟩

/-- A command finds its action, or creates it. -/
theorem triggerTransaction_cases {ids : IdGenerator} {actionParams : Option Json}
    {answer : ReminderActionCommand} {shouldDispatch : Bool}
    (h : triggerTransaction ids now command actionParams store =
      .ok ((answer, shouldDispatch), store')) :
    (store' = store ∧ shouldDispatch = false ∧ ∃ action,
      store.actions.get? command.claims.actionId = some action ∧
        action.actionType = command.actionType ∧
        sameActionParams action.actionParams actionParams = true ∧ answer = toCommand action) ∨
      ∃ action, CreatesAction store store' command action ∧ action.actionType = command.actionType ∧
        action.actionParams = actionParams ∧ answer = toCommand action := by
  by_cases habsent : store.actions.get? command.claims.actionId = none
  · obtain ⟨delivery, binding, metadata, settled, htarget, hunused, happroved, rfl, rfl⟩ :=
      triggerTransaction_new h habsent
    obtain ⟨hdelivery, hread⟩ := actionTarget_eq_some htarget
    refine Or.inr ⟨_, ?_, rfl, rfl, rfl⟩
    exact {
      keepsDeliveries := ⟨rfl, rfl, rfl, rfl, rfl, rfl, rfl, rfl, Nat.le_succ _⟩
      facts := rfl
      id := rfl
      actionKeyHash := rfl
      absent := habsent
      unused := hunused
      actions := rfl
      offered := by
        refine ⟨delivery, metadata, ?_, hread, rfl, rfl, happroved⟩
        rw [← (KeyTable.get?_eq_some.1 hdelivery).2] at hdelivery
        exact hdelivery }
  · obtain ⟨existing, hget⟩ := Option.ne_none_iff_exists'.1 habsent
    unfold triggerTransaction at h
    split at h
    · cases h
    · rw [hget] at h
      dsimp only at h
      split at h <;> cases h
      rename_i hsame
      simp only [isSameAction, Bool.and_eq_true, decide_eq_true_eq] at hsame
      exact Or.inl ⟨rfl, rfl, existing, hget, hsame.1.1.2, hsame.1.2, rfl⟩

/-- A command finds its action, or creates it. -/
theorem triggerPrepared_cases {ids : IdGenerator} {answer : ReminderActionCommand} {shouldDispatch : Bool}
    (h : triggerPrepared ids now command store = .ok ((answer, shouldDispatch), store')) :
    (store' = store ∧ shouldDispatch = false ∧ ∃ action,
      store.actions.get? command.claims.actionId = some action ∧ answer = toCommand action) ∨
      ∃ action, CreatesAction store store' command action ∧ answer = toCommand action := by
  unfold triggerPrepared at h
  split at h
  · cases h
  · rcases triggerTransaction_cases h with ⟨rfl, hdispatch, action, hget, -, -, hanswer⟩ |
      ⟨action, hcreates, -, -, hanswer⟩
    · exact Or.inl ⟨rfl, hdispatch, action, hget, hanswer⟩
    · exact Or.inr ⟨action, hcreates, hanswer⟩

/-! ## Reports -/

theorem settledAction_same (report : ReminderActionStatusReport) (now : IsoDateTime)
    (action : ImAction) : SameAction action (settledAction report now action) := by
  unfold settledAction
  split <;> exact ⟨_, _, _, _, rfl⟩

theorem settleActions_changesOpen (report : ReminderActionStatusReport) (now : IsoDateTime)
    (store : ImStore) : ChangesOpen store (settleActions report now store).2 := by
  unfold settleActions
  split
  · exact ChangesOpen.refl store
  · split
    · exact ChangesOpen.refl store
    · refine ChangesOpen.setAll_map (settledAction_same report now) fun action h => ?_
      exact isTerminal_eq_false_of_isOpen (of_decide_eq_true h).2.2.2

instance : Std.Total ImStore.latestFirst where
  total left right := by
    unfold ImStore.latestFirst
    omega

instance : IsTrans DeviceReminderActionFact ImStore.latestFirst where
  trans first second third := by
    unfold ImStore.latestFirst
    omega

/-- The fact is about a reminder of a device. -/
def DeviceReminderActionFact.isOf (fact : DeviceReminderActionFact) (deviceId : DeviceId)
    (reminderTriggerId : ReminderTriggerId) : Prop :=
  fact.report.deviceId = deviceId ∧ fact.report.reminderTriggerId = reminderTriggerId

/-- The latest fact of a reminder comes before all of its facts. -/
theorem findLatest_spec {store : ImStore} {deviceId : DeviceId}
    {reminderTriggerId : ReminderTriggerId} {latest : DeviceReminderActionFact}
    (h : store.findLatestByDeviceAndTrigger deviceId reminderTriggerId = some latest) :
    latest ∈ store.reminderActionFacts.rows ∧ latest.isOf deviceId reminderTriggerId ∧
      ∀ fact ∈ store.reminderActionFacts.rows, fact.isOf deviceId reminderTriggerId →
        ImStore.latestFirst latest fact := by
  unfold ImStore.findLatestByDeviceAndTrigger at h
  generalize hfacts : store.reminderActionFacts.rows.filter _ = facts at h
  have hmem : ∀ fact, fact ∈ facts ↔ fact ∈ store.reminderActionFacts.rows ∧
      fact.isOf deviceId reminderTriggerId := by
    intro fact
    rw [← hfacts, List.mem_filter, decide_eq_true_eq]
    rfl
  obtain ⟨rest, hsorted⟩ := List.head?_eq_some_iff.1 h
  have hin : ∀ fact, fact ∈ facts ↔ fact ∈ latest :: rest := by
    intro fact
    rw [← hsorted, List.mem_insertionSort]
  obtain ⟨hstored, hof⟩ := (hmem latest).1 ((hin latest).2 List.mem_cons_self)
  refine ⟨hstored, hof, fun fact hfact hofFact => ?_⟩
  have hpairwise := List.pairwise_insertionSort ImStore.latestFirst facts
  rw [hsorted, List.pairwise_cons] at hpairwise
  rcases List.mem_cons.1 ((hin fact).1 ((hmem fact).2 ⟨hfact, hofFact⟩)) with rfl | hrest
  · exact Or.inr ⟨rfl, le_rfl⟩
  · exact hpairwise.1 fact hrest

/-- A report stores a new fact: neither its event, nor its operation, nor its instant has one, and it
comes before a success. -/
structure StoresFact (store store' : ImStore) (fact : DeviceReminderActionFact) : Prop where
  facts : store' = { store with reminderActionFacts := store.reminderActionFacts.set fact }
  eventId : fact.eventId = fact.report.eventId
  fingerprint : fact.fingerprint = canonicalizeJson fact.report.toJsonValue
  absent : store.reminderActionFacts.get? fact.eventId = none
  operation : store.findByDeviceAndOperationId fact.report.deviceId fact.report.operationId = none
  instant : ∀ other ∈ store.reminderActionFacts.rows, other.report.deviceId = fact.report.deviceId →
    other.report.reminderTriggerId = fact.report.reminderTriggerId →
    other.report.occurredAt.parse ≠ fact.report.occurredAt.parse
  latest : ∀ latest, store.findLatestByDeviceAndTrigger fact.report.deviceId
    fact.report.reminderTriggerId = some latest → latest.report.status = .succeeded →
    fact.report.occurredAt.parse ≤ latest.report.occurredAt.parse

variable {report : ReminderActionStatusReport}

theorem checkLatest_ok {store : ImStore}
    (h : checkReport.checkLatest report store = .ok ()) {latest : DeviceReminderActionFact}
    (hlatest : store.findLatestByDeviceAndTrigger report.deviceId report.reminderTriggerId =
      some latest) (hevent : latest.eventId ≠ report.eventId)
    (hsucceeded : latest.report.status = .succeeded) :
    report.occurredAt.parse ≤ latest.report.occurredAt.parse := by
  unfold checkReport.checkLatest at h
  rw [hlatest] at h
  dsimp only at h
  rw [if_neg hevent] at h
  split at h
  · cases h
  · split at h
    · cases h
    · rename_i hlater
      exact not_lt.1 fun hlt => hlater ⟨hsucceeded, hlt⟩

/-- The report has a fact: one with its content is stored. -/
def HasFact (store : ImStore) (report : ReminderActionStatusReport) : Prop :=
  ∃ fact ∈ store.reminderActionFacts.rows, fact.fingerprint = canonicalizeJson report.toJsonValue

theorem checkReport_ok {store : ImStore}
    (h : checkReport report store = .ok ()) : checkReport.checkLatest report store = .ok () ∧
      ∀ fact, store.findByDeviceAndOperationId report.deviceId report.operationId = some fact →
        fact.eventId = report.eventId := by
  unfold checkReport at h
  split at h
  · rename_i existing hfound
    split at h
    · cases h
    · rename_i hevent
      refine ⟨h, fun fact hfact => ?_⟩
      rw [hfound] at hfact
      cases hfact
      exact not_not.1 hevent
  · rename_i hnone
    refine ⟨h, fun fact hfact => ?_⟩
    rw [hnone] at hfact
    cases hfact

theorem storeFact_new (hcheck : checkReport report store = .ok ())
    (habsent : store.reminderActionFacts.get? report.eventId = none)
    (h : storeFact report now store = .ok store') :
    (store' = store ∧ HasFact store report) ∨ StoresFact store store' (reportFact report now) := by
  have hother : ∀ fact ∈ store.reminderActionFacts.rows, fact.eventId ≠ report.eventId :=
    KeyTable.get?_eq_none.1 habsent
  unfold storeFact at h
  rw [habsent] at h
  dsimp only at h
  have hget : store.reminderActionFacts.get? (reportFact report now).eventId = none := habsent
  unfold ImStore.createFactIfAbsent at h
  rw [hget] at h
  dsimp only at h
  split at h
  · rename_i fact _ hcreate
    split at hcreate <;> cases hcreate
    rename_i hinstant
    cases h
    obtain ⟨hlatest, hoperation⟩ := checkReport_ok hcheck
    refine Or.inr ⟨rfl, rfl, rfl, habsent, ?_, ?_, ?_⟩
    · rw [Option.eq_none_iff_forall_ne_some]
      intro other hother'
      exact hother other (List.mem_of_find?_eq_some hother') (hoperation other hother')
    · intro other hmem hdevice htrigger hparse
      have hnot := List.find?_eq_none.1 hinstant other hmem
      exact hnot (decide_eq_true ⟨hdevice, htrigger, hparse⟩)
    · intro latest hfound hsucceeded
      have hmem := (findLatest_spec hfound).1
      exact checkLatest_ok hlatest hfound (hother latest hmem) hsucceeded
  · rename_i existing _ hcreate
    split at hcreate <;> cases hcreate
    rename_i hfound
    split at h
    · rename_i hfingerprint
      cases h
      exact Or.inl ⟨rfl, existing, List.mem_of_find?_eq_some hfound, hfingerprint⟩
    · split at h <;> cases h

theorem reportTransaction_cases {result : Option ImAction}
    (h : reportTransaction now report store = .ok (result, store')) :
    ∃ middle, checkReport report store = .ok () ∧ storeFact report now store = .ok middle ∧
      ChangesOpen middle store' := by
  unfold reportTransaction at h
  split at h
  · cases h
  · rename_i hcheck
    split at h
    · cases h
    · rename_i middle hfact
      refine ⟨middle, hcheck, hfact, ?_⟩
      have hstore : (settleActions report now middle).2 = store' :=
        congrArg Prod.snd (Except.ok.inj h)
      rw [← hstore]
      exact settleActions_changesOpen report now middle

/-- A report that is accepted has its fact, or stores it, and settles open actions. -/
theorem recordDeviceActionStatus_cases {result : Option ImAction}
    (h : recordDeviceActionStatus now report store = .ok (result, store')) :
    ∃ middle, ChangesOpen middle store' ∧ ((middle = store ∧ HasFact store report) ∨
      StoresFact store middle (reportFact report now)) := by
  unfold recordDeviceActionStatus at h
  split at h
  · cases h
  · split at h
    · rename_i habsent
      obtain ⟨middle, hcheck, hfact, hchanges⟩ := reportTransaction_cases h
      exact ⟨middle, hchanges, storeFact_new hcheck habsent hfact⟩
    · rename_i existing hget
      split at h
      · cases h
      · rename_i hfingerprint
        have hfact : HasFact store report :=
          ⟨existing, (KeyTable.get?_eq_some.1 hget).1, not_not.1 hfingerprint⟩
        have htransaction : ∀ result, reportTransaction now report store = .ok (result, store') →
            ChangesOpen store store' := by
          intro result h
          obtain ⟨middle, -, hstore, hchanges⟩ := reportTransaction_cases h
          unfold storeFact at hstore
          rw [hget] at hstore
          cases hstore
          exact hchanges
        refine ⟨store, ?_, Or.inl ⟨rfl, hfact⟩⟩
        split at h
        · exact htransaction _ h
        · split at h
          · cases h
            exact ChangesOpen.refl store
          · exact htransaction _ h

end VoiceLife.Gateway
