import VoiceLife.Gateway.ActionTransactions

/-! # Lost updates of reminder actions

Nothing in a transaction checks that the action which it writes back is still as it was read, so a
transaction can write over the committed work of another. Where every transaction ends with a consistent
view, the actions and the answers are those of a serial order, and what is settled stays settled.
-/

namespace VoiceLife.Gateway.Postgres

open Database Database.Transaction

/-! ## Settled actions alone -/

/-- Actions that are settled stay as they are. -/
def KeepsTerminal (rows rows' : ActionRows) : Prop :=
  ∀ action ∈ rows.actions.rows, action.status.isTerminal = true → action ∈ rows'.actions.rows

theorem KeepsTerminal.refl (rows : ActionRows) : KeepsTerminal rows rows :=
  fun _ hmem _ => hmem

/-- The action has the id of an open one. -/
def IsForOpen (rows : ActionRows) (action : ImAction) : Prop :=
  ∃ row ∈ rows.actions.rows, row.id = action.id ∧ row.status.isTerminal = false

section Alone

variable {rows rows' : ActionRows} {ρ : Type}

theorem KeepsTerminal.set (h : KeepsTerminal rows rows') {action : ImAction}
    (hopen : IsForOpen rows action) : KeepsTerminal rows (applyChange rows' (.action action)) := by
  intro other hmem hterminal
  refine KeyTable.mem_set.2 (Or.inr ⟨h other hmem hterminal, fun hid => ?_⟩)
  obtain ⟨row, hrow, hrowid, hopen⟩ := hopen
  rw [rows.actions.eq_of_key_eq hmem hrow (hid.trans hrowid.symm), hopen] at hterminal
  cases hterminal

theorem KeepsTerminal.of_actions_eq (h : rows'.actions = rows.actions) : KeepsTerminal rows rows' := by
  intro action hmem _
  rw [h]
  exact hmem

/-- The program keeps what was settled in the given rows. -/
def Keeps (rows : ActionRows) (program : ActionTransaction ρ) (rows' : ActionRows) : Prop :=
  program.Ends (fun _ after => KeepsTerminal rows after) rows'

theorem Keeps.alone {program : ActionTransaction ρ} (h : Keeps rows program rows) :
    KeepsTerminal rows (program.alone rows).2 := by
  have hrun := (ends_iff_run program).1 h
  unfold Transaction.alone
  split
  · next hresult =>
      rw [hresult] at hrun
      exact hrun
  · exact .refl rows

theorem Keeps.bind {τ : Type} {program : ActionTransaction ρ} {next : ρ → ActionTransaction τ}
    (h : program.Ends (fun result after => KeepsTerminal rows after ∧
      ∀ value, result = .ok value → Keeps rows (next value) after) rows') :
    Keeps rows (program >>= next) rows' := by
  refine (ends_bind program next).2 (h.imp fun result after hafter => ?_)
  cases result with
  | ok value => exact hafter.2 value rfl
  | error error => exact hafter.1

/-- A program that keeps what was settled may be followed by one that writes nothing. -/
theorem Keeps.map {τ : Type} {program : ActionTransaction ρ} (h : Keeps rows program rows')
    (value : ρ → τ) : Keeps rows (program >>= fun result => pure (value result)) rows' :=
  .bind (h.imp fun _ _ hafter => ⟨hafter, fun _ _ => hafter⟩)

theorem keeps_saveEach (h : KeepsTerminal rows rows') {actions : List ImAction}
    (hopen : ∀ action ∈ actions, IsForOpen rows action) : Keeps rows (saveEach actions) rows' := by
  induction actions generalizing rows' with
  | nil => exact h
  | cons action actions ih =>
      have hone := h.set (hopen action List.mem_cons_self)
      exact ih hone fun other hother => hopen other (List.mem_cons_of_mem action hother)

theorem keeps_settleEach {report : ReminderActionStatusReport} {clock : Readings}
    {matching : Option ImAction} (h : KeepsTerminal rows rows') {actions : List ImAction}
    (hopen : ∀ action ∈ actions, IsForOpen rows action) :
    Keeps rows (settleEach report clock matching actions) rows' := by
  induction actions generalizing rows' clock matching with
  | nil => exact h
  | cons action actions ih =>
      have hid : (settledAction report (clock 0) action).id = action.id := by
        unfold settledAction
        split_ifs <;> rfl
      obtain ⟨row, hrow, hrowid, hstatus⟩ := hopen action List.mem_cons_self
      have hone := h.set ⟨row, hrow, hrowid.trans hid.symm, hstatus⟩
      exact ih hone fun other hother => hopen other (List.mem_cons_of_mem action hother)

theorem isForOpen_of_get? {id : ActionId} {action action' : ImAction}
    (hfound : rows.actions.get? id = some action) (hopen : action.status.isTerminal = false)
    (hid : action'.id = action.id) : IsForOpen rows action' :=
  ⟨action, (KeyTable.get?_eq_some.1 hfound).1, hid.symm, hopen⟩

theorem not_isTerminal_of_isOpenStatus {status : ActionStatus} (h : ImStore.isOpenStatus status = true) :
    status.isTerminal = false := by
  revert h
  cases status <;> decide

/-- What a query for open actions returns is open. -/
theorem isForOpen_of_mem_sort {p : ImAction → Prop} [DecidablePred p] {action : ImAction}
    (hp : ∀ action, p action → ImStore.isOpenStatus action.status = true)
    (hmem : action ∈ (rows.actions.rows.filter fun action => p action).insertionSort createdBefore) :
    IsForOpen rows action := by
  rw [List.mem_insertionSort, List.mem_filter] at hmem
  exact ⟨action, hmem.1, rfl, not_isTerminal_of_isOpenStatus (hp action (of_decide_eq_true hmem.2))⟩

theorem keeps_recordResult (clock : Readings) (commandId : ActionId) (deviceId : DeviceId)
    (result : ReminderActionResult) :
    Keeps rows (recordResult clock commandId deviceId result) rows := by
  apply Keeps.bind
  refine ⟨.refl rows, fun found hanswer => ?_⟩
  have hfound : rows.actions.get? commandId = found := Except.ok.inj hanswer
  cases found with
  | none => exact .refl rows
  | some action =>
      dsimp only
      split_ifs with hscope hnext hterminal hsame
      · exact .refl rows
      · exact .refl rows
      · exact .refl rows
      · exact .refl rows
      · exact (KeepsTerminal.refl rows).set
          (isForOpen_of_get? hfound (Bool.eq_false_iff.2 hterminal) rfl)

theorem keeps_markProcessing (clock : Readings) (actionId : ActionId) (deviceId : DeviceId)
    (reminderTriggerId : ReminderTriggerId) :
    Keeps rows (markProcessing clock actionId deviceId reminderTriggerId) rows := by
  apply Keeps.bind
  refine ⟨.refl rows, fun found hanswer => ?_⟩
  have hfound : rows.actions.get? actionId = found := Except.ok.inj hanswer
  cases found with
  | none => exact .refl rows
  | some action =>
      dsimp only
      split_ifs with hscope hdone
      · exact .refl rows
      · exact .refl rows
      · rw [not_or, Bool.not_eq_true] at hdone
        exact (KeepsTerminal.refl rows).set (isForOpen_of_get? hfound hdone.2 rfl)

theorem keeps_expireDue (clock : Readings) : Keeps rows (expireDue clock) rows := by
  refine Keeps.map (keeps_saveEach (.refl rows) fun action haction => ?_) fun _ => _
  obtain ⟨⟨found, index⟩, hfound, rfl⟩ := List.mem_map.1 haction
  obtain ⟨row, hrow, hid, hopen⟩ :=
    isForOpen_of_mem_sort (fun _ hp => hp.2) (List.fst_mem_of_mem_zipIdx hfound)
  exact ⟨row, hrow, hid, hopen⟩

theorem keeps_replayPending (clock : Readings) (deviceId : DeviceId)
    (reminderTriggerId : ReminderTriggerId) :
    Keeps rows (replayPending clock deviceId reminderTriggerId) rows := by
  refine Keeps.map (keeps_saveEach (.refl rows) fun action haction => ?_) fun _ => _
  obtain ⟨⟨found, index⟩, hfound, rfl⟩ := List.mem_map.1 haction
  have hreplayed := (List.mem_filter.1 (List.fst_mem_of_mem_zipIdx hfound)).1
  obtain ⟨row, hrow, hid, hopen⟩ := isForOpen_of_mem_sort (fun _ hp => hp.2.2.2) hreplayed
  exact ⟨row, hrow, hid, hopen⟩

theorem KeepsTerminal.applyAll (h : KeepsTerminal rows rows') {actions : List ImAction}
    (hopen : ∀ action ∈ actions, IsForOpen rows action) :
    KeepsTerminal rows (actionDatabase.applyAll rows' (actions.map RowChange.action)) := by
  induction actions generalizing rows' with
  | nil => exact h
  | cons action actions ih =>
      exact ih (h.set (hopen action List.mem_cons_self)) fun other hother =>
        hopen other (List.mem_cons_of_mem action hother)

theorem keeps_recoverStaleProcessing (now staleBefore : IsoDateTime) :
    Keeps rows (recoverStaleProcessing now staleBefore) rows := by
  refine (KeepsTerminal.refl rows).applyAll fun action haction => ?_
  obtain ⟨stale, hstale, rfl⟩ := List.mem_map.1 haction
  obtain ⟨hrow, hmatches⟩ := List.mem_filter.1 hstale
  refine ⟨stale, hrow, rfl, ?_⟩
  rw [(of_decide_eq_true hmatches).1]
  rfl

/-! ## Reports alone -/

/-- The statement writes no action. -/
def SparesActions : actionDatabase.Statement → Prop
  | Statement.saveAction _ | Statement.recoverStaleProcessingActions .. => False
  | _ => True

theorem actions_of_sparesActions (statement : actionDatabase.Statement) (rows : ActionRows)
    (h : SparesActions statement) :
    (actionDatabase.applyAll rows (actionDatabase.execute statement rows).2).actions =
      rows.actions := by
  cases statement with
  | insertFact fact =>
      change (actionDatabase.applyAll rows (execute (.insertFact fact) rows).2).actions = rows.actions
      by_cases htaken : rows.facts.rows.any (sameFactKey fact) = true
      · rw [show execute (.insertFact fact) rows = (none, []) from if_pos htaken]
        rfl
      · rw [show execute (.insertFact fact) rows = (some fact, [.fact fact]) from if_neg htaken]
        rfl
  | saveAction action => exact h.elim
  | recoverStaleProcessingActions now staleBefore => exact h.elim
  | _ => rfl

/-- A program that writes no action may come first. -/
theorem Keeps.bind_spares {τ : Type} {program : ActionTransaction ρ} {next : ρ → ActionTransaction τ}
    (hspares : program.Asks SparesActions) (hactions : rows'.actions = rows.actions)
    (hnext : ∀ value after, after.actions = rows.actions → Keeps rows (next value) after) :
    Keeps rows (program >>= next) rows' := by
  have hends := hspares.ends (fun before after => after.actions = before.actions) (fun _ => rfl)
    (fun _ _ _ h h' => h'.trans h) actions_of_sparesActions rows'
  refine .bind (hends.imp fun result after hafter => ?_)
  have hkept : after.actions = rows.actions := hafter.trans hactions
  exact ⟨.of_actions_eq hkept, fun value _ => hnext value after hkept⟩

theorem asks_checkReport (report : ReminderActionStatusReport) :
    (checkReport report).Asks SparesActions := by
  refine (asks_ask trivial).bind fun existingOperation => ?_
  split_ifs
  · exact asks_fail _
  · refine (asks_ask trivial).bind fun previousLatest => ?_
    split
    · exact asks_pure _
    · split_ifs
      · exact asks_pure _
      · exact asks_fail _
      · exact asks_fail _
      · exact asks_pure _

theorem asks_createFactIfAbsent (fact : DeviceReminderActionFact) :
    (createFactIfAbsent fact).Asks SparesActions := by
  refine (asks_ask trivial).bind fun inserted => ?_
  split
  · exact asks_pure _
  · refine (asks_ask trivial).bind fun existing => ?_
    split
    · exact asks_pure _
    · refine (asks_ask trivial).bind fun operation => ?_
      split
      · exact asks_pure _
      · refine (asks_ask trivial).bind fun sameTime => ?_
        split
        · exact asks_pure _
        · exact asks_fail _

theorem asks_storeFact (report : ReminderActionStatusReport) (now : IsoDateTime) :
    (storeFact report now).Asks SparesActions := by
  refine (asks_createFactIfAbsent _).bind fun ⟨fact, created⟩ => ?_
  dsimp only
  split_ifs
  · exact asks_fail _
  · exact asks_fail _
  · exact asks_pure _

theorem keeps_settleActions {report : ReminderActionStatusReport} {clock : Readings}
    (hactions : rows'.actions = rows.actions) : Keeps rows (settleActions report clock) rows' := by
  refine .bind_spares (asks_ask trivial) hactions fun latest after hafter => ?_
  split
  · exact .of_actions_eq hafter
  · split_ifs
    · exact .of_actions_eq hafter
    · refine keeps_settleEach (.of_actions_eq hafter) fun action haction => ?_
      have hopen : IsForOpen after action := isForOpen_of_mem_sort (fun _ hp => hp.2.2.2) haction
      unfold IsForOpen at hopen
      rwa [hafter] at hopen

theorem keeps_recordReport (clock : Readings) (report : ReminderActionStatusReport) (isNew : Bool)
    (hactions : rows'.actions = rows.actions) : Keeps rows (recordReport clock report isNew) rows' := by
  refine .bind_spares (asks_checkReport report) hactions fun _ after hafter => ?_
  split_ifs
  · exact .bind_spares (asks_storeFact report (clock 0)) hafter fun _ _ => keeps_settleActions
  · exact keeps_settleActions hafter

theorem keeps_recordDeviceActionStatus (clock : Readings) (report : ReminderActionStatusReport) :
    Keeps rows (recordDeviceActionStatus clock report) rows := by
  unfold recordDeviceActionStatus
  split_ifs
  · exact .refl rows
  · refine .bind_spares (asks_ask trivial) rfl fun existingEvent after hafter => ?_
    split
    · exact keeps_recordReport clock report true hafter
    · split_ifs
      · exact .of_actions_eq hafter
      · refine .bind_spares (asks_ask trivial) hafter fun existingAction after' hafter' => ?_
        split
        · exact keeps_recordReport clock report false hafter'
        · split_ifs
          · exact .of_actions_eq hafter'
          · exact keeps_recordReport clock report false hafter'

/-- The call is the `dispatch` after a result or a recovery. -/
def ActionCall.IsDispatch : ActionCall → Prop
  | .dispatch .. => True
  | _ => False

/-- Alone, every call but `dispatch` keeps what is settled. -/
theorem keepsTerminal_alone (call : ActionCall) (rows : ActionRows) (h : ¬ call.IsDispatch) :
    KeepsTerminal rows (call.code.alone rows).2 := by
  refine Keeps.alone ?_
  cases call with
  | recordResult clock commandId deviceId result =>
      exact (keeps_recordResult clock commandId deviceId result).map _
  | recordDeviceActionStatus clock report => exact (keeps_recordDeviceActionStatus clock report).map _
  | expireDue clock => exact (keeps_expireDue clock).map _
  | markProcessing clock actionId deviceId reminderTriggerId =>
      exact (keeps_markProcessing clock actionId deviceId reminderTriggerId).map _
  | replayPending clock deviceId reminderTriggerId =>
      exact (keeps_replayPending clock deviceId reminderTriggerId).map _
  | recoverStaleProcessing now staleBefore =>
      exact (keeps_recoverStaleProcessing now staleBefore).map _
  | dispatch clock command => exact absurd trivial h

end Alone

/-! ## Next to each other -/

/-- A PostgreSQL server with the transactions of the reminder actions. -/
abbrev ActionServer := actionDatabase.Server ActionCall TransactionError Returned

/-- What happens next on the server. -/
abbrev ActionEvent := Database.Event ActionCall

/-- What an event does. -/
def step : ActionServer → ActionEvent → ActionServer :=
  Server.step ActionCall.code

/-- The event does not end a `dispatch`. -/
def EndsNoDispatch (server : ActionServer) (event : ActionEvent) : Prop :=
  ∀ index session, event = .finish index → server.open? index = some session →
    ¬ session.call.IsDispatch

/-- A settled action is overwritten by no transaction but a `dispatch`. -/
def KeepsSettled (server : ActionServer) (event : ActionEvent) : Prop :=
  EndsNoDispatch server event → KeepsTerminal server.committed (step server event).committed

/-- If every transaction ends with a consistent view of what it has read, the actions and the answers are
at every moment those of a serial order, and what is settled is not overwritten. -/
theorem serializable_of_consistent_views (rows : ActionRows) (events : List ActionEvent)
    (hok : Run.AllSteps step EndsConsistently (.start rows) events) :
    Run.AllStates step (Serializable ActionCall.code rows) (.start rows) events ∧
      Run.AllSteps step KeepsSettled (.start rows) events :=
  ⟨serializable_of_allSteps hok,
    keeps_of_allSteps KeepsTerminal KeepsTerminal.refl ActionCall.IsDispatch
      (fun call rows h => keepsTerminal_alone call rows h) hok⟩

/-! ## A result that is overwritten -/

/-- A time in the window of the action. -/
def noon : IsoDateTime :=
  isoTime "2026-01-01T12:00:00.000Z" (by decide +kernel)

/-- An action that was sent to the device. -/
def sentAction : ImAction where
  id := js "action"
  operationId := js "operation"
  correlationId := js "correlation"
  deliveryId := js "delivery"
  actorBindingId := js "binding"
  deviceId := js "device"
  reminderTriggerId := js "trigger"
  actionType := .acknowledge
  actionParams := none
  actionKeyHash := js "hash"
  expectedIdentityId := js "identity"
  actualIdentityId := js "identity"
  status := .dispatched
  dispatchedAt := some noon
  expiresAt := noon
  createdAt := noon
  updatedAt := noon

/-- The device has carried the action out. -/
def doneResult : ReminderActionResult where
  operationId := js "operation"
  reminderTriggerId := js "trigger"
  status := .succeeded
  nextTriggerAt := none
  errorCode := none
  details := none
  occurredAt := noon

/-- A database with the action. -/
def sentRows : ActionRows where
  actions := KeyTable.empty.set sentAction

/-- The stream hands the command out. -/
def handOut : ActionCall :=
  .markProcessing (fun _ => noon) (js "action") (js "device") (js "trigger")

/-- The device reports its result. -/
def reportDone : ActionCall :=
  .recordResult (fun _ => noon) (js "action") (js "device") doneResult

/-- The result is committed between the read and the write of the stream. -/
def overwritingRun : List ActionEvent :=
  [.begin handOut, .begin reportDone, .advance 0, .advance 1, .advance 1, .finish 1, .advance 0]

/-- The status of every action. -/
def statuses (rows : ActionRows) : List ActionStatus :=
  rows.actions.rows.map ImAction.status

theorem eq_or_eq_of_perm_pair {α : Type} {a b : α} {order : List α} (h : order.Perm [a, b]) :
    order = [a, b] ∨ order = [b, a] := by
  cases order with
  | nil => exact absurd h.length_eq (by simp)
  | cons first rest =>
      rcases List.mem_pair.1 (h.subset List.mem_cons_self) with rfl | rfl
      · refine Or.inl ?_
        rw [List.perm_singleton.1 ((List.perm_cons first).1 h)]
      · refine Or.inr ?_
        rw [List.perm_singleton.1 ((List.perm_cons first).1 (h.trans (.swap first a [])))]

/-- The succeeded action is processing again, which no serial order explains. -/
theorem processing_overwrites_success :
    ¬ Serializable ActionCall.code sentRows
        (Run.run step (.start sentRows) (overwritingRun ++ [.finish 0])) ∧
      ¬ Run.AllSteps step KeepsSettled (.start sentRows) (overwritingRun ++ [.finish 0]) := by
  have hbefore : statuses (Run.run step (.start sentRows) overwritingRun).committed = [.succeeded] := by
    decide +kernel
  have hafter : statuses (Run.run step (.start sentRows) (overwritingRun ++ [Event.finish 0])).committed =
      [.processing] := by
    decide +kernel
  constructor
  · rintro ⟨order, hperm, -, hcommitted⟩
    have hserial : statuses (Run.run (serialStep ActionCall.code) sentRows order) = [.succeeded] := by
      rcases eq_or_eq_of_perm_pair hperm with rfl | rfl <;> decide +kernel
    rw [← hcommitted, hafter] at hserial
    exact absurd hserial (by decide)
  · intro h
    have hlast : KeepsSettled (Run.run step (.start sentRows) overwritingRun) (.finish 0) :=
      Run.allSteps_iff_forall_prefix.1 h overwritingRun (.finish 0) List.prefix_rfl
    have hkeeps := hlast fun index session hindex hsession => by
      cases hindex
      cases hsession
      exact id
    obtain ⟨action, hmem, hstatus⟩ : ∃ action ∈
        (Run.run step (.start sentRows) overwritingRun).committed.actions.rows,
          action.status = .succeeded := by
      refine List.mem_map.1 ?_
      change _ ∈ statuses _
      rw [hbefore]
      exact List.mem_singleton_self _
    have hstill := List.mem_map_of_mem (f := ImAction.status) (hkeeps action hmem (by rw [hstatus]; rfl))
    change _ ∈ statuses (Run.run step (.start sentRows) (overwritingRun ++ [Event.finish 0])).committed at hstill
    rw [hafter, hstatus] at hstill
    exact absurd hstill (by decide)

/-- The device reports while the hand-out is still open, but its result is read and written after. -/
def waitingRun : List ActionEvent :=
  [.begin handOut, .begin reportDone, .advance 0, .advance 0, .finish 0, .advance 1, .advance 1, .finish 1]

/-- Both transactions of the waiting run see what they write over. -/
theorem waiting_run_is_serializable :
    Run.AllStates step (Serializable ActionCall.code sentRows) (.start sentRows) waitingRun ∧
      Run.AllSteps step KeepsSettled (.start sentRows) waitingRun := by
  refine serializable_of_consistent_views sentRows _
    ⟨trivial, trivial, trivial, trivial, ?_, trivial, trivial, ?_, trivial⟩
  · intro session result hsession hrest
    cases hsession
    cases hrest
    exact ⟨_, List.mem_singleton_self _, ⟨rfl, rfl, trivial⟩, fun _ => rfl⟩
  · intro session result hsession hrest
    cases hsession
    cases hrest
    exact ⟨_, List.mem_cons_of_mem _ (List.mem_singleton_self _), ⟨rfl, rfl, trivial⟩, fun _ => rfl⟩

end VoiceLife.Gateway.Postgres
