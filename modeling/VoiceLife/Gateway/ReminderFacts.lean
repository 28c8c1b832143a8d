import VoiceLife.Gateway.ActionEffects

/-! # Facts of reminder actions

Facts are only added: one for each event, each operation of a device and each instant of a reminder. A
success that is the latest fact of its reminder stays the latest, and a report that was accepted once is
accepted again.
-/

namespace VoiceLife.Gateway

variable {ports : Ports} {store store' middle : ImStore}

/-! ## Fingerprints of reports -/

namespace ReminderActionStatusReport

/-- The fields of the report as JSON. -/
def fields (report : ReminderActionStatusReport) : List (JsString × JsonValue) :=
  ([(js "schemaVersion", .string (js "1")), (js "eventId", .string report.eventId),
    (js "correlationId", .string report.correlationId), (js "deviceId", .string report.deviceId),
    (js "reminderTriggerId", .string report.reminderTriggerId),
    (js "operationId", .string report.operationId), (js "action", .string report.action.text),
    (js "status", .string report.status.text),
    (js "occurredAt", .string report.occurredAt.text)] : List (JsString × JsonValue)) ++
    optionalField "nextTriggerAt" (report.nextTriggerAt.map fun time => .string time.text) ++
    optionalField "errorCode" (report.errorCode.map .string) ++
    optionalField "details" (report.details.map Json.value) ++
    [(js "source", JsonValue.string (js "voice"))]

theorem toJsonValue_eq (report : ReminderActionStatusReport) :
    report.toJsonValue = .object report.fields :=
  rfl

theorem optionalField_sublist (key : String) (value : Option JsonValue) :
    ((optionalField key value).map Prod.fst).Sublist [js key] := by
  cases value with
  | none => exact List.nil_sublist _
  | some value => exact List.Sublist.refl _

theorem fields_nodup (report : ReminderActionStatusReport) :
    (report.fields.map Prod.fst).Nodup := by
  have hall : ([js "schemaVersion", js "eventId", js "correlationId", js "deviceId",
      js "reminderTriggerId", js "operationId", js "action", js "status", js "occurredAt"] ++
      [js "nextTriggerAt"] ++ [js "errorCode"] ++ [js "details"] ++ [js "source"]).Nodup := by
    decide
  refine List.Sublist.nodup ?_ hall
  simp only [fields, List.map_append]
  refine List.Sublist.append (List.Sublist.append (List.Sublist.append (List.Sublist.append ?_ ?_)
    ?_) ?_) ?_
  · exact List.Sublist.refl _
  · exact optionalField_sublist _ _
  · exact optionalField_sublist _ _
  · exact optionalField_sublist _ _
  · exact List.Sublist.refl _

theorem optionalField_wellFormed {key : String} {value : Option JsonValue}
    (h : ∀ v ∈ value, v.WellFormed) : ∀ field ∈ optionalField key value, field.2.WellFormed := by
  cases value with
  | none => exact fun _ hmem => absurd hmem List.not_mem_nil
  | some value =>
      intro field hmem
      rw [List.mem_singleton.1 hmem]
      exact h value rfl

/-- The report as JSON. -/
def toJson (report : ReminderActionStatusReport) : Json where
  value := report.toJsonValue
  wellFormed := by
    rw [toJsonValue_eq]
    refine ⟨report.fields_nodup, JsonValue.wellFormedFields_iff.2 ?_⟩
    simp only [fields, List.forall_mem_append]
    refine ⟨⟨⟨⟨?_, ?_⟩, ?_⟩, ?_⟩, ?_⟩
    · simp [JsonValue.WellFormed]
    · refine optionalField_wellFormed fun value hvalue => ?_
      obtain ⟨time, -, rfl⟩ := Option.map_eq_some_iff.1 hvalue
      trivial
    · refine optionalField_wellFormed fun value hvalue => ?_
      obtain ⟨code, -, rfl⟩ := Option.map_eq_some_iff.1 hvalue
      trivial
    · refine optionalField_wellFormed fun value hvalue => ?_
      obtain ⟨details, -, rfl⟩ := Option.map_eq_some_iff.1 hvalue
      exact details.wellFormed
    · simp [JsonValue.WellFormed]

variable {report other : ReminderActionStatusReport}

/-- Reports with one fingerprint agree on every text field. -/
theorem text_eq_of_fingerprint_eq
    (h : canonicalizeJson report.toJsonValue = canonicalizeJson other.toJsonValue) (key : String)
    (text : ReminderActionStatusReport → JsString)
    (hfield : ∀ report : ReminderActionStatusReport,
      (js key, .string (text report)) ∈ report.fields) : text report = text other := by
  have hsame : report.toJson.value.Same other.toJson.value :=
    (canonicalizeJson_eq_iff report.toJson other.toJson).1 h
  obtain ⟨-, hfields⟩ := hsame
  obtain ⟨value, hvalue, htext⟩ := JsonValue.sameFields_iff.1 hfields _ (hfield report)
  have heq : (js key, value) = (js key, .string (text other)) :=
    List.inj_on_of_nodup_map other.fields_nodup hvalue (hfield other) rfl
  obtain ⟨-, rfl⟩ := Prod.mk.inj heq
  exact htext

/-- Reports with one fingerprint have the same event, reminder, operation and instant. -/
structure SameKeys (report other : ReminderActionStatusReport) : Prop where
  eventId : report.eventId = other.eventId
  deviceId : report.deviceId = other.deviceId
  reminderTriggerId : report.reminderTriggerId = other.reminderTriggerId
  operationId : report.operationId = other.operationId
  occurredAt : report.occurredAt = other.occurredAt

theorem sameKeys_of_fingerprint_eq
    (h : canonicalizeJson report.toJsonValue = canonicalizeJson other.toJsonValue) :
    SameKeys report other := by
  have htime : report.occurredAt.text = other.occurredAt.text :=
    text_eq_of_fingerprint_eq h "occurredAt" (fun report => report.occurredAt.text)
      fun _ => by simp [fields]
  refine ⟨?_, ?_, ?_, ?_, IsoDateTime.eq_of_text_eq htime⟩
  · exact text_eq_of_fingerprint_eq h "eventId" eventId fun _ => by simp [fields]
  · exact text_eq_of_fingerprint_eq h "deviceId" deviceId fun _ => by simp [fields]
  · exact text_eq_of_fingerprint_eq h "reminderTriggerId" reminderTriggerId fun _ => by simp [fields]
  · exact text_eq_of_fingerprint_eq h "operationId" operationId fun _ => by simp [fields]

end ReminderActionStatusReport

/-! ## Facts of a store -/

/-- A fact is the one of its report. -/
structure FactSound (fact : DeviceReminderActionFact) : Prop where
  eventId : fact.eventId = fact.report.eventId
  fingerprint : fact.fingerprint = canonicalizeJson fact.report.toJsonValue

/-- Facts are told apart by their operations and by the instants of their reminders. -/
structure FactsSound (store : ImStore) : Prop where
  sound : ∀ fact ∈ store.reminderActionFacts.rows, FactSound fact
  operation : ∀ fact ∈ store.reminderActionFacts.rows, ∀ other ∈ store.reminderActionFacts.rows,
    fact.report.deviceId = other.report.deviceId →
    fact.report.operationId = other.report.operationId → fact = other
  instant : ∀ fact ∈ store.reminderActionFacts.rows, ∀ other ∈ store.reminderActionFacts.rows,
    fact.report.deviceId = other.report.deviceId →
    fact.report.reminderTriggerId = other.report.reminderTriggerId →
    fact.report.occurredAt.parse = other.report.occurredAt.parse → fact = other

theorem FactsSound.of_eq (h : FactsSound store)
    (hfacts : store'.reminderActionFacts = store.reminderActionFacts) : FactsSound store' := by
  refine ⟨?_, ?_, ?_⟩ <;> rw [hfacts]
  · exact h.sound
  · exact h.operation
  · exact h.instant

theorem StoresFact.rows {fact : DeviceReminderActionFact} (h : StoresFact store store' fact) :
    store'.reminderActionFacts.rows = store.reminderActionFacts.rows ++ [fact] := by
  rw [h.facts]
  exact KeyTable.rows_set_of_fresh h.absent

theorem StoresFact.factsSound {fact : DeviceReminderActionFact} (h : StoresFact store store' fact)
    (hsound : FactsSound store) : FactsSound store' := by
  have hmem : ∀ found, found ∈ store'.reminderActionFacts.rows ↔
      found ∈ store.reminderActionFacts.rows ∨ found = fact := by
    intro found
    rw [h.rows, List.mem_append, List.mem_singleton]
  have hoperation : ∀ other ∈ store.reminderActionFacts.rows,
      other.report.deviceId = fact.report.deviceId →
        other.report.operationId ≠ fact.report.operationId := by
    intro other hother hdevice hop
    have hnone := List.find?_eq_none.1 h.operation other hother
    exact hnone (decide_eq_true ⟨hdevice, hop⟩)
  refine ⟨?_, ?_, ?_⟩
  · intro found hfound
    rcases (hmem found).1 hfound with hold | rfl
    · exact hsound.sound found hold
    · exact ⟨h.eventId, h.fingerprint⟩
  · intro left hleft right hright hdevice hop
    rcases (hmem left).1 hleft with hl | rfl <;> rcases (hmem right).1 hright with hr | rfl
    · exact hsound.operation left hl right hr hdevice hop
    · exact absurd hop (hoperation left hl hdevice)
    · exact absurd hop.symm (hoperation right hr hdevice.symm)
    · rfl
  · intro left hleft right hright hdevice htrigger hparse
    rcases (hmem left).1 hleft with hl | rfl <;> rcases (hmem right).1 hright with hr | rfl
    · exact hsound.instant left hl right hr hdevice htrigger hparse
    · exact absurd hparse (h.instant left hl hdevice htrigger)
    · exact absurd hparse.symm (h.instant right hr hdevice.symm htrigger.symm)
    · rfl

/-! ## The latest fact -/

/-- The latest fact of a reminder is the one that no other fact of it comes after. -/
theorem findLatest_eq_some_iff (hsound : FactsSound store) {deviceId : DeviceId}
    {reminderTriggerId : ReminderTriggerId} {latest : DeviceReminderActionFact} :
    store.findLatestByDeviceAndTrigger deviceId reminderTriggerId = some latest ↔
      latest ∈ store.reminderActionFacts.rows ∧ latest.isOf deviceId reminderTriggerId ∧
        ∀ fact ∈ store.reminderActionFacts.rows, fact.isOf deviceId reminderTriggerId →
          fact.report.occurredAt.parse ≤ latest.report.occurredAt.parse := by
  have hle : ∀ {left right : DeviceReminderActionFact}, ImStore.latestFirst left right →
      right.report.occurredAt.parse ≤ left.report.occurredAt.parse := by
    rintro left right (hlt | ⟨heq, -⟩)
    · exact hlt.le
    · exact heq.le
  constructor
  · intro h
    obtain ⟨hmem, hof, hmax⟩ := findLatest_spec h
    exact ⟨hmem, hof, fun fact hfact hofFact => hle (hmax fact hfact hofFact)⟩
  · rintro ⟨hmem, hof, hmax⟩
    cases hfound : store.findLatestByDeviceAndTrigger deviceId reminderTriggerId with
    | none =>
        unfold ImStore.findLatestByDeviceAndTrigger at hfound
        rw [List.head?_eq_none_iff] at hfound
        generalize hfacts : store.reminderActionFacts.rows.filter _ = facts at hfound
        have hin : latest ∈ facts := by
          rw [← hfacts, List.mem_filter, decide_eq_true_eq]
          exact ⟨hmem, hof⟩
        rw [← List.mem_insertionSort ImStore.latestFirst, hfound] at hin
        exact absurd hin List.not_mem_nil
    | some found =>
        obtain ⟨hfoundMem, hfoundOf, hfoundMax⟩ := findLatest_spec hfound
        refine congrArg some (hsound.instant found hfoundMem latest hmem ?_ ?_ ?_)
        · exact hfoundOf.1.trans hof.1.symm
        · exact hfoundOf.2.trans hof.2.symm
        · exact le_antisymm (hmax found hfoundMem hfoundOf) (hle (hfoundMax latest hmem hof))

/-- A success that is the latest fact of its reminder stays the latest. -/
theorem StoresFact.keeps_latest {fact latest : DeviceReminderActionFact}
    (h : StoresFact store store' fact) (hsound : FactsSound store) {deviceId : DeviceId}
    {reminderTriggerId : ReminderTriggerId}
    (hlatest : store.findLatestByDeviceAndTrigger deviceId reminderTriggerId = some latest)
    (hsucceeded : latest.report.status = .succeeded) :
    store'.findLatestByDeviceAndTrigger deviceId reminderTriggerId = some latest := by
  obtain ⟨hmem, hof, hmax⟩ := (findLatest_eq_some_iff hsound).1 hlatest
  rw [findLatest_eq_some_iff (h.factsSound hsound), h.rows]
  refine ⟨List.mem_append_left _ hmem, hof, fun found hfound hfoundOf => ?_⟩
  rcases List.mem_append.1 hfound with hold | hnew
  · exact hmax found hold hfoundOf
  · rw [List.mem_singleton.1 hnew] at hfoundOf ⊢
    rw [← hfoundOf.1, ← hfoundOf.2] at hlatest
    exact h.latest latest hlatest hsucceeded

/-! ## Reports that are sent again -/

/-- The report is accepted. -/
def Accepts (now : IsoDateTime) (report : ReminderActionStatusReport) (store : ImStore) : Prop :=
  ∃ result, recordDeviceActionStatus now report store = .ok result

variable {report : ReminderActionStatusReport}

/-- The stored fact of a report. -/
theorem HasFact.sameKeys (h : HasFact store report)
    (hsound : FactsSound store) : ∃ fact ∈ store.reminderActionFacts.rows,
      fact.fingerprint = canonicalizeJson report.toJsonValue ∧ fact.eventId = report.eventId ∧
        fact.report.SameKeys report := by
  obtain ⟨fact, hmem, hfingerprint⟩ := h
  have hfact := hsound.sound fact hmem
  have hsame := ReminderActionStatusReport.sameKeys_of_fingerprint_eq
    (hfact.fingerprint.symm.trans hfingerprint)
  exact ⟨fact, hmem, hfingerprint, hfact.eventId.trans hsame.eventId, hsame⟩

/-- A report that has its fact passes the checks against the other facts. -/
theorem HasFact.checkReport_ok (h : HasFact store report)
    (hsound : FactsSound store) : checkReport report store = .ok () := by
  obtain ⟨fact, hmem, -, hevent, hkeys⟩ := h.sameKeys hsound
  have hlatest : checkReport.checkLatest report store = .ok () := by
    unfold checkReport.checkLatest
    split
    · rfl
    · rename_i latest hfound
      obtain ⟨hlatestMem, hlatestOf, hmax⟩ := (findLatest_eq_some_iff hsound).1 hfound
      have hle := hmax fact hmem ⟨hkeys.deviceId, hkeys.reminderTriggerId⟩
      rw [hkeys.occurredAt] at hle
      split_ifs with hsame hinstant hlater
      · rfl
      · refine absurd ?_ hsame
        rw [← hevent, hsound.instant latest hlatestMem fact hmem
          (hlatestOf.1.trans hkeys.deviceId.symm) (hlatestOf.2.trans hkeys.reminderTriggerId.symm)]
        rw [hkeys.occurredAt, hinstant]
      · exact absurd hlater.2 (not_lt.2 hle)
      · rfl
  unfold checkReport
  split
  · rename_i existing hfound
    have hexisting : existing.report.deviceId = report.deviceId ∧
        existing.report.operationId = report.operationId := by
      unfold ImStore.findByDeviceAndOperationId at hfound
      simpa using List.find?_some hfound
    have heq := hsound.operation existing (List.mem_of_find?_eq_some hfound) fact hmem
      (hexisting.1.trans hkeys.deviceId.symm) (hexisting.2.trans hkeys.operationId.symm)
    rw [heq, if_neg (not_not.2 hevent)]
    exact hlatest
  · exact hlatest

theorem HasFact.accepts (h : HasFact store report) (hsound : FactsSound store)
    (hnext : nextTriggerMatches report.status report.action report.nextTriggerAt = true)
    (now : IsoDateTime) : Accepts now report store := by
  obtain ⟨fact, hmem, hfingerprint, hevent, -⟩ := h.sameKeys hsound
  have hget : store.reminderActionFacts.get? report.eventId = some fact :=
    KeyTable.get?_eq_some.2 ⟨hmem, hevent⟩
  have htransaction : ∃ result, reportTransaction now report store = .ok result := by
    refine ⟨settleActions report now store, ?_⟩
    rw [reportTransaction, h.checkReport_ok hsound, storeFact, hget]
  unfold Accepts recordDeviceActionStatus
  rw [hnext, hget]
  dsimp only
  rw [if_neg (by decide), if_neg (not_not.2 hfingerprint)]
  split
  · exact htransaction
  · split
    · exact ⟨_, rfl⟩
    · exact htransaction

/-! ## Runs -/

/-- Two facts never share an event, an operation of a device or an instant of a reminder. -/
structure OneFactEach (store : ImStore) : Prop where
  eventId : ∀ fact ∈ store.reminderActionFacts.rows, ∀ other ∈ store.reminderActionFacts.rows,
    fact.eventId = other.eventId → fact = other
  operation : ∀ fact ∈ store.reminderActionFacts.rows, ∀ other ∈ store.reminderActionFacts.rows,
    fact.report.deviceId = other.report.deviceId →
    fact.report.operationId = other.report.operationId → fact = other
  instant : ∀ fact ∈ store.reminderActionFacts.rows, ∀ other ∈ store.reminderActionFacts.rows,
    fact.report.deviceId = other.report.deviceId →
    fact.report.reminderTriggerId = other.report.reminderTriggerId →
    fact.report.occurredAt.parse = other.report.occurredAt.parse → fact = other

/-- Facts stay, and so does a success that is the latest fact of its reminder. -/
structure KeepsFacts (store store' : ImStore) : Prop where
  kept : ∀ fact ∈ store.reminderActionFacts.rows, fact ∈ store'.reminderActionFacts.rows
  latest : ∀ deviceId reminderTriggerId latest,
    store.findLatestByDeviceAndTrigger deviceId reminderTriggerId = some latest →
    latest.report.status = .succeeded →
    store'.findLatestByDeviceAndTrigger deviceId reminderTriggerId = some latest

theorem KeepsFacts.of_eq (h : store'.reminderActionFacts = store.reminderActionFacts) :
    KeepsFacts store store' := by
  constructor
  · rw [h]
    exact fun _ => id
  · unfold ImStore.findLatestByDeviceAndTrigger
    rw [h]
    exact fun _ _ _ hlatest _ => hlatest

theorem StoresFact.keepsFacts {fact : DeviceReminderActionFact} (h : StoresFact store store' fact)
    (hsound : FactsSound store) : KeepsFacts store store' where
  kept found hmem := by
    rw [h.rows]
    exact List.mem_append_left _ hmem
  latest _ _ _ hlatest hsucceeded := h.keeps_latest hsound hlatest hsucceeded

theorem KeepsFacts.trans (h : KeepsFacts store middle) (h' : KeepsFacts middle store') :
    KeepsFacts store store' where
  kept fact hmem := h'.kept fact (h.kept fact hmem)
  latest _ _ latest hlatest hsucceeded :=
    h'.latest _ _ latest (h.latest _ _ latest hlatest hsucceeded) hsucceeded

/-- What a step does to the facts. -/
theorem ActionEffect.facts {publishing : ReminderActionCommand → Prop}
    (h : ActionEffect publishing store store') (hsound : FactsSound store) :
    FactsSound store' ∧ KeepsFacts store store' := by
  have hsame : ∀ {before after : ImStore}, FactsSound before →
      after.reminderActionFacts = before.reminderActionFacts →
        FactsSound after ∧ KeepsFacts before after :=
    fun hbefore heq => ⟨hbefore.of_eq heq, KeepsFacts.of_eq heq⟩
  cases h with
  | same h => exact hsame hsound h.facts
  | changes h => exact hsame hsound h.facts
  | creates h => exact hsame hsound h.facts
  | reports hfact h =>
      obtain ⟨hafter, hkeeps⟩ := hsame (hfact.factsSound hsound) h.facts
      exact ⟨hafter, (hfact.keepsFacts hsound).trans hkeeps⟩
  | @dispatches now command _ hstore =>
      refine hsame hsound ?_
      rw [hstore]
      unfold dispatchTransaction
      split
      · rfl
      · split <;> rfl

theorem factsSound_run (ports : Ports) (events : List GatewayEvent) :
    Run.AllStates (step ports) (fun state => FactsSound state.store) {} events := by
  refine Run.allStates_of_invariant (fun state event hsound => ?_) ?_
  · exact ((step_actionEffect ports state event).facts hsound).1
  · exact ⟨fun _ h => absurd h List.not_mem_nil, fun _ h => absurd h List.not_mem_nil,
      fun _ h => absurd h List.not_mem_nil⟩

/-- An accepted report has its fact from then on. -/
theorem Accepts.hasFact (ports : Ports) {now : IsoDateTime}
    {state : GatewayState} (h : Accepts now report state.store) :
    HasFact (step ports state (.recordDeviceActionStatus now report)).store report := by
  obtain ⟨⟨result, store'⟩, hrecord⟩ := h
  have hstep : (step ports state (.recordDeviceActionStatus now report)).store = store' := by
    simp only [step, hrecord, GatewayState.committed]
  rw [hstep]
  obtain ⟨middle, hchanges, ⟨rfl, fact, hmem, hfingerprint⟩ | hstores⟩ :=
    recordDeviceActionStatus_cases hrecord
  · refine ⟨fact, ?_, hfingerprint⟩
    rw [hchanges.facts]
    exact hmem
  · refine ⟨reportFact report now, ?_, rfl⟩
    rw [hchanges.facts, hstores.rows]
    exact List.mem_append_right _ (List.mem_singleton_self _)

theorem Accepts.nextTriggerMatches {now : IsoDateTime} (h : Accepts now report store) :
    nextTriggerMatches report.status report.action report.nextTriggerAt = true := by
  obtain ⟨result, hrecord⟩ := h
  by_contra hnot
  unfold recordDeviceActionStatus at hrecord
  rw [if_pos (by simpa using hnot)] at hrecord
  cases hrecord

/-- Facts are unique and stable throughout a run, and a report that was accepted once is accepted
whenever it is sent again. -/
theorem device_action_facts_stable (ports : Ports) (events : List GatewayEvent) :
    Run.AllStates (step ports) (fun state => OneFactEach state.store) {} events ∧
    (∀ done more, done ++ more <+: events → KeepsFacts (Run.run (step ports) {} done).store
      (Run.run (step ports) {} (done ++ more)).store) ∧
    ∀ done more now now' report,
      done ++ .recordDeviceActionStatus now report :: more <+: events →
      Accepts now report (Run.run (step ports) {} done).store →
      Accepts now' report
        (Run.run (step ports) {} (done ++ .recordDeviceActionStatus now report :: more)).store := by
  have hsound := factsSound_run ports events
  have hsteps : Run.AllSteps (step ports) (fun state _ => FactsSound state.store) {} events := by
    rw [Run.allSteps_iff_forall_prefix]
    exact fun done event hpre => hsound done ((List.prefix_append _ _).trans hpre)
  have hkeeps : ∀ done more, done ++ more <+: events → KeepsFacts
      (Run.run (step ports) {} done).store (Run.run (step ports) {} (done ++ more)).store :=
    Run.rel_of_allSteps (fun before after => KeepsFacts before.store after.store)
      (fun _ => KeepsFacts.of_eq rfl) (fun _ _ _ => KeepsFacts.trans)
      (fun state event h => ((step_actionEffect ports state event).facts h).2) hsteps
  refine ⟨fun done hdone => ?_, hkeeps, ?_⟩
  · exact ⟨fun _ hmem _ hmem' => KeyTable.eq_of_key_eq _ hmem hmem', (hsound done hdone).operation,
      (hsound done hdone).instant⟩
  · intro done more now now' report hpre haccepts
    have hsplit : done ++ GatewayEvent.recordDeviceActionStatus now report :: more =
        (done ++ [GatewayEvent.recordDeviceActionStatus now report]) ++ more := by
      rw [List.append_assoc, List.singleton_append]
    obtain ⟨fact, hmem, hfingerprint⟩ := Accepts.hasFact ports haccepts
    have hlater := (hkeeps (done ++ [GatewayEvent.recordDeviceActionStatus now report]) more
      (hsplit ▸ hpre)).kept fact
    rw [Run.run_append, Run.run_cons, Run.run_nil, ← hsplit] at hlater
    exact HasFact.accepts ⟨fact, hlater hmem, hfingerprint⟩ (hsound _ hpre)
      haccepts.nextTriggerMatches now'

end VoiceLife.Gateway
