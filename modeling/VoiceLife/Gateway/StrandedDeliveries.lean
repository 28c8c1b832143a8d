import VoiceLife.Gateway.Soundness

/-! # No stranded deliveries

The last event that was appended for a delivery is pending as long as the delivery is owed. A worker that
is about to end an event, or that has claimed the delivery of one, has been passed: should the delivery be
owed, or wait, again, then a later event stands for it.
-/

namespace VoiceLife.Gateway

variable {ports : Ports} {ids : IdGenerator} {settling : OutboxEventId → Prop}
  {store store' : ImStore}

/-- The last event for a delivery. -/
def lastEvent (store : ImStore) (deliveryId : DeliveryId) : Option ImOutboxEvent :=
  (store.outbox.filter fun event => event.aggregateId = deliveryId).getLast?

variable {event : ImOutboxEvent}

theorem lastEvent_mem {deliveryId : DeliveryId} (h : lastEvent store deliveryId = some event) :
    event ∈ store.outbox ∧ event.aggregateId = deliveryId := by
  have hmem := List.mem_filter.1 (List.mem_of_getLast? h)
  exact ⟨hmem.1, of_decide_eq_true hmem.2⟩

theorem lastEvent_marks (h : Marks settling store store') (deliveryId : DeliveryId) :
    ∃ mark : ImOutboxEvent → ImOutboxEvent,
      lastEvent store' deliveryId = (lastEvent store deliveryId).map mark ∧
        ∀ event ∈ store.outbox, LikeEvent event (mark event) ∧
          ((mark event).status = event.status ∨ settling event.id) := by
  obtain ⟨mark, houtbox, hmark⟩ := h.outbox
  refine ⟨mark, ?_, hmark⟩
  have hfilter : (store.outbox.filter ((fun event => decide (event.aggregateId = deliveryId)) ∘ mark)) =
      store.outbox.filter fun event => decide (event.aggregateId = deliveryId) := by
    refine List.filter_congr fun event hevent => ?_
    rw [Function.comp_apply, (hmark event hevent).1.aggregateId]
  rw [lastEvent, lastEvent, houtbox, List.filter_map, hfilter, List.getLast?_map]

theorem lastEvent_append {deliveryId : DeliveryId} (houtbox : store'.outbox = store.outbox ++ [event]) :
    lastEvent store' deliveryId =
      if event.aggregateId = deliveryId then some event else lastEvent store deliveryId := by
  rw [lastEvent, houtbox, List.filter_append]
  split_ifs with hid
  · rw [List.filter_cons_of_pos (by simpa using hid), List.filter_nil, List.getLast?_concat]
  · rw [List.filter_cons_of_neg (by simpa using hid), List.filter_nil, List.append_nil, lastEvent]

/-- A later event stands for every delivery in such a status whose events include this one. -/
def Passed (p : DeliveryStatus → Prop) (store : ImStore) (eventId : OutboxEventId) : Prop :=
  ∀ deliveryId delivery last, store.deliveries.get? deliveryId = some delivery →
    p delivery.status → lastEvent store deliveryId = some last → last.id ≠ eventId

/-- Owed deliveries have a pending event. -/
def NotStranded (store : ImStore) : Prop :=
  ∀ deliveryId delivery, store.deliveries.get? deliveryId = some delivery →
    delivery.status.isOwed → ∃ last, lastEvent store deliveryId = some last ∧ last.status = .pending

/-- A status that whoever writes it either appends an event or finds it before. -/
def Lasting (p : DeliveryStatus → Prop) : Prop :=
  ∀ status, p status → status.isWaiting ∨ (status = .sending ∧ ∀ before : DeliveryStatus,
    before.isOwed → p before)

theorem lasting_isOwed : Lasting DeliveryStatus.isOwed := by
  intro status h
  rcases DeliveryStatus.isOwed_iff.1 h with hwaiting | hsending
  · exact Or.inl hwaiting
  · exact Or.inr ⟨hsending, fun _ hbefore => hbefore⟩

theorem lasting_isWaiting : Lasting DeliveryStatus.isWaiting :=
  fun _ h => Or.inl h

/-- What a write does to the last event of its delivery. -/
theorem Writes.lastEvent_cases {delivery delivery' : Delivery} {appended : Option ImOutboxEvent}
    (h : Writes ids store store' delivery delivery' appended) {p : DeliveryStatus → Prop}
    (hp : Lasting p) (hstatus : p delivery'.status) :
    (∃ event, lastEvent store' delivery.id = some event ∧ event.status = .pending ∧
      Generated ids store store' event.id) ∨
    (p delivery.status ∧ delivery.status.isOwed ∧
      lastEvent store' delivery.id = lastEvent store delivery.id) := by
  cases happended : appended with
  | some event =>
      have hmem : event ∈ appended := happended
      have houtbox := h.outbox
      rw [happended] at houtbox
      refine Or.inl ⟨event, ?_, h.pending event hmem, h.fresh event hmem⟩
      rw [lastEvent_append houtbox, if_pos (h.aggregateId event hmem)]
  | none =>
      rcases hp _ hstatus with hwaiting | ⟨hsending, hbefore⟩
      · have hsome := h.waiting hwaiting
        rw [happended] at hsome
        cases hsome
      · have howed := h.sending hsending
        have houtbox := h.outbox
        rw [happended, Option.toList_none, List.append_nil] at houtbox
        refine Or.inr ⟨hbefore _ howed, howed, ?_⟩
        rw [lastEvent, lastEvent, houtbox]

/-- A write leaves the events of other deliveries alone. -/
theorem Writes.lastEvent_of_ne {delivery delivery' : Delivery} {appended : Option ImOutboxEvent}
    (h : Writes ids store store' delivery delivery' appended) {deliveryId : DeliveryId}
    (hne : delivery.id ≠ deliveryId) :
    store'.deliveries.get? deliveryId = store.deliveries.get? deliveryId ∧
      lastEvent store' deliveryId = lastEvent store deliveryId := by
  constructor
  · rw [h.deliveries, KeyTable.get?_set_of_ne]
    exact fun hkey => hne (h.same.id_eq.symm.trans hkey)
  · cases happended : appended with
    | some event =>
        have houtbox := h.outbox
        rw [happended] at houtbox
        rw [lastEvent_append houtbox, if_neg]
        rw [h.aggregateId event happended]
        exact hne
    | none =>
        have houtbox := h.outbox
        rw [happended, Option.toList_none, List.append_nil] at houtbox
        rw [lastEvent, lastEvent, houtbox]

theorem Passed.effect {p : DeliveryStatus → Prop} (hp : Lasting p) {eventId : OutboxEventId}
    (h : Passed p store eventId) (hknown : Known ids store eventId)
    (heffect : Effect ids settling store store') : Passed p store' eventId := by
  intro deliveryId delivery last hget hstatus hlast
  cases heffect with
  | marks hmarks =>
      obtain ⟨mark, hmap, hmark⟩ := lastEvent_marks hmarks deliveryId
      rw [hmap] at hlast
      obtain ⟨before, hbefore, rfl⟩ := Option.map_eq_some_iff.1 hlast
      rw [hmarks.deliveries] at hget
      rw [(hmark before (lastEvent_mem hbefore).1).1.id]
      exact h deliveryId delivery before hget hstatus hbefore
  | @creates created event hcreates =>
      rw [lastEvent_append hcreates.outbox] at hlast
      split_ifs at hlast with hid
      · cases hlast
        rintro rfl
        exact hcreates.fresh.not_known hknown
      · rw [hcreates.deliveries, KeyTable.get?_set_of_ne] at hget
        · exact h deliveryId delivery last hget hstatus hlast
        · exact fun hkey => hid (hcreates.aggregateId.trans hkey)
  | @writes before after appended hwrites =>
      by_cases hid : before.id = deliveryId
      · rw [← hid, hwrites.stored'] at hget
        cases hget
        rw [← hid] at hlast
        rcases hwrites.lastEvent_cases hp hstatus with ⟨event, hevent, -, hfresh⟩ | ⟨hbefore, -, hsame⟩
        · rw [hevent] at hlast
          cases hlast
          rintro rfl
          exact hfresh.not_known hknown
        · rw [hsame] at hlast
          exact h before.id before last hwrites.stored hbefore hlast
      · obtain ⟨hsame, hsameLast⟩ := hwrites.lastEvent_of_ne hid
        rw [hsame] at hget
        rw [hsameLast] at hlast
        exact h deliveryId delivery last hget hstatus hlast

theorem NotStranded.effect (h : NotStranded store)
    (hsettling : ∀ eventId, settling eventId → Passed DeliveryStatus.isOwed store eventId)
    (heffect : Effect ids settling store store') : NotStranded store' := by
  intro deliveryId delivery hget howed
  cases heffect with
  | marks hmarks =>
      rw [hmarks.deliveries] at hget
      obtain ⟨last, hlast, hpending⟩ := h deliveryId delivery hget howed
      obtain ⟨mark, hmap, hmark⟩ := lastEvent_marks hmarks deliveryId
      refine ⟨mark last, by rw [hmap, hlast, Option.map_some], ?_⟩
      rcases (hmark last (lastEvent_mem hlast).1).2 with hsame | hending
      · rw [hsame, hpending]
      · exact absurd rfl (hsettling _ hending deliveryId delivery last hget howed hlast)
  | @creates created event hcreates =>
      rw [lastEvent_append hcreates.outbox]
      split_ifs with hid
      · exact ⟨event, rfl, hcreates.pending⟩
      · rw [hcreates.deliveries, KeyTable.get?_set_of_ne] at hget
        · exact h deliveryId delivery hget howed
        · exact fun hkey => hid (hcreates.aggregateId.trans hkey)
  | @writes before after appended hwrites =>
      by_cases hid : before.id = deliveryId
      · rw [← hid, hwrites.stored'] at hget
        cases hget
        rw [← hid]
        rcases hwrites.lastEvent_cases lasting_isOwed howed with ⟨event, hevent, hpending, -⟩ |
          ⟨hbefore, -, hsame⟩
        · exact ⟨event, hevent, hpending⟩
        · rw [hsame]
          exact h before.id before hwrites.stored hbefore
      · obtain ⟨hsame, hsameLast⟩ := hwrites.lastEvent_of_ne hid
        rw [hsame] at hget
        rw [hsameLast]
        exact h deliveryId delivery hget howed

/-! ## Transactions -/

theorem Passed.effects {p : DeliveryStatus → Prop} (hp : Lasting p) {eventId : OutboxEventId}
    (h : Passed p store eventId) (hknown : Known ids store eventId)
    (heffects : Effects ids settling store store') : Passed p store' eventId := by
  induction heffects with
  | refl => exact h
  | tail hbefore heffect ih => exact ih.effect hp (hknown.mono (Effects.idsUsed_le hbefore)) heffect

theorem NotStranded.effects (h : NotStranded store)
    (hsettling : ∀ eventId, settling eventId → Known ids store eventId ∧
      Passed DeliveryStatus.isOwed store eventId)
    (heffects : Effects ids settling store store') : NotStranded store' := by
  induction heffects with
  | refl => exact h
  | tail hbefore heffect ih =>
      refine ih.effect (fun eventId hending => ?_) heffect
      obtain ⟨hknown, hpassed⟩ := hsettling eventId hending
      exact hpassed.effects lasting_isOwed hknown hbefore

/-- Only the delivery of an event has to be looked at. -/
theorem Passed.of_delivery {p : DeliveryStatus → Prop}
    (hsound : StoreSound ids store) (hevents : EventsSound store [event])
    (h : ∀ delivery last, store.deliveries.get? event.aggregateId = some delivery →
      p delivery.status → lastEvent store event.aggregateId = some last → last.id ≠ event.id) :
    Passed p store event.id := by
  intro deliveryId delivery last hget hstatus hlast hid
  obtain ⟨stored, hstored, hlike⟩ := hevents event (List.mem_singleton_self event)
  obtain ⟨hmem, haggregate⟩ := lastEvent_mem hlast
  have hsame : last = stored :=
    List.inj_on_of_nodup_map hsound.distinct hmem hstored (hid.trans hlike.id)
  have hdelivery : event.aggregateId = deliveryId := by
    rw [hlike.aggregateId, ← hsame, haggregate]
  rw [← hdelivery] at hget hlast
  exact h delivery last hget hstatus hlast hid

/-- An event that is not owed any more. -/
theorem Passed.of_status {p : DeliveryStatus → Prop} {delivery : Delivery}
    (hsound : StoreSound ids store) (hevents : EventsSound store [event])
    (hget : store.deliveries.get? event.aggregateId = some delivery) (hstatus : ¬ p delivery.status) :
    Passed p store event.id := by
  refine Passed.of_delivery hsound hevents fun found last hfound hp => ?_
  rw [hget] at hfound
  cases hfound
  exact absurd hp hstatus

/-- What a call has passed. -/
structure CallPassed (store : ImStore) (call : Call) : Prop where
  settles : ∀ eventId, call.settles eventId → Passed DeliveryStatus.isOwed store eventId
  dispatch : ∀ task phase, call.dispatch = some (some task, phase) →
    Passed DeliveryStatus.isWaiting store task.event.id

theorem CallPassed.of_idle {call : Call} (hsettles : ∀ eventId, ¬ call.settles eventId)
    (hdispatch : call.dispatch = none) : CallPassed store call where
  settles eventId h := absurd h (hsettles eventId)
  dispatch task phase h := by
    rw [hdispatch] at h
    cases h

theorem CallPassed.publishing {task : WorkerTask}
    (h : Passed DeliveryStatus.isOwed store task.event.id) :
    CallPassed store (.publishing task) where
  settles := by
    rintro _ rfl
    exact h
  dispatch _ _ hdispatch := by cases hdispatch

theorem CallPassed.nextTask (events : List ImOutboxEvent) : CallPassed store (nextTask events) := by
  cases events <;> exact CallPassed.of_idle (fun _ h => h) rfl

theorem CallSound.known_of_mem {call : Call} (h : CallSound ids store call)
    (hsound : StoreSound ids store) (hevent : event ∈ call.events) :
    Known ids store event.id := by
  obtain ⟨stored, hstored, hlike⟩ := h.events event hevent
  rw [hlike.id]
  exact (hsound.events stored hstored).1

theorem CallSound.known_settles {call : Call} (h : CallSound ids store call)
    (hsound : StoreSound ids store) {eventId : OutboxEventId} (hsettles : call.settles eventId) :
    Known ids store eventId := by
  cases call with
  | publishing task =>
      cases hsettles
      exact h.known_of_mem hsound List.mem_cons_self
  | failing task =>
      cases hsettles
      exact h.known_of_mem hsound List.mem_cons_self
  | _ => exact hsettles.elim

theorem CallSound.known_dispatch {call : Call} (h : CallSound ids store call)
    (hsound : StoreSound ids store) {task : WorkerTask} {phase : DispatchPhase}
    (hdispatch : call.dispatch = some (some task, phase)) : Known ids store task.event.id := by
  cases call with
  | dispatching owner phase =>
      cases hdispatch
      exact h.known_of_mem hsound List.mem_cons_self
  | _ => cases hdispatch

theorem CallPassed.effects {call : Call} (h : CallPassed store call)
    (hcall : CallSound ids store call) (hsound : StoreSound ids store)
    (heffects : Effects ids settling store store') : CallPassed store' call where
  settles eventId hsettles :=
    (h.settles eventId hsettles).effects lasting_isOwed (hcall.known_settles hsound hsettles) heffects
  dispatch task phase hdispatch :=
    (h.dispatch task phase hdispatch).effects lasting_isWaiting
      (hcall.known_dispatch hsound hdispatch) heffects

/-! ## Calls -/

variable {answers : Answers} {next call : Call}

/-- The worker of a dispatch that has ended publishes only an event that it has passed. -/
theorem CallPassed.afterDispatch {owner : Option WorkerTask} {result : Delivery}
    (h : ∀ task ∈ owner, result.status ≠ .sending → result.status ≠ .permanentFailed →
      Passed DeliveryStatus.isOwed store task.event.id) :
    CallPassed store (afterDispatch owner result) := by
  cases owner with
  | none => exact CallPassed.of_idle (fun _ h => h) rfl
  | some task =>
      dsimp only [Gateway.afterDispatch]
      split
      · exact CallPassed.nextTask task.rest
      · exact CallPassed.of_idle (fun _ h => h) rfl
      · rename_i hsending hfailed
        exact CallPassed.publishing (h task rfl hsending hfailed)

/-- The delivery of a worker's event is stored, so its dispatch finds it. -/
theorem CallPassed.afterDispatchError {owner : Option WorkerTask} {error : ImGatewayError}
    (h : ∀ task ∈ owner, error.code ≠ .deliveryNotFound) :
    CallPassed store (afterDispatchError owner error) := by
  cases owner with
  | none => exact CallPassed.of_idle (fun _ h => h) rfl
  | some task =>
      dsimp only [Gateway.afterDispatchError]
      rw [if_neg (h task rfl)]
      exact CallPassed.nextTask task.rest

/-- The delivery of an event of a call is stored. -/
theorem EventsSound.stored {events : List ImOutboxEvent} (h : EventsSound store events)
    (hsound : StoreSound ids store) (hevent : event ∈ events) :
    ∃ delivery, store.deliveries.get? event.aggregateId = some delivery := by
  obtain ⟨stored, hstored, hlike⟩ := h event hevent
  rw [hlike.aggregateId]
  exact Option.isSome_iff_exists.1 (hsound.events stored hstored).2

theorem EventsSound.singleton {events : List ImOutboxEvent} (h : EventsSound store events)
    (hevent : event ∈ events) : EventsSound store [event] := by
  intro found hfound
  rw [List.mem_singleton.1 hfound]
  exact h event hevent

theorem startDispatch_passed {owner : Option WorkerTask} {claimTime now : IsoDateTime}
    {deliveryId : DeliveryId} (hsound : StoreSound ports.ids store)
    (hevents : EventsSound store (ownerEvents owner))
    (howner : ∀ task ∈ owner, deliveryId = task.event.aggregateId)
    (h : startDispatch ports owner claimTime now deliveryId store = (next, store')) :
    CallPassed store' next := by
  have hstart : Effects ports.ids (fun _ => False) store store' ∧ CallSound ports.ids store' next :=
    startDispatch_sound hevents howner h
  rcases startDispatch_cases h with ⟨error, rfl, rfl, hmissing⟩ |
    ⟨delivery, result, attempt, rfl, hwrites, -, hstatus, -⟩ |
    ⟨delivery, target, rfl, hwrites, hid, hstatus, -⟩
  · refine CallPassed.afterDispatchError fun task htask hcode => ?_
    cases htask
    obtain ⟨delivery, hget⟩ := hevents.stored hsound List.mem_cons_self
    rw [howner task rfl, hget] at hmissing
    cases hmissing hcode
  · exact CallPassed.afterDispatch fun task _ _ hfailed => absurd hstatus hfailed
  · refine ⟨nofun, ?_⟩
    rintro task phase ⟨⟩
    have hget := hwrites.stored'
    rw [hid, howner task rfl] at hget
    refine Passed.of_status (hstart.1.storeSound hsound)
      (hstart.2.events.singleton List.mem_cons_self) hget ?_
    rw [hstatus]
    simp [DeliveryStatus.isWaiting]

theorem advanceDispatch_passed {owner : Option WorkerTask} {phase : DispatchPhase}
    (hsound : StoreSound ports.ids store) (hcall : CallSound ports.ids store (.dispatching owner phase))
    (hpassed : CallPassed store (.dispatching owner phase))
    (h : advanceDispatch ports owner answers store phase = (next, store')) :
    CallPassed store' next := by
  have hdispatch := hcall.dispatch _ rfl
  have hnext : Effects ports.ids (fun _ => False) store store' ∧ CallSound ports.ids store' next :=
    advanceDispatch_sound hsound hcall h
  have hmono := hpassed.effects hcall hsound hnext.1
  rcases advanceDispatch_cases h hdispatch.target with ⟨result, rfl, hends⟩ |
    ⟨attempt, delivery, -, rfl, -⟩ | ⟨attempt, -, rfl, rfl⟩
  · refine CallPassed.afterDispatch fun task htask hsending _ => ?_
    cases htask
    have hget : store'.deliveries.get? task.event.aggregateId = some result := by
      rw [← hdispatch.owner task rfl]
      rcases hends with ⟨-, rfl, hget⟩ | ⟨-, -, delivery, appended, hid, hwrites⟩
      · exact hget
      · rw [← hid]
        exact hwrites.stored'
    refine Passed.of_delivery (hnext.1.storeSound hsound)
      ((hcall.events.singleton List.mem_cons_self).mono hnext.1) fun found last hfound howed => ?_
    rw [hget] at hfound
    cases hfound
    rcases DeliveryStatus.isOwed_iff.1 howed with hwaiting | hstatus
    · exact hmono.dispatch task phase rfl _ _ last hget hwaiting
    · exact absurd hstatus hsending
  · exact ⟨nofun, fun task _ heq => hmono.dispatch task phase (by cases heq; rfl)⟩
  · exact ⟨nofun, fun task _ heq => hmono.dispatch task phase (by cases heq; rfl)⟩

theorem advanceCall_passed (hsound : StoreSound ports.ids store)
    (hcall : CallSound ports.ids store call) (hpassed : CallPassed store call)
    (h : advanceCall ports answers store call = (next, store')) : CallPassed store' next := by
  cases call with
  | dispatching owner phase => exact advanceDispatch_passed hsound hcall hpassed h
  | reading task =>
      cases h
      obtain ⟨delivery, hget⟩ := hcall.events.stored hsound List.mem_cons_self
      rw [hget]
      dsimp only [processEvent]
      split
      · exact CallPassed.of_idle (fun _ h => h) rfl
      · split
        · rename_i hconsumed
          refine CallPassed.publishing (Passed.of_status hsound
            (hcall.events.singleton List.mem_cons_self) hget fun howed => ?_)
          rcases howed with hstatus | hstatus | hstatus <;> simp [isConsumed, hstatus] at hconsumed
        · exact CallPassed.of_idle (fun _ h => h) rfl
  | claiming task =>
      have hevents : EventsSound store (ownerEvents (some task)) := hcall.events
      refine startDispatch_passed hsound hevents ?_ h
      rintro _ ⟨⟩
      rfl
  | deadLettering task insideTry =>
      obtain ⟨found, hfound⟩ := hcall.events.stored hsound List.mem_cons_self
      dsimp only [advanceCall, deadLetterCall] at h
      split at h
      · rename_i hmark
        cases h
        obtain ⟨delivery, hwrites, hid, hstatus, -⟩ := markDeadLetter_writes ports.ids hmark
        have heffects : Effects ports.ids (fun _ => False) store store' := Effects.of_writes hwrites
        have hget := hwrites.stored'
        rw [hid] at hget
        refine CallPassed.publishing (Passed.of_status (heffects.storeSound hsound)
          ((hcall.events.singleton List.mem_cons_self).mono heffects) hget ?_)
        rw [hstatus]
        simp [DeliveryStatus.isOwed]
      · rename_i error hmark
        have hcode : error.code ≠ .deliveryNotFound := by
          unfold markDeadLetter at hmark
          rw [hfound] at hmark
          dsimp only at hmark
          split at hmark <;> cases hmark
          simp
        split at h <;> cases h
        · exact CallPassed.afterDispatchError fun _ _ => hcode
        · exact CallPassed.of_idle (fun _ h => h) rfl
  | publishing task =>
      cases h
      exact CallPassed.nextTask task.rest
  | failing task =>
      cases h
      exact CallPassed.nextTask task.rest
  | publishingCommands commands =>
      cases commands <;> cases h <;> exact CallPassed.of_idle (fun _ h => h) rfl
  | finished =>
      cases h
      exact hpassed

/-! ## Steps -/

/-- Nothing is stranded, and no call is about to strand a delivery. -/
structure Served (ports : Ports) (state : GatewayState) : Prop extends Sound ports state where
  notStranded : NotStranded state.store
  passed : ∀ call ∈ state.calls, CallPassed state.store call

theorem Served.init (ports : Ports) : Served ports {} where
  toSound := Sound.init ports
  notStranded _ _ h := by cases h
  passed _ h := absurd h List.not_mem_nil

/-- The calls that a step adds or changes have passed what they end. -/
theorem CallChange.passed {state : GatewayState} {store' : ImStore} {calls : List Call}
    (hserved : Served ports state) (h : CallChange ports state store' calls) :
    ∀ call ∈ calls, call ∈ state.calls ∨ CallPassed store' call := by
  have happend : ∀ {call}, CallPassed store' call →
      ∀ call' ∈ state.calls ++ [call], call' ∈ state.calls ∨ CallPassed store' call' := by
    intro call hcall call' hmem
    rcases List.mem_append.1 hmem with hold | hnew
    · exact Or.inl hold
    · rw [List.mem_singleton.1 hnew]
      exact Or.inr hcall
  have hset : ∀ {index call}, CallPassed store' call →
      ∀ call' ∈ state.calls.set index call, call' ∈ state.calls ∨ CallPassed store' call' := by
    intro index call hcall call' hmem
    rcases List.mem_or_eq_of_mem_set hmem with hold | rfl
    · exact Or.inl hold
    · exact Or.inr hcall
  cases h with
  | same => exact fun _ => Or.inl
  | commands commands => exact happend (CallPassed.of_idle (fun _ h => h) rfl)
  | batch events => exact happend (CallPassed.nextTask events)
  | start h =>
      exact happend (startDispatch_passed hserved.store (fun _ h => absurd h List.not_mem_nil)
        (fun _ h => absurd h (Option.not_mem_none _)) h)
  | advance hget h =>
      have hmem := List.mem_of_getElem? hget
      exact hset (advanceCall_passed hserved.store (hserved.calls _ hmem) (hserved.passed _ hmem) h)
  | crash index => exact hset (CallPassed.of_idle (fun _ h => h) rfl)

theorem step_served {state : GatewayState} (hserved : Served ports state) (event : GatewayEvent) :
    Served ports (step ports state event) := by
  have hsteps := step_steps hserved.toSound event
  refine ⟨hsteps.sound hserved.toSound, ?_, fun call hcall => ?_⟩
  · refine hserved.notStranded.effects ?_ hsteps.effects
    rintro eventId ⟨call, hcall, hsettles⟩
    exact ⟨(hserved.calls call hcall).known_settles hserved.store hsettles,
      (hserved.passed call hcall).settles eventId hsettles⟩
  · rcases (step_callChange ports state event).passed hserved call hcall with hold | hnew
    · exact (hserved.passed call hold).effects (hserved.calls call hold) hserved.store hsteps.effects
    · exact hnew

theorem served_run (ports : Ports) (events : List GatewayEvent) :
    Run.AllStates (step ports) (Served ports) {} events :=
  Run.allStates_of_invariant (fun _ event hserved => step_served hserved event) (Served.init ports)

/-- In every state of every run, an owed delivery has a pending event. -/
theorem owed_delivery_has_pending_event (ports : Ports) (events : List GatewayEvent) :
    Run.AllStates (step ports) (fun state => ∀ delivery ∈ state.store.deliveries.rows,
      delivery.status = .pending ∨ delivery.status = .sending ∨ delivery.status = .retryableFailed →
        ∃ event ∈ state.store.outbox, event.aggregateId = delivery.id ∧ event.status = .pending)
      {} events := by
  intro done hdone delivery hmem howed
  have hserved := served_run ports events done hdone
  obtain ⟨last, hlast, hpending⟩ :=
    hserved.notStranded delivery.id delivery (KeyTable.get?_key hmem) howed
  exact ⟨last, (lastEvent_mem hlast).1, (lastEvent_mem hlast).2, hpending⟩

end VoiceLife.Gateway
