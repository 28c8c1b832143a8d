import VoiceLife.Gateway.Effects

/-! # What holds of the delivery side in every state

Events and deliveries have ids of the generator, events belong to stored deliveries, and the calls between
two transactions work on stored deliveries and events.
-/

namespace VoiceLife.Gateway

variable {ports : Ports} {ids : IdGenerator} {settling : OutboxEventId → Prop}
  {store store' : ImStore}

/-- The id is already in use. -/
def Known (ids : IdGenerator) (store : ImStore) (id : JsString) : Prop :=
  ∃ n < store.idsUsed, id = ids.nth n

theorem Known.mono {id : JsString} (h : Known ids store id) (hused : store.idsUsed ≤ store'.idsUsed) :
    Known ids store' id := by
  obtain ⟨n, hn, rfl⟩ := h
  exact ⟨n, hn.trans_le hused, rfl⟩

theorem Generated.known {id : JsString} (h : Generated ids store store' id) :
    Known ids store' id := by
  obtain ⟨n, -, hn, rfl⟩ := h
  exact ⟨n, hn, rfl⟩

/-- A generated id is new. -/
theorem Generated.not_known {id : JsString} (h : Generated ids store store' id) :
    ¬ Known ids store id := by
  obtain ⟨n, hn, -, rfl⟩ := h
  rintro ⟨m, hm, heq⟩
  rw [ids.injective heq] at hn
  exact absurd hm (not_lt.2 hn)

/-- The delivery side of a store is sound. -/
structure StoreSound (ids : IdGenerator) (store : ImStore) : Prop where
  distinct : DistinctEvents store.outbox
  events : ∀ event ∈ store.outbox, Known ids store event.id ∧
    (store.deliveries.get? event.aggregateId).isSome
  deliveries : ∀ delivery ∈ store.deliveries.rows, Known ids store delivery.id ∧
    ∀ token ∈ delivery.claimToken, Known ids store token

theorem Effect.idsUsed_le (h : Effect ids settling store store') :
    store.idsUsed ≤ store'.idsUsed := by
  rcases h with h | h | h <;> exact h.idsUsed

theorem Creates.get?_eq_none {delivery : Delivery} {event : ImOutboxEvent}
    (h : Creates ids store store' delivery event) (hsound : StoreSound ids store) :
    store.deliveries.get? delivery.id = none := by
  rw [KeyTable.get?_eq_none]
  intro found hfound hid
  have hknown := (hsound.deliveries found hfound).1
  rw [show found.id = delivery.id from hid] at hknown
  exact h.generated.not_known hknown

/-- Deliveries stay stored and keep what they are about. -/
theorem Effect.delivery (h : Effect ids settling store store') (hsound : StoreSound ids store)
    {deliveryId : DeliveryId} {delivery : Delivery}
    (hget : store.deliveries.get? deliveryId = some delivery) :
    ∃ delivery', store'.deliveries.get? deliveryId = some delivery' ∧
      SameDelivery delivery delivery' := by
  rcases h with h | ⟨h⟩ | ⟨h⟩
  · rw [h.deliveries]
    exact ⟨delivery, hget, SameDelivery.refl delivery⟩
  · rename_i created event
    rw [h.deliveries, KeyTable.get?_set_of_ne]
    · exact ⟨delivery, hget, SameDelivery.refl delivery⟩
    · intro hkey
      have hnone := h.get?_eq_none hsound
      rw [show created.id = deliveryId from hkey, hget] at hnone
      cases hnone
  · rename_i before after appended
    rw [h.deliveries, KeyTable.get?_set]
    split_ifs with hkey
    · have hid : before.id = deliveryId := h.same.id_eq.symm.trans hkey
      have hstored := h.stored
      rw [hid, hget] at hstored
      cases hstored
      exact ⟨after, rfl, h.same⟩
    · exact ⟨delivery, hget, SameDelivery.refl delivery⟩

theorem Effect.isSome (h : Effect ids settling store store') (hsound : StoreSound ids store)
    {deliveryId : DeliveryId} (hsome : (store.deliveries.get? deliveryId).isSome) :
    (store'.deliveries.get? deliveryId).isSome := by
  obtain ⟨delivery, hget⟩ := Option.isSome_iff_exists.1 hsome
  obtain ⟨delivery', hget', -⟩ := h.delivery hsound hget
  exact Option.isSome_iff_exists.2 ⟨delivery', hget'⟩

/-- Appended events are new. -/
theorem DistinctEvents.append {appended : Option ImOutboxEvent} (hsound : StoreSound ids store)
    (hfresh : ∀ event ∈ appended, Generated ids store store' event.id) :
    DistinctEvents (store.outbox ++ appended.toList) := by
  rw [DistinctEvents, List.map_append, List.nodup_append]
  refine ⟨hsound.distinct, ?_, ?_⟩
  · cases appended <;> simp
  · intro eventId hmem freshId hfreshId heq
    obtain ⟨event, hevent, rfl⟩ := List.mem_map.1 hmem
    obtain ⟨new, hnew, rfl⟩ := List.mem_map.1 hfreshId
    have hknown := (hsound.events event hevent).1
    rw [heq] at hknown
    exact (hfresh new (Option.mem_toList.1 hnew)).not_known hknown

/-- Events after one has been appended. -/
theorem StoreSound.events_append {appended : Option ImOutboxEvent} (hsound : StoreSound ids store)
    (hused : store.idsUsed ≤ store'.idsUsed)
    (hkept : ∀ deliveryId, (store.deliveries.get? deliveryId).isSome →
      (store'.deliveries.get? deliveryId).isSome)
    (houtbox : store'.outbox = store.outbox ++ appended.toList)
    (hfresh : ∀ event ∈ appended, Generated ids store store' event.id)
    (hstored : ∀ event ∈ appended, (store'.deliveries.get? event.aggregateId).isSome) :
    ∀ event ∈ store'.outbox, Known ids store' event.id ∧
      (store'.deliveries.get? event.aggregateId).isSome := by
  intro event hevent
  rw [houtbox, List.mem_append, Option.mem_toList] at hevent
  rcases hevent with hevent | hevent
  · obtain ⟨hknown, hsome⟩ := hsound.events event hevent
    exact ⟨hknown.mono hused, hkept _ hsome⟩
  · exact ⟨(hfresh event hevent).known, hstored event hevent⟩

theorem Effect.storeSound (heffect : Effect ids settling store store')
    (hsound : StoreSound ids store) : StoreSound ids store' := by
  have hused := heffect.idsUsed_le
  have hsome : ∀ deliveryId, (store.deliveries.get? deliveryId).isSome →
      (store'.deliveries.get? deliveryId).isSome := fun _ => heffect.isSome hsound
  have hkept : ∀ delivery ∈ store.deliveries.rows, Known ids store' delivery.id ∧
      ∀ token ∈ delivery.claimToken, Known ids store' token := by
    intro delivery hmem
    obtain ⟨hknown, htoken⟩ := hsound.deliveries delivery hmem
    exact ⟨hknown.mono hused, fun token hmem => (htoken token hmem).mono hused⟩
  cases heffect with
  | marks h =>
      obtain ⟨mark, houtbox, hmark⟩ := h.outbox
      refine ⟨h.distinctEvents hsound.distinct, fun event' hevent' => ?_, ?_⟩
      · rw [houtbox] at hevent'
        obtain ⟨event, hevent, rfl⟩ := List.mem_map.1 hevent'
        obtain ⟨⟨hid, -, haggregate⟩, -⟩ := hmark event hevent
        obtain ⟨hknown, hsome⟩ := hsound.events event hevent
        rw [hid, haggregate, h.deliveries]
        exact ⟨hknown.mono hused, hsome⟩
      · rw [h.deliveries]
        exact hkept
  | @creates delivery event h =>
      have hevent : ∀ appended ∈ some event, Generated ids store store' appended.id := by
        rintro _ ⟨⟩
        exact h.fresh
      refine ⟨?_, ?_, ?_⟩
      · rw [h.outbox]
        exact DistinctEvents.append hsound hevent
      · refine hsound.events_append hused hsome
          (show store'.outbox = store.outbox ++ (some event).toList from h.outbox) hevent ?_
        rintro _ ⟨⟩
        rw [h.deliveries, h.aggregateId]
        exact Option.isSome_iff_exists.2 ⟨_, KeyTable.get?_set_self _ delivery⟩
      · intro stored hstored
        rw [h.deliveries] at hstored
        rcases KeyTable.mem_set_of_mem hstored with rfl | hmem
        · refine ⟨h.generated.known, fun token htoken => ?_⟩
          rw [h.claimToken] at htoken
          cases htoken
        · exact hkept stored hmem
  | @writes before after appended h =>
      refine ⟨?_, hsound.events_append hused hsome h.outbox h.fresh ?_, ?_⟩
      · rw [h.outbox]
        exact DistinctEvents.append hsound h.fresh
      · intro event hevent
        rw [h.aggregateId event hevent, h.stored']
        rfl
      · intro stored hstored
        rw [h.deliveries] at hstored
        rcases KeyTable.mem_set_of_mem hstored with rfl | hmem
        · obtain ⟨hknown, htokens⟩ := hkept before (KeyTable.get?_eq_some.1 h.stored).1
          refine ⟨h.same.id_eq.symm ▸ hknown, fun token htoken => ?_⟩
          rcases h.claimToken with hnone | hsame | ⟨fresh, hfresh, hnew⟩
          · rw [hnone] at htoken
            cases htoken
          · exact htokens token (hsame ▸ htoken)
          · rw [hnew] at htoken
            cases htoken
            exact hfresh.known
        · exact hkept stored hmem

/-- Events stay in the outbox. -/
theorem Effect.event (h : Effect ids settling store store') {event : ImOutboxEvent}
    (hevent : event ∈ store.outbox) : ∃ event' ∈ store'.outbox, LikeEvent event event' := by
  cases h with
  | marks h => exact h.exists_mem hevent
  | creates h =>
      refine ⟨event, ?_, LikeEvent.refl event⟩
      rw [h.outbox]
      exact List.mem_append_left _ hevent
  | writes h =>
      refine ⟨event, ?_, LikeEvent.refl event⟩
      rw [h.outbox]
      exact List.mem_append_left _ hevent

/-! ## Sequences of effects -/

theorem Effects.storeSound (h : Effects ids settling store store')
    (hsound : StoreSound ids store) : StoreSound ids store' := by
  induction h with
  | refl => exact hsound
  | tail _ heffect ih => exact heffect.storeSound ih

theorem Effects.idsUsed_le (h : Effects ids settling store store') :
    store.idsUsed ≤ store'.idsUsed := by
  induction h with
  | refl => exact le_rfl
  | tail _ heffect ih => exact ih.trans heffect.idsUsed_le

theorem Effects.delivery (h : Effects ids settling store store') (hsound : StoreSound ids store)
    {deliveryId : DeliveryId} {delivery : Delivery}
    (hget : store.deliveries.get? deliveryId = some delivery) :
    ∃ delivery', store'.deliveries.get? deliveryId = some delivery' ∧
      SameDelivery delivery delivery' := by
  induction h with
  | refl => exact ⟨delivery, hget, SameDelivery.refl delivery⟩
  | tail hbefore heffect ih =>
      obtain ⟨middle, hmiddle, hsame⟩ := ih
      obtain ⟨delivery', hget', hsame'⟩ := heffect.delivery (Effects.storeSound hbefore hsound) hmiddle
      exact ⟨delivery', hget', hsame.trans hsame'⟩

theorem Effects.event (h : Effects ids settling store store') {event : ImOutboxEvent}
    (hevent : event ∈ store.outbox) : ∃ event' ∈ store'.outbox, LikeEvent event event' := by
  induction h with
  | refl => exact ⟨event, hevent, LikeEvent.refl event⟩
  | tail _ heffect ih =>
      obtain ⟨middle, hmiddle, hlike⟩ := ih
      obtain ⟨event', hevent', hlike'⟩ := heffect.event hmiddle
      exact ⟨event', hevent', hlike.trans hlike'⟩

theorem Effects.imp {settling' : OutboxEventId → Prop} (h : Effects ids settling store store')
    (himp : ∀ eventId, settling eventId → settling' eventId) :
    Effects ids settling' store store' := by
  refine Relation.ReflTransGen.mono (fun before after heffect => ?_) _ _ h
  cases heffect with
  | marks h => exact Effect.marks (h.imp himp)
  | creates h => exact Effect.creates h
  | writes h => exact Effect.writes h

/-! ## Calls -/

/-- The events that a worker still has. -/
def WorkerTask.events (task : WorkerTask) : List ImOutboxEvent :=
  task.event :: task.rest

/-- The events that a call still has. -/
def Call.events : Call → List ImOutboxEvent
  | .dispatching (some task) _ => task.events
  | .reading task => task.events
  | .claiming task => task.events
  | .deadLettering task _ => task.events
  | .publishing task => task.events
  | .failing task => task.events
  | _ => []

/-- The call is about to end an event. -/
def Call.settles : Call → OutboxEventId → Prop
  | .publishing task => fun eventId => task.event.id = eventId
  | .failing task => fun eventId => task.event.id = eventId
  | _ => fun _ => False

/-- The dispatch of a call. -/
def Call.dispatch : Call → Option (Option WorkerTask × DispatchPhase)
  | .dispatching owner phase => some (owner, phase)
  | _ => none

/-- Events that a call has are events of the outbox. -/
def EventsSound (store : ImStore) (events : List ImOutboxEvent) : Prop :=
  ∀ event ∈ events, ∃ event' ∈ store.outbox, LikeEvent event' event

/-- A dispatch works on a stored delivery, under a known claim and for the event of its worker. -/
structure DispatchSound (ids : IdGenerator) (store : ImStore) (owner : Option WorkerTask)
    (phase : DispatchPhase) : Prop where
  target : Targets store phase.target
  claimToken : Known ids store phase.claimToken
  owner : ∀ task ∈ owner, phase.target.id = task.event.aggregateId

/-- A call between two transactions is sound. -/
structure CallSound (ids : IdGenerator) (store : ImStore) (call : Call) : Prop where
  events : EventsSound store call.events
  dispatch : ∀ dispatch ∈ call.dispatch, DispatchSound ids store dispatch.1 dispatch.2

theorem EventsSound.mono {events : List ImOutboxEvent} (h : EventsSound store events)
    (heffects : Effects ids settling store store') : EventsSound store' events := by
  intro event hevent
  obtain ⟨event', hevent', hlike⟩ := h event hevent
  obtain ⟨event'', hevent'', hlike'⟩ := heffects.event hevent'
  exact ⟨event'', hevent'', hlike'.symm.trans hlike⟩

theorem Targets.mono {target : Delivery} (h : Targets store target)
    (heffects : Effects ids settling store store') (hsound : StoreSound ids store) :
    Targets store' target := by
  obtain ⟨delivery, hget, hsame⟩ := h
  obtain ⟨delivery', hget', hsame'⟩ := heffects.delivery hsound hget
  exact ⟨delivery', hget', hsame'.symm.trans hsame⟩

theorem CallSound.mono {call : Call} (h : CallSound ids store call)
    (heffects : Effects ids settling store store') (hsound : StoreSound ids store) :
    CallSound ids store' call where
  events := h.events.mono heffects
  dispatch dispatch hdispatch :=
    have hold := h.dispatch dispatch hdispatch
    ⟨hold.target.mono heffects hsound, hold.claimToken.mono heffects.idsUsed_le, hold.owner⟩

/-- A call without a dispatch. -/
theorem CallSound.of_events {call : Call} {events : List ImOutboxEvent}
    (h : EventsSound store events) (hsub : call.events ⊆ events) (hnone : call.dispatch = none) :
    CallSound ids store call where
  events event hevent := h event (hsub hevent)
  dispatch dispatch hdispatch := by
    rw [hnone] at hdispatch
    exact absurd hdispatch (Option.not_mem_none dispatch)

theorem nextTask_events (events : List ImOutboxEvent) :
    (nextTask events).events = events ∧ (nextTask events).dispatch = none := by
  cases events with
  | nil => exact ⟨rfl, rfl⟩
  | cons event rest => exact ⟨rfl, rfl⟩

/-- The events of the worker that started a dispatch. -/
def ownerEvents (owner : Option WorkerTask) : List ImOutboxEvent :=
  owner.elim [] WorkerTask.events

theorem afterDispatch_events (owner : Option WorkerTask) (result : Delivery) :
    (afterDispatch owner result).events ⊆ ownerEvents owner ∧
      (afterDispatch owner result).dispatch = none := by
  cases owner with
  | none => exact ⟨List.nil_subset _, rfl⟩
  | some task =>
      unfold afterDispatch
      dsimp only
      split
      · rw [(nextTask_events task.rest).1]
        exact ⟨List.subset_cons_self _ _, (nextTask_events task.rest).2⟩
      · exact ⟨List.Subset.refl _, rfl⟩
      · exact ⟨List.Subset.refl _, rfl⟩

theorem afterDispatchError_events (owner : Option WorkerTask) (error : ImGatewayError) :
    (afterDispatchError owner error).events ⊆ ownerEvents owner ∧
      (afterDispatchError owner error).dispatch = none := by
  cases owner with
  | none => exact ⟨List.nil_subset _, rfl⟩
  | some task =>
      unfold afterDispatchError
      dsimp only
      split
      · exact ⟨List.Subset.refl _, rfl⟩
      · rw [(nextTask_events task.rest).1]
        exact ⟨List.subset_cons_self _ _, (nextTask_events task.rest).2⟩

theorem CallSound.owner_events {owner : Option WorkerTask} {phase : DispatchPhase}
    (h : CallSound ids store (.dispatching owner phase)) :
    EventsSound store (ownerEvents owner) := by
  cases owner with
  | none => nofun
  | some task => exact h.events

theorem CallSound.afterDispatch {owner : Option WorkerTask}
    (h : EventsSound store (ownerEvents owner)) (result : Delivery) :
    CallSound ids store (afterDispatch owner result) :=
  CallSound.of_events h (afterDispatch_events owner result).1 (afterDispatch_events owner result).2

theorem CallSound.afterDispatchError {owner : Option WorkerTask}
    (h : EventsSound store (ownerEvents owner)) (error : ImGatewayError) :
    CallSound ids store (afterDispatchError owner error) :=
  CallSound.of_events h (afterDispatchError_events owner error).1
    (afterDispatchError_events owner error).2

theorem CallSound.nextTask {events rest : List ImOutboxEvent} (h : EventsSound store events)
    (hsub : rest ⊆ events) : CallSound ids store (nextTask rest) := by
  refine CallSound.of_events h ?_ (nextTask_events rest).2
  rw [(nextTask_events rest).1]
  exact hsub

/-- A dispatch whose delivery was just written. -/
theorem CallSound.dispatching {owner : Option WorkerTask} {phase : DispatchPhase}
    (hevents : EventsSound store (ownerEvents owner))
    (hdispatch : DispatchSound ids store owner phase) :
    CallSound ids store (.dispatching owner phase) where
  events := by
    cases owner with
    | none => nofun
    | some task => exact hevents
  dispatch dispatch hmem := by
    cases hmem
    exact hdispatch

theorem Writes.targets {delivery delivery' : Delivery} {appended : Option ImOutboxEvent}
    (h : Writes ids store store' delivery delivery' appended) : Targets store' delivery' := by
  refine ⟨delivery', ?_, SameDelivery.refl delivery'⟩
  rw [h.same.id_eq]
  exact h.stored'

theorem Ends.effects {target result : Delivery} {claimToken : JsString}
    (h : Ends ids store store' target result claimToken) : Effects ids settling store store' := by
  rcases h with ⟨-, rfl, -⟩ | ⟨-, -, delivery, appended, -, hwrites⟩
  · exact Relation.ReflTransGen.refl
  · exact Effects.of_writes hwrites

/-! ## Steps -/

variable {answers : Answers} {next call : Call}

theorem startDispatch_sound {owner : Option WorkerTask} {claimTime now : IsoDateTime}
    {deliveryId : DeliveryId} (hevents : EventsSound store (ownerEvents owner))
    (howner : ∀ task ∈ owner, deliveryId = task.event.aggregateId)
    (h : startDispatch ports owner claimTime now deliveryId store = (next, store')) :
    Effects ports.ids settling store store' ∧ CallSound ports.ids store' next := by
  rcases startDispatch_cases h with ⟨error, rfl, rfl, -⟩ | ⟨delivery, result, attempt, rfl, hwrites, -⟩ |
    ⟨delivery, target, rfl, hwrites, hid, -, htoken, hused, -⟩
  · exact ⟨Relation.ReflTransGen.refl, CallSound.afterDispatchError hevents error⟩
  · have heffects : Effects ports.ids settling store store' := Effects.of_writes hwrites
    exact ⟨heffects, CallSound.afterDispatch (hevents.mono heffects) result⟩
  · have heffects : Effects ports.ids settling store store' := Effects.of_writes hwrites
    refine ⟨heffects, CallSound.dispatching (hevents.mono heffects) ⟨hwrites.targets, ?_, ?_⟩⟩
    · exact ⟨store.idsUsed, hused ▸ Nat.lt_succ_self _, rfl⟩
    · intro task htask
      exact (hwrites.same.id_eq.trans hid).trans (howner task htask)

theorem advanceDispatch_sound {owner : Option WorkerTask} {phase : DispatchPhase}
    (hsound : StoreSound ports.ids store) (hcall : CallSound ports.ids store (.dispatching owner phase))
    (h : advanceDispatch ports owner answers store phase = (next, store')) :
    Effects ports.ids settling store store' ∧ CallSound ports.ids store' next := by
  have hdispatch := hcall.dispatch _ rfl
  have hevents := hcall.owner_events
  rcases advanceDispatch_cases h hdispatch.target with ⟨result, rfl, hends⟩ |
    ⟨attempt, delivery, -, rfl, -, -, hwrites, -⟩ | ⟨attempt, -, rfl, rfl⟩
  · have heffects : Effects ports.ids settling store store' := hends.effects
    exact ⟨heffects, CallSound.afterDispatch (hevents.mono heffects) result⟩
  · have heffects : Effects ports.ids settling store store' := Effects.of_writes hwrites
    refine ⟨heffects, CallSound.dispatching (hevents.mono heffects) ⟨?_, ?_, hdispatch.owner⟩⟩
    · exact hdispatch.target.mono heffects hsound
    · exact hdispatch.claimToken.mono heffects.idsUsed_le
  · exact ⟨Relation.ReflTransGen.refl, CallSound.dispatching hevents ⟨hdispatch.target,
      hdispatch.claimToken, hdispatch.owner⟩⟩

theorem advanceCall_sound (hsound : StoreSound ports.ids store)
    (hcall : CallSound ports.ids store call)
    (h : advanceCall ports answers store call = (next, store')) :
    Effects ports.ids call.settles store store' ∧ CallSound ports.ids store' next := by
  cases call with
  | dispatching owner phase => exact advanceDispatch_sound hsound hcall h
  | reading task =>
      cases h
      refine ⟨Relation.ReflTransGen.refl, ?_⟩
      unfold processEvent
      split
      · exact CallSound.of_events hcall.events (List.Subset.refl _) rfl
      · split
        · exact CallSound.of_events hcall.events (List.Subset.refl _) rfl
        · split <;> exact CallSound.of_events hcall.events (List.Subset.refl _) rfl
  | claiming task =>
      have hevents : EventsSound store (ownerEvents (some task)) := hcall.events
      refine startDispatch_sound hevents ?_ h
      rintro _ ⟨⟩
      rfl
  | deadLettering task insideTry =>
      dsimp only [advanceCall, deadLetterCall] at h
      split at h
      · rename_i hmark
        cases h
        obtain ⟨delivery, hwrites, -⟩ := markDeadLetter_writes ports.ids hmark
        have heffects : Effects ports.ids (fun _ => False) store store' := Effects.of_writes hwrites
        exact ⟨heffects, CallSound.of_events (hcall.events.mono heffects) (List.Subset.refl _) rfl⟩
      · split at h <;> cases h
        · exact ⟨Relation.ReflTransGen.refl, CallSound.afterDispatchError hcall.events _⟩
        · exact ⟨Relation.ReflTransGen.refl, CallSound.of_events hcall.events (List.nil_subset _) rfl⟩
  | publishing task =>
      cases h
      have heffects : Effects ports.ids (Call.publishing task).settles store _ :=
        Effects.of_marks (markPublished_marks answers.now hsound.distinct rfl)
      exact ⟨heffects, CallSound.nextTask (hcall.events.mono heffects) (List.subset_cons_self _ _)⟩
  | failing task =>
      cases h
      have heffects : Effects ports.ids (Call.failing task).settles store _ :=
        Effects.of_marks (markFailed_marks hsound.distinct rfl)
      exact ⟨heffects, CallSound.nextTask (hcall.events.mono heffects) (List.subset_cons_self _ _)⟩
  | publishingCommands commands =>
      cases commands with
      | nil =>
          cases h
          exact ⟨Relation.ReflTransGen.refl, CallSound.of_events hcall.events (List.nil_subset _) rfl⟩
      | cons command commands =>
          cases h
          have heffects : Effects ports.ids (fun _ => False) store _ := Effects.of_keepsDeliveries
            (dispatchTransaction_keepsDeliveries answers.now command store)
          exact ⟨heffects, CallSound.of_events (hcall.events.mono heffects) (List.nil_subset _) rfl⟩
  | finished =>
      cases h
      exact ⟨Relation.ReflTransGen.refl, hcall⟩

/-- Some call is about to end the event. -/
def GatewayState.settles (state : GatewayState) (eventId : OutboxEventId) : Prop :=
  ∃ call ∈ state.calls, call.settles eventId

/-- The delivery side and the calls of a state are sound. -/
structure Sound (ports : Ports) (state : GatewayState) : Prop where
  store : StoreSound ports.ids state.store
  calls : ∀ call ∈ state.calls, CallSound ports.ids state.store call

theorem Sound.init (ports : Ports) : Sound ports {} where
  store := ⟨List.nodup_nil, fun _ h => absurd h List.not_mem_nil, fun _ h => absurd h List.not_mem_nil⟩
  calls _ h := absurd h List.not_mem_nil

/-- What a step does: its effects, and the calls that it adds or changes. -/
structure Steps (ports : Ports) (state state' : GatewayState) : Prop where
  effects : Effects ports.ids state.settles state.store state'.store
  calls : ∀ call ∈ state'.calls, call ∈ state.calls ∨ CallSound ports.ids state'.store call

theorem Steps.sound {state state' : GatewayState} (h : Steps ports state state')
    (hsound : Sound ports state) : Sound ports state' where
  store := h.effects.storeSound hsound.store
  calls call hcall := by
    rcases h.calls call hcall with hold | hnew
    · exact (hsound.calls call hold).mono h.effects hsound.store
    · exact hnew

variable {state : GatewayState}

/-- A step that leaves the calls alone. -/
theorem Steps.of_store {store' : ImStore}
    (heffects : Effects ports.ids state.settles state.store store') :
    Steps ports state { state with store := store' } :=
  ⟨heffects, fun _ => Or.inl⟩

/-- A step that adds a call. -/
theorem Steps.of_call {store' : ImStore} {call : Call}
    (heffects : Effects ports.ids state.settles state.store store')
    (hcall : CallSound ports.ids store' call) :
    Steps ports state { state with store := store', calls := state.calls ++ [call] } := by
  refine ⟨heffects, fun call' hmem => ?_⟩
  rcases List.mem_append.1 hmem with hold | hnew
  · exact Or.inl hold
  · rw [List.mem_singleton.1 hnew]
    exact Or.inr hcall

theorem Steps.refl (state : GatewayState) : Steps ports state state :=
  ⟨Relation.ReflTransGen.refl, fun _ => Or.inl⟩

/-- The commands of an action are no work on deliveries. -/
theorem CallSound.publishingCommands (commands : List ReminderActionCommand) :
    CallSound ids store (.publishingCommands commands) :=
  CallSound.of_events (fun _ h => absurd h List.not_mem_nil) (List.Subset.refl _) rfl

theorem Steps.triggered {result : Except ImGatewayError ((ReminderActionCommand × Bool) × ImStore)}
    (h : ∀ answer store', result = .ok (answer, store') → KeepsDeliveries state.store store') :
    Steps ports state (state.triggered result) := by
  unfold GatewayState.triggered
  split
  · exact Steps.refl state
  · have hkeeps := h _ _ rfl
    split
    · exact Steps.of_call (Effects.of_keepsDeliveries hkeeps) (CallSound.publishingCommands _)
    · exact Steps.of_store (Effects.of_keepsDeliveries hkeeps)

theorem Steps.committed {α : Type} {result : Except ImGatewayError (α × ImStore)}
    (h : ∀ answer store', result = .ok (answer, store') →
      Effects ports.ids state.settles state.store store') :
    Steps ports state (state.committed result) := by
  unfold GatewayState.committed
  split
  · exact Steps.refl state
  · exact Steps.of_store (h _ _ rfl)

theorem triggerPrepared_keepsDeliveries {now : IsoDateTime} {command : TriggerPreparedActionCommand}
    {answer : ReminderActionCommand × Bool}
    (h : triggerPrepared ids now command store = .ok (answer, store')) :
    KeepsDeliveries store store' := by
  rcases triggerPrepared_cases h with ⟨rfl, -⟩ | ⟨action, hcreates, -⟩
  · exact KeepsDeliveries.refl store'
  · exact hcreates.keepsDeliveries

theorem recordDeviceActionStatus_keepsDeliveries {now : IsoDateTime}
    {report : ReminderActionStatusReport} {result : Option ImAction}
    (h : recordDeviceActionStatus now report store = .ok (result, store')) :
    KeepsDeliveries store store' := by
  obtain ⟨middle, hchanges, ⟨rfl, -⟩ | hstores⟩ := recordDeviceActionStatus_cases h
  · exact hchanges.keepsDeliveries
  · have hkeeps := hchanges.keepsDeliveries
    rw [hstores.facts] at hkeeps
    exact ⟨hkeeps.channelAccounts, hkeeps.identities, hkeeps.bindings, hkeeps.intentSubmissions,
      hkeeps.deliveries, hkeeps.attempts, hkeeps.receipts, hkeeps.outbox, hkeeps.idsUsed⟩

theorem step_steps (hsound : Sound ports state) (event : GatewayEvent) :
    Steps ports state (step ports state event) := by
  cases event with
  | directory channelAccounts identities bindings =>
      exact Steps.of_store (Effects.of_marks (Marks.of_eq rfl rfl rfl le_rfl))
  | submit capabilities now input =>
      exact Steps.committed fun _ _ => createDeliveries_effects
  | retryDeadLetter now deliveryId =>
      refine Steps.committed fun _ _ h => ?_
      obtain ⟨delivery, event, hwrites, -⟩ := retryDeadLetter_writes h
      exact Effects.of_writes hwrites
  | markDeadLetter now deliveryId =>
      refine Steps.committed fun _ _ h => ?_
      obtain ⟨delivery, hwrites, -⟩ := markDeadLetter_writes ports.ids h
      exact Effects.of_writes hwrites
  | recordReceipt now receipt =>
      dsimp only [step]
      split
      · exact Steps.refl state
      · rename_i hreceipt
        rcases recordReceipt_cases hreceipt with hidle | ⟨delivery, delivery', appended, hwrites, -⟩
        · exact Steps.of_store (Effects.of_idle hidle)
        · exact Steps.of_store (Effects.of_writes hwrites)
  | dispatch claimTime now deliveryId =>
      have hnone : EventsSound state.store (ownerEvents none) :=
        fun _ h => absurd h List.not_mem_nil
      obtain ⟨heffects, hcall⟩ := startDispatch_sound hnone
        (fun _ h => absurd h (Option.not_mem_none _))
        (rfl : startDispatch ports none claimTime now deliveryId state.store = _)
      exact Steps.of_call heffects hcall
  | runOnce now leaseUntil limit =>
      have heffects : Effects ports.ids state.settles state.store
          (state.store.claimPending now leaseUntil limit).2 :=
        Effects.of_marks (claimPending_marks now leaseUntil limit hsound.store.distinct)
      have hevents : EventsSound state.store (state.store.claimPending now leaseUntil limit).1 := by
        intro event hevent
        obtain ⟨event', hmem, hlike, -⟩ := mem_claimPending hevent
        exact ⟨event', hmem, hlike⟩
      exact Steps.of_call heffects
        (CallSound.nextTask (hevents.mono heffects) (List.Subset.refl _))
  | execute now token action params actualIdentityId =>
      refine Steps.triggered fun answer store' h => ?_
      unfold executeAction at h
      split at h
      · cases h
      · split at h
        · cases h
        · exact triggerPrepared_keepsDeliveries h
  | triggerPrepared now command =>
      exact Steps.triggered fun answer store' => triggerPrepared_keepsDeliveries
  | recordResult now commandId deviceId result =>
      dsimp only [step]
      split
      · exact Steps.refl state
      · rename_i hresult
        have hkeeps := (recordResult_cases hresult).1.keepsDeliveries
        split
        · exact Steps.of_call (Effects.of_keepsDeliveries hkeeps) (CallSound.publishingCommands _)
        · exact Steps.of_store (Effects.of_keepsDeliveries hkeeps)
  | recordDeviceActionStatus now report =>
      refine Steps.committed fun _ _ h => ?_
      exact Effects.of_keepsDeliveries (recordDeviceActionStatus_keepsDeliveries h)
  | expireDue now =>
      exact Steps.of_store
        (Effects.of_keepsDeliveries (expireDue_changesOpen now state.store).keepsDeliveries)
  | recoverStaleProcessing now staleBefore =>
      exact Steps.of_call (Effects.of_keepsDeliveries
        (recoverStaleProcessing_changesOpen now staleBefore state.store).keepsDeliveries)
        (CallSound.publishingCommands _)
  | markProcessing now actionId deviceId reminderTriggerId =>
      dsimp only [step]
      split
      · exact Steps.refl state
      · rename_i hmark
        exact Steps.of_store
          (Effects.of_keepsDeliveries (markProcessing_changesOpen hmark).keepsDeliveries)
  | replayPending now deviceId reminderTriggerId =>
      exact ⟨Effects.of_keepsDeliveries
        (replayPending_changesOpen now deviceId reminderTriggerId state.store).keepsDeliveries,
        fun _ => Or.inl⟩
  | advance index answers =>
      dsimp only [step]
      split
      · exact Steps.refl state
      · rename_i call hget
        have hmem : call ∈ state.calls := List.mem_of_getElem? hget
        obtain ⟨heffects, hnext⟩ := advanceCall_sound hsound.store (hsound.calls call hmem)
          (rfl : advanceCall ports answers state.store call = _)
        refine ⟨heffects.imp fun eventId h => ⟨call, hmem, h⟩, fun call' hcall' => ?_⟩
        rcases List.mem_or_eq_of_mem_set hcall' with hold | rfl
        · exact Or.inl hold
        · exact Or.inr hnext
  | crash index =>
      refine ⟨Relation.ReflTransGen.refl, fun call hcall => ?_⟩
      rcases List.mem_or_eq_of_mem_set hcall with hold | rfl
      · exact Or.inl hold
      · exact Or.inr (CallSound.of_events (fun _ h => absurd h List.not_mem_nil)
          (List.Subset.refl _) rfl)

/-- What a step does to the calls. -/
inductive CallChange (ports : Ports) (state : GatewayState) (store' : ImStore) : List Call → Prop where
  | same : CallChange ports state store' state.calls
  | commands (commands : List ReminderActionCommand) :
      CallChange ports state store' (state.calls ++ [Call.publishingCommands commands])
  | batch (events : List ImOutboxEvent) :
      CallChange ports state store' (state.calls ++ [nextTask events])
  | start {claimTime now : IsoDateTime} {deliveryId : DeliveryId} {call : Call}
      (h : startDispatch ports none claimTime now deliveryId state.store = (call, store')) :
      CallChange ports state store' (state.calls ++ [call])
  | advance {index : ℕ} {answers : Answers} {call next : Call}
      (hget : state.calls[index]? = some call)
      (h : advanceCall ports answers state.store call = (next, store')) :
      CallChange ports state store' (state.calls.set index next)
  | crash (index : ℕ) : CallChange ports state store' (state.calls.set index .finished)

theorem CallChange.triggered
    (result : Except ImGatewayError ((ReminderActionCommand × Bool) × ImStore)) :
    CallChange ports state (state.triggered result).store (state.triggered result).calls := by
  unfold GatewayState.triggered
  split
  · exact .same
  · split
    · exact .commands _
    · exact .same

theorem CallChange.committed {α : Type} (result : Except ImGatewayError (α × ImStore)) :
    CallChange ports state (state.committed result).store (state.committed result).calls := by
  unfold GatewayState.committed
  split <;> exact .same

theorem step_callChange (ports : Ports) (state : GatewayState) (event : GatewayEvent) :
    CallChange ports state (step ports state event).store (step ports state event).calls := by
  cases event with
  | directory | expireDue | replayPending => exact .same
  | submit | retryDeadLetter | markDeadLetter | recordDeviceActionStatus => exact .committed _
  | execute | triggerPrepared => exact .triggered _
  | recordReceipt now receipt =>
      dsimp only [step]
      split <;> exact .same
  | markProcessing now actionId deviceId reminderTriggerId =>
      dsimp only [step]
      split <;> exact .same
  | dispatch claimTime now deliveryId => exact .start rfl
  | runOnce now leaseUntil limit => exact .batch _
  | recordResult now commandId deviceId result =>
      dsimp only [step]
      split
      · exact .same
      · split
        · exact .commands _
        · exact .same
  | recoverStaleProcessing now staleBefore => exact .commands _
  | advance index answers =>
      dsimp only [step]
      split
      · exact .same
      · rename_i call hget
        exact .advance hget rfl
  | crash index => exact .crash index

/-- Every state of a run is sound. -/
theorem sound_run (ports : Ports) (events : List GatewayEvent) :
    Run.AllStates (step ports) (Sound ports) {} events :=
  Run.allStates_of_invariant (fun _ event hsound => (step_steps hsound event).sound hsound)
    (Sound.init ports)

end VoiceLife.Gateway
