import VoiceLife.Gateway.ActionLemmas
import VoiceLife.Gateway.DeliveryLemmas

/-! # What a step does to deliveries and events

Every step is a sequence of a few effects on the delivery side: a new delivery with its event, a write of
a stored delivery, or new marks on events. Invariants over deliveries are proved once for each effect, and
`step_effects` carries them to every step.
-/

namespace VoiceLife.Gateway

/-- The same event with other leases, attempts and publication. -/
structure LikeEvent (event event' : ImOutboxEvent) : Prop where
  id : event'.id = event.id
  eventType : event'.eventType = event.eventType
  aggregateId : event'.aggregateId = event.aggregateId

theorem LikeEvent.refl (event : ImOutboxEvent) : LikeEvent event event :=
  ⟨rfl, rfl, rfl⟩

theorem LikeEvent.symm {event event' : ImOutboxEvent} (h : LikeEvent event event') :
    LikeEvent event' event :=
  ⟨h.id.symm, h.eventType.symm, h.aggregateId.symm⟩

theorem LikeEvent.trans {event event' event'' : ImOutboxEvent} (h : LikeEvent event event')
    (h' : LikeEvent event' event'') : LikeEvent event event'' :=
  ⟨h'.id.trans h.id, h'.eventType.trans h.eventType, h'.aggregateId.trans h.aggregateId⟩

/-- Events are marked; only events that are `settling` change their status. -/
structure Marks (settling : OutboxEventId → Prop) (store store' : ImStore) : Prop where
  deliveries : store'.deliveries = store.deliveries
  attempts : store'.attempts = store.attempts
  idsUsed : store.idsUsed ≤ store'.idsUsed
  outbox : ∃ mark : ImOutboxEvent → ImOutboxEvent, store'.outbox = store.outbox.map mark ∧
    ∀ event ∈ store.outbox, LikeEvent event (mark event) ∧
      ((mark event).status = event.status ∨ settling event.id)

variable {settling : OutboxEventId → Prop} {ids : IdGenerator} {store store' store'' : ImStore}

theorem Marks.of_eq (hdeliveries : store'.deliveries = store.deliveries)
    (hattempts : store'.attempts = store.attempts) (houtbox : store'.outbox = store.outbox)
    (hused : store.idsUsed ≤ store'.idsUsed) : Marks settling store store' where
  deliveries := hdeliveries
  attempts := hattempts
  idsUsed := hused
  outbox := ⟨id, by rw [houtbox, List.map_id], fun event _ => ⟨LikeEvent.refl event, Or.inl rfl⟩⟩

theorem Marks.refl (store : ImStore) : Marks settling store store :=
  Marks.of_eq rfl rfl rfl le_rfl

theorem Marks.trans (h : Marks settling store store') (h' : Marks settling store' store'') :
    Marks settling store store'' where
  deliveries := h'.deliveries.trans h.deliveries
  attempts := h'.attempts.trans h.attempts
  idsUsed := h.idsUsed.trans h'.idsUsed
  outbox := by
    obtain ⟨mark, houtbox, hmark⟩ := h.outbox
    obtain ⟨mark', houtbox', hmark'⟩ := h'.outbox
    refine ⟨mark' ∘ mark, by rw [houtbox', houtbox, List.map_map], fun event hevent => ?_⟩
    have hmem : mark event ∈ store'.outbox := by
      rw [houtbox]
      exact List.mem_map_of_mem hevent
    obtain ⟨hlike, hstatus⟩ := hmark event hevent
    obtain ⟨hlike', hstatus'⟩ := hmark' _ hmem
    refine ⟨hlike.trans hlike', ?_⟩
    rcases hstatus' with hstatus' | hsettling
    · exact hstatus.imp_left hstatus'.trans
    · rw [hlike.id] at hsettling
      exact Or.inr hsettling

/-- The ids of events are different. -/
def DistinctEvents (events : List ImOutboxEvent) : Prop :=
  (events.map ImOutboxEvent.id).Nodup

theorem Marks.map_id_eq (h : Marks settling store store') :
    store'.outbox.map ImOutboxEvent.id = store.outbox.map ImOutboxEvent.id := by
  obtain ⟨mark, houtbox, hmark⟩ := h.outbox
  rw [houtbox, List.map_map]
  exact List.map_congr_left fun event hevent => (hmark event hevent).1.id

/-- A marked event is still there. -/
theorem Marks.exists_mem (h : Marks settling store store') {event : ImOutboxEvent}
    (hevent : event ∈ store.outbox) : ∃ event' ∈ store'.outbox, LikeEvent event event' := by
  obtain ⟨mark, houtbox, hmark⟩ := h.outbox
  refine ⟨mark event, ?_, (hmark event hevent).1⟩
  rw [houtbox]
  exact List.mem_map_of_mem hevent

/-- Replacing an event is a mark on it. -/
theorem replaceEvent_eq_map {events : List ImOutboxEvent} (event' : ImOutboxEvent)
    (hdistinct : DistinctEvents events) : ImStore.replaceEvent event' events =
      events.map fun event => if event.id = event'.id then event' else event := by
  induction events with
  | nil => rfl
  | cons head events ih =>
      rw [DistinctEvents, List.map_cons, List.nodup_cons] at hdistinct
      rw [ImStore.replaceEvent, List.map_cons]
      split_ifs with hid
      · have hrest : ∀ event ∈ events, event.id ≠ event'.id := by
          intro event hevent heq
          exact hdistinct.1 (List.mem_map.2 ⟨event, hevent, heq.trans hid.symm⟩)
        rw [List.map_congr_left fun event hevent => if_neg (hrest event hevent), List.map_id']
      · rw [ih hdistinct.2]

theorem replaceOutbox_marks {event event' : ImOutboxEvent}
    (hdistinct : DistinctEvents store.outbox) (hmem : event ∈ store.outbox)
    (hlike : LikeEvent event event') (hstatus : event'.status = event.status ∨ settling event.id) :
    Marks settling store (store.replaceOutbox event') where
  deliveries := rfl
  attempts := rfl
  idsUsed := le_rfl
  outbox := by
    refine ⟨_, replaceEvent_eq_map event' hdistinct, fun found hfound => ?_⟩
    split_ifs with hid
    · have heq : found = event :=
        List.inj_on_of_nodup_map hdistinct hfound hmem (hid.trans hlike.id)
      rw [heq]
      exact ⟨hlike, hstatus⟩
    · exact ⟨LikeEvent.refl found, Or.inl rfl⟩

theorem Marks.distinctEvents (h : Marks settling store store')
    (hdistinct : DistinctEvents store.outbox) : DistinctEvents store'.outbox := by
  rw [DistinctEvents, h.map_id_eq]
  exact hdistinct

/-- Replacing events by leased copies, one after the other. -/
theorem foldl_replaceOutbox_marks {claimed : List ImOutboxEvent}
    (hdistinct : DistinctEvents store.outbox)
    (hclaimed : ∀ event' ∈ claimed, ∃ event ∈ store.outbox, LikeEvent event event' ∧
      event'.status = event.status) :
    Marks (fun _ => False) store (claimed.foldl ImStore.replaceOutbox store) := by
  induction claimed generalizing store with
  | nil => exact Marks.refl store
  | cons event' claimed ih =>
      obtain ⟨event, hmem, hlike, hstatus⟩ := hclaimed event' List.mem_cons_self
      have hfirst : Marks (fun _ => False) store (store.replaceOutbox event') :=
        replaceOutbox_marks hdistinct hmem hlike (Or.inl hstatus)
      refine hfirst.trans (ih (hfirst.distinctEvents hdistinct) fun next hnext => ?_)
      obtain ⟨found, hfound, hlike, hstatus⟩ := hclaimed next (List.mem_cons_of_mem event' hnext)
      obtain ⟨mark, houtbox, hmark⟩ := hfirst.outbox
      obtain ⟨hmarked, hsame | hfalse⟩ := hmark found hfound
      · refine ⟨mark found, ?_, hmarked.symm.trans hlike, hstatus.trans hsame.symm⟩
        rw [houtbox]
        exact List.mem_map_of_mem hfound
      · exact hfalse.elim

theorem Marks.imp {settling' : OutboxEventId → Prop} (h : Marks settling store store')
    (himp : ∀ eventId, settling eventId → settling' eventId) : Marks settling' store store' where
  deliveries := h.deliveries
  attempts := h.attempts
  idsUsed := h.idsUsed
  outbox := by
    obtain ⟨mark, houtbox, hmark⟩ := h.outbox
    exact ⟨mark, houtbox, fun event hevent =>
      ⟨(hmark event hevent).1, (hmark event hevent).2.imp_right (himp event.id)⟩⟩

/-- A claimed event is an event of the outbox under a lease. -/
theorem mem_claimPending {now leaseUntil : IsoDateTime} {limit : ℕ} {event' : ImOutboxEvent}
    (h : event' ∈ (store.claimPending now leaseUntil limit).1) :
    ∃ event ∈ store.outbox, LikeEvent event event' ∧ event'.status = event.status := by
  obtain ⟨event, hevent, rfl⟩ := List.mem_map.1 h
  have hdue := (List.mem_insertionSort _).1 (List.mem_of_mem_take hevent)
  exact ⟨event, List.mem_of_mem_filter hdue, ⟨rfl, rfl, rfl⟩, rfl⟩

theorem claimPending_marks (now leaseUntil : IsoDateTime) (limit : ℕ)
    (hdistinct : DistinctEvents store.outbox) :
    Marks settling store (store.claimPending now leaseUntil limit).2 :=
  (foldl_replaceOutbox_marks hdistinct fun _ => mem_claimPending).imp fun _ => False.elim

theorem markPublished_marks {eventId : OutboxEventId} (publishedAt : IsoDateTime)
    (hdistinct : DistinctEvents store.outbox) (hsettling : settling eventId) :
    Marks settling store (store.markPublished eventId publishedAt) := by
  unfold ImStore.markPublished
  split
  · exact Marks.refl store
  · rename_i event hfound
    refine replaceOutbox_marks hdistinct (List.mem_of_find?_eq_some hfound) ⟨rfl, rfl, rfl⟩ ?_
    have hid : event.id = eventId := by simpa using List.find?_some hfound
    rw [hid]
    exact Or.inr hsettling

theorem markFailed_marks {eventId : OutboxEventId} (hdistinct : DistinctEvents store.outbox)
    (hsettling : settling eventId) : Marks settling store (store.markFailed eventId) := by
  unfold ImStore.markFailed
  split
  · exact Marks.refl store
  · rename_i event hfound
    refine replaceOutbox_marks hdistinct (List.mem_of_find?_eq_some hfound) ⟨rfl, rfl, rfl⟩ ?_
    have hid : event.id = eventId := by simpa using List.find?_some hfound
    rw [hid]
    exact Or.inr hsettling

/-! ## Effects -/

/-- One effect of a transaction. -/
inductive Effect (ids : IdGenerator) (settling : OutboxEventId → Prop) (store store' : ImStore) :
    Prop where
  | marks (h : Marks settling store store')
  | creates {delivery : Delivery} {event : ImOutboxEvent}
      (h : Creates ids store store' delivery event)
  | writes {delivery delivery' : Delivery} {appended : Option ImOutboxEvent}
      (h : Writes ids store store' delivery delivery' appended)

/-- The effects of a transaction, in order. -/
abbrev Effects (ids : IdGenerator) (settling : OutboxEventId → Prop) : ImStore → ImStore → Prop :=
  Relation.ReflTransGen (Effect ids settling)

theorem Effects.of_marks (h : Marks settling store store') : Effects ids settling store store' :=
  Relation.ReflTransGen.single (Effect.marks h)

theorem Effects.of_writes {delivery delivery' : Delivery} {appended : Option ImOutboxEvent}
    (h : Writes ids store store' delivery delivery' appended) : Effects ids settling store store' :=
  Relation.ReflTransGen.single (Effect.writes h)

theorem Effects.of_idle (h : Idle store store') : Effects ids settling store store' :=
  Effects.of_marks (Marks.of_eq h.deliveries h.attempts h.outbox h.idsUsed)

theorem Effects.of_keepsDeliveries (h : KeepsDeliveries store store') :
    Effects ids settling store store' :=
  Effects.of_marks (Marks.of_eq h.deliveries h.attempts h.outbox h.idsUsed)

theorem createDeliveryLoop_effects {capabilities : CapabilityResolver} {now : IsoDateTime}
    {input : SubmissionInput} {bindings : List ImBinding} {listed : List SubmittedDelivery}
    (h : createDeliveryLoop ids capabilities now input store bindings = .ok (listed, store')) :
    Effects ids settling store store' := by
  induction bindings generalizing store listed with
  | nil =>
      cases h
      exact Relation.ReflTransGen.refl
  | cons binding bindings ih =>
      rw [createDeliveryLoop] at h
      split at h
      · cases h
      · rename_i result middle hcreate
        split at h <;> cases h
        rename_i hloop
        rcases createDelivery_cases hcreate with ⟨rfl, -⟩ | ⟨delivery, event, hcreates, -⟩
        · exact ih hloop
        · exact (ih hloop).head (Effect.creates hcreates)

theorem createDeliveries_effects {capabilities : CapabilityResolver} {now : IsoDateTime}
    {input : SubmissionInput} {submission : NotificationSubmission}
    (h : createDeliveries ids capabilities now input store = .ok (submission, store')) :
    Effects ids settling store store' := by
  rcases createDeliveries_cases h with ⟨record, -, -, -, rfl⟩ | ⟨-, listed, middle, hloop, -, rfl⟩
  · exact Relation.ReflTransGen.refl
  · have hreserve : Effects ids settling store (input.reserve now store) :=
      Effects.of_marks (Marks.of_eq rfl rfl rfl le_rfl)
    exact (hreserve.trans (createDeliveryLoop_effects hloop)).trans
      (Effects.of_marks (Marks.of_eq rfl rfl rfl le_rfl))

/-! ## The transactions of a dispatch -/

namespace DispatchPhase

/-- The delivery that a dispatch works on. -/
def target : DispatchPhase → Delivery
  | .prepared target _ => target
  | .gated target _ _ => target
  | .sent target _ _ _ => target

/-- The claim of a dispatch. -/
def claimToken : DispatchPhase → JsString
  | .prepared _ claimToken => claimToken
  | .gated _ claimToken _ => claimToken
  | .sent _ claimToken _ _ => claimToken

/-- The attempt of a dispatch, once it is stored. -/
def attempt : DispatchPhase → Option DeliveryAttempt
  | .prepared _ _ => none
  | .gated _ _ attempt => some attempt
  | .sent _ _ attempt _ => some attempt

end DispatchPhase

variable {ports : Ports} {owner : Option WorkerTask} {next : Call}

/-- A dispatch starts with an error, ends at once without a target, or holds the claim. -/
theorem startDispatch_cases {claimTime now : IsoDateTime} {deliveryId : DeliveryId}
    (h : startDispatch ports owner claimTime now deliveryId store = (next, store')) :
    (∃ error, next = afterDispatchError owner error ∧ store' = store ∧
      (error.code = .deliveryNotFound → store.deliveries.get? deliveryId = none)) ∨
    (∃ delivery result attempt, next = afterDispatch owner result ∧
      Writes ports.ids store store' delivery result none ∧ delivery.id = deliveryId ∧
      result.status = .permanentFailed ∧ result.claimToken = none ∧
      AddsAttempt ports.ids store store' deliveryId attempt) ∨
    (∃ delivery target, next =
        .dispatching owner (.prepared target (ports.ids.nth store.idsUsed)) ∧
      Writes ports.ids store store' delivery target none ∧ delivery.id = deliveryId ∧
      target.status = .sending ∧ target.claimToken = some (ports.ids.nth store.idsUsed) ∧
      store'.idsUsed = store.idsUsed + 1 ∧ store'.attempts = store.attempts) := by
  unfold startDispatch at h
  split at h
  · rename_i error hclaim
    cases h
    exact Or.inl ⟨error, rfl, rfl, claimTransaction_error hclaim⟩
  · rename_i result _ hclaim
    cases h
    obtain ⟨delivery, attempt, hterminal⟩ := claimTransaction_terminal hclaim
    exact Or.inr (Or.inl ⟨delivery, result, attempt, rfl, hterminal⟩)
  · rename_i target _ _ _ hclaim
    cases h
    obtain ⟨delivery, hwrites, hid, hstatus, htoken, hrest⟩ := claimTransaction_target hclaim
    refine Or.inr (Or.inr ⟨delivery, target, ?_, hwrites, hid, hstatus, htoken, hrest⟩)
    rw [htoken]
    rfl

/-- The next step of a dispatch ends it, stores its attempt or sends it. -/
theorem advanceDispatch_cases {answers : Answers} {phase : DispatchPhase}
    (h : advanceDispatch ports owner answers store phase = (next, store'))
    (htarget : Targets store phase.target) :
    (∃ result, next = afterDispatch owner result ∧
      Ends ports.ids store store' phase.target result phase.claimToken) ∨
    (∃ attempt delivery, phase = .prepared phase.target phase.claimToken ∧
      next = .dispatching owner (.gated phase.target phase.claimToken attempt) ∧
      Holds store phase.target.id phase.claimToken ∧ delivery.id = phase.target.id ∧
      Writes ports.ids store store' delivery (renewal phase.target phase.claimToken answers.now)
        none ∧
      AddsAttempt ports.ids store store' phase.target.id attempt ∧ attempt.completedAt = none) ∨
    (∃ attempt, phase = .gated phase.target phase.claimToken attempt ∧ next = .dispatching owner
        (.sent phase.target phase.claimToken attempt answers.acceptance) ∧ store' = store) := by
  cases phase with
  | prepared target claimToken =>
      dsimp only [advanceDispatch] at h
      split at h
      · cases h
        exact Or.inl ⟨_, rfl, (recordPreSendFailure_ends rfl htarget).1⟩
      · split at h
        · rename_i result _ hgate
          cases h
          exact Or.inl ⟨result, rfl, Or.inl (gateTransaction_lost hgate htarget)⟩
        · rename_i attempt _ hgate
          cases h
          obtain ⟨hheld, ⟨delivery, hid, hwrites⟩, hadds, hcompleted⟩ :=
            gateTransaction_owned hgate htarget
          exact Or.inr (Or.inl ⟨attempt, delivery, rfl, rfl, hheld, hid, hwrites, hadds, hcompleted⟩)
  | gated target claimToken attempt =>
      cases h
      exact Or.inr (Or.inr ⟨attempt, rfl, rfl, rfl⟩)
  | sent target claimToken attempt acceptance =>
      cases h
      exact Or.inl ⟨_, rfl, (completeTransaction_ends rfl htarget).1⟩

end VoiceLife.Gateway
