import VoiceLife.Gateway.Machine

/-! # What the transactions of deliveries can do

A dispatch, a receipt or a retry writes at most one stored delivery and appends at most one event for it.
`Writes` says what such a transaction does to the delivery side, with the two facts that keep deliveries
from being stranded: whoever makes a delivery wait appends an event, and whoever sends it found it owed.
-/

namespace VoiceLife.Gateway

/-- The same delivery at another point of its life. -/
def SameDelivery (delivery delivery' : Delivery) : Prop :=
  ∃ status externalMessageId lastErrorCode claimedAt claimToken updatedAt,
    delivery' = { delivery with
      status, externalMessageId, lastErrorCode, claimedAt, claimToken, updatedAt }

namespace SameDelivery

variable {delivery delivery' delivery'' : Delivery}

theorem refl (delivery : Delivery) : SameDelivery delivery delivery :=
  ⟨_, _, _, _, _, _, rfl⟩

theorem symm (h : SameDelivery delivery delivery') : SameDelivery delivery' delivery := by
  obtain ⟨_, _, _, _, _, _, rfl⟩ := h
  exact ⟨_, _, _, _, _, _, rfl⟩

theorem trans (h : SameDelivery delivery delivery') (h' : SameDelivery delivery' delivery'') :
    SameDelivery delivery delivery'' := by
  obtain ⟨_, _, _, _, _, _, rfl⟩ := h
  obtain ⟨_, _, _, _, _, _, rfl⟩ := h'
  exact ⟨_, _, _, _, _, _, rfl⟩

theorem id_eq (h : SameDelivery delivery delivery') : delivery'.id = delivery.id := by
  obtain ⟨_, _, _, _, _, _, rfl⟩ := h
  rfl

theorem semanticPayload_eq (h : SameDelivery delivery delivery') :
    delivery'.semanticPayload = delivery.semanticPayload := by
  obtain ⟨_, _, _, _, _, _, rfl⟩ := h
  rfl

end SameDelivery

/-- Work on the delivery is still owed. -/
def DeliveryStatus.isOwed (status : DeliveryStatus) : Prop :=
  status = .pending ∨ status = .sending ∨ status = .retryableFailed

/-- The delivery waits for a dispatch. -/
def DeliveryStatus.isWaiting (status : DeliveryStatus) : Prop :=
  status = .pending ∨ status = .retryableFailed

theorem DeliveryStatus.isOwed_iff {status : DeliveryStatus} :
    status.isOwed ↔ status.isWaiting ∨ status = .sending := by
  cases status <;> simp [isOwed, isWaiting]

/-- What the transactions of deliveries leave alone. -/
structure Frame (store store' : ImStore) : Prop where
  channelAccounts : store'.channelAccounts = store.channelAccounts
  identities : store'.identities = store.identities
  bindings : store'.bindings = store.bindings
  intentSubmissions : store'.intentSubmissions = store.intentSubmissions
  actions : store'.actions = store.actions
  facts : store'.reminderActionFacts = store.reminderActionFacts
  idsUsed : store.idsUsed ≤ store'.idsUsed

theorem Frame.refl (store : ImStore) : Frame store store :=
  ⟨rfl, rfl, rfl, rfl, rfl, rfl, le_rfl⟩

theorem Frame.trans {store store' store'' : ImStore} (h : Frame store store')
    (h' : Frame store' store'') : Frame store store'' where
  channelAccounts := h'.channelAccounts.trans h.channelAccounts
  identities := h'.identities.trans h.identities
  bindings := h'.bindings.trans h.bindings
  intentSubmissions := h'.intentSubmissions.trans h.intentSubmissions
  actions := h'.actions.trans h.actions
  facts := h'.facts.trans h.facts
  idsUsed := h.idsUsed.trans h'.idsUsed

/-- An id that was generated between two states. -/
def Generated (ids : IdGenerator) (store store' : ImStore) (id : JsString) : Prop :=
  ∃ n, store.idsUsed ≤ n ∧ n < store'.idsUsed ∧ id = ids.nth n

/-- No delivery, attempt or event is written. -/
structure Idle (store store' : ImStore) : Prop extends Frame store store' where
  deliveries : store'.deliveries = store.deliveries
  attempts : store'.attempts = store.attempts
  outbox : store'.outbox = store.outbox

theorem Idle.refl (store : ImStore) : Idle store store :=
  ⟨Frame.refl store, rfl, rfl, rfl⟩

/-- A delivery is written, and perhaps an event appended for it. -/
structure Writes (ids : IdGenerator) (store store' : ImStore) (delivery delivery' : Delivery)
    (appended : Option ImOutboxEvent) : Prop extends Frame store store' where
  stored : store.deliveries.get? delivery.id = some delivery
  same : SameDelivery delivery delivery'
  deliveries : store'.deliveries = store.deliveries.set delivery'
  outbox : store'.outbox = store.outbox ++ appended.toList
  aggregateId : ∀ event ∈ appended, event.aggregateId = delivery.id
  pending : ∀ event ∈ appended, event.status = .pending
  notRequested : ∀ event ∈ appended, event.eventType ≠ .requested
  fresh : ∀ event ∈ appended, Generated ids store store' event.id
  waiting : delivery'.status.isWaiting → appended.isSome
  sending : delivery'.status = .sending → delivery.status.isOwed
  claimToken : delivery'.claimToken = none ∨ delivery'.claimToken = delivery.claimToken ∨
    ∃ token, Generated ids store store' token ∧ delivery'.claimToken = some token

variable {ids : IdGenerator} {store store' : ImStore} {delivery delivery' : Delivery}

theorem Writes.stored' {appended : Option ImOutboxEvent}
    (h : Writes ids store store' delivery delivery' appended) :
    store'.deliveries.get? delivery.id = some delivery' := by
  have hid : key delivery' = delivery.id := h.same.id_eq
  rw [h.deliveries, ← hid]
  exact KeyTable.get?_set_self _ _

/-- A write without an event: the delivery does not wait afterwards. -/
theorem Writes.silent (hframe : Frame store store')
    (hstored : store.deliveries.get? delivery.id = some delivery)
    (hsame : SameDelivery delivery delivery')
    (hdeliveries : store'.deliveries = store.deliveries.set delivery')
    (houtbox : store'.outbox = store.outbox) (hwaiting : ¬ delivery'.status.isWaiting)
    (hsending : delivery'.status = .sending → delivery.status.isOwed)
    (hclaim : delivery'.claimToken = none ∨ delivery'.claimToken = delivery.claimToken ∨
      ∃ token, Generated ids store store' token ∧ delivery'.claimToken = some token) :
    Writes ids store store' delivery delivery' none where
  toFrame := hframe
  stored := hstored
  same := hsame
  deliveries := hdeliveries
  outbox := houtbox.trans (List.append_nil _).symm
  aggregateId := nofun
  pending := nofun
  notRequested := nofun
  fresh := nofun
  waiting := fun h => absurd h hwaiting
  sending := hsending
  claimToken := hclaim

/-- A write with an event that gets the next id. -/
theorem Writes.appending (store store' : ImStore) {event : ImOutboxEvent} (hframe : Frame store store')
    (hstored : store.deliveries.get? delivery.id = some delivery)
    (hsame : SameDelivery delivery delivery')
    (hdeliveries : store'.deliveries = store.deliveries.set delivery')
    (houtbox : store'.outbox = store.outbox) (hid : event.id = ids.nth store'.idsUsed)
    (haggregate : event.aggregateId = delivery.id) (hpending : event.status = .pending)
    (hrequested : event.eventType ≠ .requested) (hsending : delivery'.status ≠ .sending)
    (hclaim : delivery'.claimToken = none ∨ delivery'.claimToken = delivery.claimToken) :
    Writes ids store ((store'.nextId ids).2.appendOutbox event) delivery delivery' (some event) where
  toFrame := hframe.trans ⟨rfl, rfl, rfl, rfl, rfl, rfl, Nat.le_succ _⟩
  stored := hstored
  same := hsame
  deliveries := hdeliveries
  outbox := congrArg (· ++ [event]) houtbox
  aggregateId := by
    rintro _ ⟨⟩
    exact haggregate
  pending := by
    rintro _ ⟨⟩
    exact hpending
  notRequested := by
    rintro _ ⟨⟩
    exact hrequested
  fresh := by
    rintro _ ⟨⟩
    exact ⟨store'.idsUsed, hframe.idsUsed, Nat.lt_succ_self _, hid⟩
  waiting := fun _ => rfl
  sending := fun h => absurd h hsending
  claimToken := hclaim.imp_right Or.inl

variable {now : IsoDateTime}

/-- A write with an automatic retry. -/
theorem Writes.scheduleRetry (store store' : ImStore) {addMinutes : AddMinutes}
    {retried : DeliveryId} {attemptNo : ℕ} (hframe : Frame store store')
    (hretried : retried = delivery.id) (hstored : store.deliveries.get? delivery.id = some delivery)
    (hsame : SameDelivery delivery delivery')
    (hdeliveries : store'.deliveries = store.deliveries.set delivery')
    (houtbox : store'.outbox = store.outbox) (hsending : delivery'.status ≠ .sending)
    (hclaim : delivery'.claimToken = none ∨ delivery'.claimToken = delivery.claimToken) :
    ∃ appended, Writes ids store
      (store'.scheduleRetry ids addMinutes retried attemptNo now) delivery delivery' appended :=
  ⟨some (retryScheduledEvent addMinutes (ids.nth store'.idsUsed) retried attemptNo now),
    Writes.appending store store' hframe hstored hsame hdeliveries houtbox rfl hretried rfl nofun
      hsending hclaim⟩

variable {deliveryId : DeliveryId}

theorem get?_id_eq (h : store.deliveries.get? deliveryId = some delivery) : delivery.id = deliveryId :=
  (KeyTable.get?_eq_some.1 h).2

variable {claimToken : JsString}

/-- `saveIfClaimed` writes exactly while the claim is held. -/
theorem saveIfClaimed_eq_some :
    store.saveIfClaimed delivery' claimToken = some store' ↔
      store' = store.saveDelivery delivery' ∧ ∃ delivery,
        store.deliveries.get? delivery'.id = some delivery ∧ delivery.status = .sending ∧
          delivery.claimToken = some claimToken := by
  unfold ImStore.saveIfClaimed
  split
  · rename_i hget
    simp [hget]
  · rename_i delivery hget
    split
    · rename_i hclaimed
      constructor
      · rintro ⟨⟩
        exact ⟨rfl, delivery, hget, hclaimed⟩
      · rintro ⟨rfl, -⟩
        rfl
    · rename_i hclaimed
      constructor
      · intro hnone
        cases hnone
      · rintro ⟨-, found, hfound, hheld⟩
        rw [hget] at hfound
        cases hfound
        exact absurd hheld hclaimed

/-! ## Manual retry, dead letters and receipts -/

theorem retryDeadLetter_writes (h : retryDeadLetter ids now deliveryId store = .ok (delivery', store')) :
    ∃ delivery event, Writes ids store store' delivery delivery' (some event) ∧
      store'.attempts = store.attempts := by
  unfold retryDeadLetter at h
  split at h
  · cases h
  · rename_i delivery hget
    have hid := get?_id_eq hget
    split at h <;> cases h
    refine ⟨delivery, retryRequestedEvent (ids.nth store.idsUsed) delivery.id now, ?_, rfl⟩
    refine Writes.appending store (store.saveDelivery _) ?_ ?_ ?_ rfl rfl rfl rfl rfl ?_ ?_ (Or.inl rfl)
    · exact ⟨rfl, rfl, rfl, rfl, rfl, rfl, le_rfl⟩
    · rw [hid, hget]
    · exact ⟨_, _, _, _, _, _, rfl⟩
    · nofun
    · nofun

theorem markDeadLetter_writes (ids : IdGenerator)
    (h : markDeadLetter now deliveryId store = .ok (delivery', store')) :
    ∃ delivery, Writes ids store store' delivery delivery' none ∧ delivery.id = deliveryId ∧
      delivery'.status = .deadLetter ∧ store'.attempts = store.attempts := by
  unfold markDeadLetter at h
  split at h
  · cases h
  · rename_i delivery hget
    have hid := get?_id_eq hget
    split at h <;> cases h
    refine ⟨delivery, ?_, hid, rfl, rfl⟩
    refine Writes.silent ?_ ?_ ?_ rfl rfl ?_ ?_ (Or.inr (Or.inl rfl))
    · exact ⟨rfl, rfl, rfl, rfl, rfl, rfl, le_rfl⟩
    · rw [hid, hget]
    · exact ⟨_, _, _, _, _, _, rfl⟩
    · simp [DeliveryStatus.isWaiting]
    · nofun

/-- A delivery found by a platform message is stored. -/
theorem findByExternalMessage_stored {channelAccountId : ChannelAccountId}
    {externalMessageId : JsString}
    (h : store.findByExternalMessage channelAccountId externalMessageId = some delivery) :
    store.deliveries.get? delivery.id = some delivery := by
  unfold ImStore.findByExternalMessage at h
  dsimp only at h
  split at h
  · rename_i found hfound
    cases h
    exact KeyTable.get?_key (List.mem_of_find?_eq_some hfound)
  · split at h
    · cases h
    · split at h
      · cases h
      · rename_i found hget
        split at h <;> cases h
        rw [get?_id_eq hget, hget]

/-- A receipt never leads back to the start. -/
theorem receiptStatus_ne (delivery : Delivery) (current : DeliveryAttempt)
    (receipt : NormalizedDeliveryReceipt) : receiptStatus delivery current receipt ≠ .pending ∧
      receiptStatus delivery current receipt ≠ .sending := by
  have hadvance : advanceDeliveryStatus delivery.status receipt ≠ .pending ∧
      advanceDeliveryStatus delivery.status receipt ≠ .sending := by
    unfold advanceDeliveryStatus
    split_ifs with hdelivered hstage hended
    · rw [hdelivered]
      simp
    · simp
    · rcases hended with hended | hended <;> rw [hended] <;> simp
    · simp
    · simp
  unfold receiptStatus
  split_ifs
  · simp
  · exact hadvance

theorem applyReceipt_cases {addMinutes : AddMinutes}
    {attempts : List DeliveryAttempt} {receipt : NormalizedDeliveryReceipt}
    (hstored : store.deliveries.get? delivery.id = some delivery) (hidle : Idle store store') :
    Idle store (applyReceipt ids addMinutes now delivery attempts receipt store') ∨
      ∃ delivery' appended, Writes ids store
        (applyReceipt ids addMinutes now delivery attempts receipt store') delivery delivery' appended ∧
        (applyReceipt ids addMinutes now delivery attempts receipt store').attempts = store.attempts := by
  unfold applyReceipt
  split
  · exact Or.inl hidle
  · rename_i current _
    split
    · exact Or.inl hidle
    · dsimp only
      split
      · exact Or.inl hidle
      · obtain ⟨hpending, hsending⟩ := receiptStatus_ne delivery current receipt
        have hframe : Frame store
            (store'.saveDelivery (receivedDelivery delivery current receipt now)) :=
          hidle.toFrame.trans ⟨rfl, rfl, rfl, rfl, rfl, rfl, le_rfl⟩
        have hdeliveries : (store'.saveDelivery
            (receivedDelivery delivery current receipt now)).deliveries =
              store.deliveries.set (receivedDelivery delivery current receipt now) :=
          congrArg (KeyTable.set · _) hidle.deliveries
        refine Or.inr ⟨receivedDelivery delivery current receipt now, ?_⟩
        split
        · exact (Writes.scheduleRetry store _ hframe rfl hstored ⟨_, _, _, _, _, _, rfl⟩ hdeliveries
            hidle.outbox hsending (Or.inr rfl)).imp fun _ hwrites => ⟨hwrites, hidle.attempts⟩
        · rename_i hretryable
          refine ⟨none, ?_, hidle.attempts⟩
          refine Writes.silent hframe hstored ⟨_, _, _, _, _, _, rfl⟩ hdeliveries
            hidle.outbox ?_ (fun h => absurd h hsending) (Or.inr (Or.inl rfl))
          rintro (h | h)
          · exact hpending h
          · exact hretryable h

theorem recordReceipt_cases {addMinutes : AddMinutes} {receipt : NormalizedDeliveryReceipt}
    (h : recordReceipt ids addMinutes now receipt store = .ok store') :
    Idle store store' ∨ ∃ delivery delivery' appended,
      Writes ids store store' delivery delivery' appended ∧ store'.attempts = store.attempts := by
  unfold recordReceipt at h
  split at h
  · cases h
    exact Or.inl (Idle.refl store)
  · split at h
    · cases h
    · rename_i delivery hfound
      dsimp only at h
      split at h <;> cases h
      have hidle : ∀ receipt', Idle store ((store.nextId ids).2.saveReceipt receipt') := by
        intro receipt'
        unfold ImStore.saveReceipt
        split <;> exact ⟨⟨rfl, rfl, rfl, rfl, rfl, rfl, Nat.le_succ _⟩, rfl, rfl, rfl⟩
      exact (applyReceipt_cases (findByExternalMessage_stored hfound) (hidle _)).imp_right
        fun hwrites => ⟨delivery, hwrites⟩

/-! ## Dispatches -/

/-- A new attempt of a delivery is stored under the next number. -/
structure AddsAttempt (ids : IdGenerator) (store store' : ImStore) (deliveryId : DeliveryId)
    (attempt : DeliveryAttempt) : Prop where
  ofDelivery : attempt.deliveryId = deliveryId
  numbered : attempt.attemptNo = store.nextAttemptNo deliveryId
  generated : Generated ids store store' attempt.id
  attempts : store'.attempts = store.attempts.set attempt

theorem AddsAttempt.of_saveAttempt (middle : ImStore) (attempt : DeliveryAttempt)
    (hused : store.idsUsed ≤ middle.idsUsed) (hattempts : middle.attempts = store.attempts)
    (hid : attempt.id = ids.nth middle.idsUsed)
    (hnumbered : attempt.attemptNo = middle.nextAttemptNo attempt.deliveryId) :
    AddsAttempt ids store (((middle.nextId ids).2.nextId ids).2.saveAttempt attempt)
      attempt.deliveryId attempt where
  ofDelivery := rfl
  numbered := by
    rw [hnumbered, ImStore.nextAttemptNo, ImStore.nextAttemptNo, ImStore.attemptsOf,
      ImStore.attemptsOf, hattempts]
  generated := ⟨middle.idsUsed, hused, Nat.lt_succ_of_lt (Nat.lt_succ_self _), hid⟩
  attempts := congrArg (KeyTable.set · attempt) hattempts

theorem AddsAttempt.scheduleRetry {addMinutes : AddMinutes} {deliveryId retried : DeliveryId}
    {attemptNo : ℕ} {now : IsoDateTime} {attempt : DeliveryAttempt}
    (h : AddsAttempt ids store store' deliveryId attempt) :
    AddsAttempt ids store (store'.scheduleRetry ids addMinutes retried attemptNo now) deliveryId
      attempt where
  ofDelivery := h.ofDelivery
  numbered := h.numbered
  generated := by
    obtain ⟨n, hle, hlt, hid⟩ := h.generated
    exact ⟨n, hle, Nat.lt_succ_of_lt hlt, hid⟩
  attempts := h.attempts

theorem isOwed_of_isClaimable {leaseSeconds : ℤ}
    (h : ImStore.isClaimable delivery now leaseSeconds = true) : delivery.status.isOwed := by
  unfold ImStore.isClaimable at h
  split at h
  · rename_i hstatus
    exact Or.inl hstatus
  · rename_i hstatus
    exact Or.inr (Or.inr hstatus)
  · rename_i hstatus
    exact Or.inr (Or.inl hstatus)
  · cases h

/-- A claim writes the delivery with a token that nobody has yet. -/
theorem claimForDispatch_writes {claimed : Delivery} {leaseSeconds : ℤ}
    (h : store.claimForDispatch ids deliveryId now leaseSeconds = some (claimed, store')) :
    ∃ delivery, Writes ids store store' delivery claimed none ∧ delivery.id = deliveryId ∧
      claimed.status = .sending ∧ claimed.claimToken = some (ids.nth store.idsUsed) ∧
      store'.idsUsed = store.idsUsed + 1 ∧ store'.attempts = store.attempts := by
  unfold ImStore.claimForDispatch at h
  split at h
  · cases h
  · rename_i delivery hget
    have hid := get?_id_eq hget
    dsimp only at h
    split at h <;> cases h
    rename_i hclaimable
    refine ⟨delivery, ?_, hid, rfl, rfl, rfl, rfl⟩
    refine Writes.silent ⟨rfl, rfl, rfl, rfl, rfl, rfl, Nat.le_succ _⟩ ?_ ⟨_, _, _, _, _, _, rfl⟩
      rfl rfl ?_ (fun _ => isOwed_of_isClaimable hclaimable) (Or.inr (Or.inr ?_))
    · rw [hid, hget]
    · simp [DeliveryStatus.isWaiting]
    · exact ⟨_, ⟨_, le_rfl, Nat.lt_succ_self _, rfl⟩, rfl⟩

theorem claimTransaction_target {claimTime now : IsoDateTime}
    {target : Delivery} {identity : ExternalIdentity} {account : ChannelAccount}
    (h : claimTransaction ids claimTime now deliveryId store =
      .ok (.target target identity account, store')) :
    ∃ delivery, Writes ids store store' delivery target none ∧ delivery.id = deliveryId ∧
      target.status = .sending ∧ target.claimToken = some (ids.nth store.idsUsed) ∧
      store'.idsUsed = store.idsUsed + 1 ∧ store'.attempts = store.attempts := by
  unfold claimTransaction at h
  split at h
  · split at h <;> cases h
  · rename_i hclaim
    split at h
    · cases h
      exact claimForDispatch_writes hclaim
    · dsimp only at h
      split at h <;> cases h

/-- A dispatch without an active target ends the delivery. -/
theorem claimTransaction_terminal {claimTime now : IsoDateTime} {result : Delivery}
    (h : claimTransaction ids claimTime now deliveryId store = .ok (.terminal result, store')) :
    ∃ delivery attempt, Writes ids store store' delivery result none ∧ delivery.id = deliveryId ∧
      result.status = .permanentFailed ∧ result.claimToken = none ∧
      AddsAttempt ids store store' deliveryId attempt := by
  unfold claimTransaction at h
  split at h
  · split at h <;> cases h
  · rename_i claimed middle hclaim
    obtain ⟨delivery, hwrites, hid, hstatus, htoken, hused, hattempts⟩ :=
      claimForDispatch_writes hclaim
    have hheld : middle.saveIfClaimed (targetUnavailable claimed now) (claimed.claimToken.getD []) =
        some (middle.saveDelivery (targetUnavailable claimed now)) := by
      refine saveIfClaimed_eq_some.2 ⟨rfl, claimed, ?_, hstatus, ?_⟩
      · exact hwrites.same.id_eq ▸ hwrites.stored'
      · rw [htoken]
        rfl
    split at h
    · cases h
    · dsimp only at h
      rw [hheld] at h
      cases h
      refine ⟨delivery, failedAttempt (ids.nth middle.idsUsed) (ids.nth (middle.idsUsed + 1))
        deliveryId (middle.nextAttemptNo deliveryId) .permanentFailed
        (js "delivery_target_unavailable") now, ?_, hid, rfl, rfl, ?_⟩
      · refine Writes.silent ?_ hwrites.stored ?_ ?_ (hwrites.outbox.trans (List.append_nil _)) ?_
          nofun (Or.inl rfl)
        · exact hwrites.toFrame.trans ⟨rfl, rfl, rfl, rfl, rfl, rfl, Nat.le_add_right _ 2⟩
        · exact hwrites.same.trans ⟨_, _, _, _, _, _, rfl⟩
        · exact (congrArg (KeyTable.set · _) hwrites.deliveries).trans (KeyTable.set_set rfl)
        · simp [DeliveryStatus.isWaiting, targetUnavailable]
      · exact AddsAttempt.of_saveAttempt (middle.saveDelivery _) _ hwrites.idsUsed hattempts rfl rfl

/-- Only a delivery that is not stored is not found. -/
theorem claimTransaction_error {claimTime now : IsoDateTime}
    {error : ImGatewayError} (h : claimTransaction ids claimTime now deliveryId store = .error error)
    (hcode : error.code = .deliveryNotFound) : store.deliveries.get? deliveryId = none := by
  unfold claimTransaction at h
  split at h
  · split at h
    · assumption
    · cases h
      cases hcode
  · split at h
    · cases h
    · dsimp only at h
      split at h <;> cases h

/-- The delivery that a dispatch works on is a stored one. -/
def Targets (store : ImStore) (target : Delivery) : Prop :=
  ∃ delivery, store.deliveries.get? target.id = some delivery ∧ SameDelivery delivery target

/-- A token is the claim of a delivery. -/
def Holds (store : ImStore) (deliveryId : DeliveryId) (claimToken : JsString) : Prop :=
  ∃ delivery, store.deliveries.get? deliveryId = some delivery ∧ delivery.status = .sending ∧
    delivery.claimToken = some claimToken

theorem saveIfClaimed_eq_none :
    store.saveIfClaimed delivery' claimToken = none ↔ ¬ Holds store delivery'.id claimToken := by
  rw [Option.eq_none_iff_forall_ne_some]
  constructor
  · rintro h ⟨delivery, hheld⟩
    exact h _ (saveIfClaimed_eq_some.2 ⟨rfl, delivery, hheld⟩)
  · rintro h store' hsave
    exact h (saveIfClaimed_eq_some.1 hsave).2

theorem Targets.get?_getD {target : Delivery} (htarget : Targets store target) (other : Delivery) :
    store.deliveries.get? target.id = some ((store.deliveries.get? target.id).getD other) := by
  obtain ⟨delivery, hget, -⟩ := htarget
  rw [hget]
  rfl

/-- The claimed delivery is the one that the dispatch works on. -/
theorem Targets.of_holds {target : Delivery} (htarget : Targets store target)
    (hheld : Holds store target.id claimToken) :
    ∃ delivery, store.deliveries.get? delivery.id = some delivery ∧ SameDelivery delivery target ∧
      delivery.status = .sending ∧ delivery.claimToken = some claimToken := by
  obtain ⟨delivery, hget, hstatus, htoken⟩ := hheld
  obtain ⟨found, hfound, hsame⟩ := htarget
  rw [hget] at hfound
  cases hfound
  refine ⟨delivery, ?_, hsame, hstatus, htoken⟩
  rw [← hsame.id_eq, hget]

theorem gateTransaction_lost {target result : Delivery} {renderedPayload : Json}
    (h : gateTransaction ids now target claimToken renderedPayload store = (.lost result, store'))
    (htarget : Targets store target) : ¬ Holds store target.id claimToken ∧ store' = store ∧
      store.deliveries.get? target.id = some result := by
  unfold gateTransaction at h
  split at h
  · rename_i hsave
    cases h
    have hlost := saveIfClaimed_eq_none.1 hsave
    exact ⟨hlost, rfl, htarget.get?_getD target⟩
  · cases h

theorem gateTransaction_owned {target : Delivery} {renderedPayload : Json} {attempt : DeliveryAttempt}
    (h : gateTransaction ids now target claimToken renderedPayload store = (.owned attempt, store'))
    (htarget : Targets store target) :
    Holds store target.id claimToken ∧ (∃ delivery, delivery.id = target.id ∧
      Writes ids store store' delivery (renewal target claimToken now) none) ∧
      AddsAttempt ids store store' target.id attempt ∧ attempt.completedAt = none := by
  unfold gateTransaction at h
  split at h
  · cases h
  · rename_i saved hsave
    cases h
    obtain ⟨rfl, hsaved⟩ := saveIfClaimed_eq_some.1 hsave
    have hheld : Holds store target.id claimToken := hsaved
    obtain ⟨delivery, hstored, hsame, hstatus, htoken⟩ := htarget.of_holds hheld
    refine ⟨hheld, ⟨delivery, hsame.id_eq.symm, ?_⟩, ?_, rfl⟩
    · refine Writes.silent ⟨rfl, rfl, rfl, rfl, rfl, rfl, Nat.le_add_right _ 2⟩ hstored
        (hsame.trans ⟨_, _, _, _, _, _, rfl⟩) rfl rfl ?_ ?_ (Or.inr (Or.inl htoken.symm))
      · simp [DeliveryStatus.isWaiting, renewal]
      · intro
        exact Or.inr (Or.inl hstatus)
    · exact AddsAttempt.of_saveAttempt (store.saveDelivery _) _ le_rfl rfl rfl rfl

/-- The end of a dispatch: its claim is lost and nothing is written, or the result is written and the
claim given up. -/
def Ends (ids : IdGenerator) (store store' : ImStore) (target result : Delivery)
    (claimToken : JsString) : Prop :=
  (¬ Holds store target.id claimToken ∧ store' = store ∧
    store.deliveries.get? target.id = some result) ∨
  (Holds store target.id claimToken ∧ result.claimToken = none ∧
    ∃ delivery appended, delivery.id = target.id ∧
      Writes ids store store' delivery result appended)

theorem completionStatus_ne (acceptance : ImSendAcceptance) (attempt : DeliveryAttempt) :
    completionStatus acceptance attempt ≠ .pending ∧
      completionStatus acceptance attempt ≠ .sending := by
  unfold completionStatus
  split_ifs
  · simp
  · split <;> simp

theorem completeTransaction_ends {addMinutes : AddMinutes} {completionTime : IsoDateTime}
    {target result : Delivery} {attempt : DeliveryAttempt} {acceptance : ImSendAcceptance}
    (h : completeTransaction ids addMinutes completionTime target claimToken attempt acceptance
      store = (result, store')) (htarget : Targets store target) :
    Ends ids store store' target result claimToken ∧ (Holds store target.id claimToken →
      store'.attempts =
        store.attempts.set (completedAttempt attempt acceptance completionTime)) := by
  unfold completeTransaction at h
  dsimp only at h
  split at h
  · rename_i hsave
    cases h
    have hlost := saveIfClaimed_eq_none.1 hsave
    exact ⟨Or.inl ⟨hlost, rfl, htarget.get?_getD _⟩, fun hheld => absurd hheld hlost⟩
  · rename_i saved hsave
    obtain ⟨rfl, hsaved⟩ := saveIfClaimed_eq_some.1 hsave
    have hheld : Holds store target.id claimToken := hsaved
    obtain ⟨delivery, hstored, hsame, -⟩ := htarget.of_holds hheld
    obtain ⟨hpending, hsending⟩ := completionStatus_ne acceptance attempt
    split at h
    · cases h
      refine ⟨Or.inr ⟨hheld, rfl, delivery, ?_⟩, fun _ => rfl⟩
      exact (Writes.scheduleRetry store
        ((store.saveDelivery (completion target attempt acceptance completionTime)).saveAttempt
          (completedAttempt attempt acceptance completionTime))
        ⟨rfl, rfl, rfl, rfl, rfl, rfl, le_rfl⟩ hsame.id_eq hstored
        (hsame.trans ⟨_, _, _, _, _, _, rfl⟩) rfl rfl hsending (Or.inl rfl)).imp
          fun _ hwrites => ⟨hsame.id_eq.symm, hwrites⟩
    · rename_i hretryable
      cases h
      refine ⟨Or.inr ⟨hheld, rfl, delivery, none, hsame.id_eq.symm, ?_⟩, fun _ => rfl⟩
      refine Writes.silent ⟨rfl, rfl, rfl, rfl, rfl, rfl, le_rfl⟩ hstored
        (hsame.trans ⟨_, _, _, _, _, _, rfl⟩) rfl rfl ?_ (fun h => absurd h hsending) (Or.inl rfl)
      rintro (h | h)
      · exact hpending h
      · exact hretryable h

theorem recordPreSendFailure_ends {addMinutes : AddMinutes} {target result : Delivery}
    (h : recordPreSendFailure ids addMinutes now target claimToken store = (result, store'))
    (htarget : Targets store target) :
    Ends ids store store' target result claimToken ∧ (Holds store target.id claimToken →
      ∃ attempt, AddsAttempt ids store store' target.id attempt ∧ attempt.completedAt = some now) := by
  unfold recordPreSendFailure at h
  dsimp only at h
  split at h
  · rename_i hsave
    cases h
    have hlost := saveIfClaimed_eq_none.1 hsave
    exact ⟨Or.inl ⟨hlost, rfl, htarget.get?_getD _⟩, fun hheld => absurd hheld hlost⟩
  · rename_i saved hsave
    obtain ⟨rfl, hsaved⟩ := saveIfClaimed_eq_some.1 hsave
    have hheld : Holds store target.id claimToken := hsaved
    obtain ⟨delivery, hstored, hsame, -⟩ := htarget.of_holds hheld
    have hframe : Frame store
        ((((store.saveDelivery (preSendFailure target (store.nextAttemptNo target.id) now)).nextId
          ids).2.nextId ids).2.saveAttempt (failedAttempt (ids.nth store.idsUsed)
            (ids.nth (store.idsUsed + 1)) target.id (store.nextAttemptNo target.id) .retryableFailed
            (js "pre_send_exception") now)) :=
      ⟨rfl, rfl, rfl, rfl, rfl, rfl, Nat.le_add_right _ 2⟩
    have hadds : AddsAttempt ids store _ target.id _ := AddsAttempt.of_saveAttempt
      (store.saveDelivery (preSendFailure target (store.nextAttemptNo target.id) now))
      (failedAttempt (ids.nth store.idsUsed) (ids.nth (store.idsUsed + 1)) target.id
        (store.nextAttemptNo target.id) .retryableFailed (js "pre_send_exception") now)
      le_rfl rfl rfl rfl
    split at h
    · rename_i hexhausted
      cases h
      refine ⟨Or.inr ⟨hheld, rfl, delivery, none, hsame.id_eq.symm, ?_⟩, fun _ => ⟨_, hadds, rfl⟩⟩
      refine Writes.silent hframe hstored (hsame.trans ⟨_, _, _, _, _, _, rfl⟩) rfl rfl ?_ ?_
        (Or.inl rfl)
      · simp [preSendFailure, hexhausted, DeliveryStatus.isWaiting]
      · simp [preSendFailure, hexhausted]
    · rename_i hretryable
      cases h
      refine ⟨Or.inr ⟨hheld, rfl, delivery, ?_⟩, fun _ => ⟨_, hadds.scheduleRetry, rfl⟩⟩
      refine (Writes.scheduleRetry store _ hframe hsame.id_eq hstored
        (hsame.trans ⟨_, _, _, _, _, _, rfl⟩) rfl rfl ?_ (Or.inl rfl)).imp
          fun _ hwrites => ⟨hsame.id_eq.symm, hwrites⟩
      simp [hretryable]

/-! ## Submissions -/

/-- A new delivery and its event. -/
structure Creates (ids : IdGenerator) (store store' : ImStore) (delivery : Delivery)
    (event : ImOutboxEvent) : Prop extends Frame store store' where
  absent : store.findDeliveryByBusinessKey delivery.businessEventId delivery.bindingId
    delivery.kind = none
  generated : Generated ids store store' delivery.id
  status : delivery.status = .pending
  claimToken : delivery.claimToken = none
  deliveries : store'.deliveries = store.deliveries.set delivery
  attempts : store'.attempts = store.attempts
  outbox : store'.outbox = store.outbox ++ [event]
  aggregateId : event.aggregateId = delivery.id
  pending : event.status = .pending
  requested : event.eventType = .requested
  fresh : Generated ids store store' event.id

/-- The answer for a binding is the delivery with this business key. -/
theorem createDelivery_cases {capabilities : CapabilityResolver}
    {input : SubmissionInput} {binding : ImBinding} {result : Option SubmittedDelivery}
    (h : createDelivery ids capabilities now input store binding = .ok (result, store')) :
    (store' = store ∧ ∀ submitted ∈ result, ∃ existing,
      store.findDeliveryByBusinessKey input.businessEventId binding.id input.kind = some existing ∧
        submitted = ⟨existing.id, binding.id⟩) ∨
      ∃ delivery event, Creates ids store store' delivery event ∧
        delivery.businessEventId = input.businessEventId ∧ delivery.bindingId = binding.id ∧
        delivery.kind = input.kind ∧ result = some ⟨delivery.id, binding.id⟩ := by
  unfold createDelivery at h
  split at h
  · rename_i existing hfound
    cases h
    refine Or.inl ⟨rfl, ?_⟩
    rintro _ ⟨⟩
    exact ⟨existing, hfound, rfl⟩
  · rename_i habsent
    have hnone : (Except.ok (none, store) : Except ImGatewayError _) = .ok (result, store') →
        store' = store ∧ ∀ submitted ∈ result, ∃ existing,
          store.findDeliveryByBusinessKey input.businessEventId binding.id input.kind =
            some existing ∧ submitted = ⟨existing.id, binding.id⟩ := by
      rintro ⟨⟩
      exact ⟨rfl, nofun⟩
    split at h
    · exact Or.inl (hnone h)
    · split at h
      · exact Or.inl (hnone h)
      · rename_i account _
        split at h
        · exact Or.inl (hnone h)
        · split at h
          · cases h
          · split at h
            · exact Or.inl (hnone h)
            · rename_i presentationType _
              have hcreate : (store.nextId ids).2.createDeliveryIfAbsent
                  (input.candidate now (ids.nth store.idsUsed) binding account presentationType) =
                ((ids.nth store.idsUsed, true), (store.nextId ids).2.saveDelivery
                  (input.candidate now (ids.nth store.idsUsed) binding account presentationType)) := by
                unfold ImStore.createDeliveryIfAbsent
                have hsame : (store.nextId ids).2.findDeliveryByBusinessKey input.businessEventId
                    binding.id input.kind = none := habsent
                simp only [SubmissionInput.candidate, hsame]
              generalize hdelivery : input.candidate now (ids.nth store.idsUsed) binding account
                presentationType = delivery at hcreate
              have hcandidate : delivery.id = ids.nth store.idsUsed ∧
                  delivery.businessEventId = input.businessEventId ∧
                  delivery.bindingId = binding.id ∧ delivery.kind = input.kind ∧
                  delivery.status = .pending ∧ delivery.claimToken = none := by
                rw [← hdelivery]
                exact ⟨rfl, rfl, rfl, rfl, rfl, rfl⟩
              obtain ⟨hid, hevent, hbinding, hkind, hstatus, htoken⟩ := hcandidate
              dsimp only [ImStore.nextId] at h hcreate
              rw [hdelivery, hcreate] at h
              cases h
              refine Or.inr ⟨delivery,
                requestedEvent (ids.nth (store.idsUsed + 1)) (ids.nth store.idsUsed) now, ?_, hevent,
                hbinding, hkind, by rw [hid]⟩
              exact {
                toFrame := ⟨rfl, rfl, rfl, rfl, rfl, rfl, Nat.le_add_right _ 2⟩
                absent := by rw [hevent, hbinding, hkind, habsent]
                generated := ⟨_, le_rfl, Nat.lt_succ_of_lt (Nat.lt_succ_self _), hid⟩
                status := hstatus
                claimToken := htoken
                deliveries := rfl
                attempts := rfl
                outbox := rfl
                aggregateId := hid.symm
                pending := rfl
                requested := rfl
                fresh := ⟨_, Nat.le_succ _, Nat.lt_succ_self _, rfl⟩ }

/-- The store in which a submission creates its deliveries: its key is reserved. -/
def SubmissionInput.reserve (input : SubmissionInput) (now : IsoDateTime) (store : ImStore) :
    ImStore :=
  { store with intentSubmissions := store.intentSubmissions.set (input.claim now) }

/-- The answer of a submission that created its deliveries. -/
def SubmissionInput.answer (input : SubmissionInput) (listed : List SubmittedDelivery) :
    NotificationSubmission where
  businessEventId := input.businessEventId
  deliveries := listed
  actionStream := if listed = [] then none else input.actionStream

/-- A submission repeats the answer that is stored under its key, or stores its own. -/
theorem createDeliveries_cases {capabilities : CapabilityResolver}
    {input : SubmissionInput} {submission : NotificationSubmission}
    (h : createDeliveries ids capabilities now input store = .ok (submission, store')) :
    (∃ record, store.intentSubmissions.get? (key (input.claim now)) = some record ∧
      record.requestFingerprint = canonicalizeJson input.payload.value ∧
      submission = record.submission ∧ store' = store) ∨
    (store.intentSubmissions.get? (key (input.claim now)) = none ∧ ∃ listed middle,
      createDeliveryLoop ids capabilities now input (input.reserve now store)
        (input.selected store) = .ok (listed, middle) ∧ submission = input.answer listed ∧
      store' = middle.finalizeClaim { input.claim now with submission }) := by
  unfold createDeliveries ImStore.createSubmissionIfAbsent at h
  cases hget : store.intentSubmissions.get? (key (input.claim now)) with
  | some record =>
      simp only [show store.intentSubmissions.get? (intentSubmissionKey
        (input.claim now).businessEventId (input.claim now).kind) = some record from hget] at h
      split at h
      · cases h
      · rename_i hfingerprint
        cases h
        exact Or.inl ⟨record, rfl, not_not.1 hfingerprint, rfl, rfl⟩
  | none =>
      simp only [show store.intentSubmissions.get? (intentSubmissionKey
        (input.claim now).businessEventId (input.claim now).kind) = none from hget] at h
      split at h
      · cases h
      · rename_i listed middle hloop
        cases h
        exact Or.inr ⟨rfl, listed, middle, hloop, rfl, rfl⟩

end VoiceLife.Gateway
