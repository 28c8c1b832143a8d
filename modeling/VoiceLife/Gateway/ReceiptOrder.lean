import VoiceLife.Gateway.TerminalActions

/-! # Receipts in any order

The receipts of one attempt move its delivery up a chain: retryable failure, dead letter, delivered. So
the status that they lead to depends on which receipts came, not on their order, and not on how often
each of them came.
-/

namespace VoiceLife.Gateway

variable {ports : Ports} {store store' : ImStore} {delivery delivery' : Delivery}
  {current : DeliveryAttempt} {receipt : NormalizedDeliveryReceipt}

/-! ## Statuses -/

/-- The delivery has failed for good. -/
def DeliveryStatus.isFailed (status : DeliveryStatus) : Bool :=
  status = .deadLetter || status = .permanentFailed

/-- A failure after which the attempt is not retried. -/
def isFinalFailure (attemptNo : ℕ) (receipt : NormalizedDeliveryReceipt) : Bool :=
  !receipt.retryable || attemptNo ≥ maxAutomaticDeliveryAttempts

/-- The status that receipts lead to from another one. -/
def convergedStatus (attemptNo : ℕ) (status : DeliveryStatus)
    (receipts : List NormalizedDeliveryReceipt) : DeliveryStatus :=
  if receipts = [] then status
  else if status = .delivered ∨ receipts.any (fun receipt => receipt.stage = .delivered) then .delivered
  else if status.isFailed ∨ receipts.any (isFinalFailure attemptNo) then .deadLetter
  else .retryableFailed

@[simp] theorem convergedStatus_nil (attemptNo : ℕ) (status : DeliveryStatus) :
    convergedStatus attemptNo status [] = status :=
  rfl

/-- A receipt for the current attempt is one step of this. -/
theorem receiptStatus_eq (delivery : Delivery) (current : DeliveryAttempt)
    (receipt : NormalizedDeliveryReceipt) : receiptStatus delivery current receipt =
      convergedStatus current.attemptNo delivery.status [receipt] := by
  have hne : [receipt] ≠ [] := List.cons_ne_nil receipt []
  unfold receiptStatus receiptExhausted advanceDeliveryStatus convergedStatus
  rw [if_neg hne]
  by_cases hdelivered : delivery.status = .delivered
  · simp [hdelivered]
  by_cases hstage : receipt.stage = .delivered
  · simp [hdelivered, hstage]
  by_cases hfailed : delivery.status = .deadLetter ∨ delivery.status = .permanentFailed
  · rcases hfailed with h | h <;> simp [h, hstage, DeliveryStatus.isFailed]
  cases hretryable : receipt.retryable
  · simp [hdelivered, hstage, hfailed, hretryable, isFinalFailure]
  · simp [hdelivered, hstage, hfailed, hretryable, isFinalFailure, DeliveryStatus.isFailed]

theorem convergedStatus_cons (attemptNo : ℕ) (status : DeliveryStatus)
    (receipt : NormalizedDeliveryReceipt) (receipts : List NormalizedDeliveryReceipt) :
    convergedStatus attemptNo (convergedStatus attemptNo status [receipt]) receipts =
      convergedStatus attemptNo status (receipt :: receipts) := by
  unfold convergedStatus DeliveryStatus.isFailed
  by_cases hnil : receipts = []
  · simp [hnil]
  · by_cases hdelivered : status = .delivered ∨ receipt.stage = .delivered
    · rcases hdelivered with h | h <;> simp [h, hnil]
    · rw [not_or] at hdelivered
      by_cases hfailed : (status = .deadLetter ∨ status = .permanentFailed) ∨
          isFinalFailure attemptNo receipt = true
      · simp [hnil, hdelivered.1, hdelivered.2, hfailed]
        rcases hfailed with (h | h) | h <;> simp [h]
      · simp [hnil, hdelivered.1, hdelivered.2, hfailed]
        simp only [not_or] at hfailed
        simp [hfailed]

/-- Receipts that a delivery cannot tell apart. -/
def SameOutcome (receipt receipt' : NormalizedDeliveryReceipt) : Prop :=
  receipt.stage = receipt'.stage ∧ receipt.retryable = receipt'.retryable

theorem any_congr_of_sameOutcome {receipts receipts' : List NormalizedDeliveryReceipt}
    {p : NormalizedDeliveryReceipt → Bool}
    (hp : ∀ receipt receipt', SameOutcome receipt receipt' → p receipt = p receipt')
    (h : ∀ receipt ∈ receipts, ∃ receipt' ∈ receipts', SameOutcome receipt receipt')
    (h' : ∀ receipt' ∈ receipts', ∃ receipt ∈ receipts, SameOutcome receipt' receipt) :
    receipts.any p = receipts'.any p := by
  rw [Bool.eq_iff_iff, List.any_eq_true, List.any_eq_true]
  constructor
  · rintro ⟨receipt, hmem, htrue⟩
    obtain ⟨receipt', hmem', hsame⟩ := h receipt hmem
    exact ⟨receipt', hmem', hp receipt receipt' hsame ▸ htrue⟩
  · rintro ⟨receipt, hmem, htrue⟩
    obtain ⟨receipt', hmem', hsame⟩ := h' receipt hmem
    exact ⟨receipt', hmem', hp receipt receipt' hsame ▸ htrue⟩

theorem convergedStatus_congr {attemptNo : ℕ} {status : DeliveryStatus}
    {receipts receipts' : List NormalizedDeliveryReceipt}
    (h : ∀ receipt ∈ receipts, ∃ receipt' ∈ receipts', SameOutcome receipt receipt')
    (h' : ∀ receipt' ∈ receipts', ∃ receipt ∈ receipts, SameOutcome receipt' receipt) :
    convergedStatus attemptNo status receipts = convergedStatus attemptNo status receipts' := by
  have hnil : receipts = [] ↔ receipts' = [] := by
    rw [List.eq_nil_iff_forall_not_mem, List.eq_nil_iff_forall_not_mem]
    constructor
    · intro hnone receipt' hmem
      obtain ⟨receipt, hin, -⟩ := h' receipt' hmem
      exact hnone receipt hin
    · intro hnone receipt hmem
      obtain ⟨receipt', hin, -⟩ := h receipt hmem
      exact hnone receipt' hin
  have hdelivered : receipts.any (fun receipt => receipt.stage = .delivered) =
      receipts'.any (fun receipt => receipt.stage = .delivered) := by
    apply any_congr_of_sameOutcome (fun receipt receipt' hsame => ?_) h h'
    rw [hsame.1]
  have hfinal : receipts.any (isFinalFailure attemptNo) =
      receipts'.any (isFinalFailure attemptNo) := by
    apply any_congr_of_sameOutcome (fun receipt receipt' hsame => ?_) h h'
    rw [isFinalFailure, isFinalFailure, hsame.2]
  unfold convergedStatus
  rw [hdelivered, hfinal, if_congr hnil rfl rfl]

/-! ## One receipt -/

/-- A delivery whose latest attempt was accepted. -/
structure AcceptedAttempt (store : ImStore) (delivery : Delivery) (current : DeliveryAttempt) : Prop where
  stored : store.deliveries.get? delivery.id = some delivery
  latest : (store.listAttempts delivery.id).getLast? = some current
  accepted : current.status = .accepted

/-- A receipt speaks about an attempt of a delivery: by its message, which is the current one of the
delivery, and by the attempt that it names, or else the only attempt with this message. -/
structure ResolvesTo (store : ImStore) (receipt : NormalizedDeliveryReceipt) (delivery : Delivery)
    (current : DeliveryAttempt) : Prop where
  found : store.findByExternalMessage receipt.channelAccountId receipt.externalMessageId =
    some delivery
  message : delivery.externalMessageId = some receipt.externalMessageId
  attempt : receiptAttempt (store.listAttempts delivery.id) receipt = some current

/-- The delivery of the attempt moves to a status; everything that receipts are matched with stays. -/
structure MovesTo (store store' : ImStore) (delivery delivery' : Delivery) : Prop where
  attempts : store'.attempts = store.attempts
  rows : store'.deliveries.rows = store.deliveries.rows.map fun found =>
    if found.id = delivery.id then delivery' else found
  id : delivery'.id = delivery.id
  channelAccountId : delivery'.channelAccountId = delivery.channelAccountId
  externalMessageId : delivery'.externalMessageId = delivery.externalMessageId

theorem findByExternalMessage_channelAccountId {channelAccountId : ChannelAccountId}
    {externalMessageId : JsString}
    (h : store.findByExternalMessage channelAccountId externalMessageId = some delivery) :
    delivery.channelAccountId = channelAccountId := by
  unfold ImStore.findByExternalMessage at h
  dsimp only at h
  split at h
  · rename_i found hfound
    cases h
    have hkeys := List.find?_some hfound
    rw [decide_eq_true_eq] at hkeys
    exact hkeys.1
  · split at h
    · cases h
    · split at h
      · cases h
      · split at h <;> cases h
        assumption

theorem MovesTo.stored (h : MovesTo store store' delivery delivery')
    (hstored : store.deliveries.get? delivery.id = some delivery) :
    store'.deliveries.get? delivery'.id = some delivery' := by
  apply KeyTable.get?_key
  rw [h.rows]
  exact List.mem_map.2 ⟨delivery, (KeyTable.get?_eq_some.1 hstored).1, if_pos rfl⟩

theorem MovesTo.listAttempts (h : MovesTo store store' delivery delivery') :
    store'.listAttempts delivery'.id = store.listAttempts delivery.id := by
  rw [h.id, ImStore.listAttempts, ImStore.listAttempts, ImStore.attemptsOf, ImStore.attemptsOf,
    h.attempts]

theorem MovesTo.acceptedAttempt (h : MovesTo store store' delivery delivery')
    (hcurrent : AcceptedAttempt store delivery current) :
    AcceptedAttempt store' delivery' current where
  stored := h.stored hcurrent.stored
  latest := h.listAttempts ▸ hcurrent.latest
  accepted := hcurrent.accepted

theorem MovesTo.resolvesTo (h : MovesTo store store' delivery delivery')
    (hresolves : ResolvesTo store receipt delivery current) :
    ResolvesTo store' receipt delivery' current where
  message := h.externalMessageId ▸ hresolves.message
  attempt := h.listAttempts ▸ hresolves.attempt
  found := by
    have hstored := findByExternalMessage_stored hresolves.found
    have hmem := (KeyTable.get?_eq_some.1 hstored).1
    have haccount := findByExternalMessage_channelAccountId hresolves.found
    -- the message is the current one of the delivery, so it is found directly
    have hdirect : store.deliveries.rows.find? (fun found =>
        found.channelAccountId = receipt.channelAccountId ∧
          found.externalMessageId = some receipt.externalMessageId) = some delivery := by
      have hfound := hresolves.found
      unfold ImStore.findByExternalMessage at hfound
      dsimp only at hfound
      split at hfound
      · rename_i found hfind
        cases hfound
        exact hfind
      · rename_i hnone
        have hnot := List.find?_eq_none.1 hnone delivery hmem
        exact absurd (decide_eq_true ⟨haccount, hresolves.message⟩) hnot
    have hfind : store'.deliveries.rows.find? (fun found =>
        found.channelAccountId = receipt.channelAccountId ∧
          found.externalMessageId = some receipt.externalMessageId) = some delivery' := by
      rw [h.rows, List.find?_map, List.find?_congr fun found hin => ?_, hdirect, Option.map_some,
        if_pos rfl]
      by_cases hid : found.id = delivery.id
      · rw [KeyTable.eq_of_key_eq store.deliveries hin hmem hid]
        simp only [Function.comp_apply, if_true, h.channelAccountId, h.externalMessageId]
      · simp only [Function.comp_apply, if_neg hid]
    unfold ImStore.findByExternalMessage
    rw [hfind]

theorem AcceptedAttempt.movesTo_self (hcurrent : AcceptedAttempt store delivery current)
    (hattempts : store'.attempts = store.attempts) (hdeliveries : store'.deliveries = store.deliveries) :
    MovesTo store store' delivery delivery where
  attempts := hattempts
  rows := by
    have hmem := (KeyTable.get?_eq_some.1 hcurrent.stored).1
    have hsame : ∀ found ∈ store.deliveries.rows,
        (if found.id = delivery.id then delivery else found) = found := by
      intro found hin
      split
      · rename_i hid
        exact (KeyTable.eq_of_key_eq store.deliveries hin hmem hid).symm
      · rfl
    rw [hdeliveries, List.map_congr_left hsame, List.map_id']
  id := rfl
  channelAccountId := rfl
  externalMessageId := rfl

/-- A new receipt for the current attempt moves the delivery. -/
theorem applyReceipt_movesTo (ids : IdGenerator) (addMinutes : AddMinutes) (now : IsoDateTime)
    (hcurrent : AcceptedAttempt store delivery current)
    (hresolves : ResolvesTo store receipt delivery current)
    (hattempts : store'.attempts = store.attempts) (hdeliveries : store'.deliveries = store.deliveries) :
    ∃ delivery', MovesTo store (applyReceipt ids addMinutes now delivery
        (store.listAttempts delivery.id) receipt store') delivery delivery' ∧
      delivery'.status = convergedStatus current.attemptNo delivery.status [receipt] ∧
      (applyReceipt ids addMinutes now delivery (store.listAttempts delivery.id) receipt
        store').receipts = store'.receipts := by
  have hmatches : ¬ (some receipt.externalMessageId ≠ delivery.externalMessageId ∨
      current.status ≠ .accepted ∨ (receiptAttempt (store.listAttempts delivery.id) receipt).map
        DeliveryAttempt.id ≠ some current.id) := by
    rw [hresolves.message, hcurrent.accepted, hresolves.attempt]
    simp
  unfold applyReceipt
  rw [hcurrent.latest]
  dsimp only
  rw [if_neg hmatches]
  have hstatus : (receivedDelivery delivery current receipt now).status =
      convergedStatus current.attemptNo delivery.status [receipt] :=
    receiptStatus_eq delivery current receipt
  by_cases hsame : (receivedDelivery delivery current receipt now).status = delivery.status
  · rw [if_pos hsame]
    refine ⟨delivery, hcurrent.movesTo_self hattempts hdeliveries, ?_, rfl⟩
    rw [← hstatus, hsame]
  · rw [if_neg hsame]
    have hmoves : MovesTo store (store'.saveDelivery (receivedDelivery delivery current receipt now))
        delivery (receivedDelivery delivery current receipt now) := by
      refine ⟨hattempts, ?_, rfl, rfl, rfl⟩
      show (store'.deliveries.set _).rows = _
      rw [hdeliveries]
      exact KeyTable.rows_set_of_mem (KeyTable.get?_eq_some.1 hcurrent.stored).1 rfl
    refine ⟨receivedDelivery delivery current receipt now, ?_, hstatus, ?_⟩
    · split
      · exact ⟨hmoves.attempts, hmoves.rows, rfl, rfl, rfl⟩
      · exact hmoves
    · split <;> rfl

/-- The receipts whose keys are not recorded yet. -/
def unrecorded (store : ImStore) (receipts : List NormalizedDeliveryReceipt) :
    List NormalizedDeliveryReceipt :=
  receipts.filter fun receipt => (store.receipts.get? receipt.dedupeKey).isNone

/-- A receipt for the current attempt is recorded: it moves the delivery if its key is new. -/
theorem recordReceipt_movesTo (ids : IdGenerator) (addMinutes : AddMinutes) (now : IsoDateTime)
    (hcurrent : AcceptedAttempt store delivery current)
    (hresolves : ResolvesTo store receipt delivery current) :
    ∃ store' delivery', recordReceipt ids addMinutes now receipt store = .ok store' ∧
      MovesTo store store' delivery delivery' ∧
      delivery'.status = convergedStatus current.attemptNo delivery.status
        (unrecorded store [receipt]) ∧
      ∀ key, (store'.receipts.get? key).isNone =
        ((store.receipts.get? key).isNone && !decide (key = receipt.dedupeKey)) := by
  unfold recordReceipt
  cases hrecorded : store.receipts.get? receipt.dedupeKey with
  | some recorded =>
      refine ⟨store, delivery, rfl, hcurrent.movesTo_self rfl rfl, ?_, fun key => ?_⟩
      · have hnone : unrecorded store [receipt] = [] := by
          simp only [unrecorded, List.filter_cons, hrecorded, Option.isNone_some, Bool.false_eq_true,
            if_false, List.filter_nil]
        rw [hnone, convergedStatus_nil]
      · by_cases hkey : key = receipt.dedupeKey
        · rw [hkey, hrecorded]
          rfl
        · rw [decide_eq_false hkey, Bool.not_false, Bool.and_true]
  | none =>
      dsimp only
      rw [hresolves.found]
      dsimp only
      have hattempt : ¬ (receipt.attemptId.isSome ∧
          receiptAttempt (store.listAttempts delivery.id) receipt = none) := by
        rw [hresolves.attempt]
        simp
      rw [if_neg hattempt]
      generalize hsaved : (store.nextId ids).2.saveReceipt _ = saved
      have hreceipts : saved.receipts = store.receipts.set
          (storedReceipt (store.nextId ids).1 delivery.id receipt now) := by
        rw [← hsaved, ImStore.saveReceipt,
          show (store.nextId ids).2.receipts.get? (storedReceipt (store.nextId ids).1 delivery.id
            receipt now).dedupeKey = none from hrecorded]
        rfl
      have hattempts : saved.attempts = store.attempts := by
        rw [← hsaved, ImStore.saveReceipt]
        split <;> rfl
      have hdeliveries : saved.deliveries = store.deliveries := by
        rw [← hsaved, ImStore.saveReceipt]
        split <;> rfl
      obtain ⟨delivery', hmoves, hstatus, hkept⟩ :=
        applyReceipt_movesTo ids addMinutes now hcurrent hresolves hattempts hdeliveries
      refine ⟨_, delivery', rfl, hmoves, ?_, fun key => ?_⟩
      · have hnew : unrecorded store [receipt] = [receipt] := by
          simp only [unrecorded, List.filter_cons, hrecorded, Option.isNone_none, if_true,
            List.filter_nil]
        rw [hnew, hstatus]
      · rw [hkept, hreceipts, KeyTable.get?_set]
        show (if receipt.dedupeKey = key then _ else _ : Option DeliveryReceipt).isNone = _
        by_cases hkey : key = receipt.dedupeKey
        · rw [if_pos hkey.symm, decide_eq_true hkey, Bool.not_true, Bool.and_false]
          rfl
        · rw [if_neg (Ne.symm hkey), decide_eq_false hkey, Bool.not_false, Bool.and_true]

/-- Any other receipt leaves the deliveries alone: its attempt is not the latest one of its delivery, or
there is none that it names. -/
theorem recordReceipt_keepsDeliveries {ids : IdGenerator} {addMinutes : AddMinutes}
    {now : IsoDateTime} (h : recordReceipt ids addMinutes now receipt store = .ok store')
    (hother : ∀ delivery attempt, store.findByExternalMessage receipt.channelAccountId
      receipt.externalMessageId = some delivery →
      receiptAttempt (store.listAttempts delivery.id) receipt = some attempt →
      ∀ latest, (store.listAttempts delivery.id).getLast? = some latest → latest.id ≠ attempt.id) :
    store'.deliveries = store.deliveries := by
  unfold recordReceipt at h
  split at h
  · cases h
    rfl
  split at h
  · cases h
  rename_i delivery hfound
  dsimp only at h
  split at h <;> cases h
  generalize hsaved : (store.nextId ids).2.saveReceipt _ = saved
  have hdeliveries : saved.deliveries = store.deliveries := by
    rw [← hsaved, ImStore.saveReceipt]
    split <;> rfl
  unfold applyReceipt
  split
  · exact hdeliveries
  · rename_i current hlatest
    rw [if_pos, hdeliveries]
    refine Or.inr (Or.inr fun hid => ?_)
    obtain ⟨attempt, hattempt, hsame⟩ := Option.map_eq_some_iff.1 hid
    exact hother delivery attempt hfound hattempt current hlatest hsame.symm

/-! ## Many receipts -/

/-- Receipts recorded one after the other. -/
def recordings (receipts : List (IsoDateTime × NormalizedDeliveryReceipt)) : List GatewayEvent :=
  receipts.map fun entry => .recordReceipt entry.1 entry.2

/-- The dedupe key of a receipt says what the receipt says. -/
def KeysIdentify (receipts : List NormalizedDeliveryReceipt) : Prop :=
  ∀ receipt ∈ receipts, ∀ receipt' ∈ receipts, receipt.dedupeKey = receipt'.dedupeKey →
    SameOutcome receipt receipt'

/-- Recording one receipt first makes no difference to what the receipts lead to together. -/
theorem convergedStatus_unrecorded {attemptNo : ℕ} {status : DeliveryStatus}
    {receipts : List NormalizedDeliveryReceipt} (hkeys : KeysIdentify (receipt :: receipts))
    (hreceipts : ∀ key, (store'.receipts.get? key).isNone =
      ((store.receipts.get? key).isNone && !decide (key = receipt.dedupeKey))) :
    convergedStatus attemptNo
        (convergedStatus attemptNo status (unrecorded store [receipt])) (unrecorded store' receipts) =
      convergedStatus attemptNo status (unrecorded store (receipt :: receipts)) := by
  have hmem : ∀ found, found ∈ unrecorded store' receipts ↔
      found ∈ unrecorded store receipts ∧ found.dedupeKey ≠ receipt.dedupeKey := by
    intro found
    simp only [unrecorded, List.mem_filter, hreceipts, Bool.and_eq_true, Bool.not_eq_true',
      decide_eq_false_iff_not, and_assoc, ne_eq]
  by_cases hnew : (store.receipts.get? receipt.dedupeKey).isNone
  · have hone : unrecorded store [receipt] = [receipt] := List.filter_cons_of_pos hnew
    have hcons : unrecorded store (receipt :: receipts) = receipt :: unrecorded store receipts :=
      List.filter_cons_of_pos hnew
    rw [hone, hcons, convergedStatus_cons]
    apply convergedStatus_congr
    · intro found hfound
      refine ⟨found, ?_, rfl, rfl⟩
      rcases List.mem_cons.1 hfound with rfl | hrest
      · exact List.mem_cons_self
      · exact List.mem_cons_of_mem _ ((hmem found).1 hrest).1
    · intro found hfound
      rcases List.mem_cons.1 hfound with rfl | hrest
      · exact ⟨found, List.mem_cons_self, rfl, rfl⟩
      · by_cases hkey : found.dedupeKey = receipt.dedupeKey
        · have hin : found ∈ receipts := List.mem_of_mem_filter hrest
          exact ⟨receipt, List.mem_cons_self,
            hkeys found (List.mem_cons_of_mem _ hin) receipt List.mem_cons_self hkey⟩
        · exact ⟨found, List.mem_cons_of_mem _ ((hmem found).2 ⟨hrest, hkey⟩), rfl, rfl⟩
  · have hone : unrecorded store [receipt] = [] := List.filter_cons_of_neg hnew
    have hcons : unrecorded store (receipt :: receipts) = unrecorded store receipts :=
      List.filter_cons_of_neg hnew
    rw [hone, hcons, convergedStatus_nil]
    have hsame : unrecorded store' receipts = unrecorded store receipts := by
      refine List.filter_congr fun found _ => ?_
      rw [hreceipts]
      by_cases hkey : found.dedupeKey = receipt.dedupeKey
      · rw [hkey, Bool.eq_false_of_not_eq_true hnew, Bool.false_and]
      · rw [decide_eq_false hkey, Bool.not_false, Bool.and_true]
    rw [hsame]

theorem run_recordings {state : GatewayState}
    {receipts : List (IsoDateTime × NormalizedDeliveryReceipt)}
    (hcurrent : AcceptedAttempt state.store delivery current)
    (hresolves : ∀ entry ∈ receipts, ResolvesTo state.store entry.2 delivery current)
    (hkeys : KeysIdentify (receipts.map Prod.snd)) :
    ∃ delivery', (Run.run (step ports) state (recordings receipts)).store.deliveries.get? delivery.id =
        some delivery' ∧
      delivery'.status = convergedStatus current.attemptNo delivery.status
        (unrecorded state.store (receipts.map Prod.snd)) := by
  induction receipts generalizing state delivery with
  | nil => exact ⟨delivery, hcurrent.stored, rfl⟩
  | cons entry receipts ih =>
      obtain ⟨now, receipt⟩ := entry
      obtain ⟨store', delivery₁, hrecord, hmoves, hstatus, hreceipts⟩ :=
        recordReceipt_movesTo ports.ids ports.addMinutes now hcurrent
          (hresolves (now, receipt) List.mem_cons_self)
      have hstep : step ports state (.recordReceipt now receipt) = { state with store := store' } := by
        simp only [step, hrecord]
      have hrest : ∀ entry ∈ receipts, ResolvesTo store' entry.2 delivery₁ current := by
        intro entry hentry
        exact hmoves.resolvesTo (hresolves entry (List.mem_cons_of_mem _ hentry))
      have hkeysRest : KeysIdentify (receipts.map Prod.snd) := by
        intro found hfound other hother
        exact hkeys found (List.mem_cons_of_mem _ hfound) other (List.mem_cons_of_mem _ hother)
      obtain ⟨delivery', hget, hfinal⟩ :=
        @ih delivery₁ { state with store := store' } (hmoves.acceptedAttempt hcurrent) hrest hkeysRest
      refine ⟨delivery', ?_, ?_⟩
      · show (Run.run (step ports) (step ports state (.recordReceipt now receipt))
          (recordings receipts)).store.deliveries.get? delivery.id = some delivery'
        rw [hstep, ← hmoves.id]
        exact hget
      · rw [hfinal, hstatus]
        exact convergedStatus_unrecorded hkeys hreceipts

/-- The status of a delivery once receipts are recorded. -/
def statusAfter (ports : Ports) (state : GatewayState) (deliveryId : DeliveryId)
    (receipts : List (IsoDateTime × NormalizedDeliveryReceipt)) : Option DeliveryStatus :=
  ((Run.run (step ports) state (recordings receipts)).store.deliveries.get? deliveryId).map
    Delivery.status

theorem statusAfter_eq {state : GatewayState}
    {receipts : List (IsoDateTime × NormalizedDeliveryReceipt)}
    (hcurrent : AcceptedAttempt state.store delivery current)
    (hresolves : ∀ entry ∈ receipts, ResolvesTo state.store entry.2 delivery current)
    (hkeys : KeysIdentify (receipts.map Prod.snd)) :
    statusAfter ports state delivery.id receipts = some (convergedStatus current.attemptNo
      delivery.status (unrecorded state.store (receipts.map Prod.snd))) := by
  obtain ⟨delivery', hget, hstatus⟩ := @run_recordings ports _ _ state _ hcurrent hresolves hkeys
  rw [statusAfter, hget, Option.map_some, hstatus]

theorem unrecorded_congr {receipts receipts' : List NormalizedDeliveryReceipt} {attemptNo : ℕ}
    {status : DeliveryStatus} (h : ∀ receipt, receipt ∈ receipts ↔ receipt ∈ receipts') :
    convergedStatus attemptNo status (unrecorded store receipts) =
      convergedStatus attemptNo status (unrecorded store receipts') := by
  apply convergedStatus_congr
  · intro receipt hmem
    obtain ⟨hin, hnew⟩ := List.mem_filter.1 hmem
    exact ⟨receipt, List.mem_filter.2 ⟨(h receipt).1 hin, hnew⟩, rfl, rfl⟩
  · intro receipt hmem
    obtain ⟨hin, hnew⟩ := List.mem_filter.1 hmem
    exact ⟨receipt, List.mem_filter.2 ⟨(h receipt).2 hin, hnew⟩, rfl, rfl⟩

/-- Receipts for the latest, accepted attempt of a delivery lead to one status in any order and with any
repetitions; receipts for other attempts, or for none, change no delivery. -/
theorem receipts_converge (ports : Ports) (state : GatewayState) :
    (∀ delivery current, AcceptedAttempt state.store delivery current →
      ∀ receipts : List (IsoDateTime × NormalizedDeliveryReceipt),
        (∀ entry ∈ receipts, ResolvesTo state.store entry.2 delivery current) →
        KeysIdentify (receipts.map Prod.snd) →
        statusAfter ports state delivery.id receipts = some (convergedStatus current.attemptNo
          delivery.status (unrecorded state.store (receipts.map Prod.snd))) ∧
        ∀ receipts' : List (IsoDateTime × NormalizedDeliveryReceipt),
          (∀ receipt, receipt ∈ receipts'.map Prod.snd ↔ receipt ∈ receipts.map Prod.snd) →
          statusAfter ports state delivery.id receipts' = statusAfter ports state delivery.id receipts) ∧
    ∀ now receipt, (∀ delivery attempt, state.store.findByExternalMessage receipt.channelAccountId
        receipt.externalMessageId = some delivery →
        receiptAttempt (state.store.listAttempts delivery.id) receipt = some attempt →
        ∀ latest, (state.store.listAttempts delivery.id).getLast? = some latest →
          latest.id ≠ attempt.id) →
      (step ports state (.recordReceipt now receipt)).store.deliveries = state.store.deliveries := by
  refine ⟨fun delivery current hcurrent receipts hresolves hkeys => ?_, fun now receipt hother => ?_⟩
  · have hstatus : statusAfter ports state delivery.id receipts = _ :=
      statusAfter_eq hcurrent hresolves hkeys
    refine ⟨hstatus, fun receipts' hsame => ?_⟩
    have hresolves' : ∀ entry ∈ receipts', ResolvesTo state.store entry.2 delivery current := by
      intro entry hentry
      obtain ⟨other, hother, heq⟩ := List.mem_map.1 ((hsame entry.2).1 (List.mem_map_of_mem hentry))
      exact heq ▸ hresolves other hother
    have hkeys' : KeysIdentify (receipts'.map Prod.snd) := by
      intro found hfound other hother
      exact hkeys found ((hsame found).1 hfound) other ((hsame other).1 hother)
    rw [hstatus, statusAfter_eq hcurrent hresolves' hkeys', unrecorded_congr hsame]
  · dsimp only [step]
    split
    · rfl
    · rename_i hrecord
      exact recordReceipt_keepsDeliveries hrecord hother

/-! ## Receipts of a sample delivery -/

/-- The sample reminder is delivered to the channel. -/
def acceptedRun : List GatewayEvent :=
  [sampleDirectory, sampleSubmission, .dispatch sampleTime sampleTime (unaryIds.nth 0),
    .advance 0 acceptingAnswers, .advance 0 acceptingAnswers, .advance 0 acceptingAnswers]

/-- The state after this. -/
def acceptedState : GatewayState :=
  Run.run (step samplePorts) {} acceptedRun

/-- A receipt for the message of the sample delivery. -/
def sampleReceipt (dedupeKey : JsString) (stage : ReceiptStage) : NormalizedDeliveryReceipt where
  externalEventId := dedupeKey
  channelAccountId := js "account"
  externalMessageId := js "message"
  attemptId := none
  dedupeKey := dedupeKey
  stage := stage
  retryable := false
  occurredAt := sampleTime
  platformCode := none
  detail := none

theorem acceptedState_resolves : ∃ delivery current,
    AcceptedAttempt acceptedState.store delivery current ∧ delivery.id = unaryIds.nth 0 ∧
      delivery.status = .accepted ∧ current.attemptNo = 1 ∧
      ∀ dedupeKey stage, ResolvesTo acceptedState.store (sampleReceipt dedupeKey stage) delivery
        current := by
  have hfound : (acceptedState.store.findByExternalMessage (js "account") (js "message")).map
      (fun delivery => (delivery.id, delivery.externalMessageId, delivery.status)) =
        some (unaryIds.nth 0, some (js "message"), .accepted) := by
    decide
  have hattempts : (acceptedState.store.listAttempts (unaryIds.nth 0)).map
      (fun attempt => (attempt.status, attempt.platformMessageId, attempt.attemptNo)) =
        [(.accepted, some (js "message"), 1)] := by
    decide
  obtain ⟨delivery, hdelivery, hfields⟩ := Option.map_eq_some_iff.1 hfound
  simp only [Prod.mk.injEq] at hfields
  obtain ⟨hid, hmessage, hstatus⟩ := hfields
  obtain ⟨current, rest, hlist, hcurrent, hrest⟩ := List.map_eq_cons_iff.1 hattempts
  simp only [Prod.mk.injEq] at hcurrent
  obtain ⟨haccepted, hplatform, hnumber⟩ := hcurrent
  rw [List.map_eq_nil_iff.1 hrest, ← hid] at hlist
  refine ⟨delivery, current, ⟨findByExternalMessage_stored hdelivery, ?_, haccepted⟩, hid, hstatus,
    hnumber, fun dedupeKey stage => ⟨hdelivery, hmessage, ?_⟩⟩
  · rw [hlist]
    rfl
  · have hfilter : [current].filter (fun attempt =>
        attempt.platformMessageId = some (sampleReceipt dedupeKey stage).externalMessageId) =
          [current] :=
      List.filter_cons_of_pos (decide_eq_true hplatform)
    rw [hlist]
    simp only [receiptAttempt, hfilter]
    rfl

/-- Two receipts in either order: the delivery is delivered. -/
theorem sample_receipts_converge :
    statusAfter samplePorts acceptedState (unaryIds.nth 0)
        [(sampleTime, sampleReceipt (js "failed") .failed),
          (sampleTime, sampleReceipt (js "delivered") .delivered)] = some .delivered ∧
      (step samplePorts acceptedState (.recordReceipt sampleTime
        { sampleReceipt (js "failed") .failed with
          attemptId := some (js "unknown") })).store.deliveries =
        acceptedState.store.deliveries := by
  obtain ⟨delivery, current, hcurrent, hid, hstatus, hnumber, hresolves⟩ := acceptedState_resolves
  obtain ⟨hconverge, hother⟩ := receipts_converge samplePorts acceptedState
  constructor
  · have hkeys : KeysIdentify [sampleReceipt (js "failed") .failed,
        sampleReceipt (js "delivered") .delivered] := by
      intro receipt hmem receipt' hmem' hkey
      rcases List.mem_pair.1 hmem with rfl | rfl <;> rcases List.mem_pair.1 hmem' with rfl | rfl
      · exact ⟨rfl, rfl⟩
      · exact absurd hkey (by decide)
      · exact absurd hkey (by decide)
      · exact ⟨rfl, rfl⟩
    have hall : ∀ entry ∈ [(sampleTime, sampleReceipt (js "failed") .failed),
        (sampleTime, sampleReceipt (js "delivered") .delivered)],
        ResolvesTo acceptedState.store entry.2 delivery current := by
      intro entry hentry
      rcases List.mem_pair.1 hentry with rfl | rfl <;> exact hresolves _ _
    have hunrecorded : unrecorded acceptedState.store [sampleReceipt (js "failed") .failed,
        sampleReceipt (js "delivered") .delivered] = [sampleReceipt (js "failed") .failed,
          sampleReceipt (js "delivered") .delivered] := by
      rw [unrecorded, List.filter_eq_self]
      intro receipt _
      have hnone : acceptedState.store.receipts.rows.isEmpty = true := by decide +kernel
      rw [KeyTable.get?_eq_none.2 fun recorded hmem => ?_]
      · rfl
      · rw [List.isEmpty_iff.1 hnone] at hmem
        cases hmem
    rw [← hid, (hconverge delivery current hcurrent _ hall hkeys).1, hstatus]
    simp only [List.map_cons, List.map_nil, hunrecorded]
    rfl
  · apply hother
    intro found attempt hfound hattempt
    -- no attempt has this id
    have hnone : ∀ attempts : List DeliveryAttempt, (∀ attempt ∈ attempts, attempt.id ≠ js "unknown") →
        receiptAttempt attempts { sampleReceipt (js "failed") .failed with
          attemptId := some (js "unknown") } = none := by
      intro attempts hids
      apply List.find?_eq_none.2
      intro attempt hmem
      simpa using hids attempt (List.mem_of_mem_filter hmem)
    have hids : ∀ attempt ∈ acceptedState.store.attempts.rows, attempt.id ≠ js "unknown" := by
      decide +kernel
    rw [hnone] at hattempt
    · cases hattempt
    · intro attempt hmem
      rw [ImStore.listAttempts, List.mem_insertionSort] at hmem
      exact hids attempt (List.mem_of_mem_filter hmem)

/-- Two receipts for the sample message, with their keys and stages. -/
def samplePair (first second : JsString × ReceiptStage) :
    List (IsoDateTime × NormalizedDeliveryReceipt) :=
  [(sampleTime, sampleReceipt first.1 first.2), (sampleTime, sampleReceipt second.1 second.2)]

/-- A delivery that an earlier receipt moved does not go back, and of two receipts with one key the
first one counts. -/
theorem receipts_alone_do_not_decide :
    (¬ ∀ (ports : Ports) (events : List GatewayEvent) delivery current,
      AcceptedAttempt (Run.run (step ports) {} events).store delivery current →
      ∀ receipts : List (IsoDateTime × NormalizedDeliveryReceipt),
        (∀ entry ∈ receipts,
          ResolvesTo (Run.run (step ports) {} events).store entry.2 delivery current) →
        statusAfter ports (Run.run (step ports) {} events) delivery.id receipts =
          some (convergedStatus current.attemptNo .accepted (receipts.map Prod.snd))) ∧
    ¬ ∀ (ports : Ports) (events : List GatewayEvent) delivery current,
      AcceptedAttempt (Run.run (step ports) {} events).store delivery current →
      ∀ receipts receipts' : List (IsoDateTime × NormalizedDeliveryReceipt),
        (∀ entry ∈ receipts,
          ResolvesTo (Run.run (step ports) {} events).store entry.2 delivery current) →
        receipts.Perm receipts' →
        statusAfter ports (Run.run (step ports) {} events) delivery.id receipts =
          statusAfter ports (Run.run (step ports) {} events) delivery.id receipts' := by
  obtain ⟨delivery, current, hcurrent, hid, -, -, hresolves⟩ := acceptedState_resolves
  constructor
  · intro h
    have hafter : statusAfter samplePorts acceptedState (unaryIds.nth 0)
        (samplePair (js "delivered", .delivered) (js "failed", .failed)) = some .delivered := by
      decide +kernel
    obtain ⟨store', delivery', hrecord, hmoves, -, -⟩ :=
      recordReceipt_movesTo samplePorts.ids samplePorts.addMinutes sampleTime hcurrent
        (hresolves (js "delivered") .delivered)
    have hrun : Run.run (step samplePorts) {}
        (acceptedRun ++ [GatewayEvent.recordReceipt sampleTime (sampleReceipt (js "delivered") .delivered)]) =
          { acceptedState with store := store' } := by
      have hstep : step samplePorts acceptedState (.recordReceipt sampleTime
          (sampleReceipt (js "delivered") .delivered)) = { acceptedState with store := store' } := by
        simp only [step, hrecord]
      rw [Run.run_append, Run.run_cons, Run.run_nil]
      exact hstep
    have hfailed := h samplePorts
      (acceptedRun ++ [GatewayEvent.recordReceipt sampleTime (sampleReceipt (js "delivered") .delivered)])
    rw [hrun] at hfailed
    have hentry : ∀ entry ∈ [(sampleTime, sampleReceipt (js "failed") .failed)],
        ResolvesTo store' entry.2 delivery' current := by
      intro entry hentry
      rw [List.mem_singleton.1 hentry]
      exact hmoves.resolvesTo (hresolves (js "failed") .failed)
    have hstatus := hfailed delivery' current (hmoves.acceptedAttempt hcurrent)
      [(sampleTime, sampleReceipt (js "failed") .failed)] hentry
    -- the two recordings one after the other
    have hsame : statusAfter samplePorts { acceptedState with store := store' } delivery'.id
        [(sampleTime, sampleReceipt (js "failed") .failed)] =
          statusAfter samplePorts acceptedState (unaryIds.nth 0)
            (samplePair (js "delivered", .delivered) (js "failed", .failed)) := by
      rw [hmoves.id, hid]
      show _ = ((Run.run (step samplePorts) (step samplePorts acceptedState _) _).store.deliveries.get?
        _).map _
      simp only [step, hrecord]
      rfl
    rw [hsame, hafter] at hstatus
    simp [convergedStatus, sampleReceipt, DeliveryStatus.isFailed, isFinalFailure] at hstatus
  · intro h
    have hboth : ∀ entry ∈ samplePair (js "key", .delivered) (js "key", .failed),
        ResolvesTo (Run.run (step samplePorts) {} acceptedRun).store entry.2 delivery current := by
      intro entry hentry
      rcases List.mem_pair.1 hentry with rfl | rfl <;> exact hresolves _ _
    have hsame := h samplePorts acceptedRun delivery current hcurrent
      (samplePair (js "key", .delivered) (js "key", .failed))
      (samplePair (js "key", .failed) (js "key", .delivered)) hboth (List.Perm.swap _ _ _)
    rw [hid] at hsame
    have hdiffer : statusAfter samplePorts (Run.run (step samplePorts) {} acceptedRun)
        (unaryIds.nth 0) (samplePair (js "key", .delivered) (js "key", .failed)) ≠
      statusAfter samplePorts (Run.run (step samplePorts) {} acceptedRun) (unaryIds.nth 0)
        (samplePair (js "key", .failed) (js "key", .delivered)) := by
      decide +kernel
    exact hdiffer hsame

end VoiceLife.Gateway
