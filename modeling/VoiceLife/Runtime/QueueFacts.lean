import VoiceLife.Runtime.QueueLedger

/-! # Which facts the interaction queues keep

What is dropped, and what overtakes what, depends on single sections: in a run of sections that are
`Unhurried` nothing is dropped and nothing is overtaken (`facts_kept`).
-/

namespace VoiceLife.Runtime

/-! ## The invariant -/

/-- What the log may say about an item that has left. -/
def CallEvent.Proper (log : List CallEvent) : CallEvent → Prop
  | .evicted posted => posted.item.isBestEffort
  | .dropped _ => False
  | .replaced posted later =>
      .began later ∈ log ∧ later.item.emergencySlot = posted.item.emergencySlot
  | _ => True

theorem CallEvent.Proper.mono {log more : List CallEvent} {event : CallEvent} (h : event.Proper log) :
    event.Proper (log ++ more) := by
  cases event with
  | replaced posted later => exact ⟨List.mem_append_left _ h.1, h.2⟩
  | dropped posted => exact h.elim
  | _ => exact h

namespace World

/-- Every item is where its kind belongs. -/
structure Sorted (world : World) : Prop where
  control : ∀ posted ∈ world.queues.controlEventQueue, posted.item.isBestEffort = false
  bestEffort : ∀ posted ∈ world.queues.bestEffortEventQueue, posted.item.isBestEffort
  slots : ∀ slot pending, world.queues.emergencyEvents slot = some pending →
    pending.posted.item.emergencySlot = some slot
  refused : ∀ posted ∈ world.refused, posted.item.emergencySlot.isSome
  log : ∀ event ∈ world.log, event.Proper world.log

/-- The items that wait stand in an order that goes with the calls: a slot with a smaller sequence number
comes first, and every slot comes before the control queue. -/
structure Lined (world : World) : Prop where
  returned : ∀ call, .returned call ∈ world.log → call < world.calls
  refused : ∀ posted ∈ world.refused, .returned posted.call ∉ world.log
  bounded : ∀ slot pending, world.queues.emergencyEvents slot = some pending →
    pending.sequence ≤ world.queues.emergencyEventSequence
  sequence : world.queues.emergencyEventSequence < uint64Max
  slots : ∀ slot other pending later, world.queues.emergencyEvents slot = some pending →
    world.queues.emergencyEvents other = some later →
      returnedBefore world.log pending.posted.call later.posted.call → pending.sequence < later.sequence
  slotsFirst : ∀ posted ∈ world.queues.controlEventQueue, ∀ slot pending,
    world.queues.emergencyEvents slot = some pending →
      returnedBefore world.log posted.call pending.posted.call = false
  control : world.queues.controlEventQueue.Pairwise fun posted later =>
    returnedBefore world.log later.call posted.call = false

/-- The invariant of the runs. -/
structure Kept (world : World) : Prop where
  ledger : world.Ledger
  sorted : world.Sorted
  lined : world.Lined

theorem kept_start : Kept {} := by
  refine ⟨⟨?_, rfl⟩, ⟨by simp, by simp, by simp, by simp, by simp⟩,
    ⟨by simp, by simp, by simp, by decide, by simp, by simp, .nil⟩⟩
  have hslots : Slots.contents (fun _ => none : EmergencySlot → Option EmergencyEvent) EmergencySlot.all = 0 := by
    simp [Slots.contents]
  simp [held, hslots, endedCalls, begunCalls]

variable {world : World}

theorem Lined.call_not_returned (h : world.Lined) {call : ℕ} (hcall : world.calls ≤ call) :
    .returned call ∉ world.log :=
  fun hmem => absurd (h.returned call hmem) (not_lt.2 hcall)

/-- The order stays when items leave and the log grows. -/
theorem Lined.shrink {world world' : World} (h : world.Lined) (hledger : world.Ledger)
    {more : List CallEvent} (hlog : world'.log = world.log ++ more) (hcalls : world.calls ≤ world'.calls)
    (hcontrol : world'.queues.controlEventQueue.Sublist world.queues.controlEventQueue)
    (hslots : ∀ slot pending, world'.queues.emergencyEvents slot = some pending →
      world.queues.emergencyEvents slot = some pending)
    (hsequence : world'.queues.emergencyEventSequence = world.queues.emergencyEventSequence)
    (hreturned : ∀ call, .returned call ∈ more → call < world'.calls)
    (hrefused : ∀ posted ∈ world'.refused, .returned posted.call ∉ world'.log) : world'.Lined := by
  have hslotBegan : ∀ slot pending, world.queues.emergencyEvents slot = some pending →
      .began pending.posted ∈ world.log := fun slot pending hpending =>
    hledger.began_of_held (mem_held.2 (.inr (.inr (.inr ⟨slot, pending, hpending, rfl⟩))))
  have hcontrolBegan : ∀ posted ∈ world.queues.controlEventQueue, .began posted ∈ world.log :=
    fun posted hmem => hledger.began_of_held (mem_held.2 (.inl hmem))
  refine ⟨fun call hmem => ?_, hrefused, fun slot pending hpending => ?_, hsequence ▸ h.sequence,
    fun slot other pending later hpending hlater hbefore => ?_, fun posted hmem slot pending hpending => ?_, ?_⟩
  · rw [hlog] at hmem
    rcases List.mem_append.1 hmem with hold | hnew
    · exact (h.returned call hold).trans_le hcalls
    · exact hreturned call hnew
  · rw [hsequence]
    exact h.bounded slot pending (hslots slot pending hpending)
  · have hlater' := hslots other later hlater
    rw [hlog, returnedBefore_append (hslotBegan other later hlater')] at hbefore
    exact h.slots slot other pending later (hslots slot pending hpending) hlater' hbefore
  · have hpending' := hslots slot pending hpending
    rw [hlog, returnedBefore_append (hslotBegan slot pending hpending')]
    exact h.slotsFirst posted (hcontrol.subset hmem) slot pending hpending'
  · refine (h.control.sublist hcontrol).imp_of_mem fun {posted later} hposted _ hnot => ?_
    rw [hlog, returnedBefore_append (hcontrolBegan posted (hcontrol.subset hposted))]
    exact hnot

/-! ## What a section keeps -/

theorem Sorted.log_append (h : world.Sorted) {more : List CallEvent}
    (hmore : ∀ event ∈ more, event.Proper (world.log ++ more)) :
    ∀ event ∈ world.log ++ more, event.Proper (world.log ++ more) := by
  intro event hmem
  rcases List.mem_append.1 hmem with hold | hnew
  · exact (h.log event hold).mono
  · exact hmore event hnew

/-- What has not returned is still not returned when another call returns. -/
theorem Kept.refused_unreturned (h : world.Kept) {more : List CallEvent}
    (hmore : ∀ call, .returned call ∈ more → world.calls ≤ call) :
    ∀ posted ∈ world.refused, .returned posted.call ∉ world.log ++ more := by
  intro posted hmem hreturned
  rcases List.mem_append.1 hreturned with hold | hnew
  · exact h.lined.refused posted hmem hold
  · have hbegan := h.ledger.began_of_held (mem_held.2 (.inr (.inr (.inl hmem))))
    exact absurd (h.ledger.call_lt hbegan) (not_lt.2 (hmore _ hnew))

theorem Enqueued.not_dropped {item : InteractionEventItem}
    (hunhurried : Unhurried world (.enqueue item)) (hitem : item.isBestEffort = false)
    (hfull : kControlEventQueueCapacity ≤ world.queues.controlEventQueue.length) :
    item.emergencySlot ≠ none := by
  intro hslot
  rcases hunhurried with hbest | hroom | hsome
  · simp [hitem] at hbest
  · exact absurd hfull (not_le.2 hroom)
  · simp [hslot] at hsome

theorem Kept.sorted_enqueued {world world' : World} (h : world.Kept) {item : InteractionEventItem}
    (hunhurried : Unhurried world (.enqueue item)) (henqueued : Enqueued world item world') :
    world'.Sorted := by
  cases henqueued with
  | bestEffort evicted kept hitem hqueue =>
      refine ⟨h.sorted.control, fun posted hmem => ?_, h.sorted.slots, h.sorted.refused,
        h.sorted.log_append fun event hmem => ?_⟩
      · rcases List.mem_append.1 hmem with hkept | hlast
        · exact h.sorted.bestEffort posted (hqueue ▸ List.mem_append_right _ hkept)
        · rw [List.mem_singleton.1 hlast]
          exact hitem
      · simp only [List.cons_append, List.mem_cons, List.mem_append, List.mem_map, List.not_mem_nil,
          or_false] at hmem
        rcases hmem with rfl | ⟨posted, hposted, rfl⟩ | rfl
        · trivial
        · exact h.sorted.bestEffort posted (hqueue ▸ List.mem_append_left _ hposted)
        · trivial
  | control hitem hroom =>
      refine ⟨fun posted hmem => ?_, h.sorted.bestEffort, h.sorted.slots, h.sorted.refused,
        h.sorted.log_append fun event hmem => ?_⟩
      · rcases List.mem_append.1 hmem with hold | hlast
        · exact h.sorted.control posted hold
        · rw [List.mem_singleton.1 hlast]
          exact hitem
      · rcases List.mem_pair.1 hmem with rfl | rfl <;> trivial
  | refused hitem hslot =>
      refine ⟨h.sorted.control, h.sorted.bestEffort, h.sorted.slots, fun posted hmem => ?_,
        h.sorted.log_append fun event hmem => ?_⟩
      · rcases List.mem_append.1 hmem with hold | hlast
        · exact h.sorted.refused posted hold
        · rw [List.mem_singleton.1 hlast]
          exact hslot
      · rw [List.mem_singleton.1 hmem]
        trivial
  | dropped hitem hfull hslot => exact absurd hslot (Enqueued.not_dropped hunhurried hitem hfull)

theorem Kept.lined_enqueued {world world' : World} (h : world.Kept) {item : InteractionEventItem}
    (hunhurried : Unhurried world (.enqueue item)) (henqueued : Enqueued world item world') :
    world'.Lined := by
  cases henqueued with
  | bestEffort evicted kept hitem hqueue =>
      have hreturned : ∀ call, CallEvent.returned call ∈
          CallEvent.began (world.next item) :: evicted.map .evicted ++ [CallEvent.returned world.calls] →
            call = world.calls := by
        simp
      refine h.lined.shrink h.ledger rfl (Nat.le_succ _) (List.Sublist.refl _) (fun _ _ heq => heq) rfl
        (fun call hmem => ?_) (h.refused_unreturned fun call hmem => (hreturned call hmem).ge)
      exact (hreturned call hmem).trans_lt (Nat.lt_succ_self _)
  | control hitem hroom =>
      have hslotBegan : ∀ slot pending, world.queues.emergencyEvents slot = some pending →
          .began pending.posted ∈ world.log := fun slot pending hpending =>
        h.ledger.began_of_held (mem_held.2 (.inr (.inr (.inr ⟨slot, pending, hpending, rfl⟩))))
      have hreturned : ∀ call, CallEvent.returned call ∈
          [CallEvent.began (world.next item), .returned world.calls] → call = world.calls := by
        simp
      -- the new call is not returned before any call that has begun
      have hnew : ∀ posted, .began posted ∈ world.log →
          returnedBefore (world.log ++ [CallEvent.began (world.next item), CallEvent.returned world.calls])
            world.calls
            posted.call = false := by
        intro posted hbegan
        rw [returnedBefore_append hbegan, Bool.eq_false_iff]
        intro hbefore
        exact h.lined.call_not_returned le_rfl (returned_of_returnedBefore hbefore)
      refine ⟨fun call hmem => ?_, h.refused_unreturned fun call hmem => (hreturned call hmem).ge,
        h.lined.bounded, h.lined.sequence, fun slot other pending later hpending hlater hbefore => ?_,
        fun posted hmem slot pending hpending => ?_, ?_⟩
      · rcases List.mem_append.1 hmem with hold | hlast
        · exact (h.lined.returned call hold).trans (Nat.lt_succ_self _)
        · exact (hreturned call hlast).trans_lt (Nat.lt_succ_self _)
      · rw [returnedBefore_append (hslotBegan other later hlater)] at hbefore
        exact h.lined.slots slot other pending later hpending hlater hbefore
      · rcases List.mem_append.1 hmem with hold | hlast
        · rw [returnedBefore_append (hslotBegan slot pending hpending)]
          exact h.lined.slotsFirst posted hold slot pending hpending
        · rw [List.mem_singleton.1 hlast]
          exact hnew _ (hslotBegan slot pending hpending)
      · have hcontrolBegan : ∀ posted ∈ world.queues.controlEventQueue, .began posted ∈ world.log :=
          fun posted hmem => h.ledger.began_of_held (mem_held.2 (.inl hmem))
        refine List.pairwise_append.2 ⟨?_, List.pairwise_singleton _ _, fun posted hposted later hlater => ?_⟩
        · refine h.lined.control.imp_of_mem fun {posted later} hposted _ hnot => ?_
          rw [returnedBefore_append (hcontrolBegan posted hposted)]
          exact hnot
        · rw [List.mem_singleton.1 hlater]
          exact hnew posted (hcontrolBegan posted hposted)
  | refused hitem hslot =>
      have hreturned : ∀ call, CallEvent.returned call ∉ [CallEvent.began (world.next item)] := by
        simp
      refine h.lined.shrink h.ledger rfl (Nat.le_succ _) (List.Sublist.refl _) (fun _ _ heq => heq) rfl
        (fun call hmem => absurd hmem (hreturned call)) fun posted hmem => ?_
      rcases List.mem_append.1 hmem with hold | hlast
      · exact h.refused_unreturned (fun call hmem => absurd hmem (hreturned call)) posted hold
      · rw [List.mem_singleton.1 hlast, List.mem_append, not_or]
        exact ⟨h.lined.call_not_returned le_rfl, hreturned _⟩
  | dropped hitem hfull hslot => exact absurd hslot (Enqueued.not_dropped hunhurried hitem hfull)

theorem Kept.enqueue (h : world.Kept) {item : InteractionEventItem}
    (hunhurried : Unhurried world (.enqueue item)) : (world.enqueue item).Kept :=
  have henqueued := world.enqueue_enqueued item
  ⟨h.ledger.enqueued henqueued, h.sorted_enqueued hunhurried henqueued, h.lined_enqueued hunhurried henqueued⟩

theorem Ledger.nodup_refused (h : world.Ledger) : (world.refused.map Posted.call).Nodup := by
  have hle : (world.refused : Multiset Posted) ≤ begunCalls world.log := by
    rw [← h.balance, held]
    refine le_trans ?_ (Multiset.le_add_right _ _)
    refine le_trans ?_ (Multiset.le_add_right _ _)
    exact Multiset.le_add_left _ _
  have hmap := Multiset.map_le_map (f := Posted.call) hle
  rw [Multiset.map_coe, Multiset.map_coe] at hmap
  exact Multiset.coe_nodup.1 (Multiset.nodup_of_le hmap (Multiset.coe_nodup.2 h.nodup))

theorem Kept.wroteEmergency {world world' : World} (h : world.Kept) {call : ℕ}
    (hunhurried : Unhurried world (.enqueueEmergency call)) (hwrote : WroteEmergency world call world') :
    world'.Kept := by
  refine ⟨h.ledger.wroteEmergency hwrote, ?_, ?_⟩
  · cases hwrote with
    | nothing => exact h.sorted
    | wrote before after posted slot hcall hrefused hslot =>
        have hposted : posted ∈ world.refused := hrefused ▸ List.mem_append_right _ List.mem_cons_self
        have hbegan := h.ledger.began_of_held (mem_held.2 (.inr (.inr (.inl hposted))))
        refine ⟨h.sorted.control, h.sorted.bestEffort, fun other pending hpending => ?_, fun other hmem => ?_,
          h.sorted.log_append fun event hmem => ?_⟩
        · by_cases hother : other = slot
          · subst hother
            simp only [InteractionQueues.enqueueEmergency, Function.update_self, Option.some.injEq] at hpending
            rw [← hpending]
            exact hslot
          · simp only [InteractionQueues.enqueueEmergency, Function.update_of_ne hother] at hpending
            exact h.sorted.slots other pending hpending
        · refine h.sorted.refused other ?_
          rw [hrefused]
          exact (List.sublist_cons_self posted after).append_left before |>.subset hmem
        · rcases List.mem_append.1 hmem with hreplaced | hreturned
          · obtain ⟨pending, hpending, rfl⟩ := List.mem_map.1 hreplaced
            have hheld := h.sorted.slots slot pending (by simpa using hpending)
            exact ⟨List.mem_append_left _ hbegan, hslot.trans hheld.symm⟩
          · rw [List.mem_singleton.1 hreturned]
            trivial
  · cases hwrote with
    | nothing => exact h.lined
    | wrote before after posted slot hcall hrefused hslot =>
        subst hcall
        have hposted : posted ∈ world.refused := hrefused ▸ List.mem_append_right _ List.mem_cons_self
        have hbegan := h.ledger.began_of_held (mem_held.2 (.inr (.inr (.inl hposted))))
        have hslotBegan : ∀ slot pending, world.queues.emergencyEvents slot = some pending →
            .began pending.posted ∈ world.log := fun slot pending hpending =>
          h.ledger.began_of_held (mem_held.2 (.inr (.inr (.inr ⟨slot, pending, hpending, rfl⟩))))
        obtain ⟨hahead, hsequence⟩ := hunhurried ⟨posted, hposted, rfl⟩
        have hnext : (world.queues.emergencyEventSequence + 1) % (uint64Max + 1)
            = world.queues.emergencyEventSequence + 1 := Nat.mod_eq_of_lt (by omega)
        have hreturned : ∀ call, CallEvent.returned call ∈ (world.queues.emergencyEvents slot).toList.map
              (fun pending => CallEvent.replaced pending.posted posted) ++ [CallEvent.returned posted.call] →
            call = posted.call := by
          simp
        generalize (world.queues.emergencyEvents slot).toList.map
          (fun pending => CallEvent.replaced pending.posted posted) ++ [CallEvent.returned posted.call] = more
          at hreturned ⊢
        -- the call that returns now had not returned before any call that has begun
        have hnew : ∀ other, .began other ∈ world.log →
            returnedBefore (world.log ++ more) posted.call other.call = false := by
          intro other hother
          rw [returnedBefore_append hother, Bool.eq_false_iff]
          intro hbefore
          exact h.lined.refused posted hposted (returned_of_returnedBefore hbefore)
        have hwritten : ∀ other pending,
            Function.update world.queues.emergencyEvents slot
              (some ⟨world.queues.emergencyEventSequence + 1, posted⟩) other = some pending →
            pending = ⟨world.queues.emergencyEventSequence + 1, posted⟩ ∨
              world.queues.emergencyEvents other = some pending := by
          intro other pending hpending
          by_cases hother : other = slot
          · subst hother
            rw [Function.update_self, Option.some.injEq] at hpending
            exact .inl hpending.symm
          · rw [Function.update_of_ne hother] at hpending
            exact .inr hpending
        simp only [InteractionQueues.enqueueEmergency, hnext]
        refine ⟨fun call hmem => ?_, fun other hmem hother => ?_, fun other pending hpending => ?_,
          by dsimp only; omega, fun other another pending later hpending hlater hbefore => ?_,
          fun earlier hmem other pending hpending => ?_, ?_⟩
        · rcases List.mem_append.1 hmem with hold | hlast
          · exact h.lined.returned call hold
          · rw [hreturned call hlast]
            exact h.ledger.call_lt hbegan
        · have hnodup := h.ledger.nodup_refused
          rw [hrefused, List.map_append, List.map_cons] at hnodup
          rcases List.mem_append.1 hother with hold | hlast
          · refine h.lined.refused other ?_ hold
            rw [hrefused]
            exact (List.sublist_cons_self posted after).append_left before |>.subset hmem
          · have hcall := hreturned _ hlast
            have hne := (List.nodup_middle.1 hnodup).notMem
            rw [← List.map_append] at hne
            exact hne (hcall ▸ List.mem_map_of_mem hmem)
        · rcases hwritten other pending hpending with rfl | hold
          · exact le_rfl
          · exact (h.lined.bounded other pending hold).trans (Nat.le_succ _)
        · rcases hwritten another later hlater with rfl | hlater'
          · rcases hwritten other pending hpending with rfl | hpending'
            · rw [hnew posted hbegan] at hbefore
              cases hbefore
            · exact Nat.lt_succ_of_le (h.lined.bounded other pending hpending')
          · rcases hwritten other pending hpending with rfl | hpending'
            · rw [hnew _ (hslotBegan another later hlater')] at hbefore
              cases hbefore
            · rw [returnedBefore_append (hslotBegan another later hlater')] at hbefore
              exact h.lined.slots other another pending later hpending' hlater' hbefore
        · rcases hwritten other pending hpending with rfl | hold
          · rw [returnedBefore_append hbegan]
            exact hahead earlier hmem
          · rw [returnedBefore_append (hslotBegan other pending hold)]
            exact h.lined.slotsFirst earlier hmem other pending hold
        · refine h.lined.control.imp_of_mem fun {first later} hfirst _ hnot => ?_
          rw [returnedBefore_append (h.ledger.began_of_held (mem_held.2 (.inl hfirst)))]
          exact hnot

theorem Kept.popped (h : world.Kept) {posted : Posted} {queues : InteractionQueues}
    (hpopped : Popped world.queues (some (.item posted)) queues) :
    Kept { world with queues, log := world.log ++ [.popped posted] } := by
  obtain ⟨hcontrol, hbest, hslots, hsequence⟩ := hpopped.shrinks
  refine ⟨h.ledger.popped hpopped, ?_, ?_⟩
  · refine ⟨fun other hmem => h.sorted.control other (hcontrol.subset hmem),
      fun other hmem => h.sorted.bestEffort other (hbest.subset hmem),
      fun slot pending hpending => h.sorted.slots slot pending (hslots slot pending hpending),
      h.sorted.refused, h.sorted.log_append fun event hmem => ?_⟩
    rw [List.mem_singleton.1 hmem]
    trivial
  · have hreturned : ∀ call, CallEvent.returned call ∉ [CallEvent.popped posted] := by
      simp
    exact h.lined.shrink h.ledger rfl le_rfl hcontrol hslots hsequence
      (fun call hmem => absurd hmem (hreturned call))
      (h.refused_unreturned fun call hmem => absurd hmem (hreturned call))

/-- The section does not concern the calls. -/
structure SameCalls (world world' : World) : Prop where
  control : world'.queues.controlEventQueue = world.queues.controlEventQueue
  bestEffort : world'.queues.bestEffortEventQueue = world.queues.bestEffortEventQueue
  slots : world'.queues.emergencyEvents = world.queues.emergencyEvents
  sequence : world'.queues.emergencyEventSequence = world.queues.emergencyEventSequence
  refused : world'.refused = world.refused
  calls : world'.calls = world.calls
  log : world'.log = world.log

theorem Kept.same {world world' : World} (h : world.Kept) (hsame : SameCalls world world') : world'.Kept := by
  have hlog : world'.log = world.log ++ [] := hsame.log.trans (List.append_nil _).symm
  refine ⟨h.ledger.moved hlog ?_ ?_, ⟨?_, ?_, ?_, ?_, ?_⟩, ?_⟩
  · simp only [held, hsame.control, hsame.bestEffort, hsame.slots, hsame.refused]
    rfl
  · rw [hsame.calls]
    exact (List.append_nil _).symm
  · rw [hsame.control]
    exact h.sorted.control
  · rw [hsame.bestEffort]
    exact h.sorted.bestEffort
  · rw [hsame.slots]
    exact h.sorted.slots
  · rw [hsame.refused]
    exact h.sorted.refused
  · rw [hsame.log]
    exact h.sorted.log
  · refine h.lined.shrink h.ledger hlog hsame.calls.ge (hsame.control ▸ List.Sublist.refl _)
      (fun slot pending hpending => hsame.slots ▸ hpending) hsame.sequence (by simp) ?_
    rw [hsame.refused, hsame.log]
    exact h.lined.refused

theorem Kept.pop (h : world.Kept) : world.pop.Kept := by
  have hpopped := pop_popped world.queues
  unfold World.pop
  generalize world.queues.pop = outcome at hpopped ⊢
  obtain ⟨taken, queues⟩ := outcome
  cases taken with
  | none =>
      cases hpopped with
      | nothing => exact h.same ⟨rfl, rfl, rfl, rfl, rfl, rfl, rfl⟩
  | some taken =>
      cases taken with
      | item posted => exact h.popped hpopped
      | listenTimeout epoch =>
          cases hpopped with
          | timeout => exact h.same ⟨rfl, rfl, rfl, rfl, rfl, rfl, rfl⟩

theorem Kept.step (h : world.Kept) {op : Step} (hunhurried : Unhurried world op) :
    (world.step op).Kept := by
  cases op with
  | enqueue item => exact h.enqueue hunhurried
  | enqueueEmergency call => exact h.wroteEmergency hunhurried (world.enqueueEmergency_wroteEmergency call)
  | pop => exact h.pop
  | epochAdvances => exact h.same ⟨rfl, rfl, rfl, rfl, rfl, rfl, rfl⟩
  | pendingClears =>
      refine h.same ?_
      unfold World.step
      dsimp only
      split <;> exact ⟨rfl, rfl, rfl, rfl, rfl, rfl, rfl⟩
  | _ =>
      refine h.same ?_
      unfold World.step
      dsimp only
      split <;> exact ⟨rfl, rfl, rfl, rfl, rfl, rfl, rfl⟩

/-! ## What the invariant says -/

theorem Kept.accounted (h : world.Kept) : world.Accounted := by
  intro posted hbegan hitem
  have hcount : world.held.countP (·.call = posted.call)
      + (world.log.filter (·.ends posted.call)).length = 1 := by
    have hbalance := congrArg (Multiset.countP (·.call = posted.call)) h.ledger.balance
    rw [Multiset.countP_add, Multiset.coe_countP, Multiset.coe_countP] at hbalance
    have hbegun : (begunCalls world.log).countP (·.call = posted.call) = 1 := by
      have hone := List.count_eq_one_of_mem h.ledger.nodup (List.mem_map_of_mem (mem_begunCalls.2 hbegan))
      rw [List.count, List.countP_map] at hone
      rw [← hone]
      congr 1
    rw [length_endings, ← hbegun, ← hbalance]
    congr 2
  rcases Nat.eq_zero_or_pos (world.log.filter (·.ends posted.call)).length with hzero | hpos
  · left
    refine ⟨List.eq_nil_of_length_eq_zero hzero, ?_⟩
    have hheld : 0 < world.held.countP (·.call = posted.call) := by omega
    obtain ⟨other, hmem, hcall⟩ := Multiset.countP_pos.1 hheld
    obtain rfl := h.ledger.eq_of_call (h.ledger.began_of_held hmem) hbegan hcall
    rcases mem_held.1 hmem with hcontrol | hbest | hrefused | hslot
    · exact .inr (.inl hcontrol)
    · simp [h.sorted.bestEffort other hbest] at hitem
    · exact .inl hrefused
    · exact .inr (.inr hslot)
  · right
    have hone : (world.log.filter (·.ends posted.call)).length = 1 := by omega
    obtain ⟨event, hevent⟩ := List.length_eq_one_iff.1 hone
    have hmem : event ∈ world.log.filter (·.ends posted.call) := hevent ▸ List.mem_singleton_self event
    obtain ⟨hlog, hends⟩ := List.mem_filter.1 hmem
    obtain ⟨other, hended, hcall⟩ := (Option.any_eq_true _ _).1 hends
    obtain rfl := h.ledger.eq_of_call (h.ledger.began_of_ended (mem_endedCalls hlog hended)) hbegan
      (by simpa using hcall)
    have hproper := h.sorted.log event hlog
    rw [hevent]
    cases event with
    | popped earlier =>
        cases hended
        exact .inl rfl
    | replaced earlier later =>
        cases hended
        exact .inr ⟨later, rfl, hproper⟩
    | evicted earlier =>
        cases hended
        simp [CallEvent.Proper, hitem] at hproper
    | dropped earlier => exact hproper.elim
    | began earlier => cases hended
    | returned call => cases hended

/-- No sequence number is out of reach of the search. -/
theorem Kept.slot_of_uint64Max_le (h : world.Kept)
    (hslots : ∀ slot event, world.queues.emergencyEvents slot = some event → uint64Max ≤ event.sequence)
    (slot : EmergencySlot) : world.queues.emergencyEvents slot = none := by
  by_contra hsome
  obtain ⟨pending, hpending⟩ := Option.ne_none_iff_exists'.1 hsome
  have hle := (hslots slot pending hpending).trans (h.lined.bounded slot pending hpending)
  exact absurd h.lined.sequence (not_lt.2 hle)

theorem Kept.inOrder (h : world.Kept) (op : Step) : world.InOrder op := by
  cases op with
  | pop =>
      intro posted htaken hitem earlier hbegan hearlier hne hbefore
      have hpopped := pop_popped world.queues
      rw [htaken] at hpopped
      rcases h.accounted earlier hbegan hearlier with ⟨-, hrefused | hwaiting⟩ | hended | ⟨later, hended, -⟩
      · exact absurd (returned_of_returnedBefore hbefore) (h.lined.refused earlier hrefused)
      · exfalso
        generalize hrest : world.queues.pop.2 = rest at hpopped
        cases hpopped with
        | emergency slot pending hpending hleast =>
            rcases hwaiting with hcontrol | ⟨other, event, hevent, rfl⟩
            · rw [h.lined.slotsFirst earlier hcontrol slot pending hpending] at hbefore
              cases hbefore
            · have hlt := h.lined.slots other slot event pending hevent hpending hbefore
              exact absurd (hleast other event hevent) (not_le.2 hlt)
        | control posted waiting hslots hpending hcontrol =>
            rcases hwaiting with hmem | ⟨other, event, hevent, rfl⟩
            · rw [hcontrol] at hmem
              have hpairwise := h.lined.control
              rw [hcontrol] at hpairwise
              have hlater : earlier ∈ waiting := by
                refine (List.mem_cons.1 hmem).resolve_left ?_
                rintro rfl
                exact hne rfl
              rw [List.rel_of_pairwise_cons hpairwise hlater] at hbefore
              cases hbefore
            · simp [h.slot_of_uint64Max_le hslots other] at hevent
        | bestEffort posted waiting hslots hpending hcontrol hbest =>
            have hbestEffort := h.sorted.bestEffort posted (hbest ▸ List.mem_cons_self)
            simp [hitem] at hbestEffort
      · left
        exact List.mem_of_mem_filter (hended ▸ List.mem_singleton_self _)
      · exact .inr ⟨later, List.mem_of_mem_filter (hended ▸ List.mem_singleton_self _)⟩
  | _ => trivial

theorem Kept.bestEffortLast (h : world.Kept) (op : Step) : world.BestEffortLast op := by
  cases op with
  | pop =>
      intro posted htaken hitem other hwaiting
      have hpopped := pop_popped world.queues
      rw [htaken] at hpopped
      generalize hrest : world.queues.pop.2 = rest at hpopped
      cases hpopped with
      | emergency slot pending hpending hleast =>
          have hslot := h.sorted.slots slot pending hpending
          rw [emergencySlot_of_isBestEffort hitem] at hslot
          cases hslot
      | control posted waiting hslots hpending hcontrol =>
          have hcontrolItem := h.sorted.control posted (hcontrol ▸ List.mem_cons_self)
          simp [hitem] at hcontrolItem
      | bestEffort posted waiting hslots hpending hcontrol hbest =>
          rcases hwaiting with hmem | ⟨slot, event, hevent, rfl⟩
          · simp [hcontrol] at hmem
          · simp [h.slot_of_uint64Max_le hslots slot] at hevent
  | _ => trivial

end World

/-! ## The event loop catches up -/

/-- How much the event loop has to take. -/
def InteractionQueues.backlog (queues : InteractionQueues) : ℕ :=
  queues.controlEventQueue.length + queues.bestEffortEventQueue.length
    + (Slots.contents queues.emergencyEvents EmergencySlot.all).card
    + (if queues.listenTimeoutPending then 1 else 0)

theorem Popped.backlog {queues rest : InteractionQueues} {taken : InteractionQueues.Taken}
    (h : Popped queues (some taken) rest) : rest.backlog + 1 = queues.backlog := by
  cases h with
  | emergency slot pending hpending hleast =>
      have hcard := congrArg Multiset.card (Slots.contents_update queues.emergencyEvents none
        EmergencySlot.nodup_all slot.mem_all)
      rw [hpending, Slots.place_some, Slots.place_none, add_zero, Multiset.card_add,
        Multiset.card_singleton] at hcard
      simp only [InteractionQueues.backlog]
      omega
  | timeout hpending => simp [InteractionQueues.backlog, hpending]
  | control posted waiting hslots hpending hcontrol =>
      simp only [InteractionQueues.backlog, hcontrol, List.length_cons]
      omega
  | bestEffort posted waiting hslots hpending hcontrol hbest =>
      simp only [InteractionQueues.backlog, hbest, List.length_cons]
      omega

namespace World

theorem Kept.backlog_pop {world : World} (h : world.Kept) :
    world.pop.queues.backlog = world.queues.backlog - 1 := by
  have hpopped := pop_popped world.queues
  unfold World.pop
  generalize world.queues.pop = outcome at hpopped ⊢
  obtain ⟨taken, queues⟩ := outcome
  cases taken with
  | none =>
      generalize hrest : (none, queues).2 = rest at hpopped
      cases hpopped with
      | nothing hslots hpending hcontrol hbest =>
          have hnone : Slots.contents world.queues.emergencyEvents EmergencySlot.all = 0 := by
            refine Multiset.eq_zero_of_forall_notMem fun pending hmem => ?_
            obtain ⟨slot, -, hslot⟩ := Slots.mem_contents.1 hmem
            simp [h.slot_of_uint64Max_le hslots slot] at hslot
          have hzero : world.queues.backlog = 0 := by
            simp [InteractionQueues.backlog, hcontrol, hbest, hpending, hnone]
          dsimp only at hrest ⊢
          rw [hrest, hzero]
  | some taken =>
      have hbacklog := hpopped.backlog
      cases taken <;> exact Nat.eq_sub_of_add_eq hbacklog

theorem not_waiting_of_backlog {world : World} (h : world.queues.backlog = 0) (posted : Posted) :
    ¬ world.Waiting posted := by
  rintro (hmem | ⟨slot, pending, hpending, rfl⟩)
  · have hlength := List.length_pos_of_mem hmem
    simp only [InteractionQueues.backlog] at h
    omega
  · have hcard := Multiset.card_pos_iff_exists_mem.2
      ⟨pending, Slots.mem_contents.2 ⟨slot, slot.mem_all, hpending⟩⟩
    simp only [InteractionQueues.backlog] at h
    omega

theorem Kept.drained {world : World} (h : world.Kept) {pops : ℕ} (hpops : world.queues.backlog ≤ pops) :
    (Run.run World.step world (List.replicate pops .pop)).queues.backlog = 0 := by
  induction pops generalizing world with
  | zero => exact Nat.le_zero.1 hpops
  | succ pops ih =>
      rw [List.replicate_succ, Run.run_cons]
      refine ih h.pop ?_
      have hpop := h.backlog_pop
      rw [World.step]
      omega

/-! ## The listening timeout -/

/-- A listening timeout has been posted under the current epoch and is still on its way. -/
structure TimeoutPosted (epoch : ℕ) (world : World) : Prop where
  current : world.queues.listenTimeoutEpoch = epoch
  renewals : world.renewals = 0
  loaded : ∀ other, world.timer = .loaded other → other = epoch
  stored : ∀ other, world.timer = .stored other → other = epoch ∧ world.queues.listenTimeoutPendingEpoch = epoch
  waiting : world.TimeoutWaiting epoch

/-- The section does not concern the listening timeout. -/
structure SameTimeout (world world' : World) : Prop where
  pending : world'.queues.listenTimeoutPending = world.queues.listenTimeoutPending
  current : world'.queues.listenTimeoutEpoch = world.queues.listenTimeoutEpoch
  pendingEpoch : world'.queues.listenTimeoutPendingEpoch = world.queues.listenTimeoutPendingEpoch
  renewals : world'.renewals = world.renewals
  timer : world'.timer = world.timer

theorem TimeoutPosted.same {epoch : ℕ} {world world' : World} (h : world.TimeoutPosted epoch)
    (hsame : SameTimeout world world') : world'.TimeoutPosted epoch := by
  obtain ⟨hpending, hcurrent, hpendingEpoch, hrenewals, htimer⟩ := hsame
  refine ⟨hcurrent.trans h.current, hrenewals.trans h.renewals, ?_, ?_, ?_⟩
  · rw [htimer]
    exact h.loaded
  · rw [htimer, hpendingEpoch]
    exact h.stored
  · unfold TimeoutWaiting
    rw [htimer, hpending, hpendingEpoch]
    exact h.waiting

theorem Enqueued.sameTimeout {world world' : World} {item : InteractionEventItem}
    (h : Enqueued world item world') : SameTimeout world world' := by
  cases h <;> exact ⟨rfl, rfl, rfl, rfl, rfl⟩

theorem WroteEmergency.sameTimeout {world world' : World} {call : ℕ}
    (h : WroteEmergency world call world') : SameTimeout world world' := by
  cases h <;> exact ⟨rfl, rfl, rfl, rfl, rfl⟩

theorem TimeoutPosted.pop {epoch : ℕ} {world : World} (h : world.TimeoutPosted epoch) :
    world.queues.pop.1 = some (.listenTimeout epoch) ∨ world.pop.TimeoutPosted epoch := by
  have hpopped := pop_popped world.queues
  unfold World.pop
  generalize world.queues.pop = outcome at hpopped ⊢
  obtain ⟨taken, queues⟩ := outcome
  dsimp only at hpopped ⊢
  cases hpopped with
  | timeout hpending =>
      by_cases hepoch : world.queues.listenTimeoutPendingEpoch = epoch
      · exact .inl (by rw [hepoch])
      · -- an older timeout: the one that was posted is still in the timer task
        right
        have hloaded : world.timer = .loaded epoch := by
          rcases h.waiting with hloaded | hstored | ⟨-, heq⟩
          · exact hloaded
          · exact absurd (h.stored epoch hstored).2 hepoch
          · exact absurd heq hepoch
        exact ⟨h.current, h.renewals, h.loaded, h.stored, .inl hloaded⟩
  | nothing => exact .inr h
  | _ => exact .inr (h.same ⟨rfl, rfl, rfl, rfl, rfl⟩)

theorem TimeoutPosted.step {epoch : ℕ} {world : World} (h : world.TimeoutPosted epoch) {op : Step}
    (hop : op ≠ .epochAdvances) :
    op = .pop ∧ world.queues.pop.1 = some (.listenTimeout epoch) ∨ (world.step op).TimeoutPosted epoch := by
  cases op with
  | pop => exact h.pop.imp_left fun htaken => ⟨rfl, htaken⟩
  | enqueue item => exact .inr (h.same (world.enqueue_enqueued item).sameTimeout)
  | enqueueEmergency call =>
      exact .inr (h.same (world.enqueueEmergency_wroteEmergency call).sameTimeout)
  | epochAdvances => exact absurd rfl hop
  | pendingClears =>
      right
      rw [World.step, if_pos h.renewals]
      exact h
  | listenTimeoutLoads =>
      right
      unfold World.step
      dsimp only
      split
      · refine ⟨h.current, h.renewals, fun other heq => ?_, fun other heq => (by cases heq), .inl ?_⟩
        · cases heq
          exact h.current
        · rw [h.current]
      · exact h
  | listenTimeoutStores =>
      right
      unfold World.step
      dsimp only
      split
      · rename_i loaded htimer
        obtain rfl := h.loaded loaded htimer
        refine ⟨h.current, h.renewals, fun other heq => (by cases heq), fun other heq => ?_, .inr (.inl rfl)⟩
        cases heq
        exact ⟨rfl, rfl⟩
      · exact h
  | listenTimeoutRaises =>
      right
      unfold World.step
      dsimp only
      split
      · rename_i stored htimer
        refine ⟨h.current, h.renewals, fun other heq => (by cases heq), fun other heq => (by cases heq),
          .inr (.inr ⟨rfl, (h.stored stored htimer).2⟩)⟩
      · exact h

theorem TimeoutPosted.run {epoch : ℕ} {world : World} (h : world.TimeoutPosted epoch) {after : List Step}
    (hafter : .epochAdvances ∉ after) :
    (∃ done, done ++ [Step.pop] <+: after ∧
      (Run.run World.step world done).queues.pop.1 = some (.listenTimeout epoch)) ∨
    (Run.run World.step world after).TimeoutWaiting epoch := by
  induction after generalizing world with
  | nil => exact .inr h.waiting
  | cons op after ih =>
      obtain ⟨hop, hrest⟩ := not_or.1 (mt List.mem_cons.2 hafter)
      rcases h.step (Ne.symm hop) with ⟨rfl, htaken⟩ | hnext
      · exact .inl ⟨[], List.cons_prefix_cons.2 ⟨rfl, List.nil_prefix⟩, htaken⟩
      · refine (ih hnext hrest).imp_left ?_
        rintro ⟨done, hdone, htaken⟩
        exact ⟨op :: done, List.cons_prefix_cons.2 ⟨rfl, hdone⟩, htaken⟩

end World

/-! ## The runs -/

/-- What fills the control queue. -/
def fullControlQueue : List Step :=
  List.replicate 16 (enqueueVoiceEvidence { event := "tts_stopped" })

end VoiceLife.Runtime
