import VoiceLife.Runtime.InteractionQueues

/-! # What the sections of the interaction queues do

`Enqueued`, `WroteEmergency` and `Popped` say it once for every section. From them every posted item is in
exactly one place in every run: held, or gone in one of four ways (`Ledger`).
-/

namespace VoiceLife.Runtime

/-! ## The log -/

/-- The calls that have begun, in order. -/
def begunCalls (log : List CallEvent) : List Posted :=
  log.filterMap CallEvent.begun

/-- The calls whose items have left the queues. -/
def endedCalls (log : List CallEvent) : List Posted :=
  log.filterMap CallEvent.ended

@[simp] theorem begunCalls_append (log more : List CallEvent) :
    begunCalls (log ++ more) = begunCalls log ++ begunCalls more :=
  List.filterMap_append

@[simp] theorem endedCalls_append (log more : List CallEvent) :
    endedCalls (log ++ more) = endedCalls log ++ endedCalls more :=
  List.filterMap_append

@[simp] theorem begunCalls_evicted (evicted : List Posted) :
    begunCalls (evicted.map CallEvent.evicted) = [] := by
  simp [begunCalls, List.filterMap_map, Function.comp_def, CallEvent.begun]

@[simp] theorem endedCalls_evicted (evicted : List Posted) :
    endedCalls (evicted.map CallEvent.evicted) = evicted := by
  simp [endedCalls, List.filterMap_map, Function.comp_def, CallEvent.ended]

theorem mem_begunCalls {log : List CallEvent} {posted : Posted} :
    posted ∈ begunCalls log ↔ .began posted ∈ log := by
  simp only [begunCalls, List.mem_filterMap]
  constructor
  · rintro ⟨event, hmem, hbegun⟩
    cases event <;> simp [CallEvent.begun] at hbegun
    rwa [← hbegun]
  · intro hmem
    exact ⟨_, hmem, rfl⟩

theorem mem_endedCalls {log : List CallEvent} {event : CallEvent} {posted : Posted} (hmem : event ∈ log)
    (hended : event.ended = some posted) : posted ∈ endedCalls log :=
  List.mem_filterMap.2 ⟨event, hmem, hended⟩

/-- As many events end the call's wait as there are ended calls of its number. -/
theorem length_endings (log : List CallEvent) (call : ℕ) :
    (log.filter (·.ends call)).length = (endedCalls log).countP (·.call == call) := by
  induction log with
  | nil => rfl
  | cons event log ih =>
      have hcons : endedCalls (event :: log) = event.ended.toList ++ endedCalls log := by
        unfold endedCalls
        cases hended : event.ended <;> simp [hended]
      rw [hcons, List.countP_append, ← ih, List.filter_cons]
      cases hended : event.ended with
      | none => simp [CallEvent.ends, hended]
      | some posted =>
          by_cases hcall : posted.call = call
          · simp [CallEvent.ends, hended, hcall, Nat.add_comm]
          · simp [CallEvent.ends, hended, hcall]

/-- What had returned before a call began is settled when the call begins. -/
theorem returnedBefore_append {log more : List CallEvent} {first : ℕ} {second : Posted}
    (hbegan : .began second ∈ log) :
    returnedBefore (log ++ more) first second.call = returnedBefore log first second.call := by
  unfold returnedBefore
  induction log with
  | nil => simp at hbegan
  | cons event log ih =>
      by_cases hevent : event.begins second.call
      · simp [hevent]
      · have hrest : .began second ∈ log := by
          refine (List.mem_cons.1 hbegan).resolve_left ?_
          rintro rfl
          simp [CallEvent.begins, CallEvent.begun] at hevent
        simpa [hevent] using congrArg (event.returns first || ·) (ih hrest)

theorem returned_of_returnedBefore {log : List CallEvent} {first second : ℕ}
    (h : returnedBefore log first second) : .returned first ∈ log := by
  obtain ⟨event, hmem, hreturns⟩ := List.any_eq_true.1 h
  have hevent : event = .returned first := by
    cases event <;> simp [CallEvent.returns] at hreturns
    rw [hreturns]
  exact hevent ▸ (List.takeWhile_sublist _).subset hmem

/-! ## What a section does -/

@[simp] theorem VoiceInteractionEvent.mem_all (event : VoiceInteractionEvent) :
    event ∈ VoiceInteractionEvent.all := by
  cases event <;> decide

theorem EmergencySlot.mem_all (slot : EmergencySlot) : slot ∈ EmergencySlot.all := by
  cases slot with
  | state event => simp [EmergencySlot.all]
  | evidence kind => cases kind <;> simp [EmergencySlot.all]

theorem EmergencySlot.nodup_all : EmergencySlot.all.Nodup := by
  decide

theorem emergencySlot_of_isBestEffort {item : InteractionEventItem} (h : item.isBestEffort) :
    item.emergencySlot = none := by
  cases item with
  | voiceEvidence evidence =>
      simp only [InteractionEventItem.emergencySlot, emergencyEvidenceKindFor, Option.map_eq_none_iff]
      split
      · rename_i hevent
        simp [InteractionEventItem.isBestEffort, hevent] at h
      · split
        · rename_i hevent
          simp [InteractionEventItem.isBestEffort, hevent] at h
        · rfl
  | interaction event wakeWord => simp [InteractionEventItem.isBestEffort] at h
  | _ => rfl

namespace World

/-- The call that begins next. -/
def next (world : World) (item : InteractionEventItem) : Posted :=
  { call := world.calls, item }

/-- What the section of `EnqueueInteractionItem` does. -/
inductive Enqueued (world : World) (item : InteractionEventItem) : World → Prop where
  | bestEffort (evicted kept : List Posted) (hitem : item.isBestEffort)
      (hqueue : world.queues.bestEffortEventQueue = evicted ++ kept) :
      Enqueued world item
        { world with
          queues := { world.queues with bestEffortEventQueue := kept ++ [world.next item] }
          calls := world.calls + 1
          log := world.log ++
            (.began (world.next item) :: evicted.map .evicted ++ [.returned world.calls]) }
  | control (hitem : item.isBestEffort = false)
      (hroom : world.queues.controlEventQueue.length < kControlEventQueueCapacity) :
      Enqueued world item
        { world with
          queues := { world.queues with
            controlEventQueue := world.queues.controlEventQueue ++ [world.next item] }
          calls := world.calls + 1
          log := world.log ++ [.began (world.next item), .returned world.calls] }
  | refused (hitem : item.isBestEffort = false) (hslot : item.emergencySlot.isSome) :
      Enqueued world item
        { world with
          calls := world.calls + 1
          refused := world.refused ++ [world.next item]
          log := world.log ++ [.began (world.next item)] }
  | dropped (hitem : item.isBestEffort = false)
      (hfull : kControlEventQueueCapacity ≤ world.queues.controlEventQueue.length)
      (hslot : item.emergencySlot = none) :
      Enqueued world item
        { world with
          calls := world.calls + 1
          log := world.log ++
            [.began (world.next item), .dropped (world.next item), .returned world.calls] }

theorem enqueue_enqueued (world : World) (item : InteractionEventItem) :
    Enqueued world item (world.enqueue item) := by
  cases hitem : item.isBestEffort with
  | true =>
      by_cases hfull : world.queues.bestEffortEventQueue.length ≥ kBestEffortEventQueueCapacity
      · have hqueue : world.queues.bestEffortEventQueue
            = world.queues.bestEffortEventQueue.take 1 ++ world.queues.bestEffortEventQueue.tail := by
          rw [← List.drop_one, List.take_append_drop]
        have henqueued : Enqueued world item _ := .bestEffort _ _ hitem hqueue
        simpa [enqueue, InteractionQueues.enqueueInteractionItem, evictedBy, hitem, hfull, next] using henqueued
      · have henqueued : Enqueued world item _ := .bestEffort [] _ hitem rfl
        simpa [enqueue, InteractionQueues.enqueueInteractionItem, evictedBy, hitem, hfull, next] using henqueued
  | false =>
      rcases Nat.lt_or_ge world.queues.controlEventQueue.length kControlEventQueueCapacity with hroom | hfull
      · have hroom' := not_le.2 hroom
        have henqueued : Enqueued world item _ := .control hitem hroom
        simpa [enqueue, InteractionQueues.enqueueInteractionItem, evictedBy, hitem, hroom', next] using henqueued
      · cases hslot : item.emergencySlot with
        | some slot =>
            have henqueued : Enqueued world item _ := .refused hitem (by rw [hslot]; rfl)
            simpa [enqueue, InteractionQueues.enqueueInteractionItem, hitem, hfull, hslot, next] using henqueued
        | none =>
            have henqueued : Enqueued world item _ := .dropped hitem hfull hslot
            simpa [enqueue, InteractionQueues.enqueueInteractionItem, hitem, hfull, hslot, next] using henqueued

/-- What the section after a refusal does. -/
inductive WroteEmergency (world : World) (call : ℕ) : World → Prop where
  | nothing : WroteEmergency world call world
  | wrote (before after : List Posted) (posted : Posted) (slot : EmergencySlot)
      (hcall : posted.call = call) (hrefused : world.refused = before ++ posted :: after)
      (hslot : posted.item.emergencySlot = some slot) :
      WroteEmergency world call
        { world with
          queues := world.queues.enqueueEmergency slot posted
          refused := before ++ after
          log := world.log ++
            ((world.queues.emergencyEvents slot).toList.map
              (fun pending => CallEvent.replaced pending.posted posted) ++ [.returned call]) }

theorem split_of_find? {calls : List Posted} {call : ℕ} {posted : Posted}
    (h : calls.find? (·.call == call) = some posted) :
    ∃ before after, calls = before ++ posted :: after ∧ posted.call = call ∧
      calls.eraseP (·.call == call) = before ++ after := by
  induction calls with
  | nil => simp at h
  | cons first calls ih =>
      by_cases hfirst : first.call = call
      · simp only [List.find?_cons, hfirst, beq_self_eq_true, Option.some.injEq] at h
        subst h
        exact ⟨[], calls, rfl, hfirst, by simp [hfirst]⟩
      · have hne : (first.call == call) = false := by simpa using hfirst
        rw [List.find?_cons, hne] at h
        obtain ⟨before, after, rfl, hcall, herase⟩ := ih h
        exact ⟨first :: before, after, rfl, hcall, by simp [hne, herase]⟩

theorem enqueueEmergency_wroteEmergency (world : World) (call : ℕ) :
    WroteEmergency world call (world.enqueueEmergency call) := by
  unfold enqueueEmergency
  split
  · exact .nothing
  · rename_i posted hfind
    split
    · exact .nothing
    · rename_i slot hslot
      obtain ⟨before, after, hrefused, hcall, herase⟩ := split_of_find? hfind
      rw [herase]
      exact .wrote before after posted slot hcall hrefused hslot

end World

/-- What the section of the event loop takes and leaves. -/
inductive Popped (queues : InteractionQueues) :
    Option InteractionQueues.Taken → InteractionQueues → Prop where
  | emergency (slot : EmergencySlot) (pending : EmergencyEvent)
      (hpending : queues.emergencyEvents slot = some pending)
      (hleast : ∀ other event, queues.emergencyEvents other = some event → pending.sequence ≤ event.sequence) :
      Popped queues (some (.item pending.posted))
        { queues with emergencyEvents := Function.update queues.emergencyEvents slot none }
  | timeout (hpending : queues.listenTimeoutPending = true) :
      Popped queues (some (.listenTimeout queues.listenTimeoutPendingEpoch))
        { queues with listenTimeoutPending := false }
  | control (posted : Posted) (waiting : List Posted)
      (hslots : ∀ slot event, queues.emergencyEvents slot = some event → uint64Max ≤ event.sequence)
      (hpending : queues.listenTimeoutPending = false)
      (hcontrol : queues.controlEventQueue = posted :: waiting) :
      Popped queues (some (.item posted)) { queues with controlEventQueue := waiting }
  | bestEffort (posted : Posted) (waiting : List Posted)
      (hslots : ∀ slot event, queues.emergencyEvents slot = some event → uint64Max ≤ event.sequence)
      (hpending : queues.listenTimeoutPending = false) (hcontrol : queues.controlEventQueue = [])
      (hbest : queues.bestEffortEventQueue = posted :: waiting) :
      Popped queues (some (.item posted)) { queues with bestEffortEventQueue := waiting }
  | nothing
      (hslots : ∀ slot event, queues.emergencyEvents slot = some event → uint64Max ≤ event.sequence)
      (hpending : queues.listenTimeoutPending = false) (hcontrol : queues.controlEventQueue = [])
      (hbest : queues.bestEffortEventQueue = []) :
      Popped queues none queues

theorem pop_popped (queues : InteractionQueues) : Popped queues queues.pop.1 queues.pop.2 := by
  cases hslot : Slots.earliest EmergencyEvent.sequence queues.emergencyEvents uint64Max EmergencySlot.all with
  | some slot =>
      obtain ⟨-, pending, hpending, -, hleast⟩ := Slots.earliest_spec hslot
      have hpop : queues.pop = (some (.item pending.posted),
          { queues with emergencyEvents := Function.update queues.emergencyEvents slot none }) := by
        simp [InteractionQueues.pop, InteractionQueues.popEmergencyEventLocked, hslot, hpending]
      rw [hpop]
      exact .emergency slot pending hpending fun other event => hleast other (EmergencySlot.mem_all other) event
  | none =>
      have hslots : ∀ slot event, queues.emergencyEvents slot = some event → uint64Max ≤ event.sequence :=
        fun slot event => Slots.earliest_eq_none hslot (EmergencySlot.mem_all slot)
      have hnone : queues.popEmergencyEventLocked = none := by
        simp [InteractionQueues.popEmergencyEventLocked, hslot]
      have hpop : ∀ {taken rest}, Popped queues taken rest → queues.pop = (taken, rest) →
          Popped queues queues.pop.1 queues.pop.2 := by
        intro taken rest hpopped heq
        rwa [heq]
      cases htimeout : queues.listenTimeoutPending with
      | true => exact hpop (.timeout htimeout) (by simp [InteractionQueues.pop, hnone, htimeout])
      | false =>
          cases hcontrol : queues.controlEventQueue with
          | cons posted waiting =>
              refine hpop (.control posted waiting hslots htimeout hcontrol) ?_
              simp [InteractionQueues.pop, hnone, htimeout, hcontrol]
          | nil =>
              cases hbest : queues.bestEffortEventQueue with
              | cons posted waiting =>
                  refine hpop (.bestEffort posted waiting hslots htimeout hcontrol hbest) ?_
                  simp [InteractionQueues.pop, hnone, htimeout, hcontrol, hbest]
              | nil =>
                  refine hpop (.nothing hslots htimeout hcontrol hbest) ?_
                  simp [InteractionQueues.pop, hnone, htimeout, hcontrol, hbest]

/-- A pop only takes away. -/
theorem Popped.shrinks {queues rest : InteractionQueues} {taken : Option InteractionQueues.Taken}
    (h : Popped queues taken rest) :
    rest.controlEventQueue.Sublist queues.controlEventQueue ∧
      rest.bestEffortEventQueue.Sublist queues.bestEffortEventQueue ∧
      (∀ slot pending, rest.emergencyEvents slot = some pending →
        queues.emergencyEvents slot = some pending) ∧
      rest.emergencyEventSequence = queues.emergencyEventSequence := by
  have hrefl : ∀ posted : List Posted, posted.Sublist posted := List.Sublist.refl
  cases h with
  | emergency slot pending hpending hleast =>
      refine ⟨hrefl _, hrefl _, fun other event hevent => ?_, rfl⟩
      by_cases hother : other = slot
      · simp [hother] at hevent
      · simpa [Function.update_of_ne hother] using hevent
  | timeout hpending => exact ⟨hrefl _, hrefl _, fun _ _ heq => heq, rfl⟩
  | control posted waiting hslots hpending hcontrol =>
      exact ⟨hcontrol ▸ List.sublist_cons_self _ _, hrefl _, fun _ _ heq => heq, rfl⟩
  | bestEffort posted waiting hslots hpending hcontrol hbest =>
      exact ⟨hrefl _, hbest ▸ List.sublist_cons_self _ _, fun _ _ heq => heq, rfl⟩
  | nothing => exact ⟨hrefl _, hrefl _, fun _ _ heq => heq, rfl⟩

/-! ## Every call is in one place -/

namespace World

/-- The items in the queues and those of the calls under way. -/
def held (world : World) : Multiset Posted :=
  (world.queues.controlEventQueue : Multiset Posted) + world.queues.bestEffortEventQueue + world.refused
    + (Slots.contents world.queues.emergencyEvents EmergencySlot.all).map EmergencyEvent.posted

theorem mem_held {world : World} {posted : Posted} :
    posted ∈ world.held ↔ posted ∈ world.queues.controlEventQueue ∨ posted ∈ world.queues.bestEffortEventQueue ∨
      posted ∈ world.refused ∨
        ∃ slot pending, world.queues.emergencyEvents slot = some pending ∧ pending.posted = posted := by
  have hslots : (∃ pending ∈ Slots.contents world.queues.emergencyEvents EmergencySlot.all,
        pending.posted = posted)
      ↔ ∃ slot pending, world.queues.emergencyEvents slot = some pending ∧ pending.posted = posted := by
    constructor
    · rintro ⟨pending, hmem, rfl⟩
      obtain ⟨slot, -, hslot⟩ := Slots.mem_contents.1 hmem
      exact ⟨slot, pending, hslot, rfl⟩
    · rintro ⟨slot, pending, hslot, rfl⟩
      exact ⟨pending, Slots.mem_contents.2 ⟨slot, slot.mem_all, hslot⟩, rfl⟩
  simp only [held, Multiset.mem_add, Multiset.mem_coe, Multiset.mem_map, hslots, or_assoc]

/-- The items that are held and those that have left are the items that were posted, each once. -/
structure Ledger (world : World) : Prop where
  balance : world.held + (endedCalls world.log : Multiset Posted) = begunCalls world.log
  numbered : (begunCalls world.log).map Posted.call = List.range world.calls

namespace Ledger

variable {world world' : World}

theorem began_of_held (h : world.Ledger) {posted : Posted} (hheld : posted ∈ world.held) :
    .began posted ∈ world.log := by
  have hmem : posted ∈ (begunCalls world.log : Multiset Posted) :=
    h.balance ▸ Multiset.mem_add.2 (.inl hheld)
  exact mem_begunCalls.1 hmem

theorem began_of_ended (h : world.Ledger) {posted : Posted} (hended : posted ∈ endedCalls world.log) :
    .began posted ∈ world.log := by
  have hmem : posted ∈ (begunCalls world.log : Multiset Posted) :=
    h.balance ▸ Multiset.mem_add.2 (.inr hended)
  exact mem_begunCalls.1 hmem

theorem call_lt (h : world.Ledger) {posted : Posted} (hbegan : .began posted ∈ world.log) :
    posted.call < world.calls := by
  have hmem := List.mem_map_of_mem (f := Posted.call) (mem_begunCalls.2 hbegan)
  rwa [h.numbered, List.mem_range] at hmem

theorem nodup (h : world.Ledger) : ((begunCalls world.log).map Posted.call).Nodup :=
  h.numbered ▸ List.nodup_range

theorem eq_of_call (h : world.Ledger) {posted other : Posted} (hbegan : .began posted ∈ world.log)
    (hother : .began other ∈ world.log) (hcall : posted.call = other.call) : posted = other :=
  List.inj_on_of_nodup_map h.nodup (mem_begunCalls.2 hbegan) (mem_begunCalls.2 hother) hcall

/-- A section that moves items keeps the ledger. -/
theorem moved (h : world.Ledger) {more : List CallEvent} (hlog : world'.log = world.log ++ more)
    (hbalance : world'.held + (endedCalls more : Multiset Posted) = world.held + begunCalls more)
    (hcalls : List.range world'.calls = List.range world.calls ++ (begunCalls more).map Posted.call) :
    world'.Ledger := by
  refine ⟨?_, ?_⟩
  · calc world'.held + (endedCalls world'.log : Multiset Posted)
        = world'.held + (endedCalls more : Multiset Posted) + endedCalls world.log := by
          rw [hlog, endedCalls_append, ← Multiset.coe_add]
          ac_rfl
      _ = world.held + (endedCalls world.log : Multiset Posted) + begunCalls more := by
          rw [hbalance]
          ac_rfl
      _ = begunCalls world'.log := by
          rw [h.balance, hlog, begunCalls_append, Multiset.coe_add]
  · rw [hlog, begunCalls_append, List.map_append, h.numbered, hcalls]

theorem enqueued (h : world.Ledger) {item : InteractionEventItem} (henqueued : Enqueued world item world') :
    world'.Ledger := by
  have hcalls : List.range (world.calls + 1) = List.range world.calls ++ [(world.next item).call] :=
    List.range_succ
  cases henqueued with
  | bestEffort evicted kept hitem hqueue =>
      have hbegun : begunCalls (CallEvent.began (world.next item) :: evicted.map .evicted ++
          [CallEvent.returned world.calls]) = [world.next item] := by
        rw [begunCalls_append, ← List.singleton_append, begunCalls_append, begunCalls_evicted]
        rfl
      have hended : endedCalls (CallEvent.began (world.next item) :: evicted.map .evicted ++
          [CallEvent.returned world.calls]) = evicted := by
        rw [endedCalls_append, ← List.singleton_append, endedCalls_append, endedCalls_evicted]
        exact List.append_nil _
      refine h.moved rfl ?_ (by rw [hbegun]; exact hcalls)
      rw [hbegun, hended]
      simp only [held, hqueue, ← Multiset.coe_add]
      ac_rfl
  | control hitem hroom =>
      refine h.moved rfl ?_ hcalls
      simp only [held, ← Multiset.coe_add]
      have hended : endedCalls [.began (world.next item), .returned world.calls] = [] := rfl
      have hbegun : begunCalls [.began (world.next item), .returned world.calls] = [world.next item] := rfl
      rw [hended, hbegun, Multiset.coe_nil, add_zero]
      ac_rfl
  | refused hitem hslot =>
      refine h.moved rfl ?_ hcalls
      simp only [held, ← Multiset.coe_add]
      have hended : endedCalls [.began (world.next item)] = [] := rfl
      have hbegun : begunCalls [.began (world.next item)] = [world.next item] := rfl
      rw [hended, hbegun, Multiset.coe_nil, add_zero]
      ac_rfl
  | dropped hitem hfull hslot => exact h.moved rfl rfl hcalls

theorem wroteEmergency (h : world.Ledger) {call : ℕ} (hwrote : WroteEmergency world call world') :
    world'.Ledger := by
  cases hwrote with
  | nothing => exact h
  | wrote before after posted slot hcall hrefused hslot =>
      have hbegun : begunCalls ((world.queues.emergencyEvents slot).toList.map
          (fun pending => CallEvent.replaced pending.posted posted) ++ [CallEvent.returned call]) = [] := by
        cases world.queues.emergencyEvents slot <;> rfl
      refine h.moved rfl ?_ (by rw [hbegun]; exact (List.append_nil _).symm)
      -- what the slot held is ended, and the refused call is held by the slot
      have hslots := congrArg (Multiset.map EmergencyEvent.posted)
        (Slots.contents_update world.queues.emergencyEvents
          (some ⟨(world.queues.emergencyEventSequence + 1) % (uint64Max + 1), posted⟩)
          EmergencySlot.nodup_all slot.mem_all)
      rw [Multiset.map_add, Multiset.map_add, Slots.place_some, Multiset.map_singleton] at hslots
      have hended : (endedCalls ((world.queues.emergencyEvents slot).toList.map
            (fun pending => CallEvent.replaced pending.posted posted) ++
              [CallEvent.returned call]) : Multiset Posted) =
          (Slots.place (world.queues.emergencyEvents slot)).map EmergencyEvent.posted := by
        cases world.queues.emergencyEvents slot <;> rfl
      have hposted : (↑(before ++ posted :: after) : Multiset Posted) = ↑(before ++ after) + {posted} := by
        rw [← Multiset.coe_add, ← Multiset.coe_add, ← Multiset.cons_coe, ← Multiset.singleton_add]
        ac_rfl
      rw [hended, hbegun, Multiset.coe_nil, add_zero]
      simp only [held, InteractionQueues.enqueueEmergency, hrefused, hposted]
      rw [add_assoc _ (Multiset.map _ _) (Multiset.map _ _), hslots]
      ac_rfl

/-- What the event loop takes has been held. -/
theorem popped (h : world.Ledger) {posted : Posted} {queues : InteractionQueues}
    (hpopped : Popped world.queues (some (.item posted)) queues) :
    Ledger { world with queues, log := world.log ++ [.popped posted] } := by
  have hended : endedCalls [.popped posted] = [posted] := rfl
  have hbegun : begunCalls [.popped posted] = [] := rfl
  refine h.moved rfl ?_ (List.append_nil _).symm
  rw [hended, hbegun, Multiset.coe_nil, add_zero, Multiset.coe_singleton]
  cases hpopped with
  | emergency slot pending hpending hleast =>
      have hslots := congrArg (Multiset.map EmergencyEvent.posted)
        (Slots.contents_update world.queues.emergencyEvents none EmergencySlot.nodup_all slot.mem_all)
      rw [hpending, Slots.place_some, Slots.place_none, add_zero, Multiset.map_add,
        Multiset.map_singleton] at hslots
      rw [held, held, ← hslots]
      ac_rfl
  | control posted waiting hslots hpending hcontrol =>
      simp only [held, hcontrol, ← Multiset.cons_coe, ← Multiset.singleton_add]
      ac_rfl
  | bestEffort posted waiting hslots hpending hcontrol hbest =>
      simp only [held, hbest, ← Multiset.cons_coe, ← Multiset.singleton_add]
      ac_rfl

end Ledger

end World

end VoiceLife.Runtime
