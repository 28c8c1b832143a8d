import VoiceLife.Gateway.InboundEvents

/-! # Platform events run once

The marks of an event keep a second dispatch out while one is under way and after one has succeeded, and let
a redelivery in after a failure. They do so as long as no mark fails and no call ends in a crash on the way:
an event whose call ended without a mark is answered as a duplicate for good, and a mark of success that fails
is replaced by the mark of a failure.
-/

namespace VoiceLife.Gateway.Inbound

open PlatformEvents

variable {events events' : InboundEvents} {state : PlatformEvents}

/-! ## The table -/

theorem key_eq_of_find {external : ExternalEvent} {row : InboundEventRecord}
    (h : events.findByExternalEvent external = some row) : key row = external :=
  (KeyTable.get?_eq_some.1 h).2

theorem save_eq_some {record : InboundEventRecord} (hclash : ¬ events.ClashesWith record) :
    ∃ events', events.save record = some events' := by
  unfold InboundEvents.save
  rw [dif_neg hclash]
  exact ⟨_, rfl⟩

theorem findByExternalEvent_save {record : InboundEventRecord} (h : events.save record = some events')
    (external : ExternalEvent) :
    events'.findByExternalEvent external =
      if key record = external then some record else events.findByExternalEvent external := by
  unfold InboundEvents.save at h
  split at h
  · cases h
  · cases h
    exact KeyTable.get?_set _ _ _

theorem findById_of_find {external : ExternalEvent} {row : InboundEventRecord}
    (h : events.findByExternalEvent external = some row) : events.findById row.id = some row := by
  have hrow := (KeyTable.get?_eq_some.1 h).1
  cases hfind : events.findById row.id with
  | none => exact absurd (List.find?_eq_none.1 hfind row hrow) (by simp)
  | some other =>
      have hid : other.id = row.id := by simpa using List.find?_some hfind
      rw [events.primaryKey other (List.mem_of_find?_eq_some hfind) row hrow hid]

/-- A row is updated through its id. -/
theorem updateStatus_of_find {external : ExternalEvent} {row : InboundEventRecord}
    (h : events.findByExternalEvent external = some row) (status : InboundEventStatus) :
    ∃ events', updateStatus events row.id status = some events' ∧ ∀ other,
      events'.findByExternalEvent other =
        if external = other then some { row with status := status }
        else events.findByExternalEvent other := by
  have hrow := (KeyTable.get?_eq_some.1 h).1
  have hclash : ¬ events.ClashesWith { row with status := status } := by
    rintro ⟨other, hother, hid, hkey⟩
    have hsame : other = row := events.primaryKey other hother row hrow hid
    exact hkey (by rw [hsame]; rfl)
  obtain ⟨events', hsave⟩ := save_eq_some hclash
  refine ⟨events', ?_, fun other => ?_⟩
  · rw [updateStatus, findById_of_find h]
    exact hsave
  · rw [findByExternalEvent_save hsave, ← key_eq_of_find h]
    rfl

/-! ## The calls -/

variable {event : NormalizedImEvent}

theorem callAt_eq_some {index : ℕ} {phase : PostPhase} :
    state.callAt index phase = some event ↔ state.calls[index]? = some ⟨event, phase⟩ := by
  unfold PlatformEvents.callAt
  cases state.calls[index]? with
  | none => simp
  | some call =>
      obtain ⟨event', phase'⟩ := call
      by_cases hphase : phase' = phase
      · simp [hphase]
      · simp [hphase]

theorem calls_advance (index : ℕ) (phase : PostPhase) (other : ℕ) :
    (state.advance index phase).calls[other]? =
      if index = other then state.calls[other]?.map fun call => { call with phase := phase }
      else state.calls[other]? := by
  unfold PlatformEvents.advance
  rw [List.getElem?_modify]
  split <;> simp

/-! ## The property and its condition -/

/-- A call of `postEvent` works on the event. -/
def Handled (state : PlatformEvents) (external : ExternalEvent) : Prop :=
  ∃ (index : ℕ) (call : PostCall), state.calls[index]? = some call ∧ call.phase.isHandling = true ∧
    call.event.external = external

/-- A dispatch starts only if none is under way and none has succeeded, and a redelivery is taken up if no
call works on the event and none has succeeded; its id is the one of the event's row or a fresh one. -/
def RunsOnce (state : PlatformEvents) : PlatformStep → Prop
  | .startDispatch index => ∀ event, state.callAt index .marked = some event →
      event.external ∉ state.dispatched ∧
        ∀ other running, state.callAt other .dispatching = some running → running.external ≠ event.external
  | .record index true now => ∀ event, state.callAt index .arrived = some event →
      ¬ Handled state event.external → event.external ∉ state.dispatched →
        (state.record index true now).callAt index .duplicate = none ∧
          ((∀ row ∈ state.events.table.rows, row.id = event.id → key row = event.external) →
            (state.record index true now).callAt index .accepted = some event)
  | .markProcessing index true => ∀ event, state.callAt index .accepted = some event →
      (state.beginProcessing index true).callAt index .marked = some event
  | _ => True

/-- `markProcessing` does not fail, `markFailed` marks the events that no dispatch has finished and no others,
and a call that crashes has not begun to work on its event or has dispatched it. -/
def MarksHold (state : PlatformEvents) : PlatformStep → Prop
  | .markProcessing index commits => ∀ event, state.callAt index .accepted = some event → commits = true
  | .markFailed index commits => ∀ event, state.callAt index .failing = some event →
      (commits = true ↔ event.external ∉ state.dispatched)
  | .crash index => ∀ call : PostCall, state.calls[index]? = some call → call.phase.isHandling = true →
      call.event.external ∈ state.dispatched
  | _ => True

/-! ## The invariant -/

/-- The call has not dispatched its event. -/
def PostPhase.isBefore : PostPhase → Bool
  | .accepted | .marked | .dispatching => true
  | _ => false

/-- What the row of an event says about a call that works on it. -/
structure CallSound (event : NormalizedImEvent) (phase : PostPhase) (row : Option InboundEventRecord)
    (done : Prop) : Prop where
  row : phase.isHandling = true → ∃ record, row = some record ∧ record.id = event.id ∧
    (record.status = .received ∨ record.status = .processing)
  undone : phase.isBefore = true → ¬ done
  done : phase = .succeeded → done

/-- What the row of an event says about its dispatches. -/
structure RowSound (row : Option InboundEventRecord) (done handled : Prop) : Prop where
  recorded : done → row ≠ none
  failed : ∀ record, row = some record → record.status = .failed → ¬ done
  processed : ∀ record, row = some record → record.status = .processed → done
  working : ∀ record, row = some record → record.status = .received ∨ record.status = .processing →
    done ∨ handled

/-- The calls that work on an event, its row and its dispatches fit each other. -/
structure Consistent (state : PlatformEvents) : Prop where
  call : ∀ (index : ℕ) (call : PostCall), state.calls[index]? = some call →
    CallSound call.event call.phase (state.events.findByExternalEvent call.event.external)
      (call.event.external ∈ state.dispatched)
  unique : ∀ (index other : ℕ) (call call' : PostCall), state.calls[index]? = some call →
    state.calls[other]? = some call' →
    call.phase.isHandling = true → call'.phase.isHandling = true →
      call.event.external = call'.event.external → index = other
  row : ∀ external, RowSound (state.events.findByExternalEvent external) (external ∈ state.dispatched)
    (Handled state external)

theorem isHandling_of_isBefore {phase : PostPhase} (h : phase.isBefore = true) :
    phase.isHandling = true := by
  cases phase <;> first | rfl | cases h

/-- A call that does not work on its event asks for nothing. -/
theorem callSound_of_not_handling {phase : PostPhase}
    {row : Option InboundEventRecord} {done : Prop} (h : phase.isHandling = false) :
    CallSound event phase row done := by
  refine ⟨fun hphase => ?_, fun hphase => ?_, fun hphase => ?_⟩
  · exact absurd (h.symm.trans hphase) Bool.false_ne_true
  · exact absurd (h.symm.trans (isHandling_of_isBefore hphase)) Bool.false_ne_true
  · rw [hphase] at h
    cases h

theorem RowSound.congr {row : Option InboundEventRecord} {done handled done' handled' : Prop}
    (h : RowSound row done handled) (hdone : done ↔ done') (hhandled : handled → handled') :
    RowSound row done' handled' where
  recorded hdone' := h.recorded (hdone.2 hdone')
  failed record hrow hstatus hdone' := h.failed record hrow hstatus (hdone.2 hdone')
  processed record hrow hstatus := hdone.1 (h.processed record hrow hstatus)
  working record hrow hstatus := (h.working record hrow hstatus).imp hdone.1 hhandled

theorem CallSound.congr {phase : PostPhase} {row : Option InboundEventRecord}
    {done done' : Prop} (h : CallSound event phase row done) (hdone : done ↔ done') :
    CallSound event phase row done' :=
  ⟨h.row, fun hphase hdone' => h.undone hphase (hdone.2 hdone'), fun hphase => hdone.1 (h.done hphase)⟩

/-- A call that works alone on its event goes on, and the row and the dispatches of the event follow. -/
theorem Consistent.advance (h : Consistent state) {index : ℕ}
    {phase next : PostPhase} (hcall : state.calls[index]? = some ⟨event, phase⟩)
    (halone : ∀ (other : ℕ) (call : PostCall), state.calls[other]? = some call → call.phase.isHandling = true →
      call.event.external = event.external → other = index)
    (events' : InboundEvents) (dispatched' : List ExternalEvent)
    (hevents : ∀ external, external ≠ event.external →
      events'.findByExternalEvent external = state.events.findByExternalEvent external)
    (hdispatched : ∀ external, external ≠ event.external →
      (external ∈ state.dispatched ↔ external ∈ dispatched'))
    (hnext : CallSound event next (events'.findByExternalEvent event.external)
      (event.external ∈ dispatched'))
    (hrow : RowSound (events'.findByExternalEvent event.external) (event.external ∈ dispatched')
      (next.isHandling = true)) :
    Consistent ({ state with events := events', dispatched := dispatched' }.advance index next) := by
  have hself : ({ state with events := events', dispatched := dispatched' }.advance index next).calls[index]? =
      some ⟨event, next⟩ := by
    simp [calls_advance, hcall]
  have hothers : ∀ other, other ≠ index →
      ({ state with events := events', dispatched := dispatched' }.advance index next).calls[other]? =
        state.calls[other]? := by
    intro other hne
    simp [calls_advance, hne.symm]
  refine ⟨fun other call hget => ?_, fun other other' call call' hget hget' hphase hphase' hsame => ?_,
    fun external => ?_⟩
  · by_cases hindex : other = index
    · rw [hindex, hself] at hget
      cases hget
      exact hnext
    · rw [hothers other hindex] at hget
      by_cases hexternal : call.event.external = event.external
      · refine callSound_of_not_handling (Bool.eq_false_iff.2 fun hphase => hindex ?_)
        exact halone other call hget hphase hexternal
      · change CallSound _ _ (events'.findByExternalEvent _) (_ ∈ dispatched')
        rw [hevents _ hexternal]
        exact (h.call other call hget).congr (hdispatched _ hexternal)
  · by_cases hindex : other = index <;> by_cases hindex' : other' = index
    · rw [hindex, hindex']
    · rw [hindex, hself] at hget
      cases hget
      rw [hothers other' hindex'] at hget'
      exact absurd (halone other' call' hget' hphase' hsame.symm) hindex'
    · rw [hindex', hself] at hget'
      cases hget'
      rw [hothers other hindex] at hget
      exact absurd (halone other call hget hphase hsame) hindex
    · rw [hothers other hindex] at hget
      rw [hothers other' hindex'] at hget'
      exact h.unique other other' call call' hget hget' hphase hphase' hsame
  · by_cases hexternal : external = event.external
    · rw [hexternal]
      exact hrow.congr Iff.rfl fun hphase => ⟨index, _, hself, hphase, rfl⟩
    · change RowSound (events'.findByExternalEvent _) (_ ∈ dispatched') _
      rw [hevents _ hexternal]
      refine (h.row external).congr (hdispatched _ hexternal) ?_
      rintro ⟨other, call, hget, hphase, hcallExternal⟩
      have hindex : other ≠ index := by
        rintro rfl
        rw [hcall] at hget
        cases hget
        exact hexternal hcallExternal.symm
      exact ⟨other, call, (hothers other hindex).trans hget, hphase, hcallExternal⟩

/-- A call that does not work on its event, and goes on not to. -/
theorem Consistent.advance_idle (h : Consistent state) {index : ℕ}
    {phase next : PostPhase} (hcall : state.calls[index]? = some ⟨event, phase⟩)
    (hphase : phase.isHandling = false) (hnext : next.isHandling = false) :
    Consistent (state.advance index next) := by
  have hself : (state.advance index next).calls[index]? = some ⟨event, next⟩ := by
    simp [calls_advance, hcall]
  have hothers : ∀ other, other ≠ index →
      (state.advance index next).calls[other]? = state.calls[other]? := by
    intro other hne
    simp [calls_advance, hne.symm]
  have hhandling : ∀ (other : ℕ) (call : PostCall), (state.advance index next).calls[other]? = some call →
      call.phase.isHandling = true → state.calls[other]? = some call := by
    intro other call hget hcallPhase
    by_cases hindex : other = index
    · rw [hindex, hself] at hget
      cases hget
      exact absurd (hnext.symm.trans hcallPhase) Bool.false_ne_true
    · rwa [hothers other hindex] at hget
  refine ⟨fun other call hget => ?_, fun other other' call call' hget hget' hfirst hsecond hsame => ?_,
    fun external => ?_⟩
  · cases hcallPhase : call.phase.isHandling with
    | true => exact h.call other call (hhandling other call hget hcallPhase)
    | false => exact callSound_of_not_handling hcallPhase
  · exact h.unique other other' call call' (hhandling other call hget hfirst)
      (hhandling other' call' hget' hsecond) hfirst hsecond hsame
  · refine (h.row external).congr Iff.rfl ?_
    rintro ⟨other, call, hget, hcallPhase, hcallExternal⟩
    have hindex : other ≠ index := by
      rintro rfl
      rw [hcall] at hget
      cases hget
      exact Bool.false_ne_true (hphase.symm.trans hcallPhase)
    exact ⟨other, call, (hothers other hindex).trans hget, hcallPhase, hcallExternal⟩

/-! ## Steps -/

theorem Consistent.alone (h : Consistent state) {index : ℕ} {phase : PostPhase}
    (hcall : state.calls[index]? = some ⟨event, phase⟩) (hphase : phase.isHandling = true) (other : ℕ)
    (call : PostCall) (hget : state.calls[other]? = some call) (hcallPhase : call.phase.isHandling = true)
    (hsame : call.event.external = event.external) : other = index :=
  h.unique other index call ⟨event, phase⟩ hget hcall hcallPhase hphase hsame

/-- The row of an event that is worked on. -/
theorem rowSound_of_working {record : InboundEventRecord} {row : Option InboundEventRecord}
    {done handled : Prop} (hrow : row = some record)
    (hstatus : record.status = .received ∨ record.status = .processing) (hworking : done ∨ handled) :
    RowSound row done handled := by
  subst hrow
  refine ⟨fun _ => nofun, ?_, ?_, fun _ _ _ => hworking⟩
  · rintro _ ⟨⟩ hfailed
    simp [hfailed] at hstatus
  · rintro _ ⟨⟩ hprocessed
    simp [hprocessed] at hstatus

/-- A call that goes on without a transaction. -/
theorem Consistent.advance_same (h : Consistent state) {index : ℕ}
    {phase next : PostPhase} (hcall : state.calls[index]? = some ⟨event, phase⟩)
    (hphase : phase.isHandling = true)
    (hundone : next.isBefore = true → event.external ∉ state.dispatched)
    (hdone : next = .succeeded → event.external ∈ state.dispatched)
    (hworking : event.external ∈ state.dispatched ∨ next.isHandling = true) :
    Consistent (state.advance index next) := by
  obtain ⟨record, hrow, hid, hstatus⟩ := (h.call index _ hcall).row hphase
  exact h.advance hcall (h.alone hcall hphase) state.events state.dispatched (fun _ _ => rfl)
    (fun _ _ => Iff.rfl) ⟨fun _ => ⟨record, hrow, hid, hstatus⟩, hundone, hdone⟩
    (rowSound_of_working hrow hstatus hworking)

/-- A call whose mark commits. -/
theorem Consistent.advance_marked (h : Consistent state) {index : ℕ}
    {phase : PostPhase} (hcall : state.calls[index]? = some ⟨event, phase⟩)
    (hphase : phase.isHandling = true) (next : PostPhase) (status : InboundEventStatus) :
    ∃ events', updateStatus state.events event.id status = some events' ∧
      ((next.isHandling = true → status = .processing) →
        (next.isBefore = true → event.external ∉ state.dispatched) →
        (next = .succeeded → event.external ∈ state.dispatched) →
        (status = .failed → event.external ∉ state.dispatched) →
        (status = .processed → event.external ∈ state.dispatched) →
        (status = .received ∨ status = .processing →
          event.external ∈ state.dispatched ∨ next.isHandling = true) →
        Consistent ({ state with events := events' }.advance index next)) := by
  obtain ⟨record, hrow, hid, -⟩ := (h.call index _ hcall).row hphase
  obtain ⟨events', hupdate, hfind⟩ := updateStatus_of_find hrow status
  refine ⟨events', hid ▸ hupdate, fun hhandling hundone hdone hfailed hprocessed hworking => ?_⟩
  have hself : events'.findByExternalEvent event.external = some { record with status := status } :=
    (hfind _).trans (if_pos rfl)
  refine h.advance hcall (h.alone hcall hphase) events' state.dispatched
    (fun external hne => (hfind external).trans (if_neg hne.symm)) (fun _ _ => Iff.rfl) ?_ ?_
  · exact ⟨fun hnext => ⟨_, hself, hid, Or.inr (hhandling hnext)⟩, hundone, hdone⟩
  · rw [hself]
    refine ⟨fun _ => nofun, ?_, ?_, ?_⟩
    · rintro _ ⟨⟩ hstatus
      exact hfailed hstatus
    · rintro _ ⟨⟩ hstatus
      exact hprocessed hstatus
    · rintro _ ⟨⟩ hstatus
      exact hworking hstatus

/-- What `recordIfNew` takes up. -/
theorem recordIfNew_accepted {now : IsoDateTime}
    (h : recordIfNew events event now = some (.accepted, events')) :
    (∀ record, events.findByExternalEvent event.external = some record → record.status = .failed) ∧
      ∃ record, record.id = event.id ∧ record.status = .received ∧ ∀ other,
        events'.findByExternalEvent other =
          if event.external = other then some record else events.findByExternalEvent other := by
  unfold recordIfNew at h
  split at h
  · rename_i duplicate hfind
    split at h
    · cases h
    · rename_i hfailed
      obtain ⟨saved, hsave, hsaved⟩ := Option.map_eq_some_iff.1 h
      cases hsaved
      refine ⟨fun record hrecord => ?_, replayedRecord duplicate event now, rfl, rfl, fun other => ?_⟩
      · rw [hfind] at hrecord
        cases hrecord
        exact not_not.1 hfailed
      · rw [findByExternalEvent_save hsave, ← key_eq_of_find hfind]
        rfl
  · rename_i hfind
    obtain ⟨saved, hsave, hsaved⟩ := Option.map_eq_some_iff.1 h
    cases hsaved
    exact ⟨fun record hrecord => absurd (hfind.symm.trans hrecord) nofun, receivedRecord event now, rfl, rfl,
      findByExternalEvent_save hsave⟩

/-- An event is taken up unless a call works on it or a dispatch has succeeded. -/
theorem recordIfNew_of_free (h : Consistent state) (now : IsoDateTime)
    (hfree : ¬ Handled state event.external) (hundone : event.external ∉ state.dispatched) :
    recordIfNew state.events event now = none ∨
      ∃ events', recordIfNew state.events event now = some (.accepted, events') := by
  unfold recordIfNew
  split
  · rename_i duplicate hfind
    have hfailed : duplicate.status = .failed := by
      cases hstatus : duplicate.status with
      | failed => rfl
      | received => exact absurd ((h.row _).working _ hfind (Or.inl hstatus)) (by tauto)
      | processing => exact absurd ((h.row _).working _ hfind (Or.inr hstatus)) (by tauto)
      | processed => exact absurd ((h.row _).processed _ hfind hstatus) hundone
    rw [if_neg (not_not.2 hfailed)]
    cases state.events.save (replayedRecord duplicate event now) with
    | none => exact Or.inl rfl
    | some saved => exact Or.inr ⟨saved, rfl⟩
  · cases state.events.save (receivedRecord event now) with
    | none => exact Or.inl rfl
    | some saved => exact Or.inr ⟨saved, rfl⟩

theorem record_consistent (h : Consistent state) (index : ℕ) (commits : Bool) (now : IsoDateTime) :
    Consistent (state.record index commits now) := by
  unfold PlatformEvents.record
  split
  · exact h
  · rename_i event hat
    have hcall := callAt_eq_some.1 hat
    split
    · cases commits with
      | true => exact h.advance_idle hcall rfl rfl
      | false => exact h.advance_idle hcall rfl rfl
    · rename_i events' hrecorded
      cases commits with
      | false => exact h.advance_idle hcall rfl rfl
      | true =>
          obtain ⟨hfailed, record, hid, hstatus, hfind⟩ := recordIfNew_accepted hrecorded
          have hself : events'.findByExternalEvent event.external = some record :=
            (hfind _).trans (if_pos rfl)
          have hundone : event.external ∉ state.dispatched := by
            intro hdone
            obtain ⟨old, hold⟩ := Option.ne_none_iff_exists'.1 ((h.row _).recorded hdone)
            exact (h.row _).failed old hold (hfailed old hold) hdone
          refine h.advance hcall (fun other call hget hphase hsame => ?_) events' state.dispatched
            (fun external hne => (hfind external).trans (if_neg hne.symm)) (fun _ _ => Iff.rfl)
            ⟨fun _ => ⟨record, hself, hid, Or.inl hstatus⟩, fun _ => hundone, nofun⟩
            (rowSound_of_working hself (Or.inl hstatus) (Or.inr rfl))
          -- a call that works on the event has a row that is not failed
          obtain ⟨old, hold, -, holdStatus⟩ := (h.call other call hget).row hphase
          rw [hsame] at hold
          simp [hfailed old hold] at holdStatus
    · exact h.advance_idle hcall rfl rfl

theorem beginProcessing_consistent (h : Consistent state) (index : ℕ) (commits : Bool)
    (hok : MarksHold state (.markProcessing index commits)) :
    Consistent (state.beginProcessing index commits) := by
  unfold PlatformEvents.beginProcessing
  split
  · exact h
  · rename_i event hat
    have hcall := callAt_eq_some.1 hat
    have hundone := (h.call index _ hcall).undone rfl
    obtain ⟨events', hupdate, hnext⟩ := h.advance_marked hcall rfl .marked .processing
    rw [hok event hat, Inbound.markProcessing, hupdate]
    exact hnext (fun _ => rfl) (fun _ => hundone) nofun nofun nofun fun _ => Or.inr rfl

theorem startDispatch_consistent (h : Consistent state) (index : ℕ) :
    Consistent (state.startDispatch index) := by
  unfold PlatformEvents.startDispatch
  split
  · exact h
  · rename_i event hat
    have hcall := callAt_eq_some.1 hat
    have hundone := (h.call index _ hcall).undone rfl
    exact h.advance_same hcall rfl (fun _ => hundone) nofun (Or.inr rfl)

theorem endDispatch_consistent (h : Consistent state) (index : ℕ) (succeeds : Bool) :
    Consistent (state.endDispatch index succeeds) := by
  unfold PlatformEvents.endDispatch
  split
  · exact h
  · rename_i event hat
    have hcall := callAt_eq_some.1 hat
    split
    · obtain ⟨record, hrow, hid, hstatus⟩ := (h.call index _ hcall).row rfl
      refine h.advance hcall (h.alone hcall rfl) state.events (event.external :: state.dispatched)
        (fun _ _ => rfl) (fun external hne => ?_)
        ⟨fun _ => ⟨record, hrow, hid, hstatus⟩, nofun, fun _ => List.mem_cons_self⟩
        (rowSound_of_working hrow hstatus (Or.inr rfl))
      simp [hne]
    · exact h.advance_same hcall rfl nofun nofun (Or.inr rfl)

theorem finishProcessing_consistent (h : Consistent state) (index : ℕ) (commits : Bool) :
    Consistent (state.finishProcessing index commits) := by
  unfold PlatformEvents.finishProcessing
  split
  · exact h
  · rename_i event hat
    have hcall := callAt_eq_some.1 hat
    have hdone := (h.call index _ hcall).done rfl
    obtain ⟨events', hupdate, hnext⟩ := h.advance_marked hcall rfl .ended .processed
    rw [Inbound.markProcessed, hupdate]
    cases commits with
    | true => exact hnext nofun nofun nofun nofun (fun _ => hdone) nofun
    | false => exact h.advance_same hcall rfl nofun nofun (Or.inr rfl)

theorem failProcessing_consistent (h : Consistent state) (index : ℕ) (commits : Bool)
    (hok : MarksHold state (.markFailed index commits)) :
    Consistent (state.failProcessing index commits) := by
  unfold PlatformEvents.failProcessing
  split
  · exact h
  · rename_i event hat
    have hcall := callAt_eq_some.1 hat
    obtain ⟨events', hupdate, hnext⟩ := h.advance_marked hcall rfl .ended .failed
    rw [Inbound.markFailed, hupdate]
    cases commits with
    | true => exact hnext nofun nofun nofun (fun _ => (hok event hat).1 rfl) nofun nofun
    | false =>
        refine h.advance_same hcall rfl nofun nofun (Or.inl (not_not.1 fun hundone => ?_))
        exact Bool.false_ne_true ((hok event hat).2 hundone)

theorem crash_consistent (h : Consistent state) (index : ℕ) (hok : MarksHold state (.crash index)) :
    Consistent (state.crash index) := by
  unfold PlatformEvents.crash
  split
  · exact h
  · rename_i call hcall
    cases hphase : call.phase.isHandling with
    | false => exact h.advance_idle hcall hphase rfl
    | true => exact h.advance_same hcall hphase nofun nofun (Or.inl (hok call hcall hphase))

theorem arrive_consistent (h : Consistent state) (event : NormalizedImEvent) :
    Consistent (state.step (.arrive event)) := by
  have hold : ∀ (index : ℕ) (call : PostCall), (state.calls ++ [{ event := event }])[index]? = some call →
      call.phase.isHandling = true → state.calls[index]? = some call := by
    intro index call hget hphase
    rw [List.getElem?_append] at hget
    split at hget
    · exact hget
    · have hnew : call = { event := event } := by
        simpa using List.mem_of_getElem? hget
      rw [hnew] at hphase
      cases hphase
  have hkept : ∀ (index : ℕ) (call : PostCall), state.calls[index]? = some call →
      (state.calls ++ [{ event := event }])[index]? = some call := by
    intro index call hget
    rw [List.getElem?_append_left (List.getElem?_eq_some_iff.1 hget).1, hget]
  refine ⟨fun index call hget => ?_, fun index other call call' hget hget' hphase hphase' hsame => ?_,
    fun external => ?_⟩
  · cases hphase : call.phase.isHandling with
    | true => exact h.call index call (hold index call hget hphase)
    | false => exact callSound_of_not_handling hphase
  · exact h.unique index other call call' (hold index call hget hphase) (hold other call' hget' hphase')
      hphase hphase' hsame
  · refine (h.row external).congr Iff.rfl ?_
    rintro ⟨index, call, hget, hphase, hsame⟩
    exact ⟨index, call, hkept index call hget, hphase, hsame⟩

theorem step_consistent (state : PlatformEvents) (next : PlatformStep) (h : Consistent state)
    (hok : MarksHold state next) : Consistent (state.step next) := by
  cases next with
  | arrive event => exact arrive_consistent h event
  | record index commits now => exact record_consistent h index commits now
  | markProcessing index commits => exact beginProcessing_consistent h index commits hok
  | startDispatch index => exact startDispatch_consistent h index
  | endDispatch index succeeds => exact endDispatch_consistent h index succeeds
  | markProcessed index commits => exact finishProcessing_consistent h index commits
  | markFailed index commits => exact failProcessing_consistent h index commits hok
  | crash index => exact crash_consistent h index hok

theorem consistent_start : Consistent {} where
  call := by simp
  unique := by simp
  row external := ⟨nofun, nofun, nofun, nofun⟩

/-! ## Runs -/

theorem callAt_advance {index : ℕ} {phase next : PostPhase}
    (hat : state.callAt index phase = some event) : (state.advance index next).callAt index next = some event := by
  rw [callAt_eq_some, calls_advance, if_pos rfl, callAt_eq_some.1 hat]
  rfl

theorem callAt_advance_ne {index : ℕ} {phase next : PostPhase} (hne : next ≠ phase) :
    (state.advance index next).callAt index phase = none := by
  refine Option.eq_none_iff_forall_ne_some.2 fun event hat => hne ?_
  rw [callAt_eq_some, calls_advance, if_pos rfl] at hat
  obtain ⟨call, -, hcall⟩ := Option.map_eq_some_iff.1 hat
  cases hcall
  rfl

theorem save_ne_none {record : InboundEventRecord}
    (hfresh : ∀ row ∈ events.table.rows, row.id = record.id → key row = key record) :
    events.save record ≠ none := by
  obtain ⟨events', hsave⟩ := save_eq_some fun ⟨row, hrow, hid, hkey⟩ => hkey (hfresh row hrow hid)
  rw [hsave]
  nofun

/-- Only an id that belongs to another event is refused. -/
theorem recordIfNew_ne_none {now : IsoDateTime}
    (hfresh : ∀ row ∈ events.table.rows, row.id = event.id → key row = event.external) :
    recordIfNew events event now ≠ none := by
  unfold recordIfNew
  split
  · rename_i duplicate hfind
    split
    · nofun
    · refine fun hnone => save_ne_none (fun row hrow hid => ?_) (Option.map_eq_none_iff.1 hnone)
      exact (hfresh row hrow hid).trans (key_eq_of_find hfind).symm
  · exact fun hnone => save_ne_none hfresh (Option.map_eq_none_iff.1 hnone)

/-- What the invariant says about a step. -/
theorem Consistent.runsOnce (h : Consistent state) (next : PlatformStep) : RunsOnce state next := by
  cases next with
  | startDispatch index =>
      intro event hat
      have hcall := callAt_eq_some.1 hat
      refine ⟨(h.call index _ hcall).undone rfl, fun other running hrunning hsame => ?_⟩
      have hindex := h.alone hcall rfl other _ (callAt_eq_some.1 hrunning) rfl hsame
      rw [hindex, callAt_eq_some, hcall] at hrunning
      cases hrunning
  | markProcessing index commits =>
      cases commits with
      | false => trivial
      | true =>
          intro event hat
          obtain ⟨events', hupdate, -⟩ :=
            h.advance_marked (callAt_eq_some.1 hat) rfl .marked .processing
          simp only [PlatformEvents.beginProcessing, hat, Inbound.markProcessing, hupdate,
            PlatformEvents.transact]
          have hat' : { state with events := events' }.callAt index .accepted = some event := hat
          exact callAt_advance hat'
  | record index commits now =>
      cases commits with
      | false => trivial
      | true =>
          intro event hat hfree hundone
          rcases recordIfNew_of_free h now hfree hundone with hnone | ⟨events', hrecorded⟩
          · simp only [PlatformEvents.record, hat, hnone]
            exact ⟨callAt_advance_ne nofun, fun hfresh => absurd hnone (recordIfNew_ne_none hfresh)⟩
          · simp only [PlatformEvents.record, hat, hrecorded, PlatformEvents.transact]
            have hat' : { state with events := events' }.callAt index .arrived = some event := hat
            exact ⟨callAt_advance_ne nofun, fun _ => callAt_advance hat'⟩
  | arrive event => trivial
  | endDispatch index succeeds => trivial
  | markProcessed index commits => trivial
  | markFailed index commits => trivial
  | crash index => trivial

/-- If the marks hold, then platform events run once and redeliveries are not lost. -/
theorem runsOnce_of_allSteps (steps : List PlatformStep)
    (hok : Run.AllSteps PlatformEvents.step MarksHold {} steps) :
    Run.AllSteps PlatformEvents.step RunsOnce {} steps :=
  Run.AllSteps.of_invariant (fun state next h hok => ⟨step_consistent state next h hok, h.runsOnce next⟩)
    consistent_start hok

/-- A time of the examples. -/
def someTime : IsoDateTime :=
  isoTime "2026-01-01T00:00:00Z" (by decide +kernel)

/-- A message with an id. -/
def message (id : String) : NormalizedImEvent :=
  ⟨js id, js "external", js "channel", .messageReceived, .null, someTime⟩

/-- A dispatch that fails, and one of the redelivery that succeeds. -/
theorem redelivery_runs_once :
    Run.AllSteps PlatformEvents.step RunsOnce {}
      [.arrive (message "first"), .record 0 true someTime, .markProcessing 0 true, .startDispatch 0,
        .endDispatch 0 false, .markFailed 0 true, .arrive (message "second"), .record 1 true someTime,
        .markProcessing 1 true, .startDispatch 1, .endDispatch 1 true, .markProcessed 1 true] := by
  refine runsOnce_of_allSteps _ ⟨trivial, trivial, fun _ _ => rfl, trivial, trivial, fun event hat => ?_,
    trivial, trivial, fun _ _ => rfl, trivial, trivial, trivial, trivial⟩
  simp only [true_iff]
  exact List.not_mem_nil

/-- A call that ends in a crash once it has recorded its event, and a redelivery. -/
def lostEvent : List PlatformStep :=
  [.arrive (message "first"), .record 0 true someTime, .crash 0, .arrive (message "second")]

/-- A dispatch that succeeds, whose mark fails, and a redelivery. -/
def repeatedEvent : List PlatformStep :=
  [.arrive (message "first"), .record 0 true someTime, .markProcessing 0 true, .startDispatch 0,
    .endDispatch 0 true, .markProcessed 0 false, .markFailed 0 true, .arrive (message "second"),
    .record 1 true someTime, .markProcessing 1 true]

/-- The first redelivery is answered as a duplicate, the second one is dispatched again. -/
theorem event_lost_or_repeated :
    ¬ RunsOnce (Run.run PlatformEvents.step {} lostEvent) (.record 1 true someTime) ∧
      ¬ RunsOnce (Run.run PlatformEvents.step {} repeatedEvent) (.startDispatch 1) := by
  constructor
  · intro h
    have hcalls : (Run.run PlatformEvents.step {} lostEvent).calls =
        [⟨message "first", .ended⟩, ⟨message "second", .arrived⟩] := rfl
    have hfree : ¬ Handled (Run.run PlatformEvents.step {} lostEvent) (message "second").external := by
      rintro ⟨index, call, hget, hphase, -⟩
      rw [hcalls] at hget
      rcases List.mem_pair.1 (List.mem_of_getElem? hget) with rfl | rfl <;> cases hphase
    have hduplicate := (h (message "second") rfl hfree List.not_mem_nil).1
    cases hduplicate
  · intro h
    exact (h (message "second") rfl).1 List.mem_cons_self

end VoiceLife.Gateway.Inbound
