import VoiceLife.Gateway.Pairing

/-! # Pairing sessions and bindings stay unique

Whatever order sessions are created, confirmed, cancelled and expire in, and bindings are replaced and
ended: a device has one pending session and one active binding at most, an identity has one active
binding at most, and no two pending sessions answer to one code. What has been settled stays settled.
-/

namespace VoiceLife.Gateway.Pairing

open KeyTable

/-- The binding is in use and names a device. -/
def TimedBinding.BindsDevice (binding : TimedBinding) : Prop :=
  binding.IsActive ∧ binding.deviceId ≠ none

/-- At most one of each. -/
structure PairingUnique (store : PairingStore) : Prop where
  bindingPerDevice : store.bindings.UniqueAmong TimedBinding.BindsDevice (·.deviceId)
  bindingPerIdentity : store.bindings.UniqueAmong TimedBinding.IsActive (·.externalIdentityId)
  sessionPerDevice : store.pairingSessions.UniqueAmong PairingSession.IsPending (·.deviceId)
  sessionPerHash : store.pairingSessions.UniqueAmong PairingSession.IsPending (·.displayCodeHash)

/-- Sessions and bindings are kept; those that are no longer pending or active stay as they are. -/
structure SettledStays (store store' : PairingStore) : Prop where
  sessions : Evolves PairingSession.IsPending store.pairingSessions store'.pairingSessions
  bindings : Evolves TimedBinding.IsActive store.bindings store'.bindings

theorem SettledStays.refl (store : PairingStore) : SettledStays store store :=
  ⟨.refl _, .refl _⟩

theorem SettledStays.trans {store store' store'' : PairingStore} (h : SettledStays store store')
    (h' : SettledStays store' store'') : SettledStays store store'' :=
  ⟨h.sessions.trans h'.sessions, h.bindings.trans h'.bindings⟩

/-- One session of the device was pending and unexpired and is confirmed now; the others are as before. -/
def ConsumesOne (store store' : PairingStore) (deviceId : Option DeviceId) (now : IsoDateTime) : Prop :=
  ∃ session ∈ store.pairingSessions.rows,
    session.IsPending ∧ session.expiresAt.textLe now = false ∧ deviceId = some session.deviceId ∧
      confirmedSession session now ∈ store'.pairingSessions.rows ∧
        ∀ other : PairingSession, other.id ≠ session.id →
          (other ∈ store'.pairingSessions.rows ↔ other ∈ store.pairingSessions.rows)

/-! ## Invariants of the tables -/

variable {ids : IdGenerator} {used used' : ℕ}

/-- The id has been generated. -/
def HasIssued (ids : IdGenerator) (used : ℕ) (id : JsString) : Prop :=
  ∃ n < used, id = ids.nth n

theorem HasIssued.mono {id : JsString} (h : HasIssued ids used id) (hle : used ≤ used') :
    HasIssued ids used' id := by
  obtain ⟨n, hn, rfl⟩ := h
  exact ⟨n, hn.trans_le hle, rfl⟩

theorem HasIssued.ne_next {id : JsString} (h : HasIssued ids used id) :
    id ≠ ids.nth used := by
  obtain ⟨n, hn, rfl⟩ := h
  exact fun heq => hn.ne (ids.injective heq)

/-- The invariant of the sessions. -/
structure SoundSessions (ids : IdGenerator) (used : ℕ) (sessions : KeyTable PairingSession) : Prop where
  issued : ∀ session ∈ sessions.rows, HasIssued ids used session.id
  perDevice : sessions.UniqueAmong PairingSession.IsPending (·.deviceId)
  perHash : sessions.UniqueAmong PairingSession.IsPending (·.displayCodeHash)

/-- The invariant of the bindings. -/
structure SoundBindings (ids : IdGenerator) (used : ℕ) (bindings : KeyTable TimedBinding) : Prop where
  issued : ∀ binding ∈ bindings.rows, HasIssued ids used binding.id
  perDevice : bindings.UniqueAmong TimedBinding.BindsDevice (·.deviceId)
  perIdentity : bindings.UniqueAmong TimedBinding.IsActive (·.externalIdentityId)

/-- The invariant of the store. -/
structure SoundPairing (ids : IdGenerator) (store : PairingStore) : Prop where
  sessions : SoundSessions ids store.idsUsed store.pairingSessions
  bindings : SoundBindings ids store.idsUsed store.bindings

theorem SoundPairing.unique {store : PairingStore} (h : SoundPairing ids store) : PairingUnique store where
  bindingPerDevice := h.bindings.perDevice
  bindingPerIdentity := h.bindings.perIdentity
  sessionPerDevice := h.sessions.perDevice
  sessionPerHash := h.sessions.perHash

theorem SoundSessions.mono {sessions : KeyTable PairingSession} (h : SoundSessions ids used sessions)
    (hle : used ≤ used') : SoundSessions ids used' sessions :=
  ⟨fun session hs => (h.issued session hs).mono hle, h.perDevice, h.perHash⟩

theorem SoundBindings.mono {bindings : KeyTable TimedBinding} (h : SoundBindings ids used bindings)
    (hle : used ≤ used') : SoundBindings ids used' bindings :=
  ⟨fun binding hb => (h.issued binding hb).mono hle, h.perDevice, h.perIdentity⟩

/-! ## Sessions -/

section Sessions

variable {sessions : KeyTable PairingSession} {session : PairingSession} {status : PairingStatus}

/-- A pending session gets another status. -/
theorem SoundSessions.settle (h : SoundSessions ids used sessions) (hmem : session ∈ sessions.rows)
    {settled : PairingSession} (hid : settled.id = session.id) (hdead : ¬ settled.IsPending) :
    SoundSessions ids used (sessions.set settled) where
  issued := by
    intro other hother
    rcases mem_set.1 hother with rfl | ⟨hold, -⟩
    · rw [hid]
      exact h.issued session hmem
    · exact h.issued other hold
  perDevice := h.perDevice.set_of_dead hdead
  perHash := h.perHash.set_of_dead hdead

theorem not_isPending_cancelled (session : PairingSession) :
    ¬ (PairingStore.cancelled session).IsPending :=
  PairingStatus.noConfusion

theorem not_isPending_confirmedSession (session : PairingSession) (now : IsoDateTime) :
    ¬ (confirmedSession session now).IsPending :=
  PairingStatus.noConfusion

/-- Cancelling ends the pending sessions of the device and no others. -/
theorem mem_of_isPending_cancelPendingByDevice {store : PairingStore} {deviceId : DeviceId}
    (hmem : session ∈ (store.cancelPendingByDevice deviceId).pairingSessions.rows)
    (hpending : session.IsPending) :
    session ∈ store.pairingSessions.rows ∧ session.deviceId ≠ deviceId := by
  obtain ⟨hold, hkept⟩ :=
    mem_of_live_setAll_map (g := PairingStore.cancelled) (fun _ => rfl) not_isPending_cancelled hmem hpending
  refine ⟨hold, fun hdevice => ?_⟩
  simp [hdevice, hpending] at hkept

theorem evolves_cancelPendingByDevice (store : PairingStore) (deviceId : DeviceId) :
    Evolves PairingSession.IsPending store.pairingSessions
      (store.cancelPendingByDevice deviceId).pairingSessions := by
  refine evolves_setAll_map (fun _ => rfl) fun session hcancelled => ?_
  exact (of_decide_eq_true hcancelled).2

theorem SoundSessions.cancelPendingByDevice {store : PairingStore}
    (h : SoundSessions ids used store.pairingSessions) (deviceId : DeviceId) :
    SoundSessions ids used (store.cancelPendingByDevice deviceId).pairingSessions where
  issued := by
    intro session hs
    obtain ⟨old, hold, rfl⟩ := (mem_setAll_map (f := PairingStore.cancelled) fun _ => rfl).1 hs
    split_ifs
    · exact h.issued old hold
    · exact h.issued old hold
  perDevice := h.perDevice.of_subset fun _ hs hp => (mem_of_isPending_cancelPendingByDevice hs hp).1
  perHash := h.perHash.of_subset fun _ hs hp => (mem_of_isPending_cancelPendingByDevice hs hp).1

/-- A new pending session, after those of its device are cancelled and if its code is free. -/
theorem SoundSessions.insert (h : SoundSessions ids used sessions) (hid : session.id = ids.nth used)
    (hdevice : ∀ other ∈ sessions.rows, other.IsPending → other.deviceId ≠ session.deviceId)
    (hhash : ∀ other ∈ sessions.rows, other.IsPending →
      other.displayCodeHash ≠ session.displayCodeHash) :
    SoundSessions ids (used + 1) (sessions.set session) where
  issued := by
    intro other hother
    rcases mem_set.1 hother with rfl | ⟨hold, -⟩
    · exact ⟨used, used.lt_succ_self, hid⟩
    · exact (h.issued other hold).mono used.le_succ
  perDevice := by
    refine h.perDevice.of_insert session fun other hother hpending => ?_
    exact (mem_set.1 hother).imp_right fun hold => ⟨hold.1, hdevice other hold.1 hpending⟩
  perHash := by
    refine h.perHash.of_insert session fun other hother hpending => ?_
    exact (mem_set.1 hother).imp_right fun hold => ⟨hold.1, hhash other hold.1 hpending⟩

end Sessions

/-! ## Bindings -/

section Bindings

variable {store store' : PairingStore} {binding bound : TimedBinding}

/-- An active binding ends. -/
theorem SoundBindings.settle {bindings : KeyTable TimedBinding} (h : SoundBindings ids used bindings)
    (hmem : binding ∈ bindings.rows) {ended : TimedBinding} (hid : ended.id = binding.id)
    (hdead : ¬ ended.IsActive) : SoundBindings ids used (bindings.set ended) where
  issued := by
    intro other hother
    rcases mem_set.1 hother with rfl | ⟨hold, -⟩
    · rw [hid]
      exact h.issued binding hmem
    · exact h.issued other hold
  perDevice := h.perDevice.set_of_dead fun hbinds => hdead hbinds.1
  perIdentity := h.perIdentity.set_of_dead hdead

theorem not_isActive_unboundAt (time : IsoDateTime) (binding : TimedBinding) :
    ¬ (PairingStore.unboundAt time binding).IsActive :=
  ImBindingStatus.noConfusion

theorem not_isActive_endedBinding (binding : TimedBinding) (ending : BindingEnd) (now : IsoDateTime) :
    ¬ (endedBinding binding ending now).IsActive := by
  cases ending <;> exact ImBindingStatus.noConfusion

/-- What `replaceActiveBinding` returns and leaves behind. -/
inductive Replaces (store : PairingStore) (binding : TimedBinding) :
    TimedBinding → PairingStore → Prop where
  | same {existing : TimedBinding} (hmem : existing ∈ store.bindings.rows) (hactive : existing.IsActive)
      (hdevice : existing.deviceId = binding.deviceId) : Replaces store binding existing store
  | new (hactive : binding.IsActive) (bindings : KeyTable TimedBinding)
      (hbindings : bindings = (store.bindings.setAll ((store.bindings.rows.filter fun candidate =>
        candidate.IsActive ∧ (candidate.deviceId = binding.deviceId ∨
          candidate.externalIdentityId = binding.externalIdentityId)).map
            (PairingStore.unboundAt binding.boundAt)))) :
      Replaces store binding binding { store with bindings := bindings.set binding }

theorem replaceActiveBinding_replaces
    (h : store.replaceActiveBinding binding = .ok (bound, store')) :
    Replaces store binding bound store' := by
  unfold PairingStore.replaceActiveBinding at h
  split at h
  · cases h
  · next hguard =>
      rw [not_or, not_not] at hguard
      split at h
      · next existing hfound =>
          cases h
          have hsame := List.find?_some hfound
          rw [decide_eq_true_eq] at hsame
          exact .same (List.mem_of_find?_eq_some hfound) hsame.1 hsame.2.2.1
      · cases h
        exact .new hguard.1 _ rfl

/-- A replaced binding table stays sound. -/
theorem SoundBindings.replace (h : SoundBindings ids used store.bindings)
    (hid : binding.id = ids.nth used) (hreplaces : Replaces store binding bound store') :
    SoundBindings ids (used + 1) store'.bindings := by
  cases hreplaces with
  | same hmem hactive hdevice => exact h.mono used.le_succ
  | new hactive bindings hbindings =>
      have hlive : ∀ other ∈ bindings.rows, other.IsActive → other ∈ store.bindings.rows ∧
          other.deviceId ≠ binding.deviceId ∧
            other.externalIdentityId ≠ binding.externalIdentityId := by
        intro other hother hother_active
        rw [hbindings] at hother
        obtain ⟨hold, hkept⟩ :=
          mem_of_live_setAll_map (g := PairingStore.unboundAt binding.boundAt) (fun _ => rfl)
            (not_isActive_unboundAt binding.boundAt) hother hother_active
        have hneither := of_decide_eq_false hkept
        exact ⟨hold, fun hd => hneither ⟨hother_active, Or.inl hd⟩,
          fun hi => hneither ⟨hother_active, Or.inr hi⟩⟩
      refine ⟨fun other hother => ?_, ?_, ?_⟩
      · rcases mem_set.1 hother with rfl | ⟨hold, -⟩
        · exact ⟨used, used.lt_succ_self, hid⟩
        · rw [hbindings] at hold
          obtain ⟨old, hmem, rfl⟩ :=
            (mem_setAll_map (f := PairingStore.unboundAt binding.boundAt) fun _ => rfl).1 hold
          have hissued := (h.issued old hmem).mono used.le_succ
          split_ifs <;> exact hissued
      · refine h.perDevice.of_insert binding fun other hother hbinds => ?_
        refine (mem_set.1 hother).imp_right fun hold => ?_
        obtain ⟨hmem, hdevice, -⟩ := hlive other hold.1 hbinds.1
        exact ⟨hmem, hdevice⟩
      · refine h.perIdentity.of_insert binding fun other hother hactive' => ?_
        refine (mem_set.1 hother).imp_right fun hold => ?_
        obtain ⟨hmem, -, hidentity⟩ := hlive other hold.1 hactive'
        exact ⟨hmem, hidentity⟩

theorem Replaces.evolves (h : SoundBindings ids used store.bindings)
    (hid : binding.id = ids.nth used) (hreplaces : Replaces store binding bound store') :
    Evolves TimedBinding.IsActive store.bindings store'.bindings := by
  cases hreplaces with
  | same hmem hactive hdevice => exact .refl _
  | new hactive bindings hbindings =>
      have hended : Evolves TimedBinding.IsActive store.bindings bindings := by
        rw [hbindings]
        exact evolves_setAll_map (fun _ => rfl) fun _ hp => (of_decide_eq_true hp).1
      refine hended.trans (evolves_set_of_fresh fun other hother hkey => ?_)
      rw [hbindings] at hother
      obtain ⟨old, hmem, rfl⟩ :=
        (mem_setAll_map (f := PairingStore.unboundAt binding.boundAt) fun _ => rfl).1 hother
      refine (h.issued old hmem).ne_next (Eq.trans ?_ (hkey.trans hid))
      split_ifs <;> rfl

theorem Replaces.active (h : Replaces store binding bound store') :
    bound.IsActive ∧ bound ∈ store'.bindings.rows ∧ bound.deviceId = binding.deviceId ∧
      store'.pairingSessions = store.pairingSessions ∧ store'.idsUsed = store.idsUsed := by
  cases h with
  | same hmem hactive hdevice => exact ⟨hactive, hmem, hdevice, rfl, rfl⟩
  | new hactive bindings hbindings => exact ⟨hactive, mem_set.2 (Or.inl rfl), rfl, rfl, rfl⟩

end Bindings

/-! ## One transaction -/

/-- What every transaction does to a sound store. -/
structure KeepsPairing (ids : IdGenerator) (store store' : PairingStore) : Prop where
  sound : SoundPairing ids store'
  settled : SettledStays store store'

section Transactions

variable {store store' : PairingStore}

theorem KeepsPairing.refl (h : SoundPairing ids store) : KeepsPairing ids store store :=
  ⟨h, .refl store⟩

theorem KeepsPairing.trans {store'' : PairingStore} (h : KeepsPairing ids store store')
    (h' : KeepsPairing ids store' store'') : KeepsPairing ids store store'' :=
  ⟨h'.sound, h.settled.trans h'.settled⟩

theorem transitionPending_keeps (h : SoundPairing ids store) (id : PairingSessionId)
    {status : PairingStatus} (hstatus : status ≠ .pending) :
    KeepsPairing ids store (store.transitionPending id status).2 := by
  unfold PairingStore.transitionPending
  split
  · exact .refl h
  · next session hfound =>
      obtain ⟨hmem, -⟩ := get?_eq_some.1 hfound
      split_ifs with hpending
      · exact
          { sound := ⟨h.sessions.settle hmem rfl hstatus, h.bindings⟩
            settled := ⟨evolves_set_of_live hmem rfl hpending, .refl _⟩ }
      · exact .refl h

theorem expireLoop_keeps (h : SoundPairing ids store) (sessions : List PairingSession) :
    KeepsPairing ids store (expireLoop store sessions).2 := by
  induction sessions generalizing store with
  | nil => exact .refl h
  | cons session sessions ih =>
      have hone : KeepsPairing ids store (store.transitionPending session.id .expired).2 :=
        transitionPending_keeps h session.id PairingStatus.noConfusion
      exact hone.trans (ih hone.sound)

variable {now : IsoDateTime}

theorem changeStatus_keeps (h : SoundPairing ids store) {bindingId : BindingId} {ending : BindingEnd}
    (hchanged : changeStatus store bindingId ending now = .ok store') :
    KeepsPairing ids store store' := by
  unfold changeStatus at hchanged
  split at hchanged
  · cases hchanged
  · next binding hfound =>
      obtain ⟨hmem, -⟩ := get?_eq_some.1 hfound
      have hkey : (endedBinding binding ending now).id = binding.id := by cases ending <;> rfl
      split_ifs at hchanged with hsame hactive
      · cases hchanged
        exact .refl h
      · cases hchanged
        exact
          { sound := ⟨h.sessions, h.bindings.settle hmem hkey (not_isActive_endedBinding binding ending now)⟩
            settled := ⟨.refl _, evolves_set_of_live hmem hkey hactive⟩ }

theorem nextId_keeps (h : SoundPairing ids store) : KeepsPairing ids store (store.nextId ids).2 where
  sound := ⟨h.sessions.mono store.idsUsed.le_succ, h.bindings.mono store.idsUsed.le_succ⟩
  settled := ⟨.refl _, .refl _⟩

theorem createTransaction_eq_ok {command : CreatePairingSessionCommand} {session : PairingSession}
    {created : Bool} (h : createTransaction store command session = .ok (created, store')) :
    (store.cancelPendingByDevice command.deviceId).createPendingIfAbsent session =
      (created, store') := by
  unfold createTransaction at h
  split at h
  · cases h
  · split_ifs at h
    exact Except.ok.inj h

/-- The session of an attempt is new, the only pending one of its device and the only one of its code. -/
theorem createTransaction_keeps (h : SoundPairing ids store) {command : CreatePairingSessionCommand}
    {session : PairingSession} (hid : session.id = ids.nth store.idsUsed)
    (hdevice : session.deviceId = command.deviceId) {created : Bool}
    (hcreated : createTransaction (store.nextId ids).2 command session = .ok (created, store')) :
    KeepsPairing ids store store' := by
  have hdrawn := nextId_keeps h
  have hresult := createTransaction_eq_ok hcreated
  have hcancelled := h.sessions.cancelPendingByDevice command.deviceId
  have hevolves := evolves_cancelPendingByDevice store command.deviceId
  unfold PairingStore.createPendingIfAbsent at hresult
  split_ifs at hresult with htaken
  · cases hresult
    exact
      { sound := ⟨hcancelled.mono store.idsUsed.le_succ, hdrawn.sound.bindings⟩
        settled := ⟨hevolves, .refl _⟩ }
  · cases hresult
    have hfree : ∀ other ∈ (store.cancelPendingByDevice command.deviceId).pairingSessions.rows,
        other.IsPending → other.displayCodeHash ≠ session.displayCodeHash := by
      intro other hother hpending hhash
      exact htaken (List.any_eq_true.2 ⟨other, hother, decide_eq_true ⟨hpending, hhash⟩⟩)
    have hgone : ∀ other ∈ (store.cancelPendingByDevice command.deviceId).pairingSessions.rows,
        other.IsPending → other.deviceId ≠ session.deviceId := by
      intro other hother hpending
      rw [hdevice]
      exact (mem_of_isPending_cancelPendingByDevice hother hpending).2
    have hfresh : ∀ other ∈ (store.cancelPendingByDevice command.deviceId).pairingSessions.rows,
        key other ≠ key session := by
      intro other hother hkey
      exact (hcancelled.issued other hother).ne_next (hkey.trans hid)
    exact
      { sound := ⟨hcancelled.insert hid hgone hfree, hdrawn.sound.bindings⟩
        settled := ⟨hevolves.trans (evolves_set_of_fresh hfresh), .refl _⟩ }

theorem createAttempt_keeps (h : SoundPairing ids store) {addMinutes : AddMinutes}
    {command : CreatePairingSessionCommand} {attempt : ℕ} {code : IssuedCode} :
    KeepsPairing ids store (createAttempt ids addMinutes store command attempt code now).2 := by
  unfold createAttempt
  dsimp only
  split
  · exact nextId_keeps h
  · next hcreated => exact createTransaction_keeps h rfl rfl hcreated
  · next hcreated => exact createTransaction_keeps h rfl rfl hcreated

/-! ## `confirm` -/

/-- What a successful confirmation goes through. -/
inductive Confirms (ids : IdGenerator) (store : PairingStore) (now : IsoDateTime) :
    TimedBinding → PairingStore → Prop where
  | intro {session : PairingSession} {drawn replaced : PairingStore} {wanted binding : TimedBinding}
      (hmem : session ∈ store.pairingSessions.rows) (hpending : session.IsPending)
      (hunexpired : session.expiresAt.textLe now = false) (hdrawn : KeepsPairing ids store drawn)
      (hsessions : drawn.pairingSessions = store.pairingSessions)
      (hid : wanted.id = ids.nth drawn.idsUsed) (hdevice : wanted.deviceId = some session.deviceId)
      (hreplaces : Replaces (drawn.nextId ids).2 wanted binding replaced) :
      Confirms ids store now binding (replaced.savePairingSession (confirmedSession session now))

theorem sessionToConfirm_eq_ok {codeHash : JsString} {session : PairingSession}
    (h : sessionToConfirm store codeHash now = .ok session) :
    session ∈ store.pairingSessions.rows ∧ session.IsPending ∧
      session.expiresAt.textLe now = false := by
  unfold sessionToConfirm at h
  split at h
  · cases h
  · next candidate hcandidate =>
      split at h
      · cases h
      · next locked hlocked =>
          split_ifs at h with hvalid
          · cases h
          · cases h
            rw [not_or, Bool.not_eq_true] at hvalid
            unfold PairingStore.lockPendingByIdAndDisplayCodeHash at hlocked
            split at hlocked
            · cases hlocked
            · next row hrow =>
                split_ifs at hlocked with hpending
                cases hlocked
                exact ⟨(get?_eq_some.1 hrow).1, hpending.1, hvalid.2⟩

theorem identityToConfirm_eq_ok (h : SoundPairing ids store) {account : PlatformAccount}
    {protectedIdentity : ProtectedExternalIdentity} {displayName : Option JsString}
    {identity : ProtectedIdentity}
    (hok : identityToConfirm ids store account protectedIdentity displayName now =
      .ok (identity, store')) :
    KeepsPairing ids store store' ∧ store'.pairingSessions = store.pairingSessions := by
  unfold identityToConfirm PairingStore.createIdentityIfAbsent at hok
  cases hfound : store.findByChannelAndHash account.id protectedIdentity.hash with
  | some existing =>
      simp only [hfound] at hok
      split_ifs at hok
      · cases hok
      · cases hok
        exact ⟨.refl h, rfl⟩
  | none =>
      have hdrawn := nextId_keeps h
      have hstill : (store.nextId ids).2.findByChannelAndHash account.id protectedIdentity.hash =
          none := hfound
      simp only [hfound, hstill] at hok
      split_ifs at hok
      · cases hok
      · cases hok
        exact ⟨⟨⟨hdrawn.sound.sessions, hdrawn.sound.bindings⟩, ⟨.refl _, .refl _⟩⟩, rfl⟩

theorem confirm_confirms (h : SoundPairing ids store) {command : ConfirmPairingCommand}
    {codeHash : JsString} {protectedIdentity : ProtectedExternalIdentity} {binding : TimedBinding}
    (hok : confirm ids store command codeHash protectedIdentity now = .ok (binding, store')) :
    Confirms ids store now binding store' := by
  unfold confirm at hok
  obtain ⟨session, hsession, hok⟩ := exists_of_bind_eq_ok hok
  obtain ⟨account, -, hok⟩ := exists_of_bind_eq_ok hok
  obtain ⟨userId, -, hok⟩ := exists_of_bind_eq_ok hok
  obtain ⟨⟨identity, drawn⟩, hidentity, hok⟩ := exists_of_bind_eq_ok hok
  obtain ⟨⟨bound, replaced⟩, hreplaced, hok⟩ := exists_of_bind_eq_ok hok
  cases hok
  obtain ⟨hmem, hpending, hunexpired⟩ := sessionToConfirm_eq_ok hsession
  obtain ⟨hdrawn, hsessions⟩ := identityToConfirm_eq_ok h hidentity
  exact .intro hmem hpending hunexpired hdrawn hsessions rfl rfl (replaceActiveBinding_replaces hreplaced)

theorem Confirms.keeps {binding : TimedBinding}
    (h : Confirms ids store now binding store') : KeepsPairing ids store store' := by
  cases h with
  | @intro session drawn replaced wanted binding hmem hpending _ hdrawn hsessions hid _ hreplaces =>
      obtain ⟨-, -, -, hkept, hused⟩ := hreplaces.active
      have hkept' : replaced.pairingSessions = store.pairingSessions := hkept.trans hsessions
      have hbefore : SoundBindings ids drawn.idsUsed (drawn.nextId ids).2.bindings :=
        hdrawn.sound.bindings
      have hsession : SoundSessions ids (drawn.idsUsed + 1) replaced.pairingSessions := by
        rw [hkept]
        exact hdrawn.sound.sessions.mono drawn.idsUsed.le_succ
      have hmem' : session ∈ replaced.pairingSessions.rows := by
        rw [hkept']
        exact hmem
      have hreplaced : SoundBindings ids (drawn.idsUsed + 1) replaced.bindings :=
        hbefore.replace hid hreplaces
      have hevolves : Evolves TimedBinding.IsActive (drawn.nextId ids).2.bindings replaced.bindings :=
        hreplaces.evolves hbefore hid
      have hnext : drawn.idsUsed + 1 = replaced.idsUsed := hused.symm
      rw [hnext] at hsession hreplaced
      refine ⟨⟨?_, hreplaced⟩, ⟨?_, hdrawn.settled.bindings.trans hevolves⟩⟩
      · exact hsession.settle hmem' rfl (not_isPending_confirmedSession session now)
      · rw [← hkept']
        exact evolves_set_of_live hmem' rfl hpending

theorem Confirms.consumesOne {binding : TimedBinding} (h : Confirms ids store now binding store') :
    ConsumesOne store store' binding.deviceId now ∧ binding.IsActive ∧
      binding ∈ store'.bindings.rows := by
  cases h with
  | @intro session drawn replaced wanted binding hmem hpending hunexpired _ hsessions _ hdevice
      hreplaces =>
      obtain ⟨hactive, hbound, hsame, hkept, -⟩ := hreplaces.active
      refine ⟨⟨session, hmem, hpending, hunexpired, hsame.trans hdevice, ?_, fun other hother => ?_⟩,
        hactive, hbound⟩
      · exact mem_set.2 (Or.inl rfl)
      · have hrows : replaced.pairingSessions = store.pairingSessions := hkept.trans hsessions
        constructor
        · intro hafter
          rcases mem_set.1 hafter with rfl | ⟨hbefore, -⟩
          · exact absurd rfl hother
          · rwa [hrows] at hbefore
        · intro hbefore
          refine mem_set.2 (Or.inr ⟨?_, hother⟩)
          rwa [hrows]

/-! ## Runs -/

theorem step_keeps (ports : PairingPorts) (state : PairingState) (step : PairingStep)
    (h : SoundPairing ports.ids state.store) :
    KeepsPairing ports.ids state.store (state.step ports step).store := by
  cases step with
  | create command => exact .refl h
  | attempt index code now =>
      change KeepsPairing _ _ (state.attempt ports index code now).store
      unfold PairingState.attempt
      split
      · exact .refl h
      · split
        · exact createAttempt_keeps h
        · exact .refl h
  | confirm command protectedIdentity now =>
      change KeepsPairing _ _ (state.commit _).store
      cases hresult : confirm ports.ids state.store command (ports.hash command.displayCode)
          protectedIdentity now with
      | error error => exact .refl h
      | ok result => exact (confirm_confirms h hresult).keeps
  | cancel pairingSessionId =>
      exact transitionPending_keeps h pairingSessionId PairingStatus.noConfusion
  | expireDue now => exact expireLoop_keeps h _
  | unbind bindingId now =>
      change KeepsPairing _ _ (state.commit _).store
      cases hresult : unbind state.store bindingId now with
      | error error => exact .refl h
      | ok store => exact changeStatus_keeps h hresult
  | revoke bindingId now =>
      change KeepsPairing _ _ (state.commit _).store
      cases hresult : revoke state.store bindingId now with
      | error error => exact .refl h
      | ok store => exact changeStatus_keeps h hresult
  | directory devices channelAccounts identities =>
      exact ⟨⟨h.sessions, h.bindings⟩, ⟨.refl _, .refl _⟩⟩

theorem soundPairing_empty : SoundPairing ids {} where
  sessions := ⟨fun _ h => absurd h List.not_mem_nil, uniqueAmong_empty, uniqueAmong_empty⟩
  bindings := ⟨fun _ h => absurd h List.not_mem_nil, uniqueAmong_empty, uniqueAmong_empty⟩

theorem allStates_soundPairing (ports : PairingPorts) (steps : List PairingStep) :
    Run.AllStates (PairingState.step ports) (fun state => SoundPairing ports.ids state.store) {}
      steps :=
  Run.allStates_of_invariant (fun state step h => (step_keeps ports state step h).sound)
    soundPairing_empty

theorem settledStays_run (ports : PairingPorts) {state : PairingState}
    (h : SoundPairing ports.ids state.store) (steps : List PairingStep) :
    SettledStays state.store (Run.run (PairingState.step ports) state steps).store := by
  induction steps generalizing state with
  | nil => exact .refl _
  | cons step steps ih =>
      have hone := step_keeps ports state step h
      exact hone.settled.trans (ih hone.sound)

/-- In every state of every run bindings and pending sessions are unique, what was settled stays so, and
a successful confirmation consumes one pending, unexpired session of the device it binds. -/
theorem pairing_stays_unique (ports : PairingPorts) (steps : List PairingStep) :
    (∀ done, done <+: steps →
      PairingUnique (Run.run (PairingState.step ports) {} done).store) ∧
    (∀ done more, done ++ more <+: steps →
      SettledStays (Run.run (PairingState.step ports) {} done).store
        (Run.run (PairingState.step ports) {} (done ++ more)).store) ∧
    ∀ done, done <+: steps → ∀ command protectedIdentity now binding store',
      confirm ports.ids (Run.run (PairingState.step ports) {} done).store command
          (ports.hash command.displayCode) protectedIdentity now = .ok (binding, store') →
        ConsumesOne (Run.run (PairingState.step ports) {} done).store store' binding.deviceId now ∧
          binding.IsActive ∧ binding ∈ store'.bindings.rows := by
  have hsound := allStates_soundPairing ports steps
  refine ⟨fun done hdone => (hsound done hdone).unique, fun done more hpre => ?_,
    fun done hdone command protectedIdentity now binding store' hok => ?_⟩
  · rw [Run.run_append]
    exact settledStays_run ports (hsound done ((List.prefix_append done more).trans hpre)) more
  · exact (confirm_confirms (hsound done hdone) hok).consumesOne

end Transactions

end VoiceLife.Gateway.Pairing
