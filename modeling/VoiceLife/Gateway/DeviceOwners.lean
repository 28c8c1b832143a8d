import VoiceLife.Gateway.DeviceCredentials

/-! # Pairing respects who owns a device

A pairing session and its confirmation come from different people at different times, and in between the
device can be revoked or another session can be opened. Whatever the order: a session waits for a
confirmation only while its device is registered and active, and every binding of a device, whether in
use or ended, names the owner of the device.
-/

namespace VoiceLife.Gateway.Pairing

open DecimalText (Text)
open KeyTable

/-- The session can be confirmed: its device is active, and for no one but its owner. -/
def PairingSession.BelongsTo (devices : KeyTable ImDevice) (session : PairingSession) : Prop :=
  ∃ device ∈ devices.rows, device.deviceId = session.deviceId ∧ device.status = .active ∧
    (session.userId = none ∨ session.userId = some device.userId)

/-- The binding names the owner of its device. -/
def TimedBinding.NamesOwner (devices : KeyTable ImDevice) (binding : TimedBinding) : Prop :=
  ∀ deviceId, binding.deviceId = some deviceId →
    ∃ device ∈ devices.rows, device.deviceId = deviceId ∧ device.userId = binding.userId

/-- Sessions and bindings respect who owns a device. -/
structure OwnedPairing (store : PairingStore) : Prop where
  sessions : ∀ session ∈ store.pairingSessions.rows, session.IsPending → session.BelongsTo store.devices
  bindings : ∀ binding ∈ store.bindings.rows, binding.NamesOwner store.devices

/-- What a transaction of pairing does to the devices and to the invariant. -/
structure KeepsOwners (store store' : PairingStore) : Prop where
  devices : store'.devices = store.devices
  owned : OwnedPairing store → OwnedPairing store'

section Transactions

variable {store store' : PairingStore}

theorem KeepsOwners.refl (store : PairingStore) : KeepsOwners store store :=
  ⟨rfl, id⟩

theorem KeepsOwners.trans {store'' : PairingStore} (h : KeepsOwners store store')
    (h' : KeepsOwners store' store'') : KeepsOwners store store'' :=
  ⟨h'.devices.trans h.devices, fun howned => h'.owned (h.owned howned)⟩

/-! ## Sessions that end and bindings that end -/

/-- A session is written that is not pending. -/
theorem keepsOwners_settle {session : PairingSession} (hdead : ¬ session.IsPending) :
    KeepsOwners store { store with pairingSessions := store.pairingSessions.set session } where
  devices := rfl
  owned h :=
    { sessions := by
        intro other hother hpending
        rcases mem_set.1 hother with rfl | ⟨hold, -⟩
        · exact absurd hpending hdead
        · exact h.sessions other hold hpending
      bindings := h.bindings }

theorem transitionPending_keepsOwners (id : PairingSessionId) {status : PairingStatus}
    (hstatus : status ≠ .pending) : KeepsOwners store (store.transitionPending id status).2 := by
  unfold PairingStore.transitionPending
  split
  · exact .refl store
  · split_ifs
    · exact keepsOwners_settle hstatus
    · exact .refl store

theorem expireLoop_keepsOwners (sessions : List PairingSession) :
    KeepsOwners store (expireLoop store sessions).2 := by
  induction sessions generalizing store with
  | nil => exact .refl store
  | cons session sessions ih =>
      exact (transitionPending_keepsOwners session.id PairingStatus.noConfusion).trans ih

theorem changeStatus_keepsOwners {bindingId : BindingId} {ending : BindingEnd} {now : IsoDateTime}
    (hchanged : changeStatus store bindingId ending now = .ok store') : KeepsOwners store store' := by
  unfold changeStatus at hchanged
  split at hchanged
  · cases hchanged
  · next binding hfound =>
      obtain ⟨hmem, -⟩ := get?_eq_some.1 hfound
      split_ifs at hchanged
      · cases hchanged
        exact .refl store
      · cases hchanged
        refine ⟨rfl, fun h => ⟨h.sessions, fun other hother => ?_⟩⟩
        rcases mem_set.1 hother with rfl | ⟨hold, -⟩
        · have hnames := h.bindings binding hmem
          cases ending <;> exact hnames
        · exact h.bindings other hold

/-! ## Sessions that begin -/

theorem createTransaction_owner {command : CreatePairingSessionCommand} {session : PairingSession}
    {created : Bool} (h : createTransaction store command session = .ok (created, store')) :
    ∃ device ∈ store.devices.rows, device.deviceId = command.deviceId ∧ device.status = .active ∧
      (command.userId = none ∨ command.userId = some device.userId) := by
  unfold createTransaction at h
  split at h
  · cases h
  · next device hfound =>
      obtain ⟨hmem, hkey⟩ := get?_eq_some.1 hfound
      split_ifs at h with hstatus huser
      refine ⟨device, hmem, hkey, not_not.1 hstatus, ?_⟩
      rw [not_and_or, not_not, not_not] at huser
      exact huser

theorem cancelPendingByDevice_keepsOwners (store : PairingStore) (deviceId : DeviceId) :
    KeepsOwners store (store.cancelPendingByDevice deviceId) where
  devices := rfl
  owned h :=
    { sessions := by
        intro session hsession hpending
        obtain ⟨hold, -⟩ := mem_of_isPending_cancelPendingByDevice hsession hpending
        exact h.sessions session hold hpending
      bindings := h.bindings }

theorem createTransaction_keepsOwners {command : CreatePairingSessionCommand}
    {session : PairingSession} (huser : session.userId = command.userId)
    (hdevice : session.deviceId = command.deviceId) {created : Bool}
    (hcreated : createTransaction store command session = .ok (created, store')) :
    KeepsOwners store store' := by
  obtain ⟨device, hmem, hkey, hstatus, howner⟩ := createTransaction_owner hcreated
  have hresult := createTransaction_eq_ok hcreated
  -- the older sessions of the device are cancelled before the new one is stored
  have hcancelled := cancelPendingByDevice_keepsOwners store command.deviceId
  unfold PairingStore.createPendingIfAbsent at hresult
  split_ifs at hresult
  · cases hresult
    exact hcancelled
  · cases hresult
    refine hcancelled.trans ⟨rfl, fun h => ⟨fun other hother hpending => ?_, h.bindings⟩⟩
    rcases mem_set.1 hother with rfl | ⟨hold, -⟩
    · refine ⟨device, hmem, hkey.trans hdevice.symm, hstatus, ?_⟩
      rw [huser]
      exact howner
    · exact h.sessions other hold hpending

theorem nextId_keepsOwners (store : PairingStore) (ids : IdGenerator) :
    KeepsOwners store (store.nextId ids).2 :=
  ⟨rfl, fun h => ⟨h.sessions, h.bindings⟩⟩

theorem createAttempt_keepsOwners (ids : IdGenerator) (addMinutes : AddMinutes)
    (command : CreatePairingSessionCommand) (attempt : ℕ) (code : IssuedCode) (now : IsoDateTime) :
    KeepsOwners store (createAttempt ids addMinutes store command attempt code now).2 := by
  unfold createAttempt
  dsimp only
  have hdrawn := nextId_keepsOwners store ids
  split
  · exact hdrawn
  · next hcreated => exact hdrawn.trans (createTransaction_keepsOwners rfl rfl hcreated)
  · next hcreated => exact hdrawn.trans (createTransaction_keepsOwners rfl rfl hcreated)

/-! ## Confirmations -/

theorem userToConfirm_eq_ok {session : PairingSession} {given : Option UserId} {userId : UserId}
    (h : userToConfirm store session given = .ok userId) :
    ∃ device ∈ store.devices.rows, device.deviceId = session.deviceId ∧ device.status = .active ∧
      device.userId = userId := by
  unfold userToConfirm at h
  split_ifs at h
  · cases h
  · split at h
    · cases h
    · split at h
      · cases h
      · next device hfound =>
          obtain ⟨hmem, hkey⟩ := get?_eq_some.1 hfound
          split_ifs at h with hdevice
          · cases h
          · rw [not_or, not_not, not_not] at hdevice
            cases h
            exact ⟨device, hmem, hkey, hdevice.1, hdevice.2⟩

/-- Looking for the identity of a confirmation leaves devices, sessions and bindings alone. -/
theorem identityToConfirm_leaves {ids : IdGenerator} {account : PlatformAccount}
    {protectedIdentity : ProtectedExternalIdentity} {displayName : Option JsString} {now : IsoDateTime}
    {identity : ProtectedIdentity}
    (h : identityToConfirm ids store account protectedIdentity displayName now =
      .ok (identity, store')) :
    store'.devices = store.devices ∧ store'.pairingSessions = store.pairingSessions ∧
      store'.bindings = store.bindings := by
  unfold identityToConfirm PairingStore.createIdentityIfAbsent at h
  cases hfound : store.findByChannelAndHash account.id protectedIdentity.hash with
  | some existing =>
      simp only [hfound] at h
      split_ifs at h
      · cases h
      · cases h
        exact ⟨rfl, rfl, rfl⟩
  | none =>
      have hstill : (store.nextId ids).2.findByChannelAndHash account.id protectedIdentity.hash =
          none := hfound
      simp only [hfound, hstill] at h
      split_ifs at h
      · cases h
      · cases h
        exact ⟨rfl, rfl, rfl⟩

/-- The binding in use after a replacement names the user who wanted it, and the others are as before
up to their end. -/
theorem replaceActiveBinding_owner {binding bound : TimedBinding}
    (h : store.replaceActiveBinding binding = .ok (bound, store')) :
    bound.userId = binding.userId ∧ bound.deviceId = binding.deviceId ∧
      store'.devices = store.devices ∧ store'.pairingSessions = store.pairingSessions ∧
        ∀ devices, binding.NamesOwner devices →
          (∀ other ∈ store.bindings.rows, other.NamesOwner devices) →
            ∀ other ∈ store'.bindings.rows, other.NamesOwner devices := by
  unfold PairingStore.replaceActiveBinding at h
  split at h
  · cases h
  · split at h
    · next existing hfound =>
        cases h
        have hsame := List.find?_some hfound
        rw [decide_eq_true_eq] at hsame
        exact ⟨hsame.2.1, hsame.2.2.1, rfl, rfl, fun _ _ hold => hold⟩
    · cases h
      refine ⟨rfl, rfl, rfl, rfl, fun devices hnames hold other hother => ?_⟩
      rcases mem_set.1 hother with rfl | ⟨hkept, -⟩
      · exact hnames
      · obtain ⟨before, hbefore, rfl⟩ :=
          (mem_setAll_map (f := PairingStore.unboundAt binding.boundAt) fun _ => rfl).1 hkept
        have hnames' := hold before hbefore
        split_ifs <;> exact hnames'

/-- A confirmation binds an active device for its owner. -/
theorem confirm_owner {ids : IdGenerator} {command : ConfirmPairingCommand} {codeHash : JsString}
    {protectedIdentity : ProtectedExternalIdentity} {now : IsoDateTime} {binding : TimedBinding}
    (hok : confirm ids store command codeHash protectedIdentity now = .ok (binding, store')) :
    KeepsOwners store store' ∧ ∃ device ∈ store.devices.rows, device.status = .active ∧
      binding.deviceId = some device.deviceId ∧ binding.userId = device.userId := by
  unfold confirm at hok
  obtain ⟨session, hsession, hok⟩ := exists_of_bind_eq_ok hok
  obtain ⟨account, -, hok⟩ := exists_of_bind_eq_ok hok
  obtain ⟨userId, huser, hok⟩ := exists_of_bind_eq_ok hok
  obtain ⟨⟨identity, drawn⟩, hidentity, hok⟩ := exists_of_bind_eq_ok hok
  obtain ⟨⟨bound, replaced⟩, hreplaced, hok⟩ := exists_of_bind_eq_ok hok
  cases hok
  obtain ⟨device, hmem, hkey, hstatus, howner⟩ := userToConfirm_eq_ok huser
  obtain ⟨hdevices, hsessions, hbindings⟩ := identityToConfirm_leaves hidentity
  obtain ⟨hbound, hboundDevice, hdevices', hsessions', hnames⟩ := replaceActiveBinding_owner hreplaced
  -- the session and the device that it read are still those of the first store
  have hkept : replaced.devices = store.devices := hdevices'.trans hdevices
  constructor
  · have hreplace : KeepsOwners store replaced := by
      refine ⟨hkept, fun h => ⟨fun other hother hpending => ?_, fun other hother => ?_⟩⟩
      · rw [hsessions'.trans hsessions] at hother
        rw [hkept]
        exact h.sessions other hother hpending
      · rw [hkept]
        refine hnames store.devices ?_ ?_ other hother
        · rintro deviceId heq
          cases heq
          exact ⟨device, hmem, hkey, howner⟩
        · intro before hbefore
          have hbefore : before ∈ drawn.bindings.rows := hbefore
          rw [hbindings] at hbefore
          exact h.bindings before hbefore
    exact hreplace.trans (keepsOwners_settle (not_isPending_confirmedSession session now))
  · refine ⟨device, hmem, hstatus, ?_, hbound.trans howner.symm⟩
    rw [hkey]
    exact hboundDevice

/-- A step of pairing that leaves the devices alone respects their owners. -/
theorem step_keepsOwners (ports : PairingPorts) (state : PairingState) (step : PairingStep)
    {devices : KeyTable DeviceRow} (hdevices : state.store.devices = deviceDirectory devices) :
    KeepsOwners state.store (state.step ports (step.within devices)).store := by
  cases step with
  | create command => exact .refl _
  | attempt index code now =>
      change KeepsOwners _ (state.attempt ports index code now).store
      unfold PairingState.attempt
      split
      · exact .refl _
      · split
        · exact createAttempt_keepsOwners _ _ _ _ _ _
        · exact .refl _
  | confirm command protectedIdentity now =>
      change KeepsOwners _ (state.commit _).store
      cases hresult : confirm ports.ids state.store command (ports.hash command.displayCode)
          protectedIdentity now with
      | error error => exact .refl _
      | ok result => exact (confirm_owner hresult).1
  | cancel pairingSessionId => exact transitionPending_keepsOwners _ PairingStatus.noConfusion
  | expireDue now => exact expireLoop_keepsOwners _
  | unbind bindingId now =>
      change KeepsOwners _ (state.commit _).store
      cases hresult : unbind state.store bindingId now with
      | error error => exact .refl _
      | ok store => exact changeStatus_keepsOwners hresult
  | revoke bindingId now =>
      change KeepsOwners _ (state.commit _).store
      cases hresult : revoke state.store bindingId now with
      | error error => exact .refl _
      | ok store => exact changeStatus_keepsOwners hresult
  | directory _ channelAccounts identities =>
      -- the devices that are handed over are those that pairing has already
      refine ⟨hdevices.symm, fun h => ⟨?_, ?_⟩⟩
      · have hsessions := h.sessions
        rw [hdevices] at hsessions
        exact hsessions
      · have hbindings := h.bindings
        rw [hdevices] at hbindings
        exact hbindings

end Transactions

/-! ## The table of devices changes -/

section Devices

variable {sha256 : Text → Digest} {devices devices' : KeyTable DeviceRow} {store store' : PairingStore}

theorem mem_deviceDirectory {device : ImDevice} :
    device ∈ (deviceDirectory devices).rows ↔ ∃ row ∈ devices.rows, row.toImDevice = device :=
  List.mem_map

/-- The owners and the active devices of before are there. -/
theorem OwnedPairing.grow (h : OwnedPairing store) (hdirectory : store.devices = deviceDirectory devices)
    (hgrow : ∀ old ∈ devices.rows, ∃ row ∈ devices'.rows, row.deviceId = old.deviceId ∧
      row.userId = old.userId ∧ (old.status = .active → row.status = .active ∨
        ∀ session ∈ store.pairingSessions.rows, session.IsPending → session.deviceId ≠ old.deviceId)) :
    OwnedPairing { store with devices := deviceDirectory devices' } where
  sessions := by
    intro session hsession hpending
    obtain ⟨device, hdevice, hkey, hstatus, howner⟩ := h.sessions session hsession hpending
    rw [hdirectory] at hdevice
    obtain ⟨old, hold, rfl⟩ := mem_deviceDirectory.1 hdevice
    obtain ⟨row, hrow, hkey', howner', hactive⟩ := hgrow old hold
    rcases hactive hstatus with hactive | hnone
    · refine ⟨row.toImDevice, mem_deviceDirectory.2 ⟨row, hrow, rfl⟩, hkey'.trans hkey, hactive, ?_⟩
      rw [howner']
      exact howner
    · exact absurd hkey.symm (hnone session hsession hpending)
  bindings := by
    intro binding hbinding deviceId hdeviceId
    obtain ⟨device, hdevice, hkey, howner⟩ := h.bindings binding hbinding deviceId hdeviceId
    rw [hdirectory] at hdevice
    obtain ⟨old, hold, rfl⟩ := mem_deviceDirectory.1 hdevice
    obtain ⟨row, hrow, hkey', howner', -⟩ := hgrow old hold
    exact ⟨row.toImDevice, mem_deviceDirectory.2 ⟨row, hrow, rfl⟩, hkey'.trans hkey, howner'.trans howner⟩

theorem OwnedPairing.attempts (h : OwnedPairing store)
    (hdirectory : store.devices = deviceDirectory devices) {token : JsString} {phase : DevicePhase}
    (hattempts : Attempts sha256 devices token phase devices') :
    OwnedPairing { store with devices := deviceDirectory devices' } := by
  refine h.grow hdirectory fun old hold => ?_
  cases hattempts with
  | nothing _ => exact ⟨old, hold, rfl, rfl, Or.inl⟩
  | issued row hstatus _ _ hsame =>
      by_cases hkey : old.deviceId = row.deviceId
      · refine ⟨row, mem_set.2 (Or.inl rfl), hkey.symm, ?_, fun _ => Or.inl hstatus⟩
        exact (hsame old hold hkey).2.symm
      · exact ⟨old, mem_set.2 (Or.inr ⟨hold, hkey⟩), rfl, rfl, Or.inl⟩

theorem OwnedPairing.revokes (h : OwnedPairing store)
    (hdirectory : store.devices = deviceDirectory devices) {deviceId : DeviceId}
    (hrevokes : Revokes devices store deviceId devices' store') :
    OwnedPairing { store' with devices := deviceDirectory devices' } := by
  cases hrevokes with
  | before hmem hkey hstatus => exact h.grow hdirectory fun old hold => ⟨old, hold, rfl, rfl, Or.inl⟩
  | @now device row hmem hkey hsame howner hdigest hstatus =>
      -- the sessions that wait for the device end in the same transaction as its row
      have hcancelled := (cancelPendingByDevice_keepsOwners store deviceId).owned h
      refine hcancelled.grow hdirectory fun old hold => ?_
      by_cases hold' : old.deviceId = row.deviceId
      · refine ⟨row, mem_set.2 (Or.inl rfl), hold'.symm, ?_, fun _ => Or.inr ?_⟩
        · rw [devices.eq_of_key_eq hold hmem (hold'.trans hsame), howner]
        · intro session hsession hpending
          rw [hold', hsame, hkey]
          exact (mem_of_isPending_cancelPendingByDevice hsession hpending).2
      · exact ⟨old, mem_set.2 (Or.inr ⟨hold, hold'⟩), rfl, rfl, Or.inl⟩

theorem SoundPairing.revokes {ids : IdGenerator} (h : SoundPairing ids store) {deviceId : DeviceId}
    (hrevokes : Revokes devices store deviceId devices' store') : SoundPairing ids store' := by
  cases hrevokes with
  | before hmem hkey hstatus => exact h
  | now hmem hkey hsame howner hdigest hstatus =>
      exact ⟨h.sessions.cancelPendingByDevice deviceId, h.bindings⟩

end Devices

/-! ## Runs -/

/-- The invariant of devices and pairing together. -/
structure SoundRegistry (sha256 : Text → Digest) (ids : IdGenerator) (state : RegistryState) :
    Prop where
  devices : SoundDevices sha256 state.devices state.history
  directory : state.pairing.store.devices = deviceDirectory state.devices
  pairing : SoundPairing ids state.pairing.store
  owned : OwnedPairing state.pairing.store

variable {sha256 : Text → Digest}

theorem attempt_directory {ids : IdGenerator} {state : RegistryState}
    (h : SoundRegistry sha256 ids state) (index : ℕ) (token : JsString) (now : IsoDateTime) :
    (state.attempt sha256 index token now).pairing.store.devices =
        deviceDirectory (state.attempt sha256 index token now).devices ∧
      SoundPairing ids (state.attempt sha256 index token now).pairing.store ∧
        OwnedPairing (state.attempt sha256 index token now).pairing.store := by
  unfold RegistryState.attempt
  split
  · exact ⟨h.directory, h.pairing, h.owned⟩
  · next call _ =>
      split
      · next attempt _ =>
          have hattempts : Attempts sha256 state.devices token _ _ :=
            tokenAttempt_attempts state.devices token now call.request attempt
          exact ⟨rfl, ⟨h.pairing.sessions, h.pairing.bindings⟩,
            h.owned.attempts h.directory hattempts⟩
      · exact ⟨h.directory, h.pairing, h.owned⟩

theorem revoke_directory {ids : IdGenerator} {state : RegistryState}
    (h : SoundRegistry sha256 ids state) (deviceIdValue : JsString) (now : IsoDateTime) :
    (state.revoke deviceIdValue now).pairing.store.devices =
        deviceDirectory (state.revoke deviceIdValue now).devices ∧
      SoundPairing ids (state.revoke deviceIdValue now).pairing.store ∧
        OwnedPairing (state.revoke deviceIdValue now).pairing.store := by
  unfold RegistryState.revoke
  split
  · exact ⟨h.directory, h.pairing, h.owned⟩
  · split
    · exact ⟨h.directory, h.pairing, h.owned⟩
    · next hrevoked =>
        have hrevokes := revokeDevice_revokes hrevoked
        have hsound := h.pairing.revokes hrevokes
        exact ⟨rfl, ⟨hsound.sessions, hsound.bindings⟩, h.owned.revokes h.directory hrevokes⟩

theorem step_soundRegistry (ports : PairingPorts) (state : RegistryState) (step : RegistryStep)
    (h : SoundRegistry sha256 ports.ids state) :
    SoundRegistry sha256 ports.ids (state.step sha256 ports step) := by
  have hdevices := (step_registers ports state step).sound h.devices
  cases step with
  | create userIdValue deviceIdValue => exact ⟨hdevices, h.directory, h.pairing, h.owned⟩
  | rotateToken deviceIdValue => exact ⟨hdevices, h.directory, h.pairing, h.owned⟩
  | attempt index token now =>
      obtain ⟨hdirectory, hpairing, howned⟩ := attempt_directory h index token now
      exact ⟨hdevices, hdirectory, hpairing, howned⟩
  | revoke deviceIdValue now =>
      obtain ⟨hdirectory, hpairing, howned⟩ := revoke_directory h deviceIdValue now
      exact ⟨hdevices, hdirectory, hpairing, howned⟩
  | pairing step =>
      have hkeeps := step_keepsOwners ports state.pairing step h.directory
      have hpairing := step_keeps ports state.pairing (step.within state.devices) h.pairing
      exact ⟨hdevices, hkeeps.devices.trans h.directory, hpairing.sound, hkeeps.owned h.owned⟩

theorem soundRegistry_empty (ids : IdGenerator) : SoundRegistry sha256 ids {} where
  devices := soundDevices_empty
  directory := rfl
  pairing := soundPairing_empty
  owned := ⟨fun _ h => absurd h List.not_mem_nil, fun _ h => absurd h List.not_mem_nil⟩

theorem allStates_soundRegistry (sha256 : Text → Digest) (ports : PairingPorts)
    (steps : List RegistryStep) :
    Run.AllStates (RegistryState.step sha256 ports) (SoundRegistry sha256 ports.ids) {} steps :=
  Run.allStates_of_invariant (fun state step h => step_soundRegistry ports state step h)
    (soundRegistry_empty ports.ids)

/-- A device that has been revoked is in the directory without being active. -/
theorem SoundRegistry.not_revoked {ids : IdGenerator} {state : RegistryState}
    (h : SoundRegistry sha256 ids state) {device : ImDevice}
    (hdevice : device ∈ state.pairing.store.devices.rows) (hstatus : device.status = .active) :
    .revoked device.deviceId ∉ state.history := by
  rw [h.directory] at hdevice
  obtain ⟨row, hrow, rfl⟩ := mem_deviceDirectory.1 hdevice
  exact (h.devices.status row hrow).1 hstatus

/-- In every state of every run sessions and bindings respect who owns a device: no session waits for a
confirmation on a device that has been revoked, and a confirmation that succeeds binds a device that has
not been revoked, for its owner. -/
theorem pairing_respects_owners (ports : PairingPorts) (steps : List RegistryStep) :
    Run.AllStates (RegistryState.step sha256 ports) (fun state =>
      OwnedPairing state.pairing.store ∧ PairingUnique state.pairing.store ∧
      (∀ session ∈ state.pairing.store.pairingSessions.rows, session.IsPending →
        .revoked session.deviceId ∉ state.history) ∧
      ∀ command protectedIdentity now binding store',
        confirm ports.ids state.pairing.store command (ports.hash command.displayCode)
            protectedIdentity now = .ok (binding, store') →
          ∃ row ∈ state.devices.rows, binding.deviceId = some row.deviceId ∧
            binding.userId = row.userId ∧ .revoked row.deviceId ∉ state.history) {} steps := by
  intro done hdone
  have hsound := allStates_soundRegistry sha256 ports steps done hdone
  refine ⟨hsound.owned, hsound.pairing.unique, fun session hsession hpending => ?_,
    fun command protectedIdentity now binding store' hok => ?_⟩
  · obtain ⟨device, hdevice, hkey, hstatus, -⟩ := hsound.owned.sessions session hsession hpending
    rw [← hkey]
    exact hsound.not_revoked hdevice hstatus
  · obtain ⟨-, device, hdevice, hstatus, hbound, howner⟩ := confirm_owner hok
    have hactive := hsound.not_revoked hdevice hstatus
    rw [hsound.directory] at hdevice
    obtain ⟨row, hrow, rfl⟩ := mem_deviceDirectory.1 hdevice
    exact ⟨row, hrow, hbound, howner, hactive⟩

end VoiceLife.Gateway.Pairing
