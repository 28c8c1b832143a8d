import VoiceLife.Gateway.DeviceManagement

/-! # The credential of a device is the last token issued for it

Devices are created, get new tokens and are revoked in any order, and other transactions come between the
attempts of a call. In every state a request is let in exactly with the last token that was issued for a
device, until the device is revoked: then no token lets anyone in any more, and none is issued. The owner
of a device stays the same.
-/

namespace VoiceLife.Gateway.Pairing

open DecimalText (Text)
open KeyTable

variable {sha256 : Text → Digest}

/-! ## Tokens -/

theorem isAscii_of_isTokenUnit {unit : CodeUnit} (h : isTokenUnit unit = true) :
    isAscii unit = true := by
  simp only [isTokenUnit, Bool.or_eq_true, Bool.and_eq_true, decide_eq_true_eq, Fin.le_def] at h
  refine decide_eq_true ?_
  rcases h with (((⟨-, h⟩ | ⟨-, h⟩) | ⟨-, h⟩) | rfl) | rfl
  · exact h.trans_lt (by decide)
  · exact h.trans_lt (by decide)
  · exact h.trans_lt (by decide)
  · decide
  · decide

/-- The authentication encodes a token as UTF-8 and the issuing one as ASCII, which are the same bytes. -/
theorem sha256_utf8_eq_tokenDigest {token : JsString} (h : isToken token = true) :
    sha256 (utf8 token) = tokenDigest sha256 token := by
  have hascii : ∀ unit ∈ token, isAscii unit = true := by
    intro unit hunit
    exact isAscii_of_isTokenUnit (List.all_eq_true.1 (Bool.and_eq_true_iff.1 h).2 unit hunit)
  rw [utf8_of_ascii hascii]
  rfl

theorem isToken_of_bearerToken {authorization token : JsString}
    (h : bearerToken authorization = some token) : isToken token = true := by
  unfold bearerToken at h
  split_ifs at h with hbearer
  cases h
  exact hbearer.2

/-! ## What the operator has been told -/

/-- The owner and the token that an event gives to a device. -/
def DeviceEvent.grant (deviceId : DeviceId) : DeviceEvent → Option (UserId × JsString)
  | .issued device userId deviceToken => if device = deviceId then some (userId, deviceToken) else none
  | .revoked _ => none

/-- The owner and the token that the device was given last. -/
def lastGrant (history : List DeviceEvent) (deviceId : DeviceId) : Option (UserId × JsString) :=
  history.reverse.findSome? (DeviceEvent.grant deviceId)

/-- What may follow an event: a device keeps its owner, and a revoked one gets no token. -/
def DeviceEvent.Allows : DeviceEvent → DeviceEvent → Prop
  | .issued deviceId userId _, .issued deviceId' userId' _ => deviceId' = deviceId → userId' = userId
  | .revoked deviceId, .issued deviceId' _ _ => deviceId' ≠ deviceId
  | _, .revoked _ => True

/-- The row belongs to the device of an event. -/
def DeviceEvent.Concerns (row : DeviceRow) : DeviceEvent → Prop
  | .issued deviceId userId _ => row.deviceId = deviceId ∧ row.userId = userId
  | .revoked deviceId => row.deviceId = deviceId

theorem lastGrant_concat (history : List DeviceEvent) (event : DeviceEvent) (deviceId : DeviceId) :
    lastGrant (history ++ [event]) deviceId =
      (event.grant deviceId).or (lastGrant history deviceId) := by
  unfold lastGrant
  rw [List.reverse_append, List.reverse_singleton, List.singleton_append, List.findSome?_cons]
  cases event.grant deviceId <;> rfl

/-! ## The invariant -/

/-- The table holds what the operator has been told. -/
structure SoundDevices (sha256 : Text → Digest) (devices : KeyTable DeviceRow)
    (history : List DeviceEvent) : Prop where
  digests : ∀ row ∈ devices.rows, ∀ other ∈ devices.rows, row.tokenDigest = other.tokenDigest → row = other
  granted : ∀ row ∈ devices.rows, ∃ token,
    lastGrant history row.deviceId = some (row.userId, token) ∧ row.tokenDigest = tokenDigest sha256 token
  status : ∀ row ∈ devices.rows, row.status = .active ↔ .revoked row.deviceId ∉ history
  registered : ∀ event ∈ history, ∃ row ∈ devices.rows, event.Concerns row
  ordered : history.Pairwise DeviceEvent.Allows

section Invariant

variable {devices devices' : KeyTable DeviceRow} {history : List DeviceEvent} {row : DeviceRow}

theorem soundDevices_empty : SoundDevices sha256 .empty [] where
  digests := fun _ h => absurd h List.not_mem_nil
  granted := fun _ h => absurd h List.not_mem_nil
  status := fun _ h => absurd h List.not_mem_nil
  registered := fun _ h => absurd h List.not_mem_nil
  ordered := .nil

/-- A row with the owner of the row that it replaces concerns the same events. -/
theorem DeviceEvent.Concerns.replace {event : DeviceEvent} {old : DeviceRow} (h : event.Concerns old)
    (hkey : old.deviceId = row.deviceId) (howner : old.userId = row.userId) : event.Concerns row := by
  cases event with
  | issued deviceId userId token => exact ⟨hkey.symm.trans h.1, howner.symm.trans h.2⟩
  | revoked deviceId => exact hkey.symm.trans h

/-- Events stay registered when a row is written that keeps the owner of its device. -/
theorem SoundDevices.registered_set (h : SoundDevices sha256 devices history)
    (howner : ∀ old ∈ devices.rows, old.deviceId = row.deviceId → old.userId = row.userId)
    {event : DeviceEvent} (hevent : event ∈ history) :
    ∃ row' ∈ (devices.set row).rows, event.Concerns row' := by
  obtain ⟨old, hold, hconcerns⟩ := h.registered event hevent
  by_cases hkey : old.deviceId = row.deviceId
  · exact ⟨row, mem_set.2 (Or.inl rfl), hconcerns.replace hkey (howner old hold hkey)⟩
  · exact ⟨old, mem_set.2 (Or.inr ⟨hold, hkey⟩), hconcerns⟩

/-- A device without a row, or with an active one, has not been revoked. -/
theorem SoundDevices.not_revoked (h : SoundDevices sha256 devices history) {deviceId : DeviceId}
    (hactive : ∀ old ∈ devices.rows, old.deviceId = deviceId → old.status = .active) :
    .revoked deviceId ∉ history := by
  intro hrevoked
  obtain ⟨old, hold, hkey⟩ := h.registered _ hrevoked
  have hkey : old.deviceId = deviceId := hkey
  have hnot := (h.status old hold).1 (hactive old hold hkey)
  rw [hkey] at hnot
  exact hnot hrevoked

/-- Digests stay different when a row is written whose digest no other device has. -/
theorem SoundDevices.digests_set (h : SoundDevices sha256 devices history)
    (hfresh : ∀ other ∈ devices.rows, other.deviceId ≠ row.deviceId →
      other.tokenDigest ≠ row.tokenDigest) :
    ∀ first ∈ (devices.set row).rows, ∀ second ∈ (devices.set row).rows,
      first.tokenDigest = second.tokenDigest → first = second := by
  intro first hfirst second hsecond heq
  rcases mem_set.1 hfirst with hfirst | ⟨hfirst, hne⟩ <;>
    rcases mem_set.1 hsecond with hsecond | ⟨hsecond, hne'⟩
  · rw [hfirst, hsecond]
  · rw [hfirst] at heq
    exact absurd heq.symm (hfresh second hsecond hne')
  · rw [hsecond] at heq
    exact absurd heq (hfresh first hfirst hne)
  · exact h.digests first hfirst second hsecond heq

/-- A token is issued: the row is new, or takes the place of an active one with the same owner. -/
theorem SoundDevices.issue (h : SoundDevices sha256 devices history) {token : JsString}
    (hstatus : row.status = .active) (hdigest : row.tokenDigest = tokenDigest sha256 token)
    (hfresh : ∀ other ∈ devices.rows, other.deviceId ≠ row.deviceId →
      other.tokenDigest ≠ row.tokenDigest)
    (hold : ∀ old ∈ devices.rows, old.deviceId = row.deviceId →
      old.status = .active ∧ old.userId = row.userId) :
    SoundDevices sha256 (devices.set row)
      (history ++ [DeviceEvent.issued row.deviceId row.userId token]) where
  digests := h.digests_set hfresh
  granted := by
    intro other hother
    rw [lastGrant_concat]
    rcases mem_set.1 hother with rfl | ⟨hother, hne⟩
    · refine ⟨token, ?_, hdigest⟩
      rw [DeviceEvent.grant, if_pos rfl, Option.some_or]
    · have hne : row.deviceId ≠ other.deviceId := Ne.symm hne
      rw [DeviceEvent.grant, if_neg hne, Option.none_or]
      exact h.granted other hother
  status := by
    intro other hother
    have hevents : DeviceEvent.revoked other.deviceId ∉
        history ++ [DeviceEvent.issued row.deviceId row.userId token] ↔
        DeviceEvent.revoked other.deviceId ∉ history := by
      rw [List.mem_append, List.mem_singleton, or_iff_left DeviceEvent.noConfusion]
    rw [hevents]
    rcases mem_set.1 hother with rfl | ⟨hother, -⟩
    · exact iff_of_true hstatus (h.not_revoked fun old hmem hkey => (hold old hmem hkey).1)
    · exact h.status other hother
  registered := by
    intro event hevent
    rcases List.mem_append.1 hevent with hevent | hevent
    · exact h.registered_set (fun old hmem hkey => (hold old hmem hkey).2) hevent
    · obtain rfl := List.mem_singleton.1 hevent
      exact ⟨row, mem_set.2 (Or.inl rfl), rfl, rfl⟩
  ordered := by
    refine List.pairwise_append.2 ⟨h.ordered, List.pairwise_singleton _ _, fun event hevent later hlater => ?_⟩
    obtain rfl := List.mem_singleton.1 hlater
    obtain ⟨old, hmem, hconcerns⟩ := h.registered event hevent
    cases event with
    | issued deviceId userId token' =>
        intro hkey
        -- an earlier event of this device was registered by the row that is replaced
        rw [← hconcerns.2]
        exact (hold old hmem (hconcerns.1.trans hkey.symm)).2.symm
    | revoked deviceId =>
        intro hkey
        refine h.not_revoked (fun old hmem hsame => (hold old hmem hsame).1) ?_
        rw [hkey]
        exact hevent

/-- A device is revoked, or was so before. -/
theorem SoundDevices.revoke (h : SoundDevices sha256 devices history) {device : DeviceRow}
    (hmem : device ∈ devices.rows) (hkey : row.deviceId = device.deviceId)
    (howner : row.userId = device.userId) (hdigest : row.tokenDigest = device.tokenDigest)
    (hstatus : row.status = .revoked) :
    SoundDevices sha256 (devices.set row) (history ++ [DeviceEvent.revoked row.deviceId]) where
  digests := by
    -- the row keeps its digest, so another one with it would be the row itself
    refine h.digests_set fun other hother hne heq => hne ?_
    rw [h.digests other hother device hmem (heq.trans hdigest), hkey]
  granted := by
    intro other hother
    rw [lastGrant_concat, DeviceEvent.grant, Option.none_or]
    rcases mem_set.1 hother with rfl | ⟨hother, -⟩
    · rw [hkey, howner, hdigest]
      exact h.granted device hmem
    · exact h.granted other hother
  status := by
    intro other hother
    rw [List.mem_append, List.mem_singleton, DeviceEvent.revoked.injEq]
    rcases mem_set.1 hother with rfl | ⟨hother, hne⟩
    · rw [hstatus]
      exact iff_of_false ImDeviceStatus.noConfusion (not_not_intro (Or.inr rfl))
    · have hne : other.deviceId ≠ row.deviceId := hne
      rw [or_iff_left hne]
      exact h.status other hother
  registered := by
    intro event hevent
    rcases List.mem_append.1 hevent with hevent | hevent
    · refine h.registered_set (fun old hold hsame => ?_) hevent
      rw [devices.eq_of_key_eq hold hmem (hsame.trans hkey), howner]
    · obtain rfl := List.mem_singleton.1 hevent
      exact ⟨row, mem_set.2 (Or.inl rfl), rfl⟩
  ordered := by
    refine List.pairwise_append.2 ⟨h.ordered, List.pairwise_singleton _ _, fun event _ later hlater => ?_⟩
    obtain rfl := List.mem_singleton.1 hlater
    cases event <;> trivial

end Invariant

/-! ## One transaction -/

/-- What an attempt does: nothing, or it writes the row whose token it answers. -/
inductive Attempts (sha256 : Text → Digest) (devices : KeyTable DeviceRow) (token : JsString) :
    DevicePhase → KeyTable DeviceRow → Prop where
  | nothing {phase : DevicePhase} (hphase : ∀ summary answer, phase ≠ .answered summary answer) :
      Attempts sha256 devices token phase devices
  | issued (row : DeviceRow) (hstatus : row.status = .active)
      (hdigest : row.tokenDigest = tokenDigest sha256 token)
      (hfresh : ∀ other ∈ devices.rows, other.deviceId ≠ row.deviceId →
        other.tokenDigest ≠ row.tokenDigest)
      (hold : ∀ old ∈ devices.rows, old.deviceId = row.deviceId →
        old.status = .active ∧ old.userId = row.userId) :
      Attempts sha256 devices token (.answered row.toDeviceSummary token) (devices.set row)

theorem nextTokenAttempt_ne_answered (attempt : ℕ) (summary : DeviceSummary) (answer : JsString) :
    nextTokenAttempt attempt ≠ .answered summary answer := by
  unfold nextTokenAttempt
  split_ifs <;> exact DevicePhase.noConfusion

section Transactions

variable (devices : KeyTable DeviceRow) (token : JsString) (now : IsoDateTime)

theorem createDevice_attempts (userId : UserId) (deviceId : DeviceId) (attempt : ℕ) :
    Attempts sha256 devices token
      (createDevice sha256 devices userId deviceId attempt token now).1
      (createDevice sha256 devices userId deviceId attempt token now).2 := by
  unfold createDevice insertDevice
  dsimp only
  split_ifs with hkey hdigest
  · exact .nothing fun _ _ => DevicePhase.noConfusion
  · exact .nothing (nextTokenAttempt_ne_answered attempt)
  -- no constraint fails: neither the device id nor the digest is taken
  · have hnew : ∀ other ∈ devices.rows, other.deviceId ≠ deviceId := by
      rw [Bool.not_eq_true, Option.isSome_eq_false_iff, Option.isNone_iff_eq_none] at hkey
      exact get?_eq_none.1 hkey
    refine .issued
      { deviceId, userId, status := .active, tokenDigest := tokenDigest sha256 token
        createdAt := now, updatedAt := now }
      rfl rfl (fun other hother _ heq => hdigest ?_) fun old hold hsame => ?_
    · exact List.any_eq_true.2 ⟨other, hother, decide_eq_true heq⟩
    · exact absurd hsame (hnew old hold)

theorem saveDevice_eq_ok {device row : DeviceRow} {devices' : KeyTable DeviceRow}
    (hmem : device ∈ devices.rows) (hkey : row.deviceId = device.deviceId)
    (h : saveDevice devices row = .ok devices') :
    (∀ other ∈ devices.rows, other.deviceId ≠ row.deviceId → other.tokenDigest ≠ row.tokenDigest) ∧
      devices' = devices.set { device with
        tokenDigest := row.tokenDigest, status := row.status, updatedAt := row.updatedAt } := by
  unfold saveDevice at h
  split_ifs at h with htaken
  · refine ⟨fun other hother hne heq => htaken ?_, ?_⟩
    · exact List.any_eq_true.2 ⟨other, hother, decide_eq_true ⟨hne, heq⟩⟩
    · have hfound : devices.get? row.deviceId = some device := get?_eq_some.2 ⟨hmem, hkey.symm⟩
      rw [hfound] at h
      exact (Except.ok.inj h).symm

theorem rotateToken_attempts (deviceId : DeviceId) (attempt : ℕ) :
    Attempts sha256 devices token
      (rotateToken sha256 devices deviceId attempt token now).1
      (rotateToken sha256 devices deviceId attempt token now).2 := by
  unfold rotateToken
  split
  · exact .nothing fun _ _ => DevicePhase.noConfusion
  · next device hfound =>
      obtain ⟨hmem, -⟩ := get?_eq_some.1 hfound
      split_ifs with hstatus
      · exact .nothing fun _ _ => DevicePhase.noConfusion
      · rw [not_not] at hstatus
        dsimp only
        split
        · next hsaved =>
            obtain ⟨hfresh, rfl⟩ := saveDevice_eq_ok devices hmem (by rfl) hsaved
            refine .issued
              { device with tokenDigest := tokenDigest sha256 token, updatedAt := now }
              hstatus rfl hfresh fun old hold hsame => ?_
            rw [devices.eq_of_key_eq hold hmem hsame]
            exact ⟨hstatus, rfl⟩
        · exact .nothing (nextTokenAttempt_ne_answered attempt)

theorem tokenAttempt_attempts (request : DeviceRequest) (attempt : ℕ) :
    Attempts sha256 devices token
      (tokenAttempt sha256 devices request attempt token now).1
      (tokenAttempt sha256 devices request attempt token now).2 := by
  unfold tokenAttempt
  split_ifs
  · cases request with
    | create userId deviceId => exact createDevice_attempts devices token now userId deviceId attempt
    | rotateToken deviceId => exact rotateToken_attempts devices token now deviceId attempt
  · exact .nothing fun _ _ => DevicePhase.noConfusion

/-- What a revocation does: the row of the device is revoked, and its pending sessions are cancelled
unless it was revoked before. -/
inductive Revokes (devices : KeyTable DeviceRow) (store : PairingStore) (deviceId : DeviceId) :
    KeyTable DeviceRow → PairingStore → Prop where
  | before {device : DeviceRow} (hmem : device ∈ devices.rows) (hkey : device.deviceId = deviceId)
      (hstatus : device.status = .revoked) : Revokes devices store deviceId devices store
  | now {device row : DeviceRow} (hmem : device ∈ devices.rows) (hkey : device.deviceId = deviceId)
      (hsame : row.deviceId = device.deviceId) (howner : row.userId = device.userId)
      (hdigest : row.tokenDigest = device.tokenDigest) (hstatus : row.status = .revoked) :
      Revokes devices store deviceId (devices.set row) (store.cancelPendingByDevice deviceId)

variable {devices} {store store' : PairingStore} {devices' : KeyTable DeviceRow} {deviceId : DeviceId}
  {summary : DeviceSummary} {now}

theorem revokeDevice_revokes
    (h : revokeDevice devices store deviceId now = .ok (summary, devices', store')) :
    Revokes devices store deviceId devices' store' := by
  unfold revokeDevice at h
  split at h
  · cases h
  · next device hfound =>
      obtain ⟨hmem, hkey⟩ := get?_eq_some.1 hfound
      split_ifs at h with hstatus
      · cases h
        exact .before hmem hkey hstatus
      · dsimp only at h
        split at h
        · next hsaved =>
            cases h
            obtain ⟨-, rfl⟩ := saveDevice_eq_ok devices hmem (by rfl) hsaved
            exact .now hmem hkey rfl rfl rfl rfl
        · cases h

theorem SoundDevices.revokes {history : List DeviceEvent} (h : SoundDevices sha256 devices history)
    (hrevokes : Revokes devices store deviceId devices' store') :
    SoundDevices sha256 devices' (history ++ [DeviceEvent.revoked deviceId]) := by
  cases hrevokes with
  | @before device hmem hkey hstatus =>
      have hset := h.revoke hmem rfl rfl rfl hstatus
      rw [set_self hmem, hkey] at hset
      exact hset
  | @now device row hmem hkey hsame howner hdigest hstatus =>
      have hset := h.revoke hmem hsame howner hdigest hstatus
      rw [hsame, hkey] at hset
      exact hset

end Transactions

/-! ## Authentication -/

theorem authenticate_eq_ok (devices : KeyTable DeviceRow) (authorization : JsString)
    (deviceId : DeviceId) (userId : UserId) :
    authenticate sha256 devices authorization = .ok ⟨deviceId, userId⟩ ↔
      ∃ token row, bearerToken authorization = some token ∧
        findByTokenDigest devices (tokenDigest sha256 token) = some row ∧ row.status = .active ∧
          row.deviceId = deviceId ∧ row.userId = userId := by
  unfold authenticate
  cases hbearer : bearerToken authorization with
  | none =>
      constructor
      · intro h
        cases h
      · rintro ⟨token, row, htoken, -⟩
        cases htoken
  | some token =>
      have hdigest : sha256 (utf8 token) = tokenDigest sha256 token :=
        sha256_utf8_eq_tokenDigest (isToken_of_bearerToken hbearer)
      dsimp only
      rw [hdigest]
      constructor
      · intro h
        split at h
        · cases h
        · next row hfound =>
            split_ifs at h with hstatus
            cases h
            exact ⟨token, row, rfl, hfound, not_not.1 hstatus, rfl, rfl⟩
      · rintro ⟨token', row, htoken, hfound, hstatus, rfl, rfl⟩
        cases htoken
        rw [hfound]
        exact if_neg (not_not_intro hstatus)

theorem findByTokenDigest_eq_some {devices : KeyTable DeviceRow} {digest : Digest} {row : DeviceRow}
    (h : findByTokenDigest devices digest = some row) :
    row ∈ devices.rows ∧ row.tokenDigest = digest := by
  unfold findByTokenDigest at h
  have hdigest := List.find?_some h
  rw [decide_eq_true_eq] at hdigest
  exact ⟨List.mem_of_find?_eq_some h, hdigest⟩

/-- The row of a digest is the row of the device whose last token has it. -/
theorem SoundDevices.findByTokenDigest_iff {devices : KeyTable DeviceRow} {history : List DeviceEvent}
    (h : SoundDevices sha256 devices history) (token : JsString) (deviceId : DeviceId)
    (userId : UserId) :
    (∃ row, findByTokenDigest devices (tokenDigest sha256 token) = some row ∧ row.status = .active ∧
        row.deviceId = deviceId ∧ row.userId = userId) ↔
      ∃ granted, lastGrant history deviceId = some (userId, granted) ∧
        tokenDigest sha256 granted = tokenDigest sha256 token ∧ .revoked deviceId ∉ history := by
  constructor
  · rintro ⟨row, hfound, hstatus, rfl, rfl⟩
    obtain ⟨hmem, hsame⟩ := findByTokenDigest_eq_some hfound
    obtain ⟨granted, hgranted, hdigest⟩ := h.granted row hmem
    exact ⟨granted, hgranted, hdigest.symm.trans hsame, (h.status row hmem).1 hstatus⟩
  · rintro ⟨granted, hgranted, hdigest, hkept⟩
    obtain ⟨event, hevent, hgrant⟩ := List.exists_of_findSome?_eq_some hgranted
    obtain ⟨row, hmem, hconcerns⟩ := h.registered event (List.mem_reverse.1 hevent)
    have hrow : row.deviceId = deviceId := by
      cases event with
      | issued deviceId' userId' token' =>
          simp only [DeviceEvent.grant] at hgrant
          split_ifs at hgrant with hsame
          exact hconcerns.1.trans hsame
      | revoked deviceId' => cases hgrant
    subst hrow
    obtain ⟨token', hlast, hown⟩ := h.granted row hmem
    rw [hgranted] at hlast
    cases hlast
    obtain ⟨found, hfound⟩ : ∃ found, findByTokenDigest devices (tokenDigest sha256 token) = some found := by
      refine Option.isSome_iff_exists.1 (List.find?_isSome.2 ⟨row, hmem, decide_eq_true ?_⟩)
      exact hown.trans hdigest
    obtain ⟨hmem', hsame⟩ := findByTokenDigest_eq_some hfound
    obtain rfl := h.digests found hmem' row hmem
      (hsame.trans (hdigest.symm.trans hown.symm))
    exact ⟨found, hfound, (h.status found hmem).2 hkept, rfl, rfl⟩

/-! ## Runs -/

/-- What a step does to the table and to the history. -/
inductive Registers (sha256 : Text → Digest) (devices : KeyTable DeviceRow)
    (history : List DeviceEvent) : KeyTable DeviceRow → List DeviceEvent → Prop where
  | nothing : Registers sha256 devices history devices history
  | issued (row : DeviceRow) {token : JsString} (hstatus : row.status = .active)
      (hdigest : row.tokenDigest = tokenDigest sha256 token)
      (hfresh : ∀ other ∈ devices.rows, other.deviceId ≠ row.deviceId →
        other.tokenDigest ≠ row.tokenDigest)
      (hold : ∀ old ∈ devices.rows, old.deviceId = row.deviceId →
        old.status = .active ∧ old.userId = row.userId) :
      Registers sha256 devices history (devices.set row)
        (history ++ [DeviceEvent.issued row.deviceId row.userId token])
  | revoked {store store' : PairingStore} {devices' : KeyTable DeviceRow} {deviceId : DeviceId}
      (hrevokes : Revokes devices store deviceId devices' store') :
      Registers sha256 devices history devices' (history ++ [DeviceEvent.revoked deviceId])

theorem attempt_registers (state : RegistryState) (index : ℕ) (token : JsString) (now : IsoDateTime) :
    Registers sha256 state.devices state.history (state.attempt sha256 index token now).devices
      (state.attempt sha256 index token now).history := by
  unfold RegistryState.attempt
  split
  · exact .nothing
  · next call _ =>
      split
      · next attempt _ =>
          have hattempts : Attempts sha256 state.devices token _ _ :=
            tokenAttempt_attempts state.devices token now call.request attempt
          generalize tokenAttempt sha256 state.devices call.request attempt token now = result at hattempts
          obtain ⟨phase, devices⟩ := result
          cases hattempts with
          | nothing hphase =>
              cases phase with
              | answered summary answer => exact absurd rfl (hphase summary answer)
              | issuing _ => exact .nothing
              | failed _ => exact .nothing
          | issued row hstatus hdigest hfresh hold => exact .issued row hstatus hdigest hfresh hold
      · exact .nothing

theorem step_registers (ports : PairingPorts) (state : RegistryState) (step : RegistryStep) :
    Registers sha256 state.devices state.history (state.step sha256 ports step).devices
      (state.step sha256 ports step).history := by
  cases step with
  | create userIdValue deviceIdValue => exact .nothing
  | rotateToken deviceIdValue => exact .nothing
  | attempt index token now => exact attempt_registers state index token now
  | revoke deviceIdValue now =>
      change Registers _ _ _ (state.revoke deviceIdValue now).devices
        (state.revoke deviceIdValue now).history
      unfold RegistryState.revoke
      split
      · exact .nothing
      · split
        · exact .nothing
        · next hrevoked => exact .revoked (revokeDevice_revokes hrevoked)
  | pairing step => exact .nothing

theorem Registers.sound {devices devices' : KeyTable DeviceRow} {history history' : List DeviceEvent}
    (h : SoundDevices sha256 devices history)
    (hregisters : Registers sha256 devices history devices' history') :
    SoundDevices sha256 devices' history' := by
  cases hregisters with
  | nothing => exact h
  | issued row hstatus hdigest hfresh hold => exact h.issue hstatus hdigest hfresh hold
  | revoked hrevokes => exact h.revokes hrevokes

theorem Registers.extends_history {devices devices' : KeyTable DeviceRow} {history history' : List DeviceEvent}
    (hregisters : Registers sha256 devices history devices' history') : history <+: history' := by
  cases hregisters with
  | nothing => exact List.prefix_rfl
  | issued row hstatus hdigest hfresh hold => exact List.prefix_append _ _
  | revoked hrevokes => exact List.prefix_append _ _

theorem allStates_soundDevices (sha256 : Text → Digest) (ports : PairingPorts) (steps : List RegistryStep) :
    Run.AllStates (RegistryState.step sha256 ports)
      (fun state => SoundDevices sha256 state.devices state.history) {} steps :=
  Run.allStates_of_invariant (fun state step h => (step_registers ports state step).sound h)
    soundDevices_empty

theorem history_prefix_run (ports : PairingPorts) (state : RegistryState)
    (steps : List RegistryStep) :
    state.history <+: (Run.run (RegistryState.step sha256 ports) state steps).history := by
  induction steps generalizing state with
  | nil => exact List.prefix_rfl
  | cons step steps ih => exact (step_registers ports state step).extends_history.trans (ih _)

/-- In every state of every run a request is let in as a device if and only if it brings the token
that the device was given last and the device has not been revoked. What the operator has been told
stays true: owners never change, and a revoked device gets no token again. -/
theorem last_token_authenticates (ports : PairingPorts) (steps : List RegistryStep) :
    (∀ done, done <+: steps → ∀ authorization deviceId userId,
      authenticate sha256 (Run.run (RegistryState.step sha256 ports) {} done).devices authorization =
          .ok ⟨deviceId, userId⟩ ↔
        ∃ token granted, bearerToken authorization = some token ∧
          lastGrant (Run.run (RegistryState.step sha256 ports) {} done).history deviceId =
              some (userId, granted) ∧
            tokenDigest sha256 granted = tokenDigest sha256 token ∧
              .revoked deviceId ∉ (Run.run (RegistryState.step sha256 ports) {} done).history) ∧
    (∀ done more, done ++ more <+: steps →
      (Run.run (RegistryState.step sha256 ports) {} done).history <+:
        (Run.run (RegistryState.step sha256 ports) {} (done ++ more)).history) ∧
    (Run.run (RegistryState.step sha256 ports) {} steps).history.Pairwise DeviceEvent.Allows := by
  have hsound := allStates_soundDevices sha256 ports steps
  refine ⟨fun done hdone authorization deviceId userId => ?_, fun done more _ => ?_, ?_⟩
  · rw [authenticate_eq_ok]
    constructor
    · rintro ⟨token, row, hbearer, hrow⟩
      obtain ⟨granted, hgranted⟩ :=
        ((hsound done hdone).findByTokenDigest_iff token deviceId userId).1 ⟨row, hrow⟩
      exact ⟨token, granted, hbearer, hgranted⟩
    · rintro ⟨token, granted, hbearer, hgranted⟩
      obtain ⟨row, hrow⟩ :=
        ((hsound done hdone).findByTokenDigest_iff token deviceId userId).2 ⟨granted, hgranted⟩
      exact ⟨token, row, hbearer, hrow⟩
  · rw [Run.run_append]
    exact history_prefix_run ports _ more
  · exact (hsound steps List.prefix_rfl).ordered

end VoiceLife.Gateway.Pairing
