import VoiceLife.Im.PairingController
import VoiceLife.Lib.Run

/-! # The queries of pairing sessions

What a controller asks the gateway over any sequence of `Begin` and `Poll` calls: only for a session that
is active, two seconds apart, and once at most at the deadline or after it.
-/

namespace VoiceLife.Im

/-- The shortest time between two queries before the deadline. -/
def minimumQueryGapMs : ℕ := 2000

theorem le_retryDelayMs (retryAttempts : ℕ) : minimumQueryGapMs ≤ retryDelayMs retryAttempts := by
  unfold retryDelayMs
  induction retryAttempts with
  | zero => exact le_rfl
  | succ retryAttempts ih =>
      rw [Function.iterate_succ_apply']
      unfold minimumQueryGapMs kMaximumRetryMs at *
      omega

theorem le_kPollIntervalMs : minimumQueryGapMs ≤ kPollIntervalMs := by
  unfold minimumQueryGapMs kPollIntervalMs
  omega

theorem saturatingAdd_lt (left right : ℕ) : saturatingAdd left right < uint64Size := by
  have hpos : 0 < uint64Size := by decide
  unfold saturatingAdd
  omega

namespace PairingSessionController

variable {controller : PairingSessionController}

/-! ## One call -/

/-- `Poll` sends `Query` at this reading of the clock. -/
def asks (controller : PairingSessionController) (now : ℕ) : Bool :=
  controller.active &&
    if now ≥ controller.deadlineMs then !controller.finalPollAttempted
    else decide (controller.nextPollMs ≤ now)

/-- Such a call leaves the session as it is, or ends it after its last query. -/
theorem poll_of_not_asks {queried : PairingQueryResult} (h : controller.asks queried.now = false) :
    (controller.poll queried).1.status ≠ .confirmed ∧
      ((controller.poll queried).2 = controller ∨ (controller.poll queried).2.active = false) := by
  unfold asks at h
  unfold poll
  cases hactive : controller.active with
  | false => exact ⟨PairingFlowStatus.noConfusion, Or.inl rfl⟩
  | true =>
      rw [hactive, Bool.true_and] at h
      by_cases hfinal : queried.now ≥ controller.deadlineMs
      · rw [if_pos hfinal, Bool.not_eq_false'] at h
        simp only [Bool.not_true, Bool.false_eq_true, if_false, hfinal, decide_true, h, Bool.true_and,
          if_true]
        exact ⟨PairingFlowStatus.noConfusion, Or.inr rfl⟩
      · rw [if_neg hfinal, decide_eq_false_iff_not, not_le] at h
        simp only [Bool.not_true, Bool.false_eq_true, if_false, hfinal, decide_false, h,
          Bool.false_and, Bool.not_false, Bool.true_and, decide_true, if_true]
        exact ⟨PairingFlowStatus.noConfusion, Or.inl trivial⟩

/-- The session that a controller holds, and the time of its next query. -/
structure Holds (controller : PairingSessionController) (session : PairingSessionStatus)
    (deadlineMs : ℕ) : Prop where
  active : controller.active = true
  expiresAt : controller.expiresAt = session.expiresAt
  createdAt : controller.createdAt = session.createdAt
  userId : controller.userId = session.userId
  allowedPlatforms : controller.allowedPlatforms = session.allowedPlatforms
  deadline : controller.deadlineMs = deadlineMs
  deadline_lt : deadlineMs < uint64Size
  final : controller.finalPollAttempted = false

/-- The answer is about a session as it was created. -/
structure Matches (value session : PairingSessionStatus) : Prop where
  expiresAt : value.expiresAt = session.expiresAt
  createdAt : value.createdAt = session.createdAt
  userId : value.userId = session.userId
  allowedPlatforms : value.allowedPlatforms = session.allowedPlatforms

theorem min_saturatingAdd {now delay deadlineMs : ℕ} (hdelay : minimumQueryGapMs ≤ delay)
    (hdeadline : deadlineMs < uint64Size) :
    min (now + minimumQueryGapMs) deadlineMs ≤ min (saturatingAdd now delay) deadlineMs := by
  unfold saturatingAdd
  omega

/-- A session begins, with a deadline that the request and the server bound. -/
structure BeginsWith (controller : PairingSessionController) (expiresInMinutes : ℤ)
    (created : PairingCreateResult)
    (answer : PairingFlowResult × PairingSessionController) (value : CreatedPairingSession) :
    Prop where
  idle : controller.active = false
  success : created.status = .success
  answered : created.value = some value
  status : answer.1.status = .pending
  holds : ∃ deadlineMs, answer.2.Holds value.session deadlineMs ∧ ∃ remaining,
    deadlineMs = saturatingAdd created.now remaining ∧
      remaining ≤ (expiresInMinutes % uint64Size).toNat * 60 * 1000 % uint64Size

/-- `Begin` keeps the session that there is, begins one, or ends without one. -/
theorem begin_spec (controller : PairingSessionController) (expiresInMinutes : ℤ)
    (created : PairingCreateResult) :
    (controller.active = true ∧ (controller.begin expiresInMinutes created).1.status = .alreadyActive ∧
      (controller.begin expiresInMinutes created).2 = controller) ∨
    (∃ value, BeginsWith controller expiresInMinutes created
      (controller.begin expiresInMinutes created) value) ∨
    ((controller.begin expiresInMinutes created).2.active = false ∧
      (controller.begin expiresInMinutes created).1.status ≠ .pending ∧
      (controller.begin expiresInMinutes created).1.status ≠ .confirmed) := by
  unfold begin
  by_cases hactive : controller.active = true
  · rw [if_pos hactive]
    exact Or.inl ⟨hactive, rfl, rfl⟩
  rw [if_neg hactive]
  have hidle : controller.active = false := Bool.eq_false_of_not_eq_true hactive
  have hended : ∀ (c : PairingSessionController) (status : PairingFlowStatus) (message : String),
      status ≠ .pending → status ≠ .confirmed → (c.finish status message).2.active = false ∧
        (c.finish status message).1.status ≠ .pending ∧
          (c.finish status message).1.status ≠ .confirmed :=
    fun _ _ _ hpending hconfirmed => ⟨rfl, hpending, hconfirmed⟩
  split
  · rename_i value hstatus hvalue
    split
    · exact Or.inr (Or.inr ⟨hidle, PairingFlowStatus.noConfusion, PairingFlowStatus.noConfusion⟩)
    dsimp only
    split
    · split
      · exact Or.inr (Or.inr (hended _ _ _ (by decide) (by decide)))
      split
      · exact Or.inr (Or.inr (hended _ _ _ (by decide) (by decide)))
      · refine Or.inr (Or.inl ⟨value, hidle, hstatus, hvalue, rfl, _, ⟨rfl, rfl, rfl, rfl, rfl, rfl,
          saturatingAdd_lt _ _, rfl⟩, _, rfl, min_le_left _ _⟩)
    · exact Or.inr (Or.inr (hended _ _ _ (by decide) (by decide)))
  · exact Or.inr (Or.inr ⟨hidle, PairingFlowStatus.noConfusion, PairingFlowStatus.noConfusion⟩)
  · exact Or.inr (Or.inr ⟨hidle, PairingFlowStatus.noConfusion, PairingFlowStatus.noConfusion⟩)

/-- The checks of `Poll` on an answer. -/
theorem matches_of_settle {session value : PairingSessionStatus} {deadlineMs : ℕ}
    (h : controller.Holds session deadlineMs)
    (hsame : ¬ (value.expiresAt ≠ controller.expiresAt ∨ value.createdAt ≠ controller.createdAt ∨
      value.userId ≠ controller.userId ∨ value.allowedPlatforms ≠ controller.allowedPlatforms)) :
    Matches value session := by
  simp only [not_or, not_not] at hsame
  obtain ⟨hexpires, hcreated, huser, hplatforms⟩ := hsame
  exact ⟨hexpires.trans h.expiresAt, hcreated.trans h.createdAt, huser.trans h.userId,
    hplatforms.trans h.allowedPlatforms⟩

/-- A query before the deadline that leaves the session open. -/
structure GoesOn (controller' : PairingSessionController) (session : PairingSessionStatus)
    (deadlineMs now : ℕ) : Prop where
  before : now < deadlineMs
  holds : controller'.Holds session deadlineMs
  later : min (now + minimumQueryGapMs) deadlineMs ≤ controller'.nextPollMs

/-- A query ends the session or leaves it open, and confirms it only for an answer that matches it. -/
theorem poll_spec {session : PairingSessionStatus} {deadlineMs : ℕ} {queried : PairingQueryResult}
    (h : controller.Holds session deadlineMs) (hasks : controller.asks queried.now = true) :
    ((controller.poll queried).2.active = false ∨
      GoesOn (controller.poll queried).2 session deadlineMs queried.now) ∧
    ((controller.poll queried).1.status = .confirmed → queried.status = .success ∧
      ∃ value, queried.value = some value ∧ Matches value session) := by
  have hended : ∀ (c : PairingSessionController) (status : PairingFlowStatus) (message : String),
      status ≠ .confirmed →
      ((c.finish status message).2.active = false ∨
        GoesOn (c.finish status message).2 session deadlineMs queried.now) ∧
      ((c.finish status message).1.status = .confirmed → queried.status = .success ∧
        ∃ value, queried.value = some value ∧ Matches value session) :=
    fun _ _ _ hstatus => ⟨Or.inl rfl, fun hconfirmed => absurd hconfirmed hstatus⟩
  unfold asks at hasks
  rw [h.active, Bool.true_and] at hasks
  unfold poll
  rw [if_neg (by rw [h.active]; exact Bool.false_ne_true)]
  dsimp only
  by_cases hfinal : queried.now ≥ controller.deadlineMs
  -- the last query: every answer ends the session
  · simp only [hfinal, decide_true, h.final, Bool.and_false, Bool.false_eq_true, if_false,
      Bool.not_true, Bool.false_and, Bool.true_or, if_true]
    split
    · exact hended _ _ _ (by decide)
    · exact hended _ _ _ (by decide)
    · exact hended _ _ _ (by decide)
    · rename_i value hstatus hvalue
      unfold settle
      dsimp only
      split
      · exact hended _ _ _ (by decide)
      rename_i hsame
      split
      · exact ⟨Or.inl rfl, fun _ => ⟨hstatus, value, hvalue, matches_of_settle h hsame⟩⟩
      split
      · exact hended _ _ _ (by decide)
      split
      · exact hended _ _ _ (by decide)
      · exact hended _ _ _ (by decide)
    · exact hended _ _ _ (by decide)
  · rw [if_neg hfinal, decide_eq_true_eq] at hasks
    have hbefore : queried.now < deadlineMs := h.deadline ▸ not_le.1 hfinal
    simp only [hfinal, decide_false, h.final, Bool.and_false, Bool.false_eq_true, if_false,
      Bool.not_false, Bool.or_false, not_lt.2 hasks]
    split
    · refine ⟨Or.inr ⟨hbefore, ⟨h.active, h.expiresAt, h.createdAt, h.userId, h.allowedPlatforms,
        h.deadline, h.deadline_lt, rfl⟩, ?_⟩, fun hconfirmed => PairingFlowStatus.noConfusion hconfirmed⟩
      rw [h.deadline]
      exact min_saturatingAdd (le_retryDelayMs _) h.deadline_lt
    · exact hended _ _ _ (by decide)
    · exact hended _ _ _ (by decide)
    · rename_i value hstatus hvalue
      unfold settle
      dsimp only
      split
      · exact hended _ _ _ (by decide)
      rename_i hsame
      split
      · exact ⟨Or.inl rfl, fun _ => ⟨hstatus, value, hvalue, matches_of_settle h hsame⟩⟩
      split
      · exact hended _ _ _ (by decide)
      split
      · exact hended _ _ _ (by decide)
      · rw [if_neg Bool.false_ne_true]
        refine ⟨Or.inr ⟨hbefore, ⟨h.active, h.expiresAt, h.createdAt, h.userId, h.allowedPlatforms,
          h.deadline, h.deadline_lt, rfl⟩, ?_⟩, fun hconfirmed => PairingFlowStatus.noConfusion hconfirmed⟩
        show min (queried.now + minimumQueryGapMs) deadlineMs ≤
          min (saturatingAdd queried.now kPollIntervalMs) controller.deadlineMs
        rw [h.deadline]
        exact min_saturatingAdd le_kPollIntervalMs h.deadline_lt
    · exact hended _ _ _ (by decide)

end PairingSessionController

/-! ## Runs -/

/-- A call of the controller, with the answers of the port and the clocks. -/
inductive PairingCall where
  | begin (expiresInMinutes : ℤ) (created : PairingCreateResult)
  | poll (queried : PairingQueryResult)

/-- A session that `Begin` has reported as pending. -/
structure BegunSession where
  number : ℕ
  beganAt : ℕ
  expiresInMinutes : ℤ
  created : PairingSessionStatus

/-- What a call did: the session before it with its deadline, whether it sent a query and when, and what
it returned. -/
structure CallRecord where
  call : PairingCall
  session : Option BegunSession
  deadlineMs : ℕ
  asked : Bool
  now : ℕ
  result : PairingFlowStatus
  activeAfter : Bool

/-- A controller with what it did so far. -/
structure PairingRun where
  controller : PairingSessionController := {}
  begun : List BegunSession := []
  log : List CallRecord := []

namespace PairingRun

/-- The session that is active. -/
def session (run : PairingRun) : Option BegunSession :=
  if run.controller.active then run.begun.getLast? else none

/-- The record of `Begin`. -/
def beginRecord (run : PairingRun) (expiresInMinutes : ℤ) (created : PairingCreateResult) :
    CallRecord where
  call := .begin expiresInMinutes created
  session := run.session
  deadlineMs := run.controller.deadlineMs
  asked := false
  now := created.now
  result := (run.controller.begin expiresInMinutes created).1.status
  activeAfter := (run.controller.begin expiresInMinutes created).2.active

/-- The record of `Poll`. -/
def pollRecord (run : PairingRun) (queried : PairingQueryResult) : CallRecord where
  call := .poll queried
  session := run.session
  deadlineMs := run.controller.deadlineMs
  asked := run.controller.asks queried.now
  now := queried.now
  result := (run.controller.poll queried).1.status
  activeAfter := (run.controller.poll queried).2.active

/-- The session of a `Begin` that reports it as pending. -/
def begins (run : PairingRun) (expiresInMinutes : ℤ) (created : PairingCreateResult) :
    List BegunSession :=
  if (run.controller.begin expiresInMinutes created).1.status = .pending then
    [⟨run.begun.length, created.now, expiresInMinutes,
      (created.value.map CreatedPairingSession.session).getD {}⟩]
  else []

/-- One call. -/
def step (run : PairingRun) : PairingCall → PairingRun
  | .begin expiresInMinutes created =>
      { controller := (run.controller.begin expiresInMinutes created).2
        begun := run.begun ++ run.begins expiresInMinutes created
        log := run.log ++ [run.beginRecord expiresInMinutes created] }
  | .poll queried =>
      { run with
        controller := (run.controller.poll queried).2
        log := run.log ++ [run.pollRecord queried] }

end PairingRun

namespace CallRecord

open PairingSessionController

/-- The deadline that a session may have at most; callers never ask for a negative number of minutes. -/
def InWindow (deadlineMs : ℕ) (session : BegunSession) : Prop :=
  0 ≤ session.expiresInMinutes →
    (deadlineMs : ℤ) ≤ session.beganAt + session.expiresInMinutes * 60000

/-- What holds of every call. -/
structure Sound (record : CallRecord) : Prop where
  asked : record.asked = true → record.session.isSome
  window : ∀ session, record.session = some session → InWindow record.deadlineMs session
  last : record.asked = true → record.deadlineMs ≤ record.now → record.activeAfter = false
  confirmed : record.result = .confirmed → record.asked = true ∧
    ∃ queried session value, record.call = .poll queried ∧ record.session = some session ∧
      queried.status = .success ∧ queried.value = some value ∧ Matches value session.created

/-- What holds of two queries for one session: the first one is before the deadline, and the second one
two seconds later or at the deadline. -/
def Spaced (record record' : CallRecord) : Prop :=
  record.asked = true → record'.asked = true → record.session = record'.session →
    record.now < record.deadlineMs ∧
      (record.now + minimumQueryGapMs ≤ record'.now ∨ record'.deadlineMs ≤ record'.now)

end CallRecord

open CallRecord

/-- The queries of a run for a session leave the next one its time. -/
structure Leaves (run : PairingRun) (session : BegunSession) (deadlineMs : ℕ) : Prop where
  holds : run.controller.Holds session.created deadlineMs
  window : InWindow deadlineMs session
  queries : ∀ record ∈ run.log, record.asked = true → record.session = some session →
    record.deadlineMs = deadlineMs ∧ record.now < deadlineMs ∧
      min (record.now + minimumQueryGapMs) deadlineMs ≤ run.controller.nextPollMs

/-- The records are sound, and the last session that began is the one that is active. -/
structure Accounts (run : PairingRun) : Prop where
  sound : ∀ record ∈ run.log, record.Sound
  spaced : run.log.Pairwise Spaced
  known : ∀ record ∈ run.log, ∀ session, record.session = some session →
    session.number < run.begun.length
  current : run.controller.active = true → ∃ session deadlineMs,
    run.begun.getLast? = some session ∧ session.number < run.begun.length ∧
      Leaves run session deadlineMs

theorem accounts_init : Accounts {} where
  sound _ hmem := absurd hmem List.not_mem_nil
  spaced := List.Pairwise.nil
  known _ hmem := absurd hmem List.not_mem_nil
  current hactive := absurd hactive Bool.false_ne_true

theorem PairingRun.session_eq {run : PairingRun} (h : Accounts run) {session : BegunSession}
    (hsession : run.session = some session) : session.number < run.begun.length ∧
      ∃ deadlineMs, Leaves run session deadlineMs := by
  unfold PairingRun.session at hsession
  split at hsession
  · rename_i hactive
    obtain ⟨current, deadlineMs, hlast, hnumber, hleaves⟩ := h.current hactive
    rw [hlast] at hsession
    cases hsession
    exact ⟨hnumber, deadlineMs, hleaves⟩
  · cases hsession

theorem inWindow_of_begins {now remaining : ℕ} {expiresInMinutes : ℤ} {session : BegunSession}
    (hnow : session.beganAt = now) (hminutes : session.expiresInMinutes = expiresInMinutes)
    (hremaining : remaining ≤ (expiresInMinutes % uint64Size).toNat * 60 * 1000 % uint64Size) :
    InWindow (saturatingAdd now remaining) session := by
  unfold InWindow
  rw [hnow, hminutes]
  intro hnonneg
  have hrequest : (expiresInMinutes % uint64Size).toNat * 60 * 1000 % uint64Size ≤
      expiresInMinutes.toNat * 60 * 1000 := by
    apply (Nat.mod_le _ _).trans
    unfold uint64Size
    omega
  have hsum : saturatingAdd now remaining ≤ now + remaining := min_le_left _ _
  omega

theorem Accounts.append {run run' : PairingRun} {record : CallRecord} (h : Accounts run)
    (hlog : run'.log = run.log ++ [record]) (hsound : record.Sound)
    (hspaced : ∀ earlier ∈ run.log, Spaced earlier record)
    (hsession : record.session = run.session) (hbegun : run.begun.length ≤ run'.begun.length)
    (hcurrent : run'.controller.active = true → ∃ session deadlineMs,
      run'.begun.getLast? = some session ∧ session.number < run'.begun.length ∧
        Leaves run' session deadlineMs) : Accounts run' where
  sound := by
    rw [hlog]
    intro other hmem
    rcases List.mem_append.1 hmem with hold | hnew
    · exact h.sound other hold
    · rw [List.mem_singleton.1 hnew]
      exact hsound
  spaced := by
    rw [hlog]
    refine List.pairwise_append.2 ⟨h.spaced, List.pairwise_singleton _ _, fun earlier hmem later hlater => ?_⟩
    rw [List.mem_singleton.1 hlater]
    exact hspaced earlier hmem
  known := by
    rw [hlog]
    intro other hmem session hsome
    rcases List.mem_append.1 hmem with hold | hnew
    · exact (h.known other hold session hsome).trans_le hbegun
    · rw [List.mem_singleton.1 hnew, hsession] at hsome
      exact (PairingRun.session_eq h hsome).1.trans_le hbegun
  current := hcurrent

/-- A session goes on over a call that asks nothing. -/
theorem Leaves.append {run run' : PairingRun} {session : BegunSession} {deadlineMs : ℕ}
    {record : CallRecord} (h : Leaves run session deadlineMs)
    (hlog : run'.log = run.log ++ [record]) (hcontroller : run'.controller = run.controller)
    (hasked : record.asked = false) : Leaves run' session deadlineMs where
  holds := hcontroller ▸ h.holds
  window := h.window
  queries := by
    rw [hlog, hcontroller]
    intro other hmem hother
    rcases List.mem_append.1 hmem with hold | hnew
    · exact h.queries other hold hother
    · rw [List.mem_singleton.1 hnew, hasked] at hother
      cases hother

/-- A record of a call that asks nothing. -/
theorem sound_of_not_asked {run : PairingRun} (h : Accounts run) (record : CallRecord)
    (hsession : record.session = run.session) (hdeadline : record.deadlineMs = run.controller.deadlineMs)
    (hasked : record.asked = false) (hresult : record.result ≠ .confirmed) :
    record.Sound ∧ ∀ earlier ∈ run.log, Spaced earlier record := by
  constructor
  · refine ⟨fun hask => ?_, fun session hsome => ?_, fun hask => ?_, fun hconfirmed => ?_⟩
    · rw [hasked] at hask
      cases hask
    · rw [hsession] at hsome
      obtain ⟨-, deadlineMs, hleaves⟩ := PairingRun.session_eq h hsome
      rw [hdeadline, hleaves.holds.deadline]
      exact hleaves.window
    · rw [hasked] at hask
      cases hask
    · exact absurd hconfirmed hresult
  · intro earlier _ _ hask
    rw [hasked] at hask
    cases hask

theorem Accounts.begin {run : PairingRun} (h : Accounts run) (expiresInMinutes : ℤ)
    (created : PairingCreateResult) : Accounts (run.step (.begin expiresInMinutes created)) := by
  have hquiet : (run.controller.begin expiresInMinutes created).1.status ≠ .confirmed →
      (run.beginRecord expiresInMinutes created).Sound ∧
        ∀ earlier ∈ run.log, Spaced earlier (run.beginRecord expiresInMinutes created) :=
    fun hresult => sound_of_not_asked h _ rfl rfl rfl hresult
  have hlength : run.begun.length ≤ (run.step (.begin expiresInMinutes created)).begun.length := by
    show _ ≤ (run.begun ++ _).length
    rw [List.length_append]
    exact Nat.le_add_right _ _
  rcases run.controller.begin_spec expiresInMinutes created with
    ⟨hactive, hresult, hsame⟩ | ⟨value, hbegins⟩ | ⟨hinactive, hpending, hconfirmed⟩
  · obtain ⟨hsound, hspaced⟩ := hquiet (by rw [hresult]; exact PairingFlowStatus.noConfusion)
    have hbegun : (run.step (.begin expiresInMinutes created)).begun = run.begun := by
      show run.begun ++ run.begins expiresInMinutes created = run.begun
      rw [PairingRun.begins, hresult, if_neg PairingFlowStatus.noConfusion, List.append_nil]
    apply h.append rfl hsound hspaced rfl hlength
    intro _
    obtain ⟨session, deadlineMs, hlast, hnumber, hleaves⟩ := h.current hactive
    exact ⟨session, deadlineMs, hbegun ▸ hlast, hbegun ▸ hnumber, hleaves.append rfl hsame rfl⟩
  · obtain ⟨hsound, hspaced⟩ := hquiet (by rw [hbegins.status]; exact PairingFlowStatus.noConfusion)
    obtain ⟨deadlineMs, hholds, remaining, hdeadline, hremaining⟩ := hbegins.holds
    -- the number of the new session is in no record
    have hbegun : (run.step (.begin expiresInMinutes created)).begun = run.begun ++
        [⟨run.begun.length, created.now, expiresInMinutes, value.session⟩] := by
      show run.begun ++ run.begins expiresInMinutes created = _
      rw [PairingRun.begins, hbegins.status, if_pos rfl, hbegins.answered]
      rfl
    apply h.append rfl hsound hspaced rfl hlength
    intro _
    refine ⟨⟨run.begun.length, created.now, expiresInMinutes, value.session⟩, deadlineMs, ?_, ?_,
      hholds, ?_, ?_⟩
    · rw [hbegun, List.getLast?_concat]
    · rw [hbegun, List.length_append]
      exact Nat.lt_succ_self _
    · rw [hdeadline]
      exact inWindow_of_begins rfl rfl hremaining
    · intro record hmem hasked hsession
      rcases List.mem_append.1 hmem with hold | hnew
      · exact absurd (h.known record hold _ hsession) (lt_irrefl _)
      · rw [List.mem_singleton.1 hnew] at hasked
        cases hasked
  · obtain ⟨hsound, hspaced⟩ := hquiet hconfirmed
    apply h.append rfl hsound hspaced rfl hlength
    intro hactive
    exact absurd (hinactive.symm.trans hactive) Bool.false_ne_true

theorem Accounts.poll {run : PairingRun} (h : Accounts run) (queried : PairingQueryResult) :
    Accounts (run.step (.poll queried)) := by
  have hlog : (run.step (.poll queried)).log = run.log ++ [run.pollRecord queried] := rfl
  have hbegun : (run.step (.poll queried)).begun = run.begun := rfl
  cases hasks : run.controller.asks queried.now with
  | false =>
      obtain ⟨hresult, hafter⟩ := PairingSessionController.poll_of_not_asks hasks
      obtain ⟨hsound, hspaced⟩ := sound_of_not_asked h (run.pollRecord queried) rfl rfl hasks hresult
      apply h.append hlog hsound hspaced rfl (le_of_eq (congrArg List.length hbegun.symm))
      intro hactive
      rcases hafter with hsame | hended
      · rw [show (run.step (.poll queried)).controller = run.controller from hsame] at hactive
        obtain ⟨session, deadlineMs, hlast, hnumber, hleaves⟩ := h.current hactive
        exact ⟨session, deadlineMs, hlast, hnumber, hleaves.append rfl hsame hasks⟩
      · exact absurd (hended.symm.trans hactive) Bool.false_ne_true
  | true =>
      have hactive : run.controller.active = true := (Bool.and_eq_true_iff.1 hasks).1
      obtain ⟨session, deadlineMs, hlast, hnumber, hleaves⟩ := h.current hactive
      have hsession : run.session = some session := by
        rw [PairingRun.session, if_pos hactive, hlast]
      obtain ⟨hafter, hconfirmed⟩ := PairingSessionController.poll_spec hleaves.holds hasks
      have hdeadline := hleaves.holds.deadline
      have hsound : (run.pollRecord queried).Sound := by
        refine ⟨fun _ => ?_, fun other hother => ?_, fun _ hlate => ?_, fun hresult => ?_⟩
        · show run.session.isSome
          rw [hsession]
          rfl
        · rw [show other = session from Option.some.inj (hother.symm.trans hsession)]
          show InWindow run.controller.deadlineMs session
          rw [hdeadline]
          exact hleaves.window
        · rcases hafter with hended | hon
          · exact hended
          · exact absurd (hdeadline ▸ hlate : deadlineMs ≤ queried.now) (not_le.2 hon.before)
        · obtain ⟨hstatus, value, hvalue, hmatches⟩ := hconfirmed hresult
          exact ⟨hasks, queried, session, value, rfl, hsession, hstatus, hvalue, hmatches⟩
      have hspaced : ∀ earlier ∈ run.log, Spaced earlier (run.pollRecord queried) := by
        intro earlier hmem hearlier _ hsame
        obtain ⟨hsameDeadline, hbefore, hnext⟩ :=
          hleaves.queries earlier hmem hearlier (hsame.trans hsession)
        refine ⟨hsameDeadline ▸ hbefore, ?_⟩
        show earlier.now + minimumQueryGapMs ≤ queried.now ∨ run.controller.deadlineMs ≤ queried.now
        have hnow := (Bool.and_eq_true_iff.1 hasks).2
        by_cases hfinal : queried.now ≥ run.controller.deadlineMs
        · exact Or.inr hfinal
        · rw [if_neg hfinal, decide_eq_true_eq] at hnow
          rw [hdeadline] at hfinal
          left
          omega
      apply h.append hlog hsound hspaced rfl (le_of_eq (congrArg List.length hbegun.symm))
      intro hstill
      rcases hafter with hended | hon
      · exact absurd (hended.symm.trans hstill) Bool.false_ne_true
      · refine ⟨session, deadlineMs, hlast, hnumber, hon.holds, hleaves.window, ?_⟩
        intro record hmem hasked hsame
        rcases List.mem_append.1 hmem with hold | hnew
        · obtain ⟨hsameDeadline, hbefore, hnext⟩ := hleaves.queries record hold hasked hsame
          refine ⟨hsameDeadline, hbefore, ?_⟩
          -- the earlier query is two seconds before this one
          have hgap := (hspaced record hold hasked hasks (hsame.trans hsession.symm)).2
          have hlater := hon.later
          rcases hgap with hgap | hlate
          · have hgap' : record.now + minimumQueryGapMs ≤ queried.now := hgap
            show _ ≤ (run.controller.poll queried).2.nextPollMs
            omega
          · exact absurd (hdeadline ▸ hlate : deadlineMs ≤ queried.now) (not_le.2 hon.before)
        · rw [List.mem_singleton.1 hnew]
          exact ⟨hdeadline, hon.before, hon.later⟩

end VoiceLife.Im
