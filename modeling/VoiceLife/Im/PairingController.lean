import VoiceLife.Lib.CInt
import VoiceLife.Lib.DecimalText

/-! # `im_pairing_controller.cc` and `im_binding_use_case.cc`: binding sessions

The use case holds one pairing session at a time. `Start` begins one under a new generation, `Poll`
asks the gateway for its outcome, and the session ends with the first answer that settles it. The
gateway and the clocks answer anything.
-/

namespace VoiceLife.Im

open DecimalText

/-- `uint64_t` counters wrap here. -/
def uint64Size : ℕ := 18446744073709551616

/-! ## What the gateway answers -/

/-- `PairingClientStatus`. -/
inductive PairingClientStatus where
  | success
  | credentialRejected
  | notFound
  | retryable
  | rejected
  | invalidResponse
  deriving DecidableEq

/-- `PairingSessionStatus`, without the device and the time of the confirmation. -/
structure PairingSessionStatus where
  id : String := ""
  userId : Option String := none
  allowedPlatforms : Option (List String) := none
  status : String := ""
  expiresAt : Text := []
  createdAt : Text := []

/-- `CreatedPairingSession`. -/
structure CreatedPairingSession where
  session : PairingSessionStatus
  displayCode : Text

/-- `PairingCreateResult`, with the readings of the two clocks that `Begin` takes. -/
structure PairingCreateResult where
  status : PairingClientStatus := .rejected
  value : Option CreatedPairingSession := none
  message : String := ""
  now : ℕ := 0
  wallNow : ℕ := 0

/-- `PairingQueryResult`, with the reading of the clock that `Poll` takes. -/
structure PairingQueryResult where
  status : PairingClientStatus := .rejected
  value : Option PairingSessionStatus := none
  message : String := ""
  now : ℕ := 0

/-! ## Times -/

/-- `SaturatingAdd`. -/
def saturatingAdd (left right : ℕ) : ℕ :=
  min (left + right) (uint64Size - 1)

/-- `IsValidDisplayCode`. -/
def isValidDisplayCode (code : Text) : Bool :=
  code.length == 6 && code.all isDigit

/-- `DaysFromCivil`, with its unsigned arithmetic. -/
def daysFromCivil (year month day : ℤ) : ℤ :=
  let year := if month ≤ 2 then year - 1 else year
  let era := (if year ≥ 0 then year else year - 399).tdiv 400
  let yearOfEra := CInt.toUnsigned (year - era * 400)
  let shiftedMonth := CInt.toUnsigned (month + if month > 2 then -3 else 9)
  let dayOfYear := CInt.toUnsigned ((153 * shiftedMonth + 2) / 5 + day - 1)
  let dayOfEra := CInt.toUnsigned (yearOfEra * 365 + yearOfEra / 4 - yearOfEra / 100 + dayOfYear)
  era * 146097 + dayOfEra - 719468

/-- The `digits` of `ParseIsoMillis`. -/
def isoDigits (input : Text) (offset count : ℕ) : Option ℤ :=
  let part := (input.drop offset).take count
  if part.length = count ∧ part.all isDigit then some (decimal part) else none

/-- The milliseconds behind the seconds, and where they end. -/
def isoFraction (input : Text) : ℕ × ℕ :=
  if input[19]? = some 46 then
    let digits := (input.drop 20).takeWhile isDigit
    (decimal (digits.take 3) * 10 ^ (3 - digits.length), 20 + digits.length)
  else (0, 19)

/-- The minutes east of UTC at a position, and where they end. -/
def isoOffset (input : Text) (pos : ℕ) : Option (ℤ × ℕ) :=
  if input[pos]? = some 90 then some (0, pos + 1)
  else if pos + 6 = input.length ∧ (input[pos]? = some 43 ∨ input[pos]? = some 45) then do
    let hour ← isoDigits input (pos + 1) 2
    let minute ← isoDigits input (pos + 4) 2
    if input[pos + 3]? ≠ some 58 then none
    else
      let minutes := hour * 60 + minute
      some (if input[pos]? = some 43 then minutes else -minutes, pos + 6)
  else none

/-- `ParseIsoMillis`: the separators of the date and the time are not looked at. -/
def parseIsoMillis (input : Text) : Option ℕ :=
  if input.length < 20 then none
  else do
    let year ← isoDigits input 0 4
    let month ← isoDigits input 5 2
    let day ← isoDigits input 8 2
    let hour ← isoDigits input 11 2
    let minute ← isoDigits input 14 2
    let second ← isoDigits input 17 2
    let fraction := isoFraction input
    let (offsetMinutes, pos) ← isoOffset input fraction.2
    let seconds := daysFromCivil year month day * 86400 + hour * 3600 + minute * 60 + second -
      offsetMinutes * 60
    if pos ≠ input.length ∨ seconds < 0 then none else some (seconds.toNat * 1000 + fraction.1)

/-! ## The controller -/

/-- `PairingFlowStatus`. -/
inductive PairingFlowStatus where
  | idle
  | pending
  | waiting
  | retrying
  | alreadyActive
  | confirmed
  | expired
  | cancelled
  | notFound
  | timedOut
  | credentialRejected
  | failed
  deriving DecidableEq

/-- `PairingFlowResult`. -/
structure PairingFlowResult where
  status : PairingFlowStatus := .idle
  displayCode : Text := []
  expiresAt : Text := []
  message : String := ""

/-- `PairingSessionController`. -/
structure PairingSessionController where
  active : Bool := false
  sessionId : String := ""
  displayCode : Text := []
  expiresAt : Text := []
  createdAt : Text := []
  userId : Option String := none
  allowedPlatforms : Option (List String) := none
  deadlineMs : ℕ := 0
  nextPollMs : ℕ := 0
  retryAttempts : ℕ := 0
  finalPollAttempted : Bool := false

/-- `kPollIntervalMs`. -/
def kPollIntervalMs : ℕ := 3000

/-- `kInitialRetryMs`. -/
def kInitialRetryMs : ℕ := 2000

/-- `kMaximumRetryMs`. -/
def kMaximumRetryMs : ℕ := 5000

/-- The delay behind so many retries. -/
def retryDelayMs (retryAttempts : ℕ) : ℕ :=
  (fun delay => min (delay * 2) kMaximumRetryMs)^[retryAttempts] kInitialRetryMs

namespace PairingSessionController

/-- `Finish`. -/
def finish (controller : PairingSessionController) (status : PairingFlowStatus)
    (message : String := "") : PairingFlowResult × PairingSessionController :=
  ({ status, expiresAt := controller.expiresAt, message },
    { controller with active := false, sessionId := "", displayCode := [], retryAttempts := 0 })

/-- `Begin`. -/
def begin (controller : PairingSessionController) (expiresInMinutes : ℤ)
    (created : PairingCreateResult) : PairingFlowResult × PairingSessionController :=
  if controller.active then
    ({ status := .alreadyActive, expiresAt := controller.expiresAt }, controller)
  else
    match created.status, created.value with
    | .success, some value =>
      if !isValidDisplayCode value.displayCode then
        ({ status := .failed, message := "服务端返回的绑定码格式非法" }, controller)
      else
        let controller := { controller with
          active := true
          sessionId := value.session.id
          displayCode := value.displayCode
          expiresAt := value.session.expiresAt
          createdAt := value.session.createdAt
          userId := value.session.userId
          allowedPlatforms := value.session.allowedPlatforms }
        let requestedDuration := (expiresInMinutes % uint64Size).toNat * 60 * 1000 % uint64Size
        match parseIsoMillis controller.createdAt, parseIsoMillis controller.expiresAt with
        | some serverCreated, some serverExpiry =>
          if serverExpiry ≤ serverCreated ∨ serverExpiry - serverCreated > requestedDuration then
            controller.finish .failed "服务端配对窗口超过请求上限"
          else if serverExpiry ≤ created.wallNow then
            controller.finish .timedOut "服务端配对窗口已过期"
          else
            let remaining := min requestedDuration (serverExpiry - created.wallNow)
            ({ status := .pending, displayCode := controller.displayCode,
               expiresAt := controller.expiresAt },
              { controller with
                deadlineMs := saturatingAdd created.now remaining
                nextPollMs := saturatingAdd created.now kPollIntervalMs
                retryAttempts := 0
                finalPollAttempted := false })
        | _, _ => controller.finish .failed "服务端配对窗口超过请求上限"
    | .credentialRejected, _ =>
      ({ status := .credentialRejected, message := created.message }, controller)
    | _, _ => ({ status := .failed, message := created.message }, controller)

/-- What `Poll` makes of a readable answer for its session. -/
def settle (controller : PairingSessionController) (finalPoll : Bool) (now : ℕ)
    (value : PairingSessionStatus) : PairingFlowResult × PairingSessionController :=
  if value.expiresAt ≠ controller.expiresAt ∨ value.createdAt ≠ controller.createdAt ∨
      value.userId ≠ controller.userId ∨ value.allowedPlatforms ≠ controller.allowedPlatforms then
    controller.finish .failed "配对查询响应改变了会话身份或窗口"
  else
    let controller := { controller with retryAttempts := 0 }
    if value.status = "confirmed" then controller.finish .confirmed
    else if value.status = "expired" then controller.finish .expired
    else if value.status = "cancelled" then controller.finish .cancelled
    else if finalPoll then controller.finish .timedOut "配对已到本地截止时间"
    else
      ({ status := .pending, expiresAt := controller.expiresAt },
        { controller with
          nextPollMs := min (saturatingAdd now kPollIntervalMs) controller.deadlineMs })

/-- `Poll`. -/
def poll (controller : PairingSessionController) (queried : PairingQueryResult) :
    PairingFlowResult × PairingSessionController :=
  if !controller.active then ({ status := .idle }, controller)
  else
    let now := queried.now
    let finalPoll := decide (now ≥ controller.deadlineMs)
    if finalPoll && controller.finalPollAttempted then
      controller.finish .timedOut "配对已到本地截止时间"
    else if !finalPoll && decide (now < controller.nextPollMs) then
      ({ status := .waiting, expiresAt := controller.expiresAt }, controller)
    else
      let controller := { controller with
        finalPollAttempted := finalPoll || controller.finalPollAttempted }
      match queried.status, queried.value with
      | .retryable, _ =>
        if finalPoll then controller.finish .timedOut queried.message
        else
          ({ status := .retrying, expiresAt := controller.expiresAt, message := queried.message },
            { controller with
              retryAttempts := if controller.retryAttempts < 31 then controller.retryAttempts + 1
                else controller.retryAttempts
              nextPollMs := min (saturatingAdd now (retryDelayMs controller.retryAttempts))
                controller.deadlineMs })
      | .notFound, _ => controller.finish .notFound queried.message
      | .credentialRejected, _ => controller.finish .credentialRejected queried.message
      | .success, some value => controller.settle finalPoll now value
      | _, _ => controller.finish .failed queried.message

end PairingSessionController

/-! ## The use case -/

/-- `BindingState`. -/
inductive BindingState where
  | idle
  | unavailable
  | pending
  | waiting
  | retrying
  | alreadyActive
  | confirmed
  | expired
  | cancelled
  | notFound
  | timedOut
  | credentialRejected
  | failed
  deriving DecidableEq

/-- `Map`. -/
def bindingState : PairingFlowStatus → BindingState
  | .idle => .idle
  | .pending => .pending
  | .waiting => .waiting
  | .retrying => .retrying
  | .alreadyActive => .alreadyActive
  | .confirmed => .confirmed
  | .expired => .expired
  | .cancelled => .cancelled
  | .notFound => .notFound
  | .timedOut => .timedOut
  | .credentialRejected => .credentialRejected
  | .failed => .failed

/-- `BindingResult`. -/
structure BindingResult where
  state : BindingState := .idle
  displayCode : Text := []
  expiresAt : Text := []
  expiresInMinutes : ℤ := 0
  generation : ℕ := 0
  message : String := ""

/-- The states with which `BindingPollLoop` polls again. -/
def BindingState.isOpen (state : BindingState) : Bool :=
  state == .pending || state == .waiting || state == .retrying

/-- `BindingUseCase`; `ready` tells whether a client and a clock are bound. -/
structure BindingUseCase where
  ready : Bool := false
  userId : Option String := none
  controller : Option PairingSessionController := none
  state : BindingState := .idle
  activeExpiryMinutes : ℤ := 0
  generation : ℕ := 0

namespace BindingUseCase

/-- `Convert`. -/
def convert (result : PairingFlowResult) (expiresInMinutes : ℤ) (generation : ℕ) : BindingResult :=
  { state := bindingState result.status, displayCode := result.displayCode,
    expiresAt := result.expiresAt, expiresInMinutes, generation, message := result.message }

/-- `active`. -/
def active (useCase : BindingUseCase) : Bool :=
  useCase.controller.any PairingSessionController.active

/-- The result that reports the state as it is. -/
def stateResult (useCase : BindingUseCase) : BindingResult :=
  { state := useCase.state, generation := useCase.generation }

/-- `Start` behind its checks: a new controller begins a session, or the state keeps its failure. -/
def beginSession (useCase : BindingUseCase) (expiresInMinutes : ℤ)
    (created : PairingCreateResult) : BindingResult × BindingUseCase :=
  let begun := ({} : PairingSessionController).begin expiresInMinutes created
  let useCase := { useCase with controller := some begun.2 }
  let useCase := if begun.1.status = .pending then
      { useCase with
        activeExpiryMinutes := expiresInMinutes
        generation := (useCase.generation + 1) % uint64Size }
    else useCase
  let result := convert begun.1 useCase.activeExpiryMinutes useCase.generation
  (result, { useCase with state := result.state })

/-- `Start`. -/
def start (useCase : BindingUseCase) (expiresInMinutes : ℤ) (created : PairingCreateResult) :
    BindingResult × BindingUseCase :=
  if !useCase.ready then
    ({ state := .unavailable, generation := useCase.generation, message := "IM Runtime 尚未 ready" },
      { useCase with state := .unavailable })
  else if expiresInMinutes < 1 ∨ expiresInMinutes > 10 then
    ({ state := .failed, generation := useCase.generation
       message := "绑定有效期必须为 1~10 分钟" }, useCase)
  else
    match useCase.controller.filter PairingSessionController.active with
    | some controller =>
      ({ state := .alreadyActive, displayCode := controller.displayCode
         expiresAt := controller.expiresAt, expiresInMinutes := useCase.activeExpiryMinutes
         generation := useCase.generation
         message := "已有绑定会话正在进行，请使用当前绑定码" },
        { useCase with state := .alreadyActive })
    | none =>
      if useCase.userId.all String.isEmpty then
        ({ state := .unavailable, generation := useCase.generation
           message := "IM 用户引用未配置" }, { useCase with state := .unavailable })
      else useCase.beginSession expiresInMinutes created

/-- `Poll`. -/
def poll (useCase : BindingUseCase) (queried : PairingQueryResult) :
    BindingResult × BindingUseCase :=
  match useCase.controller.filter PairingSessionController.active with
  | none => (useCase.stateResult, useCase)
  | some controller =>
    let (flowResult, controller) := controller.poll queried
    let result := convert flowResult useCase.activeExpiryMinutes useCase.generation
    (result, { useCase with
      controller := some controller
      state := result.state
      activeExpiryMinutes := if controller.active then useCase.activeExpiryMinutes else 0 })

/-- `AbortPending`. -/
def abortPending (useCase : BindingUseCase) (generation : ℕ) : BindingResult × BindingUseCase :=
  if generation ≠ useCase.generation ∨ !useCase.active then (useCase.stateResult, useCase)
  else
    ({ state := .failed, generation := useCase.generation, message := "绑定轮询任务无法启动" },
      { useCase with controller := none, activeExpiryMinutes := 0, state := .failed })

end BindingUseCase

/-! ## What one call does to the session -/

/-- The states that `BindingPollLoop` polls on for are those of a session that goes on. -/
theorem PairingSessionController.poll_isOpen {controller : PairingSessionController}
    (h : controller.active = true) (queried : PairingQueryResult) :
    (bindingState (controller.poll queried).1.status).isOpen =
      (controller.poll queried).2.active := by
  have hfinish : ∀ (c : PairingSessionController) (status : PairingFlowStatus) (message : String),
      (bindingState status).isOpen = false →
        (bindingState (c.finish status message).1.status).isOpen = (c.finish status message).2.active :=
    fun _ _ _ hstatus => hstatus
  unfold poll
  rw [if_neg (by rw [h]; exact Bool.false_ne_true)]
  dsimp only
  split_ifs
  · exact hfinish _ _ _ rfl
  · exact h.symm
  all_goals
    split
    · first
        | exact hfinish _ _ _ rfl
        | exact h.symm
    · exact hfinish _ _ _ rfl
    · exact hfinish _ _ _ rfl
    · unfold settle
      dsimp only
      split_ifs <;> first
        | exact hfinish _ _ _ rfl
        | exact h.symm
    · exact hfinish _ _ _ rfl

/-- A controller begins a session and reports it as pending, or reports why there is none. -/
theorem PairingSessionController.begin_cases (expiresInMinutes : ℤ)
    (created : PairingCreateResult) :
    ((({} : PairingSessionController).begin expiresInMinutes created).1.status = .pending ∧
        (({} : PairingSessionController).begin expiresInMinutes created).2.active = true) ∨
      (bindingState (({} : PairingSessionController).begin expiresInMinutes
          created).1.status).isOpen = false ∧
        (({} : PairingSessionController).begin expiresInMinutes created).2.active = false := by
  unfold begin
  rw [if_neg Bool.false_ne_true]
  split
  · dsimp only
    split
    · exact Or.inr ⟨rfl, rfl⟩
    · split
      · split_ifs
        · exact Or.inr ⟨rfl, rfl⟩
        · exact Or.inr ⟨rfl, rfl⟩
        · exact Or.inl ⟨rfl, rfl⟩
      · exact Or.inr ⟨rfl, rfl⟩
  · exact Or.inr ⟨rfl, rfl⟩
  · exact Or.inr ⟨rfl, rfl⟩

namespace BindingUseCase

variable {useCase : BindingUseCase}

/-- Without a session the state is none of those that are polled on. -/
def Settled (useCase : BindingUseCase) : Prop :=
  useCase.active = false → useCase.state.isOpen = false

theorem filter_active_eq_none (h : useCase.active = false) :
    useCase.controller.filter PairingSessionController.active = none := by
  unfold active at h
  cases hcontroller : useCase.controller with
  | none => rfl
  | some controller =>
      rw [hcontroller] at h
      exact Option.filter_eq_none_iff.2 fun _ hmem => by
        cases hmem
        simpa using h

theorem filter_active_eq_some (h : useCase.active = true) :
    ∃ controller, useCase.controller.filter PairingSessionController.active = some controller ∧
      controller.active = true := by
  unfold active at h
  cases hcontroller : useCase.controller with
  | none =>
      rw [hcontroller] at h
      cases h
  | some controller =>
      rw [hcontroller] at h
      exact ⟨controller, Option.filter_eq_some_iff.2 ⟨rfl, h⟩, h⟩

/-- The call has begun a session under the next generation. -/
structure BeginsSession (useCase : BindingUseCase) (answer : BindingResult × BindingUseCase) :
    Prop where
  idle : useCase.active = false
  state : answer.1.state = .pending
  active : answer.2.active = true
  result_generation : answer.1.generation = (useCase.generation + 1) % uint64Size
  generation : answer.2.generation = (useCase.generation + 1) % uint64Size

/-- The call has left the session as it was. -/
structure KeepsSession (useCase : BindingUseCase) (answer : BindingResult × BindingUseCase) :
    Prop where
  state : answer.1.state ≠ .pending
  active : answer.2.active = useCase.active
  generation : answer.2.generation = useCase.generation
  settled : useCase.Settled → answer.2.Settled

theorem beginSession_cases (h : useCase.active = false) (expiresInMinutes : ℤ)
    (created : PairingCreateResult) :
    BeginsSession useCase (useCase.beginSession expiresInMinutes created) ∨
      KeepsSession useCase (useCase.beginSession expiresInMinutes created) := by
  have hbegin := PairingSessionController.begin_cases expiresInMinutes created
  unfold beginSession
  dsimp only
  generalize ({} : PairingSessionController).begin expiresInMinutes created = begun at hbegin ⊢
  rcases hbegin with ⟨hpending, hactive⟩ | ⟨hclosed, hinactive⟩
  · rw [if_pos hpending]
    exact Or.inl ⟨h, congrArg bindingState hpending, hactive, rfl, rfl⟩
  · have hstatus : begun.1.status ≠ .pending := by
      intro hpending
      rw [hpending] at hclosed
      cases hclosed
    rw [if_neg hstatus]
    refine Or.inr ⟨fun hstate => ?_, hinactive.trans h.symm, rfl, fun _ _ => hclosed⟩
    rw [show bindingState begun.1.status = .pending from hstate] at hclosed
    cases hclosed

/-- `Start` begins a session, or leaves the one that there is. -/
theorem start_cases (useCase : BindingUseCase) (expiresInMinutes : ℤ)
    (created : PairingCreateResult) :
    BeginsSession useCase (useCase.start expiresInMinutes created) ∨
      KeepsSession useCase (useCase.start expiresInMinutes created) := by
  unfold start
  by_cases hready : (!useCase.ready) = true
  · rw [if_pos hready]
    exact Or.inr ⟨BindingState.noConfusion, rfl, rfl, fun _ _ => rfl⟩
  rw [if_neg hready]
  by_cases hexpiry : expiresInMinutes < 1 ∨ expiresInMinutes > 10
  · rw [if_pos hexpiry]
    exact Or.inr ⟨BindingState.noConfusion, rfl, rfl, id⟩
  rw [if_neg hexpiry]
  cases hactive : useCase.active with
  | true =>
      obtain ⟨controller, hfilter, -⟩ := filter_active_eq_some hactive
      rw [hfilter]
      exact Or.inr ⟨BindingState.noConfusion, rfl, rfl, fun _ _ => rfl⟩
  | false =>
      rw [filter_active_eq_none hactive]
      dsimp only
      by_cases huser : useCase.userId.all String.isEmpty = true
      · rw [if_pos huser]
        exact Or.inr ⟨BindingState.noConfusion, rfl, rfl, fun _ _ => rfl⟩
      · rw [if_neg huser]
        exact beginSession_cases hactive expiresInMinutes created

/-- `Poll` without a session reports the state. -/
theorem poll_idle (h : useCase.active = false) (queried : PairingQueryResult) :
    useCase.poll queried = (useCase.stateResult, useCase) := by
  unfold poll
  rw [filter_active_eq_none h]

/-- `Poll` with a session reports whether it goes on. -/
theorem poll_active (h : useCase.active = true) (queried : PairingQueryResult) :
    (useCase.poll queried).1.generation = useCase.generation ∧
      (useCase.poll queried).2.generation = useCase.generation ∧
      (useCase.poll queried).1.state.isOpen = (useCase.poll queried).2.active ∧
      (useCase.poll queried).2.Settled := by
  obtain ⟨controller, hfilter, hactive⟩ := filter_active_eq_some h
  have hopen := PairingSessionController.poll_isOpen hactive queried
  unfold poll
  rw [hfilter]
  exact ⟨rfl, rfl, hopen, fun hended => hopen.trans hended⟩

/-- `AbortPending` ends the session of its generation. -/
theorem abortPending_active (h : useCase.active = true) :
    (useCase.abortPending useCase.generation).1.generation = useCase.generation ∧
      (useCase.abortPending useCase.generation).2.generation = useCase.generation ∧
      (useCase.abortPending useCase.generation).2.active = false ∧
      (useCase.abortPending useCase.generation).2.Settled := by
  unfold abortPending
  rw [if_neg (by simp [h])]
  exact ⟨rfl, rfl, rfl, fun _ => rfl⟩

/-- Any other session is left alone, and its state reported. -/
theorem abortPending_other {generation : ℕ}
    (h : generation ≠ useCase.generation ∨ useCase.active = false) :
    useCase.abortPending generation = (useCase.stateResult, useCase) := by
  unfold abortPending
  rw [if_pos (by simpa using h)]

end BindingUseCase

end VoiceLife.Im
