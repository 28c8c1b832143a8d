import VoiceLife.Lib.CInt

/-! # `im_action_channel.cc`: the action channel of the device

Over one connection the channel reads the commands of a window, executes each operation once and reports
its result; results are cached until their window expires. The clock is a sequence of readings, the
stream a list of reads with the answers of the other ports, and `ResultIsReportable` any predicate.
-/

namespace VoiceLife.Im

/-! ## Times -/

/-- `read_digits`. -/
def readDigits (count : ℕ) (text : List Char) : Option (ℤ × List Char) :=
  let digits := text.take count
  if digits.length = count ∧ digits.all Char.isDigit then
    some (digits.foldl (fun value digit => value * 10 + ((digit.toNat : ℤ) - 48)) 0, text.drop count)
  else none

/-- `expect`. -/
def expect (expected : Char) : List Char → Option (List Char)
  | [] => none
  | character :: rest => if character = expected then some rest else none

/-- The digits after the point: the first three make up the milliseconds. -/
def readFraction : List Char → Option (ℤ × List Char)
  | '.' :: rest =>
      let digits := rest.takeWhile Char.isDigit
      if digits.isEmpty then none
      else some ((digits.take 3).foldl (fun millis digit => millis * 10 + ((digit.toNat : ℤ) - 48)) 0,
        rest.dropWhile Char.isDigit)
  | text => some (0, text)

/-- The minutes east of UTC at the end of the text. -/
def readOffset : List Char → Option (ℤ × List Char)
  | 'Z' :: rest => some (0, rest)
  | sign :: rest =>
      if sign = '+' ∨ sign = '-' then do
        let (hour, rest) ← readDigits 2 rest
        let rest ← expect ':' rest
        let (minute, rest) ← readDigits 2 rest
        let minutes := hour * 60 + minute
        some (if sign = '-' then -minutes else minutes, rest)
      else none
  | [] => none

/-- The days from the epoch to a date, with the unsigned arithmetic of the source. -/
def epochDays (year month day : ℤ) : ℤ :=
  let adjustedYear := if month ≤ 2 then year - 1 else year
  let adjustedMonth := if month ≤ 2 then month + 12 else month
  let era := (if adjustedYear ≥ 0 then adjustedYear else adjustedYear - 399).tdiv 400
  let yearOfEra := CInt.toUnsigned (adjustedYear - era * 400)
  let dayOfYear := CInt.toUnsigned ((153 * (adjustedMonth - 3) + 2) / 5 + day - 1)
  let dayOfEra := CInt.toUnsigned (yearOfEra * 365 + yearOfEra / 4 - yearOfEra / 100 + dayOfYear)
  era * 146097 + dayOfEra - 719468

/-- `IsoToEpochMillis`. -/
def isoToEpochMillis (iso : String) : Option ℤ := do
  let (year, rest) ← readDigits 4 iso.toList
  let rest ← expect '-' rest
  let (month, rest) ← readDigits 2 rest
  let rest ← expect '-' rest
  let (day, rest) ← readDigits 2 rest
  let rest ← expect 'T' rest
  let (hour, rest) ← readDigits 2 rest
  let rest ← expect ':' rest
  let (minute, rest) ← readDigits 2 rest
  let rest ← expect ':' rest
  let (second, rest) ← readDigits 2 rest
  let (millis, rest) ← readFraction rest
  let (offsetMinutes, rest) ← readOffset rest
  if rest.isEmpty then
    let secondsOfDay := hour * 3600 + minute * 60 + second
    some (epochDays year month day * 86400000 + secondsOfDay * 1000 + millis - offsetMinutes * 60000)
  else none

/-- `EpochMillisOrExpired`. -/
def epochMillisOrExpired (iso : String) : ℤ :=
  (isoToEpochMillis iso).getD 0

/-- `NowEpochMillis`. -/
def nowEpochMillis (nowIso : String) : ℤ :=
  (isoToEpochMillis nowIso).getD 9223372036854775807

/-! ## Commands, results and windows -/

/-- `ReminderActionCommand`. -/
structure ReminderActionCommand where
  schemaVersion : String := "1"
  commandId : String
  operationId : String
  correlationId : String
  deviceId : String
  actorBindingId : String
  reminderTriggerId : String
  action : String
  minutes : Option ℤ := none
  occurredAt : String
  expiresAt : String

/-- `ReminderActionResult`, over any type of details. -/
structure ReminderActionResult (δ : Type*) where
  schemaVersion : String := "1"
  operationId : String
  reminderTriggerId : String
  status : String
  nextTriggerAt : Option String := none
  errorCode : Option String := none
  details : Option δ := none
  occurredAt : String

/-- `ReportStatus`. -/
inductive ReportStatus where
  | submitted
  | credentialRejected
  | retryable
  | rejected
  deriving DecidableEq

/-- `ActionRunStatus`. -/
inductive ActionRunStatus where
  | finished
  | disconnected
  | windowExpired

/-- `ActionWindow`. -/
structure ActionWindow where
  reminderTriggerId : String
  expiresAt : String

/-- `ActionRunResult`. -/
structure ActionRunResult where
  status : ActionRunStatus := .finished
  executed : ℕ := 0
  confirmed : ℕ := 0
  dropped : ℕ := 0

/-- `StreamRead`. -/
inductive StreamRead where
  | command (command : ReminderActionCommand)
  | endOfStream
  | networkError
  | protocolError

/-- `CachedExecution`. -/
structure CachedExecution (δ : Type*) where
  windowExpiresMs : ℤ
  result : ReminderActionResult δ

variable {δ : Type*}

/-- A read from the stream, and what the ports answer while its command is handled: the device id, the
executor's result and the outcome of the report. -/
structure Delivery (δ : Type*) where
  read : StreamRead
  deviceId : String
  outcome : ReminderActionResult δ
  report : ReportStatus

/-- One connection for a window. After its deliveries the stream ends. -/
structure Connection (δ : Type*) where
  window : ActionWindow
  opened : Bool
  deliveries : List (Delivery δ)

/-- The clock by its readings, and `ResultIsReportable`. -/
structure Ports (δ : Type*) where
  nowIso : ℕ → String
  resultIsReportable : ReminderActionResult δ → Bool

/-- `ImActionChannel`, with the number of clock readings so far. -/
structure ImActionChannel (δ : Type*) where
  cursors : String → String := fun _ => ""
  executed : String → Option (CachedExecution δ) := fun _ => none
  readings : ℕ := 0

/-- What the channel did with a command: the result it executed, the result it reported with the
outcome, and the cursor it wrote. -/
structure Handling (δ : Type*) where
  command : ReminderActionCommand
  window : ActionWindow
  deviceId : String
  readings : ℕ
  execution : Option (ReminderActionResult δ) := none
  report : Option (ReminderActionResult δ × ReportStatus) := none
  cursor : Option String := none

/-- The state that a command leaves. -/
structure Handled (δ : Type*) where
  channel : ImActionChannel δ
  result : ActionRunResult
  hasUnconfirmed : Bool
  handling : Handling δ

/-- `IdempotencyKey`. -/
def idempotencyKey (triggerId operationId : String) : String :=
  triggerId ++ "\x1f" ++ operationId

/-- The result with the identity of the command. -/
def ReminderActionResult.identified (outcome : ReminderActionResult δ)
    (command : ReminderActionCommand) : ReminderActionResult δ :=
  { outcome with
    operationId := command.operationId
    reminderTriggerId := command.reminderTriggerId }

/-- The result of a command that is past its time. -/
def expiredResult (command : ReminderActionCommand) (occurredAt : String) : ReminderActionResult δ where
  operationId := command.operationId
  reminderTriggerId := command.reminderTriggerId
  status := "expired"
  occurredAt := occurredAt

namespace ImActionChannel

/-- The reading that the clock gives next. -/
def nowMs (ports : Ports δ) (channel : ImActionChannel δ) : ℤ :=
  nowEpochMillis (ports.nowIso channel.readings)

/-- The channel after a reading of the clock. -/
def tick (channel : ImActionChannel δ) : ImActionChannel δ :=
  { channel with readings := channel.readings + 1 }

/-- `cursors_[trigger_id] = command_id`. -/
def setCursor (channel : ImActionChannel δ) (triggerId commandId : String) : ImActionChannel δ :=
  { channel with cursors := Function.update channel.cursors triggerId commandId }

/-- `executed_[cache_key] = execution`. -/
def remember (channel : ImActionChannel δ) (key : String) (execution : CachedExecution δ) :
    ImActionChannel δ :=
  { channel with executed := Function.update channel.executed key (some execution) }

/-- The purge of the cache. -/
def purge (channel : ImActionChannel δ) (nowMs : ℤ) : ImActionChannel δ :=
  { channel with
    executed := fun key => (channel.executed key).filter fun cached => !(cached.windowExpiresMs ≤ nowMs) }

/-- `SubmitReminderActionResult` and `Settle`. -/
def settle (channel : ImActionChannel δ) (report : ReportStatus) (triggerId : String)
    (result : ActionRunResult) (reported : ReminderActionResult δ) (handling : Handling δ) : Handled δ :=
  if report = .submitted then
    { channel := channel.setCursor triggerId handling.command.commandId
      result := { result with confirmed := result.confirmed + 1 }
      hasUnconfirmed := false
      handling := { handling with
        report := some (reported, report)
        cursor := some handling.command.commandId } }
  else
    { channel, result
      hasUnconfirmed := true
      handling := { handling with report := some (reported, report) } }

/-- `HandleCommand`. -/
def handleCommand (ports : Ports δ) (window : ActionWindow) (delivery : Delivery δ)
    (command : ReminderActionCommand) (result : ActionRunResult) (channel : ImActionChannel δ) :
    Handled δ :=
  let handling : Handling δ :=
    { command, window, deviceId := delivery.deviceId, readings := channel.readings }
  let key := idempotencyKey window.reminderTriggerId command.operationId
  if command.deviceId ≠ delivery.deviceId ∨ command.reminderTriggerId ≠ window.reminderTriggerId then
    { channel := channel.setCursor window.reminderTriggerId command.commandId
      result := { result with dropped := result.dropped + 1 }
      hasUnconfirmed := false
      handling := { handling with cursor := some command.commandId } }
  else if epochMillisOrExpired command.expiresAt ≤ channel.nowMs ports then
    let expired := expiredResult command (ports.nowIso (channel.readings + 1))
    channel.tick.tick.settle delivery.report window.reminderTriggerId result expired handling
  else
    match channel.executed key with
    | some cached =>
        channel.tick.settle delivery.report window.reminderTriggerId result cached.result handling
    | none =>
        let outcome := delivery.outcome.identified command
        if !ports.resultIsReportable outcome then
          { channel := channel.tick, result
            hasUnconfirmed := true
            handling := { handling with execution := some outcome } }
        else
          (channel.tick.remember key ⟨epochMillisOrExpired window.expiresAt, outcome⟩).settle
            delivery.report window.reminderTriggerId { result with executed := result.executed + 1 }
            outcome { handling with execution := some outcome }

/-- The loop of `Run`. -/
def readCommands (ports : Ports δ) (window : ActionWindow) :
    List (Delivery δ) → ActionRunResult → ImActionChannel δ →
      ImActionChannel δ × ActionRunResult × List (Handling δ)
  | [], result, channel =>
      if channel.nowMs ports ≥ epochMillisOrExpired window.expiresAt then
        (channel.tick, { result with status := .windowExpired }, [])
      else (channel.tick, { result with status := .finished }, [])
  | delivery :: deliveries, result, channel =>
      if channel.nowMs ports ≥ epochMillisOrExpired window.expiresAt then
        (channel.tick, { result with status := .windowExpired }, [])
      else
        match delivery.read with
        | .endOfStream => (channel.tick, { result with status := .finished }, [])
        | .networkError => (channel.tick, { result with status := .disconnected }, [])
        | .protocolError => (channel.tick, { result with status := .disconnected }, [])
        | .command command =>
            let handled := channel.tick.handleCommand ports window delivery command result
            if handled.hasUnconfirmed then
              (handled.channel, { handled.result with status := .disconnected }, [handled.handling])
            else
              let (channel, result, handlings) :=
                readCommands ports window deliveries handled.result handled.channel
              (channel, result, handled.handling :: handlings)

/-- `Run`. -/
def run (ports : Ports δ) (channel : ImActionChannel δ) (connection : Connection δ) :
    ImActionChannel δ × ActionRunResult × List (Handling δ) :=
  let nowMs := channel.nowMs ports
  if nowMs ≥ epochMillisOrExpired connection.window.expiresAt then
    (channel.tick, { status := .windowExpired }, [])
  else
    let channel := channel.tick.purge nowMs
    if !connection.opened then (channel, { status := .disconnected }, [])
    else channel.readCommands ports connection.window connection.deliveries {}

end ImActionChannel

end VoiceLife.Im
