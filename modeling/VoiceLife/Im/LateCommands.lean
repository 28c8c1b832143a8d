import VoiceLife.Im.ActionReplays

/-! # Commands that arrive after their window

`Run` looks at the window before it waits for a command, and `HandleCommand` looks at the command alone.
A command that arrives when the window is over is therefore executed, unless the channel has another
reason not to.
-/

namespace VoiceLife.Im

variable {δ : Type*} {ports : Ports δ}

/-! ## The calls of `HandleCommand` -/

/-- A call of `HandleCommand`, with the state of the loop before it. -/
structure HandleCall (δ : Type*) where
  channel : ImActionChannel δ
  window : ActionWindow
  delivery : Delivery δ
  command : ReminderActionCommand
  result : ActionRunResult

namespace HandleCall

/-- What the call does. -/
def handled (ports : Ports δ) (call : HandleCall δ) : Handled δ :=
  call.channel.handleCommand ports call.window call.delivery call.command call.result

/-- The command is neither for another device or window, nor past its own time, nor executed before; and
the window is over. -/
def late (ports : Ports δ) (call : HandleCall δ) : Bool :=
  call.command.deviceId = call.delivery.deviceId &&
    call.command.reminderTriggerId = call.window.reminderTriggerId &&
      call.channel.nowMs ports < epochMillisOrExpired call.command.expiresAt &&
        (call.channel.executed (idempotencyKey call.window.reminderTriggerId
          call.command.operationId)).isNone &&
          epochMillisOrExpired call.window.expiresAt ≤ call.channel.nowMs ports

end HandleCall

/-- The calls of the loop of `Run`. -/
def handleCalls (ports : Ports δ) (window : ActionWindow) :
    List (Delivery δ) → ActionRunResult → ImActionChannel δ → List (HandleCall δ)
  | [], _, _ => []
  | delivery :: deliveries, result, channel =>
      if channel.nowMs ports ≥ epochMillisOrExpired window.expiresAt then []
      else
        match delivery.read with
        | .command command =>
            let call : HandleCall δ := ⟨channel.tick, window, delivery, command, result⟩
            let handled := call.handled ports
            if handled.hasUnconfirmed then [call]
            else call :: handleCalls ports window deliveries handled.result handled.channel
        | _ => []

/-- The calls of `Run`. -/
def runCalls (ports : Ports δ) (channel : ImActionChannel δ) (connection : Connection δ) :
    List (HandleCall δ) :=
  let nowMs := channel.nowMs ports
  if nowMs ≥ epochMillisOrExpired connection.window.expiresAt then []
  else if !connection.opened then []
  else handleCalls ports connection.window connection.deliveries {} (channel.tick.purge nowMs)

theorem readCommands_handlings (window : ActionWindow) (deliveries : List (Delivery δ))
    (result : ActionRunResult) (channel : ImActionChannel δ) :
    (channel.readCommands ports window deliveries result).2.2 =
      (handleCalls ports window deliveries result channel).map fun call =>
        (call.handled ports).handling := by
  induction deliveries generalizing result channel with
  | nil =>
      unfold ImActionChannel.readCommands handleCalls
      split <;> rfl
  | cons delivery deliveries ih =>
      unfold ImActionChannel.readCommands handleCalls
      split
      · rfl
      · cases delivery.read with
        | command command =>
            dsimp only [HandleCall.handled]
            split
            · rfl
            · rw [List.map_cons]
              exact congrArg _ (ih _ _)
        | _ => rfl

theorem run_handlings (channel : ImActionChannel δ) (connection : Connection δ) :
    (channel.run ports connection).2.2 =
      (runCalls ports channel connection).map fun call => (call.handled ports).handling := by
  unfold ImActionChannel.run runCalls
  dsimp only
  split
  · rfl
  · split
    · rfl
    · exact readCommands_handlings connection.window connection.deliveries {} _

/-! ## One call -/

namespace Handling

/-- The clock as last read before the executor is called. -/
def lookedMs (ports : Ports δ) (x : Handling δ) : ℤ :=
  nowEpochMillis (ports.nowIso x.readings)

/-- The executor is only called before the end of the window and of the command. -/
def ExecutesInTime (ports : Ports δ) (x : Handling δ) : Prop :=
  x.execution.isSome → x.lookedMs ports < x.windowExpiresMs ∧
    x.lookedMs ports < epochMillisOrExpired x.command.expiresAt

/-- A command that arrived between the last two readings, at the end of the window or later, is not
executed. -/
def ArrivesInTime (ports : Ports δ) (x : Handling δ) : Prop :=
  ∀ arrival, nowEpochMillis (ports.nowIso (x.readings - 1)) ≤ arrival →
    arrival ≤ x.lookedMs ports → x.windowExpiresMs ≤ arrival → x.execution = none

theorem ExecutesInTime.arrivesInTime {x : Handling δ} (h : x.ExecutesInTime ports) :
    x.ArrivesInTime ports := by
  intro arrival _ hlooked hlate
  rw [← Option.not_isSome_iff_eq_none]
  intro hexecuted
  obtain ⟨hwindow, -⟩ := h hexecuted
  exact absurd (hlate.trans hlooked) (not_le.2 hwindow)

end Handling

namespace HandleCall

theorem handled_fields (call : HandleCall δ) : (call.handled ports).handling.window = call.window ∧
    (call.handled ports).handling.command = call.command ∧
      (call.handled ports).handling.readings = call.channel.readings := by
  have hsettle : ∀ (before : ImActionChannel δ) (report : ReportStatus) (triggerId : String)
      (result : ActionRunResult) (reported : ReminderActionResult δ) (handling : Handling δ),
      let after := (before.settle report triggerId result reported handling).handling
      after.window = handling.window ∧ after.command = handling.command ∧
        after.readings = handling.readings := by
    intro before report triggerId result reported handling
    dsimp only [ImActionChannel.settle]
    split <;> exact ⟨rfl, rfl, rfl⟩
  unfold handled ImActionChannel.handleCommand
  dsimp only
  split
  · exact ⟨rfl, rfl, rfl⟩
  · split
    · exact hsettle _ _ _ _ _ _
    · split
      · exact hsettle _ _ _ _ _ _
      · split
        · exact ⟨rfl, rfl, rfl⟩
        · exact hsettle _ _ _ _ _ _

/-- The executor is called for a command of this device and window, within its own time, that was not
executed before. -/
theorem handled_executes (call : HandleCall δ) : (call.handled ports).handling.execution.isSome ↔
    call.command.deviceId = call.delivery.deviceId ∧
      call.command.reminderTriggerId = call.window.reminderTriggerId ∧
        call.channel.nowMs ports < epochMillisOrExpired call.command.expiresAt ∧
          call.channel.executed (idempotencyKey call.window.reminderTriggerId
            call.command.operationId) = none := by
  have hsettle : ∀ (before : ImActionChannel δ) (report : ReportStatus) (triggerId : String)
      (result : ActionRunResult) (reported : ReminderActionResult δ) (handling : Handling δ),
      (before.settle report triggerId result reported handling).handling.execution =
        handling.execution := by
    intro before report triggerId result reported handling
    unfold ImActionChannel.settle
    split <;> rfl
  unfold handled ImActionChannel.handleCommand
  dsimp only
  split
  · rename_i hforeign
    constructor
    · intro h
      cases h
    · rintro ⟨hdevice, htrigger, -⟩
      rcases hforeign with hforeign | hforeign
      · exact absurd hdevice hforeign
      · exact absurd htrigger hforeign
  rename_i hown
  rw [not_or, not_not, not_not] at hown
  split
  · rename_i hexpired
    rw [hsettle]
    constructor
    · intro h
      cases h
    · rintro ⟨-, -, hvalid, -⟩
      exact absurd hexpired (not_le.2 hvalid)
  rename_i hvalid
  split
  · rename_i hcached
    rw [hsettle]
    constructor
    · intro h
      cases h
    · rintro ⟨-, -, -, hnone⟩
      rw [hcached] at hnone
      cases hnone
  · rename_i hnone
    split
    · exact ⟨fun _ => ⟨hown.1, hown.2, not_le.1 hvalid, hnone⟩, fun _ => rfl⟩
    · rw [hsettle]
      exact ⟨fun _ => ⟨hown.1, hown.2, not_le.1 hvalid, hnone⟩, fun _ => rfl⟩

theorem executesInTime_iff (call : HandleCall δ) :
    (call.handled ports).handling.ExecutesInTime ports ↔ call.late ports = false := by
  obtain ⟨hwindow, hcommand, hreadings⟩ := @handled_fields δ ports call
  have hlooked : (call.handled ports).handling.lookedMs ports = call.channel.nowMs ports := by
    rw [Handling.lookedMs, hreadings, ImActionChannel.nowMs]
  rw [Handling.ExecutesInTime, hlooked, Handling.windowExpiresMs, hwindow, hcommand, handled_executes,
    ← Bool.not_eq_true, late]
  simp only [Bool.and_eq_true, decide_eq_true_eq, Option.isNone_iff_eq_none]
  constructor
  · rintro h ⟨⟨⟨⟨hdevice, htrigger⟩, hvalid⟩, hnone⟩, hlate⟩
    exact absurd hlate (not_le.2 (h ⟨hdevice, htrigger, hvalid, hnone⟩).1)
  · rintro h ⟨hdevice, htrigger, hvalid, hnone⟩
    exact ⟨not_le.1 fun hlate => h ⟨⟨⟨⟨hdevice, htrigger⟩, hvalid⟩, hnone⟩, hlate⟩, hvalid⟩

end HandleCall

/-! ## Whole sessions -/

/-- No call of the next connection is late. -/
def NoLateCall (ports : Ports δ) (session : Session δ) (connection : Connection δ) : Prop :=
  ∀ call ∈ runCalls ports session.channel connection, call.late ports = false

theorem step_executesInTime_iff (session : Session δ) (connection : Connection δ)
    (h : ∀ x ∈ session.handled, x.ExecutesInTime ports) :
    (∀ x ∈ (session.step ports connection).handled, x.ExecutesInTime ports) ↔
      NoLateCall ports session connection := by
  have hhandled : (session.step ports connection).handled = session.handled ++
      (runCalls ports session.channel connection).map fun call => (call.handled ports).handling := by
    rw [← run_handlings]
    rfl
  rw [hhandled]
  constructor
  · intro hall call hcall
    apply call.executesInTime_iff.1
    exact hall _ (List.mem_append_right _ (List.mem_map_of_mem hcall))
  · intro hnone x hx
    rcases List.mem_append.1 hx with hx | hx
    · exact h x hx
    · obtain ⟨call, hcall, rfl⟩ := List.mem_map.1 hx
      exact call.executesInTime_iff.2 (hnone call hcall)

/-- The executor is called in time throughout a session, and for no command that arrived too late,
exactly if no command that would be executed comes when its window is over. -/
theorem executes_in_time_iff (ports : Ports δ) (connections : List (Connection δ)) :
    (∀ x ∈ (Run.run (Session.step ports) {} connections).handled,
      x.ExecutesInTime ports ∧ x.ArrivesInTime ports) ↔
    Run.AllSteps (Session.step ports) (NoLateCall ports) {} connections := by
  have hstates : Run.AllStates (Session.step ports)
      (fun session => ∀ x ∈ session.handled, x.ExecutesInTime ports) {} connections ↔
      Run.AllSteps (Session.step ports) (NoLateCall ports) {} connections := by
    refine Run.allStates_iff_allSteps (fun session connection h => ?_) ?_
    · exact step_executesInTime_iff session connection h
    · intro x hx
      cases hx
  rw [← hstates]
  constructor
  · intro h done hdone
    -- what is handled stays in the list
    obtain ⟨more, rfl⟩ := hdone
    have hkept : ∀ (more : List (Connection δ)) (session : Session δ), ∀ x ∈ session.handled,
        x ∈ (Run.run (Session.step ports) session more).handled := by
      intro more
      induction more with
      | nil => exact fun _ _ hx => hx
      | cons connection more ih =>
          intro session x hx
          exact ih (session.step ports connection) x (List.mem_append_left _ hx)
    intro x hx
    rw [Run.run_append] at h
    exact (h x (hkept more _ x hx)).1
  · intro h x hx
    exact ⟨h.last x hx, (h.last x hx).arrivesInTime⟩

/-! ## A command at the end of its window -/

/-- A window that ends a minute after the first reading, and a command that is valid for longer. -/
def lateConnection : Connection Unit :=
  { sampleConnection "2026-08-03T00:30:00.000Z" .submitted with
    window := ⟨"trigger-1", "2026-08-03T00:01:00.000Z"⟩ }

/-- The command comes when the clock has reached the end of the window, and is executed. -/
theorem late_command_executed :
    ¬ ∀ (ports : Ports Unit), Monotone (fun reading => nowEpochMillis (ports.nowIso reading)) →
      ∀ connections : List (Connection Unit),
        ∀ x ∈ (Run.run (Session.step ports) {} connections).handled,
          x.ExecutesInTime ports ∧ x.ArrivesInTime ports := by
  intro h
  have hnone := (executes_in_time_iff samplePorts [lateConnection]).1
    (h samplePorts samplePorts_monotone [lateConnection])
  have hlate : ∃ call ∈ runCalls samplePorts {} lateConnection, call.late samplePorts = true := by
    decide +kernel
  obtain ⟨call, hcall, hlate⟩ := hlate
  rw [hnone.1 call hcall] at hlate
  cases hlate

end VoiceLife.Im
