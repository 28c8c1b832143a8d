import VoiceLife.Contracts.Status
import VoiceLife.Timing.TimingTheorems

/-! # `esp_timing_runtime.cc`: the runner task on the device

Four parties share the runtime: clients that submit commands, the task of the timer, the runner task
and the owner that stops it. Each of them is a program whose place is part of the state, and a step of
the runtime is one step of one of them. What the platform answers and what the clock shows come with
the step. Strings of the error log are left out.
-/

namespace VoiceLife

/-! ## The timer -/

/-- What the functions of `esp_timer` answer. -/
inductive EspErr where
  | ok
  | noMem
  | invalidState
  | fail
deriving DecidableEq, Repr

/-- A timer that has been started: the reading of the clock it was computed from, and the delay. -/
structure Alarm where
  armedAt : ℤ
  delayUs : ℕ
deriving DecidableEq, Repr

/-- The place of the timer task in `TimerEntry`. -/
inductive TimerEntry where
  | idle
  | dispatched
  | accessing
  | calling
  | quiescing
  | completing
  | leaving
deriving DecidableEq, Repr

/-- `EspOneShotTimer`; `callback` says whether a callback is set. -/
structure EspOneShotTimer where
  alarm : Option Alarm := none
  entry : TimerEntry := .idle
  quiescing : Bool := false
  callbackAccessingOwner : Bool := false
  barrierArmed : Bool := false
  quiesced : Bool := false
  callback : Bool := true
  quiescedCallback : Bool := false
deriving DecidableEq, Repr

namespace EspOneShotTimer

/-- `esp_timer_stop`. A timer that is not running answers `ESP_ERR_INVALID_STATE`. -/
def stop (timer : EspOneShotTimer) (answer : EspErr) : Bool × EspOneShotTimer :=
  if answer = .ok ∨ answer = .invalidState then (true, { timer with alarm := none })
  else (false, timer)

/-- `ArmAfter`, for a delay computed from a reading of the clock. -/
def armAfter (timer : EspOneShotTimer) (armNow delay : ℤ) (stopAnswer startAnswer : EspErr) :
    Status × EspOneShotTimer :=
  match timer.stop stopAnswer with
  | (false, timer) => (.error .internal "停止已有 ESP Timing timer 失败", timer)
  | (true, timer) =>
    let delayUs := if delay > 0 then delay.toNat else 1
    match startAnswer with
    | .ok => (.success, { timer with alarm := some ⟨armNow, delayUs⟩ })
    | .noMem => (.error .unavailable "设置 ESP Timing timer 失败", timer)
    | _ => (.error .internal "设置 ESP Timing timer 失败", timer)

/-- `Disarm`. -/
def disarm (timer : EspOneShotTimer) (stopAnswer : EspErr) : Status × EspOneShotTimer :=
  match timer.stop stopAnswer with
  | (true, timer) => (.success, timer)
  | (false, timer) => (.error .internal "停止 ESP Timing timer 失败", timer)

/-- One step of the timer task, and whether it calls the callback. -/
def taskStep (timer : EspOneShotTimer) : Bool × EspOneShotTimer :=
  match timer.entry with
  | .idle =>
    if timer.alarm.isSome then (false, { timer with alarm := none, entry := .dispatched })
    else (false, timer)
  | .dispatched => (false, { timer with callbackAccessingOwner := true, entry := .accessing })
  | .accessing =>
    (false, { timer with entry := if timer.quiescing then .quiescing else .calling })
  | .quiescing =>
    -- the critical section: whoever finds the barrier armed takes it, and the alarm with it
    if timer.barrierArmed then
      (false, { timer with barrierArmed := false, alarm := none, entry := .completing })
    else (false, { timer with entry := .leaving })
  | .completing => (false, { timer with quiesced := true, entry := .leaving })
  | .calling => (timer.callback, { timer with entry := .leaving })
  | .leaving => (false, { timer with callbackAccessingOwner := false, entry := .idle })

end EspOneShotTimer

/-- The place of the runner task in `ClearExpiryCallbackAndWait`. -/
inductive Clearing where
  | begin
  | stop
  | semaphore
  | barrier
  | waiting
  | spinning
deriving DecidableEq, Repr

/-! ## The runtime -/

/-- The place of the runner task in `Run`; `stop` says whether it is about to end. -/
inductive RunnerTask where
  | waiting
  | woken
  | draining (stop : Bool)
  | checking
  | starting (stop : Bool)
  | processing (stop : Bool) (count : ℕ) (appliedAt : ℤ)
  | handling (stop : Bool) (count : ℕ) (appliedAt : ℤ) (handler : Script)
  | arming (nextWakeAt : Option ℤ)
  | delaying
  | clearing (phase : Clearing)
  | giving
  | finished
  | aborted

/-- The place of the client that holds the submission mutex in `Enqueue`. -/
inductive Submission where
  | free
  | holding (command : PendingCommand)
  | sent

/-- The place of the owner in `Stop`. -/
inductive Owner where
  | running
  | closed
  | stopping
  | signalled
  | joined
  | deleted
deriving DecidableEq, Repr

/-- What the platform answers while the runner task takes a step. -/
structure Answers where
  clock : ℤ := 0
  memory : Bool := true
  stop : EspErr := .ok
  start : EspErr := .ok
deriving DecidableEq, Repr

/-- `kCommandQueueDepth`. -/
def kCommandQueueDepth : ℕ := 32

/-- `EspTimingTaskRuntime::Impl` after a `Start` that succeeded. `wakeTask` says whether the wake port
knows the runner task and `asserted` whether an assertion has failed; `accepted` keeps the commands
that clients were told are accepted. -/
structure EspTimingTaskRuntime where
  runner : InMemoryTimingTaskRunner := {}
  timer : EspOneShotTimer := {}
  commandQueue : List PendingCommand := []
  stopped : Bool := false
  submission : Submission := .free
  wakeTask : Bool := true
  accepting : Bool := true
  stopping : Bool := false
  notified : Bool := false
  task : RunnerTask := .waiting
  owner : Owner := .running
  asserted : Bool := false
  accepted : List TaskOrder := []

namespace EspTimingTaskRuntime

/-- `FreeRtosRunnerWake::Notify`. -/
def notify (s : EspTimingTaskRuntime) : EspTimingTaskRuntime :=
  if s.wakeTask then { s with notified := true } else { s with asserted := true }

/-- `xQueueSend` of a command that is taken. -/
def send (s : EspTimingTaskRuntime) (command : PendingCommand) : EspTimingTaskRuntime :=
  { s with
    commandQueue := s.commandQueue ++ [command]
    accepted := s.accepted ++ [command.order] }

/-- Whether `Enqueue` sends a command once it has the mutex. -/
def sends (s : EspTimingTaskRuntime) (memory : Bool) : Bool :=
  s.accepting && memory && decide (s.commandQueue.length < kCommandQueueDepth)

/-- `Enqueue` on the runner task, from a handler: it takes the mutex if it is free, and gives it back
before any other party could tell. -/
def enqueue (s : EspTimingTaskRuntime) (memory : Bool) (command : PendingCommand) :
    EspTimingTaskRuntime :=
  match s.submission with
  | .free => if s.sends memory then (s.send command).notify else s
  | _ => s

/-! ### Clients -/

/-- A client calls `RegisterTask` or `CancelTask`; it has nothing to do if the mutex is taken. -/
def call (s : EspTimingTaskRuntime) (command : PendingCommand) : EspTimingTaskRuntime :=
  match s.submission with
  | .free => if s.owner = .deleted then s else { s with submission := .holding command }
  | _ => s

/-- The client that holds the mutex goes on in `Enqueue`. -/
def submit (s : EspTimingTaskRuntime) (memory : Bool) : EspTimingTaskRuntime :=
  match s.submission with
  | .free => s
  | .holding command =>
    if s.sends memory then { s.send command with submission := .sent }
    else { s with submission := .free }
  | .sent => { s.notify with submission := .free }

/-! ### The timer task -/

/-- One step of the timer task. -/
def timerTask (s : EspTimingTaskRuntime) : EspTimingTaskRuntime :=
  let (calls, timer) := s.timer.taskStep
  let s := { s with timer }
  if calls then s.notify else s

/-! ### The runner task -/

/-- One step of `ClearExpiryCallbackAndWait`; `none` if it aborts. -/
def clearStep (s : EspTimingTaskRuntime) (answers : Answers) : Clearing → Option EspTimingTaskRuntime
  | .begin =>
    if s.timer.quiescedCallback then
      some { s with timer := { s.timer with callback := false }, task := .giving }
    else some { s with timer := { s.timer with quiescing := true }, task := .clearing .stop }
  | .stop =>
    match s.timer.stop answers.stop with
    | (true, timer) => some { s with timer, task := .clearing .semaphore }
    | (false, _) => none
  | .semaphore => some { s with timer := { s.timer with quiesced := false }, task := .clearing .barrier }
  | .barrier =>
    match answers.start with
    | .ok =>
      some { s with
        timer := { s.timer with barrierArmed := true, alarm := some ⟨answers.clock, 1⟩ }
        task := .clearing .waiting }
    | _ => none
  | .waiting =>
    if s.timer.quiesced then
      some { s with timer := { s.timer with quiesced := false }, task := .clearing .spinning }
    else some s
  | .spinning =>
    if s.timer.callbackAccessingOwner then some s
    else
      some { s with
        timer := { s.timer with callback := false, quiescedCallback := true }
        task := .giving }

/-- The end of `ProcessWake`: the timer for the next task. -/
def armStep (s : EspTimingTaskRuntime) (answers : Answers) (nextWakeAt : Option ℤ) :
    EspTimingTaskRuntime :=
  let (status, timer) :=
    match nextWakeAt with
    | none => s.timer.disarm answers.stop
    | some wakeAt =>
      s.timer.armAfter answers.clock (max 0 (wakeAt - answers.clock)) answers.stop answers.start
  { s with
    timer
    task := if status.ok then .waiting else if status.code = .internal then .aborted else .delaying }

/-- One command of `ProcessPendingCommands`, up to its handler. -/
def applyNext (s : EspTimingTaskRuntime) (stop : Bool) (count : ℕ) (appliedAt : ℤ) :
    EspTimingTaskRuntime :=
  match s.runner.commands with
  | [] => s
  | .register command :: commands =>
    let applied := { s.runner with commands }.applyRegisterTask command appliedAt
    { s with
      runner := applied.2.record (.registerResult true command.taskId command.triggerAt applied.1)
      task := .handling stop count appliedAt (command.onResult applied.1) }
  | .cancel command :: commands =>
    let applied := { s.runner with commands }.applyCancelTask command.taskId appliedAt
    { s with
      runner := applied.2.record (.cancelResult true command.taskId applied.1)
      task := .handling stop count appliedAt (command.onResult applied.1) }

/-- One step of a handler. It is not in a callback, so its commands go to the queue of the runtime, and
`ProcessPendingCommands` is running already. -/
def handleStep (s : EspTimingTaskRuntime) (memory stop : Bool) (count : ℕ) (appliedAt : ℤ) :
    Script → EspTimingTaskRuntime
  | .done => { s with task := .processing stop count appliedAt }
  | .observe next => { s with task := .handling stop count appliedAt (next s.runner.log) }
  | .registerTask taskId triggerAt callback onResult next =>
    { s.enqueue memory (.register ⟨taskId, triggerAt, callback, onResult⟩) with
      task := .handling stop count appliedAt next }
  | .cancelTask taskId onResult next =>
    { s.enqueue memory (.cancel ⟨taskId, onResult⟩) with task := .handling stop count appliedAt next }
  | .processPendingCommands _ next => { s with task := .handling stop count appliedAt (next 0) }

/-- One step of `Run`. -/
def runnerTask (s : EspTimingTaskRuntime) (answers : Answers) : EspTimingTaskRuntime :=
  match s.task with
  | .waiting => if s.notified then { s with notified := false, task := .woken } else s
  | .woken => { s with task := .draining s.stopping }
  | .draining stop =>
    match s.commandQueue with
    | command :: commandQueue => { s with commandQueue, runner := s.runner.enqueue command }
    | [] => { s with task := if stop then .starting true else .checking }
  | .checking => { s with task := if s.stopping then .waiting else .starting false }
  | .starting stop =>
    if stop ∧ s.runner.commands = [] then { s with task := .clearing .begin }
    else
      { s with
        runner := { s.runner with processingCommands := true }
        task := .processing stop s.runner.commands.length answers.clock }
  | .processing stop 0 appliedAt =>
    let runner := { s.runner with processingCommands := false }
    if stop then { s with runner, task := .starting true }
    else
      -- no command is left, so what `RunDueTasks` still does is its batch
      let result := runner.runDueTasks appliedAt
      { s with runner := result.2, task := .arming result.1.nextWakeAt }
  | .processing stop (count + 1) appliedAt => s.applyNext stop count appliedAt
  | .handling stop count appliedAt handler => s.handleStep answers.memory stop count appliedAt handler
  | .arming nextWakeAt => s.armStep answers nextWakeAt
  | .delaying => { s with task := .draining false }
  | .clearing phase => (s.clearStep answers phase).getD { s with task := .aborted }
  | .giving => { s with stopped := true, task := .finished }
  | .finished => s
  | .aborted => s

/-! ### The owner -/

/-- One step of `Stop`. -/
def stop (s : EspTimingTaskRuntime) : EspTimingTaskRuntime :=
  match s.owner with
  | .running =>
    match s.submission with
    | .free => { s with accepting := false, owner := .closed }
    | _ => s
  | .closed => { s with stopping := true, owner := .stopping }
  | .stopping => { s.notify with owner := .signalled }
  | .signalled =>
    if s.stopped then { s with stopped := false, wakeTask := false, owner := .joined } else s
  | .joined =>
    match s.commandQueue with
    | command :: commandQueue => { s with commandQueue, runner := s.runner.enqueue command }
    | [] =>
      match s.submission with
      | .free => { s with owner := .deleted }
      | _ => s
  | .deleted => s

/-! ### Steps -/

/-- Who takes a step. -/
inductive Action where
  | call (command : PendingCommand)
  | submit (memory : Bool)
  | timerTask
  | runnerTask (answers : Answers)
  | stop

/-- One step of the runtime. -/
def step (s : EspTimingTaskRuntime) : Action → EspTimingTaskRuntime
  | .call command => s.call command
  | .submit memory => s.submit memory
  | .timerTask => s.timerTask
  | .runnerTask answers => s.runnerTask answers
  | .stop => s.stop

end EspTimingTaskRuntime

end VoiceLife
