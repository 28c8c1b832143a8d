import VoiceLife.Im.ActionChannel
import VoiceLife.Lib.Run

/-! # Replays in the action channel

While the window of an execution is open, its result is in the cache. A replay is answered from there,
unless its command is past its own time: `HandleCommand` reports it as expired before it looks.
-/

namespace VoiceLife.Im

variable {δ : Type*} {ports : Ports δ} {channel : ImActionChannel δ} {handled : List (Handling δ)}

/-! ## What a session guarantees -/

namespace Handling

/-- The command was past its own time when the channel looked at it. -/
def expired (ports : Ports δ) (x : Handling δ) : Bool :=
  epochMillisOrExpired x.command.expiresAt ≤ nowEpochMillis (ports.nowIso x.readings)

/-- The time of the execution or of the report. -/
def nowMs (ports : Ports δ) (x : Handling δ) : ℤ :=
  nowEpochMillis (ports.nowIso (if x.expired ports then x.readings + 1 else x.readings))

/-- The end of the window. -/
def windowExpiresMs (x : Handling δ) : ℤ :=
  epochMillisOrExpired x.window.expiresAt

/-- The key of the operation in the cache. -/
def key (x : Handling δ) : String :=
  idempotencyKey x.command.reminderTriggerId x.command.operationId

/-- The command is for another device or another window. -/
def Foreign (x : Handling δ) : Prop :=
  x.command.deviceId ≠ x.deviceId ∨ x.command.reminderTriggerId ≠ x.window.reminderTriggerId

/-- The command was dropped as foreign, or the gateway took the report of its result. -/
def Settled (x : Handling δ) : Prop :=
  x.Foreign ∨ ∃ result, x.report = some (result, .submitted)

/-- The cursor only moves to the id of a settled command. -/
def CursorJustified (x : Handling δ) : Prop :=
  ∀ commandId ∈ x.cursor, commandId = x.command.commandId ∧ x.Settled

/-- An execution is reported with its own result. -/
def ReportsItsResult (x : Handling δ) : Prop :=
  ∀ outcome ∈ x.execution, ∀ report ∈ x.report, report.1 = outcome

/-- Both commands are for one operation of one trigger. -/
def SameOperation (x y : Handling δ) : Prop :=
  x.command.reminderTriggerId = y.command.reminderTriggerId ∧
    x.command.operationId = y.command.operationId

/-- While the window of an execution is open, its operation is not executed again, and every report for
it carries its result. -/
def OnceWhileOpen (ports : Ports δ) (x y : Handling δ) : Prop :=
  ∀ outcome ∈ x.execution, SameOperation x y → y.nowMs ports < x.windowExpiresMs →
    y.execution = none ∧ ∀ report ∈ y.report, report.1 = outcome

/-- The replay of an executed operation is not past its own time while the window is open, unless the
result was the same expired one. -/
def ReplayInTime (ports : Ports δ) (x y : Handling δ) : Prop :=
  ∀ outcome ∈ x.execution, SameOperation x y → ¬ y.Foreign → y.expired ports = true →
    y.nowMs ports < x.windowExpiresMs →
      outcome = expiredResult y.command (ports.nowIso (y.readings + 1))

/-- The cursors after what a command wrote. -/
def writeCursor (cursors : String → String) (x : Handling δ) : String → String :=
  match x.cursor with
  | none => cursors
  | some commandId => Function.update cursors x.window.reminderTriggerId commandId

instance (x y : Handling δ) : Decidable (SameOperation x y) :=
  inferInstanceAs (Decidable (_ ∧ _))

theorem SameOperation.key_eq {x y : Handling δ} (h : SameOperation x y) : x.key = y.key := by
  rw [key, key, h.1, h.2]

end Handling

open Handling

/-- The channel and all that it handled so far. -/
structure Session (δ : Type*) where
  channel : ImActionChannel δ := {}
  handled : List (Handling δ) := []

/-- One `Run`. -/
def Session.step (ports : Ports δ) (session : Session δ) (connection : Connection δ) : Session δ :=
  let (channel, _, handlings) := session.channel.run ports connection
  { channel, handled := session.handled ++ handlings }

/-- The cursors move only as the commands of the run write them, to ids of settled commands, and no
command comes after one that is not settled. -/
def SettledRun (cursors later : String → String) (handlings : List (Handling δ)) : Prop :=
  later = handlings.foldl writeCursor cursors ∧
    (∀ x ∈ handlings, x.CursorJustified) ∧ handlings.Pairwise fun x _ => x.Settled

/-- The next run is settled. -/
def RunIsSettled (ports : Ports δ) (session : Session δ) (connection : Connection δ) : Prop :=
  let (channel, _, handlings) := session.channel.run ports connection
  SettledRun session.channel.cursors channel.cursors handlings

/-- Every operation is executed once while its window is open and reported with one result, and every
run is settled. -/
def ExecutesOnce (ports : Ports δ) (connections : List (Connection δ)) : Prop :=
  (Run.run (Session.step ports) {} connections).handled.Pairwise (OnceWhileOpen ports) ∧
    (∀ x ∈ (Run.run (Session.step ports) {} connections).handled, x.ReportsItsResult) ∧
      Run.AllSteps (Session.step ports) (RunIsSettled ports) {} connections

/-- The executor's results for the commands of the stream are reportable. -/
def Reportable (ports : Ports δ) (deliveries : List (Delivery δ)) : Prop :=
  ∀ delivery ∈ deliveries, ∀ command, delivery.read = .command command →
    ports.resultIsReportable (delivery.outcome.identified command) = true

/-! ## `Settle` -/

section Settle

variable {report : ReportStatus} {triggerId : String} {result : ActionRunResult}
  {reported : ReminderActionResult δ} {handling : Handling δ}

namespace ImActionChannel

@[simp] theorem settle_executed :
    (channel.settle report triggerId result reported handling).channel.executed = channel.executed := by
  rw [settle]
  split <;> rfl

@[simp] theorem settle_readings :
    (channel.settle report triggerId result reported handling).channel.readings = channel.readings := by
  rw [settle]
  split <;> rfl

theorem settle_handling (h : handling.cursor = none) :
    (channel.settle report triggerId result reported handling).handling =
      { handling with
        report := some (reported, report)
        cursor := if report = .submitted then some handling.command.commandId else none } := by
  rw [settle]
  split
  · rfl
  · rw [← h]

theorem settle_cursors :
    (channel.settle report triggerId result reported handling).channel.cursors =
      if report = .submitted then
        Function.update channel.cursors triggerId handling.command.commandId
      else channel.cursors := by
  rw [settle]
  split <;> rfl

theorem settle_hasUnconfirmed :
    (channel.settle report triggerId result reported handling).hasUnconfirmed = false ↔
      report = .submitted := by
  rw [settle]
  split <;> simp [*]

end ImActionChannel

end Settle

/-! ## One command -/

section Command

variable {result : ActionRunResult}

/-- A command writes the cursor that it records, for a settled command, and stops the run unless it is
settled. -/
theorem handleCommand_settled (ports : Ports δ) (window : ActionWindow) (delivery : Delivery δ)
    (command : ReminderActionCommand) (result : ActionRunResult) (channel : ImActionChannel δ) :
    let handled := channel.handleCommand ports window delivery command result
    handled.channel.cursors = handled.handling.writeCursor channel.cursors ∧
      handled.handling.CursorJustified ∧ (handled.hasUnconfirmed = false → handled.handling.Settled) := by
  have hsettle : ∀ (before : ImActionChannel δ) (report : ReportStatus) (result : ActionRunResult)
      (reported : ReminderActionResult δ) (handling : Handling δ), handling.cursor = none →
        handling.window = window → before.cursors = channel.cursors →
      let handled := before.settle report window.reminderTriggerId result reported handling
      handled.channel.cursors = handled.handling.writeCursor channel.cursors ∧
        handled.handling.CursorJustified ∧
          (handled.hasUnconfirmed = false → handled.handling.Settled) := by
    intro before report result reported handling hcursor hwindow hbefore
    dsimp only
    rw [ImActionChannel.settle_handling hcursor, ImActionChannel.settle_cursors,
      ImActionChannel.settle_hasUnconfirmed, hbefore, ← hwindow]
    by_cases hreport : report = .submitted
    · refine ⟨by simp [writeCursor, hreport], fun commandId hid => ?_, fun _ => ?_⟩
      · simp only [hreport, if_true, Option.mem_some_iff] at hid
        exact ⟨hid.symm, Or.inr ⟨reported, by rw [hreport]⟩⟩
      · exact Or.inr ⟨reported, by rw [hreport]⟩
    · refine ⟨by simp [writeCursor, hreport], fun commandId hid => ?_, fun h => absurd h hreport⟩
      simp [hreport] at hid
  unfold ImActionChannel.handleCommand
  dsimp only
  split
  · rename_i hforeign
    refine ⟨rfl, fun commandId hid => ?_, fun _ => Or.inl hforeign⟩
    exact ⟨(Option.mem_some_iff.1 hid).symm, Or.inl hforeign⟩
  · split
    · exact hsettle _ _ _ _ _ rfl rfl rfl
    · split
      · exact hsettle _ _ _ _ _ rfl rfl rfl
      · split
        · exact ⟨rfl, fun _ h => (Option.not_mem_none _ h).elim, fun h => (Bool.noConfusion h)⟩
        · exact hsettle _ _ _ _ _ rfl rfl rfl

/-- The cache holds every execution whose window is open, and each pair handled so far is executed once
exactly if its replay is in time. -/
structure Remembers (ports : Ports δ) (channel : ImActionChannel δ) (handled : List (Handling δ)) :
    Prop where
  cached : ∀ x ∈ handled, ∀ outcome ∈ x.execution,
    channel.executed x.key = some ⟨x.windowExpiresMs, outcome⟩ ∨
      x.windowExpiresMs ≤ channel.nowMs ports
  once_iff : handled.Pairwise fun x y => x.OnceWhileOpen ports y ↔ x.ReplayInTime ports y
  reports : ∀ x ∈ handled, x.ReportsItsResult

theorem remembers_nil : Remembers ports channel [] :=
  ⟨fun _ h => absurd h List.not_mem_nil, List.Pairwise.nil, fun _ h => absurd h List.not_mem_nil⟩

/-- Later readings of the clock expire more windows. -/
theorem Remembers.later (h : Remembers ports channel handled) {later : ImActionChannel δ}
    (hnow : channel.nowMs ports ≤ later.nowMs ports)
    (hexecuted : ∀ key cached, channel.executed key = some cached →
      later.executed key = some cached ∨ cached.windowExpiresMs ≤ later.nowMs ports) :
    Remembers ports later handled := by
  refine ⟨fun x hx outcome houtcome => ?_, h.once_iff, h.reports⟩
  rcases h.cached x hx outcome houtcome with hcached | hexpired
  · exact hexecuted _ _ hcached
  · exact Or.inr (hexpired.trans hnow)

/-- A handled command joins the list if its execution is in the cache. -/
theorem Remembers.append (h : Remembers ports channel handled) {x : Handling δ}
    (hcached : ∀ outcome ∈ x.execution, channel.executed x.key = some ⟨x.windowExpiresMs, outcome⟩)
    (hpairs : ∀ y ∈ handled, y.OnceWhileOpen ports x ↔ y.ReplayInTime ports x)
    (hreports : x.ReportsItsResult) : Remembers ports channel (handled ++ [x]) := by
  refine ⟨fun y hy outcome houtcome => ?_, ?_, fun y hy => ?_⟩
  · rcases List.mem_append.1 hy with hy | hy
    · exact h.cached y hy outcome houtcome
    · rw [List.mem_singleton.1 hy] at houtcome ⊢
      exact Or.inl (hcached outcome houtcome)
  · refine List.pairwise_append.2 ⟨h.once_iff, List.pairwise_singleton _ _, fun y hy z hz => ?_⟩
    rw [List.mem_singleton.1 hz]
    exact hpairs y hy
  · rcases List.mem_append.1 hy with hy | hy
    · exact h.reports y hy
    · rw [List.mem_singleton.1 hy]
      exact hreports

variable (hclock : Monotone fun reading => nowEpochMillis (ports.nowIso reading))
include hclock

theorem Remembers.tick (h : Remembers ports channel handled) :
    Remembers ports channel.tick handled :=
  h.later (hclock (Nat.le_succ _)) fun _ _ => Or.inl

/-- A window that expired at the reading is purged. -/
theorem Remembers.purge (h : Remembers ports channel handled) :
    Remembers ports (channel.tick.purge (channel.nowMs ports)) handled := by
  have hnow : channel.nowMs ports ≤ (channel.tick.purge (channel.nowMs ports)).nowMs ports :=
    hclock (Nat.le_succ _)
  refine h.later hnow fun key cached hcached => ?_
  by_cases hexpired : cached.windowExpiresMs ≤ channel.nowMs ports
  · exact Or.inr (hexpired.trans hnow)
  · left
    show ((channel.executed key).filter fun cached =>
      !decide (cached.windowExpiresMs ≤ channel.nowMs ports)) = some cached
    rw [hcached, Option.filter_some, decide_eq_false hexpired]
    rfl

/-- The result in the cache is the one of every execution whose window is open. -/
theorem Remembers.cached_of_open (h : Remembers ports channel handled) {x y : Handling δ}
    (hx : x ∈ handled) (hreadings : y.readings = channel.readings)
    {outcome : ReminderActionResult δ} (houtcome : outcome ∈ x.execution) (hsame : SameOperation x y)
    (hopen : y.nowMs ports < x.windowExpiresMs) :
    channel.executed y.key = some ⟨x.windowExpiresMs, outcome⟩ := by
  have hlater : channel.nowMs ports ≤ y.nowMs ports := by
    rw [Handling.nowMs, hreadings]
    refine hclock ?_
    split
    · exact Nat.le_succ _
    · exact le_rfl
  rw [← hsame.key_eq]
  exact (h.cached x hx outcome houtcome).resolve_right fun hexpired =>
    absurd (hexpired.trans hlater) (not_le.2 hopen)

/-- A report that answers from the cache or reports the new execution keeps the list. -/
theorem Remembers.settle (h : Remembers ports channel handled) {later : ImActionChannel δ}
    (report : ReportStatus) (reported : ReminderActionResult δ) (handling : Handling δ)
    (hcursor : handling.cursor = none) (hlater : Remembers ports later handled)
    (hexpired : ¬ handling.expired ports = true) (hreadings : handling.readings = channel.readings)
    (hcached : ∀ cached, channel.executed handling.key = some cached →
      handling.execution = none ∧ reported = cached.result)
    (hnew : ∀ outcome ∈ handling.execution, reported = outcome ∧
      later.executed handling.key = some ⟨handling.windowExpiresMs, outcome⟩) (triggerId : String) :
    Remembers ports (later.settle report triggerId result reported handling).channel
      (handled ++ [(later.settle report triggerId result reported handling).handling]) := by
  have hkeeps : Remembers ports (later.settle report triggerId result reported handling).channel
      handled := by
    refine hlater.later ?_ fun key cached hkey => ?_
    · rw [ImActionChannel.nowMs, ImActionChannel.nowMs, ImActionChannel.settle_readings]
    · rw [ImActionChannel.settle_executed]
      exact Or.inl hkey
  refine hkeeps.append ?_ ?_ ?_
  · rw [ImActionChannel.settle_handling hcursor, ImActionChannel.settle_executed]
    exact fun outcome houtcome => (hnew outcome houtcome).2
  · intro y hy
    rw [ImActionChannel.settle_handling hcursor]
    refine iff_of_true (fun outcome houtcome hsame hopen => ?_) fun _ _ _ _ hpast => absurd hpast hexpired
    have hfound := h.cached_of_open hclock hy hreadings houtcome hsame hopen
    obtain ⟨hnone, hreported⟩ := hcached _ hfound
    refine ⟨hnone, fun answer hanswer => ?_⟩
    rw [← Option.mem_some_iff.1 hanswer]
    exact hreported
  · rw [ImActionChannel.settle_handling hcursor]
    intro outcome houtcome answer hanswer
    rw [← Option.mem_some_iff.1 hanswer]
    exact (hnew outcome houtcome).1

/-- A command that is not executed changes nothing in the cache. -/
theorem handleCommand_remembers (window : ActionWindow) (delivery : Delivery δ)
    (command : ReminderActionCommand) (result : ActionRunResult) (h : Remembers ports channel handled)
    (hreportable : ports.resultIsReportable (delivery.outcome.identified command) = true) :
    Remembers ports (channel.handleCommand ports window delivery command result).channel
      (handled ++ [(channel.handleCommand ports window delivery command result).handling]) := by
  unfold ImActionChannel.handleCommand
  dsimp only
  split
  · rename_i hforeign
    have hdropped : Remembers ports (channel.setCursor window.reminderTriggerId command.commandId)
        handled := h.later le_rfl fun _ _ => Or.inl
    refine hdropped.append ?_ (fun y hy => ?_) ?_
    · rintro _ ⟨⟩
    · refine iff_of_true (fun _ _ _ _ => ⟨rfl, ?_⟩) fun _ _ _ hhere => absurd hforeign hhere
      rintro _ ⟨⟩
    · rintro _ ⟨⟩
  · rename_i hhere
    have htrigger : command.reminderTriggerId = window.reminderTriggerId :=
      not_not.1 fun hne => hhere (Or.inr hne)
    split
    · rename_i hpast
      -- The report of an expired command does not look at the cache.
      refine Remembers.append ?_ ?_ (fun y hy => ?_) ?_
      · refine (h.tick hclock).tick hclock |>.later ?_ fun key cached hkey => ?_
        · rw [ImActionChannel.nowMs, ImActionChannel.nowMs, ImActionChannel.settle_readings]
        · rw [ImActionChannel.settle_executed]
          exact Or.inl hkey
      · rw [ImActionChannel.settle_handling rfl]
        rintro _ ⟨⟩
      · rw [ImActionChannel.settle_handling rfl]
        constructor
        · intro honce outcome houtcome hsame _ _ hopen
          exact ((honce outcome houtcome hsame hopen).2 _ rfl).symm
        · intro htime outcome houtcome hsame hopen
          refine ⟨rfl, fun answer hanswer => ?_⟩
          rw [← Option.mem_some_iff.1 hanswer]
          exact (htime outcome houtcome hsame hhere (decide_eq_true hpast) hopen).symm
      · rw [ImActionChannel.settle_handling rfl]
        rintro _ ⟨⟩
    · rename_i hpast
      have hexpired : ∀ handling : Handling δ, handling.command = command →
          handling.readings = channel.readings → ¬ handling.expired ports = true := by
        intro handling hcommand hreadings
        rw [Handling.expired, hcommand, hreadings, decide_eq_true_eq]
        exact hpast
      split
      · rename_i cached hcached
        refine h.settle hclock _ _ _ rfl (h.tick hclock) (hexpired _ rfl rfl) rfl
          (fun found hfound => ?_) ?_ _
        · dsimp only [Handling.key] at hfound
          rw [htrigger, hcached] at hfound
          exact ⟨rfl, congrArg CachedExecution.result (Option.some.inj hfound)⟩
        · rintro _ ⟨⟩
      · rename_i hnone
        rw [hreportable]
        have hremember : Remembers ports (channel.tick.remember
            (idempotencyKey window.reminderTriggerId command.operationId)
            ⟨epochMillisOrExpired window.expiresAt, delivery.outcome.identified command⟩) handled := by
          refine (h.tick hclock).later le_rfl fun key found hfound => Or.inl ?_
          have hne : key ≠ idempotencyKey window.reminderTriggerId command.operationId := by
            rintro rfl
            exact absurd (hnone.symm.trans hfound) nofun
          exact (Function.update_of_ne hne _ _).trans hfound
        refine h.settle hclock _ _ _ rfl hremember (hexpired _ rfl rfl) rfl
          (fun found hfound => ?_) (fun outcome houtcome => ?_) _
        · dsimp only [Handling.key] at hfound
          rw [htrigger, hnone] at hfound
          cases hfound
        · rw [← Option.mem_some_iff.1 houtcome]
          dsimp only [Handling.key]
          rw [htrigger]
          exact ⟨rfl, Function.update_self _ _ _⟩

end Command

/-! ## One run -/

section Connection

variable {window : ActionWindow}

/-- The commands of a run write the cursors, and none comes after one that is not settled. -/
theorem readCommands_settled (deliveries : List (Delivery δ)) (result : ActionRunResult)
    (channel : ImActionChannel δ) :
    let outcome := channel.readCommands ports window deliveries result
    SettledRun channel.cursors outcome.1.cursors outcome.2.2 := by
  have hnone : ∀ (cursors : String → String), SettledRun cursors cursors ([] : List (Handling δ)) :=
    fun _ => ⟨rfl, fun _ h => absurd h List.not_mem_nil, List.Pairwise.nil⟩
  induction deliveries generalizing result channel with
  | nil =>
      unfold ImActionChannel.readCommands
      split
      · exact hnone _
      · exact hnone _
  | cons delivery deliveries ih =>
      unfold ImActionChannel.readCommands
      split
      · exact hnone _
      · split
        · exact hnone _
        · exact hnone _
        · exact hnone _
        · rename_i command hread
          obtain ⟨hcursors, hjustified, hsettled⟩ := handleCommand_settled ports window delivery command
            result channel.tick
          dsimp only
          split
          · refine ⟨hcursors, fun x hx => ?_, List.pairwise_singleton _ _⟩
            rw [List.mem_singleton.1 hx]
            exact hjustified
          · rename_i hconfirmed
            obtain ⟨hlater, hrest, hpairs⟩ := ih
              (channel.tick.handleCommand ports window delivery command result).result
              (channel.tick.handleCommand ports window delivery command result).channel
            refine ⟨?_, fun x hx => ?_, ?_⟩
            · rw [hcursors] at hlater
              rw [List.foldl_cons]
              exact hlater
            · rcases List.mem_cons.1 hx with rfl | hx
              · exact hjustified
              · exact hrest x hx
            · exact List.pairwise_cons.2
                ⟨fun _ _ => hsettled (Bool.eq_false_iff.2 hconfirmed), hpairs⟩

/-- Every run is settled. -/
theorem run_settled (ports : Ports δ) (session : Session δ) (connection : Connection δ) :
    RunIsSettled ports session connection := by
  unfold RunIsSettled ImActionChannel.run
  dsimp only
  split
  · exact ⟨rfl, fun _ h => absurd h List.not_mem_nil, List.Pairwise.nil⟩
  · split
    · exact ⟨rfl, fun _ h => absurd h List.not_mem_nil, List.Pairwise.nil⟩
    · exact readCommands_settled connection.deliveries {} _

variable (hclock : Monotone fun reading => nowEpochMillis (ports.nowIso reading))
include hclock

theorem readCommands_remembers (deliveries : List (Delivery δ)) (result : ActionRunResult)
    (h : Remembers ports channel handled) (hreportable : Reportable ports deliveries) :
    let outcome := channel.readCommands ports window deliveries result
    Remembers ports outcome.1 (handled ++ outcome.2.2) := by
  have hnone : ∀ {channel : ImActionChannel δ} {handled : List (Handling δ)},
      Remembers ports channel handled → Remembers ports channel.tick (handled ++ []) := by
    intro channel handled h
    rw [List.append_nil]
    exact h.tick hclock
  induction deliveries generalizing result channel handled with
  | nil =>
      unfold ImActionChannel.readCommands
      split
      · exact hnone h
      · exact hnone h
  | cons delivery deliveries ih =>
      unfold ImActionChannel.readCommands
      split
      · exact hnone h
      · split
        · exact hnone h
        · exact hnone h
        · exact hnone h
        · rename_i command hread
          have hone := handleCommand_remembers hclock window delivery command result (h.tick hclock)
            (hreportable delivery List.mem_cons_self command hread)
          dsimp only
          split
          · exact hone
          · have hrest := ih
              (channel.tick.handleCommand ports window delivery command result).result hone
              fun later hlater => hreportable later (List.mem_cons_of_mem _ hlater)
            rw [← List.singleton_append, ← List.append_assoc]
            exact hrest

theorem step_remembers (session : Session δ) (connection : Connection δ)
    (h : Remembers ports session.channel session.handled)
    (hreportable : Reportable ports connection.deliveries) :
    Remembers ports (session.step ports connection).channel (session.step ports connection).handled := by
  unfold Session.step ImActionChannel.run
  dsimp only
  split
  · rw [List.append_nil]
    exact h.tick hclock
  · split
    · rw [List.append_nil]
      exact h.purge hclock
    · exact readCommands_remembers hclock connection.deliveries {} (h.purge hclock) hreportable

/-- Every operation is executed once and reported with its result exactly if no replay in an open window
is past its own time. -/
theorem executesOnce_iff (connections : List (Connection δ))
    (hreportable : ∀ connection ∈ connections, Reportable ports connection.deliveries) :
    ExecutesOnce ports connections ↔
      (Run.run (Session.step ports) {} connections).handled.Pairwise (ReplayInTime ports) := by
  have hremembers : Run.AllStates (Session.step ports)
      (fun session => Remembers ports session.channel session.handled) {} connections := by
    have hok : ∀ (connections : List (Connection δ)) (session : Session δ),
        (∀ connection ∈ connections, Reportable ports connection.deliveries) →
          Run.AllSteps (Session.step ports)
            (fun _ connection => Reportable ports connection.deliveries) session connections := by
      intro connections
      induction connections with
      | nil => exact fun _ _ => trivial
      | cons connection connections ih =>
          intro session h
          exact ⟨h connection List.mem_cons_self,
            ih _ fun later hlater => h later (List.mem_cons_of_mem _ hlater)⟩
    exact Run.allStates_of_step (fun session connection h hok =>
      step_remembers hclock session connection h hok) remembers_nil (hok connections {} hreportable)
  have hlast := hremembers.last
  have hsettled : Run.AllSteps (Session.step ports) (RunIsSettled ports) {} connections :=
    Run.allSteps_iff_forall_prefix.2 fun _ connection _ => run_settled ports _ connection
  constructor
  · intro h
    exact (h.1.and hlast.once_iff).imp fun ⟨honce, hiff⟩ => hiff.1 honce
  · intro h
    exact ⟨(h.and hlast.once_iff).imp fun ⟨htime, hiff⟩ => hiff.2 htime, hlast.reports, hsettled⟩

end Connection

/-! ## A replay past its time -/

/-- A clock that reads half a minute more each time, up to six minutes. -/
def sampleClock (reading : ℕ) : String :=
  (["2026-08-03T00:00:00.000Z", "2026-08-03T00:00:30.000Z", "2026-08-03T00:01:00.000Z",
    "2026-08-03T00:01:30.000Z", "2026-08-03T00:02:00.000Z", "2026-08-03T00:02:30.000Z",
    "2026-08-03T00:03:00.000Z"][reading]?).getD "2026-08-03T00:03:30.000Z"

/-- Ports that report every result. -/
def samplePorts : Ports Unit where
  nowIso := sampleClock
  resultIsReportable _ := true

/-- A command that is valid until a time. -/
def sampleCommand (expiresAt : String) : ReminderActionCommand where
  commandId := "command-1"
  operationId := "operation-1"
  correlationId := "correlation-1"
  deviceId := "device-1"
  actorBindingId := "binding-1"
  reminderTriggerId := "trigger-1"
  action := "acknowledge"
  occurredAt := "2026-08-03T00:00:00.000Z"
  expiresAt := expiresAt

/-- A connection that delivers the command in a window of one hour. -/
def sampleConnection (expiresAt : String) (report : ReportStatus) : Connection Unit where
  window := ⟨"trigger-1", "2026-08-03T01:00:00.000Z"⟩
  opened := true
  deliveries := [{
    read := .command (sampleCommand expiresAt)
    deviceId := "device-1"
    outcome := {
      operationId := ""
      reminderTriggerId := ""
      status := "succeeded"
      occurredAt := "2026-08-03T00:01:00.000Z" }
    report }]

theorem samplePorts_reportable (expiresAt : String) (reports : List ReportStatus) :
    ∀ connection ∈ reports.map (sampleConnection expiresAt),
      Reportable samplePorts connection.deliveries :=
  fun _ _ _ _ _ _ => rfl

theorem samplePorts_monotone :
    Monotone fun reading => nowEpochMillis (samplePorts.nowIso reading) := by
  refine monotone_nat_of_le_succ fun reading => ?_
  have hsteps : ∀ first ∈ List.range 7,
      nowEpochMillis (sampleClock first) ≤ nowEpochMillis (sampleClock (first + 1)) := by
    decide
  by_cases hfirst : reading < 7
  · exact hsteps reading (List.mem_range.2 hfirst)
  · have hlast : ∀ later, 7 ≤ later → sampleClock later = "2026-08-03T00:03:30.000Z" := by
      intro later hlater
      rw [sampleClock, List.getElem?_eq_none hlater]
      rfl
    show nowEpochMillis (sampleClock reading) ≤ nowEpochMillis (sampleClock (reading + 1))
    rw [hlast reading (not_lt.1 hfirst), hlast (reading + 1) (by omega)]

/-- An execution whose report failed is replayed past the time of its command, within the window, and
reported as expired. -/
theorem executed_command_reported_expired :
    ¬ ∀ (ports : Ports Unit), Monotone (fun reading => nowEpochMillis (ports.nowIso reading)) →
      ∀ connections : List (Connection Unit),
        (∀ connection ∈ connections, Reportable ports connection.deliveries) →
          ExecutesOnce ports connections := by
  intro h
  obtain ⟨honce, -, -⟩ := h samplePorts samplePorts_monotone _
    (samplePorts_reportable "2026-08-03T00:01:15.000Z" [.retryable, .submitted])
  have hstatus : ∀ {x y : Handling Unit}, x.OnceWhileOpen samplePorts y →
      ∀ outcome ∈ x.execution, SameOperation x y → y.nowMs samplePorts < x.windowExpiresMs →
        ∀ report ∈ y.report, report.1.status = outcome.status := by
    intro x y h outcome houtcome hsame hopen report hreport
    rw [(h outcome houtcome hsame hopen).2 report hreport]
  exact absurd (honce.imp hstatus) (by decide +kernel)

/-- A replay in time is answered from the cache. -/
theorem replayed_command_executed_once :
    ExecutesOnce samplePorts
      ([.retryable, .submitted].map (sampleConnection "2026-08-03T00:30:00.000Z")) := by
  refine (executesOnce_iff samplePorts_monotone _ (samplePorts_reportable _ _)).2 ?_
  have htime : ∀ y ∈ (Run.run (Session.step samplePorts) {} ([.retryable, .submitted].map
      (sampleConnection "2026-08-03T00:30:00.000Z"))).handled, y.expired samplePorts = false := by
    decide +kernel
  refine List.pairwise_iff_getElem.2 fun _ j _ hj _ _ _ _ _ hexpired => ?_
  rw [htime _ (List.getElem_mem hj)] at hexpired
  cases hexpired

end VoiceLife.Im
