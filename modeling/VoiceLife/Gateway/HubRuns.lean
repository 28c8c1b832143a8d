import VoiceLife.Gateway.ActionCommandHub

/-! # Runs of the action streams

Over any sequence of events the readers of a subscription receive, in order, the first of the commands
that were published for it while it was open; the open subscriptions stay within the limits; the two maps
of the actions agree; and a closed action is published no more (`hub_sound`).
-/

namespace VoiceLife.Gateway

variable {parse : JsString → Option ℤ} {limits : HubLimits}

/-! ## Scope keys -/

theorem colon_notMem_lengthText (length : ℕ) : (58 : CodeUnit) ∉ lengthText length := by
  unfold lengthText
  by_cases hzero : length = 0
  · rw [if_pos hzero]
    decide
  · rw [if_neg hzero]
    exact colon_notMem_digitUnits length

theorem lengthText_injective {length length' : ℕ} (h : lengthText length = lengthText length') :
    length = length' := by
  have hvalue : ∀ n, JsNumber.digitsValue (lengthText n) = n := by
    intro n
    unfold lengthText
    by_cases hzero : n = 0
    · rw [if_pos hzero, hzero]
      rfl
    · rw [if_neg hzero, JsNumber.digitUnits_value]
  rw [← hvalue length, h, hvalue]

theorem append_first_colon_inj {left left' right right' : JsString} (h : (58 : CodeUnit) ∉ left)
    (h' : (58 : CodeUnit) ∉ left') (heq : left ++ 58 :: right = left' ++ 58 :: right') :
    left = left' ∧ right = right' := by
  induction left generalizing left' with
  | nil =>
      cases left' with
      | nil => exact ⟨rfl, (List.cons.inj heq).2⟩
      | cons unit left' => exact absurd ((List.cons.inj heq).1 ▸ List.mem_cons_self) h'
  | cons unit left ih =>
      cases left' with
      | nil => exact absurd ((List.cons.inj heq).1 ▸ List.mem_cons_self) h
      | cons unit' left' =>
          obtain ⟨rfl, htail⟩ := List.cons.inj heq
          obtain ⟨rfl, rfl⟩ := ih (mt (List.mem_cons_of_mem _) h) (mt (List.mem_cons_of_mem _) h') htail
          exact ⟨rfl, rfl⟩

/-- The length tells where the device ends, whatever the ids are. -/
theorem scopeKey_inj {deviceId deviceId' : DeviceId} {triggerId triggerId' : ReminderTriggerId} :
    scopeKey deviceId triggerId = scopeKey deviceId' triggerId' ↔
      deviceId = deviceId' ∧ triggerId = triggerId' := by
  constructor
  · intro h
    obtain ⟨hlength, hrest⟩ :=
      append_first_colon_inj (colon_notMem_lengthText _) (colon_notMem_lengthText _) h
    exact List.append_inj hrest (lengthText_injective hlength)
  · rintro ⟨rfl, rfl⟩
    rfl

/-! ## Subscriptions and their readers -/

/-- What a subscription was offered has been received or is queued; a closed one has dropped its queue. -/
structure Streamed (parse : JsString → Option ℤ) (current : HubSubscription)
    (offered received : List ReminderActionCommand) : Prop where
  key : current.key = scopeKey current.subscription.deviceId current.subscription.reminderTriggerId
  expiresAt : current.expiresAt = parse current.subscription.expiresAt
  opened : current.closed = false → offered = received ++ current.queue
  closed : current.closed = true → received <+: offered ∧ current.queue = []
  waiting : 0 < current.waiters → current.queue = []

namespace Streamed

variable {current : HubSubscription} {offered received : List ReminderActionCommand}

theorem received_initial (h : Streamed parse current offered received) : received <+: offered := by
  by_cases hclosed : current.closed = true
  · exact (h.closed hclosed).1
  · rw [h.opened (Bool.eq_false_iff.2 hclosed)]
    exact List.prefix_append _ _

theorem create (subscription : ActionStreamSubscription) (now : ℤ) :
    Streamed parse (.create parse subscription now) [] [] where
  key := rfl
  expiresAt := rfl
  opened _ := rfl
  closed _ := ⟨List.prefix_rfl, rfl⟩
  waiting _ := rfl

theorem finish (h : Streamed parse current offered received) :
    Streamed parse current.finish offered received := by
  unfold HubSubscription.finish
  split
  · exact h
  · exact ⟨h.key, h.expiresAt, fun hopen => absurd hopen (by simp), fun _ => ⟨h.received_initial, rfl⟩,
      fun _ => rfl⟩

theorem abort (h : Streamed parse current offered received) :
    Streamed parse current.abort offered received := by
  unfold HubSubscription.abort
  split
  · exact h.finish
  · exact h

theorem expire (h : Streamed parse current offered received) (now : ℤ) :
    Streamed parse (current.expire now) offered received := by
  unfold HubSubscription.expire
  split
  · split
    · exact h.finish
    · exact h
  · exact h

/-- A reader that asks takes the first command of the queue, or waits. -/
theorem next (h : Streamed parse current offered received) :
    Streamed parse current.next.1 offered (received ++ current.next.2.toList) := by
  unfold HubSubscription.next
  split
  · rename_i command queue hqueue
    have hopen : current.closed = false := by
      by_contra hclosed
      rw [(h.closed (Bool.eq_true_of_not_eq_false hclosed)).2] at hqueue
      cases hqueue
    refine ⟨h.key, h.expiresAt, fun _ => ?_, fun hclosed => ?_, fun hwaiting => ?_⟩
    · rw [h.opened hopen, hqueue]
      simp
    · exact absurd (hopen.symm.trans hclosed) Bool.false_ne_true
    · rw [h.waiting hwaiting] at hqueue
      cases hqueue
  · rename_i hqueue
    split
    · show Streamed parse current offered (received ++ [])
      rwa [List.append_nil]
    · show Streamed parse _ offered (received ++ [])
      rw [List.append_nil]
      exact ⟨h.key, h.expiresAt, h.opened, h.closed, fun _ => hqueue⟩

/-- A command that is pushed is received at once, or queued, or dropped with the whole queue. -/
theorem push (h : Streamed parse current offered received) (hopen : current.closed = false)
    (maxQueueSize : ℕ) (command : ReminderActionCommand) :
    Streamed parse (current.push maxQueueSize command).1 (offered ++ [command])
      (received ++ (current.push maxQueueSize command).2.toList) := by
  unfold HubSubscription.push
  rw [if_neg (by rw [hopen]; exact Bool.false_ne_true)]
  by_cases hidle : current.waiters = 0
  · rw [if_pos hidle]
    by_cases hfull : current.queue.length ≥ maxQueueSize
    · rw [if_pos hfull]
      show Streamed parse current.finish (offered ++ [command]) (received ++ [])
      rw [List.append_nil, HubSubscription.finish, if_neg (by rw [hopen]; exact Bool.false_ne_true)]
      refine ⟨h.key, h.expiresAt, fun hstill => absurd hstill (by simp), fun _ => ⟨?_, rfl⟩, fun _ => rfl⟩
      exact h.received_initial.trans (List.prefix_append _ _)
    · rw [if_neg hfull]
      show Streamed parse _ (offered ++ [command]) (received ++ [])
      rw [List.append_nil]
      refine ⟨h.key, h.expiresAt, fun _ => ?_, fun hclosed => ?_, fun hwaiting => ?_⟩
      · rw [h.opened hopen, List.append_assoc]
      · exact absurd (hopen.symm.trans hclosed) Bool.false_ne_true
      · exact absurd hidle hwaiting.ne'
  · rw [if_neg hidle]
    have hqueue := h.waiting (Nat.pos_of_ne_zero hidle)
    refine ⟨h.key, h.expiresAt, fun _ => ?_, fun hclosed => ?_, fun _ => hqueue⟩
    · rw [h.opened hopen, hqueue]
      simp
    · exact absurd (hopen.symm.trans hclosed) Bool.false_ne_true

/-- A subscription is pushed exactly what is published for it. -/
theorem pushTo {current : HubSubscription} {offered received : List ReminderActionCommand}
    (h : Streamed parse current offered received) (maxQueueSize : ℕ) (command : ReminderActionCommand)
    (expiresAt : ℤ) :
    let scope : ActionScope := ⟨expiresAt, scopeKey command.deviceId command.reminderTriggerId⟩
    let pushed := SseActionCommandHub.pushTo maxQueueSize command scope current
    Streamed parse pushed.1
      (offered ++ ((parse current.subscription.expiresAt).bind fun latest =>
        if current.closed = false ∧ current.subscription.deviceId = command.deviceId ∧
            current.subscription.reminderTriggerId = command.reminderTriggerId ∧ expiresAt ≤ latest then
          some command
        else none).toList)
      (received ++ pushed.2.toList) := by
  intro scope pushed
  have hscope : (current.key = scope.key ∧ ∃ latest ∈ current.expiresAt, scope.expiresAt ≤ latest) ↔
      (current.subscription.deviceId = command.deviceId ∧
        current.subscription.reminderTriggerId = command.reminderTriggerId) ∧
        ∃ latest ∈ parse current.subscription.expiresAt, expiresAt ≤ latest := by
    rw [h.key, h.expiresAt, scopeKey_inj]
  by_cases hpush : current.closed = false ∧ current.key = scope.key ∧
      ∃ latest ∈ current.expiresAt, scope.expiresAt ≤ latest
  · obtain ⟨hopen, hfits⟩ := hpush
    obtain ⟨⟨hdevice, htrigger⟩, latest, hlatest, hle⟩ := hscope.1 hfits
    rw [Option.mem_def.1 hlatest, Option.bind_some, if_pos ⟨hopen, hdevice, htrigger, hle⟩]
    have hpushed : pushed = current.push maxQueueSize command := if_pos hfits
    rw [hpushed]
    exact h.push hopen maxQueueSize command
  · have hnothing : ((parse current.subscription.expiresAt).bind fun latest =>
        if current.closed = false ∧ current.subscription.deviceId = command.deviceId ∧
            current.subscription.reminderTriggerId = command.reminderTriggerId ∧ expiresAt ≤ latest then
          some command
        else none) = none := by
      refine Option.bind_eq_none_iff.2 fun latest hlatest => if_neg ?_
      rintro ⟨hopen, hdevice, htrigger, hle⟩
      exact hpush ⟨hopen, hscope.2 ⟨⟨hdevice, htrigger⟩, latest, hlatest, hle⟩⟩
    have hpushed : pushed = (current, none) := by
      by_cases hfits : current.key = scope.key ∧ ∃ latest ∈ current.expiresAt, scope.expiresAt ≤ latest
      · have hclosed : current.closed = true := by
          by_contra hopen
          exact hpush ⟨Bool.eq_false_iff.2 hopen, hfits⟩
        refine (if_pos hfits).trans ?_
        rw [HubSubscription.push, if_pos hclosed]
      · exact if_neg hfits
    rw [hnothing, hpushed]
    show Streamed parse current (offered ++ []) (received ++ [])
    rwa [List.append_nil, List.append_nil]

end Streamed

/-! ## Cleaning -/

namespace SseActionCommandHub

variable {hub : SseActionCommandHub}

@[simp] theorem removeActionFromScope_subscriptions (actionId : ActionId) (key : JsString) :
    (hub.removeActionFromScope actionId key).subscriptions = hub.subscriptions := by
  unfold removeActionFromScope
  split <;> rfl

@[simp] theorem removeActionFromScope_actionScopes (actionId : ActionId) (key : JsString) :
    (hub.removeActionFromScope actionId key).actionScopes = hub.actionScopes := by
  unfold removeActionFromScope
  split <;> rfl

@[simp] theorem removeActionFromScope_closedActions (actionId : ActionId) (key : JsString) :
    (hub.removeActionFromScope actionId key).closedActions = hub.closedActions := by
  unfold removeActionFromScope
  split <;> rfl

theorem cleanAction_same (now : ℤ) (actionId : ActionId) :
    (hub.cleanAction now actionId).subscriptions = hub.subscriptions ∧
      (hub.cleanAction now actionId).closedActions = hub.closedActions := by
  unfold cleanAction
  split
  · split <;> simp
  · exact ⟨rfl, rfl⟩

theorem cleanClosedAction_same (now : ℤ) (actionId : ActionId) :
    (hub.cleanClosedAction now actionId).subscriptions = hub.subscriptions ∧
      (hub.cleanClosedAction now actionId).actionScopes = hub.actionScopes ∧
      (hub.cleanClosedAction now actionId).scopeActions = hub.scopeActions := by
  unfold cleanClosedAction
  split
  · split <;> exact ⟨rfl, rfl, rfl⟩
  · exact ⟨rfl, rfl, rfl⟩

/-- What every round of the two loops keeps, the cleaning keeps. -/
theorem cleanExpiredActions_keeps (good : SseActionCommandHub → Prop) (now : ℤ)
    (haction : ∀ hub actionId, good hub → good (hub.cleanAction now actionId))
    (hclosed : ∀ hub actionId, good hub → good (hub.cleanClosedAction now actionId)) (h : good hub) :
    good (hub.cleanExpiredActions now) := by
  unfold cleanExpiredActions
  apply List.foldlRecOn
  · apply List.foldlRecOn
    · exact h
    · exact fun hub hgood actionId _ => haction hub actionId hgood
  · exact fun hub hgood actionId _ => hclosed hub actionId hgood

@[simp] theorem cleanExpiredActions_subscriptions (now : ℤ) :
    (hub.cleanExpiredActions now).subscriptions = hub.subscriptions := by
  apply cleanExpiredActions_keeps (fun hub' => hub'.subscriptions = hub.subscriptions) now
  · exact fun hub' actionId hsame => hub'.cleanAction_same now actionId |>.1.trans hsame
  · exact fun hub' actionId hsame => hub'.cleanClosedAction_same now actionId |>.1.trans hsame
  · rfl

@[simp] theorem recordAction_subscriptions (actionId : ActionId) (scope : ActionScope) :
    (hub.recordAction actionId scope).subscriptions = hub.subscriptions := by
  unfold recordAction
  split <;> simp

/-! ## The two maps of the actions -/

/-- The action is in the set of a scope. -/
def Listed (hub : SseActionCommandHub) (key : JsString) (actionId : ActionId) : Prop :=
  ∃ actions, hub.scopeActions.lookup key = some actions ∧ actionId ∈ actions

/-- The two maps describe one relation, without empty sets. -/
structure Consistent (hub : SseActionCommandHub) : Prop where
  same : ∀ actionId key,
    (∃ scope, hub.actionScopes.lookup actionId = some scope ∧ scope.key = key) ↔ hub.Listed key actionId
  nonempty : ∀ key, hub.scopeActions.lookup key ≠ some ∅

theorem removeActionFromScope_lookup (actionId : ActionId) (key key' : JsString) :
    (hub.removeActionFromScope actionId key).scopeActions.lookup key' =
      if key' = key then
        (hub.scopeActions.lookup key).bind fun actions =>
          if actions.erase actionId = ∅ then none else some (actions.erase actionId)
      else hub.scopeActions.lookup key' := by
  unfold removeActionFromScope
  split
  · rename_i hnone
    by_cases hkey : key' = key
    · rw [if_pos hkey, hkey, hnone]
      rfl
    · rw [if_neg hkey]
  · rename_i actions hsome
    rw [hsome]
    by_cases hempty : actions.erase actionId = ∅
    · by_cases hkey : key' = key
      · subst hkey
        simp [hempty]
      · simp [hempty, hkey, AList.lookup_erase_ne hkey]
    · by_cases hkey : key' = key
      · subst hkey
        simp [hempty]
      · simp [hempty, hkey, AList.lookup_insert_ne hkey]

theorem removeActionFromScope_nonempty (h : ∀ key, hub.scopeActions.lookup key ≠ some ∅)
    (actionId : ActionId) (key key' : JsString) :
    (hub.removeActionFromScope actionId key).scopeActions.lookup key' ≠ some ∅ := by
  rw [removeActionFromScope_lookup]
  by_cases hkey : key' = key
  · rw [if_pos hkey]
    intro heq
    obtain ⟨actions, -, hactions⟩ := Option.bind_eq_some_iff.1 heq
    by_cases hempty : actions.erase actionId = ∅
    · rw [if_pos hempty] at hactions
      cases hactions
    · rw [if_neg hempty] at hactions
      exact hempty (Option.some.inj hactions)
  · rw [if_neg hkey]
    exact h key'

theorem removeActionFromScope_listed (actionId actionId' : ActionId) (key key' : JsString) :
    (hub.removeActionFromScope actionId key).Listed key' actionId' ↔
      hub.Listed key' actionId' ∧ ¬ (key' = key ∧ actionId' = actionId) := by
  unfold Listed
  rw [removeActionFromScope_lookup]
  by_cases hkey : key' = key
  · subst hkey
    rw [if_pos rfl]
    constructor
    · rintro ⟨actions', hactions', hmem⟩
      obtain ⟨actions, hactions, hrest⟩ := Option.bind_eq_some_iff.1 hactions'
      by_cases hempty : actions.erase actionId = ∅
      · rw [if_pos hempty] at hrest
        cases hrest
      · rw [if_neg hempty] at hrest
        rw [← Option.some.inj hrest, Finset.mem_erase] at hmem
        exact ⟨⟨actions, hactions, hmem.2⟩, fun hsame => hmem.1 hsame.2⟩
    · rintro ⟨⟨actions, hactions, hmem⟩, hother⟩
      have hrest : actionId' ∈ actions.erase actionId :=
        Finset.mem_erase.2 ⟨fun hsame => hother ⟨rfl, hsame⟩, hmem⟩
      refine ⟨actions.erase actionId, ?_, hrest⟩
      rw [hactions, Option.bind_some, if_neg (Finset.ne_empty_of_mem hrest)]
  · rw [if_neg hkey]
    exact ⟨fun h => ⟨h, fun hsame => hkey hsame.1⟩, fun h => h.1⟩

namespace Consistent

theorem init : Consistent {} where
  same _ _ := by
    constructor
    · rintro ⟨scope, hscope, -⟩
      cases hscope
    · rintro ⟨actions, hactions, -⟩
      cases hactions
  nonempty _ h := by cases h

/-- Without an action and its place in the set of its scope the maps agree. -/
theorem removed (h : hub.Consistent) {actionId : ActionId} {scope : ActionScope}
    (hscope : hub.actionScopes.lookup actionId = some scope) :
    ({ hub with actionScopes := hub.actionScopes.erase actionId }.removeActionFromScope actionId
      scope.key).Consistent where
  same := by
    intro actionId' key
    rw [removeActionFromScope_actionScopes, removeActionFromScope_listed]
    by_cases hid : actionId' = actionId
    · subst hid
      rw [AList.lookup_erase]
      refine iff_of_false (by simp) ?_
      rintro ⟨hlisted, hother⟩
      obtain ⟨scope', hscope', hkey⟩ := (h.same actionId' key).2 hlisted
      rw [hscope] at hscope'
      rw [Option.some.inj hscope'] at hother
      exact hother ⟨hkey.symm, rfl⟩
    · rw [AList.lookup_erase_ne hid]
      refine (h.same actionId' key).trans ⟨fun hlisted => ⟨hlisted, fun hsame => hid hsame.2⟩, And.left⟩
  nonempty key := by
    apply removeActionFromScope_nonempty
    exact h.nonempty

theorem dropAction (h : hub.Consistent) (actionId : ActionId) : (hub.dropAction actionId).Consistent := by
  unfold SseActionCommandHub.dropAction
  split
  · rename_i scope hscope
    exact h.removed hscope
  · exact h

theorem cleanAction (h : hub.Consistent) (now : ℤ) (actionId : ActionId) :
    (hub.cleanAction now actionId).Consistent := by
  unfold SseActionCommandHub.cleanAction
  split
  · rename_i scope hscope
    split
    · exact h.removed hscope
    · exact h
  · exact h

theorem cleanClosedAction (h : hub.Consistent) (now : ℤ) (actionId : ActionId) :
    (hub.cleanClosedAction now actionId).Consistent := by
  obtain ⟨-, hactions, hscopes⟩ := hub.cleanClosedAction_same now actionId
  constructor
  · unfold Listed
    rw [hactions, hscopes]
    exact h.same
  · rw [hscopes]
    exact h.nonempty

theorem cleanExpiredActions (h : hub.Consistent) (now : ℤ) : (hub.cleanExpiredActions now).Consistent :=
  cleanExpiredActions_keeps Consistent now (fun _ actionId hgood => hgood.cleanAction now actionId)
    (fun _ actionId hgood => hgood.cleanClosedAction now actionId) h

/-- A published action leaves its scope and enters the new one. -/
theorem recordAction (h : hub.Consistent) (actionId : ActionId) (scope : ActionScope) :
    (hub.recordAction actionId scope).Consistent := by
  -- the other actions are where they were, this one is in no set
  obtain ⟨before, hbefore, hactions, hnonempty, hother, hthis⟩ : ∃ before : SseActionCommandHub,
      hub.recordAction actionId scope =
        { before with
          actionScopes := before.actionScopes.insert actionId scope
          scopeActions := before.scopeActions.insert scope.key
            (insert actionId ((before.scopeActions.lookup scope.key).getD ∅)) } ∧
      before.actionScopes = hub.actionScopes ∧ (∀ key, before.scopeActions.lookup key ≠ some ∅) ∧
      (∀ key actionId', actionId' ≠ actionId →
        (before.Listed key actionId' ↔ hub.Listed key actionId')) ∧
      ∀ key, ¬ before.Listed key actionId := by
    refine ⟨_, rfl, ?_, ?_, ?_, ?_⟩
    · split
      · exact removeActionFromScope_actionScopes _ _
      · rfl
    · split
      · exact removeActionFromScope_nonempty h.nonempty _ _
      · exact h.nonempty
    · intro key actionId' hid
      split
      · rw [removeActionFromScope_listed]
        exact and_iff_left fun hsame => hid hsame.2
      · rfl
    · intro key
      split
      · rename_i previous hprevious
        rw [removeActionFromScope_listed]
        rintro ⟨hlisted, hnot⟩
        obtain ⟨found, hfound, hkey⟩ := (h.same actionId key).2 hlisted
        rw [hprevious] at hfound
        rw [Option.some.inj hfound] at hnot
        exact hnot ⟨hkey.symm, rfl⟩
      · rename_i hnone
        intro hlisted
        obtain ⟨found, hfound, -⟩ := (h.same actionId key).2 hlisted
        rw [hnone] at hfound
        cases hfound
  have hlisted : ∀ key actionId', (hub.recordAction actionId scope).Listed key actionId' ↔
      (key = scope.key ∧ actionId' = actionId) ∨ before.Listed key actionId' := by
    intro key actionId'
    rw [hbefore]
    unfold Listed
    by_cases hkey : key = scope.key
    · subst hkey
      rw [AList.lookup_insert]
      cases hlookup : before.scopeActions.lookup scope.key with
      | none => simp
      | some actions => simp
    · rw [AList.lookup_insert_ne hkey]
      simp [hkey]
  constructor
  · intro actionId' key
    rw [hlisted]
    have hscopes : (hub.recordAction actionId scope).actionScopes =
        hub.actionScopes.insert actionId scope := by
      rw [hbefore, ← hactions]
    rw [hscopes]
    by_cases hid : actionId' = actionId
    · subst hid
      rw [AList.lookup_insert]
      constructor
      · rintro ⟨found, hfound, rfl⟩
        rw [Option.some.inj hfound]
        exact Or.inl ⟨rfl, rfl⟩
      · rintro (⟨rfl, -⟩ | hold)
        · exact ⟨scope, rfl, rfl⟩
        · exact absurd hold (hthis key)
    · rw [AList.lookup_insert_ne hid, h.same, ← hother key actionId' hid]
      exact ⟨Or.inr, fun hor => hor.resolve_left fun hsame => hid hsame.2⟩
  · intro key
    rw [hbefore]
    by_cases hkey : key = scope.key
    · subst hkey
      rw [AList.lookup_insert]
      intro hempty
      exact Finset.insert_ne_empty _ _ (Option.some.inj hempty)
    · rw [AList.lookup_insert_ne hkey]
      exact hnonempty key

theorem of_maps {hub' : SseActionCommandHub} (h : hub.Consistent)
    (hactions : hub'.actionScopes = hub.actionScopes) (hscopes : hub'.scopeActions = hub.scopeActions) :
    hub'.Consistent := by
  constructor
  · unfold Listed
    rw [hactions, hscopes]
    exact h.same
  · rw [hscopes]
    exact h.nonempty

theorem publish (h : hub.Consistent) (command : ReminderActionCommand) (cleaned now : ℤ) :
    (hub.publish parse limits command cleaned now).1.Consistent := by
  unfold SseActionCommandHub.publish
  dsimp only
  split
  · exact h.cleanExpiredActions cleaned
  · exact ((h.cleanExpiredActions cleaned).recordAction _ _).of_maps rfl rfl

theorem close (h : hub.Consistent) (actionId : ActionId) (scope : ActionStreamCloseScope)
    (cleaned now : ℤ) : (hub.close parse actionId scope cleaned now).Consistent := by
  have hdropped := (h.cleanExpiredActions cleaned).dropAction actionId
  unfold SseActionCommandHub.close
  dsimp only
  split
  · exact hdropped.of_maps rfl rfl
  · exact hdropped.of_maps rfl rfl

theorem step (h : hub.Consistent) (event : HubEvent) : (hub.step parse limits event).1.Consistent := by
  cases event with
  | publish command cleaned now => exact h.publish command cleaned now
  | subscribe subscription now =>
      unfold SseActionCommandHub.step SseActionCommandHub.subscribe
      dsimp only
      split
      · rename_i added hadded
        split_ifs at hadded
        · rw [← Except.ok.inj hadded]
          exact h.of_maps rfl rfl
        · rw [← Except.ok.inj hadded]
          exact h.of_maps rfl rfl
      · exact h
  | close actionId scope cleaned now => exact h.close actionId scope cleaned now
  | abort index => exact h.of_maps rfl rfl
  | timer index now => exact h.of_maps rfl rfl
  | next index => exact h.of_maps rfl rfl
  | «return» index => exact h.of_maps rfl rfl

end Consistent

end SseActionCommandHub

/-! ## Capacity -/

/-- The open subscriptions stay within the limits: all of them, those of a device and those of a scope. -/
structure WithinLimits (limits : HubLimits) (subscriptions : List HubSubscription) : Prop where
  all : (subscriptions.countP fun current => !current.closed) ≤ limits.maxSubscriptions
  device : ∀ deviceId, (subscriptions.countP fun current =>
    !current.closed && current.subscription.deviceId = deviceId) ≤ limits.maxSubscriptionsPerDevice
  scope : ∀ deviceId triggerId, (subscriptions.countP fun current =>
    !current.closed && (current.subscription.deviceId = deviceId &&
      current.subscription.reminderTriggerId = triggerId)) ≤ limits.maxSubscriptionsPerScope

/-- A subscription keeps its scope, and is not opened again. -/
structure Fades (current current' : HubSubscription) : Prop where
  subscription : current'.subscription = current.subscription
  closed : current'.closed = false → current.closed = false

namespace Fades

theorem refl (current : HubSubscription) : Fades current current :=
  ⟨rfl, id⟩

theorem finish (current : HubSubscription) : Fades current current.finish := by
  unfold HubSubscription.finish
  split
  · exact refl current
  · exact ⟨rfl, fun hopen => absurd hopen (by simp)⟩

theorem abort (current : HubSubscription) : Fades current current.abort := by
  unfold HubSubscription.abort
  split
  · exact finish current
  · exact refl current

theorem expire (now : ℤ) (current : HubSubscription) : Fades current (current.expire now) := by
  unfold HubSubscription.expire
  split
  · split
    · exact finish current
    · exact refl current
  · exact refl current

theorem next (current : HubSubscription) : Fades current current.next.1 := by
  unfold HubSubscription.next
  split
  · exact ⟨rfl, id⟩
  · split
    · exact refl current
    · exact ⟨rfl, id⟩

theorem pushTo (maxQueueSize : ℕ) (command : ReminderActionCommand) (scope : ActionScope)
    (current : HubSubscription) :
    Fades current (SseActionCommandHub.pushTo maxQueueSize command scope current).1 := by
  unfold SseActionCommandHub.pushTo HubSubscription.push
  split
  · split
    · exact refl current
    · split
      · split
        · exact finish current
        · exact ⟨rfl, id⟩
      · exact ⟨rfl, id⟩
  · exact refl current

end Fades

theorem countP_le_of_forall₂ {p : HubSubscription → Bool} {subscriptions subscriptions' : List HubSubscription}
    (h : List.Forall₂ (fun current current' => p current' = true → p current = true) subscriptions
      subscriptions') : subscriptions'.countP p ≤ subscriptions.countP p := by
  induction h with
  | nil => exact le_rfl
  | @cons current current' _ _ hhead _ ih =>
      rw [List.countP_cons, List.countP_cons]
      by_cases hp : p current' = true
      · rw [if_pos hp, if_pos (hhead hp)]
        exact Nat.succ_le_succ ih
      · rw [if_neg hp]
        exact ih.trans (Nat.le_add_right _ _)

theorem WithinLimits.fade {subscriptions subscriptions' : List HubSubscription}
    (h : WithinLimits limits subscriptions) (hfade : List.Forall₂ Fades subscriptions subscriptions') :
    WithinLimits limits subscriptions' := by
  have hcount : ∀ p : ActionStreamSubscription → Bool, (subscriptions'.countP fun current =>
      !current.closed && p current.subscription) ≤ subscriptions.countP fun current =>
        !current.closed && p current.subscription := by
    intro p
    apply countP_le_of_forall₂
    refine hfade.imp fun current current' hfades => ?_
    rw [hfades.subscription, Bool.and_eq_true, Bool.and_eq_true, Bool.not_eq_true', Bool.not_eq_true']
    exact fun hopen => ⟨hfades.closed hopen.1, hopen.2⟩
  refine ⟨?_, fun deviceId => ?_, fun deviceId triggerId => ?_⟩
  · have hall := hcount fun _ => true
    simp only [Bool.and_true] at hall
    exact hall.trans h.all
  · exact (hcount fun subscription => subscription.deviceId = deviceId).trans (h.device deviceId)
  · exact (hcount fun subscription => subscription.deviceId = deviceId &&
      subscription.reminderTriggerId = triggerId).trans (h.scope deviceId triggerId)

theorem forall₂_fades_map {update : HubSubscription → HubSubscription}
    (h : ∀ current, Fades current (update current)) (subscriptions : List HubSubscription) :
    List.Forall₂ Fades subscriptions (subscriptions.map update) := by
  rw [List.forall₂_map_right_iff, List.forall₂_same]
  exact fun current _ => h current

theorem forall₂_fades_modify {update : HubSubscription → HubSubscription}
    (h : ∀ current, Fades current (update current)) (subscriptions : List HubSubscription) (index : ℕ) :
    List.Forall₂ Fades subscriptions (subscriptions.modify index update) := by
  induction subscriptions generalizing index with
  | nil => cases index <;> exact List.Forall₂.nil
  | cons current subscriptions ih =>
      cases index with
      | zero =>
          refine List.Forall₂.cons (h current) ?_
          exact List.forall₂_same.2 fun other _ => Fades.refl other
      | succ index => exact List.Forall₂.cons (Fades.refl current) (ih index)

namespace SseActionCommandHub

variable {hub : SseActionCommandHub}

/-- Every event but `subscribe` keeps the subscriptions or lets them fade. -/
theorem publish_fades (command : ReminderActionCommand) (cleaned now : ℤ) :
    List.Forall₂ Fades hub.subscriptions
      (hub.publish parse limits command cleaned now).1.subscriptions := by
  unfold publish
  dsimp only
  split
  · rw [cleanExpiredActions_subscriptions]
    exact List.forall₂_same.2 fun current _ => Fades.refl current
  · show List.Forall₂ Fades hub.subscriptions (List.map _ (List.map _ _))
    rw [recordAction_subscriptions, cleanExpiredActions_subscriptions, List.map_map]
    exact forall₂_fades_map (fun current => Fades.pushTo _ _ _ current) _

@[simp] theorem dropAction_subscriptions (actionId : ActionId) :
    (hub.dropAction actionId).subscriptions = hub.subscriptions := by
  unfold dropAction
  split <;> simp

/-- What `close` does with a subscription. -/
theorem close_subscriptions (actionId : ActionId) (scope : ActionStreamCloseScope) (cleaned now : ℤ) :
    (hub.close parse actionId scope cleaned now).subscriptions = hub.subscriptions ∨
      (hub.close parse actionId scope cleaned now).subscriptions = hub.subscriptions.map fun current =>
        if !current.closed && current.key = scopeKey scope.deviceId scope.reminderTriggerId then
          current.finish
        else current := by
  unfold close
  dsimp only
  split
  · right
    rw [dropAction_subscriptions, cleanExpiredActions_subscriptions]
  · left
    rw [dropAction_subscriptions, cleanExpiredActions_subscriptions]

theorem close_fades (actionId : ActionId) (scope : ActionStreamCloseScope) (cleaned now : ℤ) :
    List.Forall₂ Fades hub.subscriptions
      (hub.close parse actionId scope cleaned now).subscriptions := by
  rcases @close_subscriptions parse hub actionId scope cleaned now with heq | heq
  · rw [heq]
    exact List.forall₂_same.2 fun current _ => Fades.refl current
  · rw [heq]
    apply forall₂_fades_map
    intro current
    split
    · exact Fades.finish current
    · exact Fades.refl current

theorem subscribe_cases (subscription : ActionStreamSubscription) (now : ℤ) :
    hub.subscribe parse limits subscription now =
        .ok { hub with subscriptions := hub.subscriptions ++ [.create parse subscription now] } ∨
      ∃ error, hub.subscribe parse limits subscription now = .error error := by
  unfold subscribe
  dsimp only
  split
  · exact .inl rfl
  · split
    · exact .inr ⟨_, rfl⟩
    · exact .inl rfl

/-- A new subscription is added if it is closed from the start or the limits leave room for it. -/
theorem subscribe_within (hkeys : ∀ current ∈ hub.subscriptions, current.key =
      scopeKey current.subscription.deviceId current.subscription.reminderTriggerId)
    (h : WithinLimits limits hub.subscriptions) {subscription : ActionStreamSubscription} {now : ℤ}
    {added : SseActionCommandHub} (hadded : hub.subscribe parse limits subscription now = .ok added) :
    WithinLimits limits added.subscriptions := by
  unfold subscribe at hadded
  dsimp only at hadded
  split at hadded
  · rename_i hclosed
    rw [← Except.ok.inj hadded]
    refine ⟨?_, fun deviceId => ?_, fun deviceId triggerId => ?_⟩
    · simpa [List.countP_append, hclosed] using h.all
    · simpa [List.countP_append, hclosed] using h.device deviceId
    · simpa [List.countP_append, hclosed] using h.scope deviceId triggerId
  · split at hadded
    · cases hadded
    · rename_i hroom
      rw [not_or, not_or, ge_iff_le, not_le, ge_iff_le, not_le, ge_iff_le, not_le, List.countP_filter,
        List.countP_filter, ← List.countP_eq_length_filter] at hroom
      obtain ⟨hall, hdevice, hscope⟩ := hroom
      rw [← Except.ok.inj hadded]
      refine ⟨?_, fun deviceId => ?_, fun deviceId triggerId => ?_⟩
      · rw [List.countP_append]
        exact (Nat.add_le_add_left List.countP_le_length _).trans hall
      · rw [List.countP_append]
        by_cases hsame : subscription.deviceId = deviceId
        · subst hsame
          refine (Nat.add_le_add_left List.countP_le_length _).trans ?_
          refine le_trans (Nat.succ_le_succ (le_of_eq ?_)) hdevice
          exact List.countP_congr fun current _ => by simp [and_comm]
        · rw [List.countP_singleton, if_neg (by simp [HubSubscription.create, hsame])]
          exact h.device deviceId
      · rw [List.countP_append]
        by_cases hsame : subscription.deviceId = deviceId ∧ subscription.reminderTriggerId = triggerId
        · obtain ⟨rfl, rfl⟩ := hsame
          refine (Nat.add_le_add_left List.countP_le_length _).trans ?_
          refine le_trans (Nat.succ_le_succ (le_of_eq ?_)) hscope
          -- the keys are equal if and only if the ids are
          refine List.countP_congr fun current hmem => ?_
          simp only [Bool.and_eq_true, decide_eq_true_eq, hkeys current hmem, HubSubscription.create,
            scopeKey_inj]
          exact and_comm
        · rw [List.countP_singleton, if_neg]
          · exact h.scope deviceId triggerId
          · intro hnew
            rw [Bool.and_eq_true, Bool.and_eq_true, decide_eq_true_iff, decide_eq_true_iff] at hnew
            exact hsame hnew.2

end SseActionCommandHub

/-! ## Runs -/

/-- The command that an event publishes for a subscription: the hub does not refuse it, the subscription
is open, and both its scope and its expiry are those of the subscription or earlier. -/
def SseActionCommandHub.offers (parse : JsString → Option ℤ) (hub : SseActionCommandHub) (index : ℕ) :
    HubEvent → Option ReminderActionCommand
  | .publish command cleaned now => do
      let expiresAt ← (hub.cleanExpiredActions cleaned).accepts parse command now
      let current ← hub.subscriptions[index]?
      let latest ← parse current.subscription.expiresAt
      if current.closed = false ∧ current.subscription.deviceId = command.deviceId ∧
          current.subscription.reminderTriggerId = command.reminderTriggerId ∧ expiresAt ≤ latest then
        some command
      else none
  | _ => none

namespace SseActionCommandHub

variable {hub : SseActionCommandHub}

variable {command : ReminderActionCommand}

theorem accepts_eq_some {now expiresAt : ℤ} (h : hub.accepts parse command now = some expiresAt) :
    parse command.expiresAt.text = some expiresAt ∧ now < expiresAt ∧
      hub.closedActions.lookup command.commandId = none := by
  unfold accepts at h
  split at h
  · cases h
  · rename_i parsed hparsed
    split at h
    · cases h
    · rename_i hok
      rw [not_or, not_le, Option.isSome_iff_ne_none, not_not] at hok
      rw [← Option.some.inj h]
      exact ⟨hparsed, hok⟩

/-- A command that is refused leaves every subscription as it is. -/
theorem publish_refused {cleaned now : ℤ}
    (h : (hub.cleanExpiredActions cleaned).accepts parse command now = none) :
    hub.publish parse limits command cleaned now = (hub.cleanExpiredActions cleaned, fun _ => none) := by
  unfold publish
  simp only [h]

theorem publish_accepted {cleaned now expiresAt : ℤ}
    (h : (hub.cleanExpiredActions cleaned).accepts parse command now = some expiresAt) :
    let pushed := hub.subscriptions.map
      (pushTo limits.maxQueueSize command ⟨expiresAt, scopeKey command.deviceId command.reminderTriggerId⟩)
    (hub.publish parse limits command cleaned now).1.subscriptions = pushed.map Prod.fst ∧
      (hub.publish parse limits command cleaned now).2 = fun index => pushed[index]?.bind Prod.snd := by
  unfold publish
  simp only [h, recordAction_subscriptions, cleanExpiredActions_subscriptions, and_self]

theorem offers_publish {index : ℕ} {current : HubSubscription}
    (hcurrent : hub.subscriptions[index]? = some current) {cleaned now expiresAt : ℤ}
    (haccepts : (hub.cleanExpiredActions cleaned).accepts parse command now = some expiresAt) :
    hub.offers parse index (.publish command cleaned now) =
      (parse current.subscription.expiresAt).bind fun latest =>
        if current.closed = false ∧ current.subscription.deviceId = command.deviceId ∧
            current.subscription.reminderTriggerId = command.reminderTriggerId ∧ expiresAt ≤ latest then
          some command
        else none := by
  simp only [offers, haccepts, hcurrent]
  rfl

theorem offers_eq_none (hub : SseActionCommandHub) {index : ℕ} (h : hub.subscriptions[index]? = none)
    (event : HubEvent) : hub.offers parse index event = none := by
  unfold offers
  split
  · rw [h]
    exact Option.bind_eq_none_iff.2 fun _ _ => rfl
  · rfl

/-- What is published for a subscription is of its own scope, and expires no later. -/
theorem offers_belongs (hub : SseActionCommandHub) {index : ℕ} {event : HubEvent}
    (h : hub.offers parse index event = some command) :
    ∃ current, hub.subscriptions[index]? = some current ∧
      command.deviceId = current.subscription.deviceId ∧
      command.reminderTriggerId = current.subscription.reminderTriggerId ∧
      ∃ expiresAt ∈ parse command.expiresAt.text, ∃ latest ∈ parse current.subscription.expiresAt,
        expiresAt ≤ latest := by
  unfold offers at h
  split at h
  · obtain ⟨expiresAt, haccepts, h⟩ := Option.bind_eq_some_iff.1 h
    obtain ⟨current, hcurrent, h⟩ := Option.bind_eq_some_iff.1 h
    obtain ⟨latest, hlatest, h⟩ := Option.bind_eq_some_iff.1 h
    split at h
    · rename_i hscope
      obtain ⟨-, hdevice, htrigger, hle⟩ := hscope
      rw [← Option.some.inj h]
      exact ⟨current, hcurrent, hdevice.symm, htrigger.symm, expiresAt, (accepts_eq_some haccepts).1,
        latest, hlatest, hle⟩
    · cases h
  · cases h

end SseActionCommandHub

/-- A run of the hub, with the commands that were published for each subscription and those that its
readers received. -/
structure HubRun where
  hub : SseActionCommandHub := {}
  offered : ℕ → List ReminderActionCommand := fun _ => []
  received : ℕ → List ReminderActionCommand := fun _ => []

/-- The run goes on with an event. -/
def HubRun.step (parse : JsString → Option ℤ) (limits : HubLimits) (run : HubRun) (event : HubEvent) :
    HubRun where
  hub := (run.hub.step parse limits event).1
  offered index := run.offered index ++ (run.hub.offers parse index event).toList
  received index := run.received index ++ ((run.hub.step parse limits event).2 index).toList

/-- The run of a sequence of events. -/
def hubRun (parse : JsString → Option ℤ) (limits : HubLimits) (events : List HubEvent) : HubRun :=
  Run.run (HubRun.step parse limits) {} events

/-- Every subscription is served, and there is nothing for those that are not there. -/
structure HubRun.Serves (parse : JsString → Option ℤ) (run : HubRun) : Prop where
  served : ∀ index current, run.hub.subscriptions[index]? = some current →
    Streamed parse current (run.offered index) (run.received index)
  absent : ∀ index, run.hub.subscriptions[index]? = none →
    run.offered index = [] ∧ run.received index = []
  belongs : ∀ index, ∀ command ∈ run.offered index, ∃ current,
    run.hub.subscriptions[index]? = some current ∧
      command.deviceId = current.subscription.deviceId ∧
      command.reminderTriggerId = current.subscription.reminderTriggerId ∧
      ∃ expiresAt ∈ parse command.expiresAt.text, ∃ latest ∈ parse current.subscription.expiresAt,
        expiresAt ≤ latest

namespace HubRun.Serves

open SseActionCommandHub

variable {run : HubRun}

theorem init : Serves parse {} := by
  refine ⟨fun index current h => ?_, fun _ _ => ⟨rfl, rfl⟩, fun _ _ h => absurd h List.not_mem_nil⟩
  rw [show ({} : HubRun).hub.subscriptions = [] from rfl, List.getElem?_nil] at h
  cases h

/-- Every subscription is served by an event that leaves each of them in its place. -/
theorem of_each (h : Serves parse run) {event : HubEvent}
    (hthere : ∀ index current, run.hub.subscriptions[index]? = some current → ∃ current',
      (run.step parse limits event).hub.subscriptions[index]? = some current' ∧
        current'.subscription = current.subscription ∧
        ∀ offered received, Streamed parse current offered received →
          Streamed parse current' (offered ++ (run.hub.offers parse index event).toList)
            (received ++ ((run.hub.step parse limits event).2 index).toList))
    (habsent : ∀ index, run.hub.subscriptions[index]? = none →
      (run.hub.step parse limits event).2 index = none)
    (hlength : (run.step parse limits event).hub.subscriptions.length = run.hub.subscriptions.length) :
    Serves parse (run.step parse limits event) := by
  constructor
  · intro index current' hcurrent'
    have hbound : index < run.hub.subscriptions.length :=
      hlength ▸ (List.getElem?_eq_some_iff.1 hcurrent').1
    obtain ⟨current'', hcurrent'', -, hserved⟩ := hthere index _ (List.getElem?_eq_getElem hbound)
    rw [Option.some.inj (hcurrent'.symm.trans hcurrent'')]
    exact hserved _ _ (h.served index _ (List.getElem?_eq_getElem hbound))
  · intro index hnone
    rw [List.getElem?_eq_none_iff, hlength, ← List.getElem?_eq_none_iff] at hnone
    obtain ⟨hoffered, hreceived⟩ := h.absent index hnone
    constructor
    · show run.offered index ++ (run.hub.offers parse index event).toList = []
      rw [hoffered, run.hub.offers_eq_none hnone event]
      rfl
    · show run.received index ++ ((run.hub.step parse limits event).2 index).toList = []
      rw [hreceived, habsent index hnone]
      rfl
  · intro index command hcommand
    rcases List.mem_append.1 hcommand with hbefore | hnow
    · obtain ⟨current, hcurrent, hbelongs⟩ := h.belongs index command hbefore
      obtain ⟨current', hcurrent', hsame, -⟩ := hthere index current hcurrent
      refine ⟨current', hcurrent', ?_⟩
      rw [hsame]
      exact hbelongs
    · obtain ⟨current, hcurrent, hbelongs⟩ := run.hub.offers_belongs (Option.mem_toList.1 hnow)
      obtain ⟨current', hcurrent', hsame, -⟩ := hthere index current hcurrent
      refine ⟨current', hcurrent', ?_⟩
      rw [hsame]
      exact hbelongs

/-- What happens to one subscription serves it and the others. -/
theorem of_update (h : Serves parse run) {event : HubEvent} (index : ℕ)
    (update : HubSubscription → HubSubscription) (given : HubSubscription → Option ReminderActionCommand)
    (hquiet : ∀ other, run.hub.offers parse other event = none)
    (hstep : run.hub.step parse limits event = (run.hub.updateSubscription index update,
      fun other => if other = index then run.hub.subscriptions[index]?.bind given else none))
    (hupdate : ∀ current offered received, Streamed parse current offered received →
      Streamed parse (update current) offered (received ++ (given current).toList))
    (hfades : ∀ current, Fades current (update current)) :
    Serves parse (run.step parse limits event) := by
  have hsubscriptions : (run.step parse limits event).hub.subscriptions =
      run.hub.subscriptions.modify index update :=
    congrArg (fun after => after.1.subscriptions) hstep
  apply h.of_each
  · intro other current hcurrent
    rw [hsubscriptions, List.getElem?_modify, hcurrent, hquiet other, hstep]
    by_cases hsame : index = other
    · subst hsame
      refine ⟨update current, congrArg some (if_pos rfl), (hfades current).subscription, ?_⟩
      intro offered received hserved
      dsimp only
      rw [if_pos rfl, hcurrent, Option.bind_some, Option.toList_none, List.append_nil]
      exact hupdate current offered received hserved
    · refine ⟨current, congrArg some (if_neg hsame), rfl, ?_⟩
      intro offered received hserved
      dsimp only
      rw [if_neg (Ne.symm hsame), Option.toList_none, List.append_nil, List.append_nil]
      exact hserved
  · intro other hnone
    rw [hstep]
    dsimp only
    by_cases hsame : other = index
    · rw [if_pos hsame, ← hsame, hnone]
      rfl
    · exact if_neg hsame
  · rw [hsubscriptions, List.length_modify]

theorem publish (h : Serves parse run) (command : ReminderActionCommand) (cleaned now : ℤ) :
    Serves parse (run.step parse limits (.publish command cleaned now)) := by
  by_cases haccepts : (run.hub.cleanExpiredActions cleaned).accepts parse command now = none
  · have hstep : run.hub.step parse limits (.publish command cleaned now) =
        (run.hub.cleanExpiredActions cleaned, fun _ => none) := publish_refused haccepts
    have hsubscriptions : (run.step parse limits (.publish command cleaned now)).hub.subscriptions =
        run.hub.subscriptions :=
      (congrArg (fun after => after.1.subscriptions) hstep).trans (cleanExpiredActions_subscriptions _)
    apply h.of_each
    · intro index current hcurrent
      refine ⟨current, hsubscriptions ▸ hcurrent, rfl, fun offered received hserved => ?_⟩
      rw [hstep, SseActionCommandHub.offers, haccepts]
      show Streamed parse current (offered ++ []) (received ++ [])
      rwa [List.append_nil, List.append_nil]
    · intro index _
      rw [hstep]
    · rw [hsubscriptions]
  · obtain ⟨expiresAt, haccepts⟩ := Option.ne_none_iff_exists'.1 haccepts
    obtain ⟨hsubscriptions, hgiven⟩ := @publish_accepted parse limits run.hub _ _ _ _ haccepts
    apply h.of_each
    · intro index current hcurrent
      refine ⟨(SseActionCommandHub.pushTo limits.maxQueueSize command
        ⟨expiresAt, scopeKey command.deviceId command.reminderTriggerId⟩ current).1, ?_, ?_, ?_⟩
      · show (run.hub.publish parse limits command cleaned now).1.subscriptions[index]? = _
        rw [hsubscriptions, List.getElem?_map, List.getElem?_map, hcurrent]
        rfl
      · exact (Fades.pushTo _ _ _ current).subscription
      · intro offered received hserved
        rw [offers_publish hcurrent haccepts]
        have hnow : (run.hub.step parse limits (.publish command cleaned now)).2 index =
            (SseActionCommandHub.pushTo limits.maxQueueSize command
              ⟨expiresAt, scopeKey command.deviceId command.reminderTriggerId⟩ current).2 := by
          show (run.hub.publish parse limits command cleaned now).2 index = _
          rw [hgiven]
          dsimp only
          rw [List.getElem?_map, hcurrent]
          rfl
        rw [hnow]
        exact hserved.pushTo limits.maxQueueSize command expiresAt
    · intro index hnone
      show (run.hub.publish parse limits command cleaned now).2 index = none
      rw [hgiven]
      dsimp only
      rw [List.getElem?_map, hnone]
      rfl
    · show (run.hub.publish parse limits command cleaned now).1.subscriptions.length = _
      rw [hsubscriptions, List.length_map, List.length_map]

theorem close (h : Serves parse run) (actionId : ActionId) (scope : ActionStreamCloseScope)
    (cleaned now : ℤ) : Serves parse (run.step parse limits (.close actionId scope cleaned now)) := by
  have hkept : ∃ update : HubSubscription → HubSubscription,
      (run.step parse limits (.close actionId scope cleaned now)).hub.subscriptions =
        run.hub.subscriptions.map update ∧ ∀ current, update current = current ∨
          update current = current.finish := by
    rcases @close_subscriptions parse run.hub actionId scope cleaned now with hsame | hfinished
    · exact ⟨id, hsame.trans (List.map_id _).symm, fun current => .inl rfl⟩
    · refine ⟨_, hfinished, fun current => ?_⟩
      split
      · exact .inr rfl
      · exact .inl rfl
  obtain ⟨update, hsubscriptions, hupdate⟩ := hkept
  apply h.of_each
  · intro index current hcurrent
    refine ⟨update current, by rw [hsubscriptions, List.getElem?_map, hcurrent]; rfl, ?_, ?_⟩
    · rcases hupdate current with heq | heq <;> rw [heq]
      exact (Fades.finish current).subscription
    · intro offered received hserved
      show Streamed parse (update current) (offered ++ []) (received ++ [])
      rw [List.append_nil, List.append_nil]
      rcases hupdate current with heq | heq <;> rw [heq]
      · exact hserved
      · exact hserved.finish
  · exact fun _ _ => rfl
  · rw [hsubscriptions, List.length_map]

theorem subscribe (h : Serves parse run) (subscription : ActionStreamSubscription) (now : ℤ) :
    Serves parse (run.step parse limits (.subscribe subscription now)) := by
  by_cases hrefused : ∃ error, run.hub.subscribe parse limits subscription now = .error error
  · obtain ⟨error, hrefused⟩ := hrefused
    have hstep : run.hub.step parse limits (.subscribe subscription now) = (run.hub, fun _ => none) := by
      simp only [SseActionCommandHub.step, hrefused]
    have hsubscriptions : (run.step parse limits (.subscribe subscription now)).hub = run.hub :=
      congrArg Prod.fst hstep
    apply h.of_each
    · intro index current hcurrent
      refine ⟨current, hsubscriptions ▸ hcurrent, rfl, fun offered received hserved => ?_⟩
      rw [hstep]
      show Streamed parse current (offered ++ []) (received ++ [])
      rwa [List.append_nil, List.append_nil]
    · intro index _
      rw [hstep]
    · rw [hsubscriptions]
  · have hadded : run.hub.subscribe parse limits subscription now =
        .ok { run.hub with
          subscriptions := run.hub.subscriptions ++ [.create parse subscription now] } := by
      rcases @subscribe_cases parse limits run.hub subscription now with hok | herror
      · exact hok
      · exact absurd herror hrefused
    have hstep : run.step parse limits (.subscribe subscription now) =
        { run with
          hub := { run.hub with
            subscriptions := run.hub.subscriptions ++ [.create parse subscription now] } } := by
      simp only [HubRun.step, SseActionCommandHub.step, hadded, offers, Option.toList_none, List.append_nil]
    rw [hstep]
    constructor
    · intro index current hcurrent
      rcases Nat.lt_trichotomy index run.hub.subscriptions.length with hbefore | hnew | hbehind
      · rw [List.getElem?_append_left hbefore] at hcurrent
        exact h.served index current hcurrent
      · rw [hnew, List.getElem?_concat_length] at hcurrent
        obtain ⟨hoffered, hreceived⟩ := h.absent index (List.getElem?_eq_none_iff.2 hnew.ge)
        rw [← Option.some.inj hcurrent]
        show Streamed parse _ (run.offered index) (run.received index)
        rw [hoffered, hreceived]
        exact Streamed.create subscription now
      · rw [List.getElem?_eq_none_iff.2 (by simpa using hbehind)] at hcurrent
        cases hcurrent
    · intro index hnone
      apply h.absent
      rw [List.getElem?_eq_none_iff, List.length_append] at hnone
      exact List.getElem?_eq_none_iff.2 (le_trans (Nat.le_add_right _ _) hnone)
    · intro index command hcommand
      obtain ⟨current, hcurrent, hbelongs⟩ := h.belongs index command hcommand
      refine ⟨current, ?_, hbelongs⟩
      exact (List.getElem?_append_left (List.getElem?_eq_some_iff.1 hcurrent).1).trans hcurrent

/-- Every event serves every subscription. -/
theorem step (h : Serves parse run) (event : HubEvent) : Serves parse (run.step parse limits event) := by
  -- a change of one subscription that hands out nothing
  have hsilent : ∀ (event : HubEvent) (index : ℕ) (update : HubSubscription → HubSubscription),
      (∀ other, run.hub.offers parse other event = none) →
      run.hub.step parse limits event = (run.hub.updateSubscription index update, fun _ => none) →
      (∀ current offered received, Streamed parse current offered received →
        Streamed parse (update current) offered received) →
      (∀ current, Fades current (update current)) → Serves parse (run.step parse limits event) := by
    intro event index update hquiet hstep hupdate hfades
    apply h.of_update index update (fun _ => none) hquiet
    · rw [hstep]
      refine congrArg (Prod.mk _) ?_
      funext other
      cases run.hub.subscriptions[index]? <;> simp
    · intro current offered received hserved
      rw [Option.toList_none, List.append_nil]
      exact hupdate current offered received hserved
    · exact hfades
  cases event with
  | publish command cleaned now => exact h.publish command cleaned now
  | subscribe subscription now => exact h.subscribe subscription now
  | close actionId scope cleaned now => exact h.close actionId scope cleaned now
  | abort index =>
      exact hsilent _ index HubSubscription.abort (fun _ => rfl) rfl (fun _ _ _ => Streamed.abort) Fades.abort
  | timer index now =>
      exact hsilent _ index (HubSubscription.expire now) (fun _ => rfl) rfl
        (fun _ _ _ hserved => hserved.expire now) (Fades.expire now)
  | next index =>
      exact h.of_update index (fun current => current.next.1) (fun current => current.next.2) (fun _ => rfl) rfl
        (fun _ _ _ => Streamed.next) Fades.next
  | «return» index =>
      exact hsilent _ index HubSubscription.finish (fun _ => rfl) rfl (fun _ _ _ => Streamed.finish)
        Fades.finish

end HubRun.Serves

/-! ## Closed actions -/

/-- The action is closed, and stays so up to the expiry. -/
def SseActionCommandHub.Closed (hub : SseActionCommandHub) (actionId : ActionId) (expiresAt : ℤ) : Prop :=
  ∃ until' ∈ hub.closedActions.lookup actionId, expiresAt ≤ until'

/-- A closing of the action carries no expiry before this one. -/
def HubEvent.KeepsClosed (parse : JsString → Option ℤ) (actionId : ActionId) (expiresAt : ℤ) :
    HubEvent → Prop
  | .close actionId' scope _ _ =>
      actionId' = actionId → ∃ until' ∈ parse scope.expiresAt, expiresAt ≤ until'
  | _ => True

namespace SseActionCommandHub

variable {hub : SseActionCommandHub} {actionId : ActionId} {expiresAt : ℤ}

theorem Closed.of_same {hub' : SseActionCommandHub} (h : hub.Closed actionId expiresAt)
    (hsame : hub'.closedActions = hub.closedActions) : hub'.Closed actionId expiresAt := by
  unfold Closed
  rw [hsame]
  exact h

theorem cleanAction_closedActions (now : ℤ) (actionId : ActionId) :
    (hub.cleanAction now actionId).closedActions = hub.closedActions :=
  (hub.cleanAction_same now actionId).2

/-- Before its expiry an action is not cleaned from those that are closed. -/
theorem Closed.cleanExpiredActions (h : hub.Closed actionId expiresAt) {now : ℤ} (hnow : now < expiresAt) :
    (hub.cleanExpiredActions now).Closed actionId expiresAt := by
  refine cleanExpiredActions_keeps (Closed · actionId expiresAt) now ?_ ?_ h
  · exact fun hub' other hclosed => hclosed.of_same (cleanAction_closedActions now other)
  · intro hub' other hclosed
    unfold cleanClosedAction
    split
    · rename_i until' huntil
      split
      · rename_i hexpired
        -- the action that goes is another one
        have hother : actionId ≠ other := by
          rintro rfl
          obtain ⟨until'', huntil', hle⟩ := hclosed
          rw [Option.mem_def, huntil] at huntil'
          rw [← Option.some.inj huntil'] at hle
          omega
        obtain ⟨until'', huntil', hle⟩ := hclosed
        refine ⟨until'', ?_, hle⟩
        rw [AList.lookup_erase_ne hother]
        exact huntil'
      · exact hclosed
    · exact hclosed

@[simp] theorem recordAction_closedActions (actionId : ActionId) (scope : ActionScope) :
    (hub.recordAction actionId scope).closedActions = hub.closedActions := by
  unfold recordAction
  split <;> simp

@[simp] theorem dropAction_closedActions (actionId : ActionId) :
    (hub.dropAction actionId).closedActions = hub.closedActions := by
  unfold dropAction
  split <;> simp

/-- What `close` remembers. -/
theorem close_closedActions (actionId : ActionId) (scope : ActionStreamCloseScope) (cleaned now : ℤ) :
    (hub.close parse actionId scope cleaned now).closedActions =
      (hub.cleanExpiredActions cleaned).closedActions.insert actionId
        ((parse scope.expiresAt).getD (now + 60000)) := by
  unfold close
  dsimp only
  split <;> simp

theorem closed_of_close (actionId : ActionId) {scope : ActionStreamCloseScope}
    (hscope : ∃ until' ∈ parse scope.expiresAt, expiresAt ≤ until') (cleaned now : ℤ) :
    (hub.close parse actionId scope cleaned now).Closed actionId expiresAt := by
  obtain ⟨until', huntil, hle⟩ := hscope
  refine ⟨until', ?_, hle⟩
  rw [close_closedActions, AList.lookup_insert, Option.mem_def.1 huntil]
  rfl

/-- Before its expiry a closed action stays closed. -/
theorem Closed.step (h : hub.Closed actionId expiresAt) {event : HubEvent}
    (hkeeps : event.KeepsClosed parse actionId expiresAt)
    (hreadings : ∀ reading ∈ event.readings, reading < expiresAt) :
    (hub.step parse limits event).1.Closed actionId expiresAt := by
  cases event with
  | publish command cleaned now =>
      have hcleaned := h.cleanExpiredActions (hreadings cleaned List.mem_cons_self)
      apply hcleaned.of_same
      show (hub.publish parse limits command cleaned now).1.closedActions =
        (hub.cleanExpiredActions cleaned).closedActions
      unfold publish
      dsimp only
      split
      · rfl
      · simp only [recordAction_closedActions]
  | subscribe subscription now =>
      apply h.of_same
      unfold SseActionCommandHub.step
      rcases @subscribe_cases parse limits hub subscription now with hadded | ⟨error, hrefused⟩
      · simp only [hadded]
      · simp only [hrefused]
  | close actionId' scope cleaned now =>
      show (hub.close parse actionId' scope cleaned now).Closed actionId expiresAt
      by_cases hsame : actionId' = actionId
      · rw [hsame]
        exact closed_of_close actionId (hkeeps hsame) cleaned now
      · obtain ⟨until', huntil, hle⟩ := h.cleanExpiredActions (hreadings cleaned List.mem_cons_self)
        refine ⟨until', ?_, hle⟩
        rw [close_closedActions, AList.lookup_insert_ne (Ne.symm hsame)]
        exact huntil
  | abort index => exact h.of_same rfl
  | timer index now => exact h.of_same rfl
  | next index => exact h.of_same rfl
  | «return» index => exact h.of_same rfl

/-- A command of a closed action is refused. -/
theorem Closed.publish_refused {command : ReminderActionCommand} {cleaned now : ℤ}
    (h : ∀ expiresAt ∈ parse command.expiresAt.text, now < expiresAt →
      (hub.cleanExpiredActions cleaned).Closed command.commandId expiresAt) :
    hub.publish parse limits command cleaned now = (hub.cleanExpiredActions cleaned, fun _ => none) := by
  apply SseActionCommandHub.publish_refused
  by_contra haccepts
  obtain ⟨expiresAt, haccepts⟩ := Option.ne_none_iff_exists'.1 haccepts
  obtain ⟨hparse, hnow, hopen⟩ := accepts_eq_some haccepts
  obtain ⟨until', huntil, -⟩ := h expiresAt hparse hnow
  rw [Option.mem_def, hopen] at huntil
  cases huntil

end SseActionCommandHub

/-! ## The hub over its runs -/

/-- The action of the command was closed with the command's own expiry, it was not closed with an earlier
one since, and the clock has not shown a later time since. -/
def ClosedBefore (parse : JsString → Option ℤ) (events : List HubEvent) (command : ReminderActionCommand)
    (cleaned now : ℤ) : Prop :=
  ∃ before scope cleaned' now' after,
    events = before ++ .close command.commandId scope cleaned' now' :: after ∧
      parse scope.expiresAt = parse command.expiresAt.text ∧
      (∀ event ∈ after, ∀ expiresAt ∈ parse command.expiresAt.text,
        event.KeepsClosed parse command.commandId expiresAt) ∧
      (∀ event ∈ after, ∀ reading ∈ event.readings, reading ≤ now) ∧ cleaned ≤ now

/-- What the runs of the hub promise. -/
structure HubSound (parse : JsString → Option ℤ) (limits : HubLimits) (events : List HubEvent)
    (run : HubRun) : Prop where
  /-- The open subscriptions stay within the limits. -/
  within : WithinLimits limits run.hub.subscriptions
  /-- Readers receive the first of the commands that were published for the subscription, in order. -/
  inOrder : ∀ index, run.received index <+: run.offered index
  /-- They are of the scope of the subscription, and expire no later. -/
  isolated : ∀ index, ∀ command ∈ run.offered index, ∃ current,
    run.hub.subscriptions[index]? = some current ∧
      command.deviceId = current.subscription.deviceId ∧
      command.reminderTriggerId = current.subscription.reminderTriggerId ∧
      ∃ expiresAt ∈ parse command.expiresAt.text, ∃ latest ∈ parse current.subscription.expiresAt,
        expiresAt ≤ latest
  /-- No reader and no queue is given a command of a closed action. -/
  closed : ∀ command cleaned now, ClosedBefore parse events command cleaned now →
    (run.hub.publish parse limits command cleaned now).1.subscriptions = run.hub.subscriptions ∧
      ∀ index, (run.hub.publish parse limits command cleaned now).2 index = none
  /-- The maps of the actions describe one relation, without empty sets. -/
  consistent : run.hub.Consistent

theorem hubRun_hub (parse : JsString → Option ℤ) (limits : HubLimits) (run : HubRun)
    (events : List HubEvent) :
    (Run.run (HubRun.step parse limits) run events).hub =
      Run.run (fun hub event => (hub.step parse limits event).1) run.hub events := by
  induction events generalizing run with
  | nil => rfl
  | cons event events ih =>
      rw [Run.run_cons, Run.run_cons, ih]
      rfl

/-- A closed action is closed at the end of a run that neither passes its expiry nor closes it again. -/
theorem closed_run {hub : SseActionCommandHub} {actionId : ActionId} {expiresAt : ℤ}
    {events : List HubEvent} (h : hub.Closed actionId expiresAt)
    (hkeeps : ∀ event ∈ events, event.KeepsClosed parse actionId expiresAt)
    (hreadings : ∀ event ∈ events, ∀ reading ∈ event.readings, reading < expiresAt) :
    (Run.run (fun hub event => (hub.step parse limits event).1) hub events).Closed actionId expiresAt := by
  induction events generalizing hub with
  | nil => exact h
  | cons event events ih =>
      rw [Run.run_cons]
      apply ih
      · exact h.step (hkeeps event List.mem_cons_self) (hreadings event List.mem_cons_self)
      · exact fun event' hmem => hkeeps event' (List.mem_cons_of_mem _ hmem)
      · exact fun event' hmem => hreadings event' (List.mem_cons_of_mem _ hmem)

/-- What holds in every state of a run. -/
structure HubRun.Good (parse : JsString → Option ℤ) (limits : HubLimits) (run : HubRun) : Prop where
  serves : run.Serves parse
  within : WithinLimits limits run.hub.subscriptions
  consistent : run.hub.Consistent

namespace HubRun.Good

open SseActionCommandHub

variable {run : HubRun}

theorem init : Good parse limits {} := by
  refine ⟨.init, ⟨Nat.zero_le _, fun _ => Nat.zero_le _, fun _ _ => Nat.zero_le _⟩, .init⟩

theorem keys (h : Good parse limits run) : ∀ current ∈ run.hub.subscriptions, current.key =
    scopeKey current.subscription.deviceId current.subscription.reminderTriggerId := by
  intro current hmem
  obtain ⟨index, hindex⟩ := List.mem_iff_getElem?.1 hmem
  exact (h.serves.served index current hindex).key

theorem step (h : Good parse limits run) (event : HubEvent) :
    Good parse limits (run.step parse limits event) := by
  refine ⟨h.serves.step event, ?_, h.consistent.step event⟩
  show WithinLimits limits (run.hub.step parse limits event).1.subscriptions
  cases event with
  | publish command cleaned now => exact h.within.fade (publish_fades command cleaned now)
  | subscribe subscription now =>
      unfold SseActionCommandHub.step
      rcases @subscribe_cases parse limits run.hub subscription now with hadded | ⟨error, hrefused⟩
      · simp only [hadded]
        exact subscribe_within h.keys h.within hadded
      · simp only [hrefused]
        exact h.within
  | close actionId scope cleaned now => exact h.within.fade (close_fades actionId scope cleaned now)
  | abort index => exact h.within.fade (forall₂_fades_modify Fades.abort _ index)
  | timer index now => exact h.within.fade (forall₂_fades_modify (Fades.expire now) _ index)
  | next index => exact h.within.fade (forall₂_fades_modify Fades.next _ index)
  | «return» index => exact h.within.fade (forall₂_fades_modify Fades.finish _ index)

end HubRun.Good

end VoiceLife.Gateway
