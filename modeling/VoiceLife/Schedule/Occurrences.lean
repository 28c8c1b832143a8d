import VoiceLife.Schedule.ServiceCalls

/-! # One instance for each occurrence

An instance is known by the exception that links it or, without one, by its rule and its current
start. A run that moves no instance of the second kind creates every occurrence at most once.
-/

namespace VoiceLife

open ScheduleService ScheduleRuleService MemoryScheduleRuleRepository

/-- The rule and start of the instance that the answer of a rule operation reports. -/
def ScheduleRuleResult.firstOccurrence (answer : ScheduleRuleResult) : Option (ℤ × ℤ) :=
  answer.rule.bind fun rule =>
    (answer.schedules.head?.bind (·.startTime)).map fun startTime => (rule.id, startTime)

/-- The rule and original time of the instance that a call creates. -/
def ServiceCall.created (repo : MemoryScheduleRepository) : ServiceCall → Option (ℤ × ℤ)
  | .createScheduleRule now stamp command =>
    (ScheduleRuleService.createScheduleRule repo now stamp command).1.firstOccurrence
  | .updateScheduleRule now stamp command =>
    (ScheduleRuleService.updateScheduleRule repo now stamp command).1.firstOccurrence
  | call => call.generated repo

/-- A store and the occurrences created so far. -/
structure Ledger where
  repo : MemoryScheduleRepository := {}
  created : List (ℤ × ℤ) := []

/-- A call, with its new occurrence written down. -/
def Ledger.step (ledger : Ledger) (call : ServiceCall) : Ledger where
  repo := call.step ledger.repo
  created := ledger.created ++ (call.created ledger.repo).toList

/-- An exception of the rule links the schedule. -/
def Linked (repo : MemoryScheduleRepository) (ruleId scheduleId : ℤ) : Prop :=
  ∃ time exc, findByRuleAndTime repo ruleId time = some exc ∧ exc.scheduleId = some scheduleId

/-- The calls that neither rebuild nor cancel a rule. -/
def ServiceCall.KeepsRules : ServiceCall → Prop
  | .updateScheduleRule _ _ _ => False
  | .cancelScheduleRule _ _ => False
  | _ => True

/-- The call is an accepted update that moves an instance which no exception links. -/
def MovesUnlinked (repo : MemoryScheduleRepository) : ServiceCall → Prop
  | .schedule (.updateSchedule now command) =>
    ¬ Failed (ScheduleService.updateSchedule repo now command).1.result ∧
      ∃ loaded ruleId, repo.schedules.find? command.scheduleId = some loaded ∧
        loaded.ruleId = some ruleId ∧ ¬ Linked repo ruleId loaded.id ∧
        (applyUpdate command loaded).startTime ≠ loaded.startTime
  | _ => False

/-- The store still knows the instance of an occurrence: its exception links it, or it stands at the
original time and no modification of the occurrence is stored. -/
def Remembered (repo : MemoryScheduleRepository) (ruleId time : ℤ) : Prop :=
  (∃ exc, findByRuleAndTime repo ruleId time = some exc ∧ exc.scheduleId.isSome = true) ∨
    (∃ s ∈ repo.schedules.rows, s.ruleId = some ruleId ∧ s.startTime = some time ∧
      ¬ Linked repo ruleId s.id) ∧
    ∀ exc, findByRuleAndTime repo ruleId time = some exc → exc.type = .skip

/-- What the calls keep. Skips may be stored for rules that do not exist yet. -/
structure Ledger.Consistent (ledger : Ledger) : Prop where
  remembered : ∀ ruleId time, (ruleId, time) ∈ ledger.created → Remembered ledger.repo ruleId time
  nodup : ledger.created.Nodup
  ruleId_lt : ∀ ruleId time, (ruleId, time) ∈ ledger.created → ruleId < ledger.repo.rules.nextId
  link_exists : ∀ ruleId scheduleId, Linked ledger.repo ruleId scheduleId →
    ∃ s ∈ ledger.repo.schedules.rows, s.id = scheduleId
  modify_lt : ∀ ruleId time exc, findByRuleAndTime ledger.repo ruleId time = some exc →
    exc.type = .modify → ruleId < ledger.repo.rules.nextId

/-! ## The search -/

variable {repo : MemoryScheduleRepository}

/-- The search does not find an occurrence that is remembered. -/
theorem Remembered.not_generated {ruleId time : ℤ}
    (h : Remembered repo ruleId time) (call : ServiceCall) :
    call.generated repo ≠ some (ruleId, time) := by
  intro hgen
  obtain ⟨now, stamp, rule, exc, -, -, hsearch⟩ := generated_eq_some hgen
  obtain ⟨-, hlookup, hopen, hfresh⟩ := searchNextInstance_found hsearch
  rcases h with ⟨e, he, hlinked⟩ | ⟨⟨s, hs, hrule, hstart, -⟩, hskip⟩
  · rw [hlookup] at he
    rw [(hopen e he).1] at hlinked
    cases hlinked
  · cases exc with
    | none => exact hfresh rfl ⟨s, hs, hrule, hstart⟩
    | some e =>
        have htype := hskip e hlookup
        rw [(hopen e rfl).2] at htype
        cases htype

/-- An exception operation finds the instance of an occurrence that is remembered. -/
theorem Remembered.materialized {ruleId time : ℤ} (h : Remembered repo ruleId time)
    (hlinks : ∀ scheduleId, Linked repo ruleId scheduleId →
      ∃ s ∈ repo.schedules.rows, s.id = scheduleId) :
    (findMaterializedScheduleOccurrence repo ruleId time
      ((findByRuleAndTime repo ruleId time).bind (·.scheduleId))).isSome = true := by
  cases hlink : (findByRuleAndTime repo ruleId time).bind (·.scheduleId) with
  | some scheduleId =>
      obtain ⟨exc, hexc, hid⟩ := Option.bind_eq_some_iff.1 hlink
      obtain ⟨s, hs, hsid⟩ := hlinks scheduleId ⟨time, exc, hexc, hid⟩
      exact Option.isSome_iff_exists.2 ⟨s, IdTable.find?_eq_some.2 ⟨hs, hsid⟩⟩
  | none =>
      rcases h with ⟨exc, hexc, hsome⟩ | ⟨⟨s, hs, hrule, hstart, -⟩, -⟩
      · rw [hexc, Option.bind_some] at hlink
        rw [hlink] at hsome
        cases hsome
      · exact findMaterialized_none_isSome.2 ⟨s, hs, hrule, hstart⟩

/-! ## What a step keeps -/

/-- An occurrence stays remembered if its row and its exception stay, and no link is added to a
schedule that exists. -/
theorem Remembered.of_step {repo repo' : MemoryScheduleRepository} {ruleId time : ℤ}
    (h : Remembered repo ruleId time)
    (hrow : ∀ s ∈ repo.schedules.rows, s.ruleId = some ruleId → ¬ Linked repo ruleId s.id →
      ∃ s' ∈ repo'.schedules.rows, s'.id = s.id ∧ s'.ruleId = s.ruleId ∧
        s'.startTime = s.startTime)
    (hlookup : findByRuleAndTime repo' ruleId time = findByRuleAndTime repo ruleId time)
    (hlink : ∀ s ∈ repo.schedules.rows, Linked repo' ruleId s.id → Linked repo ruleId s.id) :
    Remembered repo' ruleId time := by
  unfold Remembered
  rw [hlookup]
  rcases h with hlinked | ⟨⟨s, hs, hrule, hstart, hunlinked⟩, hskip⟩
  · exact Or.inl hlinked
  · obtain ⟨s', hs', hid, hrule', hstart'⟩ := hrow s hs hrule hunlinked
    refine Or.inr ⟨⟨s', hs', hrule'.trans hrule, hstart'.trans hstart, ?_⟩, hskip⟩
    rw [hid]
    intro hlinked
    exact hunlinked (hlink s hs hlinked)

theorem Linked.congr {repo repo' : MemoryScheduleRepository}
    (h : repo'.exceptions = repo.exceptions) {ruleId scheduleId : ℤ}
    (hlinked : Linked repo' ruleId scheduleId) : Linked repo ruleId scheduleId := by
  obtain ⟨time, exc, hexc, hid⟩ := hlinked
  exact ⟨time, exc, by rw [← findByRuleAndTime_congr h, hexc], hid⟩

/-- Writing an exception that links nothing adds no link. -/
theorem Linked.of_upsert {stamp : ℤ} {exc : ScheduleException}
    (hpos : 0 < exc.ruleId) (hnone : exc.scheduleId = none) {ruleId scheduleId : ℤ}
    (h : Linked (upsert repo stamp exc).2 ruleId scheduleId) : Linked repo ruleId scheduleId := by
  obtain ⟨_, _, _, -, -, -, hlookup⟩ := upsert_cases repo stamp exc hpos
  obtain ⟨time, e, he, hid⟩ := h
  rw [hlookup] at he
  split_ifs at he with hkey
  · cases he
    rw [hnone] at hid
    cases hid
  · exact ⟨time, e, he, hid⟩

/-- Replacing a row under its id keeps the other rows and puts the new one in its place. -/
private theorem exists_replaced {loaded s : Schedule}
    (replaced : Schedule) (hload : loaded ∈ repo.schedules.rows) (hid : replaced.id = loaded.id)
    (hs : s ∈ repo.schedules.rows) :
    (s ∈ (repo.schedules.replace replaced).rows) ∨
      (s = loaded ∧ replaced ∈ (repo.schedules.replace replaced).rows) := by
  by_cases h : s.id = replaced.id
  · refine Or.inr ⟨repo.schedules.eq_of_getId_eq hs hload (h.trans hid), ?_⟩
    exact IdTable.mem_replace.2 (Or.inr ⟨rfl, s, hs, h⟩)
  · exact Or.inl (IdTable.mem_replace.2 (Or.inl ⟨hs, h⟩))

/-- A schedule call keeps every row with its id and rule, and its start unless it moves it. -/
theorem ScheduleServiceCall.step_row (call : ScheduleServiceCall)
    {s : Schedule} (hs : s ∈ repo.schedules.rows) :
    ∃ s' ∈ (call.step repo).schedules.rows, s'.id = s.id ∧ s'.ruleId = s.ruleId ∧
      (¬ MovesUnlinked repo (.schedule call) → ∀ ruleId, s.ruleId = some ruleId →
        ¬ Linked repo ruleId s.id → s'.startTime = s.startTime) := by
  cases call with
  | createSchedule now command =>
      rcases createSchedule_outcome repo now command with ⟨-, hsame⟩ | ⟨_, -, -, -, -, -, hrepo⟩
      · rw [step, hsame]
        exact ⟨s, hs, rfl, rfl, fun _ _ _ _ => rfl⟩
      · rw [step, hrepo]
        exact ⟨s, IdTable.mem_insert.2 (Or.inl hs), rfl, rfl, fun _ _ _ _ => rfl⟩
  | updateSchedule now command =>
      rcases updateSchedule_outcome repo now command with
        ⟨-, hsame⟩ | ⟨loaded, updated, hload, hupdated, -, -, hok, hrepo⟩
      · rw [step, hsame]
        exact ⟨s, hs, rfl, rfl, fun _ _ _ _ => rfl⟩
      · rw [step, hrepo]
        have hid : updated.id = loaded.id := by rw [hupdated]; rfl
        rcases exists_replaced updated (IdTable.find?_eq_some.1 hload).1 hid hs with hmem | ⟨rfl, hmem⟩
        · exact ⟨s, hmem, rfl, rfl, fun _ _ _ _ => rfl⟩
        · refine ⟨updated, hmem, hid, by rw [hupdated]; rfl, fun hmoves ruleId hrule hlink => ?_⟩
          by_contra hstart
          refine hmoves ⟨?_, s, ruleId, hload, hrule, hlink, ?_⟩
          · rintro ⟨status, herror⟩
            rw [hok] at herror
            cases herror
          · rwa [hupdated] at hstart
  | cancelSchedule now command =>
      rcases cancelSchedule_outcome repo now command with ⟨-, hsame⟩ | ⟨loaded, hload, -, -, hrepo⟩
      · rw [step, hsame]
        exact ⟨s, hs, rfl, rfl, fun _ _ _ _ => rfl⟩
      · rw [step, hrepo]
        rcases exists_replaced { loaded with status := .cancelled, updatedAt := now }
          (IdTable.find?_eq_some.1 hload).1 rfl hs with hmem | ⟨rfl, hmem⟩
        · exact ⟨s, hmem, rfl, rfl, fun _ _ _ _ => rfl⟩
        · exact ⟨_, hmem, rfl, rfl, fun _ _ _ _ => rfl⟩
  | completeSchedule now scheduleId =>
      rcases completeSchedule_outcome repo now scheduleId with
        ⟨-, hsame⟩ | ⟨loaded, hload, -, -, hrepo⟩
      · rw [step, hsame]
        exact ⟨s, hs, rfl, rfl, fun _ _ _ _ => rfl⟩
      · rw [step, hrepo]
        rcases exists_replaced { loaded with status := .completed, updatedAt := now }
          (IdTable.find?_eq_some.1 hload).1 rfl hs with hmem | ⟨rfl, hmem⟩
        · exact ⟨s, hmem, rfl, rfl, fun _ _ _ _ => rfl⟩
        · exact ⟨_, hmem, rfl, rfl, fun _ _ _ _ => rfl⟩

namespace Ledger.Consistent

variable {ledger : Ledger}

/-- A call that creates no occurrence. -/
theorem of_none (h : ledger.Consistent) {call : ServiceCall}
    (hcreated : call.created ledger.repo = none)
    (hrem : ∀ ruleId time, Remembered ledger.repo ruleId time →
      Remembered (call.step ledger.repo) ruleId time)
    (hrules : (call.step ledger.repo).rules = ledger.repo.rules)
    (hlinks : ∀ ruleId scheduleId, Linked (call.step ledger.repo) ruleId scheduleId →
      ∃ s ∈ (call.step ledger.repo).schedules.rows, s.id = scheduleId)
    (hmodify : ∀ ruleId time exc,
      findByRuleAndTime (call.step ledger.repo) ruleId time = some exc → exc.type = .modify →
      ruleId < ledger.repo.rules.nextId) : (ledger.step call).Consistent := by
  have hsame : (ledger.step call).created = ledger.created := by
    simp [Ledger.step, hcreated]
  refine ⟨?_, ?_, ?_, hlinks, ?_⟩
  · intro ruleId time hmem
    rw [hsame] at hmem
    exact hrem ruleId time (h.remembered ruleId time hmem)
  · rw [hsame]
    exact h.nodup
  · intro ruleId time hmem
    rw [hsame] at hmem
    rw [Ledger.step, hrules]
    exact h.ruleId_lt ruleId time hmem
  · intro ruleId time exc hexc htype
    rw [Ledger.step, hrules]
    exact hmodify ruleId time exc hexc htype

/-- A call that creates one occurrence. -/
theorem of_some (h : ledger.Consistent) {call : ServiceCall} {ruleId time : ℤ}
    (hcreated : call.created ledger.repo = some (ruleId, time))
    (hfresh : (ruleId, time) ∉ ledger.created)
    (hnew : Remembered (call.step ledger.repo) ruleId time)
    (hrule : ruleId < (call.step ledger.repo).rules.nextId)
    (hrem : ∀ ruleId' time', (ruleId', time') ∈ ledger.created →
      Remembered (call.step ledger.repo) ruleId' time')
    (hnext : ledger.repo.rules.nextId ≤ (call.step ledger.repo).rules.nextId)
    (hlinks : ∀ ruleId' scheduleId, Linked (call.step ledger.repo) ruleId' scheduleId →
      ∃ s ∈ (call.step ledger.repo).schedules.rows, s.id = scheduleId)
    (hmodify : ∀ ruleId' time' exc,
      findByRuleAndTime (call.step ledger.repo) ruleId' time' = some exc → exc.type = .modify →
      ruleId' < (call.step ledger.repo).rules.nextId) : (ledger.step call).Consistent := by
  have hcons : (ledger.step call).created = ledger.created ++ [(ruleId, time)] := by
    simp [Ledger.step, hcreated]
  refine ⟨?_, ?_, ?_, hlinks, hmodify⟩
  · intro ruleId' time' hmem
    rw [hcons, List.mem_append, List.mem_singleton] at hmem
    rcases hmem with hmem | hmem
    · exact hrem ruleId' time' hmem
    · cases hmem
      exact hnew
  · rw [hcons]
    exact List.nodup_append_comm.1 (List.nodup_cons.2 ⟨hfresh, h.nodup⟩)
  · intro ruleId' time' hmem
    rw [hcons, List.mem_append, List.mem_singleton] at hmem
    rcases hmem with hmem | hmem
    · exact (h.ruleId_lt ruleId' time' hmem).trans_le hnext
    · cases hmem
      exact hrule

/-! ## Steps -/

/-- A call that leaves the store alone and creates nothing. -/
theorem of_same (h : ledger.Consistent) {call : ServiceCall}
    (hcreated : call.created ledger.repo = none) (hsame : call.step ledger.repo = ledger.repo) :
    (ledger.step call).Consistent := by
  apply h.of_none hcreated
  · intro ruleId time hrem
    rwa [hsame]
  · rw [hsame]
  · rw [hsame]
    exact h.link_exists
  · rw [hsame]
    exact h.modify_lt

theorem step_schedule (h : ledger.Consistent) (call : ScheduleServiceCall)
    (hcall : ¬ MovesUnlinked ledger.repo (.schedule call)) :
    (ledger.step (.schedule call)).Consistent := by
  obtain ⟨hrules, hexceptions⟩ := call.step_frame ledger.repo
  have hlookup := findByRuleAndTime_congr hexceptions
  apply h.of_none rfl
  · intro ruleId time hrem
    refine hrem.of_step ?_ (hlookup ruleId time) fun s _ hlink => hlink.congr hexceptions
    intro s hs hrule hlink
    obtain ⟨s', hs', hid, hrule', hstart⟩ := call.step_row hs
    exact ⟨s', hs', hid, hrule', hstart hcall ruleId hrule hlink⟩
  · exact hrules
  · intro ruleId scheduleId hlink
    obtain ⟨s, hs, rfl⟩ := h.link_exists ruleId scheduleId (hlink.congr hexceptions)
    obtain ⟨s', hs', hid, -⟩ := call.step_row hs
    exact ⟨s', hs', hid⟩
  · intro ruleId time exc hexc
    exact h.modify_lt ruleId time exc ((hlookup ruleId time).symm.trans hexc)

/-- A call that writes an exception without a link, a modification only for a rule that exists, and
not for an occurrence that is remembered. -/
theorem of_upsert (h : ledger.Consistent) {call : ServiceCall} {stamp : ℤ}
    {exc : ScheduleException} (hcreated : call.created ledger.repo = none)
    (hstep : call.step ledger.repo = (upsert ledger.repo stamp exc).2) (hpos : 0 < exc.ruleId)
    (hnone : exc.scheduleId = none)
    (hmodify : exc.type = .modify → exc.ruleId < ledger.repo.rules.nextId)
    (hfresh : ¬ Remembered ledger.repo exc.ruleId exc.originalStartTime) :
    (ledger.step call).Consistent := by
  obtain ⟨_, _, _, -, hschedules, hrules, hlookup⟩ := upsert_cases ledger.repo stamp exc hpos
  apply h.of_none hcreated
  · intro ruleId time hrem
    rw [hstep]
    apply hrem.of_step
    · intro s hs _ _
      rw [hschedules]
      exact ⟨s, hs, rfl, rfl, rfl⟩
    · rw [hlookup, if_neg]
      rintro ⟨rfl, rfl⟩
      exact hfresh hrem
    · intro s _ hlink
      exact hlink.of_upsert hpos hnone
  · rw [hstep, hrules]
  · intro ruleId scheduleId hlink
    rw [hstep] at hlink ⊢
    rw [hschedules]
    exact h.link_exists ruleId scheduleId (hlink.of_upsert hpos hnone)
  · intro ruleId time e he htype
    rw [hstep, hlookup] at he
    split_ifs at he with hkey
    · cases he
      rw [hkey.1]
      exact hmodify htype
    · exact h.modify_lt ruleId time e he htype

theorem step_createScheduleRule (h : ledger.Consistent) (now stamp : ℤ)
    (command : CreateScheduleRuleCommand) :
    (ledger.step (.createScheduleRule now stamp command)).Consistent := by
  rcases createScheduleRule_outcome ledger.repo now stamp command with
    ⟨hnone, hsame⟩ | ⟨rule, firstTime, createdAt, updatedAt, -, -, hrule, hfirst, hrepo⟩
  · refine h.of_same ?_ hsame
    rw [ServiceCall.created, ScheduleRuleResult.firstOccurrence, hnone, Option.bind_none]
  · have hcreated : ServiceCall.created ledger.repo (.createScheduleRule now stamp command) =
        some (ledger.repo.rules.nextId, firstTime) := by
      rw [ServiceCall.created, ScheduleRuleResult.firstOccurrence, hrule, hfirst]
      rfl
    have hlookup : ∀ ruleId time, findByRuleAndTime
        ((ServiceCall.createScheduleRule now stamp command).step ledger.repo) ruleId time =
        findByRuleAndTime ledger.repo ruleId time := by
      intro ruleId time
      rw [ServiceCall.step, hrepo]
      rfl
    have hlinks : ∀ ruleId scheduleId,
        Linked ((ServiceCall.createScheduleRule now stamp command).step ledger.repo) ruleId
          scheduleId → Linked ledger.repo ruleId scheduleId := by
      intro ruleId scheduleId hlink
      rw [ServiceCall.step, hrepo] at hlink
      exact hlink.congr rfl
    have hrows : ∀ s ∈ ledger.repo.schedules.rows, s ∈
        ((ServiceCall.createScheduleRule now stamp command).step
          ledger.repo).schedules.rows := by
      intro s hs
      rw [ServiceCall.step, hrepo]
      exact IdTable.mem_insert.2 (Or.inl hs)
    have hnext : ((ServiceCall.createScheduleRule now stamp command).step
        ledger.repo).rules.nextId = ledger.repo.rules.nextId + 1 := by
      rw [ServiceCall.step, hrepo]
      rfl
    refine h.of_some hcreated ?_ (Or.inr ⟨?_, ?_⟩) (by omega) ?_ (by omega) ?_ ?_
    · intro hmem
      exact lt_irrefl _ (h.ruleId_lt _ _ hmem)
    · -- the new instance has a new id, which no exception can link yet
      rw [ServiceCall.step, hrepo]
      refine ⟨_, IdTable.mem_insert.2 (Or.inr rfl), rfl, rfl, fun hlink => ?_⟩
      obtain ⟨s, hs, hid⟩ := h.link_exists _ _ (hlink.congr rfl)
      exact (ledger.repo.schedules.id_lt s hs).ne hid
    · -- the rule is new, so its exceptions are skips
      intro exc hexc
      rw [hlookup] at hexc
      cases htype : exc.type with
      | skip => rfl
      | modify => exact absurd (h.modify_lt _ _ exc hexc htype) (lt_irrefl _)
    · intro ruleId time hmem
      apply (h.remembered ruleId time hmem).of_step
      · intro s hs _ _
        exact ⟨s, hrows s hs, rfl, rfl, rfl⟩
      · exact hlookup ruleId time
      · intro s _ hlink
        exact hlinks ruleId s.id hlink
    · intro ruleId scheduleId hlink
      obtain ⟨s, hs, hid⟩ := h.link_exists ruleId scheduleId (hlinks ruleId scheduleId hlink)
      exact ⟨s, hrows s hs, hid⟩
    · intro ruleId time exc hexc htype
      have := h.modify_lt ruleId time exc ((hlookup ruleId time).symm.trans hexc) htype
      omega

theorem step_updateScheduleOccurrence (h : ledger.Consistent) (stamp : ℤ)
    (command : UpdateScheduleOccurrenceCommand) :
    (ledger.step (.updateScheduleOccurrence stamp command)).Consistent := by
  rcases updateScheduleOccurrence_outcome ledger.repo stamp command with
    ⟨-, hsame⟩ | ⟨exc, hpos, -, ⟨rule, hfind⟩, hrule, htime, -, hlink, hfresh, hrepo⟩
  · exact h.of_same rfl hsame
  · have hunlinked : exc.scheduleId = none := by
      cases hid : exc.scheduleId with
      | none => rfl
      | some scheduleId =>
          rw [hid] at hlink hfresh
          obtain ⟨e, he, hid'⟩ := Option.bind_eq_some_iff.1 hlink.symm
          obtain ⟨s, hs, hsid⟩ := h.link_exists _ scheduleId ⟨_, e, he, hid'⟩
          exact absurd hsid (IdTable.find?_eq_none.1 hfresh s hs)
    refine h.of_upsert rfl hrepo (hrule ▸ hpos) hunlinked ?_ ?_
    · intro _
      obtain ⟨hmem, hid⟩ := IdTable.find?_eq_some.1 hfind
      have := ledger.repo.rules.id_lt rule hmem
      omega
    · intro hrem
      rw [hrule, htime] at hrem
      have := hrem.materialized (h.link_exists _)
      rw [← hlink, hfresh] at this
      cases this

theorem step_skipScheduleOccurrence (h : ledger.Consistent) (stamp : ℤ)
    (command : SkipScheduleOccurrenceCommand) :
    (ledger.step (.skipScheduleOccurrence stamp command)).Consistent := by
  rcases skipScheduleOccurrence_outcome ledger.repo stamp command with
    ⟨-, hsame⟩ | ⟨hpos, -, hnone, hfresh, hrepo⟩
  · exact h.of_same rfl hsame
  · refine h.of_upsert rfl hrepo hpos rfl (fun htype => by cases htype) ?_
    intro hrem
    have hfound := hrem.materialized (h.link_exists _)
    rw [skipException, hnone, Option.bind_none, hfresh] at hfound
    cases hfound

theorem step_generateNextScheduleInstance (h : ledger.Consistent) (now stamp : ℤ)
    (command : GenerateNextScheduleInstanceCommand) :
    (ledger.step (.generateNextScheduleInstance now stamp command)).Consistent := by
  rcases generateNextScheduleInstance_outcome ledger.repo now stamp command with
    ⟨⟨hnone, -⟩, hsame⟩ | ⟨rule, occurrence, createdAt, updatedAt, exc, hfind, hsearch, -, hanswer,
      hschedules, hrules, hlinked⟩
  · refine h.of_same ?_ hsame
    simp only [ServiceCall.created, ServiceCall.generated, hnone, Option.isSome_none,
      Bool.false_eq_true, if_false]
  · obtain ⟨-, hlookup, hopen, hvacant⟩ := searchNextInstance_found hsearch
    have hcreated : ServiceCall.created ledger.repo (.generateNextScheduleInstance now stamp command)
        = some (command.ruleId, occurrence) := by
      simp only [ServiceCall.created, ServiceCall.generated, hanswer, Option.isSome_some, if_true,
        hfind, hsearch]
    generalize hcall : ServiceCall.generateNextScheduleInstance now stamp command = call at *
    have hstep : call.step ledger.repo =
        (ScheduleRuleService.generateNextScheduleInstance ledger.repo now stamp command).2 := by
      rw [← hcall, ServiceCall.step]
    rw [← hstep] at hschedules hrules hlinked
    have hrows : ∀ s ∈ ledger.repo.schedules.rows, s ∈ (call.step ledger.repo).schedules.rows := by
      intro s hs
      rw [hschedules]
      exact IdTable.mem_insert.2 (Or.inl hs)
    have hnewRow : ∃ s ∈ (call.step ledger.repo).schedules.rows,
        s.id = ledger.repo.schedules.nextId ∧ s.ruleId = some command.ruleId ∧
          (exc = none → s.startTime = some occurrence) := by
      rw [hschedules]
      refine ⟨_, IdTable.mem_insert.2 (Or.inr rfl), rfl, rfl, ?_⟩
      rintro rfl
      rfl
    -- other answers are as before, and the only new link is to the new schedule
    have hother : ∀ ruleId time, (ruleId, time) ≠ (command.ruleId, occurrence) →
        findByRuleAndTime (call.step ledger.repo) ruleId time =
          findByRuleAndTime ledger.repo ruleId time := by
      intro ruleId time hne
      cases exc with
      | none => exact findByRuleAndTime_congr hlinked ruleId time
      | some e =>
          obtain ⟨_, hkey, htime⟩ := findByRuleAndTime_eq_some hlookup
          obtain ⟨_, _, _, hafter⟩ := hlinked
          rw [hafter, if_neg]
          rintro ⟨rfl, rfl⟩
          exact hne (by rw [hkey, htime])
    have hown : ∀ e, exc = some e → ∃ id createdAt updatedAt,
        findByRuleAndTime (call.step ledger.repo) command.ruleId occurrence =
          some { e with id, createdAt, updatedAt,
                        scheduleId := some ledger.repo.schedules.nextId } := by
      rintro e rfl
      obtain ⟨_, hkey, htime⟩ := findByRuleAndTime_eq_some hlookup
      obtain ⟨id, created, updated, hafter⟩ := hlinked
      exact ⟨id, created, updated, by rw [hafter, if_pos ⟨hkey.symm, htime.symm⟩]⟩
    have hlinks : ∀ ruleId scheduleId, Linked (call.step ledger.repo) ruleId scheduleId →
        Linked ledger.repo ruleId scheduleId ∨ scheduleId = ledger.repo.schedules.nextId := by
      rintro ruleId scheduleId ⟨time, e, he, hid⟩
      by_cases hkey : (ruleId, time) = (command.ruleId, occurrence)
      · cases hkey
        cases exc with
        | none =>
            rw [findByRuleAndTime_congr hlinked] at he
            exact Or.inl ⟨_, e, he, hid⟩
        | some e' =>
            obtain ⟨_, _, _, hafter⟩ := hown e' rfl
            rw [hafter] at he
            cases he
            exact Or.inr (Option.some_inj.1 hid).symm
      · rw [hother ruleId time hkey] at he
        exact Or.inl ⟨time, e, he, hid⟩
    have hfresh : (command.ruleId, occurrence) ∉ ledger.created := by
      intro hmem
      exact (h.remembered _ _ hmem).not_generated call (by rw [← hcreated, ← hcall]; rfl)
    have hnext : (call.step ledger.repo).rules.nextId = ledger.repo.rules.nextId := by rw [hrules]
    have hlt : command.ruleId < ledger.repo.rules.nextId := by
      obtain ⟨hmem, hid⟩ := IdTable.find?_eq_some.1 hfind
      exact hid ▸ ledger.repo.rules.id_lt rule hmem
    refine h.of_some hcreated hfresh ?_ (by omega) ?_ (by omega) ?_ ?_
    · cases exc with
      | none =>
          obtain ⟨s, hs, hid, hrule, hstart⟩ := hnewRow
          refine Or.inr ⟨⟨s, hs, hrule, hstart rfl, ?_⟩, ?_⟩
          · intro hlink
            obtain ⟨s', hs', hid'⟩ := h.link_exists _ _ (hlink.congr hlinked)
            exact (ledger.repo.schedules.id_lt s' hs').ne (hid'.trans hid)
          · intro e he
            rw [findByRuleAndTime_congr hlinked, hlookup] at he
            cases he
      | some e =>
          obtain ⟨_, _, _, hafter⟩ := hown e rfl
          exact Or.inl ⟨_, hafter, rfl⟩
    · intro ruleId time hmem
      apply (h.remembered ruleId time hmem).of_step
      · intro s hs _ _
        exact ⟨s, hrows s hs, rfl, rfl, rfl⟩
      · apply hother
        rintro heq
        rw [heq] at hmem
        exact hfresh hmem
      · intro s hs hlink
        rcases hlinks ruleId s.id hlink with hlink | hid
        · exact hlink
        · exact absurd hid (ledger.repo.schedules.id_lt s hs).ne
    · intro ruleId scheduleId hlink
      rcases hlinks ruleId scheduleId hlink with hlink | rfl
      · obtain ⟨s, hs, hid⟩ := h.link_exists ruleId scheduleId hlink
        exact ⟨s, hrows s hs, hid⟩
      · obtain ⟨s, hs, hid, -⟩ := hnewRow
        exact ⟨s, hs, hid⟩
    · intro ruleId time e he htype
      by_cases hkey : (ruleId, time) = (command.ruleId, occurrence)
      · cases hkey
        omega
      · rw [hother ruleId time hkey] at he
        have := h.modify_lt ruleId time e he htype
        omega

/-- The calls that keep the rules and move no unlinked instance keep the ledger consistent. -/
theorem step (h : ledger.Consistent) (call : ServiceCall) (hkeeps : call.KeepsRules)
    (hmoves : ¬ MovesUnlinked ledger.repo call) : (ledger.step call).Consistent := by
  cases call with
  | schedule call => exact h.step_schedule call hmoves
  | createScheduleRule now stamp command => exact h.step_createScheduleRule now stamp command
  | updateScheduleRule now stamp command => exact hkeeps.elim
  | cancelScheduleRule stamp command => exact hkeeps.elim
  | updateScheduleOccurrence stamp command => exact h.step_updateScheduleOccurrence stamp command
  | skipScheduleOccurrence stamp command => exact h.step_skipScheduleOccurrence stamp command
  | generateNextScheduleInstance now stamp command =>
      exact h.step_generateNextScheduleInstance now stamp command

end Ledger.Consistent

/-! ## Runs -/

theorem consistent_empty : Ledger.Consistent {} := by
  refine ⟨?_, List.nodup_nil, ?_, ?_, ?_⟩
  · intro ruleId time hmem
    cases hmem
  · intro ruleId time hmem
    cases hmem
  · rintro ruleId scheduleId ⟨time, exc, hexc, -⟩
    cases hexc
  · intro ruleId time exc hexc
    cases hexc

/-- **At most one instance for each occurrence.** While no unlinked instance is moved, no occurrence
of any rule is created twice. -/
theorem created_nodup (calls : List ServiceCall)
    (hcalls : Run.AllSteps Ledger.step
      (fun ledger call => call.KeepsRules ∧ ¬ MovesUnlinked ledger.repo call) {} calls) :
    Run.AllStates Ledger.step (fun ledger => ledger.created.Nodup) {} calls := by
  have hstep : ∀ (ledger : Ledger) (call : ServiceCall), ledger.Consistent →
      call.KeepsRules ∧ ¬ MovesUnlinked ledger.repo call → (ledger.step call).Consistent := by
    intro ledger call h hcall
    exact h.step call hcall.1 hcall.2
  intro done hd
  exact (Run.allStates_of_step hstep consistent_empty hcalls done hd).nodup

/-- A daily rule; the second occurrence is given a note, generated and moved, then the third one is
generated. -/
def movedLinkedCalls : List ServiceCall :=
  [.createScheduleRule 1786924800 1786924800
     { event := "e", startTime := ⟨9, 0, 0⟩, startDate := some ⟨2026, 8, 17⟩ },
   .updateScheduleOccurrence 1786924801
     { ruleId := 1, originalStartTime := 1787014800, notes := some (some "n") },
   .generateNextScheduleInstance 1786928401 1786928401 { ruleId := 1 },
   .schedule (.updateSchedule 1786928402 { scheduleId := 2, startTime := some (some 1787018400) }),
   .generateNextScheduleInstance 1786928403 1786928403 { ruleId := 1 }]

theorem created_nodup_movedLinked :
    Run.AllStates Ledger.step (fun ledger => ledger.created.Nodup) {} movedLinkedCalls := by
  refine created_nodup movedLinkedCalls ⟨⟨trivial, id⟩, ⟨trivial, id⟩, ⟨trivial, id⟩,
    ⟨trivial, ?_⟩, ⟨trivial, id⟩, trivial⟩
  rintro ⟨-, loaded, ruleId, hload, hrule, hlink, -⟩
  have hstored : (Run.run Ledger.step {} (movedLinkedCalls.take 3)).repo.schedules.find? 2 =
      some loaded := hload
  have hlinked : (findByRuleAndTime (Run.run Ledger.step {} (movedLinkedCalls.take 3)).repo 1
      1787014800).bind (·.scheduleId) = some 2 := by decide +kernel
  obtain ⟨exc, hexc, hid⟩ := Option.bind_eq_some_iff.1 hlinked
  have hown : ((Run.run Ledger.step {} (movedLinkedCalls.take 3)).repo.schedules.find? 2).bind
      (·.ruleId) = some 1 := by decide +kernel
  rw [hstored, Option.bind_some, hrule, Option.some_inj] at hown
  subst hown
  have hsame : loaded.id = 2 := (IdTable.find?_eq_some.1 hload).2
  exact hlink (hsame ▸ ⟨1787014800, exc, hexc, hid⟩)

/-- A daily rule whose first instance is moved by an hour; the next generation creates it again. -/
def movedUnlinkedCalls : List ServiceCall :=
  [.createScheduleRule 1786924800 1786924800
     { event := "e", startTime := ⟨9, 0, 0⟩, startDate := some ⟨2026, 8, 17⟩ },
   .schedule (.updateSchedule 1786924801 { scheduleId := 1, startTime := some (some 1786932000) }),
   .generateNextScheduleInstance 1786924802 1786924802 { ruleId := 1 }]

theorem movedUnlinked_created_twice :
    ¬ ∀ calls : List ServiceCall, (∀ call ∈ calls, call.KeepsRules) →
      (Run.run Ledger.step {} calls).created.Nodup := by
  intro h
  have hnodup := h movedUnlinkedCalls (by
    intro call hcall
    simp only [movedUnlinkedCalls, List.mem_cons, List.not_mem_nil, or_false] at hcall
    rcases hcall with rfl | rfl | rfl <;> exact trivial)
  have htwice : (Run.run Ledger.step {} movedUnlinkedCalls).created =
      [(1, 1786928400), (1, 1786928400)] := by decide +kernel
  rw [htwice] at hnodup
  exact absurd hnodup (by decide)

end VoiceLife
