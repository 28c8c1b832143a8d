import Mathlib

/-! # Runs of a step function

A run applies a list of operations in order. The rules turn what one step preserves into what holds
in every state of a run, and a condition on single steps into a condition on the whole run.
-/

namespace Run

variable {σ α : Type*} (step : σ → α → σ)

/-- The state after a list of operations. -/
def run (s : σ) (ops : List α) : σ :=
  ops.foldl step s

/-- Every operation satisfies `ok` in the state it is applied to. -/
def AllSteps (ok : σ → α → Prop) : σ → List α → Prop
  | _, [] => True
  | s, op :: ops => ok s op ∧ AllSteps ok (step s op) ops

/-- Every state of the run satisfies `good`, the first and the last one included. -/
def AllStates (good : σ → Prop) (s : σ) (ops : List α) : Prop :=
  ∀ done, done <+: ops → good (run step s done)

variable {step}

@[simp] theorem run_nil (s : σ) : run step s [] = s := rfl

@[simp] theorem run_cons (s : σ) (op : α) (ops : List α) :
    run step s (op :: ops) = run step (step s op) ops := rfl

theorem run_append (s : σ) (ops ops' : List α) :
    run step s (ops ++ ops') = run step (run step s ops) ops' :=
  List.foldl_append

instance decidableAllSteps (ok : σ → α → Prop) [∀ s op, Decidable (ok s op)] :
    ∀ s ops, Decidable (AllSteps step ok s ops)
  | _, [] => isTrue trivial
  | s, op :: ops =>
      have := decidableAllSteps ok (step s op) ops
      inferInstanceAs (Decidable (_ ∧ _))

variable {ops : List α}

theorem AllSteps.imp {ok ok' : σ → α → Prop} (himp : ∀ s op, ok s op → ok' s op) {s : σ}
    (h : AllSteps step ok s ops) : AllSteps step ok' s ops := by
  induction ops generalizing s with
  | nil => trivial
  | cons op ops ih => exact ⟨himp s op h.1, ih h.2⟩

theorem AllSteps.and {ok ok' : σ → α → Prop} {s : σ} (h : AllSteps step ok s ops)
    (h' : AllSteps step ok' s ops) : AllSteps step (fun s op => ok s op ∧ ok' s op) s ops := by
  induction ops generalizing s with
  | nil => trivial
  | cons op ops ih => exact ⟨⟨h.1, h'.1⟩, ih h.2 h'.2⟩

@[simp] theorem allSteps_nil {ok : σ → α → Prop} {s : σ} : AllSteps step ok s [] := trivial

theorem allStates_cons {good : σ → Prop} {s : σ} {op : α} :
    AllStates step good s (op :: ops) ↔ good s ∧ AllStates step good (step s op) ops := by
  constructor
  · intro h
    refine ⟨h [] (List.nil_prefix), fun done hd => ?_⟩
    exact h (op :: done) (List.cons_prefix_cons.2 ⟨rfl, hd⟩)
  · rintro ⟨hs, h⟩ done hd
    cases done with
    | nil => exact hs
    | cons op' done =>
        obtain ⟨rfl, hd'⟩ := List.cons_prefix_cons.1 hd
        exact h done hd'

theorem AllStates.last {good : σ → Prop} {s : σ} (h : AllStates step good s ops) :
    good (run step s ops) :=
  h ops List.prefix_rfl

/-- An invariant kept by every allowed step holds in every state of an allowed run. -/
theorem allStates_of_step {inv : σ → Prop} {ok : σ → α → Prop}
    (hstep : ∀ s op, inv s → ok s op → inv (step s op)) {s : σ} (hs : inv s)
    (hok : AllSteps step ok s ops) : AllStates step inv s ops := by
  induction ops generalizing s with
  | nil =>
      intro done hd
      rw [List.prefix_nil.1 hd]
      exact hs
  | cons op ops ih => exact allStates_cons.2 ⟨hs, ih (hstep s op hs hok.1) hok.2⟩

/-- An invariant kept by every step holds in every state of every run. -/
theorem allStates_of_invariant {inv : σ → Prop} (hstep : ∀ s op, inv s → inv (step s op)) {s : σ}
    (hs : inv s) : AllStates step inv s ops := by
  induction ops generalizing s with
  | nil =>
      intro done hd
      rw [List.prefix_nil.1 hd]
      exact hs
  | cons op ops ih => exact allStates_cons.2 ⟨hs, ih (hstep s op hs)⟩

/-- What an invariant implies for one allowed step holds of every step of an allowed run. -/
theorem AllSteps.of_invariant {inv : σ → Prop} {ok good : σ → α → Prop}
    (hstep : ∀ s op, inv s → ok s op → inv (step s op) ∧ good s op) {s : σ}
    (hs : inv s) (hok : AllSteps step ok s ops) : AllSteps step good s ops := by
  induction ops generalizing s with
  | nil => trivial
  | cons op ops ih =>
      obtain ⟨hnext, hgood⟩ := hstep s op hs hok.1
      exact ⟨hgood, ih hnext hok.2⟩

/-- If a step keeps an invariant exactly when it meets a condition, then the invariant holds
throughout a run exactly when every step meets the condition. -/
theorem allStates_iff_allSteps {inv : σ → Prop} {ok : σ → α → Prop}
    (hstep : ∀ s op, inv s → (inv (step s op) ↔ ok s op)) {s : σ} (hs : inv s) :
    AllStates step inv s ops ↔ AllSteps step ok s ops := by
  refine ⟨fun h => ?_, allStates_of_step (fun s op hi => (hstep s op hi).2) hs⟩
  induction ops generalizing s with
  | nil => trivial
  | cons op ops ih =>
      rw [allStates_cons] at h
      have hnext : inv (step s op) := h.2 [] List.nil_prefix
      exact ⟨(hstep s op hs).1 hnext, ih hnext h.2⟩

theorem allSteps_append {ok : σ → α → Prop} {s : σ} {ops ops' : List α} :
    AllSteps step ok s (ops ++ ops') ↔
      AllSteps step ok s ops ∧ AllSteps step ok (run step s ops) ops' := by
  induction ops generalizing s with
  | nil => simp
  | cons op ops ih => simp [AllSteps, ih, and_assoc]

theorem allSteps_iff_forall_prefix {ok : σ → α → Prop} {s : σ} :
    AllSteps step ok s ops ↔ ∀ done op, done ++ [op] <+: ops → ok (run step s done) op := by
  constructor
  · rintro h done op ⟨rest, rfl⟩
    rw [List.append_assoc, allSteps_append] at h
    exact h.2.1
  · intro h
    induction ops generalizing s with
    | nil => trivial
    | cons op ops ih =>
        refine ⟨h [] op ⟨ops, rfl⟩, ih fun done op' hpre => ?_⟩
        exact h (op :: done) op' (List.cons_prefix_cons.2 ⟨rfl, hpre⟩)

/-- A preorder that allowed steps follow relates earlier to later states of an allowed run. -/
theorem rel_of_allSteps {ok : σ → α → Prop} (rel : σ → σ → Prop) (hrefl : ∀ s, rel s s)
    (htrans : ∀ s t u, rel s t → rel t u → rel s u) (hstep : ∀ s op, ok s op → rel s (step s op))
    {s : σ} (hok : AllSteps step ok s ops) (done more : List α)
    (hpre : done ++ more <+: ops) : rel (run step s done) (run step s (done ++ more)) := by
  have hrun : ∀ {t : σ} {more : List α}, AllSteps step ok t more → rel t (run step t more) := by
    intro t more h
    induction more generalizing t with
    | nil => exact hrefl t
    | cons op more ih => exact htrans _ _ _ (hstep t op h.1) (ih h.2)
  obtain ⟨rest, rfl⟩ := hpre
  rw [run_append]
  exact hrun (allSteps_append.1 (allSteps_append.1 hok).1).2

/-! ## Since -/

variable (step) in
/-- An operation began something, and no later operation has broken it. -/
def Since (begins breaks : σ → α → Prop) (s : σ) (ops : List α) : Prop :=
  ∃ before op after, ops = before ++ op :: after ∧ begins (run step s before) op ∧
    ∀ more next, more ++ [next] <+: after → ¬ breaks (run step s (before ++ op :: more)) next

section Since

variable {begins breaks : σ → α → Prop} {s : σ}

theorem not_since_nil : ¬ Since step begins breaks s [] := by
  rintro ⟨before, op, after, hall, -⟩
  simp at hall

/-- Only the last operation and what held before it matter. -/
theorem since_concat {ops : List α} {op : α} :
    Since step begins breaks s (ops ++ [op]) ↔
      begins (run step s ops) op ∨ Since step begins breaks s ops ∧ ¬ breaks (run step s ops) op := by
  constructor
  · rintro ⟨before, first, after, hall, hbegins, hafter⟩
    rcases List.eq_nil_or_concat' after with rfl | ⟨init, last, rfl⟩
    · obtain ⟨rfl, hlast⟩ := List.append_inj' hall rfl
      cases hlast
      exact Or.inl hbegins
    · rw [← List.cons_append, ← List.append_assoc] at hall
      obtain ⟨rfl, hlast⟩ := List.append_inj' hall rfl
      cases hlast
      refine Or.inr ⟨⟨before, first, init, rfl, hbegins, fun more next hmore => ?_⟩, ?_⟩
      · exact hafter more next (hmore.trans (List.prefix_append init [op]))
      · exact hafter init op List.prefix_rfl
  · rintro (hbegins | ⟨⟨before, first, after, rfl, hbegins, hafter⟩, hkeeps⟩)
    · refine ⟨ops, op, [], rfl, hbegins, fun more next hmore => ?_⟩
      simp at hmore
    · refine ⟨before, first, after ++ [op], by simp, hbegins, fun more next hmore => ?_⟩
      rcases List.prefix_concat_iff.1 hmore with hall | hin
      · obtain ⟨rfl, hlast⟩ := List.append_inj' hall rfl
        cases hlast
        exact hkeeps
      · exact hafter more next hin

/-- A flag that only a beginning raises, and that a break does not outlive, tells of a beginning that
nothing has broken since. -/
theorem since_of_allSteps {ok : σ → α → Prop} {flag : σ → Prop}
    (hstep : ∀ s op, ok s op → flag (step s op) → begins s op ∨ flag s ∧ ¬ breaks s op)
    (hs : ¬ flag s) {ops : List α} (hok : AllSteps step ok s ops) (hflag : flag (run step s ops)) :
    Since step begins breaks s ops := by
  induction ops using List.reverseRecOn with
  | nil => exact absurd hflag hs
  | append_singleton ops op ih =>
      obtain ⟨hbefore, hop, -⟩ := allSteps_append.1 hok
      rw [run_append] at hflag
      refine since_concat.2 ((hstep _ op hop hflag).imp_right fun h => ⟨?_, h.2⟩)
      exact ih hbefore h.1

/-- A flag that a beginning raises, and that only a break lowers, is up while nothing has broken what
began. -/
theorem flag_of_since (inv : σ → Prop) {flag : σ → Prop} (hinv : ∀ s op, inv s → inv (step s op))
    (hbegins : ∀ s op, inv s → begins s op → flag (step s op))
    (hkeeps : ∀ s op, inv s → flag s → ¬ breaks s op → flag (step s op)) (hs : inv s) {ops : List α}
    (hsince : Since step begins breaks s ops) : flag (run step s ops) := by
  induction ops using List.reverseRecOn with
  | nil => exact absurd hsince not_since_nil
  | append_singleton ops op ih =>
      have hnow : inv (run step s ops) := (allStates_of_invariant hinv hs).last
      rw [run_append]
      rcases since_concat.1 hsince with hbegin | ⟨hbefore, hkept⟩
      · exact hbegins _ op hnow hbegin
      · exact hkeeps _ op hnow (ih hbefore) hkept

end Since

/-! ## Traces of a step relation -/

/-- A sequence of labelled steps, with the last step on the right. -/
inductive Trace {ε : Type*} (next : σ → ε → σ → Prop) (s : σ) : List ε → σ → Prop where
  | nil : Trace next s [] s
  | snoc {events : List ε} {event : ε} {t u : σ} :
      Trace next s events t → next t event u → Trace next s (events ++ [event]) u

theorem Trace.eq_of_nil {ε : Type*} {next : σ → ε → σ → Prop} {s t : σ}
    (h : Trace next s [] t) : t = s := by
  generalize hnil : ([] : List ε) = events at h
  cases h with
  | nil => rfl
  | snoc _ _ => simp at hnil

theorem Trace.append {ε : Type*} {next : σ → ε → σ → Prop} {s t u : σ} {events events' : List ε}
    (h : Trace next s events t) (h' : Trace next t events' u) :
    Trace next s (events ++ events') u := by
  induction h' with
  | nil => rwa [List.append_nil]
  | snoc _ hstep ih =>
      rw [← List.append_assoc]
      exact ih.snoc hstep

/-- A trace goes through a state at every cut of its labels. -/
theorem Trace.split {ε : Type*} {next : σ → ε → σ → Prop} {s u : σ} {events events' : List ε}
    (h : Trace next s (events ++ events') u) :
    ∃ t, Trace next s events t ∧ Trace next t events' u := by
  generalize hall : events ++ events' = all at h
  induction h generalizing events' with
  | nil =>
      obtain ⟨rfl, rfl⟩ := List.append_eq_nil_iff.1 hall
      exact ⟨s, .nil, .nil⟩
  | @snoc before event t u htrace hstep ih =>
      rcases List.eq_nil_or_concat' events' with rfl | ⟨init, last, rfl⟩
      · rw [List.append_nil] at hall
        subst hall
        exact ⟨u, htrace.snoc hstep, .nil⟩
      · rw [← List.append_assoc] at hall
        obtain ⟨rfl, hlast⟩ := List.append_inj' hall rfl
        cases hlast
        obtain ⟨m, hm, hrest⟩ := ih rfl
        exact ⟨m, hm, hrest.snoc hstep⟩

/-- The step of a trace at one of its labels. -/
theorem Trace.split_cons {ε : Type*} {next : σ → ε → σ → Prop} {s u : σ} {event : ε}
    {events events' : List ε} (h : Trace next s (events ++ event :: events') u) :
    ∃ t t', Trace next s events t ∧ next t event t' ∧ Trace next t' events' u := by
  obtain ⟨t, ht, hrest⟩ := h.split
  have hcons : Trace next t ([event] ++ events') u := hrest
  obtain ⟨t', hone, hrest⟩ := hcons.split
  generalize hsingle : [event] = single at hone
  cases hone with
  | nil => cases hsingle
  | @snoc before last m _ hbefore hstep =>
      have hnil : [] ++ [event] = before ++ [last] := hsingle
      obtain ⟨rfl, hlast⟩ := List.append_inj' hnil rfl
      cases hlast
      rw [hbefore.eq_of_nil] at hstep
      exact ⟨t, t', ht, hstep, hrest⟩

end Run
