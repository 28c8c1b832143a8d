import Mathlib

/-! # Programs of atomic sections and calls

A program changes a shared state in atomic sections and calls its environment in between. It can be run
alone, with an answer for every call, or next to others that take a turn before every section and before
and during every call. `Safe` is the proof outline of a program against what the others may do.
-/

universe u

/-- A program over a state, with calls, their answers and a result. -/
inductive Process (σ ι : Type u) (α : ι → Type u) (ρ : Type u) : Type u where
  | done (result : ρ)
  | locked (update : σ → σ) (next : σ → Process σ ι α ρ)
  | call (port : ι) (next : α port → Process σ ι α ρ)

namespace Process

variable {σ ι : Type u} {α : ι → Type u} {ρ τ : Type u}

/-- The program that goes on with the result. -/
def bind : Process σ ι α ρ → (ρ → Process σ ι α τ) → Process σ ι α τ
  | .done result, next => next result
  | .locked update rest, next => .locked update fun state => (rest state).bind next
  | .call port rest, next => .call port fun answer => (rest answer).bind next

instance : Monad (Process σ ι α) where
  pure := .done
  bind := Process.bind

/-- One atomic section. -/
def atomically (body : σ → ρ × σ) : Process σ ι α ρ :=
  .locked (fun state => (body state).2) fun state => .done (body state).1

/-- One call. -/
def invoke (port : ι) : Process σ ι α (α port) :=
  .call port .done

/-! ## Alone -/

/-- The state, the calls and the result of a program that runs alone. -/
def run (answer : ∀ port, α port) : Process σ ι α ρ → σ → σ × List ι × ρ
  | .done result, state => (state, [], result)
  | .locked update next, state => (next state).run answer (update state)
  | .call port next, state =>
      let (after, calls, result) := (next (answer port)).run answer state
      (after, port :: calls, result)

/-- The program, run alone after some calls, ends as it should. -/
def Ends (answer : ∀ port, α port) (post : σ → List ι → ρ → Prop) :
    Process σ ι α ρ → σ → List ι → Prop
  | .done result, state, calls => post state calls result
  | .locked update next, state, calls => (next state).Ends answer post (update state) calls
  | .call port next, state, calls => (next (answer port)).Ends answer post state (calls ++ [port])

section Ends

variable {answer : ∀ port, α port} {state : σ} {calls : List ι}

@[simp] theorem ends_pure {post : σ → List ι → ρ → Prop} (result : ρ) :
    (pure result : Process σ ι α ρ).Ends answer post state calls ↔ post state calls result :=
  Iff.rfl

/-- A program followed by another. -/
@[simp] theorem ends_bind {post : σ → List ι → τ → Prop} (program : Process σ ι α ρ)
    (next : ρ → Process σ ι α τ) :
    (program >>= next).Ends answer post state calls ↔
      program.Ends answer (fun state calls result => (next result).Ends answer post state calls)
        state calls := by
  induction program generalizing state calls with
  | done result => rfl
  | locked update rest ih => exact ih state
  | call port rest ih => exact ih (answer port)

/-- `Ends` tells the outcome of `run`. -/
theorem ends_iff_run {post : σ → List ι → ρ → Prop} (program : Process σ ι α ρ) :
    program.Ends answer post state calls ↔
      post (program.run answer state).1 (calls ++ (program.run answer state).2.1)
        (program.run answer state).2.2 := by
  induction program generalizing state calls with
  | done result =>
      rw [run, List.append_nil]
      rfl
  | locked update next ih => exact ih state
  | call port next ih =>
      refine (ih (answer port)).trans ?_
      rw [List.append_assoc]
      rfl

/-- What a program ends with alone holds of its run. -/
theorem Ends.run {post : σ → List ι → ρ → Prop} {program : Process σ ι α ρ}
    (h : program.Ends answer post state []) :
    post (program.run answer state).1 (program.run answer state).2.1 (program.run answer state).2.2 :=
  (ends_iff_run program).1 h

theorem Ends.imp {post post' : σ → List ι → ρ → Prop} {program : Process σ ι α ρ}
    (h : program.Ends answer post state calls)
    (himp : ∀ state calls result, post state calls result → post' state calls result) :
    program.Ends answer post' state calls := by
  rw [ends_iff_run] at h ⊢
  exact himp _ _ _ h

/-- A program only adds calls. -/
theorem Ends.grows {post : σ → List ι → ρ → Prop} {program : Process σ ι α ρ}
    (h : program.Ends answer post state calls) :
    program.Ends answer (fun state calls' result => calls ⊆ calls' ∧ post state calls' result) state
      calls := by
  rw [ends_iff_run] at h ⊢
  exact ⟨List.subset_append_left _ _, h⟩

end Ends

/-! ## Calls -/

/-- Every call that the program can make satisfies `good`. -/
def Issues (good : ι → Prop) : Process σ ι α ρ → Prop
  | .done _ => True
  | .locked _ next => ∀ state, (next state).Issues good
  | .call port next => good port ∧ ∀ answer, (next answer).Issues good

section Issues

variable {good : ι → Prop}

theorem issues_pure (result : ρ) : (pure result : Process σ ι α ρ).Issues good := trivial

theorem issues_atomically (body : σ → ρ × σ) :
    (atomically body : Process σ ι α ρ).Issues good := fun _ => trivial

theorem issues_invoke {port : ι} (h : good port) :
    (invoke port : Process σ ι α (α port)).Issues good := ⟨h, fun _ => trivial⟩

theorem Issues.bind {program : Process σ ι α ρ} {next : ρ → Process σ ι α τ}
    (h : program.Issues good) (hnext : ∀ result, (next result).Issues good) :
    (program >>= next).Issues good := by
  induction program with
  | done result => exact hnext result
  | locked update rest ih => exact fun state => ih state (h state)
  | call port rest ih => exact ⟨h.1, fun answer => ih answer (h.2 answer)⟩

/-- The calls of a program that runs alone are among those it can make. -/
theorem Issues.run {program : Process σ ι α ρ} (h : program.Issues good)
    (answer : ∀ port, α port) (state : σ) : ∀ port ∈ (program.run answer state).2.1, good port := by
  induction program generalizing state with
  | done result => exact fun port hport => absurd hport List.not_mem_nil
  | locked update next ih => exact ih state (h state) (update state)
  | call port next ih =>
      intro issued hissued
      rcases List.mem_cons.1 hissued with rfl | hrest
      · exact h.1
      · exact ih (answer port) (h.2 _) state issued hrest

end Issues

/-! ## Next to others -/

/-- A program that runs, or waits for an answer. -/
inductive Position (σ ι : Type u) (α : ι → Type u) (ρ : Type u) : Type u where
  | running (program : Process σ ι α ρ)
  | waiting (port : ι) (next : α port → Process σ ι α ρ)

/-- How the sections and calls of a program change a world around the state. -/
structure Setting (σ ι : Type u) (α : ι → Type u) (ω : Type u) where
  view : ω → σ
  enter : (σ → σ) → ω → ω
  issue : ι → ω → ω
  receive : (port : ι) → α port → ω → ω

variable {ω : Type u} (setting : Setting σ ι α ω)

/-- One turn of a program. -/
def Position.turn (answer : ∀ port, α port) : Position σ ι α ρ → ω → Position σ ι α ρ × ω
  | .running (.done result), world => (.running (.done result), world)
  | .running (.locked update next), world =>
      (.running (next (setting.view world)), setting.enter update world)
  | .running (.call port next), world => (.waiting port next, setting.issue port world)
  | .waiting port next, world =>
      (.running (next (answer port)), setting.receive port (answer port) world)

/-- The condition on the sections of a program, at its next turn. -/
def Position.Allowed (ok : (σ → σ) → ω → Prop) : Position σ ι α ρ → ω → Prop
  | .running (.locked update _), world => ok update world
  | _, _ => True

section Others

variable (others : ω → ω → Prop) (inv : ω → Prop) (ok : (σ → σ) → ω → Prop) (post : ω → Prop)

/-- Whatever the others do within the invariant, every turn that is allowed keeps the invariant, and the
program ends as it should. -/
def Safe : Process σ ι α ρ → ω → Prop
  | .done _, world => ∀ world', inv world' → others world world' → post world'
  | .locked update next, world => ∀ world', inv world' → others world world' → ok update world' →
      inv (setting.enter update world') ∧
        Safe (next (setting.view world')) (setting.enter update world')
  | .call port next, world => ∀ world', inv world' → others world world' →
      inv (setting.issue port world') ∧
        ∀ world'', inv world'' → others (setting.issue port world') world'' →
          ∀ answer, inv (setting.receive port answer world'') ∧
            Safe (next answer) (setting.receive port answer world'')

/-- `Safe` for a program that may be waiting. -/
def Position.Safe : Position σ ι α ρ → ω → Prop
  | .running program, world => program.Safe setting others inv ok post world
  | .waiting port next, world => ∀ world', inv world' → others world world' →
      ∀ answer, inv (setting.receive port answer world') ∧
        (next answer).Safe setting others inv ok post (setting.receive port answer world')

/-- Every turn of a program stays within a relation and keeps an invariant, in whatever state. -/
def Respects (guarantee : ω → ω → Prop) : Process σ ι α ρ → Prop
  | .done _ => True
  | .locked update next =>
      (∀ world, inv world →
        guarantee world (setting.enter update world) ∧ inv (setting.enter update world)) ∧
      ∀ state, Respects guarantee (next state)
  | .call port next =>
      (∀ world, inv world →
        guarantee world (setting.issue port world) ∧ inv (setting.issue port world)) ∧
      ∀ answer, (∀ world, inv world → guarantee world (setting.receive port answer world) ∧
        inv (setting.receive port answer world)) ∧ Respects guarantee (next answer)

/-- `Respects` for a program that may be waiting. -/
def Position.Respects (guarantee : ω → ω → Prop) : Position σ ι α ρ → Prop
  | .running program => program.Respects setting inv guarantee
  | .waiting port next => ∀ answer, (∀ world, inv world →
      guarantee world (setting.receive port answer world) ∧ inv (setting.receive port answer world)) ∧
        (next answer).Respects setting inv guarantee

variable {setting others inv ok post}

/-- The others may take their turn at any time. -/
theorem Position.Safe.later (htrans : ∀ a b c, others a b → others b c → others a c)
    {position : Position σ ι α ρ} {world world' : ω}
    (h : position.Safe setting others inv ok post world) (hothers : others world world') :
    position.Safe setting others inv ok post world' := by
  cases position with
  | running program =>
      cases program with
      | done result => exact fun last hinv hlast => h last hinv (htrans _ _ _ hothers hlast)
      | locked update next => exact fun last hinv hlast => h last hinv (htrans _ _ _ hothers hlast)
      | call port next => exact fun last hinv hlast => h last hinv (htrans _ _ _ hothers hlast)
  | waiting port next => exact fun last hinv hlast => h last hinv (htrans _ _ _ hothers hlast)

/-- An allowed turn keeps the invariant and leaves a safe program. -/
theorem Position.Safe.turn (hrefl : ∀ a, others a a) {position : Position σ ι α ρ} {world : ω}
    (h : position.Safe setting others inv ok post world) (hinv : inv world)
    (hallowed : position.Allowed ok world) (answer : ∀ port, α port) :
    inv (position.turn setting answer world).2 ∧
      (position.turn setting answer world).1.Safe setting others inv ok post
        (position.turn setting answer world).2 := by
  cases position with
  | running program =>
      cases program with
      | done result => exact ⟨hinv, h⟩
      | locked update next => exact h world hinv (hrefl world) hallowed
      | call port next => exact h world hinv (hrefl world)
  | waiting port next => exact h world hinv (hrefl world) (answer port)

/-- A turn of a program that respects a relation stays within it. -/
theorem Position.Respects.turn {guarantee : ω → ω → Prop} (hrefl : ∀ a, guarantee a a)
    {position : Position σ ι α ρ} {world : ω} (h : position.Respects setting inv guarantee)
    (hinv : inv world) (answer : ∀ port, α port) :
    guarantee world (position.turn setting answer world).2 ∧
      inv (position.turn setting answer world).2 ∧
      (position.turn setting answer world).1.Respects setting inv guarantee := by
  cases position with
  | running program =>
      cases program with
      | done result => exact ⟨hrefl world, hinv, h⟩
      | locked update next => exact ⟨(h.1 world hinv).1, (h.1 world hinv).2, h.2 _⟩
      | call port next => exact ⟨(h.1 world hinv).1, (h.1 world hinv).2, h.2⟩
  | waiting port next =>
      obtain ⟨hturn, hnext⟩ := h (answer port)
      exact ⟨(hturn world hinv).1, (hturn world hinv).2, hnext⟩

theorem respects_pure {guarantee : ω → ω → Prop} (result : ρ) :
    (pure result : Process σ ι α ρ).Respects setting inv guarantee := trivial

theorem respects_atomically {guarantee : ω → ω → Prop} {body : σ → ρ × σ}
    (h : ∀ world, inv world → guarantee world (setting.enter (fun state => (body state).2) world) ∧
      inv (setting.enter (fun state => (body state).2) world)) :
    (atomically body : Process σ ι α ρ).Respects setting inv guarantee :=
  ⟨h, fun _ => trivial⟩

theorem Respects.bind {guarantee : ω → ω → Prop} {program : Process σ ι α ρ}
    {next : ρ → Process σ ι α τ} (h : program.Respects setting inv guarantee)
    (hnext : ∀ result, (next result).Respects setting inv guarantee) :
    (program >>= next).Respects setting inv guarantee := by
  induction program with
  | done result => exact hnext result
  | locked update rest ih => exact ⟨h.1, fun state => ih state (h.2 state)⟩
  | call port rest ih => exact ⟨h.1, fun answer => ⟨(h.2 answer).1, ih answer (h.2 answer).2⟩⟩

/-- A program whose every turn keeps a fact that the others keep too is safe with that fact. -/
theorem Respects.safe {fact : ω → Prop} (hstable : ∀ a b, fact a → others a b → fact b)
    {program : Process σ ι α ρ}
    (h : program.Respects setting (fun world => inv world ∧ fact world) fun _ _ => True) {world : ω}
    (hfact : fact world) : program.Safe setting others inv ok fact world := by
  induction program generalizing world with
  | done result => exact fun world' _ hothers => hstable _ _ hfact hothers
  | locked update next ih =>
      intro world' hinv hothers _
      obtain ⟨-, hinv', hfact'⟩ := h.1 world' ⟨hinv, hstable _ _ hfact hothers⟩
      exact ⟨hinv', ih _ (h.2 _) hfact'⟩
  | call port next ih =>
      intro world' hinv hothers
      obtain ⟨-, hissued, hfact'⟩ := h.1 world' ⟨hinv, hstable _ _ hfact hothers⟩
      refine ⟨hissued, fun world'' hinv' hothers' answer => ?_⟩
      obtain ⟨-, hreceived, hfact''⟩ :=
        (h.2 answer).1 world'' ⟨hinv', hstable _ _ hfact' hothers'⟩
      exact ⟨hreceived, ih answer (h.2 answer).2 hfact''⟩

theorem Safe.imp {post' : ω → Prop} {program : Process σ ι α ρ} {world : ω}
    (h : program.Safe setting others inv ok post world) (himp : ∀ world, post world → post' world) :
    program.Safe setting others inv ok post' world := by
  induction program generalizing world with
  | done result => exact fun world' hinv hothers => himp _ (h world' hinv hothers)
  | locked update next ih =>
      intro world' hinv hothers hok
      exact ⟨(h world' hinv hothers hok).1, ih _ (h world' hinv hothers hok).2⟩
  | call port next ih =>
      intro world' hinv hothers
      refine ⟨(h world' hinv hothers).1, fun world'' hinv' hothers' answer => ?_⟩
      obtain ⟨hreceived, hnext⟩ := (h world' hinv hothers).2 world'' hinv' hothers' answer
      exact ⟨hreceived, ih answer hnext⟩

end Others

end Process
