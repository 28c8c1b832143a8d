import Mathlib

/-! # Step functions with an output

A transducer answers every input and moves to a new state. `outputs` lists the answers to a list of
inputs and `final` is the state after them.
-/

namespace Transducer

variable {σ α β : Type*} (step : σ → α → β × σ)

/-- The state after a list of inputs. -/
def final (s : σ) (inputs : List α) : σ :=
  inputs.foldl (fun s input => (step s input).2) s

/-- The answers to a list of inputs. -/
def outputs : σ → List α → List β
  | _, [] => []
  | s, input :: inputs => (step s input).1 :: outputs (step s input).2 inputs

variable {step}

@[simp] theorem final_nil (s : σ) : final step s [] = s := rfl

@[simp] theorem final_cons (s : σ) (input : α) (inputs : List α) :
    final step s (input :: inputs) = final step (step s input).2 inputs := rfl

@[simp] theorem outputs_nil (s : σ) : outputs step s [] = [] := rfl

@[simp] theorem outputs_cons (s : σ) (input : α) (inputs : List α) :
    outputs step s (input :: inputs) = (step s input).1 :: outputs step (step s input).2 inputs := rfl

theorem final_append (s : σ) (inputs inputs' : List α) :
    final step s (inputs ++ inputs') = final step (final step s inputs) inputs' :=
  List.foldl_append

theorem outputs_append (s : σ) (inputs inputs' : List α) :
    outputs step s (inputs ++ inputs') = outputs step s inputs ++ outputs step (final step s inputs) inputs' := by
  induction inputs generalizing s with
  | nil => rfl
  | cons input inputs ih => simp [ih]

@[simp] theorem length_outputs (s : σ) (inputs : List α) : (outputs step s inputs).length = inputs.length := by
  induction inputs generalizing s with
  | nil => rfl
  | cons input inputs ih => simp [ih]

/-- Inputs that do not lead out of a state and whose answers look the same. -/
theorem map_outputs_of_fixed {γ : Type*} {s : σ} {f : β → γ} {answer : γ} {inputs : List α}
    (h : ∀ input ∈ inputs, f (step s input).1 = answer ∧ (step s input).2 = s) :
    (outputs step s inputs).map f = List.replicate inputs.length answer := by
  induction inputs with
  | nil => rfl
  | cons input inputs ih =>
      obtain ⟨hanswer, hstate⟩ := h input List.mem_cons_self
      rw [outputs_cons, List.map_cons, hanswer, hstate, List.length_cons, List.replicate_succ]
      exact congrArg _ (ih fun other hmem => h other (List.mem_cons_of_mem _ hmem))

/-- Inputs that do not lead out of a state. -/
theorem final_of_fixed {s : σ} {inputs : List α} (h : ∀ input ∈ inputs, (step s input).2 = s) :
    final step s inputs = s := by
  induction inputs with
  | nil => rfl
  | cons input inputs ih =>
      rw [final_cons, h input List.mem_cons_self]
      exact ih fun other hmem => h other (List.mem_cons_of_mem _ hmem)

/-- A step function that simulates another one, up to the form of the answers. -/
theorem outputs_of_simulation {τ γ : Type*} {step' : τ → α → γ × τ} {f : γ → β} (rel : σ → τ → Prop)
    (hstep : ∀ s t input, rel s t → (step s input).1 = f (step' t input).1 ∧
      rel (step s input).2 (step' t input).2) {s : σ} {t : τ} (inputs : List α) (h : rel s t) :
    outputs step s inputs = (outputs step' t inputs).map f := by
  induction inputs generalizing s t with
  | nil => rfl
  | cons input inputs ih =>
      obtain ⟨hanswer, hnext⟩ := hstep s t input h
      rw [outputs_cons, outputs_cons, List.map_cons, hanswer, ih hnext]

end Transducer
