import VoiceLife.Lib.CInt

/-! # Checked machine integers

A computation over `ℤ` that stops as soon as a value leaves its C type: each intermediate result
passes through `int32` or `int64`. Loops that return at their first hit are `List.findSomeM?`, whose
value only depends on the elements up to that hit.
-/

namespace CInt

/-- The value of an `int`, if it is in range. -/
def int32 (x : ℤ) : Option ℤ :=
  if -2147483648 ≤ x ∧ x ≤ intMax then some x else none

/-- The value of an `int64_t`, if it is in range. -/
def int64 (x : ℤ) : Option ℤ :=
  if -9223372036854775808 ≤ x ∧ x ≤ 9223372036854775807 then some x else none

theorem int32_eq {x : ℤ} (h : -2147483648 ≤ x ∧ x ≤ 2147483647) : int32 x = some x :=
  if_pos h

theorem int64_eq {x : ℤ} (h : -9223372036854775808 ≤ x ∧ x ≤ 9223372036854775807) : int64 x = some x :=
  if_pos h

theorem some_bind {α β : Type} (a : α) (f : α → Option β) : (some a >>= f) = f a :=
  rfl

/-- A value of its type is passed on. -/
theorem int32_bind {α : Type} {x : ℤ} {f : ℤ → Option α} {result : Option α}
    (h : -2147483648 ≤ x ∧ x ≤ 2147483647) (hrest : f x = result) : (int32 x >>= f) = result := by
  rw [int32_eq h]
  exact hrest

theorem int64_bind {α : Type} {x : ℤ} {f : ℤ → Option α} {result : Option α}
    (h : -9223372036854775808 ≤ x ∧ x ≤ 9223372036854775807) (hrest : f x = result) :
    (int64 x >>= f) = result := by
  rw [int64_eq h]
  exact hrest

theorem int32_eq_none {x : ℤ} (h : intMax < x) : int32 x = none :=
  if_neg (by omega)

section Search

variable {β : Type*} {f : ℕ → Option β} {g : ℕ → Option (Option β)}

theorem findSomeM?_range'_eq (s n : ℕ)
    (h : ∀ i, s ≤ i → i < s + n → (∀ j, s ≤ j → j < i → f j = none) → g i = some (f i)) :
    (List.range' s n).findSomeM? g = some ((List.range' s n).findSome? f) := by
  induction n generalizing s with
  | zero => rfl
  | succ n ih =>
      have hs : g s = some (f s) := h s le_rfl (by omega) fun j h1 h2 => absurd h1 (by omega)
      rw [List.range'_succ, List.findSomeM?_cons, List.findSome?_cons, hs]
      cases hf : f s with
      | some b => rfl
      | none =>
          apply ih
          intro i h1 h2 hnone
          apply h i (by omega) (by omega)
          intro j h3 h4
          rcases h3.lt_or_eq with h3 | rfl
          · exact hnone j (by omega) h4
          · exact hf

theorem findSomeM?_range_congr {n : ℕ} {g' : ℕ → Option (Option β)} (h : ∀ i < n, g i = g' i) :
    (List.range n).findSomeM? g = (List.range n).findSomeM? g' := by
  have hlist : ∀ l : List ℕ, (∀ i ∈ l, g i = g' i) → l.findSomeM? g = l.findSomeM? g' := by
    intro l
    induction l with
    | nil => exact fun _ => rfl
    | cons i l ih =>
        intro hl
        rw [List.findSomeM?_cons, List.findSomeM?_cons, hl i List.mem_cons_self,
          ih fun j hj => hl j (List.mem_cons_of_mem i hj)]
  exact hlist _ fun i hi => h i (List.mem_range.1 hi)

/-- If the checked step agrees with the plain one up to the first hit, the searches agree. -/
theorem findSomeM?_range_eq {n : ℕ}
    (h : ∀ i < n, (∀ j < i, f j = none) → g i = some (f i)) :
    (List.range n).findSomeM? g = some ((List.range n).findSome? f) := by
  rw [List.range_eq_range']
  apply findSomeM?_range'_eq
  intro i _ hi hnone
  exact h i (by omega) fun j hj => hnone j (Nat.zero_le j) hj

theorem findSomeM?_range'_eq_none (s n : ℕ) {i : ℕ} (h1 : s ≤ i) (h2 : i < s + n)
    (hbefore : ∀ j, s ≤ j → j < i → g j = some none) (hi : g i = none) :
    (List.range' s n).findSomeM? g = none := by
  induction n generalizing s with
  | zero => omega
  | succ n ih =>
      rw [List.range'_succ, List.findSomeM?_cons]
      rcases h1.lt_or_eq with h1 | rfl
      · rw [hbefore s le_rfl h1]
        exact ih (s + 1) (by omega) (by omega) fun j h3 h4 => hbefore j (by omega) h4
      · rw [hi]
        rfl

/-- A step that overflows before any hit stops the search. -/
theorem findSomeM?_range_eq_none {n i : ℕ} (h : i < n) (hbefore : ∀ j < i, g j = some none)
    (hi : g i = none) : (List.range n).findSomeM? g = none := by
  rw [List.range_eq_range']
  exact findSomeM?_range'_eq_none 0 n (Nat.zero_le i) (by omega) (fun j _ hj => hbefore j hj) hi

end Search

end CInt
