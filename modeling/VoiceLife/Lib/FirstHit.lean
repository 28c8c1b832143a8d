import Mathlib

/-! # Least elements found by a search

`IsFirst s o` says that `o` is the least element of `s`, or `none` when `s` is empty. The search
rules compute the first element of a union of ordered blocks from the first elements of the blocks.
-/

namespace FirstHit

variable {α β : Type*}

/-- `o` is the least element of `s`, or `none` if `s` has no element. -/
def IsFirst [Preorder α] (s : Set α) : Option α → Prop
  | some a => IsLeast s a
  | none => s = ∅

@[simp] theorem isFirst_some [Preorder α] {s : Set α} {a : α} : IsFirst s (some a) ↔ IsLeast s a :=
  Iff.rfl

@[simp] theorem isFirst_none [Preorder α] {s : Set α} : IsFirst s none ↔ s = ∅ :=
  Iff.rfl

theorem IsFirst.eq_some_iff [PartialOrder α] {s : Set α} {o : Option α} (h : IsFirst s o) (a : α) :
    o = some a ↔ IsLeast s a := by
  cases o with
  | none =>
      rw [isFirst_none] at h
      simp [h, IsLeast]
  | some b =>
      rw [isFirst_some] at h
      rw [Option.some_inj]
      exact ⟨fun hab => hab ▸ h, fun ha => h.unique ha⟩

theorem IsFirst.eq_none_iff [Preorder α] {s : Set α} {o : Option α} (h : IsFirst s o) :
    o = none ↔ s = ∅ := by
  cases o with
  | none => simpa using h
  | some b =>
      rw [isFirst_some] at h
      simp only [reduceCtorEq, false_iff]
      intro hs
      rw [hs] at h
      exact h.1

theorem IsFirst.unique [PartialOrder α] {s : Set α} {o o' : Option α} (h : IsFirst s o)
    (h' : IsFirst s o') : o = o' := by
  cases o with
  | none => exact (h'.eq_none_iff.2 h).symm
  | some a => exact ((h'.eq_some_iff a).2 h).symm

/-- At most one candidate: keep it if it passes the test. -/
theorem isFirst_ite [Preorder α] (p : Prop) [Decidable p] (a : α) :
    IsFirst {x | x = a ∧ p} (if p then some a else none) := by
  split_ifs with hp
  · exact ⟨⟨rfl, hp⟩, fun x hx => hx.1.ge⟩
  · simp [hp]

/-- Search the blocks in order: block `i` need only be understood if the earlier ones are empty. -/
theorem isFirst_findSome?_range [Preorder α] {S : ℕ → Set α} {f : ℕ → Option α} (n : ℕ)
    (hord : ∀ i j, i < j → ∀ a ∈ S i, ∀ b ∈ S j, a ≤ b)
    (hf : ∀ i < n, (∀ j < i, S j = ∅) → IsFirst (S i) (f i)) :
    IsFirst {a | ∃ i < n, a ∈ S i} ((List.range n).findSome? f) := by
  induction n with
  | zero => simp
  | succ n ih =>
      have ih' := ih fun i hi => hf i (by omega)
      rw [List.range_succ, List.findSome?_append]
      cases hfound : (List.range n).findSome? f with
      | some a =>
          rw [hfound] at ih'
          obtain ⟨⟨i, hi, ha⟩, hmin⟩ := ih'
          refine ⟨⟨i, by omega, ha⟩, ?_⟩
          rintro b ⟨j, hj, hb⟩
          rcases Nat.lt_succ_iff_lt_or_eq.1 hj with hj | rfl
          · exact hmin ⟨j, hj, hb⟩
          · exact hord i j hi a ha b hb
      | none =>
          rw [hfound, isFirst_none] at ih'
          have hempty : ∀ j < n, S j = ∅ := fun j hj =>
            Set.eq_empty_of_forall_notMem fun b hb => by
              have : b ∈ {a | ∃ i < n, a ∈ S i} := ⟨j, hj, hb⟩
              rw [ih'] at this
              exact this
          have hset : {a | ∃ i < n + 1, a ∈ S i} = S n := by
            ext b
            constructor
            · rintro ⟨j, hj, hb⟩
              rcases Nat.lt_succ_iff_lt_or_eq.1 hj with hj | rfl
              · rw [hempty j hj] at hb
                exact hb.elim
              · exact hb
            · exact fun hb => ⟨n, by omega, hb⟩
          rw [hset, Option.none_or, List.findSome?_singleton]
          exact hf n (by omega) hempty

/-- A window of an infinite sequence of blocks decides the whole sequence if nothing lies before the
window and an empty window means that nothing follows it. -/
theorem isFirst_of_window [Preorder α] {S : ℕ → Set α} {o : Option α} (k n : ℕ)
    (hord : ∀ i j, i < j → ∀ a ∈ S i, ∀ b ∈ S j, a ≤ b)
    (hbelow : ∀ i < k, S i = ∅)
    (habove : (∃ i, (S i).Nonempty) → ∃ i < n, (S (k + i)).Nonempty)
    (h : IsFirst {a | ∃ i < n, a ∈ S (k + i)} o) : IsFirst {a | ∃ i, a ∈ S i} o := by
  cases o with
  | none =>
      rw [isFirst_none] at h ⊢
      refine Set.eq_empty_of_forall_notMem ?_
      rintro a ⟨i, ha⟩
      obtain ⟨j, hj, b, hb⟩ := habove ⟨i, a, ha⟩
      have : b ∈ {a | ∃ i < n, a ∈ S (k + i)} := ⟨j, hj, hb⟩
      rw [h] at this
      exact this
  | some a =>
      obtain ⟨⟨i, hi, ha⟩, hmin⟩ := h
      refine ⟨⟨k + i, ha⟩, ?_⟩
      rintro b ⟨j, hb⟩
      by_cases hjk : j < k
      · rw [hbelow j hjk] at hb
        exact hb.elim
      · by_cases hjn : j < k + n
        · exact hmin ⟨j - k, by omega, by rwa [Nat.add_sub_cancel' (by omega)]⟩
        · exact hord (k + i) j (by omega) a ha b hb

end FirstHit
