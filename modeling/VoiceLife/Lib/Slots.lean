import Mathlib

/-! # One-place slots

A table has one place for each of finitely many kinds. `contents` is what its places hold, and `earliest`
looks through them for the smallest key under a bound.
-/

namespace Slots

variable {ι α : Type*}

/-- What one place holds. -/
def place : Option α → Multiset α
  | none => 0
  | some a => {a}

@[simp] theorem place_none : place (none : Option α) = 0 := rfl

@[simp] theorem place_some (a : α) : place (some a) = {a} := rfl

@[simp] theorem mem_place {a : α} {held : Option α} : a ∈ place held ↔ held = some a := by
  cases held with
  | none => simp
  | some b => simp [eq_comm]

/-- What the places of a table hold. -/
def contents (slots : ι → Option α) (index : List ι) : Multiset α :=
  (index.map fun slot => place (slots slot)).sum

@[simp] theorem contents_nil (slots : ι → Option α) : contents slots [] = 0 := rfl

@[simp] theorem contents_cons (slots : ι → Option α) (slot : ι) (index : List ι) :
    contents slots (slot :: index) = place (slots slot) + contents slots index := by
  simp [contents]

theorem mem_contents {slots : ι → Option α} {index : List ι} {a : α} :
    a ∈ contents slots index ↔ ∃ slot ∈ index, slots slot = some a := by
  induction index with
  | nil => simp
  | cons slot index ih => simp [ih]

section Update

variable [DecidableEq ι]

theorem contents_update_of_notMem (slots : ι → Option α) {slot : ι} {index : List ι} (held : Option α)
    (h : slot ∉ index) : contents (Function.update slots slot held) index = contents slots index := by
  unfold contents
  congr 1
  apply List.map_congr_left
  intro other hother
  rw [Function.update_of_ne (ne_of_mem_of_not_mem hother h)]

/-- Writing a place exchanges what it held for what is written. -/
theorem contents_update (slots : ι → Option α) {slot : ι} {index : List ι} (held : Option α)
    (hnodup : index.Nodup) (hmem : slot ∈ index) :
    contents (Function.update slots slot held) index + place (slots slot)
      = contents slots index + place held := by
  induction index with
  | nil => simp at hmem
  | cons first index ih =>
      obtain ⟨hfirst, hrest⟩ := List.nodup_cons.1 hnodup
      by_cases hslot : slot = first
      · subst hslot
        rw [contents_cons, contents_cons, Function.update_self, contents_update_of_notMem _ _ hfirst]
        ac_rfl
      · have hmem' : slot ∈ index := (List.mem_cons.1 hmem).resolve_left hslot
        rw [contents_cons, contents_cons, Function.update_of_ne (Ne.symm hslot), add_assoc, ih hrest hmem']
        ac_rfl

end Update

/-! ## The smallest key -/

variable (key : α → ℕ) (slots : ι → Option α)

/-- One place, compared with the best one so far. -/
def earlier (best : Option ι × ℕ) (slot : ι) : Option ι × ℕ :=
  match slots slot with
  | some a => if key a < best.2 then (some slot, key a) else best
  | none => best

/-- The first place with the smallest key under the bound. -/
def earliest (bound : ℕ) (index : List ι) : Option ι :=
  (index.foldl (earlier key slots) (none, bound)).1

variable {key slots}

/-- What a search has found after some places. -/
structure Found (key : α → ℕ) (slots : ι → Option α) (bound : ℕ) (seen : List ι)
    (best : Option ι × ℕ) : Prop where
  le_bound : best.2 ≤ bound
  le_key : ∀ slot ∈ seen, ∀ a, slots slot = some a → best.2 ≤ key a
  chosen : ∀ slot, best.1 = some slot → slot ∈ seen ∧ best.2 < bound ∧ ∃ a, slots slot = some a ∧ key a = best.2
  unchosen : best.1 = none → best.2 = bound

theorem Found.earlier {bound : ℕ} {seen : List ι} {best : Option ι × ℕ}
    (h : Found key slots bound seen best) (slot : ι) :
    Found key slots bound (seen ++ [slot]) (earlier key slots best slot) := by
  unfold Slots.earlier
  split
  · rename_i a hheld
    split
    · rename_i hlt
      refine ⟨by have := h.le_bound; omega, fun other hother b hb => ?_, fun other hother => ?_, by simp⟩
      · rcases List.mem_append.1 hother with hseen | hlast
        · exact hlt.le.trans (h.le_key other hseen b hb)
        · rw [List.mem_singleton.1 hlast, hheld] at hb
          cases hb
          exact le_rfl
      · obtain rfl : slot = other := by simpa using hother
        exact ⟨by simp, lt_of_lt_of_le hlt h.le_bound, a, hheld, rfl⟩
    · rename_i hge
      refine ⟨h.le_bound, fun other hother b hb => ?_, fun other hother => ?_, h.unchosen⟩
      · rcases List.mem_append.1 hother with hseen | hlast
        · exact h.le_key other hseen b hb
        · rw [List.mem_singleton.1 hlast, hheld] at hb
          cases hb
          exact not_lt.1 hge
      · obtain ⟨hmem, hrest⟩ := h.chosen other hother
        exact ⟨List.mem_append_left _ hmem, hrest⟩
  · rename_i hheld
    refine ⟨h.le_bound, fun other hother b hb => ?_, fun other hother => ?_, h.unchosen⟩
    · rcases List.mem_append.1 hother with hseen | hlast
      · exact h.le_key other hseen b hb
      · rw [List.mem_singleton.1 hlast, hheld] at hb
        cases hb
    · obtain ⟨hmem, hrest⟩ := h.chosen other hother
      exact ⟨List.mem_append_left _ hmem, hrest⟩

theorem found_foldl {bound : ℕ} {seen : List ι} {best : Option ι × ℕ}
    (h : Found key slots bound seen best) (index : List ι) :
    Found key slots bound (seen ++ index) (index.foldl (earlier key slots) best) := by
  induction index generalizing seen best with
  | nil => simpa using h
  | cons slot index ih => simpa using ih (h.earlier slot)

variable (key slots) in
theorem found_earliest (bound : ℕ) (index : List ι) :
    Found key slots bound index (index.foldl (earlier key slots) (none, bound)) := by
  have hstart : Found key slots bound [] (none, bound) :=
    ⟨le_rfl, by simp, by simp, fun _ => rfl⟩
  exact found_foldl hstart index

/-- The place that is found holds the smallest key, under the bound. -/
theorem earliest_spec {bound : ℕ} {index : List ι} {slot : ι}
    (h : earliest key slots bound index = some slot) :
    slot ∈ index ∧ ∃ a, slots slot = some a ∧ key a < bound ∧
      ∀ other ∈ index, ∀ b, slots other = some b → key a ≤ key b := by
  have hfound := found_earliest key slots bound index
  obtain ⟨hmem, hlt, a, hheld, hkey⟩ := hfound.chosen slot h
  refine ⟨hmem, a, hheld, hkey ▸ hlt, fun other hother b hb => ?_⟩
  rw [hkey]
  exact hfound.le_key other hother b hb

/-- Nothing is found only if no key is under the bound. -/
theorem earliest_eq_none {bound : ℕ} {index : List ι} (h : earliest key slots bound index = none)
    {slot : ι} (hmem : slot ∈ index) {a : α} (ha : slots slot = some a) : bound ≤ key a := by
  have hfound := found_earliest key slots bound index
  have hbound := hfound.unchosen h
  exact hbound ▸ hfound.le_key slot hmem a ha

end Slots
