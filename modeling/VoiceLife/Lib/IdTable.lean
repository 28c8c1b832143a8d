import Mathlib

/-! # Tables with generated ids

An append-only id counter over a list of rows. The structure carries what every operation keeps:
ids are positive, below the counter and pairwise different, so a lookup by id has one answer.
-/

/-- Rows that carry an integer id. -/
class HasId (α : Type*) where
  getId : α → ℤ
  setId : α → ℤ → α
  getId_setId : ∀ a i, getId (setId a i) = i

export HasId (getId setId)

attribute [simp] HasId.getId_setId

/-- A list of rows with different ids, all taken from a counter. -/
structure IdTable (α : Type*) [HasId α] where
  rows : List α
  nextId : ℤ
  one_le_nextId : 1 ≤ nextId
  one_le_id : ∀ a ∈ rows, 1 ≤ getId a
  id_lt : ∀ a ∈ rows, getId a < nextId
  nodup : (rows.map getId).Nodup

namespace IdTable

variable {α : Type*} [HasId α]

/-- The table without rows; the first id is 1. -/
def empty : IdTable α where
  rows := []
  nextId := 1
  one_le_nextId := le_rfl
  one_le_id := fun _ h => absurd h List.not_mem_nil
  id_lt := fun _ h => absurd h List.not_mem_nil
  nodup := List.nodup_nil

/-- Append a row under the next id. -/
def insert (t : IdTable α) (a : α) : IdTable α where
  rows := t.rows ++ [setId a t.nextId]
  nextId := t.nextId + 1
  one_le_nextId := by
    have := t.one_le_nextId
    omega
  one_le_id := by
    intro b hb
    rcases List.mem_append.1 hb with hb | hb
    · exact t.one_le_id b hb
    · rw [List.mem_singleton.1 hb, HasId.getId_setId]
      exact t.one_le_nextId
  id_lt := by
    intro b hb
    rcases List.mem_append.1 hb with hb | hb
    · exact (t.id_lt b hb).trans (by omega)
    · rw [List.mem_singleton.1 hb, HasId.getId_setId]
      omega
  nodup := by
    rw [List.map_append, List.nodup_append]
    refine ⟨t.nodup, List.nodup_singleton _, ?_⟩
    intro i hi j hj hij
    obtain ⟨b, hb, rfl⟩ := List.mem_map.1 hi
    have hlt := t.id_lt b hb
    simp only [List.map_cons, List.map_nil, List.mem_singleton, HasId.getId_setId] at hj
    omega

/-- Change rows in place without touching their ids. -/
def modify (t : IdTable α) (f : α → α) (hf : ∀ a, getId (f a) = getId a) : IdTable α where
  rows := t.rows.map f
  nextId := t.nextId
  one_le_nextId := t.one_le_nextId
  one_le_id := by
    intro b hb
    obtain ⟨a, ha, rfl⟩ := List.mem_map.1 hb
    rw [hf]
    exact t.one_le_id a ha
  id_lt := by
    intro b hb
    obtain ⟨a, ha, rfl⟩ := List.mem_map.1 hb
    rw [hf]
    exact t.id_lt a ha
  nodup := by
    rw [List.map_map]
    have : getId ∘ f = getId := funext hf
    rw [this]
    exact t.nodup

/-- Put a row in the place of the row with its id, if there is one. -/
def replace (t : IdTable α) (a : α) : IdTable α :=
  t.modify (fun b => if getId b = getId a then a else b) (by
    intro b
    split_ifs with h
    · exact h.symm
    · rfl)

/-- Erase the rows that satisfy a test. -/
def removeIf (t : IdTable α) (p : α → Bool) : IdTable α where
  rows := t.rows.filter fun a => !p a
  nextId := t.nextId
  one_le_nextId := t.one_le_nextId
  one_le_id := fun a ha => t.one_le_id a (List.mem_of_mem_filter ha)
  id_lt := fun a ha => t.id_lt a (List.mem_of_mem_filter ha)
  nodup := (List.filter_sublist.map getId).nodup t.nodup

/-- The row with an id. -/
def find? (t : IdTable α) (i : ℤ) : Option α :=
  t.rows.find? fun a => getId a = i

/-! ## Lookup -/

theorem eq_of_getId_eq (t : IdTable α) {a b : α} (ha : a ∈ t.rows) (hb : b ∈ t.rows)
    (h : getId a = getId b) : a = b :=
  List.inj_on_of_nodup_map t.nodup ha hb h

theorem find?_eq_some {t : IdTable α} {i : ℤ} {a : α} :
    t.find? i = some a ↔ a ∈ t.rows ∧ getId a = i := by
  constructor
  · intro h
    exact ⟨List.mem_of_find?_eq_some h, by simpa using List.find?_some h⟩
  · rintro ⟨ha, rfl⟩
    obtain ⟨b, hb⟩ : ∃ b, t.find? (getId a) = some b :=
      Option.isSome_iff_exists.1 (List.find?_isSome.2 ⟨a, ha, by simp⟩)
    have hid : getId b = getId a := by simpa using List.find?_some hb
    rw [hb, t.eq_of_getId_eq (List.mem_of_find?_eq_some hb) ha hid]

theorem find?_eq_none {t : IdTable α} {i : ℤ} : t.find? i = none ↔ ∀ a ∈ t.rows, getId a ≠ i := by
  simp [find?]

/-- Ids up to a bound leave room for so many rows. -/
theorem length_le {t : IdTable α} {bound : ℤ} (h : ∀ a ∈ t.rows, getId a ≤ bound) :
    t.rows.length ≤ bound.toNat := by
  have hsub : (t.rows.map getId).toFinset ⊆ Finset.Icc 1 bound := by
    intro i hi
    obtain ⟨a, ha, rfl⟩ := List.mem_map.1 (List.mem_toFinset.1 hi)
    exact Finset.mem_Icc.2 ⟨t.one_le_id a ha, h a ha⟩
  have hcard := Finset.card_le_card hsub
  rwa [List.toFinset_card_of_nodup t.nodup, List.length_map, Int.card_Icc, add_sub_cancel_right]
    at hcard

/-! ## Rows after an operation -/

@[simp] theorem rows_empty : (empty : IdTable α).rows = [] := rfl

@[simp] theorem mem_insert {t : IdTable α} {a b : α} :
    b ∈ (t.insert a).rows ↔ b ∈ t.rows ∨ b = setId a t.nextId := by
  simp [insert]

@[simp] theorem mem_modify {t : IdTable α} {f : α → α} {hf : ∀ a, getId (f a) = getId a} {b : α} :
    b ∈ (t.modify f hf).rows ↔ ∃ a ∈ t.rows, f a = b := by
  simp [modify]

@[simp] theorem mem_removeIf {t : IdTable α} {p : α → Bool} {b : α} :
    b ∈ (t.removeIf p).rows ↔ b ∈ t.rows ∧ p b = false := by
  simp [removeIf]

/-- After a replacement the other rows are as before. -/
theorem mem_replace {t : IdTable α} {a b : α} :
    b ∈ (t.replace a).rows ↔
      (b ∈ t.rows ∧ getId b ≠ getId a) ∨ (b = a ∧ ∃ c ∈ t.rows, getId c = getId a) := by
  simp only [replace, mem_modify]
  constructor
  · rintro ⟨c, hc, rfl⟩
    split_ifs with h
    · exact Or.inr ⟨rfl, c, hc, h⟩
    · exact Or.inl ⟨hc, h⟩
  · rintro (⟨hb, h⟩ | ⟨rfl, c, hc, h⟩)
    · exact ⟨b, hb, if_neg h⟩
    · exact ⟨c, hc, if_pos h⟩

theorem mem_replace_of_mem {t : IdTable α} {a b : α} (h : b ∈ (t.replace a).rows) :
    b = a ∨ b ∈ t.rows := by
  rcases mem_replace.1 h with h | h
  · exact Or.inr h.1
  · exact Or.inl h.1

end IdTable
