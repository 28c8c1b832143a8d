import Mathlib

/-! # Tables with a key

Rows that carry their own key, in order of insertion. Writing a row puts it in the place of the row
with its key, or at the end. The structure carries that keys are pairwise different, so a lookup by
key has one answer.
-/

/-- Rows that carry a key. -/
class HasKey (α : Type*) (κ : outParam (Type*)) where
  key : α → κ

export HasKey (key)

/-- A list of rows with different keys. -/
structure KeyTable (α : Type*) {κ : Type*} [HasKey α κ] where
  rows : List α
  nodup : (rows.map key).Nodup

namespace KeyTable

variable {α κ : Type*} [HasKey α κ] [DecidableEq κ]

/-- The table without rows. -/
def empty : KeyTable α where
  rows := []
  nodup := List.nodup_nil

/-- The row with a key. -/
def get? (t : KeyTable α) (k : κ) : Option α :=
  t.rows.find? fun a => key a = k

/-- The rows after a row has taken the place of the row with its key. -/
def setRows (a : α) : List α → List α
  | [] => [a]
  | b :: rows => if key b = key a then a :: rows else b :: setRows a rows

theorem mem_setRows {a c : α} {rows : List α} (h : (rows.map key).Nodup) :
    c ∈ setRows a rows ↔ c = a ∨ (c ∈ rows ∧ key c ≠ key a) := by
  induction rows with
  | nil => simp [setRows]
  | cons b rows ih =>
      rw [List.map_cons, List.nodup_cons] at h
      unfold setRows
      split_ifs with hb
      · have hrest : ∀ d ∈ rows, key d ≠ key a := by
          intro d hd hda
          exact h.1 (List.mem_map.2 ⟨d, hd, hda.trans hb.symm⟩)
        simp only [List.mem_cons]
        constructor
        · rintro (rfl | hc)
          · exact Or.inl rfl
          · exact Or.inr ⟨Or.inr hc, hrest c hc⟩
        · rintro (rfl | ⟨rfl | hc, hne⟩)
          · exact Or.inl rfl
          · exact absurd hb hne
          · exact Or.inr hc
      · simp only [List.mem_cons, ih h.2]
        constructor
        · rintro (rfl | rfl | ⟨hc, hne⟩)
          · exact Or.inr ⟨Or.inl rfl, hb⟩
          · exact Or.inl rfl
          · exact Or.inr ⟨Or.inr hc, hne⟩
        · rintro (rfl | ⟨rfl | hc, hne⟩)
          · exact Or.inr (Or.inl rfl)
          · exact Or.inl rfl
          · exact Or.inr (Or.inr ⟨hc, hne⟩)

theorem nodup_setRows (a : α) {rows : List α} (h : (rows.map key).Nodup) :
    ((setRows a rows).map key).Nodup := by
  induction rows with
  | nil => simp [setRows]
  | cons b rows ih =>
      rw [List.map_cons, List.nodup_cons] at h
      unfold setRows
      split_ifs with hb
      · rw [List.map_cons, List.nodup_cons, ← hb]
        exact h
      · rw [List.map_cons, List.nodup_cons]
        refine ⟨fun hmem => ?_, ih h.2⟩
        obtain ⟨c, hc, hcb⟩ := List.mem_map.1 hmem
        rcases (mem_setRows h.2).1 hc with rfl | ⟨hc, -⟩
        · exact hb hcb.symm
        · exact h.1 (List.mem_map.2 ⟨c, hc, hcb⟩)

/-- Write a row under its key. -/
def set (t : KeyTable α) (a : α) : KeyTable α where
  rows := setRows a t.rows
  nodup := nodup_setRows a t.nodup

/-- Write several rows, one after the other. -/
def setAll (t : KeyTable α) (rows : List α) : KeyTable α :=
  rows.foldl set t

/-! ## Lookup -/

omit [DecidableEq κ] in
theorem eq_of_rows_eq : ∀ {t u : KeyTable α}, t.rows = u.rows → t = u
  | ⟨_, _⟩, ⟨_, _⟩, rfl => rfl

omit [DecidableEq κ] in
theorem eq_of_key_eq (t : KeyTable α) {a b : α} (ha : a ∈ t.rows) (hb : b ∈ t.rows)
    (h : key a = key b) : a = b :=
  List.inj_on_of_nodup_map t.nodup ha hb h

variable {t : KeyTable α}

theorem get?_eq_some {k : κ} {a : α} : t.get? k = some a ↔ a ∈ t.rows ∧ key a = k := by
  constructor
  · intro h
    exact ⟨List.mem_of_find?_eq_some h, by simpa using List.find?_some h⟩
  · rintro ⟨ha, rfl⟩
    obtain ⟨b, hb⟩ : ∃ b, t.get? (key a) = some b :=
      Option.isSome_iff_exists.1 (List.find?_isSome.2 ⟨a, ha, by simp⟩)
    have hkey : key b = key a := by simpa using List.find?_some hb
    rw [hb, t.eq_of_key_eq (List.mem_of_find?_eq_some hb) ha hkey]

theorem get?_eq_none {k : κ} : t.get? k = none ↔ ∀ a ∈ t.rows, key a ≠ k := by
  simp [get?]

theorem get?_key {a : α} (h : a ∈ t.rows) : t.get? (key a) = some a :=
  get?_eq_some.2 ⟨h, rfl⟩

omit [DecidableEq κ] in
@[simp] theorem rows_empty : (empty : KeyTable α).rows = [] := rfl

@[simp] theorem get?_empty (k : κ) : (empty : KeyTable α).get? k = none := rfl

theorem mem_set {a c : α} : c ∈ (t.set a).rows ↔ c = a ∨ (c ∈ t.rows ∧ key c ≠ key a) :=
  mem_setRows t.nodup

theorem mem_set_of_mem {a c : α} (h : c ∈ (t.set a).rows) : c = a ∨ c ∈ t.rows := by
  rcases mem_set.1 h with h | h
  · exact Or.inl h
  · exact Or.inr h.1

@[simp] theorem get?_set_self (t : KeyTable α) (a : α) : (t.set a).get? (key a) = some a :=
  get?_eq_some.2 ⟨mem_set.2 (Or.inl rfl), rfl⟩

theorem get?_set_of_ne {a : α} {k : κ} (h : key a ≠ k) : (t.set a).get? k = t.get? k := by
  ext c
  rw [get?_eq_some, get?_eq_some, mem_set]
  constructor
  · rintro ⟨rfl | ⟨hc, -⟩, rfl⟩
    · exact absurd rfl h
    · exact ⟨hc, rfl⟩
  · rintro ⟨hc, rfl⟩
    exact ⟨Or.inr ⟨hc, fun hne => h hne.symm⟩, rfl⟩

theorem get?_set (t : KeyTable α) (a : α) (k : κ) :
    (t.set a).get? k = if key a = k then some a else t.get? k := by
  split_ifs with h
  · rw [← h]
    exact get?_set_self t a
  · exact get?_set_of_ne h

/-- A second write under the same key replaces the first. -/
theorem set_set {a b : α} (h : key a = key b) : (t.set a).set b = t.set b := by
  have hrows : ∀ rows : List α, setRows b (setRows a rows) = setRows b rows := by
    intro rows
    induction rows with
    | nil => simp [setRows, h]
    | cons c rows ih =>
        by_cases hc : key c = key a
        · have hcb : key c = key b := hc.trans h
          simp only [setRows, if_pos hc, if_pos h, if_pos hcb]
        · have hcb : key c ≠ key b := fun heq => hc (heq.trans h.symm)
          simp only [setRows, if_neg hc, if_neg hcb, ih]
  exact eq_of_rows_eq (hrows t.rows)

/-- A row under a new key goes to the end. -/
theorem rows_set_of_fresh {a : α} (h : t.get? (key a) = none) : (t.set a).rows = t.rows ++ [a] := by
  have hrows : ∀ rows : List α, (∀ b ∈ rows, key b ≠ key a) → setRows a rows = rows ++ [a] := by
    intro rows
    induction rows with
    | nil => intro; rfl
    | cons b rows ih =>
        intro hne
        rw [setRows, if_neg (hne b List.mem_cons_self), List.cons_append,
          ih fun c hc => hne c (List.mem_cons_of_mem b hc)]
  exact hrows t.rows (get?_eq_none.1 h)

/-- A row under a key in use goes in the place of the row with that key. -/
theorem rows_set_of_mem {a b : α} (hb : b ∈ t.rows) (h : key b = key a) :
    (t.set a).rows = t.rows.map fun c => if key c = key a then a else c := by
  have hrows : ∀ rows : List α, (rows.map key).Nodup → b ∈ rows →
      setRows a rows = rows.map fun c => if key c = key a then a else c := by
    intro rows
    induction rows with
    | nil => intro _ hmem; exact absurd hmem List.not_mem_nil
    | cons c rows ih =>
        intro hnodup hmem
        rw [List.map_cons, List.nodup_cons] at hnodup
        rw [setRows, List.map_cons]
        split_ifs with hc
        · have hrest : ∀ d ∈ rows, key d ≠ key a := by
            intro d hd hda
            exact hnodup.1 (List.mem_map.2 ⟨d, hd, hda.trans hc.symm⟩)
          rw [List.map_congr_left fun d hd => if_neg (hrest d hd), List.map_id']
        · rcases List.mem_cons.1 hmem with rfl | hmem
          · exact absurd h hc
          · rw [ih hnodup.2 hmem]
  exact hrows t.rows t.nodup hb

/-- Writing a row that is there changes nothing. -/
theorem set_self {a : α} (ha : a ∈ t.rows) : t.set a = t := by
  refine eq_of_rows_eq ?_
  rw [rows_set_of_mem ha rfl]
  have hsame : ∀ c ∈ t.rows, (if key c = key a then a else c) = c := by
    intro c hc
    split_ifs with h
    · exact t.eq_of_key_eq ha hc h.symm
    · rfl
  rw [List.map_congr_left hsame, List.map_id']

/-! ## Several writes -/

@[simp] theorem setAll_nil (t : KeyTable α) : t.setAll [] = t := rfl

@[simp] theorem setAll_cons (t : KeyTable α) (a : α) (rows : List α) :
    t.setAll (a :: rows) = (t.set a).setAll rows := rfl

/-- After writing rows with different keys, the table has these and the others of before. -/
theorem mem_setAll {rows : List α} (h : (rows.map key).Nodup) {c : α} :
    c ∈ (t.setAll rows).rows ↔ c ∈ rows ∨ (c ∈ t.rows ∧ ∀ a ∈ rows, key c ≠ key a) := by
  induction rows generalizing t with
  | nil => simp
  | cons a rows ih =>
      rw [List.map_cons, List.nodup_cons] at h
      rw [setAll_cons, ih h.2, mem_set, List.forall_mem_cons, List.mem_cons]
      constructor
      · rintro (hc | ⟨rfl | ⟨hc, hne⟩, hrest⟩)
        · exact Or.inl (Or.inr hc)
        · exact Or.inl (Or.inl rfl)
        · exact Or.inr ⟨hc, hne, hrest⟩
      · rintro ((rfl | hc) | ⟨hc, hne, hrest⟩)
        · refine Or.inr ⟨Or.inl rfl, fun b hb hab => h.1 ?_⟩
          exact List.mem_map.2 ⟨b, hb, hab.symm⟩
        · exact Or.inl hc
        · exact Or.inr ⟨Or.inr ⟨hc, hne⟩, hrest⟩

/-- After rewriting the rows that satisfy `p` under their keys, every row is rewritten or as before. -/
theorem mem_setAll_map {p : α → Bool} {f : α → α} (hf : ∀ a, key (f a) = key a)
    {c : α} : c ∈ (t.setAll ((t.rows.filter p).map f)).rows ↔
      ∃ a ∈ t.rows, c = if p a then f a else a := by
  have hkeys : ((t.rows.filter p).map f).map key = (t.rows.filter p).map key := by
    rw [List.map_map]
    exact List.map_congr_left fun a _ => hf a
  have hnodup : (((t.rows.filter p).map f).map key).Nodup := by
    rw [hkeys]
    exact t.nodup.sublist (List.filter_sublist.map key)
  rw [mem_setAll hnodup]
  constructor
  · rintro (hc | ⟨hc, hne⟩)
    · obtain ⟨a, ha, rfl⟩ := List.mem_map.1 hc
      obtain ⟨hmem, hpa⟩ := List.mem_filter.1 ha
      exact ⟨a, hmem, (if_pos hpa).symm⟩
    · refine ⟨c, hc, (if_neg fun hpc => ?_).symm⟩
      exact hne (f c) (List.mem_map.2 ⟨c, List.mem_filter.2 ⟨hc, hpc⟩, rfl⟩) (hf c).symm
  · rintro ⟨a, ha, rfl⟩
    by_cases hpa : p a = true
    · rw [if_pos hpa]
      exact Or.inl (List.mem_map.2 ⟨a, List.mem_filter.2 ⟨ha, hpa⟩, rfl⟩)
    · rw [if_neg hpa]
      refine Or.inr ⟨ha, fun b hb hab => hpa ?_⟩
      obtain ⟨a', ha', rfl⟩ := List.mem_map.1 hb
      obtain ⟨hmem, hpa'⟩ := List.mem_filter.1 ha'
      rw [t.eq_of_key_eq ha hmem (hab.trans (hf a'))]
      exact hpa'

/-! ## Live rows -/

section Live

variable {β : Type*} {live : α → Prop} {f : α → β} {t t' t'' : KeyTable α}

omit [DecidableEq κ]

/-- No two live rows agree on `f`. -/
def UniqueAmong (live : α → Prop) (f : α → β) (t : KeyTable α) : Prop :=
  ∀ a ∈ t.rows, ∀ b ∈ t.rows, live a → live b → f a = f b → a = b

theorem uniqueAmong_empty : UniqueAmong live f (empty : KeyTable α) := by
  intro a ha
  exact absurd ha List.not_mem_nil

/-- A table stays unique while it only loses live rows. -/
theorem UniqueAmong.of_subset (h : UniqueAmong live f t)
    (hsub : ∀ b ∈ t'.rows, live b → b ∈ t.rows) : UniqueAmong live f t' := by
  intro a ha b hb hla hlb hab
  exact h a (hsub a ha hla) b (hsub b hb hlb) hla hlb hab

/-- A table stays unique when it gets a live row with which no live row agrees. -/
theorem UniqueAmong.of_insert (h : UniqueAmong live f t) (a : α)
    (hins : ∀ b ∈ t'.rows, live b → b = a ∨ (b ∈ t.rows ∧ f b ≠ f a)) : UniqueAmong live f t' := by
  intro b hb c hc hlb hlc hbc
  rcases hins b hb hlb with rfl | ⟨hbt, hba⟩ <;> rcases hins c hc hlc with rfl | ⟨hct, hca⟩
  · rfl
  · exact absurd hbc.symm hca
  · exact absurd hbc hba
  · exact h b hbt c hct hlb hlc hbc

/-- Rows stay under their keys, and a row that is not live stays as it is. -/
def Evolves (live : α → Prop) (t t' : KeyTable α) : Prop :=
  ∀ a ∈ t.rows, ∃ a' ∈ t'.rows, key a' = key a ∧ (¬ live a → a' = a)

theorem Evolves.refl (t : KeyTable α) : Evolves live t t :=
  fun a ha => ⟨a, ha, rfl, fun _ => rfl⟩

theorem Evolves.trans (h : Evolves live t t') (h' : Evolves live t' t'') : Evolves live t t'' := by
  intro a ha
  obtain ⟨b, hb, hkey, hsettled⟩ := h a ha
  obtain ⟨c, hc, hkey', hsettled'⟩ := h' b hb
  refine ⟨c, hc, hkey'.trans hkey, fun hla => ?_⟩
  obtain rfl := hsettled hla
  exact hsettled' hla

variable [DecidableEq κ]

theorem evolves_set_of_fresh {a : α} (h : ∀ b ∈ t.rows, key b ≠ key a) :
    Evolves live t (t.set a) :=
  fun b hb => ⟨b, mem_set.2 (Or.inr ⟨hb, h b hb⟩), rfl, fun _ => rfl⟩

theorem evolves_set_of_live {a b : α} (hb : b ∈ t.rows) (hkey : key a = key b) (hlive : live b) :
    Evolves live t (t.set a) := by
  intro c hc
  by_cases h : key c = key a
  · obtain rfl := t.eq_of_key_eq hc hb (h.trans hkey)
    exact ⟨a, mem_set.2 (Or.inl rfl), hkey, fun hdead => absurd hlive hdead⟩
  · exact ⟨c, mem_set.2 (Or.inr ⟨hc, h⟩), rfl, fun _ => rfl⟩

theorem evolves_setAll_map {p : α → Bool} {g : α → α} (hg : ∀ a, key (g a) = key a)
    (hlive : ∀ a, p a = true → live a) : Evolves live t (t.setAll ((t.rows.filter p).map g)) := by
  intro a ha
  refine ⟨if p a then g a else a, (mem_setAll_map hg).2 ⟨a, ha, rfl⟩, ?_, fun hdead => ?_⟩
  · split_ifs with hp
    · exact hg a
    · rfl
  · exact if_neg fun hp => hdead (hlive a hp)

theorem UniqueAmong.set_of_dead (h : UniqueAmong live f t) {a : α} (hdead : ¬ live a) :
    UniqueAmong live f (t.set a) := by
  refine h.of_subset fun b hb hlb => ?_
  rcases mem_set.1 hb with rfl | ⟨hbt, -⟩
  · exact absurd hlb hdead
  · exact hbt

/-- A live row after some rows were ended is one of those that were left alone. -/
theorem mem_of_live_setAll_map {p : α → Bool} {g : α → α} (hg : ∀ a, key (g a) = key a)
    (hdead : ∀ a, ¬ live (g a)) {b : α} (hb : b ∈ (t.setAll ((t.rows.filter p).map g)).rows)
    (hlive : live b) : b ∈ t.rows ∧ p b = false := by
  obtain ⟨a, ha, rfl⟩ := (mem_setAll_map hg).1 hb
  by_cases hp : p a = true
  · rw [if_pos hp] at hlive
    exact absurd hlive (hdead a)
  · rw [if_neg hp]
    exact ⟨ha, Bool.eq_false_iff.2 hp⟩

end Live

end KeyTable
