import Mathlib

/-! # Ordered lists with an index into their nodes

A linked list kept in the order of its ranks, and a map from keys to the addresses of its nodes. The
structure carries what insertion and erasure keep: the list is ordered, addresses are different, and
the map sends exactly the keys of the list to the addresses of their nodes.
-/

/-- A node of a linked list. -/
structure Node (α : Type*) where
  address : ℕ
  value : α

/-- An ordered list and the index of its nodes. -/
structure OrderedIndex {α ρ κ : Type*} [LinearOrder ρ] [DecidableEq κ] (rank : α → ρ)
    (key : α → κ) where
  nodes : List (Node α)
  addressOf : κ → Option ℕ
  nextAddress : ℕ
  sorted : nodes.Pairwise fun a b => rank a.value ≤ rank b.value
  address_lt : ∀ n ∈ nodes, n.address < nextAddress
  address_ne : nodes.Pairwise fun a b => a.address ≠ b.address
  addressOf_eq : ∀ k a, addressOf k = some a ↔ ∃ n ∈ nodes, key n.value = k ∧ n.address = a

namespace OrderedIndex

variable {α ρ κ : Type*} [LinearOrder ρ] [DecidableEq κ] {rank : α → ρ} {key : α → κ}

/-- The list without nodes. -/
def empty : OrderedIndex rank key where
  nodes := []
  addressOf := fun _ => none
  nextAddress := 0
  sorted := List.Pairwise.nil
  address_lt := by simp
  address_ne := List.Pairwise.nil
  addressOf_eq := by simp

/-- The values in order. -/
def values (t : OrderedIndex rank key) : List α :=
  t.nodes.map Node.value

/-- The node that the index has for a key. -/
def find? (t : OrderedIndex rank key) (k : κ) : Option (Node α) :=
  (t.addressOf k).bind fun a => t.nodes.find? fun n => n.address = a

/-- Put a value with a new key before the first value that does not rank below it. -/
def insert (t : OrderedIndex rank key) (v : α) (h : t.addressOf (key v) = none) :
    OrderedIndex rank key where
  nodes := t.nodes.orderedInsert (fun a b => rank a.value ≤ rank b.value) ⟨t.nextAddress, v⟩
  addressOf := Function.update t.addressOf (key v) (some t.nextAddress)
  nextAddress := t.nextAddress + 1
  sorted := by
    have : Std.Total fun a b : Node α => rank a.value ≤ rank b.value := ⟨fun a b => le_total _ _⟩
    have : IsTrans (Node α) fun a b => rank a.value ≤ rank b.value := ⟨fun a b c => le_trans⟩
    exact t.sorted.orderedInsert _ _
  address_lt := by
    intro n hn
    rcases (List.mem_orderedInsert _).1 hn with rfl | hn
    · exact Nat.lt_succ_self _
    · exact (t.address_lt n hn).trans (Nat.lt_succ_self _)
  address_ne := by
    have hperm := List.perm_orderedInsert (fun a b : Node α => rank a.value ≤ rank b.value)
      ⟨t.nextAddress, v⟩ t.nodes
    refine (hperm.pairwise_iff fun hab => hab.symm).2 (List.pairwise_cons.2 ⟨?_, t.address_ne⟩)
    intro n hn
    exact (t.address_lt n hn).ne'
  addressOf_eq := by
    intro k a
    have hmem : ∀ n : Node α, n ∈ t.nodes.orderedInsert
        (fun a b => rank a.value ≤ rank b.value) ⟨t.nextAddress, v⟩ ↔
          n = ⟨t.nextAddress, v⟩ ∨ n ∈ t.nodes := fun n => List.mem_orderedInsert _
    simp only [hmem, or_and_right, exists_or, exists_eq_left]
    by_cases hk : k = key v
    · subst hk
      rw [Function.update_self, Option.some_inj]
      have hnot : ¬ ∃ n ∈ t.nodes, key n.value = key v ∧ n.address = a := by
        rw [← t.addressOf_eq, h]
        exact fun h => by cases h
      rw [or_iff_left hnot]
      simp
    · rw [Function.update_of_ne hk, t.addressOf_eq, or_iff_right]
      exact fun hkey => hk hkey.1.symm

theorem eq_of_address_eq (t : OrderedIndex rank key) {m n : Node α} (hm : m ∈ t.nodes)
    (hn : n ∈ t.nodes) (h : m.address = n.address) : m = n :=
  List.inj_on_of_nodup_map (List.pairwise_map.2 t.address_ne) hm hn h

/-- Erase a node and its key. -/
def erase (t : OrderedIndex rank key) (n : Node α) (h : n ∈ t.nodes) : OrderedIndex rank key where
  nodes := t.nodes.filter fun m => m.address ≠ n.address
  addressOf := Function.update t.addressOf (key n.value) none
  nextAddress := t.nextAddress
  sorted := t.sorted.filter _
  address_lt := fun m hm => t.address_lt m (List.mem_of_mem_filter hm)
  address_ne := t.address_ne.filter _
  addressOf_eq := by
    intro k a
    simp only [List.mem_filter, decide_eq_true_eq]
    have hn := (t.addressOf_eq (key n.value) n.address).2 ⟨n, h, rfl, rfl⟩
    by_cases hk : k = key n.value
    · subst hk
      rw [Function.update_self]
      refine iff_of_false (fun h => by cases h) ?_
      rintro ⟨m, ⟨hm, hne⟩, hkey, -⟩
      have hm' := (t.addressOf_eq (key n.value) m.address).2 ⟨m, hm, hkey, rfl⟩
      exact hne (Option.some_inj.1 (hm'.symm.trans hn))
    · rw [Function.update_of_ne hk, t.addressOf_eq]
      refine exists_congr fun m => ⟨?_, fun hm => ⟨hm.1.1, hm.2⟩⟩
      rintro ⟨hm, hkey, hm'⟩
      refine ⟨⟨hm, fun hsame => hk ?_⟩, hkey, hm'⟩
      rw [← hkey, t.eq_of_address_eq hm h hsame]

/-- The values of the longest initial part that satisfies a test. -/
def upTo (t : OrderedIndex rank key) (p : α → Bool) : List α :=
  t.values.takeWhile p

/-! ## Lookup -/

theorem eq_of_key_eq (t : OrderedIndex rank key) {m n : Node α} (hm : m ∈ t.nodes)
    (hn : n ∈ t.nodes) (h : key m.value = key n.value) : m = n := by
  have hm' := (t.addressOf_eq (key n.value) m.address).2 ⟨m, hm, h, rfl⟩
  have hn' := (t.addressOf_eq (key n.value) n.address).2 ⟨n, hn, rfl, rfl⟩
  exact t.eq_of_address_eq hm hn (Option.some_inj.1 (hm'.symm.trans hn'))

variable {t : OrderedIndex rank key}

theorem find?_eq_some {k : κ} {n : Node α} : t.find? k = some n ↔ n ∈ t.nodes ∧ key n.value = k := by
  unfold find?
  rw [Option.bind_eq_some_iff]
  constructor
  · rintro ⟨a, ha, hfind⟩
    obtain ⟨m, hm, hkey, rfl⟩ := (t.addressOf_eq k a).1 ha
    have hn := List.mem_of_find?_eq_some hfind
    have haddress : n.address = m.address := by simpa using List.find?_some hfind
    rw [t.eq_of_address_eq hn hm haddress]
    exact ⟨hm, hkey⟩
  · rintro ⟨hn, rfl⟩
    refine ⟨n.address, (t.addressOf_eq _ _).2 ⟨n, hn, rfl, rfl⟩, ?_⟩
    obtain ⟨m, hm⟩ : ∃ m, t.nodes.find? (fun m => m.address = n.address) = some m :=
      Option.isSome_iff_exists.1 (List.find?_isSome.2 ⟨n, hn, by simp⟩)
    have haddress : m.address = n.address := by simpa using List.find?_some hm
    rw [hm, t.eq_of_address_eq (List.mem_of_find?_eq_some hm) hn haddress]

theorem find?_eq_none {k : κ} : t.find? k = none ↔ ∀ v ∈ t.values, key v ≠ k := by
  constructor
  · intro h v hv hkey
    obtain ⟨n, hn, rfl⟩ := List.mem_map.1 hv
    rw [find?_eq_some.2 ⟨hn, hkey⟩] at h
    cases h
  · intro h
    cases hfind : t.find? k with
    | none => rfl
    | some n =>
        obtain ⟨hn, hkey⟩ := find?_eq_some.1 hfind
        exact absurd hkey (h n.value (List.mem_map_of_mem hn))

theorem addressOf_eq_none {k : κ} : t.addressOf k = none ↔ ∀ v ∈ t.values, key v ≠ k := by
  rw [Option.eq_none_iff_forall_ne_some]
  constructor
  · intro h v hv hkey
    obtain ⟨n, hn, rfl⟩ := List.mem_map.1 hv
    exact h n.address ((t.addressOf_eq k _).2 ⟨n, hn, hkey, rfl⟩)
  · intro h a ha
    obtain ⟨n, hn, hkey, -⟩ := (t.addressOf_eq k a).1 ha
    exact h n.value (List.mem_map_of_mem hn) hkey

/-! ## Values after an operation -/

@[simp] theorem values_empty : (empty : OrderedIndex rank key).values = [] := rfl

@[simp] theorem mem_insert {v w : α}
    {h : t.addressOf (key v) = none} : w ∈ (t.insert v h).values ↔ w = v ∨ w ∈ t.values := by
  have hmem : ∀ n : Node α, n ∈ t.nodes.orderedInsert
      (fun a b => rank a.value ≤ rank b.value) ⟨t.nextAddress, v⟩ ↔
        n = ⟨t.nextAddress, v⟩ ∨ n ∈ t.nodes := fun n => List.mem_orderedInsert _
  simp only [values, insert, List.mem_map, hmem, or_and_right, exists_or, exists_eq_left]
  rw [eq_comm]

@[simp] theorem mem_erase {n : Node α} {h : n ∈ t.nodes} {w : α} :
    w ∈ (t.erase n h).values ↔ w ∈ t.values ∧ key w ≠ key n.value := by
  simp only [values, erase, List.mem_map, List.mem_filter, decide_eq_true_eq]
  constructor
  · rintro ⟨m, ⟨hm, hne⟩, rfl⟩
    refine ⟨⟨m, hm, rfl⟩, fun hkey => hne ?_⟩
    rw [t.eq_of_key_eq hm h hkey]
  · rintro ⟨⟨m, hm, rfl⟩, hkey⟩
    refine ⟨m, ⟨hm, fun hne => hkey ?_⟩, rfl⟩
    rw [t.eq_of_address_eq hm h hne]

/-! ## Order -/

theorem sorted_values (t : OrderedIndex rank key) :
    t.values.Pairwise fun v w => rank v ≤ rank w :=
  List.pairwise_map.2 t.sorted

theorem sorted_upTo (t : OrderedIndex rank key) (p : α → Bool) :
    (t.upTo p).Pairwise fun v w => rank v ≤ rank w :=
  t.sorted_values.sublist (List.takeWhile_sublist p)

/-- The initial part of a test that is closed downwards holds every value that satisfies it. -/
theorem mem_upTo (t : OrderedIndex rank key) {p : α → Bool}
    (hp : ∀ v w, rank v ≤ rank w → p w = true → p v = true) {v : α} :
    v ∈ t.upTo p ↔ v ∈ t.values ∧ p v = true := by
  unfold upTo
  have hsorted := t.sorted_values
  generalize t.values = values at hsorted ⊢
  induction values with
  | nil => simp
  | cons w ws ih =>
      rw [List.pairwise_cons] at hsorted
      have ih : v ∈ ws.takeWhile p ↔ v ∈ ws ∧ p v = true := ih hsorted.2
      by_cases hw : p w = true
      · rw [List.takeWhile_cons_of_pos hw, List.mem_cons, List.mem_cons, ih]
        constructor
        · rintro (rfl | hv)
          · exact ⟨Or.inl rfl, hw⟩
          · exact ⟨Or.inr hv.1, hv.2⟩
        · rintro ⟨rfl | hv, hpv⟩
          · exact Or.inl rfl
          · exact Or.inr ⟨hv, hpv⟩
      · rw [List.takeWhile_cons_of_neg hw]
        refine iff_of_false List.not_mem_nil ?_
        rintro ⟨hv, hpv⟩
        rcases List.mem_cons.1 hv with rfl | hv
        · exact hw hpv
        · exact hw (hp _ _ (hsorted.1 v hv) hpv)

/-- The first value has the least rank. -/
theorem head?_values_le {v w : α} (h : t.values.head? = some v)
    (hw : w ∈ t.values) : rank v ≤ rank w := by
  have hsorted := t.sorted_values
  cases hvalues : t.values with
  | nil =>
      rw [hvalues] at h
      cases h
  | cons u us =>
      rw [hvalues] at h hsorted hw
      cases h
      rcases List.mem_cons.1 hw with rfl | hw
      · exact le_rfl
      · exact (List.pairwise_cons.1 hsorted).1 w hw

end OrderedIndex
