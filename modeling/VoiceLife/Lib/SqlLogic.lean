import Mathlib

/-! # SQL conditions

A nullable value is an option, and a condition is true, false or unknown. `WHERE` keeps the rows for
which its condition is true; a `CHECK` refuses the rows for which its condition is false. `LIKE` knows
two wildcards and does not tell the case of ASCII letters.
-/

namespace Sql

/-- True, false or unknown. -/
abbrev Truth := Option Bool

variable {α β : Type*}

/-- `x IS NULL`. -/
def isNull (x : Option α) : Truth :=
  some x.isNone

/-- A comparison is unknown as soon as one side is missing. -/
def compare (r : α → β → Bool) (x : Option α) (y : Option β) : Truth :=
  Option.map₂ r x y

/-- `x = y`. -/
def eq [DecidableEq α] : Option α → Option α → Truth :=
  compare fun a b => decide (a = b)

/-- `x <= y`. -/
def le [LE α] [DecidableLE α] : Option α → Option α → Truth :=
  compare fun a b => decide (a ≤ b)

/-- `x < y`. -/
def lt [LT α] [DecidableLT α] : Option α → Option α → Truth :=
  compare fun a b => decide (a < b)

/-- `AND`. -/
def and : Truth → Truth → Truth
  | some true, some true => some true
  | some false, _ => some false
  | _, some false => some false
  | _, _ => none

/-- `OR`. -/
def or : Truth → Truth → Truth
  | some false, some false => some false
  | some true, _ => some true
  | _, some true => some true
  | _, _ => none

/-- `NOT`. -/
def not : Truth → Truth :=
  Option.map Bool.not

/-- What `WHERE` and `WHEN` ask for. -/
def holds (condition : Truth) : Bool :=
  condition == some true

/-- What a `CHECK` asks for. -/
def allows (condition : Truth) : Bool :=
  condition != some false

@[simp] theorem holds_and (p q : Truth) : holds (and p q) = (holds p && holds q) := by
  rcases p with _ | _ | _ <;> rcases q with _ | _ | _ <;> rfl

@[simp] theorem holds_or (p q : Truth) : holds (or p q) = (holds p || holds q) := by
  rcases p with _ | _ | _ <;> rcases q with _ | _ | _ <;> rfl

@[simp] theorem holds_isNull (x : Option α) : holds (isNull x) = x.isNone := by
  cases x <;> rfl

@[simp] theorem holds_compare (r : α → β → Bool) (x : Option α) (y : Option β) :
    holds (compare r x y) = x.any fun a => y.any fun b => r a b := by
  cases x with
  | none => rfl
  | some a =>
      cases y with
      | none => rfl
      | some b => cases h : r a b <;> simp [compare, holds, h]

@[simp] theorem allows_and (p q : Truth) : allows (and p q) = (allows p && allows q) := by
  rcases p with _ | _ | _ <;> rcases q with _ | _ | _ <;> rfl

@[simp] theorem allows_or (p q : Truth) : allows (or p q) = (allows p || allows q) := by
  rcases p with _ | _ | _ <;> rcases q with _ | _ | _ <;> rfl

@[simp] theorem allows_isNull (x : Option α) : allows (isNull x) = x.isNone := by
  cases x <;> rfl

@[simp] theorem allows_not_isNull (x : Option α) : allows (not (isNull x)) = x.isSome := by
  cases x <;> rfl

@[simp] theorem allows_compare (r : α → β → Bool) (x : Option α) (y : Option β) :
    allows (compare r x y) = x.all fun a => y.all fun b => r a b := by
  cases x with
  | none => rfl
  | some a =>
      cases y with
      | none => rfl
      | some b => cases h : r a b <;> simp [compare, allows, h]

@[simp] theorem holds_eq [DecidableEq α] (x y : Option α) :
    holds (eq x y) = x.any fun a => y.any fun b => decide (a = b) :=
  holds_compare _ x y

@[simp] theorem holds_le [LE α] [DecidableLE α] (x y : Option α) :
    holds (le x y) = x.any fun a => y.any fun b => decide (a ≤ b) :=
  holds_compare _ x y

/-! ## Texts -/

/-- `lower`: ASCII letters in lower case. -/
def lower (text : List Char) : List Char :=
  text.map Char.toLower

/-- `text LIKE pattern`. -/
def like (text : List Char) : List Char → Bool
  | [] => text.isEmpty
  | c :: pattern =>
    if c = '%' then text.tails.any fun rest => like rest pattern
    else
      match text with
      | [] => false
      | d :: text => (c == '_' || c.toLower == d.toLower) && like text pattern

/-! ## Order and pages -/

/-- `ORDER BY` the columns of a key. -/
def orderBy {κ : Type*} [LinearOrder κ] (sortKey : α → κ) (rows : List α) : List α :=
  rows.insertionSort fun a b => sortKey a ≤ sortKey b

section

variable {κ κ' : Type*} [LinearOrder κ] [LinearOrder κ'] {f : α → κ} {g : α → κ'}

theorem orderBy_perm (f : α → κ) (rows : List α) : (orderBy f rows).Perm rows :=
  List.perm_insertionSort _ rows

theorem orderBy_pairwise (f : α → κ) (rows : List α) :
    (orderBy f rows).Pairwise fun a b => f a ≤ f b := by
  have htotal : Std.Total fun a b : α => f a ≤ f b := ⟨fun a b => le_total (f a) (f b)⟩
  have htrans : IsTrans α fun a b : α => f a ≤ f b := ⟨fun _ _ _ => le_trans⟩
  exact List.pairwise_insertionSort _ rows

/-- Ordering images is ordering by the key of the image. -/
theorem orderBy_map (f : β → κ) (g : α → β) (rows : List α) :
    orderBy f (rows.map g) = (orderBy (f ∘ g) rows).map g :=
  (List.map_insertionSort _ _ g rows fun _ _ _ _ => Iff.rfl).symm

/-- Two orders with unique keys give the same list exactly when they are for the same rows and agree on
every pair of them. -/
theorem orderBy_eq_iff {rows rows' : List α}
    (hf : ∀ a ∈ rows, ∀ b ∈ rows, f a = f b → a = b)
    (hg : ∀ a ∈ rows, ∀ b ∈ rows, g a = g b → a = b) :
    orderBy f rows = orderBy g rows' ↔
      rows.Perm rows' ∧ ∀ a ∈ rows, ∀ b ∈ rows, f a ≤ f b ↔ g a ≤ g b := by
  have hmem : ∀ {a}, a ∈ orderBy f rows ↔ a ∈ rows := (orderBy_perm f rows).mem_iff
  constructor
  · intro h
    refine ⟨((orderBy_perm f rows).symm.trans (List.Perm.of_eq h)).trans (orderBy_perm g rows'), ?_⟩
    have hsorted : (orderBy f rows).Pairwise fun a b => f a ≤ f b ∧ g a ≤ g b := by
      refine List.pairwise_and_iff.2 ⟨orderBy_pairwise f rows, ?_⟩
      rw [h]
      exact orderBy_pairwise g rows'
    have hpair : ∀ ⦃a⦄, a ∈ orderBy f rows → ∀ ⦃b⦄, b ∈ orderBy f rows →
        (f a ≤ f b ∧ g a ≤ g b) ∨ (f b ≤ f a ∧ g b ≤ g a) := by
      have hsymm : Std.Symm fun a b => (f a ≤ f b ∧ g a ≤ g b) ∨ (f b ≤ f a ∧ g b ≤ g a) :=
        ⟨fun _ _ => Or.symm⟩
      exact (hsorted.imp Or.inl).forall_of_forall fun _ _ => Or.inl ⟨le_rfl, le_rfl⟩
    intro a ha b hb
    rcases hpair (hmem.2 ha) (hmem.2 hb) with ⟨hfab, hgab⟩ | ⟨hfba, hgba⟩
    · exact ⟨fun _ => hgab, fun _ => hfab⟩
    · constructor
      · intro hfab
        rw [hf a ha b hb (le_antisymm hfab hfba)]
      · intro hgab
        rw [hg a ha b hb (le_antisymm hgab hgba)]
  · rintro ⟨hperm, hagree⟩
    have hsame := ((orderBy_perm f rows).trans hperm).trans (orderBy_perm g rows').symm
    have hsorted : (orderBy g rows').Pairwise fun a b => f a ≤ f b := by
      refine (orderBy_pairwise g rows').imp_of_mem fun ha hb hab => ?_
      exact (hagree _ (hmem.1 (hsame.mem_iff.2 ha)) _ (hmem.1 (hsame.mem_iff.2 hb))).2 hab
    refine List.Perm.eq_of_pairwise (fun a b ha hb hab hba => ?_) (orderBy_pairwise f rows) hsorted
      hsame
    exact hf a (hmem.1 ha) b (hmem.1 (hsame.mem_iff.2 hb)) (le_antisymm hab hba)

/-- Two orders that only differ in a leading rank, the highest rank first, agree exactly when the ranks
compare alike for every pair in the order of the other columns. -/
theorem ranked_alike_iff {rank rank' : α → ℤ} {p : α → Prop}
    (hf : ∀ a, p a → ∀ b, p b → f a = f b → a = b) :
    (∀ a, p a → ∀ b, p b →
      (toLex (-rank a, f a) ≤ toLex (-rank b, f b) ↔ toLex (-rank' a, f a) ≤ toLex (-rank' b, f b))) ↔
      ∀ a, p a → ∀ b, p b → f a < f b → (rank b ≤ rank a ↔ rank' b ≤ rank' a) := by
  have hbefore : ∀ {a b} (r : α → ℤ), f a < f b →
      (toLex (-r a, f a) ≤ toLex (-r b, f b) ↔ r b ≤ r a) := by
    intro a b r hlt
    rw [Prod.Lex.toLex_le_toLex, neg_lt_neg_iff, neg_inj, and_iff_left hlt.le, le_iff_lt_or_eq,
      eq_comm]
  have hafter : ∀ {a b} (r : α → ℤ), f b < f a →
      (toLex (-r a, f a) ≤ toLex (-r b, f b) ↔ ¬ r a ≤ r b) := by
    intro a b r hlt
    rw [Prod.Lex.toLex_le_toLex, neg_lt_neg_iff, not_le, or_iff_left fun h => hlt.not_ge h.2]
  constructor
  · intro h a ha b hb hlt
    have halike := h a ha b hb
    rwa [hbefore rank hlt, hbefore rank' hlt] at halike
  · intro h a ha b hb
    rcases lt_trichotomy (f a) (f b) with hlt | heq | hgt
    · rw [hbefore rank hlt, hbefore rank' hlt]
      exact h a ha b hb hlt
    · rw [hf a ha b hb heq]
      exact iff_of_true le_rfl le_rfl
    · rw [hafter rank hgt, hafter rank' hgt]
      exact not_congr (h b hb a ha hgt)

end

/-- `LIMIT limit OFFSET offset`: a negative limit is no limit. -/
def page (limit offset : ℤ) (rows : List α) : List α :=
  let rest := rows.drop offset.toNat
  if limit < 0 then rest else rest.take limit.toNat

theorem page_of_nonneg {limit : ℤ} (h : 0 ≤ limit) (offset : ℤ) (rows : List α) :
    page limit offset rows = (rows.drop offset.toNat).take limit.toNat := by
  rw [page, if_neg (not_lt.2 h)]

/-- The pages of one row tell a list that is not longer than the last offset. -/
theorem eq_of_pages {rows rows' : List α} {last : ℕ} (hlength : rows.length ≤ last)
    (hlength' : rows'.length ≤ last)
    (h : ∀ offset : ℕ, offset ≤ last → page 1 offset rows = page 1 offset rows') : rows = rows' := by
  refine List.ext_getElem? fun i => ?_
  rcases Nat.lt_or_ge last i with hlt | hle
  · rw [List.getElem?_eq_none (hlength.trans hlt.le), List.getElem?_eq_none (hlength'.trans hlt.le)]
  · have hpage := h i hle
    rw [page_of_nonneg zero_le_one, page_of_nonneg zero_le_one] at hpage
    have hhead : ∀ xs : List α, ((xs.drop (i : ℤ).toNat).take (1 : ℤ).toNat).head? = xs[i]? := by
      intro xs
      rw [List.head?_take, if_neg (by decide), Int.toNat_natCast, List.head?_drop]
    rw [← hhead rows, ← hhead rows', hpage]

end Sql
