import VoiceLife.Contracts.Json

/-! # Values and the trees of their texts

A writer turns a value into a text, which denotes a tree; its numbers may have changed on the way.
`ofTree_toTree_iff` says when the conversion of that tree gives the value back.
-/

open DecimalText (Text)
open Rfc8259 (Tree)

namespace VoiceLife.Contracts

namespace JsonValue

/-- Induction over a value: every item and the value of every member is covered. -/
@[elab_as_elim, induction_eliminator]
theorem induction {motive : Contracts.JsonValue → Prop} (null : motive .null)
    (bool : ∀ value, motive (.bool value)) (number : ∀ value, motive (.number value))
    (string : ∀ value, motive (.string value))
    (array : ∀ items, (∀ item ∈ items, motive item) → motive (.array items))
    (object : ∀ members, (∀ member ∈ members, motive member.2) → motive (.object members))
    (value : Contracts.JsonValue) : motive value :=
  @JsonValue.rec motive (fun items => ∀ item ∈ items, motive item)
    (fun members => ∀ member ∈ members, motive member.2) (fun member => motive member.2)
    null bool number string array object
    (List.forall_mem_nil _) (fun _ _ hhead htail => List.forall_mem_cons.2 ⟨hhead, htail⟩)
    (List.forall_mem_nil _) (fun _ _ hhead htail => List.forall_mem_cons.2 ⟨hhead, htail⟩)
    (fun _ _ hvalue => hvalue) value

mutual

/-- Every number and every text inside, keys included, is of a kind. -/
def All (numbers : ℚ → Prop) (texts : Text → Prop) : Contracts.JsonValue → Prop
  | .null => True
  | .bool _ => True
  | .number value => numbers value
  | .string value => texts value
  | .array items => AllItems numbers texts items
  | .object members => AllMembers numbers texts members

/-- `All` for every item. -/
def AllItems (numbers : ℚ → Prop) (texts : Text → Prop) : List Contracts.JsonValue → Prop
  | [] => True
  | item :: items => All numbers texts item ∧ AllItems numbers texts items

/-- `All` for every member. -/
def AllMembers (numbers : ℚ → Prop) (texts : Text → Prop) : List (Text × Contracts.JsonValue) → Prop
  | [] => True
  | (key, value) :: members => (texts key ∧ All numbers texts value) ∧ AllMembers numbers texts members

end

mutual

/-- The tree of a value whose numbers are written as others. -/
def toTree (write : ℚ → ℚ) : Contracts.JsonValue → Tree
  | .null => .null
  | .bool value => .bool value
  | .number value => .number (write value)
  | .string value => .string value
  | .array items => .array (toTrees write items)
  | .object members => .object (toMembers write members)

/-- `toTree` for every item. -/
def toTrees (write : ℚ → ℚ) : List Contracts.JsonValue → List Tree
  | [] => []
  | item :: items => toTree write item :: toTrees write items

/-- `toTree` for every member. -/
def toMembers (write : ℚ → ℚ) : List (Text × Contracts.JsonValue) → List (Text × Tree)
  | [] => []
  | (key, value) :: members => (key, toTree write value) :: toMembers write members

end

/-! ## Lists -/

variable {numbers : ℚ → Prop} {texts : Text → Prop} {write : ℚ → ℚ}

theorem allItems_iff {items : List Contracts.JsonValue} :
    AllItems numbers texts items ↔ ∀ item ∈ items, All numbers texts item := by
  induction items with
  | nil => exact iff_of_true trivial (List.forall_mem_nil _)
  | cons item items ih => rw [AllItems, ih, List.forall_mem_cons]

theorem allMembers_iff {members : List (Text × Contracts.JsonValue)} :
    AllMembers numbers texts members ↔
      ∀ member ∈ members, texts member.1 ∧ All numbers texts member.2 := by
  induction members with
  | nil => exact iff_of_true trivial (List.forall_mem_nil _)
  | cons member members ih => rw [AllMembers, ih, List.forall_mem_cons]

theorem orderedItems_iff {items : List Contracts.JsonValue} :
    OrderedItems items ↔ ∀ item ∈ items, item.Ordered := by
  induction items with
  | nil => exact iff_of_true trivial (List.forall_mem_nil _)
  | cons item items ih => rw [OrderedItems, ih, List.forall_mem_cons]

theorem orderedMembers_iff {members : List (Text × Contracts.JsonValue)} :
    OrderedMembers members ↔ ∀ member ∈ members, member.2.Ordered := by
  induction members with
  | nil => exact iff_of_true trivial (List.forall_mem_nil _)
  | cons member members ih => rw [OrderedMembers, ih, List.forall_mem_cons]

theorem toTrees_eq_map (items : List Contracts.JsonValue) :
    toTrees write items = items.map (toTree write) := by
  induction items with
  | nil => rfl
  | cons item items ih => rw [toTrees, ih, List.map_cons]

theorem toMembers_eq_map (members : List (Text × Contracts.JsonValue)) :
    toMembers write members = members.map fun member => (member.1, toTree write member.2) := by
  induction members with
  | nil => rfl
  | cons member members ih => rw [toMembers, ih, List.map_cons]

theorem map_eq_self_iff {α : Type} {items : List α} {f : α → α} :
    items.map f = items ↔ ∀ item ∈ items, f item = item := by
  conv_lhs => rw [← List.map_id items, List.map_map]
  exact List.map_inj_left

theorem nodup_of_pairwise {members : List (Text × Contracts.JsonValue)}
    (h : members.Pairwise fun left right => keyLess left.1 right.1) :
    (members.map Prod.fst).Nodup := by
  refine List.pairwise_map.2 (h.imp fun {left right} hless heq => ?_)
  rw [heq] at hless
  exact keyLess_irrefl _ hless

theorem All.imp {numbers' : ℚ → Prop} {texts' : Text → Prop} {value : Contracts.JsonValue}
    (h : value.All numbers texts) (hnumbers : ∀ number, numbers number → numbers' number)
    (htexts : ∀ text, texts text → texts' text) : value.All numbers' texts' := by
  induction value with
  | null => exact trivial
  | bool value => exact trivial
  | number value => exact hnumbers value h
  | string value => exact htexts value h
  | array items ih =>
      rw [All, allItems_iff] at h ⊢
      exact fun item hmem => ih item hmem (h item hmem)
  | object members ih =>
      rw [All, allMembers_iff] at h ⊢
      exact fun member hmem => ⟨htexts _ (h member hmem).1, ih member hmem (h member hmem).2⟩

theorem All.and {numbers' : ℚ → Prop} {texts' : Text → Prop} {value : Contracts.JsonValue}
    (h : value.All numbers texts) (h' : value.All numbers' texts') :
    value.All (fun number => numbers number ∧ numbers' number) fun text => texts text ∧ texts' text := by
  induction value with
  | null => exact trivial
  | bool value => exact trivial
  | number value => exact ⟨h, h'⟩
  | string value => exact ⟨h, h'⟩
  | array items ih =>
      rw [All, allItems_iff] at h h' ⊢
      exact fun item hmem => ih item hmem (h item hmem) (h' item hmem)
  | object members ih =>
      rw [All, allMembers_iff] at h h' ⊢
      exact fun member hmem => ⟨⟨(h member hmem).1, (h' member hmem).1⟩,
        ih member hmem (h member hmem).2 (h' member hmem).2⟩

/-! ## There and back -/

/-- The value comes back if and only if every number does. -/
theorem ofTree_toTree_iff {value : Contracts.JsonValue} (h : value.Ordered) :
    ofTree (toTree write value) = value ↔ value.All (fun number => write number = number) fun _ => True := by
  induction value with
  | null => exact iff_of_true rfl trivial
  | bool value => exact iff_of_true rfl trivial
  | number value =>
      rw [toTree, ofTree, All, JsonValue.number.injEq]
  | string value => exact iff_of_true rfl trivial
  | array items ih =>
      rw [Ordered, orderedItems_iff] at h
      rw [toTree, ofTree, All, JsonValue.array.injEq, ofTrees_eq_map, toTrees_eq_map, List.map_map,
        map_eq_self_iff, allItems_iff]
      exact forall₂_congr fun item hmem => ih item hmem (h item hmem)
  | object members ih =>
      rw [Ordered, orderedMembers_iff] at h
      obtain ⟨hkeys, hvalues⟩ := h
      have hpairwise : List.Pairwise (fun left right => keyLess left.1 right.1)
          ([] ++ (toMembers write members).map fun member => (member.1, ofTree member.2)) := by
        rw [List.nil_append, toMembers_eq_map, List.map_map]
        exact List.pairwise_map.2 hkeys
      rw [toTree, ofTree, All, JsonValue.object.injEq, ofMembers_of_pairwise hpairwise, List.nil_append,
        toMembers_eq_map, List.map_map, map_eq_self_iff, allMembers_iff]
      refine forall₂_congr fun member hmem => ?_
      rw [true_and, ← ih member hmem (hvalues member hmem)]
      show (member.1, ofTree (toTree write member.2)) = member ↔ _
      exact ⟨fun heq => congrArg Prod.snd heq, fun heq => Prod.ext rfl heq⟩

/-- The tree is interoperable if the numbers that are written are. -/
theorem interoperable_toTree {value : Contracts.JsonValue} (h : value.Ordered)
    (hnumbers : value.All (fun number => Rfc8259.IsDouble (write number)) texts) :
    (toTree write value).Interoperable := by
  induction value with
  | null => exact trivial
  | bool value => exact trivial
  | number value => exact hnumbers
  | string value => exact trivial
  | array items ih =>
      rw [Ordered, orderedItems_iff] at h
      rw [All, allItems_iff] at hnumbers
      rw [toTree, Tree.Interoperable, Tree.interoperableItems_iff, toTrees_eq_map]
      intro tree htree
      obtain ⟨item, hmem, rfl⟩ := List.mem_map.1 htree
      exact ih item hmem (h item hmem) (hnumbers item hmem)
  | object members ih =>
      rw [Ordered, orderedMembers_iff] at h
      rw [All, allMembers_iff] at hnumbers
      rw [toTree, Tree.Interoperable, Tree.interoperableMembers_iff, toMembers_eq_map, List.map_map]
      refine ⟨nodup_of_pairwise h.1, fun other hother => ?_⟩
      obtain ⟨member, hmem, rfl⟩ := List.mem_map.1 hother
      exact ih member hmem (h.2 member hmem) (hnumbers member hmem).2

end JsonValue

/-! ## Optional fields -/

/-- The members for the fields that are there. -/
def presentMembers {α : Type} (fields : List (Text × Option α)) : List (Text × α) :=
  fields.filterMap fun field => field.2.map (Prod.mk field.1)

theorem map_presentMembers {α β : Type} (f : α → β) (fields : List (Text × Option α)) :
    (presentMembers fields).map (fun member => (member.1, f member.2)) =
      presentMembers (fields.map fun field => (field.1, field.2.map f)) := by
  induction fields with
  | nil => rfl
  | cons field fields ih =>
      obtain ⟨key, value⟩ := field
      cases value with
      | none => exact ih
      | some value => exact congrArg ((key, f value) :: ·) ih

theorem sublist_keys {α : Type} (fields : List (Text × Option α)) :
    ((presentMembers fields).map Prod.fst).Sublist (fields.map Prod.fst) := by
  induction fields with
  | nil => exact List.Sublist.refl _
  | cons field fields ih =>
      obtain ⟨key, value⟩ := field
      cases value with
      | none => exact ih.cons key
      | some value => exact ih.cons_cons key

/-- A field is looked up as it is. -/
theorem lookup_presentMembers {α : Type} {fields : List (Text × Option α)}
    (h : (fields.map Prod.fst).Nodup) {key : Text} {value : Option α} (hfield : (key, value) ∈ fields) :
    (presentMembers fields).lookup key = value := by
  induction fields with
  | nil => exact absurd hfield List.not_mem_nil
  | cons field fields ih =>
      rw [List.map_cons, List.nodup_cons] at h
      rcases List.mem_cons.1 hfield with rfl | hmem
      · cases value with
        | none =>
            show (presentMembers fields).lookup key = none
            rw [List.lookup_eq_none_iff]
            intro member hmember
            rw [bne_iff_ne]
            rintro rfl
            exact h.1 ((sublist_keys fields).subset (List.mem_map_of_mem hmember))
        | some value => exact List.lookup_cons_self
      · have hne : (key == field.1) = false := by
          rw [beq_eq_false_iff_ne]
          rintro rfl
          exact h.1 (List.mem_map.2 ⟨_, hmem, rfl⟩)
        obtain ⟨key', value'⟩ := field
        cases value' with
        | none => exact ih h.2 hmem
        | some value' =>
            show List.lookup key ((key', value') :: presentMembers fields) = value
            rw [List.lookup_cons, hne]
            exact ih h.2 hmem

theorem mem_presentMembers {α : Type} {fields : List (Text × Option α)} {member : Text × α} :
    member ∈ presentMembers fields ↔ (member.1, some member.2) ∈ fields := by
  rw [presentMembers, List.mem_filterMap]
  constructor
  · rintro ⟨⟨key, value⟩, hmem, hvalue⟩
    obtain ⟨found, rfl, rfl⟩ := Option.map_eq_some_iff.1 hvalue
    exact hmem
  · exact fun hmem => ⟨_, hmem, rfl⟩

/-- A field of an object that was written and read again. -/
theorem get_ofTree_toTree {fields : List (Text × Option Contracts.JsonValue)} {write : ℚ → ℚ}
    (h : (fields.map Prod.fst).Nodup) {key : Text} {value : Option Contracts.JsonValue}
    (hfield : (key, value) ∈ fields) :
    (JsonValue.ofTree (JsonValue.toTree write (.object (presentMembers fields)))).get key =
      value.map fun value => JsonValue.ofTree (JsonValue.toTree write value) := by
  have hnodup : ((presentMembers fields).map Prod.fst).Nodup := h.sublist (sublist_keys fields)
  have hmap := map_presentMembers (fun value => JsonValue.ofTree (JsonValue.toTree write value)) fields
  have hkeys : ((fields.map fun field => (field.1, field.2.map fun value =>
      JsonValue.ofTree (JsonValue.toTree write value))).map Prod.fst).Nodup := by
    rw [List.map_map]
    exact h
  rw [JsonValue.toTree, JsonValue.toMembers_eq_map, JsonValue.get_ofTree_object, List.map_map]
  · refine (congrArg (List.lookup key) hmap).trans (lookup_presentMembers hkeys ?_)
    exact List.mem_map.2 ⟨_, hfield, rfl⟩
  · rw [List.map_map]
    exact hnodup

/-- The tree of an object with optional fields. -/
theorem interoperable_presentMembers {fields : List (Text × Option Contracts.JsonValue)} {write : ℚ → ℚ}
    (h : (fields.map Prod.fst).Nodup)
    (hvalues : ∀ field ∈ fields, ∀ value ∈ field.2, (JsonValue.toTree write value).Interoperable) :
    (JsonValue.toTree write (.object (presentMembers fields))).Interoperable := by
  rw [JsonValue.toTree, Tree.Interoperable, Tree.interoperableMembers_iff, JsonValue.toMembers_eq_map,
    List.map_map]
  refine ⟨h.sublist (sublist_keys fields), fun other hother => ?_⟩
  obtain ⟨member, hmem, rfl⟩ := List.mem_map.1 hother
  exact hvalues _ (mem_presentMembers.1 hmem) member.2 rfl

end VoiceLife.Contracts
