import VoiceLife.Lib.JsonValue

/-! # `shared/json.ts`: the fingerprint of a request

`canonicalizeJson` writes equal text for two values exactly if they are the same value up to the order
of fields. The text is read back from the left: the first code unit tells the kind of a value, and a
value ends before a comma, a closing bracket or the end.
-/

namespace VoiceLife.Gateway

/-- `join(',')`. -/
def joinComma : List JsString → JsString
  | [] => []
  | [text] => text
  | text :: texts => text ++ 44 :: joinComma texts

/-- The order of keys in `sort()`. -/
def keyLe {α : Type*} (left right : JsString × α) : Prop :=
  left.1 ≤ right.1

instance {α : Type*} : DecidableRel (keyLe (α := α)) :=
  fun left right => inferInstanceAs (Decidable (left.1 ≤ right.1))

/-- The text of one field. -/
def fieldText (field : JsString × JsString) : JsString :=
  quoteJson field.1 ++ 58 :: field.2

mutual

/-- `canonicalizeJson`: JSON text without spaces, the keys of objects sorted. -/
def canonicalizeJson : JsonValue → JsString
  | .null => js "null"
  | .bool true => js "true"
  | .bool false => js "false"
  | .number value => value.text
  | .string value => quoteJson value
  | .array items => 91 :: (joinComma (canonicalizeItems items) ++ [93])
  | .object fields =>
    123 :: (joinComma (((canonicalizeFields fields).insertionSort keyLe).map fieldText) ++ [125])

/-- The texts of the items. -/
def canonicalizeItems : List JsonValue → List JsString
  | [] => []
  | item :: items => canonicalizeJson item :: canonicalizeItems items

/-- The keys with the texts of their values. -/
def canonicalizeFields : List (JsString × JsonValue) → List (JsString × JsString)
  | [] => []
  | (key, value) :: fields => (key, canonicalizeJson value) :: canonicalizeFields fields

end

theorem canonicalizeItems_eq (items : List JsonValue) :
    canonicalizeItems items = items.map canonicalizeJson := by
  induction items with
  | nil => rfl
  | cons item items ih => rw [canonicalizeItems, ih, List.map_cons]

theorem canonicalizeFields_eq (fields : List (JsString × JsonValue)) :
    canonicalizeFields fields = fields.map fun field => (field.1, canonicalizeJson field.2) := by
  induction fields with
  | nil => rfl
  | cons field fields ih => rw [canonicalizeFields, ih, List.map_cons]

theorem sorted_canonicalizeFields (fields : List (JsString × JsonValue)) :
    (canonicalizeFields fields).insertionSort keyLe =
      (fields.insertionSort keyLe).map fun field => (field.1, canonicalizeJson field.2) := by
  rw [canonicalizeFields_eq]
  exact (List.map_insertionSort keyLe keyLe
    (fun field : JsString × JsonValue => (field.1, canonicalizeJson field.2)) fields
    fun _ _ _ _ => Iff.rfl).symm

/-! ## Where a text ends -/

/-- What may follow a value: nothing, a comma or a closing bracket. -/
def Stops (rest : JsString) : Prop :=
  ∀ unit, rest.head? = some unit → unit = 44 ∨ unit = 93 ∨ unit = 125

theorem stops_nil : Stops [] := by
  intro unit h
  cases h

theorem stops_cons {unit : CodeUnit} {rest : JsString}
    (h : unit = 44 ∨ unit = 93 ∨ unit = 125) : Stops (unit :: rest) := by
  intro other hother
  rw [List.head?_cons, Option.some.injEq] at hother
  rwa [← hother]

theorem Stops.not_number {rest : JsString} (h : Stops rest) (unit : CodeUnit)
    (hunit : rest.head? = some unit) : JsNumber.isNumberUnit unit = false := by
  rcases h unit hunit with rfl | rfl | rfl <;> rfl

/-- Joined texts before a closing bracket are read back one by one. -/
theorem joinComma_append_inj {α β : Type*} {R : α → β → Prop} {left : α → JsString}
    {right : β → JsString} {close : CodeUnit} (hclose : close = 93 ∨ close = 125) {as : List α}
    {bs : List β} (hleft : ∀ a ∈ as, ∃ unit rest, left a = unit :: rest ∧ unit ≠ close)
    (hright : ∀ b ∈ bs, ∃ unit rest, right b = unit :: rest ∧ unit ≠ close)
    (hread : ∀ a ∈ as, ∀ b ∈ bs, ∀ rest rest', Stops rest → Stops rest' →
      left a ++ rest = right b ++ rest' → R a b ∧ rest = rest') {rest rest' : JsString}
    (h : joinComma (as.map left) ++ close :: rest = joinComma (bs.map right) ++ close :: rest') :
    List.Forall₂ R as bs ∧ rest = rest' := by
  have hstop : ∀ tail, Stops (close :: tail) := fun tail => stops_cons (Or.inr hclose)
  have hcomma : ∀ tail, Stops (44 :: tail) := fun tail => stops_cons (Or.inl rfl)
  have hne : (44 : CodeUnit) ≠ close := by rcases hclose with rfl | rfl <;> decide
  induction as generalizing bs with
  | nil =>
      cases bs with
      | nil => exact ⟨.nil, (List.cons.inj h).2⟩
      | cons b bs =>
          obtain ⟨unit, tail, hb, hunit⟩ := hright b List.mem_cons_self
          cases bs <;>
            · simp only [List.map_nil, List.map_cons, joinComma, hb, List.nil_append,
                List.cons_append, List.append_assoc, List.cons.injEq] at h
              exact absurd h.1.symm hunit
  | cons a as ih =>
      cases bs with
      | nil =>
          obtain ⟨unit, tail, ha, hunit⟩ := hleft a List.mem_cons_self
          cases as <;>
            · simp only [List.map_nil, List.map_cons, joinComma, ha, List.nil_append,
                List.cons_append, List.append_assoc, List.cons.injEq] at h
              exact absurd h.1 hunit
      | cons b bs =>
          have hab := hread a List.mem_cons_self b List.mem_cons_self
          cases as with
          | nil =>
              cases bs with
              | nil =>
                  obtain ⟨hr, htail⟩ := hab _ _ (hstop rest) (hstop rest') h
                  exact ⟨.cons hr .nil, (List.cons.inj htail).2⟩
              | cons b' bs =>
                  simp only [List.map_cons, List.map_nil, joinComma, List.append_assoc,
                    List.cons_append] at h
                  obtain ⟨-, htail⟩ := hab _ _ (hstop rest) (hcomma _) h
                  exact absurd (List.cons.inj htail).1.symm hne
          | cons a' as =>
              cases bs with
              | nil =>
                  simp only [List.map_cons, List.map_nil, joinComma, List.append_assoc,
                    List.cons_append] at h
                  obtain ⟨-, htail⟩ := hab _ _ (hcomma _) (hstop rest') h
                  exact absurd (List.cons.inj htail).1 hne
              | cons b' bs =>
                  simp only [List.map_cons, joinComma, List.append_assoc, List.cons_append] at h
                  obtain ⟨hr, htail⟩ := hab _ _ (hcomma _) (hcomma _) h
                  obtain ⟨hrest, hend⟩ := ih
                    (fun c hc => hleft c (List.mem_cons_of_mem a hc))
                    (fun c hc => hright c (List.mem_cons_of_mem b hc))
                    (fun c hc d hd => hread c (List.mem_cons_of_mem a hc) d
                      (List.mem_cons_of_mem b hd))
                    (by simpa only [List.map_cons] using (List.cons.inj htail).2)
                  exact ⟨.cons hr hrest, hend⟩

/-! ## Equal texts are texts of the same value -/

/-- The kind of a value. -/
def kind : JsonValue → ℕ
  | .null => 0
  | .bool true => 1
  | .bool false => 2
  | .number _ => 3
  | .string _ => 4
  | .array _ => 5
  | .object _ => 6

/-- The kind of value whose text starts with a code unit. -/
def kindOfHead (unit : CodeUnit) : ℕ :=
  if unit = 110 then 0
  else if unit = 116 then 1
  else if unit = 102 then 2
  else if unit = 34 then 4
  else if unit = 91 then 5
  else if unit = 123 then 6
  else 3

theorem numberText_head (number : JsNumber) :
    ∃ unit rest, number.text = unit :: rest ∧ JsNumber.isNumberUnit unit = true := by
  have hne : number.text ≠ [] := by
    unfold JsNumber.text
    split_ifs with hzero hneg
    · exact List.cons_ne_nil _ _
    · exact List.cons_ne_nil _ _
    · obtain ⟨unit, rest, htext, -⟩ := JsNumber.positiveText_head
        (JsNumber.digitUnits_allDigits number.mantissa.natAbs)
        (JsNumber.digitUnits_ne_nil (Int.natAbs_ne_zero.2 hzero))
        ((JsNumber.digitUnits number.mantissa.natAbs).length + number.exponent)
      dsimp only
      rw [htext]
      exact List.cons_ne_nil _ _
  obtain ⟨unit, rest, htext⟩ := List.exists_cons_of_ne_nil hne
  exact ⟨unit, rest, htext, number.text_isNumberUnit (by rw [htext]; exact List.mem_cons_self)⟩

/-- The first code unit of a text tells the kind of the value and closes nothing. -/
theorem canonicalizeJson_head (value : JsonValue) :
    ∃ unit rest, canonicalizeJson value = unit :: rest ∧ kindOfHead unit = kind value ∧
      unit ≠ 93 := by
  match value with
  | .null => exact ⟨110, js "ull", rfl, rfl, by decide⟩
  | .bool true => exact ⟨116, js "rue", rfl, rfl, by decide⟩
  | .bool false => exact ⟨102, js "alse", rfl, rfl, by decide⟩
  | .number number =>
      obtain ⟨unit, rest, htext, hunit⟩ := numberText_head number
      have hhead : ∀ other : CodeUnit, JsNumber.isNumberUnit other = false → unit ≠ other := by
        rintro other hother rfl
        rw [hunit] at hother
        cases hother
      refine ⟨unit, rest, htext, ?_, hhead 93 rfl⟩
      unfold kindOfHead
      rw [if_neg (hhead 110 rfl), if_neg (hhead 116 rfl), if_neg (hhead 102 rfl),
        if_neg (hhead 34 rfl), if_neg (hhead 91 rfl), if_neg (hhead 123 rfl)]
      rfl
  | .string text => exact ⟨34, _, rfl, rfl, by decide⟩
  | .array items => exact ⟨91, _, rfl, rfl, by decide⟩
  | .object fields => exact ⟨123, _, rfl, rfl, by decide⟩

/-- Texts that agree up to an end have the same kind of value. -/
theorem kind_eq_of_append_eq {left right : JsonValue} {rest rest' : JsString}
    (h : canonicalizeJson left ++ rest = canonicalizeJson right ++ rest') :
    kind left = kind right := by
  obtain ⟨unit, tail, hl, hkind, -⟩ := canonicalizeJson_head left
  obtain ⟨unit', tail', hr, hkind', -⟩ := canonicalizeJson_head right
  rw [hl, hr, List.cons_append, List.cons_append] at h
  rw [← hkind, ← hkind', (List.cons.inj h).1]

/-- The texts of two fields agree only if the keys do. -/
theorem fieldText_append {key : JsString} {value : JsonValue} {rest : JsString} :
    fieldText (key, canonicalizeJson value) ++ rest =
      quoteJson key ++ (58 :: (canonicalizeJson value ++ rest)) := by
  simp [fieldText]

theorem exists_of_forall₂ {α β : Type*} {R : α → β → Prop} {as : List α} {bs : List β}
    (h : List.Forall₂ R as bs) {a : α} (ha : a ∈ as) : ∃ b ∈ bs, R a b := by
  induction h with
  | nil => exact absurd ha List.not_mem_nil
  | cons hab _ ih =>
      rcases List.mem_cons.1 ha with rfl | ha
      · exact ⟨_, List.mem_cons_self, hab⟩
      · obtain ⟨b, hb, hr⟩ := ih ha
        exact ⟨b, List.mem_cons_of_mem _ hb, hr⟩

/-- Equal texts belong to the same value and end at the same place. -/
theorem same_of_append_eq (left right : JsonValue) {rest rest' : JsString} (hrest : Stops rest)
    (hrest' : Stops rest') (h : canonicalizeJson left ++ rest = canonicalizeJson right ++ rest') :
    left.Same right ∧ rest = rest' := by
  have hkind := kind_eq_of_append_eq h
  match left, right with
  | .null, .null => exact ⟨trivial, List.append_cancel_left h⟩
  | .bool true, .bool true => exact ⟨rfl, List.append_cancel_left h⟩
  | .bool false, .bool false => exact ⟨rfl, List.append_cancel_left h⟩
  | .number number, .number number' =>
      exact JsNumber.text_append_inj hrest.not_number hrest'.not_number h
  | .string text, .string text' => exact quoteJson_append_inj h
  | .array items, .array items' =>
      simp only [canonicalizeJson, canonicalizeItems_eq, List.cons_append, List.append_assoc,
        List.nil_append, List.cons.injEq, true_and] at h
      have hhead : ∀ item : JsonValue, ∃ unit rest, canonicalizeJson item = unit :: rest ∧
          unit ≠ 93 := by
        intro item
        obtain ⟨unit, tail, htext, -, hunit⟩ := canonicalizeJson_head item
        exact ⟨unit, tail, htext, hunit⟩
      have hread : ∀ a ∈ items, ∀ b ∈ items', ∀ tail tail', Stops tail → Stops tail' →
          canonicalizeJson a ++ tail = canonicalizeJson b ++ tail' → a.Same b ∧ tail = tail' :=
        fun a _ b _ tail tail' htail htail' hab => same_of_append_eq a b htail htail' hab
      obtain ⟨hall, hend⟩ := joinComma_append_inj (Or.inl rfl) (fun a _ => hhead a)
        (fun b _ => hhead b) hread h
      exact ⟨JsonValue.sameItems_iff.2 hall, hend⟩
  | .object fields, .object fields' =>
      simp only [canonicalizeJson, sorted_canonicalizeFields, List.map_map, List.cons_append,
        List.append_assoc, List.nil_append, List.cons.injEq, true_and] at h
      have hhead : ∀ field : JsString × JsonValue, ∃ unit rest,
          (fieldText ∘ fun field => (field.1, canonicalizeJson field.2)) field = unit :: rest ∧
            unit ≠ 125 := fun field => ⟨34, _, rfl, by decide⟩
      have hread : ∀ a ∈ fields.insertionSort keyLe, ∀ b ∈ fields'.insertionSort keyLe,
          ∀ tail tail', Stops tail → Stops tail' →
            (fieldText ∘ fun field => (field.1, canonicalizeJson field.2)) a ++ tail =
              (fieldText ∘ fun field => (field.1, canonicalizeJson field.2)) b ++ tail' →
              (a.1 = b.1 ∧ a.2.Same b.2) ∧ tail = tail' := by
        intro a ha b _ tail tail' htail htail' hab
        have ha' : a ∈ fields := (List.mem_insertionSort keyLe).1 ha
        rw [Function.comp_apply, Function.comp_apply, fieldText_append, fieldText_append] at hab
        obtain ⟨hkey, hvalue⟩ := quoteJson_append_inj hab
        obtain ⟨hsame, hend⟩ := same_of_append_eq a.2 b.2 htail htail' (List.cons.inj hvalue).2
        exact ⟨⟨hkey, hsame⟩, hend⟩
      obtain ⟨hall, hend⟩ := joinComma_append_inj (Or.inr rfl) (fun a _ => hhead a)
        (fun b _ => hhead b) hread h
      refine ⟨⟨?_, JsonValue.sameFields_iff.2 ?_⟩, hend⟩
      · simpa only [List.length_insertionSort] using hall.length_eq
      · intro field hfield
        obtain ⟨other, hother, hkey, hsame⟩ := exists_of_forall₂ hall
          ((List.mem_insertionSort keyLe).2 hfield)
        refine ⟨other.2, ?_, hsame⟩
        rw [hkey]
        exact (List.mem_insertionSort keyLe).1 hother
termination_by sizeOf left
decreasing_by
  · exact Nat.lt_trans (List.sizeOf_lt_of_mem ‹_›) (by simp)
  · have hfield := List.sizeOf_lt_of_mem ha'
    have hvalue : sizeOf a.2 < sizeOf a := by
      cases a
      simp
    simp only [JsonValue.object.sizeOf_spec]
    omega

/-! ## The same value has one text -/

/-- Sorting forgets the order of fields with different keys. -/
theorem insertionSort_eq_of_subset {left right : List (JsString × JsString)}
    (hl : (left.map Prod.fst).Nodup) (hr : (right.map Prod.fst).Nodup)
    (hlen : left.length = right.length) (hsub : ∀ field ∈ left, field ∈ right) :
    left.insertionSort keyLe = right.insertionSort keyLe := by
  have hperm : left.Perm right := by
    have hnodup : left.Nodup := List.Nodup.of_map _ hl
    exact (hnodup.subperm hsub).perm_of_length_le hlen.ge
  have htotal : Std.Total (keyLe (α := JsString)) := ⟨fun a b => le_total a.1 b.1⟩
  have htrans : IsTrans _ (keyLe (α := JsString)) := ⟨fun a b c => le_trans (a := a.1)⟩
  refine List.Perm.eq_of_pairwise ?_ (List.pairwise_insertionSort keyLe left)
    (List.pairwise_insertionSort keyLe right)
    (((List.perm_insertionSort keyLe left).trans hperm).trans
      (List.perm_insertionSort keyLe right).symm)
  intro a b ha hb hab hba
  have ha' : a ∈ right := hsub a ((List.mem_insertionSort keyLe).1 ha)
  have hb' : b ∈ right := (List.mem_insertionSort keyLe).1 hb
  exact List.inj_on_of_nodup_map hr ha' hb' (le_antisymm hab hba)

theorem map_eq_of_forall₂ {α β γ : Type*} {R : α → β → Prop} {f : α → γ} {g : β → γ} {as : List α}
    {bs : List β} (h : List.Forall₂ R as bs) (hfg : ∀ a ∈ as, ∀ b ∈ bs, R a b → f a = g b) :
    as.map f = bs.map g := by
  induction h with
  | nil => rfl
  | @cons a b as bs hab _ ih =>
      rw [List.map_cons, List.map_cons, hfg a List.mem_cons_self b List.mem_cons_self hab,
        ih fun c hc d hd => hfg c (List.mem_cons_of_mem a hc) d (List.mem_cons_of_mem b hd)]

theorem canonicalizeJson_eq_of_same (left right : JsonValue) (hl : left.WellFormed)
    (hr : right.WellFormed) (h : left.Same right) :
    canonicalizeJson left = canonicalizeJson right := by
  match left, right with
  | .null, .null => rfl
  | .bool value, .bool value' =>
      have hvalue : value = value' := h
      rw [hvalue]
  | .number number, .number number' =>
      have hnumber : number = number' := h
      rw [hnumber]
  | .string text, .string text' =>
      have htext : text = text' := h
      rw [htext]
  | .array items, .array items' =>
      have hall := JsonValue.sameItems_iff.1 h
      have hwl := JsonValue.wellFormedItems_iff.1 hl
      have hwr := JsonValue.wellFormedItems_iff.1 hr
      simp only [canonicalizeJson, canonicalizeItems_eq]
      rw [map_eq_of_forall₂ hall fun a ha b hb hab =>
        canonicalizeJson_eq_of_same a b (hwl a ha) (hwr b hb) hab]
  | .object fields, .object fields' =>
      have hfields := JsonValue.sameFields_iff.1 h.2
      have hwl := JsonValue.wellFormedFields_iff.1 hl.2
      have hwr := JsonValue.wellFormedFields_iff.1 hr.2
      simp only [canonicalizeJson, canonicalizeFields_eq]
      rw [insertionSort_eq_of_subset]
      · rw [List.map_map]
        exact hl.1
      · rw [List.map_map]
        exact hr.1
      · rw [List.length_map, List.length_map]
        exact h.1
      · intro field hfield
        obtain ⟨a, ha, rfl⟩ := List.mem_map.1 hfield
        obtain ⟨other, hother, hsame⟩ := hfields a ha
        refine List.mem_map.2 ⟨(a.1, other), hother, ?_⟩
        rw [canonicalizeJson_eq_of_same a.2 other (hwl a ha) (hwr _ hother) hsame]
termination_by sizeOf left
decreasing_by
  · exact Nat.lt_trans (List.sizeOf_lt_of_mem ha) (by simp)
  · have hfield := List.sizeOf_lt_of_mem ha
    have hvalue : sizeOf a.2 < sizeOf a := by
      cases a
      simp
    simp only [JsonValue.object.sizeOf_spec]
    omega

/-- The text is a fingerprint: equal exactly for the same value up to the order of fields. -/
theorem canonicalizeJson_eq_iff (left right : Json) :
    canonicalizeJson left.value = canonicalizeJson right.value ↔ left.value.Same right.value := by
  constructor
  · intro h
    have happend : canonicalizeJson left.value ++ [] = canonicalizeJson right.value ++ [] := by
      rw [h]
    exact (same_of_append_eq left.value right.value stops_nil stops_nil happend).1
  · exact canonicalizeJson_eq_of_same left.value right.value left.wellFormed right.wellFormed

end VoiceLife.Gateway
