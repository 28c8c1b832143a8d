import VoiceLife.Contracts.Status
import VoiceLife.Lib.JsonTexts

/-! # `json.h` and `json.cc`: JSON values and `ParseJson`

yyjson is a parameter: `JsonReader` reads a text with an allocation budget, and `FollowsRfc8259` is what
is relied on. The conversion of its document checks the budgets of the parse (`convertValue_ok_iff`), so
a text is parsed to the value it denotes or not at all.
-/

open DecimalText (Text ascii)
open Rfc8259 (Tree)

namespace VoiceLife.Contracts

/-! ## Values -/

/-- `JsonValue`. A number is a finite double; the members of an object are those of a `std::map`, in the
order of their keys. -/
inductive JsonValue where
  | null
  | bool (value : Bool)
  | number (value : ℚ)
  | string (value : Text)
  | array (items : List JsonValue)
  | object (members : List (Text × JsonValue))

/-- `operator<` of `std::string`. -/
def keyLess (left right : Text) : Prop :=
  left.map UInt8.toNat < right.map UInt8.toNat

instance (left right : Text) : Decidable (keyLess left right) :=
  inferInstanceAs (Decidable (_ < _))

/-- `insert_or_assign`. -/
def insertOrAssign {α : Type} (key : Text) (value : α) : List (Text × α) → List (Text × α)
  | [] => [(key, value)]
  | member :: members =>
    if keyLess key member.1 then (key, value) :: member :: members
    else if key = member.1 then (key, value) :: members
    else member :: insertOrAssign key value members

namespace JsonValue

/-- `IsObject`. -/
def isObject : JsonValue → Bool
  | .object _ => true
  | _ => false

/-- `Get`. -/
def get (value : JsonValue) (key : Text) : Option JsonValue :=
  match value with
  | .object members => members.lookup key
  | _ => none

mutual

/-- The members of every object inside are in the order of their keys. -/
def Ordered : JsonValue → Prop
  | .array items => OrderedItems items
  | .object members => members.Pairwise (fun left right => keyLess left.1 right.1) ∧ OrderedMembers members
  | _ => True

/-- `Ordered` for every item. -/
def OrderedItems : List JsonValue → Prop
  | [] => True
  | item :: items => item.Ordered ∧ OrderedItems items

/-- `Ordered` for the value of every member. -/
def OrderedMembers : List (Text × JsonValue) → Prop
  | [] => True
  | (_, value) :: members => value.Ordered ∧ OrderedMembers members

end

mutual

/-- The value that a tree stands for. -/
def ofTree : Tree → JsonValue
  | .null => .null
  | .bool value => .bool value
  | .number value => .number value
  | .string value => .string value
  | .array items => .array (ofTrees items)
  | .object members => .object (ofMembers members [])

/-- `ofTree` for every item. -/
def ofTrees : List Tree → List JsonValue
  | [] => []
  | item :: items => ofTree item :: ofTrees items

/-- The members join those that are there. -/
def ofMembers : List (Text × Tree) → List (Text × JsonValue) → List (Text × JsonValue)
  | [], values => values
  | (key, value) :: members, values => ofMembers members (insertOrAssign key (ofTree value) values)

end

end JsonValue

/-! ## `ParseJson` -/

/-- `JsonParseOptions`. -/
structure JsonParseOptions where
  maxBytes : ℕ := 32 * 1024
  maxDepth : ℕ := 32
  maxNodes : ℕ := 512
  maxObjectMembers : ℕ := 64
  maxArrayItems : ℕ := 32
  maxStringBytes : ℕ := 4096
  maxAllocatorBytes : ℕ := 128 * 1024

/-- `InvalidJson`. -/
def invalidJson {α : Type} (message : String) : Result α :=
  .failure .invalidArgument message

/-- `JsonResourceError`. -/
def jsonResourceError {α : Type} (message : String) : Result α :=
  .failure .unavailable message

/-- The checks at the start of `ConvertValue`, with the nodes counted so far. -/
def enterNode (options : JsonParseOptions) (depth nodes : ℕ) : Result ℕ :=
  if depth > options.maxDepth then invalidJson "JSON nesting depth exceeds limit"
  else if nodes + 1 > options.maxNodes then invalidJson "JSON node count exceeds limit"
  else .ok (nodes + 1)

mutual

/-- `ConvertValue`, with the nodes counted so far. -/
def convertValue (options : JsonParseOptions) : Tree → ℕ → ℕ → Result (JsonValue × ℕ)
  | .null, depth, nodes => do
    let nodes ← enterNode options depth nodes
    return (.null, nodes)
  | .bool value, depth, nodes => do
    let nodes ← enterNode options depth nodes
    return (.bool value, nodes)
  | .number value, depth, nodes => do
    let nodes ← enterNode options depth nodes
    return (.number value, nodes)
  | .string value, depth, nodes => do
    let nodes ← enterNode options depth nodes
    if value.length > options.maxStringBytes then invalidJson "JSON string exceeds limit"
    else return (.string value, nodes)
  | .array items, depth, nodes => do
    let nodes ← enterNode options depth nodes
    if items.length > options.maxArrayItems then invalidJson "JSON array item count exceeds limit"
    else
      let (values, nodes) ← convertItems options items (depth + 1) nodes
      return (.array values, nodes)
  | .object members, depth, nodes => do
    let nodes ← enterNode options depth nodes
    if members.length > options.maxObjectMembers then
      invalidJson "JSON object member count exceeds limit"
    else
      let (values, nodes) ← convertMembers options members (depth + 1) nodes []
      return (.object values, nodes)

/-- The loop over the items of an array. -/
def convertItems (options : JsonParseOptions) : List Tree → ℕ → ℕ → Result (List JsonValue × ℕ)
  | [], _, nodes => .ok ([], nodes)
  | item :: items, depth, nodes => do
    let (value, nodes) ← convertValue options item depth nodes
    let (values, nodes) ← convertItems options items depth nodes
    return (value :: values, nodes)

/-- The loop over the members of an object, with the map so far. -/
def convertMembers (options : JsonParseOptions) :
    List (Text × Tree) → ℕ → ℕ → List (Text × JsonValue) → Result (List (Text × JsonValue) × ℕ)
  | [], _, nodes, values => .ok (values, nodes)
  | (key, value) :: members, depth, nodes, values =>
    if key.length > options.maxStringBytes then invalidJson "JSON object key exceeds limit"
    else do
      let (converted, nodes) ← convertValue options value depth nodes
      convertMembers options members depth nodes (insertOrAssign key converted values)

end

/-- `yyjson_read_err`. -/
inductive JsonReadError where
  | memoryAllocation
  | other (message : Option String)

/-- `yyjson_read_opts` with a bounded allocator. -/
abbrev JsonReader := ℕ → Text → Except JsonReadError Tree

/-- `ParseJson`. -/
def parseJson (read : JsonReader) (input : Text) (options : JsonParseOptions := {}) : Result JsonValue :=
  if input.length > options.maxBytes then invalidJson "JSON document exceeds byte limit"
  else
    match read options.maxAllocatorBytes input with
    | .error .memoryAllocation => jsonResourceError "JSON allocator budget exceeded"
    | .error (.other message) => invalidJson (message.getD "Invalid JSON document")
    | .ok document => (convertValue options document 0 0).map Prod.fst

/-- What is relied on: the reader reads UTF-8 texts of the grammar, and no others. It takes the text and
16 bytes for each value, of which it first reserves one for each six bytes of the text; so the default
budget is enough for texts within the other limits. -/
structure FollowsRfc8259 (read : JsonReader) : Prop where
  reads : ∀ {text : Text} {tree : Tree}, Rfc8259.read text = some tree → IsUtf8 text →
    tree.Interoperable → text.length ≤ 32 * 1024 → tree.size ≤ 512 → read (128 * 1024) text = .ok tree
  refuses : ∀ {text : Text}, Rfc8259.read text = none → ∀ budget, ∃ error, read budget text = .error error

/-- A reader that is never short of memory. -/
def grammarReader : JsonReader := fun _ text =>
  match Rfc8259.read text with
  | some tree => .ok tree
  | none => .error (.other none)

theorem followsRfc8259_grammarReader : FollowsRfc8259 grammarReader where
  reads hread _ _ _ _ := by rw [grammarReader, hread]
  refuses hread _ := by
    rw [grammarReader, hread]
    exact ⟨_, rfl⟩

/-! ## The conversion -/

mutual

/-- The tree is within the limits on depth, lengths and counts. -/
def Fits (options : JsonParseOptions) : Tree → ℕ → Prop
  | .null, depth => depth ≤ options.maxDepth
  | .bool _, depth => depth ≤ options.maxDepth
  | .number _, depth => depth ≤ options.maxDepth
  | .string value, depth => depth ≤ options.maxDepth ∧ value.length ≤ options.maxStringBytes
  | .array items, depth =>
    depth ≤ options.maxDepth ∧ items.length ≤ options.maxArrayItems ∧ FitsItems options items (depth + 1)
  | .object members, depth =>
    depth ≤ options.maxDepth ∧ members.length ≤ options.maxObjectMembers ∧
      FitsMembers options members (depth + 1)

/-- `Fits` for every item. -/
def FitsItems (options : JsonParseOptions) : List Tree → ℕ → Prop
  | [], _ => True
  | item :: items, depth => Fits options item depth ∧ FitsItems options items depth

/-- `Fits` for every member. -/
def FitsMembers (options : JsonParseOptions) : List (Text × Tree) → ℕ → Prop
  | [], _ => True
  | (key, value) :: members, depth =>
    (key.length ≤ options.maxStringBytes ∧ Fits options value depth) ∧ FitsMembers options members depth

end

variable {options : JsonParseOptions}

theorem fitsMembers_iff {members : List (Text × Tree)} {depth : ℕ} :
    FitsMembers options members depth ↔
      ∀ member ∈ members, member.1.length ≤ options.maxStringBytes ∧ Fits options member.2 depth := by
  induction members with
  | nil => exact iff_of_true trivial (List.forall_mem_nil _)
  | cons member members ih => rw [FitsMembers, ih, List.forall_mem_cons]

theorem enterNode_eq_ok {depth nodes nodes' : ℕ} : enterNode options depth nodes = .ok nodes' ↔
    (depth ≤ options.maxDepth ∧ nodes + 1 ≤ options.maxNodes) ∧ nodes' = nodes + 1 := by
  unfold enterNode
  by_cases hdepth : depth > options.maxDepth
  · rw [if_pos hdepth]
    refine iff_of_false (fun h => ?_) fun h => absurd h.1.1 (not_le.2 hdepth)
    cases h
  · rw [if_neg hdepth]
    by_cases hnodes : nodes + 1 > options.maxNodes
    · rw [if_pos hnodes]
      refine iff_of_false (fun h => ?_) fun h => absurd h.1.2 (not_le.2 hnodes)
      cases h
    · rw [if_neg hnodes, Except.ok.injEq]
      exact ⟨fun h => ⟨⟨not_lt.1 hdepth, not_lt.1 hnodes⟩, h.symm⟩, fun h => h.2.symm⟩

/-- What is checked behind the start of `ConvertValue`. -/
theorem enterNode_bind_eq_ok {α : Type} {depth nodes : ℕ} {f : ℕ → Result α} {b : α} :
    (enterNode options depth nodes >>= f) = .ok b ↔
      (depth ≤ options.maxDepth ∧ nodes + 1 ≤ options.maxNodes) ∧ f (nodes + 1) = .ok b := by
  rw [bind_eq_ok]
  constructor
  · rintro ⟨nodes', hnodes, h⟩
    obtain ⟨hfits, rfl⟩ := enterNode_eq_ok.1 hnodes
    exact ⟨hfits, h⟩
  · rintro ⟨hfits, h⟩
    exact ⟨nodes + 1, enterNode_eq_ok.2 ⟨hfits, rfl⟩, h⟩

/-- `convertValue` works on this tree as it should. -/
def Converts (options : JsonParseOptions) (tree : Tree) : Prop :=
  ∀ depth nodes result, convertValue options tree depth nodes = .ok result ↔
    (Fits options tree depth ∧ nodes + tree.size ≤ options.maxNodes) ∧
      result = (JsonValue.ofTree tree, nodes + tree.size)

theorem convertItems_ok_iff {items : List Tree} (h : ∀ item ∈ items, Converts options item)
    (depth nodes : ℕ) (hnodes : nodes ≤ options.maxNodes) (result : List JsonValue × ℕ) :
    convertItems options items depth nodes = .ok result ↔
      (FitsItems options items depth ∧ nodes + Tree.sizeItems items ≤ options.maxNodes) ∧
        result = (JsonValue.ofTrees items, nodes + Tree.sizeItems items) := by
  induction items generalizing nodes result with
  | nil =>
      rw [convertItems, Except.ok.injEq, FitsItems, Tree.sizeItems, JsonValue.ofTrees, Nat.add_zero]
      exact ⟨fun heq => ⟨⟨trivial, hnodes⟩, heq.symm⟩, fun heq => heq.2.symm⟩
  | cons item items ih =>
      have hitem := h item List.mem_cons_self
      have hitems := fun nodes hnodes => ih (fun other hmem => h other (List.mem_cons_of_mem _ hmem)) nodes hnodes
      rw [convertItems, FitsItems, Tree.sizeItems, JsonValue.ofTrees, bind_eq_ok]
      constructor
      · rintro ⟨first, hfirst, hrest⟩
        obtain ⟨⟨hfits, hsize⟩, rfl⟩ := (hitem depth nodes first).1 hfirst
        obtain ⟨rest, hconverted, hresult⟩ := bind_eq_ok.1 hrest
        obtain ⟨⟨hfitsRest, hsizeRest⟩, rfl⟩ := (hitems _ hsize rest).1 hconverted
        cases hresult
        rw [Nat.add_assoc] at hsizeRest
        exact ⟨⟨⟨hfits, hfitsRest⟩, hsizeRest⟩, by rw [Nat.add_assoc]⟩
      · rintro ⟨⟨⟨hfits, hfitsRest⟩, hsize⟩, rfl⟩
        have hfirst : nodes + item.size ≤ options.maxNodes := by omega
        refine ⟨_, (hitem depth nodes _).2 ⟨⟨hfits, hfirst⟩, rfl⟩, ?_⟩
        refine bind_eq_ok.2 ⟨_, (hitems _ hfirst _).2 ⟨⟨hfitsRest, by omega⟩, rfl⟩, ?_⟩
        rw [Nat.add_assoc]
        rfl

theorem convertMembers_ok_iff {members : List (Text × Tree)}
    (h : ∀ member ∈ members, Converts options member.2) (depth nodes : ℕ)
    (hnodes : nodes ≤ options.maxNodes) (values : List (Text × JsonValue))
    (result : List (Text × JsonValue) × ℕ) :
    convertMembers options members depth nodes values = .ok result ↔
      (FitsMembers options members depth ∧ nodes + Tree.sizeMembers members ≤ options.maxNodes) ∧
        result = (JsonValue.ofMembers members values, nodes + Tree.sizeMembers members) := by
  induction members generalizing nodes values result with
  | nil =>
      rw [convertMembers, Except.ok.injEq, FitsMembers, Tree.sizeMembers, JsonValue.ofMembers,
        Nat.add_zero]
      exact ⟨fun heq => ⟨⟨trivial, hnodes⟩, heq.symm⟩, fun heq => heq.2.symm⟩
  | cons member members ih =>
      obtain ⟨key, value⟩ := member
      have hvalue := h (key, value) List.mem_cons_self
      have hmembers := fun nodes hnodes =>
        ih (fun other hmem => h other (List.mem_cons_of_mem _ hmem)) nodes hnodes
      rw [convertMembers, FitsMembers, Tree.sizeMembers, JsonValue.ofMembers]
      by_cases hkey : key.length > options.maxStringBytes
      · rw [if_pos hkey]
        refine iff_of_false (fun hok => ?_) fun hfits => absurd hfits.1.1.1.1 (not_le.2 hkey)
        cases hok
      · rw [if_neg hkey, bind_eq_ok]
        constructor
        · rintro ⟨first, hfirst, hrest⟩
          obtain ⟨⟨hfits, hsize⟩, rfl⟩ := (hvalue depth nodes first).1 hfirst
          obtain ⟨⟨hfitsRest, hsizeRest⟩, rfl⟩ := (hmembers _ hsize _ result).1 hrest
          rw [Nat.add_assoc] at hsizeRest
          exact ⟨⟨⟨⟨not_lt.1 hkey, hfits⟩, hfitsRest⟩, hsizeRest⟩, by rw [Nat.add_assoc]⟩
        · rintro ⟨⟨⟨⟨-, hfits⟩, hfitsRest⟩, hsize⟩, rfl⟩
          have hfirst : nodes + value.size ≤ options.maxNodes := by omega
          refine ⟨_, (hvalue depth nodes _).2 ⟨⟨hfits, hfirst⟩, rfl⟩, ?_⟩
          refine (hmembers _ hfirst _ _).2 ⟨⟨hfitsRest, by omega⟩, ?_⟩
          rw [Nat.add_assoc]

theorem leaf_ok_iff {depth nodes : ℕ} {value : JsonValue} {result : JsonValue × ℕ} :
    (enterNode options depth nodes >>= fun nodes => pure (value, nodes)) = .ok result ↔
      (depth ≤ options.maxDepth ∧ nodes + 1 ≤ options.maxNodes) ∧ result = (value, nodes + 1) := by
  rw [enterNode_bind_eq_ok]
  refine and_congr_right fun _ => ?_
  show Except.ok (value, nodes + 1) = Except.ok result ↔ _
  rw [Except.ok.injEq, eq_comm]

/-- A tree is converted if and only if it is within the limits. -/
theorem convertValue_ok_iff (tree : Tree) : Converts options tree := by
  induction tree with
  | null =>
      intro depth nodes result
      rw [convertValue, Fits, Tree.size, JsonValue.ofTree]
      exact leaf_ok_iff
  | bool value =>
      intro depth nodes result
      rw [convertValue, Fits, Tree.size, JsonValue.ofTree]
      exact leaf_ok_iff
  | number value =>
      intro depth nodes result
      rw [convertValue, Fits, Tree.size, JsonValue.ofTree]
      exact leaf_ok_iff
  | string value =>
      intro depth nodes result
      rw [convertValue, Fits, Tree.size, JsonValue.ofTree]
      by_cases hlength : value.length > options.maxStringBytes
      · simp only [if_pos hlength, enterNode_bind_eq_ok]
        refine iff_of_false (fun h => ?_) fun h => absurd h.1.1.2 (not_le.2 hlength)
        cases h.2
      · simp only [if_neg hlength]
        rw [leaf_ok_iff, and_iff_left (not_lt.1 hlength)]
  | array items ih =>
      intro depth nodes result
      rw [convertValue, enterNode_bind_eq_ok, Fits, Tree.size, JsonValue.ofTree]
      by_cases hlength : items.length > options.maxArrayItems
      · rw [if_pos hlength]
        refine iff_of_false (fun h => ?_) fun h => absurd h.1.1.2.1 (not_le.2 hlength)
        cases h.2
      · rw [if_neg hlength, bind_eq_ok]
        constructor
        · rintro ⟨⟨hdepth, hnodes⟩, values, hvalues, hresult⟩
          obtain ⟨⟨hfits, hsize⟩, rfl⟩ := (convertItems_ok_iff ih _ _ hnodes values).1 hvalues
          cases hresult
          rw [Nat.add_assoc] at hsize
          exact ⟨⟨⟨hdepth, not_lt.1 hlength, hfits⟩, hsize⟩, by rw [Nat.add_assoc]⟩
        · rintro ⟨⟨⟨hdepth, -, hfits⟩, hsize⟩, rfl⟩
          have hnodes : nodes + 1 ≤ options.maxNodes := by omega
          refine ⟨⟨hdepth, hnodes⟩, _, (convertItems_ok_iff ih _ _ hnodes _).2 ⟨⟨hfits, by omega⟩, rfl⟩, ?_⟩
          rw [← Nat.add_assoc]
          rfl
  | object members ih =>
      intro depth nodes result
      rw [convertValue, enterNode_bind_eq_ok, Fits, Tree.size, JsonValue.ofTree]
      by_cases hlength : members.length > options.maxObjectMembers
      · rw [if_pos hlength]
        refine iff_of_false (fun h => ?_) fun h => absurd h.1.1.2.1 (not_le.2 hlength)
        cases h.2
      · rw [if_neg hlength, bind_eq_ok]
        constructor
        · rintro ⟨⟨hdepth, hnodes⟩, values, hvalues, hresult⟩
          obtain ⟨⟨hfits, hsize⟩, rfl⟩ := (convertMembers_ok_iff ih _ _ hnodes _ values).1 hvalues
          cases hresult
          rw [Nat.add_assoc] at hsize
          exact ⟨⟨⟨hdepth, not_lt.1 hlength, hfits⟩, hsize⟩, by rw [Nat.add_assoc]⟩
        · rintro ⟨⟨⟨hdepth, -, hfits⟩, hsize⟩, rfl⟩
          have hnodes : nodes + 1 ≤ options.maxNodes := by omega
          refine ⟨⟨hdepth, hnodes⟩, _,
            (convertMembers_ok_iff ih _ _ hnodes _ _).2 ⟨⟨hfits, by omega⟩, rfl⟩, ?_⟩
          rw [← Nat.add_assoc]
          rfl

/-! ## Maps -/

theorem keyLess_irrefl (key : Text) : ¬keyLess key key :=
  lt_irrefl _

theorem keyLess_asymm {left right : Text} (h : keyLess left right) : ¬keyLess right left :=
  lt_asymm h

/-- A new key is added to those that are there. -/
theorem insertOrAssign_perm {α : Type} {key : Text} {members : List (Text × α)}
    (h : key ∉ members.map Prod.fst) (value : α) :
    (insertOrAssign key value members).Perm ((key, value) :: members) := by
  induction members with
  | nil => exact List.Perm.refl _
  | cons member members ih =>
      rw [List.map_cons, List.mem_cons, not_or] at h
      rw [insertOrAssign]
      by_cases hless : keyLess key member.1
      · rw [if_pos hless]
      · rw [if_neg hless, if_neg h.1]
        exact ((ih h.2).cons member).trans (List.Perm.swap _ _ _)

/-- A key behind all others is added at the end. -/
theorem insertOrAssign_last {α : Type} {key : Text} {members : List (Text × α)}
    (h : ∀ member ∈ members, keyLess member.1 key) (value : α) :
    insertOrAssign key value members = members ++ [(key, value)] := by
  induction members with
  | nil => rfl
  | cons member members ih =>
      have hmember := h member List.mem_cons_self
      have hne : key ≠ member.1 := by
        intro heq
        rw [heq] at hmember
        exact keyLess_irrefl _ hmember
      rw [insertOrAssign, if_neg (keyLess_asymm hmember), if_neg hne,
        ih fun other hmem => h other (List.mem_cons_of_mem _ hmem)]
      rfl

namespace JsonValue

theorem ofTrees_eq_map (items : List Tree) : ofTrees items = items.map ofTree := by
  induction items with
  | nil => rfl
  | cons item items ih => rw [ofTrees, ih, List.map_cons]

theorem ofMembers_perm {members : List (Text × Tree)} {values : List (Text × JsonValue)}
    (h : (values.map Prod.fst ++ members.map Prod.fst).Nodup) :
    (ofMembers members values).Perm (values ++ members.map fun member => (member.1, ofTree member.2)) := by
  induction members generalizing values with
  | nil =>
      rw [ofMembers, List.map_nil, List.append_nil]
  | cons member members ih =>
      obtain ⟨key, value⟩ := member
      have hkey : key ∉ values.map Prod.fst := by
        intro hmem
        exact (List.nodup_append.1 h).2.2 key hmem key List.mem_cons_self rfl
      have hperm := insertOrAssign_perm hkey (ofTree value)
      have hnodup : ((insertOrAssign key (ofTree value) values).map Prod.fst ++
          members.map Prod.fst).Nodup := by
        refine (((hperm.map Prod.fst).append_right _).nodup_iff).2 ?_
        rw [List.map_cons] at h ⊢
        exact (List.nodup_middle).1 h
      rw [ofMembers, List.map_cons]
      refine (ih hnodup).trans ((hperm.append_right _).trans ?_)
      exact List.perm_middle.symm

/-- Members that are in order stay as they are. -/
theorem ofMembers_of_pairwise {members : List (Text × Tree)} {values : List (Text × JsonValue)}
    (h : (values ++ members.map fun member => (member.1, ofTree member.2)).Pairwise
      fun left right => keyLess left.1 right.1) :
    ofMembers members values = values ++ members.map fun member => (member.1, ofTree member.2) := by
  induction members generalizing values with
  | nil => rw [ofMembers, List.map_nil, List.append_nil]
  | cons member members ih =>
      obtain ⟨key, value⟩ := member
      rw [List.map_cons] at h ⊢
      have hlast : ∀ other ∈ values, keyLess other.1 key := fun other hmem =>
        (List.pairwise_append.1 h).2.2 other hmem _ List.mem_cons_self
      rw [ofMembers, insertOrAssign_last hlast, ih]
      · rw [List.append_assoc]
        rfl
      · rw [List.append_assoc]
        exact h

theorem lookup_eq_some_iff_mem {α : Type} {members : List (Text × α)} (h : (members.map Prod.fst).Nodup)
    {key : Text} {value : α} : members.lookup key = some value ↔ (key, value) ∈ members := by
  induction members with
  | nil => exact iff_of_false (by simp) List.not_mem_nil
  | cons member members ih =>
      obtain ⟨key', value'⟩ := member
      rw [List.map_cons, List.nodup_cons] at h
      by_cases hkey : key = key'
      · subst hkey
        rw [List.lookup_cons_self, Option.some.injEq, List.mem_cons, Prod.mk.injEq]
        constructor
        · exact fun heq => .inl ⟨rfl, heq.symm⟩
        · rintro (⟨-, heq⟩ | hmem)
          · exact heq.symm
          · exact absurd (List.mem_map_of_mem hmem) h.1
      · rw [List.lookup_cons, beq_eq_false_iff_ne.2 hkey, List.mem_cons, Prod.mk.injEq]
        show members.lookup key = some value ↔ _
        rw [ih h.2, or_iff_right fun heq => hkey heq.1]

/-- The order of the members does not matter to a look-up. -/
theorem lookup_of_perm {α : Type} {members others : List (Text × α)} (h : members.Perm others)
    (hnodup : (others.map Prod.fst).Nodup) (key : Text) : members.lookup key = others.lookup key := by
  have hnodup' : (members.map Prod.fst).Nodup := ((h.map Prod.fst).nodup_iff).2 hnodup
  apply Option.ext
  intro value
  rw [lookup_eq_some_iff_mem hnodup', lookup_eq_some_iff_mem hnodup,
    h.mem_iff]

/-- A member of an object that was read. -/
theorem get_ofTree_object {members : List (Text × Tree)} (h : (members.map Prod.fst).Nodup) (key : Text) :
    (ofTree (.object members)).get key = (members.map fun member => (member.1, ofTree member.2)).lookup key := by
  have hperm := @ofMembers_perm members [] h
  rw [ofTree, get]
  apply lookup_of_perm hperm
  rw [List.nil_append, List.map_map]
  exact h

end JsonValue

/-! ## The parse -/

/-- A text that denotes a value is parsed to it if and only if it is within the limits. -/
theorem parseJson_ok_iff {read : JsonReader} (hread : FollowsRfc8259 read) {text : Text} {tree : Tree}
    (h : Rfc8259.Denotes text tree) (hutf8 : IsUtf8 text) (hinteroperable : tree.Interoperable)
    (hsize : tree.size ≤ 512) {value : JsonValue} : parseJson read text = .ok value ↔
      (text.length ≤ 32 * 1024 ∧ Fits {} tree 0) ∧ value = .ofTree tree := by
  unfold parseJson
  by_cases hlength : text.length > ({} : JsonParseOptions).maxBytes
  · rw [if_pos hlength]
    refine iff_of_false (fun hok => ?_) fun hok => absurd hok.1.1 (not_le.2 hlength)
    cases hok
  · have hdocument : read ({} : JsonParseOptions).maxAllocatorBytes text = .ok tree :=
      hread.reads h.read hutf8 hinteroperable (not_lt.1 hlength) hsize
    have hroot := @convertValue_ok_iff {} tree 0 0
    rw [if_neg hlength, hdocument]
    show (convertValue {} tree 0 0).map Prod.fst = .ok value ↔ _
    constructor
    · intro hok
      cases hconverted : convertValue {} tree 0 0 with
      | error status =>
          rw [hconverted] at hok
          cases hok
      | ok result =>
          rw [hconverted] at hok
          obtain ⟨⟨hfits, -⟩, rfl⟩ := (hroot result).1 hconverted
          cases hok
          exact ⟨⟨not_lt.1 hlength, hfits⟩, rfl⟩
    · rintro ⟨⟨-, hfits⟩, rfl⟩
      rw [(hroot _).2 ⟨⟨hfits, by rw [Nat.zero_add]; exact hsize⟩, rfl⟩]
      rfl

/-- A JSON text within the default limits of the parse. -/
def WithinDefaultLimits (text : Text) : Prop :=
  text.length ≤ 32 * 1024 ∧ ∃ tree, Rfc8259.read text = some tree ∧ Fits {} tree 0 ∧ tree.size ≤ 512

theorem parseJson_denotes {read : JsonReader} (hread : FollowsRfc8259 read) {text : Text} {tree : Tree}
    (h : Rfc8259.Denotes text tree) (hutf8 : IsUtf8 text) (hinteroperable : tree.Interoperable)
    (hlimits : WithinDefaultLimits text) : parseJson read text = .ok (.ofTree tree) := by
  obtain ⟨hlength, tree', htree, hfits, hsize⟩ := hlimits
  rw [h.read, Option.some.injEq] at htree
  rw [← htree] at hfits hsize
  exact (parseJson_ok_iff hread h hutf8 hinteroperable hsize).2 ⟨⟨hlength, hfits⟩, rfl⟩

/-- A text outside the grammar is refused. -/
theorem parseJson_refuses {read : JsonReader} (hread : FollowsRfc8259 read) {text : Text}
    (h : Rfc8259.read text = none) (value : JsonValue) : parseJson read text ≠ .ok value := by
  obtain ⟨error, herror⟩ := hread.refuses h (128 * 1024)
  intro hok
  unfold parseJson at hok
  rw [herror] at hok
  split at hok
  · cases hok
  · cases error <;> cases hok

end VoiceLife.Contracts
