import VoiceLife.Lib.Rfc8259

/-! # JSON Schema

`Valid schema value` is the meaning of the keywords for types, members and bounds; keywords that are not
known say nothing. `Closed schema value` adds that an object has no member beside the declared ones. Both are
conjunctions over the keywords of a schema, so the schema of a writer is read keyword by keyword.
-/

open DecimalText (Text ascii)
open Rfc8259 (Tree)

namespace JsonSchema

/-- The code points of a text in UTF-8: the bytes that begin one. -/
def codePoints (text : Text) : ℕ :=
  text.countP fun byte => byte &&& 0xC0 ≠ 0x80

/-- The value of a member of an object. -/
def member (name : Text) : Tree → Option Tree
  | .object members => members.lookup name
  | _ => none

/-- The names of the members of an object. -/
def memberNames : Tree → List Text
  | .object members => members.map Prod.fst
  | _ => []

/-- The keyword `type`. -/
def HasType (name : Text) : Tree → Prop
  | .null => name = ascii "null"
  | .bool _ => name = ascii "boolean"
  | .number value => name = ascii "number" ∨ (name = ascii "integer" ∧ ∃ integer : ℤ, value = integer)
  | .string _ => name = ascii "string"
  | .array _ => name = ascii "array"
  | .object _ => name = ascii "object"

/-- The keywords with a number. -/
def Bounded (keyword : Text) (bound : ℚ) : Tree → Prop
  | .number value =>
    (keyword = ascii "minimum" → bound ≤ value) ∧ (keyword = ascii "maximum" → value ≤ bound)
  | .string text =>
    (keyword = ascii "minLength" → bound ≤ codePoints text) ∧
      (keyword = ascii "maxLength" → codePoints text ≤ bound)
  | _ => True

/-- The keyword `required`. -/
def HasMembers (names : List Tree) : Tree → Prop
  | .object members => ∀ name, Tree.string name ∈ names → (members.lookup name).isSome = true
  | _ => True

mutual

/-- The value is as the schema says. -/
def Valid : Tree → Tree → Prop
  | .object keywords, value => AllValid keywords value
  | .bool allowed, _ => allowed = true
  | _, _ => True
termination_by structural schema => schema

/-- Every keyword is met. -/
def AllValid : List (Text × Tree) → Tree → Prop
  | [], _ => True
  | (keyword, argument) :: keywords, value => KeywordValid argument keyword value ∧ AllValid keywords value

/-- One keyword is met. -/
def KeywordValid : Tree → Text → Tree → Prop
  | .string name, keyword, value => keyword = ascii "type" → HasType name value
  | .number bound, keyword, value => Bounded keyword bound value
  | .array names, keyword, value => keyword = ascii "required" → HasMembers names value
  | .object fields, keyword, value => keyword = ascii "properties" → MembersValid fields value
  | _, _, _ => True

/-- Every member is as its schema says. -/
def MembersValid : List (Text × Tree) → Tree → Prop
  | [], _ => True
  | (name, schema) :: fields, value =>
    (∀ item, member name value = some item → Valid schema item) ∧ MembersValid fields value

end

mutual

/-- No object has a member that its schema does not declare. -/
def Closed : Tree → Tree → Prop
  | .object keywords, value => AllClosed keywords value
  | _, _ => True
termination_by structural schema => schema

/-- The declarations of a schema are its `properties`. -/
def AllClosed : List (Text × Tree) → Tree → Prop
  | [], _ => True
  | (keyword, argument) :: keywords, value => KeywordClosed argument keyword value ∧ AllClosed keywords value

/-- The members are declared, and so are theirs. -/
def KeywordClosed : Tree → Text → Tree → Prop
  | .object fields, keyword, value => keyword = ascii "properties" →
    (∀ name ∈ memberNames value, name ∈ fields.map Prod.fst) ∧ MembersClosed fields value
  | _, _, _ => True

/-- The members of every declared member are declared. -/
def MembersClosed : List (Text × Tree) → Tree → Prop
  | [], _ => True
  | (name, schema) :: fields, value =>
    (∀ item, member name value = some item → Closed schema item) ∧ MembersClosed fields value

end

/-! ## Rules -/

theorem allValid_append {keywords others : List (Text × Tree)} {value : Tree} :
    AllValid (keywords ++ others) value ↔ AllValid keywords value ∧ AllValid others value := by
  induction keywords with
  | nil => exact (and_iff_right trivial).symm
  | cons keyword keywords ih => rw [List.cons_append, AllValid, AllValid, ih, and_assoc]

theorem allClosed_append {keywords others : List (Text × Tree)} {value : Tree} :
    AllClosed (keywords ++ others) value ↔ AllClosed keywords value ∧ AllClosed others value := by
  induction keywords with
  | nil => exact (and_iff_right trivial).symm
  | cons keyword keywords ih => rw [List.cons_append, AllClosed, AllClosed, ih, and_assoc]

theorem membersValid_iff {fields : List (Text × Tree)} {value : Tree} :
    MembersValid fields value ↔
      ∀ field ∈ fields, ∀ item, member field.1 value = some item → Valid field.2 item := by
  induction fields with
  | nil => exact iff_of_true trivial (List.forall_mem_nil _)
  | cons field fields ih => rw [MembersValid, ih, List.forall_mem_cons]

theorem membersClosed_iff {fields : List (Text × Tree)} {value : Tree} :
    MembersClosed fields value ↔
      ∀ field ∈ fields, ∀ item, member field.1 value = some item → Closed field.2 item := by
  induction fields with
  | nil => exact iff_of_true trivial (List.forall_mem_nil _)
  | cons field fields ih => rw [MembersClosed, ih, List.forall_mem_cons]

end JsonSchema
