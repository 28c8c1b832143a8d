import VoiceLife.Gateway.Actions
import VoiceLife.Lib.JsonSource
import VoiceLife.Lib.PrintfG

/-! # `wechat-official-outbound-support.ts`: the message id of an API response

`readWechatApiResponse` parses a response twice: `JSON.parse` gives its values, and a scanner of its own finds
the source of the member `msgid`, which may have more digits than a number keeps. A position in the text is
the rest of the text from there on.
-/

open JsonSource (Value IsValue IsChars Blank Element Member joinTexts)

namespace VoiceLife.Gateway

/-- What a scan throws. -/
inductive WechatError where
  | protocolError (message : String)
  | syntaxError
  deriving DecidableEq

/-- `raw.slice`. -/
def slice (start stop : JsString) : JsString :=
  start.take (start.length - stop.length)

/-- `String.prototype.trim`. -/
def trim (text : JsString) : JsString :=
  ((text.dropWhile isTrimmed).reverse.dropWhile isTrimmed).reverse

/-- `skipWhitespace`. -/
def skipWhitespace (start : JsString) : JsString :=
  start.dropWhile isTrimmed

/-- The loop of `readJsonStringEnd`. -/
def stringEnd : JsString → Except WechatError JsString
  | [] => .error (.protocolError "WeChat API returned an invalid JSON string")
  | unit :: rest =>
    if unit = 92 then
      match rest with
      | [] => .error (.protocolError "WeChat API returned an invalid JSON string")
      | _ :: rest => stringEnd rest
    else if unit = 34 then .ok rest
    else stringEnd rest

/-- `readJsonStringEnd`. -/
def readJsonStringEnd (start : JsString) : Except WechatError JsString :=
  stringEnd start.tail

theorem stringEnd_lt {text rest : JsString} (h : stringEnd text = .ok rest) : rest.length < text.length := by
  induction text using stringEnd.induct with
  | case1 => cases h
  | case2 => cases h
  | case3 unit tail ih =>
      rw [stringEnd.eq_def] at h
      exact (ih h).trans (Nat.lt_succ_of_lt (Nat.lt_succ_self _))
  | case4 tail =>
      rw [stringEnd.eq_def] at h
      cases h
      exact Nat.lt_succ_self _
  | case5 unit tail hslash hquote ih =>
      rw [stringEnd.eq_def] at h
      dsimp only at h
      rw [if_neg hslash, if_neg hquote] at h
      exact (ih h).trans (Nat.lt_succ_self _)

/-- The stack after one unit. -/
def nextStack (unit : CodeUnit) (stack : List CodeUnit) : List CodeUnit :=
  let stack := if unit = 123 ∨ unit = 91 then unit :: stack else stack
  if unit = 125 ∨ unit = 93 then stack.tail else stack

/-- The loop of `skipJsonValue` over brackets. -/
def skipBrackets (stack : List CodeUnit) (start : JsString) : Except WechatError JsString :=
  match stack, start with
  | [], start => .ok start
  | _ :: _, [] => .error (.protocolError "WeChat API returned an invalid JSON value")
  | top :: stack, unit :: rest =>
    if unit = 34 then
      match h : stringEnd rest with
      | .ok next => skipBrackets (top :: stack) next
      | .error error => .error error
    else skipBrackets (nextStack unit (top :: stack)) rest
termination_by start.length
decreasing_by
  · exact Nat.lt_succ_of_lt (stringEnd_lt h)
  · exact Nat.lt_succ_self _

/-- `skipJsonValue`. -/
def skipJsonValue (start : JsString) : Except WechatError JsString :=
  match start with
  | [] => .ok []
  | unit :: rest =>
    if unit = 34 then readJsonStringEnd (unit :: rest)
    else if unit ≠ 123 ∧ unit ≠ 91 then .ok ((unit :: rest).dropWhile fun other => other ≠ 44 && other ≠ 125)
    else skipBrackets [unit] rest

theorem skipBrackets_le {stack : List CodeUnit} {start stop : JsString} (h : skipBrackets stack start = .ok stop) :
    stop.length ≤ start.length := by
  induction stack, start using skipBrackets.induct with
  | case1 start =>
      rw [skipBrackets] at h
      cases h
      exact le_rfl
  | case2 top stack =>
      rw [skipBrackets] at h
      cases h
  | case3 top stack rest next hnext ih =>
      rw [skipBrackets, if_pos rfl, hnext] at h
      exact (ih h).trans ((stringEnd_lt hnext).le.trans (Nat.le_succ _))
  | case4 top stack rest error herror =>
      rw [skipBrackets, if_pos rfl, herror] at h
      cases h
  | case5 top stack unit rest hquote ih =>
      rw [skipBrackets, if_neg hquote] at h
      exact (ih h).trans (Nat.le_succ _)

theorem skipJsonValue_le {start stop : JsString} (h : skipJsonValue start = .ok stop) :
    stop.length ≤ start.length := by
  cases start with
  | nil =>
      cases h
      exact le_rfl
  | cons unit rest =>
      unfold skipJsonValue at h
      dsimp only at h
      split_ifs at h
      · exact (stringEnd_lt h).le.trans (Nat.le_succ _)
      · cases h
        exact (List.dropWhile_suffix _).length_le
      · exact (skipBrackets_le h).trans (Nat.le_succ _)

theorem skipWhitespace_le (start : JsString) : (skipWhitespace start).length ≤ start.length :=
  (List.dropWhile_suffix _).length_le

/-- `key === property`. -/
def isKey (property : JsString) : Value → Bool
  | .string key => key = property
  | _ => false

/-- The white space and the comma in front of the next member. -/
def nextMember (valueEnd : JsString) : JsString :=
  let index := skipWhitespace valueEnd
  if index.head? = some 44 then skipWhitespace index.tail else index

theorem nextMember_le (valueEnd : JsString) : (nextMember valueEnd).length ≤ valueEnd.length := by
  have hskip := skipWhitespace_le valueEnd
  unfold nextMember
  dsimp only
  split_ifs
  · have htail := skipWhitespace_le (skipWhitespace valueEnd).tail
    rw [List.length_tail] at htail
    omega
  · exact hskip

/-- The loop of `topLevelJsonProperty`. -/
def propertyLoop (property : JsString) (start : JsString) : Except WechatError (Option JsString) :=
  match start with
  | [] => .ok none
  | unit :: rest =>
    if unit = 125 then .ok none
    else if unit ≠ 34 then .error (.protocolError "WeChat API returned an invalid object")
    else
      match hkey : readJsonStringEnd (unit :: rest) with
      | .error error => .error error
      | .ok keyEnd =>
        match JsonSource.parse (slice (unit :: rest) keyEnd) with
        | none => .error .syntaxError
        | some key =>
          let index := skipWhitespace keyEnd
          if index.head? ≠ some 58 then .error (.protocolError "WeChat API returned an invalid object")
          else
            match hvalue : skipJsonValue (skipWhitespace index.tail) with
            | .error error => .error error
            | .ok valueEnd =>
              if isKey property key then .ok (some (trim (slice (skipWhitespace index.tail) valueEnd)))
              else propertyLoop property (nextMember valueEnd)
termination_by start.length
decreasing_by
  have h1 := nextMember_le valueEnd
  have h2 := skipJsonValue_le hvalue
  have h3 := skipWhitespace_le index.tail
  have h4 : index.length ≤ keyEnd.length := skipWhitespace_le keyEnd
  have h5 := stringEnd_lt hkey
  rw [List.length_tail] at h3
  rw [List.tail_cons] at h5
  rw [List.length_cons]
  omega

/-- `topLevelJsonProperty`. -/
def topLevelJsonProperty (raw property : JsString) : Except WechatError (Option JsString) :=
  let index := skipWhitespace raw
  if index.head? ≠ some 123 then .ok none
  else propertyLoop property (skipWhitespace index.tail)

/-! ## White space -/

variable {unit : CodeUnit}

theorem isTrimmed_of_isSpace (h : JsonSource.isSpace unit = true) : isTrimmed unit = true := by
  simp only [JsonSource.isSpace, Bool.or_eq_true, decide_eq_true_eq] at h
  rcases h with ((rfl | rfl) | rfl) | rfl <;> rfl

theorem skipWhitespace_append {blank : JsString} (h : Blank blank) (rest : JsString) :
    skipWhitespace (blank ++ rest) = skipWhitespace rest :=
  List.dropWhile_append_of_pos fun unit hunit => isTrimmed_of_isSpace (h unit hunit)

theorem skipWhitespace_cons (h : isTrimmed unit = false) (rest : JsString) :
    skipWhitespace (unit :: rest) = unit :: rest :=
  List.dropWhile_cons_of_neg (Bool.eq_false_iff.1 h)

/-- No unit of a number is white space. -/
theorem isTrimmed_of_isNumberUnit (h : JsonSource.isNumberUnit unit = true) : isTrimmed unit = false := by
  simp only [JsonSource.isNumberUnit, JsNumber.isDigit, Bool.or_eq_true, Bool.and_eq_true,
    decide_eq_true_eq] at h
  rcases h with ((((⟨hlow, hhigh⟩ | rfl) | rfl) | rfl) | rfl) | rfl
  · have hlow : 48 ≤ unit.val := hlow
    have hhigh : unit.val ≤ 57 := hhigh
    simp only [isTrimmed, Fin.le_def, Fin.ext_iff, Bool.or_eq_false_iff, Bool.and_eq_false_iff,
      decide_eq_false_iff_not]
    simp
    omega
  all_goals rfl

theorem isTrimmed_of_begins (h : JsonSource.Begins unit) : isTrimmed unit = false := by
  rcases h with h | rfl | rfl | rfl | rfl | rfl | rfl
  · exact isTrimmed_of_isNumberUnit h
  all_goals rfl

theorem skipWhitespace_value {blank source rest : JsString} {value : Value} (hblank : Blank blank)
    (h : IsValue source value) : skipWhitespace (blank ++ (source ++ rest)) = source ++ rest := by
  obtain ⟨unit, tail, rfl, hunit⟩ := h.begins
  rw [skipWhitespace_append hblank, List.cons_append, skipWhitespace_cons (isTrimmed_of_begins hunit)]

theorem slice_append (source rest : JsString) : slice (source ++ rest) rest = source := by
  rw [slice, List.length_append, Nat.add_sub_cancel, List.take_left]

/-- No white space ends a value. -/
theorem value_ends {source : JsString} {value : Value} (h : IsValue source value) :
    ∃ front unit, source = front ++ [unit] ∧ isTrimmed unit = false := by
  cases h with
  | null => exact ⟨js "nul", 108, rfl, rfl⟩
  | bool value =>
      cases value with
      | true => exact ⟨js "tru", 101, rfl, rfl⟩
      | false => exact ⟨js "fals", 101, rfl, rfl⟩
  | number h =>
      obtain ⟨hne, hunits⟩ := JsonSource.units_of_numberValue h
      exact ⟨source.dropLast, source.getLast hne, (List.dropLast_append_getLast hne).symm,
        isTrimmed_of_isNumberUnit (hunits _ (List.getLast_mem hne))⟩
  | string h => exact ⟨34 :: _, 34, rfl, rfl⟩
  | emptyArray h => exact ⟨91 :: _, 93, rfl, rfl⟩
  | array hne hspaced h => exact ⟨91 :: _, 93, rfl, rfl⟩
  | emptyObject h => exact ⟨123 :: _, 125, rfl, rfl⟩
  | object hne hnamed h => exact ⟨123 :: _, 125, rfl, rfl⟩

/-- A value is left when the white space behind it is trimmed. -/
theorem trim_value {source gap : JsString} {value : Value} (h : IsValue source value) (hgap : Blank gap) :
    trim (source ++ gap) = source := by
  have hfront : (source ++ gap).dropWhile isTrimmed = source ++ gap :=
    @skipWhitespace_value [] source gap value (List.forall_mem_nil _) h
  have hback : (gap.reverse ++ source.reverse).dropWhile isTrimmed = source.reverse := by
    obtain ⟨front, unit, rfl, hunit⟩ := value_ends h
    have hreverse : Blank gap.reverse := fun unit hunit => hgap unit (List.mem_reverse.1 hunit)
    rw [List.reverse_append, List.reverse_singleton]
    exact (skipWhitespace_append hreverse _).trans (skipWhitespace_cons hunit _)
  rw [trim, hfront, List.reverse_append, hback, List.reverse_reverse]

/-! ## Strings and brackets -/

theorem stringEnd_cons (hslash : unit ≠ 92) (hquote : unit ≠ 34) (rest : JsString) :
    stringEnd (unit :: rest) = stringEnd rest := by
  rw [stringEnd.eq_def]
  dsimp only
  rw [if_neg hslash, if_neg hquote]

/-- A hexadecimal digit ends no string. -/
theorem stringEnd_hexValue {digit : ℕ} (h : JsonSource.hexValue unit = some digit)
    (rest : JsString) : stringEnd (unit :: rest) = stringEnd rest := by
  refine stringEnd_cons ?_ ?_ rest
  · rintro rfl
    cases h
  · rintro rfl
    cases h

/-- A string is scanned up to its closing quotation mark. -/
theorem stringEnd_chars {source value : JsString} (h : IsChars source value) (rest : JsString) :
    stringEnd (source ++ 34 :: rest) = .ok rest := by
  induction h with
  | nil =>
      rw [List.nil_append, stringEnd.eq_def]
      rfl
  | plain hquote hslash hcontrol _ ih =>
      rw [List.cons_append, stringEnd_cons hslash hquote]
      exact ih
  | escape hunit _ ih => exact ih
  | @hex a b c d unit source value hunit _ ih =>
      obtain ⟨_, ha, hunit⟩ := Option.bind_eq_some_iff.1 hunit
      obtain ⟨_, hb, hunit⟩ := Option.bind_eq_some_iff.1 hunit
      obtain ⟨_, hc, hunit⟩ := Option.bind_eq_some_iff.1 hunit
      obtain ⟨_, hd, hunit⟩ := Option.bind_eq_some_iff.1 hunit
      show stringEnd (a :: b :: c :: d :: (source ++ 34 :: rest)) = _
      rw [stringEnd_hexValue ha, stringEnd_hexValue hb, stringEnd_hexValue hc, stringEnd_hexValue hd]
      exact ih

/-- Neither a bracket nor a quotation mark. -/
def isPlain (unit : CodeUnit) : Bool :=
  unit ≠ 34 && unit ≠ 123 && unit ≠ 91 && unit ≠ 125 && unit ≠ 93

/-- Inside brackets the text is scanned without an effect on the stack. -/
def Skipped (text : JsString) : Prop :=
  ∀ top stack rest, skipBrackets (top :: stack) (text ++ rest) = skipBrackets (top :: stack) rest

theorem Skipped.append {left right : JsString} (h : Skipped left) (h' : Skipped right) :
    Skipped (left ++ right) := by
  intro top stack rest
  rw [List.append_assoc, h, h']

theorem skipped_plain {text : JsString} (h : ∀ unit ∈ text, isPlain unit = true) : Skipped text := by
  induction text with
  | nil => exact fun _ _ _ => rfl
  | cons unit text ih =>
      intro top stack rest
      have hunit := h unit List.mem_cons_self
      simp only [isPlain, Bool.and_eq_true, decide_eq_true_eq] at hunit
      obtain ⟨⟨⟨⟨hquote, hbrace⟩, hbracket⟩, hbrace'⟩, hbracket'⟩ := hunit
      rw [List.cons_append, skipBrackets, if_neg hquote, nextStack, if_neg (not_or.2 ⟨hbrace, hbracket⟩),
        if_neg (not_or.2 ⟨hbrace', hbracket'⟩)]
      exact ih (fun other hother => h other (List.mem_cons_of_mem _ hother)) top stack rest

theorem isPlain_of_isNumberUnit (h : JsonSource.isNumberUnit unit = true) : isPlain unit = true := by
  have hother : ∀ other : CodeUnit, JsonSource.isNumberUnit other = false → unit ≠ other := by
    rintro other hother rfl
    rw [h] at hother
    cases hother
  simp only [isPlain, Bool.and_eq_true, decide_eq_true_eq]
  exact ⟨⟨⟨⟨hother 34 rfl, hother 123 rfl⟩, hother 91 rfl⟩, hother 125 rfl⟩, hother 93 rfl⟩

theorem skipped_blank {blank : JsString} (h : Blank blank) : Skipped blank := by
  refine skipped_plain fun unit hunit => ?_
  have hspace := h unit hunit
  simp only [JsonSource.isSpace, Bool.or_eq_true, decide_eq_true_eq] at hspace
  rcases hspace with ((rfl | rfl) | rfl) | rfl <;> rfl

theorem skipped_string {source value : JsString} (h : IsChars source value) :
    Skipped (34 :: (source ++ [34])) := by
  intro top stack rest
  have hend : stringEnd (source ++ [34] ++ rest) = .ok rest := by
    rw [List.append_assoc]
    exact stringEnd_chars h rest
  rw [List.cons_append, skipBrackets, if_pos rfl]
  split
  · next next hnext =>
      rw [hend] at hnext
      cases hnext
      rfl
  · next error herror =>
      rw [hend] at herror
      cases herror

theorem skipBrackets_open (h : unit = 123 ∨ unit = 91) (top : CodeUnit) (stack : List CodeUnit)
    (rest : JsString) : skipBrackets (top :: stack) (unit :: rest) = skipBrackets (unit :: top :: stack) rest := by
  rcases h with rfl | rfl
  · rw [skipBrackets, if_neg (by decide)]
    rfl
  · rw [skipBrackets, if_neg (by decide)]
    rfl

theorem skipBrackets_close (h : unit = 125 ∨ unit = 93) (top : CodeUnit) (stack : List CodeUnit)
    (rest : JsString) : skipBrackets (top :: stack) (unit :: rest) = skipBrackets stack rest := by
  rcases h with rfl | rfl
  · rw [skipBrackets, if_neg (by decide)]
    rfl
  · rw [skipBrackets, if_neg (by decide)]
    rfl

/-- A bracketed text, once what is between the brackets is skipped. -/
theorem Skipped.brackets {inner : JsString} (h : Skipped inner) {opening closing : CodeUnit}
    (hopening : opening = 123 ∨ opening = 91) (hclosing : closing = 125 ∨ closing = 93) :
    Skipped (opening :: (inner ++ [closing])) := by
  intro top stack rest
  rw [List.cons_append, List.append_assoc, skipBrackets_open hopening, h, List.singleton_append,
    skipBrackets_close hclosing]

theorem skipped_joinTexts {texts : List JsString} (h : ∀ text ∈ texts, Skipped text) :
    Skipped (joinTexts texts) := by
  have hcomma : Skipped [44] := skipped_plain (List.all_eq_true.1 rfl)
  induction texts with
  | nil => exact fun _ _ _ => rfl
  | cons text texts ih =>
      have htext := h text List.mem_cons_self
      have htexts := ih fun other hother => h other (List.mem_cons_of_mem _ hother)
      cases texts with
      | nil => exact htext
      | cons other texts => exact htext.append (hcomma.append htexts)

theorem skipped_element {element : Element} (h : element.Spaced) (hsource : Skipped element.source) :
    Skipped element.text :=
  (skipped_blank h.before).append (hsource.append (skipped_blank h.after))

theorem skipped_member {member : Member} (h : member.Named) (hsource : Skipped member.element.source) :
    Skipped member.text := by
  have hcolon : Skipped [58] := skipped_plain (List.all_eq_true.1 rfl)
  have hname := skipped_string h.name
  have helement := skipped_element h.element hsource
  have htext := (skipped_blank h.lead).append (hname.append ((skipped_blank h.gap).append (hcolon.append helement)))
  rw [List.cons_append, List.append_assoc] at htext
  exact htext

theorem skipped_elements {elements : List Element} (hspaced : ∀ element ∈ elements, element.Spaced)
    (h : ∀ element ∈ elements, Skipped element.source) : Skipped (joinTexts (elements.map Element.text)) :=
  skipped_joinTexts (List.forall_mem_map.2 fun element helement =>
    skipped_element (hspaced element helement) (h element helement))

theorem skipped_members {members : List Member} (hnamed : ∀ member ∈ members, member.Named)
    (h : ∀ member ∈ members, Skipped member.element.source) : Skipped (joinTexts (members.map Member.text)) :=
  skipped_joinTexts (List.forall_mem_map.2 fun member hmember =>
    skipped_member (hnamed member hmember) (h member hmember))

/-- A value leaves the stack as it was. -/
theorem skipped_value {source : JsString} {value : Value} (h : IsValue source value) : Skipped source := by
  induction h with
  | null => exact skipped_plain (List.all_eq_true.1 rfl)
  | bool value =>
      cases value with
      | true => exact skipped_plain (List.all_eq_true.1 rfl)
      | false => exact skipped_plain (List.all_eq_true.1 rfl)
  | number h =>
      refine skipped_plain fun unit hunit => ?_
      exact isPlain_of_isNumberUnit ((JsonSource.units_of_numberValue h).2 unit hunit)
  | string h => exact skipped_string h
  | emptyArray h => exact (skipped_blank h).brackets (.inr rfl) (.inr rfl)
  | array hne hspaced _ ih => exact (skipped_elements hspaced ih).brackets (.inr rfl) (.inr rfl)
  | emptyObject h => exact (skipped_blank h).brackets (.inl rfl) (.inl rfl)
  | object hne hnamed _ ih => exact (skipped_members hnamed ih).brackets (.inl rfl) (.inl rfl)

/-! ## Members -/

/-- What follows a value in an object. -/
def Follows (unit : CodeUnit) : Prop :=
  unit = 44 ∨ unit = 125

/-- Neither a bracket, a quotation mark nor a comma. -/
def isScalar (unit : CodeUnit) : Bool :=
  isPlain unit && unit ≠ 44

/-- A scalar goes on up to the comma or the closing brace, white space included. -/
theorem skipJsonValue_scalar {source : JsString} (hne : source ≠ [])
    (hscalar : source.all isScalar = true) {after : JsString} (hafter : Blank after)
    (hunit : Follows unit) (tail : JsString) :
    skipJsonValue (source ++ (after ++ unit :: tail)) = .ok (unit :: tail) := by
  obtain ⟨first, rest, rfl⟩ := List.exists_cons_of_ne_nil hne
  have hblank : ∀ other ∈ after, (other ≠ 44 && other ≠ 125) = true := by
    intro other hother
    have hspace := hafter other hother
    simp only [JsonSource.isSpace, Bool.or_eq_true, decide_eq_true_eq] at hspace
    rcases hspace with ((rfl | rfl) | rfl) | rfl <;> rfl
  have hsource : ∀ other ∈ first :: rest, (other ≠ 44 && other ≠ 125) = true := by
    intro other hother
    have hother := List.all_eq_true.1 hscalar other hother
    simp only [isScalar, isPlain, Bool.and_eq_true, decide_eq_true_eq] at hother
    simp only [Bool.and_eq_true, decide_eq_true_eq]
    exact ⟨hother.2, hother.1.1.2⟩
  have hend : ¬(unit ≠ 44 && unit ≠ 125) = true := by
    rcases hunit with rfl | rfl <;> decide
  have hfirst := List.all_eq_true.1 hscalar first List.mem_cons_self
  simp only [isScalar, isPlain, Bool.and_eq_true, decide_eq_true_eq] at hfirst
  obtain ⟨⟨⟨⟨⟨hquote, hbrace⟩, hbracket⟩, _⟩, _⟩, _⟩ := hfirst
  rw [List.cons_append, skipJsonValue, if_neg hquote, if_pos ⟨hbrace, hbracket⟩, ← List.cons_append,
    List.dropWhile_append_of_pos hsource, List.dropWhile_append_of_pos hblank]
  exact congrArg Except.ok (List.dropWhile_cons_of_neg hend)

theorem skipJsonValue_brackets {inner : JsString} (h : Skipped inner) {opening closing : CodeUnit}
    (hopening : opening = 123 ∨ opening = 91) (hclosing : closing = 125 ∨ closing = 93) (rest : JsString) :
    skipJsonValue (opening :: (inner ++ [closing]) ++ rest) = .ok rest := by
  have hquote : opening ≠ 34 := by
    rcases hopening with rfl | rfl <;> decide
  have hscalar : ¬(opening ≠ 123 ∧ opening ≠ 91) := fun hne => hopening.elim hne.1 hne.2
  rw [List.cons_append, skipJsonValue, if_neg hquote, if_neg hscalar, List.append_assoc, h,
    List.singleton_append, skipBrackets_close hclosing, skipBrackets]

/-- Behind a value the scan stops at its end, or where the white space behind it ends. -/
theorem skipJsonValue_value {source : JsString} {value : Value} (h : IsValue source value) {after : JsString}
    (hafter : Blank after) (hunit : Follows unit) (tail : JsString) :
    ∃ gap left, after = gap ++ left ∧ Blank gap ∧ Blank left ∧
      skipJsonValue (source ++ (after ++ unit :: tail)) = .ok (left ++ unit :: tail) := by
  have hempty : Blank [] := List.forall_mem_nil _
  have hscalar : source ≠ [] → source.all isScalar = true →
      ∃ gap left, after = gap ++ left ∧ Blank gap ∧ Blank left ∧
        skipJsonValue (source ++ (after ++ unit :: tail)) = .ok (left ++ unit :: tail) := fun hne hunits =>
    ⟨after, [], (List.append_nil _).symm, hafter, hempty, skipJsonValue_scalar hne hunits hafter hunit tail⟩
  cases h with
  | null => exact hscalar (List.cons_ne_nil _ _) rfl
  | bool value =>
      cases value with
      | true => exact hscalar (List.cons_ne_nil _ _) rfl
      | false => exact hscalar (List.cons_ne_nil _ _) rfl
  | number h =>
      obtain ⟨hne, hunits⟩ := JsonSource.units_of_numberValue h
      refine hscalar hne (List.all_eq_true.2 fun unit hunit => ?_)
      rw [isScalar, isPlain_of_isNumberUnit (hunits unit hunit), Bool.true_and, decide_eq_true_iff]
      rintro rfl
      cases hunits 44 hunit
  | @string source value h =>
      refine ⟨[], after, rfl, hempty, hafter, ?_⟩
      rw [List.cons_append, skipJsonValue, if_pos rfl, List.append_assoc]
      exact stringEnd_chars h _
  | emptyArray h =>
      exact ⟨[], after, rfl, hempty, hafter, skipJsonValue_brackets (skipped_blank h) (.inr rfl) (.inr rfl) _⟩
  | array hne hspaced hvalues =>
      have hinner := skipped_elements hspaced fun element helement => skipped_value (hvalues element helement)
      exact ⟨[], after, rfl, hempty, hafter, skipJsonValue_brackets hinner (.inr rfl) (.inr rfl) _⟩
  | emptyObject h =>
      exact ⟨[], after, rfl, hempty, hafter, skipJsonValue_brackets (skipped_blank h) (.inl rfl) (.inl rfl) _⟩
  | object hne hnamed hvalues =>
      have hinner := skipped_members hnamed fun member hmember => skipped_value (hvalues member hmember)
      exact ⟨[], after, rfl, hempty, hafter, skipJsonValue_brackets hinner (.inl rfl) (.inl rfl) _⟩

theorem isKey_string (property key : JsString) : isKey property (.string key) = true ↔ key = property := by
  rw [isKey, decide_eq_true_iff]

/-- The loop takes the source of a member with the property, and goes on behind any other. -/
theorem propertyLoop_member (property : JsString) {member : Member} (hnamed : member.Named)
    (hvalue : IsValue member.element.source member.element.value) (hunit : Follows unit)
    (tail : JsString) :
    ∃ left, Blank left ∧ propertyLoop property (skipWhitespace (member.text ++ unit :: tail)) =
      if member.key = property then .ok (some member.element.source)
      else propertyLoop property (nextMember (left ++ unit :: tail)) := by
  obtain ⟨gap, left, hafter, hgap, hleft, hskip⟩ := skipJsonValue_value hvalue hnamed.element.after hunit tail
  refine ⟨left, hleft, ?_⟩
  -- the positions behind the name, the colon and the white space in front of the value
  have hstart : skipWhitespace (member.text ++ unit :: tail) =
      34 :: (member.name ++ 34 :: (member.gap ++ 58 :: (member.element.text ++ unit :: tail))) := by
    rw [Member.text, List.append_assoc, skipWhitespace_append hnamed.lead, List.cons_append,
      skipWhitespace_cons rfl, List.append_assoc, List.cons_append, List.append_assoc, List.cons_append]
  have hkeyEnd : readJsonStringEnd
      (34 :: (member.name ++ 34 :: (member.gap ++ 58 :: (member.element.text ++ unit :: tail)))) =
      .ok (member.gap ++ 58 :: (member.element.text ++ unit :: tail)) := stringEnd_chars hnamed.name _
  have hkey : JsonSource.parse (slice
      (34 :: (member.name ++ 34 :: (member.gap ++ 58 :: (member.element.text ++ unit :: tail))))
      (member.gap ++ 58 :: (member.element.text ++ unit :: tail))) = some (.string member.key) := by
    have hname : 34 :: (member.name ++ 34 :: (member.gap ++ 58 :: (member.element.text ++ unit :: tail))) =
        34 :: (member.name ++ [34]) ++ (member.gap ++ 58 :: (member.element.text ++ unit :: tail)) := by
      rw [List.cons_append, List.append_assoc, List.singleton_append]
    rw [hname, slice_append, JsonSource.parse_string hnamed.name]
  have hcolon : skipWhitespace (member.gap ++ 58 :: (member.element.text ++ unit :: tail)) =
      58 :: (member.element.text ++ unit :: tail) := by
    rw [skipWhitespace_append hnamed.gap, skipWhitespace_cons rfl]
  have hvalueStart : skipWhitespace (member.element.text ++ unit :: tail) =
      member.element.source ++ (member.element.after ++ unit :: tail) := by
    rw [Element.text, List.append_assoc, List.append_assoc,
      skipWhitespace_value hnamed.element.before hvalue]
  have hfound : trim (slice (member.element.source ++ (member.element.after ++ unit :: tail))
      (left ++ unit :: tail)) = member.element.source := by
    rw [hafter, List.append_assoc, ← List.append_assoc, slice_append, trim_value hvalue hgap]
  rw [hstart, propertyLoop, if_neg (by decide), if_neg (by decide)]
  split
  · next error herror =>
      rw [hkeyEnd] at herror
      cases herror
  · next keyEnd hend =>
      rw [hkeyEnd] at hend
      cases hend
      rw [hkey]
      dsimp only
      rw [hcolon, List.head?_cons, if_neg (not_not.2 rfl)]
      split
      · next error herror =>
          rw [List.tail_cons, hvalueStart, hskip] at herror
          cases herror
      · next valueEnd hend =>
          rw [List.tail_cons, hvalueStart, hskip] at hend
          cases hend
          rw [List.tail_cons, hvalueStart, hfound]
          exact if_congr (isKey_string _ _) rfl rfl

theorem nextMember_comma {left : JsString} (h : Blank left) (tail : JsString) :
    nextMember (left ++ 44 :: tail) = skipWhitespace tail := by
  have hindex : skipWhitespace (left ++ 44 :: tail) = 44 :: tail := by
    rw [skipWhitespace_append h, skipWhitespace_cons rfl]
  rw [nextMember, hindex]
  rfl

theorem nextMember_close {left : JsString} (h : Blank left) (tail : JsString) :
    nextMember (left ++ 125 :: tail) = 125 :: tail := by
  have hindex : skipWhitespace (left ++ 125 :: tail) = 125 :: tail := by
    rw [skipWhitespace_append h, skipWhitespace_cons rfl]
  rw [nextMember, hindex]
  rfl

theorem propertyLoop_close (property tail : JsString) : propertyLoop property (125 :: tail) = .ok none := by
  rw [propertyLoop, if_pos rfl]

/-- The source of the first member with a property. -/
def memberSource (property : JsString) (members : List Member) : Option JsString :=
  (members.find? (fun member => member.key = property)).map fun member => member.element.source

theorem memberSource_cons (property : JsString) (member : Member) (members : List Member) :
    memberSource property (member :: members) =
      if member.key = property then some member.element.source else memberSource property members := by
  by_cases hkey : member.key = property
  · rw [if_pos hkey, memberSource, List.find?_cons, decide_eq_true hkey]
    rfl
  · rw [if_neg hkey, memberSource, List.find?_cons, decide_eq_false hkey]
    rfl

/-- The loop finds the first member with the property. -/
theorem propertyLoop_members (property : JsString) {members : List Member} (hne : members ≠ [])
    (hnamed : ∀ member ∈ members, member.Named)
    (hvalues : ∀ member ∈ members, IsValue member.element.source member.element.value) (rest : JsString) :
    propertyLoop property (skipWhitespace (joinTexts (members.map Member.text) ++ 125 :: rest)) =
      .ok (memberSource property members) := by
  induction members with
  | nil => exact absurd rfl hne
  | cons member members ih =>
      have hmember := hnamed member List.mem_cons_self
      have hvalue := hvalues member List.mem_cons_self
      cases members with
      | nil =>
          obtain ⟨left, hleft, hloop⟩ := propertyLoop_member property hmember hvalue (.inr rfl) rest
          rw [List.map_singleton, joinTexts, hloop, nextMember_close hleft, propertyLoop_close, memberSource_cons,
            apply_ite Except.ok]
          rfl
      | cons other members =>
          obtain ⟨left, hleft, hloop⟩ := propertyLoop_member property hmember hvalue (.inl rfl)
            (joinTexts ((other :: members).map Member.text) ++ 125 :: rest)
          have hothers := ih (List.cons_ne_nil _ _)
            (fun other hother => hnamed other (List.mem_cons_of_mem _ hother))
            fun other hother => hvalues other (List.mem_cons_of_mem _ hother)
          rw [List.map_cons, JsonSource.joinTexts_cons (by simp), List.append_assoc, List.cons_append, hloop,
            nextMember_comma hleft, hothers, memberSource_cons property member, apply_ite Except.ok]

/-! ## Objects -/

/-- An object with white space around it, and its members as they stand in the text. -/
structure IsObject (raw : JsString) (members : List Member) : Prop where
  named : ∀ member ∈ members, member.Named
  values : ∀ member ∈ members, IsValue member.element.source member.element.value
  text : ∃ before inner after, Blank before ∧ Blank after ∧ raw = before ++ 123 :: (inner ++ 125 :: after) ∧
    (members = [] ∧ Blank inner ∨ members ≠ [] ∧ inner = joinTexts (members.map Member.text))

/-- The texts that `JSON.parse` accepts as objects. -/
theorem parse_object_iff {raw : JsString} {entries : List (JsString × Value)} :
    JsonSource.parse raw = some (.object entries) ↔
      ∃ members, IsObject raw members ∧ members.map Member.entry = entries := by
  rw [JsonSource.parse_eq_some_iff]
  constructor
  · rintro ⟨before, source, after, hbefore, hafter, rfl, hvalue⟩
    cases hvalue with
    | @emptyObject blank h =>
        refine ⟨[], ⟨List.forall_mem_nil _, List.forall_mem_nil _, before, blank, after, hbefore, hafter, ?_,
          .inl ⟨rfl, h⟩⟩, rfl⟩
        rw [List.cons_append, List.append_assoc, List.singleton_append]
    | @object members hne hnamed h =>
        refine ⟨members, ⟨hnamed, h, before, _, after, hbefore, hafter, ?_, .inr ⟨hne, rfl⟩⟩, rfl⟩
        rw [List.cons_append, List.append_assoc, List.singleton_append]
  · rintro ⟨members, ⟨hnamed, hvalues, before, inner, after, hbefore, hafter, rfl, hinner⟩, rfl⟩
    have hobject : IsValue (123 :: (inner ++ [125])) (.object (members.map Member.entry)) := by
      rcases hinner with ⟨rfl, hblank⟩ | ⟨hne, rfl⟩
      · exact .emptyObject hblank
      · exact .object hne hnamed hvalues
    refine ⟨before, _, after, hbefore, hafter, ?_, hobject⟩
    rw [List.cons_append, List.append_assoc, List.singleton_append]

/-- The scanner finds the first member with the property, whatever else the object holds. -/
theorem topLevelJsonProperty_eq {raw : JsString} {members : List Member} (h : IsObject raw members)
    (property : JsString) : topLevelJsonProperty raw property =
      .ok (memberSource property members) := by
  obtain ⟨before, inner, after, hbefore, _, rfl, hinner⟩ := h.text
  have hindex : skipWhitespace (before ++ 123 :: (inner ++ 125 :: after)) = 123 :: (inner ++ 125 :: after) := by
    rw [skipWhitespace_append hbefore, skipWhitespace_cons rfl]
  rw [topLevelJsonProperty, hindex]
  show propertyLoop property (skipWhitespace (inner ++ 125 :: after)) = _
  rcases hinner with ⟨rfl, hblank⟩ | ⟨hne, rfl⟩
  · rw [skipWhitespace_append hblank, skipWhitespace_cons rfl, propertyLoop_close]
    rfl
  · exact propertyLoop_members property hne h.named h.values after

end VoiceLife.Gateway
