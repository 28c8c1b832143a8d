import VoiceLife.Lib.JsText

/-! # JSON texts in UTF-16 and the sources of their values

`IsValue source value` is the grammar of JSON over code units: the elements of an array and the members of
an object are there with the white space around them, so that the source of each of them can be named.
`parse` is `JSON.parse`, its numbers before they are rounded, and reads exactly this grammar
(`parse_eq_some_iff`). A lone surrogate is a code unit like any other.
-/

open JsNumber (isDigit digitsValue)

namespace JsonSource

/-- What `JSON.parse` returns. An object has its members in the order of the text. -/
inductive Value where
  | null
  | bool (value : Bool)
  | number (value : ℚ)
  | string (value : JsString)
  | array (items : List Value)
  | object (members : List (JsString × Value))

/-! ## White space, strings and numbers -/

/-- `ws`. -/
def isSpace (unit : CodeUnit) : Bool :=
  unit = 32 || unit = 9 || unit = 10 || unit = 13

/-- Nothing but white space. -/
def Blank (text : JsString) : Prop :=
  ∀ unit ∈ text, isSpace unit = true

def skipSpace (text : JsString) : JsString :=
  text.dropWhile isSpace

/-- The code unit of a one-letter escape. -/
def unescape (letter : CodeUnit) : Option CodeUnit :=
  if letter = 34 ∨ letter = 92 ∨ letter = 47 then some letter
  else if letter = 98 then some 8
  else if letter = 102 then some 12
  else if letter = 110 then some 10
  else if letter = 114 then some 13
  else if letter = 116 then some 9
  else none

/-- The value of a hexadecimal digit. -/
def hexValue (unit : CodeUnit) : Option ℕ :=
  if 48 ≤ unit ∧ unit ≤ 57 then some (unit.val - 48)
  else if 97 ≤ unit ∧ unit ≤ 102 then some (unit.val - 87)
  else if 65 ≤ unit ∧ unit ≤ 70 then some (unit.val - 55)
  else none

/-- The code unit of four hexadecimal digits. -/
def hexUnit (a b c d : CodeUnit) : Option CodeUnit := do
  some (Fin.ofNat 65536 ((← hexValue a) * 4096 + (← hexValue b) * 256 + (← hexValue c) * 16 + (← hexValue d)))

/-- The text between quotation marks and the string that it stands for. -/
inductive IsChars : JsString → JsString → Prop where
  | nil : IsChars [] []
  | plain {unit : CodeUnit} {source value : JsString} (hquote : unit ≠ 34) (hslash : unit ≠ 92)
      (hcontrol : 32 ≤ unit) (rest : IsChars source value) : IsChars (unit :: source) (unit :: value)
  | escape {letter unit : CodeUnit} {source value : JsString} (hunit : unescape letter = some unit)
      (rest : IsChars source value) : IsChars (92 :: letter :: source) (unit :: value)
  | hex {a b c d unit : CodeUnit} {source value : JsString} (hunit : hexUnit a b c d = some unit)
      (rest : IsChars source value) : IsChars (92 :: 117 :: a :: b :: c :: d :: source) (unit :: value)

/-- A code unit in front of what was read. -/
def prepend (unit : CodeUnit) (found : JsString × JsString) : JsString × JsString :=
  (unit :: found.1, found.2)

/-- The string up to its closing quotation mark, and what follows it. -/
def readChars : JsString → Option (JsString × JsString)
  | [] => none
  | unit :: rest =>
    if unit = 34 then some ([], rest)
    else if unit = 92 then
      match rest with
      | [] => none
      | letter :: rest =>
        if letter = 117 then
          match rest with
          | a :: b :: c :: d :: rest =>
            (hexUnit a b c d).bind fun unit => (readChars rest).map (prepend unit)
          | _ => none
        else (unescape letter).bind fun unit => (readChars rest).map (prepend unit)
    else if unit < 32 then none
    else (readChars rest).map (prepend unit)

/-- A code unit that occurs in a number. -/
def isNumberUnit (unit : CodeUnit) : Bool :=
  isDigit unit || unit = 43 || unit = 45 || unit = 46 || unit = 69 || unit = 101

/-- `[ minus ]`. -/
def readMinus : JsString → ℚ × JsString
  | [] => (1, [])
  | unit :: rest => if unit = 45 then (-1, rest) else (1, unit :: rest)

/-- `1*DIGIT`. -/
def readDigits (text : JsString) : Option (JsString × JsString) :=
  if text.takeWhile isDigit = [] then none
  else some (text.takeWhile isDigit, text.dropWhile isDigit)

/-- `int`: no digit follows a leading zero. -/
def readInteger (text : JsString) : Option (JsString × JsString) :=
  (readDigits text).bind fun found =>
    if found.1.head? = some 48 ∧ found.1 ≠ [48] then none else some found

/-- `[ frac ]`. -/
def readFraction : JsString → Option (JsString × JsString)
  | [] => some ([], [])
  | unit :: rest => if unit = 46 then readDigits rest else some ([], unit :: rest)

/-- The sign of an exponent. -/
def readSign : JsString → ℤ × JsString
  | [] => (1, [])
  | unit :: rest =>
    if unit = 45 then (-1, rest) else if unit = 43 then (1, rest) else (1, unit :: rest)

/-- `[ exp ]`. -/
def readExponent : JsString → Option (ℤ × JsString)
  | [] => some (0, [])
  | unit :: rest =>
    if unit = 69 ∨ unit = 101 then
      (readDigits (readSign rest).2).map fun found => ((readSign rest).1 * digitsValue found.1, found.2)
    else some (0, unit :: rest)

/-- The value of a number. -/
def numberValue (text : JsString) : Option ℚ := do
  let (sign, rest) := readMinus text
  let (integer, rest) ← readInteger rest
  let (fraction, rest) ← readFraction rest
  let (exponent, rest) ← readExponent rest
  if rest = [] then
    some (sign * digitsValue (integer ++ fraction) * 10 ^ (exponent - fraction.length))
  else none

/-! ## The grammar -/

/-- A value and the white space around it. -/
structure Element where
  before : JsString
  source : JsString
  after : JsString
  value : Value

def Element.text (element : Element) : JsString :=
  element.before ++ (element.source ++ element.after)

/-- A name between quotation marks, white space around it, and an element. -/
structure Member where
  lead : JsString
  name : JsString
  gap : JsString
  key : JsString
  element : Element

def Member.text (member : Member) : JsString :=
  member.lead ++ 34 :: (member.name ++ 34 :: (member.gap ++ 58 :: member.element.text))

/-- A member as `JSON.parse` returns it. -/
def Member.entry (member : Member) : JsString × Value :=
  (member.key, member.element.value)

/-- Texts with commas in between. -/
def joinTexts : List JsString → JsString
  | [] => []
  | [text] => text
  | text :: other :: texts => text ++ 44 :: joinTexts (other :: texts)

/-- The white space of an element. -/
structure Element.Spaced (element : Element) : Prop where
  before : Blank element.before
  after : Blank element.after

/-- The white space and the name of a member. -/
structure Member.Named (member : Member) : Prop where
  lead : Blank member.lead
  gap : Blank member.gap
  name : IsChars member.name member.key
  element : member.element.Spaced

/-- `value`: the source of a value. -/
inductive IsValue : JsString → Value → Prop where
  | null : IsValue (js "null") .null
  | bool (value : Bool) : IsValue (if value then js "true" else js "false") (.bool value)
  | number {source : JsString} {value : ℚ} (h : numberValue source = some value) :
      IsValue source (.number value)
  | string {source value : JsString} (h : IsChars source value) :
      IsValue (34 :: (source ++ [34])) (.string value)
  | emptyArray {blank : JsString} (h : Blank blank) : IsValue (91 :: (blank ++ [93])) (.array [])
  | array {elements : List Element} (hne : elements ≠ []) (hspaced : ∀ element ∈ elements, element.Spaced)
      (h : ∀ element ∈ elements, IsValue element.source element.value) :
      IsValue (91 :: (joinTexts (elements.map Element.text) ++ [93])) (.array (elements.map Element.value))
  | emptyObject {blank : JsString} (h : Blank blank) : IsValue (123 :: (blank ++ [125])) (.object [])
  | object {members : List Member} (hne : members ≠ []) (hnamed : ∀ member ∈ members, member.Named)
      (h : ∀ member ∈ members, IsValue member.element.source member.element.value) :
      IsValue (123 :: (joinTexts (members.map Member.text) ++ [125])) (.object (members.map Member.entry))

/-! ## The reader -/

/-- One code unit. -/
def expect (unit : CodeUnit) : JsString → Option JsString
  | [] => none
  | head :: rest => if head = unit then some rest else none

/-- A name such as `null`. -/
def expectName (name text : JsString) : Option JsString :=
  if name.isPrefixOf text then some (text.drop name.length) else none

/-- Behind an element or a member: a comma and more of them, or the closing bracket. -/
def readMore {α : Type} (more : JsString → Option (List α × JsString)) (closing : CodeUnit) (element : α)
    (rest : JsString) : Option (List α × JsString) :=
  match expect 44 (skipSpace rest) with
  | some rest => (more rest).map fun found => (element :: found.1, found.2)
  | none => (expect closing (skipSpace rest)).map fun rest => ([element], rest)

mutual

/-- A value, and what follows it. -/
def readValue : ℕ → JsString → Option (Value × JsString)
  | 0, _ => none
  | _ + 1, [] => none
  | fuel + 1, unit :: rest =>
    if unit = 34 then (readChars rest).map fun found => (.string found.1, found.2)
    else if unit = 91 then
      match expect 93 (skipSpace rest) with
      | some rest => some (.array [], rest)
      | none => (readItems fuel rest).map fun found => (.array found.1, found.2)
    else if unit = 123 then
      match expect 125 (skipSpace rest) with
      | some rest => some (.object [], rest)
      | none => (readMembers fuel rest).map fun found => (.object found.1, found.2)
    else if unit = 110 then (expectName (js "ull") rest).map fun rest => (.null, rest)
    else if unit = 116 then (expectName (js "rue") rest).map fun rest => (.bool true, rest)
    else if unit = 102 then (expectName (js "alse") rest).map fun rest => (.bool false, rest)
    else (numberValue ((unit :: rest).takeWhile isNumberUnit)).map fun value =>
      (.number value, (unit :: rest).dropWhile isNumberUnit)

/-- The values of an array, up to its closing bracket. -/
def readItems : ℕ → JsString → Option (List Value × JsString)
  | 0, _ => none
  | fuel + 1, text => do
    let (item, rest) ← readValue fuel (skipSpace text)
    readMore (readItems fuel) 93 item rest

/-- The members of an object, up to its closing bracket. -/
def readMembers : ℕ → JsString → Option (List (JsString × Value) × JsString)
  | 0, _ => none
  | fuel + 1, text => do
    let rest ← expect 34 (skipSpace text)
    let (key, rest) ← readChars rest
    let rest ← expect 58 (skipSpace rest)
    let (value, rest) ← readValue fuel (skipSpace rest)
    readMore (readMembers fuel) 125 (key, value) rest

end

/-- `JSON.parse`, its numbers before they are rounded. -/
def parse (text : JsString) : Option Value := do
  let (value, rest) ← readValue (text.length + 1) (skipSpace text)
  if skipSpace rest = [] then some value else none

/-! ## White space -/

theorem eq_append_skipSpace (text : JsString) : ∃ blank, Blank blank ∧ text = blank ++ skipSpace text := by
  refine ⟨text.takeWhile isSpace, ?_, (List.takeWhile_append_dropWhile).symm⟩
  intro unit hunit
  exact List.mem_takeWhile_imp hunit

theorem skipSpace_append {blank : JsString} (h : Blank blank) (rest : JsString) :
    skipSpace (blank ++ rest) = skipSpace rest :=
  List.dropWhile_append_of_pos h

variable {unit : CodeUnit}

theorem skipSpace_cons (h : isSpace unit = false) (rest : JsString) :
    skipSpace (unit :: rest) = unit :: rest :=
  List.dropWhile_cons_of_neg (Bool.eq_false_iff.1 h)

theorem expect_eq_some {text rest : JsString} : expect unit text = some rest ↔ text = unit :: rest := by
  cases text with
  | nil => exact iff_of_false (fun h => by cases h) fun h => by cases h
  | cons head tail =>
      rw [expect]
      by_cases heq : head = unit
      · rw [if_pos heq, heq, Option.some.injEq, List.cons.injEq]
        exact (and_iff_right rfl).symm
      · rw [if_neg heq]
        exact iff_of_false (fun h => by cases h) fun h => heq (List.cons.inj h).1

/-- A closing or a separating unit behind white space. -/
theorem expect_skipSpace {text rest : JsString} (h : expect unit (skipSpace text) = some rest) :
    ∃ blank, Blank blank ∧ text = blank ++ unit :: rest := by
  obtain ⟨blank, hblank, htext⟩ := eq_append_skipSpace text
  exact ⟨blank, hblank, htext.trans (congrArg (blank ++ ·) (expect_eq_some.1 h))⟩

/-! ## Strings -/

theorem readChars_plain (hquote : unit ≠ 34) (hslash : unit ≠ 92) (hcontrol : 32 ≤ unit)
    (rest : JsString) : readChars (unit :: rest) = (readChars rest).map (prepend unit) := by
  rw [readChars.eq_def]
  dsimp only
  rw [if_neg hquote, if_neg hslash, if_neg (not_lt.2 hcontrol)]

theorem readChars_escape {letter unit : CodeUnit} (hunit : unescape letter = some unit) (rest : JsString) :
    readChars (92 :: letter :: rest) = (readChars rest).map (prepend unit) := by
  have hletter : letter ≠ 117 := by
    rintro rfl
    cases hunit
  rw [readChars.eq_def]
  dsimp only
  rw [if_neg (by decide), if_pos rfl, if_neg hletter, hunit]
  rfl

theorem readChars_hex {a b c d unit : CodeUnit} (hunit : hexUnit a b c d = some unit) (rest : JsString) :
    readChars (92 :: 117 :: a :: b :: c :: d :: rest) = (readChars rest).map (prepend unit) := by
  rw [readChars.eq_def]
  dsimp only
  rw [if_neg (by decide), if_pos rfl, if_pos rfl, hunit]
  rfl

/-- What is read is the text up to a quotation mark. -/
theorem isChars_of_readChars {text value rest : JsString} (h : readChars text = some (value, rest)) :
    ∃ source, text = source ++ 34 :: rest ∧ IsChars source value := by
  have hmap : ∀ {unit : CodeUnit} {text value : JsString},
      (readChars text).map (prepend unit) = some (value, rest) →
        ∃ tail, value = unit :: tail ∧ readChars text = some (tail, rest) := by
    intro unit text value h
    obtain ⟨⟨tail, other⟩, hread, heq⟩ := Option.map_eq_some_iff.1 h
    obtain ⟨rfl, rfl⟩ := Prod.mk.inj heq
    exact ⟨tail, rfl, hread⟩
  induction text using readChars.induct generalizing value with
  | case1 => cases h
  | case2 tail =>
      rw [readChars.eq_def] at h
      cases h
      exact ⟨[], rfl, .nil⟩
  | case3 => cases h
  | case4 a b c d tail _ ih =>
      rw [readChars.eq_def] at h
      dsimp only at h
      rw [if_neg (by decide), if_pos rfl, if_pos rfl] at h
      obtain ⟨unit, hunit, h⟩ := Option.bind_eq_some_iff.1 h
      obtain ⟨value, rfl, hread⟩ := hmap h
      obtain ⟨source, rfl, hsource⟩ := ih hread
      exact ⟨_, rfl, .hex hunit hsource⟩
  | case5 tail hshort _ =>
      rw [readChars.eq_def] at h
      dsimp only at h
      rw [if_neg (by decide), if_pos rfl, if_pos rfl] at h
      split at h
      · exact absurd rfl (hshort _ _ _ _ _)
      · cases h
  | case6 letter tail hletter _ ih =>
      rw [readChars.eq_def] at h
      dsimp only at h
      rw [if_neg (by decide), if_pos rfl, if_neg hletter] at h
      obtain ⟨unit, hunit, h⟩ := Option.bind_eq_some_iff.1 h
      obtain ⟨value, rfl, hread⟩ := hmap h
      obtain ⟨source, rfl, hsource⟩ := ih hread
      exact ⟨_, rfl, .escape hunit hsource⟩
  | case7 unit tail hquote hslash hcontrol =>
      rw [readChars.eq_def] at h
      dsimp only at h
      rw [if_neg hquote, if_neg hslash, if_pos hcontrol] at h
      cases h
  | case8 unit tail hquote hslash hcontrol ih =>
      rw [readChars_plain hquote hslash (not_lt.1 hcontrol)] at h
      obtain ⟨value, rfl, hread⟩ := hmap h
      obtain ⟨source, rfl, hsource⟩ := ih hread
      exact ⟨_, rfl, .plain hquote hslash (not_lt.1 hcontrol) hsource⟩

/-- What stands in front of a quotation mark is read. -/
theorem readChars_of_isChars {source value : JsString} (h : IsChars source value) (rest : JsString) :
    readChars (source ++ 34 :: rest) = some (value, rest) := by
  induction h with
  | nil =>
      rw [List.nil_append, readChars.eq_def]
      rfl
  | plain hquote hslash hcontrol _ ih =>
      rw [List.cons_append, readChars_plain hquote hslash hcontrol, ih]
      rfl
  | escape hunit _ ih =>
      rw [List.cons_append, List.cons_append, readChars_escape hunit, ih]
      rfl
  | hex hunit _ ih =>
      simp only [List.cons_append]
      rw [readChars_hex hunit, ih]
      rfl

/-! ## Numbers -/

theorem isNumberUnit_of_isDigit (h : isDigit unit = true) : isNumberUnit unit = true := by
  simp [isNumberUnit, h]

/-- A part of a number has been read. -/
def Taken (text rest : JsString) : Prop :=
  ∃ taken, text = taken ++ rest ∧ ∀ unit ∈ taken, isNumberUnit unit = true

theorem Taken.refl (text : JsString) : Taken text text :=
  ⟨[], rfl, List.forall_mem_nil _⟩

theorem Taken.cons (h : isNumberUnit unit = true) {text rest : JsString}
    (hrest : Taken text rest) : Taken (unit :: text) rest := by
  obtain ⟨taken, rfl, htaken⟩ := hrest
  exact ⟨unit :: taken, rfl, List.forall_mem_cons.2 ⟨h, htaken⟩⟩

theorem Taken.trans {text middle rest : JsString} (h : Taken text middle) (h' : Taken middle rest) :
    Taken text rest := by
  obtain ⟨taken, rfl, htaken⟩ := h
  obtain ⟨more, rfl, hmore⟩ := h'
  exact ⟨taken ++ more, (List.append_assoc _ _ _).symm, List.forall_mem_append.2 ⟨htaken, hmore⟩⟩

theorem taken_readMinus (text : JsString) : Taken text (readMinus text).2 := by
  cases text with
  | nil => exact .refl _
  | cons unit rest =>
      rw [readMinus]
      split_ifs with hminus
      · rw [hminus]
        exact .cons rfl (.refl rest)
      · exact .refl _

theorem taken_readDigits {text digits rest : JsString} (h : readDigits text = some (digits, rest)) :
    Taken text rest ∧ text ≠ rest := by
  unfold readDigits at h
  split_ifs at h with hempty
  cases h
  refine ⟨⟨text.takeWhile isDigit, List.takeWhile_append_dropWhile.symm, fun unit hunit => ?_⟩, fun heq => ?_⟩
  · exact isNumberUnit_of_isDigit (List.mem_takeWhile_imp hunit)
  · have hall : text.takeWhile isDigit ++ text.dropWhile isDigit = text := List.takeWhile_append_dropWhile
    rw [← heq] at hall
    exact hempty (List.append_left_eq_self.1 hall)

theorem taken_readInteger {text digits rest : JsString} (h : readInteger text = some (digits, rest)) :
    Taken text rest ∧ text ≠ rest := by
  obtain ⟨⟨digits', rest'⟩, hread, h⟩ := Option.bind_eq_some_iff.1 h
  split_ifs at h
  cases h
  exact taken_readDigits hread

theorem taken_readFraction {text fraction rest : JsString} (h : readFraction text = some (fraction, rest)) :
    Taken text rest := by
  cases text with
  | nil =>
      cases h
      exact .refl _
  | cons unit tail =>
      rw [readFraction] at h
      split_ifs at h with hpoint
      · rw [hpoint]
        exact .cons rfl (taken_readDigits h).1
      · cases h
        exact .refl _

theorem taken_readSign (text : JsString) : Taken text (readSign text).2 := by
  cases text with
  | nil => exact .refl _
  | cons unit rest =>
      rw [readSign]
      split_ifs with hminus hplus
      · rw [hminus]
        exact .cons rfl (.refl rest)
      · rw [hplus]
        exact .cons rfl (.refl rest)
      · exact .refl _

theorem taken_readExponent {text rest : JsString} {exponent : ℤ} (h : readExponent text = some (exponent, rest)) :
    Taken text rest := by
  cases text with
  | nil =>
      cases h
      exact .refl _
  | cons unit tail =>
      rw [readExponent] at h
      split_ifs at h with hmark
      · obtain ⟨⟨digits, other⟩, hread, heq⟩ := Option.map_eq_some_iff.1 h
        cases heq
        have hunit : isNumberUnit unit = true := by
          rcases hmark with rfl | rfl <;> rfl
        exact .cons hunit ((taken_readSign tail).trans (taken_readDigits hread).1)
      · cases h
        exact .refl _

/-- A number is made of the units of numbers. -/
theorem units_of_numberValue {text : JsString} {value : ℚ} (h : numberValue text = some value) :
    text ≠ [] ∧ ∀ unit ∈ text, isNumberUnit unit = true := by
  obtain ⟨⟨integer, afterInteger⟩, hinteger, h⟩ := Option.bind_eq_some_iff.1 h
  obtain ⟨⟨fraction, afterFraction⟩, hfraction, h⟩ := Option.bind_eq_some_iff.1 h
  obtain ⟨⟨exponent, rest⟩, hexponent, h⟩ := Option.bind_eq_some_iff.1 h
  dsimp only at h
  split_ifs at h with hrest
  subst hrest
  have hread : readInteger (readMinus text).2 = some (integer, afterInteger) := hinteger
  obtain ⟨hint, hne⟩ := taken_readInteger hread
  have htail := hint.trans ((taken_readFraction hfraction).trans (taken_readExponent hexponent))
  obtain ⟨taken, htext, htaken⟩ := (taken_readMinus text).trans htail
  rw [List.append_nil] at htext
  refine ⟨?_, htext ▸ htaken⟩
  rintro rfl
  obtain ⟨digits, hdigits, -⟩ := hint
  exact hne (List.append_eq_nil_iff.1 hdigits.symm).2.symm

/-! ## The reader follows the grammar -/

theorem joinTexts_cons {text : JsString} {texts : List JsString} (h : texts ≠ []) :
    joinTexts (text :: texts) = text ++ 44 :: joinTexts texts := by
  cases texts with
  | nil => exact absurd rfl h
  | cons other texts => rfl

/-- The elements of an array, read up to its closing bracket. -/
def ItemsRead (text : JsString) (items : List Value) (rest : JsString) : Prop :=
  ∃ elements : List Element, elements ≠ [] ∧ text = joinTexts (elements.map Element.text) ++ 93 :: rest ∧
    (∀ element ∈ elements, element.Spaced) ∧ (∀ element ∈ elements, IsValue element.source element.value) ∧
    items = elements.map Element.value

/-- The members of an object, read up to its closing bracket. -/
def MembersRead (text : JsString) (entries : List (JsString × Value)) (rest : JsString) : Prop :=
  ∃ members : List Member, members ≠ [] ∧ text = joinTexts (members.map Member.text) ++ 125 :: rest ∧
    (∀ member ∈ members, member.Named) ∧
    (∀ member ∈ members, IsValue member.element.source member.element.value) ∧
    entries = members.map Member.entry

theorem expectName_eq_some {name text rest : JsString} (h : expectName name text = some rest) :
    text = name ++ rest := by
  unfold expectName at h
  split_ifs at h with hname
  cases h
  exact List.prefix_iff_eq_append.1 (List.isPrefixOf_iff_prefix.1 hname) |>.symm

/-- What stands behind an element. -/
theorem readMore_eq_some {α : Type} {more : JsString → Option (List α × JsString)} {closing : CodeUnit}
    {element : α} {text rest : JsString} {found : List α} (h : readMore more closing element text = some (found, rest)) :
    ∃ blank, Blank blank ∧
      ((∃ tail others, text = blank ++ 44 :: tail ∧ more tail = some (others, rest) ∧ found = element :: others) ∨
        (text = blank ++ closing :: rest ∧ found = [element])) := by
  unfold readMore at h
  split at h
  · next tail hcomma =>
      obtain ⟨⟨others, other⟩, hmore, heq⟩ := Option.map_eq_some_iff.1 h
      cases heq
      obtain ⟨blank, hblank, rfl⟩ := expect_skipSpace hcomma
      exact ⟨blank, hblank, .inl ⟨tail, others, rfl, hmore, rfl⟩⟩
  · obtain ⟨other, hclosing, heq⟩ := Option.map_eq_some_iff.1 h
    cases heq
    obtain ⟨blank, hblank, rfl⟩ := expect_skipSpace hclosing
    exact ⟨blank, hblank, .inr ⟨rfl, rfl⟩⟩

theorem itemsRead_of_readMore {more : JsString → Option (List Value × JsString)} {before source text rest : JsString}
    {value : Value} {items : List Value} (hbefore : Blank before) (hvalue : IsValue source value)
    (hmore : ∀ text others rest, more text = some (others, rest) → ItemsRead text others rest)
    (h : readMore more 93 value text = some (items, rest)) :
    ItemsRead (before ++ (source ++ text)) items rest := by
  obtain ⟨after, hafter, ⟨tail, others, rfl, htail, rfl⟩ | ⟨rfl, rfl⟩⟩ := readMore_eq_some h
  · obtain ⟨elements, hne, rfl, hspaced, hvalues, rfl⟩ := hmore tail others rest htail
    refine ⟨⟨before, source, after, value⟩ :: elements, List.cons_ne_nil _ _, ?_,
      List.forall_mem_cons.2 ⟨⟨hbefore, hafter⟩, hspaced⟩, List.forall_mem_cons.2 ⟨hvalue, hvalues⟩, rfl⟩
    rw [List.map_cons, joinTexts_cons (List.map_eq_nil_iff.not.2 hne), Element.text]
    simp only [List.append_assoc, List.cons_append]
  · refine ⟨[⟨before, source, after, value⟩], List.cons_ne_nil _ _, ?_,
      List.forall_mem_singleton.2 ⟨hbefore, hafter⟩, List.forall_mem_singleton.2 hvalue, rfl⟩
    show _ = (before ++ (source ++ after)) ++ _
    simp only [List.append_assoc]

theorem membersRead_of_readMore {more : JsString → Option (List (JsString × Value) × JsString)}
    {lead name gap before source text rest key : JsString} {value : Value} {entries : List (JsString × Value)}
    (hlead : Blank lead) (hname : IsChars name key) (hgap : Blank gap) (hbefore : Blank before)
    (hvalue : IsValue source value)
    (hmore : ∀ text others rest, more text = some (others, rest) → MembersRead text others rest)
    (h : readMore more 125 (key, value) text = some (entries, rest)) :
    MembersRead (lead ++ 34 :: (name ++ 34 :: (gap ++ 58 :: (before ++ (source ++ text))))) entries rest := by
  obtain ⟨after, hafter, ⟨tail, others, rfl, htail, rfl⟩ | ⟨rfl, rfl⟩⟩ := readMore_eq_some h
  · obtain ⟨members, hne, rfl, hnamed, hvalues, rfl⟩ := hmore tail others rest htail
    refine ⟨⟨lead, name, gap, key, before, source, after, value⟩ :: members, List.cons_ne_nil _ _, ?_,
      List.forall_mem_cons.2 ⟨⟨hlead, hgap, hname, hbefore, hafter⟩, hnamed⟩,
      List.forall_mem_cons.2 ⟨hvalue, hvalues⟩, rfl⟩
    rw [List.map_cons, joinTexts_cons (List.map_eq_nil_iff.not.2 hne), Member.text, Element.text]
    simp only [List.append_assoc, List.cons_append]
  · refine ⟨[⟨lead, name, gap, key, before, source, after, value⟩], List.cons_ne_nil _ _, ?_,
      List.forall_mem_singleton.2 ⟨hlead, hgap, hname, hbefore, hafter⟩, List.forall_mem_singleton.2 hvalue, rfl⟩
    show _ = Member.text _ ++ _
    rw [Member.text, Element.text]
    simp only [List.append_assoc, List.cons_append]

/-- What is read follows the grammar. -/
theorem read_sound (fuel : ℕ) :
    (∀ text value rest, readValue fuel text = some (value, rest) →
      ∃ source, text = source ++ rest ∧ IsValue source value) ∧
    (∀ text items rest, readItems fuel text = some (items, rest) → ItemsRead text items rest) ∧
    ∀ text entries rest, readMembers fuel text = some (entries, rest) → MembersRead text entries rest := by
  induction fuel with
  | zero =>
      refine ⟨?_, ?_, ?_⟩
      all_goals
        intro text value rest h
        cases h
  | succ fuel ih =>
      obtain ⟨hvalue, hitems, hmembers⟩ := ih
      refine ⟨?_, ?_, ?_⟩
      · intro text value rest h
        cases text with
        | nil => cases h
        | cons unit tail =>
            rw [readValue] at h
            split_ifs at h with hquote hsquare hcurly hnull htrue hfalse
            · obtain ⟨⟨string, other⟩, hstring, heq⟩ := Option.map_eq_some_iff.1 h
              cases heq
              obtain ⟨name, rfl, hname⟩ := isChars_of_readChars hstring
              exact ⟨34 :: (name ++ [34]), by simp [hquote], .string hname⟩
            · split at h
              · next other hclosing =>
                  cases h
                  obtain ⟨blank, hblank, rfl⟩ := expect_skipSpace hclosing
                  exact ⟨91 :: (blank ++ [93]), by simp [hsquare], .emptyArray hblank⟩
              · obtain ⟨⟨items, other⟩, hread, heq⟩ := Option.map_eq_some_iff.1 h
                cases heq
                obtain ⟨elements, hne, rfl, hspaced, hvalues, rfl⟩ := hitems _ _ _ hread
                exact ⟨91 :: (joinTexts (elements.map Element.text) ++ [93]), by simp [hsquare],
                  .array hne hspaced hvalues⟩
            · split at h
              · next other hclosing =>
                  cases h
                  obtain ⟨blank, hblank, rfl⟩ := expect_skipSpace hclosing
                  exact ⟨123 :: (blank ++ [125]), by simp [hcurly], .emptyObject hblank⟩
              · obtain ⟨⟨entries, other⟩, hread, heq⟩ := Option.map_eq_some_iff.1 h
                cases heq
                obtain ⟨members, hne, rfl, hnamed, hvalues, rfl⟩ := hmembers _ _ _ hread
                exact ⟨123 :: (joinTexts (members.map Member.text) ++ [125]), by simp [hcurly],
                  .object hne hnamed hvalues⟩
            · obtain ⟨other, hname, heq⟩ := Option.map_eq_some_iff.1 h
              cases heq
              exact ⟨js "null", by rw [hnull, expectName_eq_some hname]; rfl, .null⟩
            · obtain ⟨other, hname, heq⟩ := Option.map_eq_some_iff.1 h
              cases heq
              exact ⟨js "true", by rw [htrue, expectName_eq_some hname]; rfl, .bool true⟩
            · obtain ⟨other, hname, heq⟩ := Option.map_eq_some_iff.1 h
              cases heq
              exact ⟨js "false", by rw [hfalse, expectName_eq_some hname]; rfl, .bool false⟩
            · obtain ⟨number, hnumber, heq⟩ := Option.map_eq_some_iff.1 h
              cases heq
              exact ⟨_, List.takeWhile_append_dropWhile.symm, .number hnumber⟩
      · intro text items rest h
        obtain ⟨⟨item, middle⟩, hitem, h⟩ := Option.bind_eq_some_iff.1 h
        obtain ⟨before, hbefore, htext⟩ := eq_append_skipSpace text
        obtain ⟨source, hsource, hitem⟩ := hvalue _ _ _ hitem
        rw [htext, hsource]
        exact itemsRead_of_readMore hbefore hitem hitems h
      · intro text entries rest h
        obtain ⟨afterQuote, hquote, h⟩ := Option.bind_eq_some_iff.1 h
        obtain ⟨⟨key, afterName⟩, hname, h⟩ := Option.bind_eq_some_iff.1 h
        obtain ⟨afterColon, hcolon, h⟩ := Option.bind_eq_some_iff.1 h
        obtain ⟨⟨value, middle⟩, hitem, hmore⟩ := Option.bind_eq_some_iff.1 h
        obtain ⟨lead, hlead, rfl⟩ := expect_skipSpace hquote
        obtain ⟨name, rfl, hkey⟩ := isChars_of_readChars hname
        obtain ⟨gap, hgap, rfl⟩ := expect_skipSpace hcolon
        obtain ⟨before, hbefore, htext⟩ := eq_append_skipSpace afterColon
        obtain ⟨source, hsource, hitem⟩ := hvalue _ _ _ hitem
        rw [htext, hsource]
        exact membersRead_of_readMore hlead hkey hgap hbefore hitem hmembers hmore

/-! ## The grammar is read -/

/-- No number goes on here. -/
def Ends (rest : JsString) : Prop :=
  ∀ unit, rest.head? = some unit → isNumberUnit unit = false

theorem ends_cons (h : isNumberUnit unit = false) (rest : JsString) : Ends (unit :: rest) := by
  intro other hother
  rw [← Option.some.inj hother]
  exact h

theorem isNumberUnit_of_isSpace (h : isSpace unit = true) : isNumberUnit unit = false := by
  simp only [isSpace, Bool.or_eq_true, decide_eq_true_eq] at h
  rcases h with ((rfl | rfl) | rfl) | rfl <;> rfl

/-- No number goes on behind white space and a unit of another kind. -/
theorem ends_blank {blank : JsString} (hblank : Blank blank) (h : isNumberUnit unit = false)
    (rest : JsString) : Ends (blank ++ unit :: rest) := by
  cases blank with
  | nil => exact ends_cons h rest
  | cons space blank => exact ends_cons (isNumberUnit_of_isSpace (hblank space List.mem_cons_self)) _

theorem expect_self (unit : CodeUnit) (rest : JsString) : expect unit (unit :: rest) = some rest :=
  if_pos rfl

theorem expect_of_ne {unit other : CodeUnit} (h : other ≠ unit) (rest : JsString) :
    expect unit (other :: rest) = none :=
  if_neg h

theorem expectName_append (name rest : JsString) : expectName name (name ++ rest) = some rest := by
  rw [expectName, if_pos (List.isPrefixOf_iff_prefix.2 (List.prefix_append _ _)), List.drop_left]

/-- The first unit of a value. -/
def Begins (unit : CodeUnit) : Prop :=
  isNumberUnit unit = true ∨ unit = 34 ∨ unit = 91 ∨ unit = 123 ∨ unit = 110 ∨ unit = 116 ∨ unit = 102

theorem IsValue.begins {source : JsString} {value : Value} (h : IsValue source value) :
    ∃ unit tail, source = unit :: tail ∧ Begins unit := by
  cases h with
  | null => exact ⟨110, js "ull", rfl, by simp [Begins]⟩
  | bool value =>
      cases value with
      | true => exact ⟨116, js "rue", rfl, by simp [Begins]⟩
      | false => exact ⟨102, js "alse", rfl, by simp [Begins]⟩
  | number h =>
      obtain ⟨hne, hunits⟩ := units_of_numberValue h
      obtain ⟨unit, tail, rfl⟩ := List.exists_cons_of_ne_nil hne
      exact ⟨unit, tail, rfl, .inl (hunits unit List.mem_cons_self)⟩
  | string h => exact ⟨34, _, rfl, by simp [Begins]⟩
  | emptyArray h => exact ⟨91, _, rfl, by simp [Begins]⟩
  | array hne hspaced h => exact ⟨91, _, rfl, by simp [Begins]⟩
  | emptyObject h => exact ⟨123, _, rfl, by simp [Begins]⟩
  | object hne hnamed h => exact ⟨123, _, rfl, by simp [Begins]⟩

/-- White space and separators begin no value. -/
theorem Begins.ne {unit other : CodeUnit} (h : Begins unit) (hother : ¬Begins other) : unit ≠ other := by
  rintro rfl
  exact hother h

theorem Begins.isSpace (h : Begins unit) : isSpace unit = false := by
  rw [Bool.eq_false_iff]
  intro hspace
  simp only [JsonSource.isSpace, Bool.or_eq_true, decide_eq_true_eq] at hspace
  rcases hspace with ((rfl | rfl) | rfl) | rfl <;> revert h <;> unfold Begins <;> decide

/-- White space in front of a value is skipped. -/
theorem skipSpace_value {blank source rest : JsString} {value : Value} (hblank : Blank blank)
    (h : IsValue source value) : skipSpace (blank ++ (source ++ rest)) = source ++ rest := by
  obtain ⟨unit, tail, rfl, hunit⟩ := h.begins
  rw [skipSpace_append hblank, List.cons_append, skipSpace_cons hunit.isSpace]

/-- A value is read in front of any rest, with as much fuel as it has units. -/
def Reads (source : JsString) (value : Value) : Prop :=
  ∀ fuel rest, source.length ≤ fuel → Ends rest → readValue fuel (source ++ rest) = some (value, rest)

theorem readMore_last {α : Type} (more : JsString → Option (List α × JsString)) {closing : CodeUnit} (element : α)
    {blank : JsString} (hblank : Blank blank) (hspace : isSpace closing = false) (hcomma : closing ≠ 44)
    (rest : JsString) : readMore more closing element (blank ++ closing :: rest) = some ([element], rest) := by
  rw [readMore, skipSpace_append hblank, skipSpace_cons hspace, expect_of_ne hcomma, expect_self]
  rfl

theorem readMore_more {α : Type} {more : JsString → Option (List α × JsString)} (closing : CodeUnit) (element : α)
    {blank : JsString} (hblank : Blank blank) {text rest : JsString} {others : List α}
    (hmore : more text = some (others, rest)) :
    readMore more closing element (blank ++ 44 :: text) = some (element :: others, rest) := by
  rw [readMore, skipSpace_append hblank, skipSpace_cons rfl, expect_self]
  show (more text).map _ = _
  rw [hmore]
  rfl

theorem readItems_complete {elements : List Element} (hne : elements ≠ [])
    (hspaced : ∀ element ∈ elements, element.Spaced)
    (hvalues : ∀ element ∈ elements, IsValue element.source element.value)
    (hreads : ∀ element ∈ elements, Reads element.source element.value) (fuel : ℕ) (rest : JsString)
    (hfuel : (joinTexts (elements.map Element.text)).length < fuel) :
    readItems fuel (joinTexts (elements.map Element.text) ++ 93 :: rest) =
      some (elements.map Element.value, rest) := by
  induction elements generalizing fuel with
  | nil => exact absurd rfl hne
  | cons element elements ih =>
      obtain ⟨hspace, hspaced⟩ := List.forall_mem_cons.1 hspaced
      obtain ⟨hvalue, hvalues⟩ := List.forall_mem_cons.1 hvalues
      obtain ⟨hread, hreads⟩ := List.forall_mem_cons.1 hreads
      obtain ⟨fuel, rfl⟩ := Nat.exists_eq_add_one.2 (Nat.zero_lt_of_lt hfuel)
      by_cases hlast : elements = []
      · subst hlast
        have htext : joinTexts ([element].map Element.text) ++ 93 :: rest =
            element.before ++ (element.source ++ (element.after ++ 93 :: rest)) := by
          show element.text ++ _ = _
          rw [Element.text, List.append_assoc, List.append_assoc]
        have hlength : element.source.length ≤ fuel := by
          rw [show joinTexts ([element].map Element.text) = element.text from rfl, Element.text,
            List.length_append, List.length_append] at hfuel
          omega
        rw [htext, readItems, skipSpace_value hspace.before hvalue,
          hread fuel _ hlength (ends_blank hspace.after rfl rest)]
        exact readMore_last _ _ hspace.after rfl (by decide) rest
      · have hmap : elements.map Element.text ≠ [] := List.map_eq_nil_iff.not.2 hlast
        have htext : joinTexts ((element :: elements).map Element.text) ++ 93 :: rest =
            element.before ++ (element.source ++ (element.after ++ 44 ::
              (joinTexts (elements.map Element.text) ++ 93 :: rest))) := by
          rw [List.map_cons, joinTexts_cons hmap, Element.text]
          simp only [List.append_assoc, List.cons_append]
        rw [List.map_cons, joinTexts_cons hmap, Element.text] at hfuel
        simp only [List.length_append, List.length_cons] at hfuel
        rw [htext, readItems, skipSpace_value hspace.before hvalue,
          hread fuel _ (by omega) (ends_blank hspace.after rfl _)]
        exact readMore_more 93 element.value hspace.after (ih hlast hspaced hvalues hreads fuel (by omega))

theorem readMembers_complete {members : List Member} (hne : members ≠ [])
    (hnamed : ∀ member ∈ members, member.Named)
    (hvalues : ∀ member ∈ members, IsValue member.element.source member.element.value)
    (hreads : ∀ member ∈ members, Reads member.element.source member.element.value) (fuel : ℕ) (rest : JsString)
    (hfuel : (joinTexts (members.map Member.text)).length < fuel) :
    readMembers fuel (joinTexts (members.map Member.text) ++ 125 :: rest) =
      some (members.map Member.entry, rest) := by
  induction members generalizing fuel with
  | nil => exact absurd rfl hne
  | cons member members ih =>
      obtain ⟨hname, hnamed⟩ := List.forall_mem_cons.1 hnamed
      obtain ⟨hvalue, hvalues⟩ := List.forall_mem_cons.1 hvalues
      obtain ⟨hread, hreads⟩ := List.forall_mem_cons.1 hreads
      obtain ⟨fuel, rfl⟩ := Nat.exists_eq_add_one.2 (Nat.zero_lt_of_lt hfuel)
      have hfront : ∀ {tail : JsString}, member.element.source.length ≤ fuel →
          Ends (member.element.after ++ tail) →
          readMembers (fuel + 1) (member.lead ++ 34 :: (member.name ++ 34 :: (member.gap ++ 58 ::
            (member.element.before ++ (member.element.source ++ (member.element.after ++ tail)))))) =
            readMore (readMembers fuel) 125 member.entry (member.element.after ++ tail) := by
        intro tail hlength hends
        rw [readMembers, skipSpace_append hname.lead, skipSpace_cons rfl, expect_self]
        show (readChars _ >>= _ : Option _) = _
        rw [readChars_of_isChars hname.name]
        show (expect 58 _ >>= _ : Option _) = _
        rw [skipSpace_append hname.gap, skipSpace_cons rfl, expect_self]
        show (readValue fuel _ >>= _ : Option _) = _
        rw [skipSpace_value hname.element.before hvalue, hread fuel _ hlength hends]
        rfl
      by_cases hlast : members = []
      · subst hlast
        have htext : joinTexts ([member].map Member.text) ++ 125 :: rest =
            member.lead ++ 34 :: (member.name ++ 34 :: (member.gap ++ 58 :: (member.element.before ++
              (member.element.source ++ (member.element.after ++ 125 :: rest))))) := by
          show member.text ++ _ = _
          rw [Member.text, Element.text]
          simp only [List.append_assoc, List.cons_append]
        rw [show joinTexts ([member].map Member.text) = member.text from rfl, Member.text, Element.text] at hfuel
        simp only [List.length_append, List.length_cons] at hfuel
        rw [htext, hfront (by omega) (ends_blank hname.element.after rfl rest)]
        exact readMore_last _ _ hname.element.after rfl (by decide) rest
      · have hmap : members.map Member.text ≠ [] := List.map_eq_nil_iff.not.2 hlast
        have htext : joinTexts ((member :: members).map Member.text) ++ 125 :: rest =
            member.lead ++ 34 :: (member.name ++ 34 :: (member.gap ++ 58 :: (member.element.before ++
              (member.element.source ++ (member.element.after ++ 44 ::
                (joinTexts (members.map Member.text) ++ 125 :: rest)))))) := by
          rw [List.map_cons, joinTexts_cons hmap, Member.text, Element.text]
          simp only [List.append_assoc, List.cons_append]
        rw [List.map_cons, joinTexts_cons hmap, Member.text, Element.text] at hfuel
        simp only [List.length_append, List.length_cons] at hfuel
        rw [htext, hfront (by omega) (ends_blank hname.element.after rfl _)]
        exact readMore_more 125 member.entry hname.element.after
          (ih hlast hnamed hvalues hreads fuel (by omega))

/-- What stands first in an array or an object does not close it. -/
theorem expect_joinTexts {texts : List JsString} {blank : JsString} {unit closing : CodeUnit} {tail : JsString}
    {more : List JsString} (htexts : texts = (blank ++ unit :: tail) :: more) (hblank : Blank blank)
    (hspace : isSpace unit = false) (hne : unit ≠ closing) (rest : JsString) :
    expect closing (skipSpace (joinTexts texts ++ rest)) = none := by
  have hjoined : ∃ others, joinTexts texts = blank ++ unit :: (tail ++ others) := by
    rw [htexts]
    cases more with
    | nil => exact ⟨[], by rw [joinTexts, List.append_nil]⟩
    | cons text more =>
        refine ⟨44 :: joinTexts (text :: more), ?_⟩
        rw [joinTexts, List.append_assoc, List.cons_append]
  obtain ⟨others, hjoined⟩ := hjoined
  rw [hjoined, List.append_assoc, skipSpace_append hblank, List.cons_append, skipSpace_cons hspace,
    expect_of_ne hne]

theorem takeWhile_number {source rest : JsString} (h : ∀ unit ∈ source, isNumberUnit unit = true)
    (hends : Ends rest) : (source ++ rest).takeWhile isNumberUnit = source ∧
      (source ++ rest).dropWhile isNumberUnit = rest := by
  rw [List.takeWhile_append_of_pos h, List.dropWhile_append_of_pos h]
  cases rest with
  | nil => exact ⟨List.append_nil _, rfl⟩
  | cons unit rest =>
      have hunit := hends unit rfl
      rw [List.takeWhile_cons_of_neg (Bool.eq_false_iff.1 hunit),
        List.dropWhile_cons_of_neg (Bool.eq_false_iff.1 hunit)]
      exact ⟨List.append_nil _, rfl⟩

/-- Every value of the grammar is read. -/
theorem reads_of_isValue {source : JsString} {value : Value} (h : IsValue source value) : Reads source value := by
  induction h with
  | null =>
      intro fuel rest hfuel _
      obtain ⟨fuel, rfl⟩ := Nat.exists_eq_add_one.2 (Nat.lt_of_lt_of_le (by decide) hfuel)
      show (expectName (js "ull") (js "ull" ++ rest)).map _ = _
      rw [expectName_append]
      rfl
  | bool value =>
      intro fuel rest hfuel _
      obtain ⟨fuel, rfl⟩ : ∃ smaller, fuel = smaller + 1 := ⟨fuel - 1, by
        cases value <;> simp [js] at hfuel <;> omega⟩
      cases value with
      | true =>
          show (expectName (js "rue") (js "rue" ++ rest)).map _ = _
          rw [expectName_append]
          rfl
      | false =>
          show (expectName (js "alse") (js "alse" ++ rest)).map _ = _
          rw [expectName_append]
          rfl
  | @number source value h =>
      intro fuel rest hfuel hends
      obtain ⟨hne, hunits⟩ := units_of_numberValue h
      obtain ⟨htake, hdrop⟩ := takeWhile_number hunits hends
      obtain ⟨unit, tail, rfl⟩ := List.exists_cons_of_ne_nil hne
      obtain ⟨fuel, rfl⟩ := Nat.exists_eq_add_one.2 (Nat.zero_lt_of_lt hfuel)
      have hunit := hunits unit List.mem_cons_self
      have hother : ∀ other : CodeUnit, isNumberUnit other = false → unit ≠ other := by
        rintro other hother rfl
        rw [hunit] at hother
        cases hother
      rw [List.cons_append] at htake hdrop
      rw [List.cons_append, readValue, if_neg (hother 34 rfl), if_neg (hother 91 rfl), if_neg (hother 123 rfl),
        if_neg (hother 110 rfl), if_neg (hother 116 rfl), if_neg (hother 102 rfl), htake, hdrop, h]
      rfl
  | @string source value h =>
      intro fuel rest hfuel _
      obtain ⟨fuel, rfl⟩ := Nat.exists_eq_add_one.2 (Nat.zero_lt_of_lt hfuel)
      rw [List.cons_append, List.append_assoc, readValue, if_pos rfl]
      show (readChars (source ++ 34 :: rest)).map _ = _
      rw [readChars_of_isChars h]
      rfl
  | @emptyArray blank h =>
      intro fuel rest hfuel _
      obtain ⟨fuel, rfl⟩ := Nat.exists_eq_add_one.2 (Nat.zero_lt_of_lt hfuel)
      have hclosing : expect 93 (skipSpace (blank ++ ([93] ++ rest))) = some rest := by
        rw [skipSpace_append h]
        rfl
      rw [List.cons_append, List.append_assoc, readValue, if_neg (by decide), if_pos rfl, hclosing]
  | @array elements hne hspaced hvalues hreads =>
      intro fuel rest hfuel _
      obtain ⟨fuel, rfl⟩ := Nat.exists_eq_add_one.2 (Nat.zero_lt_of_lt hfuel)
      rw [List.length_cons, List.length_append, List.length_singleton] at hfuel
      have hopen : expect 93 (skipSpace (joinTexts (elements.map Element.text) ++ ([93] ++ rest))) = none := by
        obtain ⟨element, elements, rfl⟩ := List.exists_cons_of_ne_nil hne
        obtain ⟨unit, tail, hsource, hunit⟩ := (hvalues element List.mem_cons_self).begins
        have hfirst : (element :: elements).map Element.text =
            (element.before ++ unit :: (tail ++ element.after)) :: elements.map Element.text := by
          rw [List.map_cons, Element.text, hsource, List.cons_append]
        have hclosing : unit ≠ 93 := hunit.ne (by unfold Begins; decide)
        exact expect_joinTexts hfirst (hspaced element List.mem_cons_self).before hunit.isSpace hclosing _
      rw [List.cons_append, List.append_assoc, readValue, if_neg (by decide), if_pos rfl, hopen]
      show (readItems fuel (joinTexts (elements.map Element.text) ++ 93 :: rest)).map _ = _
      rw [readItems_complete hne hspaced hvalues hreads fuel rest (by omega)]
      rfl
  | @emptyObject blank h =>
      intro fuel rest hfuel _
      obtain ⟨fuel, rfl⟩ := Nat.exists_eq_add_one.2 (Nat.zero_lt_of_lt hfuel)
      have hclosing : expect 125 (skipSpace (blank ++ ([125] ++ rest))) = some rest := by
        rw [skipSpace_append h]
        rfl
      rw [List.cons_append, List.append_assoc, readValue, if_neg (by decide), if_neg (by decide), if_pos rfl,
        hclosing]
  | @object members hne hnamed hvalues hreads =>
      intro fuel rest hfuel _
      obtain ⟨fuel, rfl⟩ := Nat.exists_eq_add_one.2 (Nat.zero_lt_of_lt hfuel)
      rw [List.length_cons, List.length_append, List.length_singleton] at hfuel
      have hopen : expect 125 (skipSpace (joinTexts (members.map Member.text) ++ ([125] ++ rest))) = none := by
        obtain ⟨member, members, rfl⟩ := List.exists_cons_of_ne_nil hne
        have hfirst : (member :: members).map Member.text = (member.lead ++ 34 :: (member.name ++ 34 ::
            (member.gap ++ 58 :: member.element.text))) :: members.map Member.text := rfl
        exact expect_joinTexts hfirst (hnamed member List.mem_cons_self).lead rfl (by decide) _
      rw [List.cons_append, List.append_assoc, readValue, if_neg (by decide), if_neg (by decide), if_pos rfl,
        hopen]
      show (readMembers fuel (joinTexts (members.map Member.text) ++ 125 :: rest)).map _ = _
      rw [readMembers_complete hne hnamed hvalues hreads fuel rest (by omega)]
      rfl

/-- A text that is a value, with white space around it. -/
def IsText (text : JsString) (value : Value) : Prop :=
  ∃ before source after, Blank before ∧ Blank after ∧ text = before ++ (source ++ after) ∧ IsValue source value

/-- The texts that are read are those of the grammar. -/
theorem parse_eq_some_iff {text : JsString} {value : Value} : parse text = some value ↔ IsText text value := by
  constructor
  · intro h
    obtain ⟨⟨found, rest⟩, hread, h⟩ := Option.bind_eq_some_iff.1 h
    dsimp only at h
    split_ifs at h with hend
    cases h
    obtain ⟨before, hbefore, htext⟩ := eq_append_skipSpace text
    obtain ⟨source, hsource, hvalue⟩ := (read_sound _).1 _ _ _ hread
    obtain ⟨after, hafter, hrest⟩ := eq_append_skipSpace rest
    rw [hend, List.append_nil] at hrest
    exact ⟨before, source, rest, hbefore, hrest ▸ hafter, htext.trans (congrArg (before ++ ·) hsource), hvalue⟩
  · rintro ⟨before, source, after, hbefore, hafter, rfl, hvalue⟩
    have hlength : source.length ≤ (before ++ (source ++ after)).length + 1 := by
      rw [List.length_append, List.length_append]
      omega
    have hends : Ends after := by
      cases after with
      | nil => exact fun unit h => by cases h
      | cons unit after => exact ends_cons (isNumberUnit_of_isSpace (hafter unit List.mem_cons_self)) _
    have hrest : skipSpace after = [] := List.dropWhile_eq_nil_iff.2 hafter
    rw [parse, skipSpace_value hbefore hvalue, reads_of_isValue hvalue _ _ hlength hends]
    show (if skipSpace after = [] then some value else none) = _
    rw [if_pos hrest]

/-- The text of a string alone. -/
theorem parse_string {name key : JsString} (h : IsChars name key) :
    parse (34 :: (name ++ [34])) = some (.string key) :=
  parse_eq_some_iff.2 ⟨[], _, [], List.forall_mem_nil _, List.forall_mem_nil _, (List.append_nil _).symm, .string h⟩

end JsonSource
