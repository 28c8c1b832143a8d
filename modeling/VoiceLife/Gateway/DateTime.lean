import VoiceLife.Lib.Gregorian
import VoiceLife.Lib.JsText

/-! # Date-times of the gateway

The regular expression `ISO_8601` and the check `isValidIsoDateTime` of `device-gateway-parser.ts`,
with `Date.parse` on the texts that pass it. A business time is such a text; the services compare
some times as texts and some as instants.
-/

namespace VoiceLife.Gateway

/-- The groups of a match of `ISO_8601`. -/
structure Iso8601Match where
  year : ℕ
  month : ℕ
  day : ℕ
  hour : ℕ
  minute : ℕ
  second : ℕ
  fraction : JsString
  offsetSign : ℤ
  offsetHour : ℕ
  offsetMinute : ℕ

/-- `\d{n}`. -/
def readDigits (count : ℕ) (text : JsString) : Option (ℕ × JsString) :=
  if count ≤ text.length ∧ (text.take count).all JsNumber.isDigit then
    some (JsNumber.digitsValue (text.take count), text.drop count)
  else none

/-- A fixed code unit. -/
def expect (unit : CodeUnit) : JsString → Option JsString
  | [] => none
  | head :: rest => if head = unit then some rest else none

/-- `(?:\.(\d{1,9}))?`: the digits after the point. -/
def readFraction (text : JsString) : Option (JsString × JsString) :=
  match text with
  | 46 :: rest =>
    let digits := rest.takeWhile JsNumber.isDigit
    if 1 ≤ digits.length ∧ digits.length ≤ 9 then some (digits, rest.dropWhile JsNumber.isDigit)
    else none
  | _ => some ([], text)

/-- `(?:Z|[+-](\d{2}):(\d{2}))$`: the sign, the hours and the minutes of the offset. -/
def readOffset (text : JsString) : Option (ℤ × ℕ × ℕ) :=
  match text with
  | [90] => some (1, 0, 0)
  | sign :: rest =>
    if sign = 43 ∨ sign = 45 then do
      let (hour, rest) ← readDigits 2 rest
      let rest ← expect 58 rest
      let (minute, rest) ← readDigits 2 rest
      if rest = [] then some (if sign = 45 then -1 else 1, hour, minute) else none
    else none
  | [] => none

/-- `ISO_8601.exec`. -/
def iso8601 (text : JsString) : Option Iso8601Match := do
  let (year, text) ← readDigits 4 text
  let text ← expect 45 text
  let (month, text) ← readDigits 2 text
  let text ← expect 45 text
  let (day, text) ← readDigits 2 text
  let text ← expect 84 text
  let (hour, text) ← readDigits 2 text
  let text ← expect 58 text
  let (minute, text) ← readDigits 2 text
  let text ← expect 58 text
  let (second, text) ← readDigits 2 text
  let (fraction, text) ← readFraction text
  let (offsetSign, offsetHour, offsetMinute) ← readOffset text
  return { year, month, day, hour, minute, second, fraction, offsetSign, offsetHour, offsetMinute }

/-- The fields are in range. `Date.parse` is finite on such a text. -/
def Iso8601Match.InRange (fields : Iso8601Match) : Prop :=
  1 ≤ fields.month ∧ fields.month ≤ 12 ∧ 1 ≤ fields.day ∧
    fields.day ≤ Gregorian.monthLength fields.year fields.month ∧ fields.hour ≤ 23 ∧
      fields.minute ≤ 59 ∧ fields.second ≤ 59 ∧ fields.offsetHour ≤ 23 ∧ fields.offsetMinute ≤ 59

instance (fields : Iso8601Match) : Decidable fields.InRange :=
  inferInstanceAs (Decidable (_ ∧ _))

/-- `isValidIsoDateTime`. -/
def isValidIsoDateTime (text : JsString) : Bool :=
  match iso8601 text with
  | none => false
  | some fields => fields.InRange

/-- The milliseconds of a fraction of a second; further digits are cut off. -/
def fractionMillis (fraction : JsString) : ℕ :=
  JsNumber.digitsValue ((fraction ++ [48, 48, 48]).take 3)

/-- The instant in milliseconds since 1970. -/
def Iso8601Match.millis (fields : Iso8601Match) : ℤ :=
  Gregorian.dayNumber ⟨fields.year, fields.month, fields.day⟩ * 86400000 +
    (fields.hour * 3600000 + fields.minute * 60000 + fields.second * 1000 +
      fractionMillis fields.fraction) -
    fields.offsetSign * (fields.offsetHour * 3600000 + fields.offsetMinute * 60000)

/-- `IsoDateTime`: a text that passed the check. -/
structure IsoDateTime where
  text : JsString
  valid : isValidIsoDateTime text = true
  deriving DecidableEq

theorem IsoDateTime.eq_of_text_eq : ∀ {left right : IsoDateTime}, left.text = right.text → left = right
  | ⟨_, _⟩, ⟨_, _⟩, rfl => rfl

/-- `Date.parse`. -/
def IsoDateTime.parse (time : IsoDateTime) : ℤ :=
  match iso8601 time.text with
  | none => 0
  | some fields => fields.millis

/-- `<=` on texts. -/
def IsoDateTime.textLe (left right : IsoDateTime) : Bool :=
  left.text ≤ right.text

/-- A time given by its ASCII text. -/
def isoTime (text : String) (valid : isValidIsoDateTime (js text) = true) : IsoDateTime :=
  ⟨js text, valid⟩

example : (isoTime "2026-08-17T09:00:00.250+08:00" (by decide)).parse = 1786928400250 := by
  decide

example : isValidIsoDateTime (js "2026-02-29T09:00:00Z") = false := by
  decide

end VoiceLife.Gateway
