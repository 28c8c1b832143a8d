import VoiceLife.Lib.CInt
import VoiceLife.Lib.DecimalText
import VoiceLife.Schedule.Calendar

/-! # `contract_parsing.h`: date-times

`isValidIsoDateTime` accepts the texts of the existing date-times with an offset from UTC and up to nine
digits of a second (`isValidIsoDateTime_iff`). `IsoTime` is what such a text denotes, and
`isoDateTimeMillis` is its instant.
-/

open DecimalText

namespace VoiceLife.Contracts

/-! ## The readers -/

/-- `read_digits`. -/
def readDigits (count : ℕ) (text : Text) : Option (ℕ × Text) :=
  let digits := text.take count
  if digits.length = count ∧ digits.all isDigit then some (decimal digits, text.drop count) else none

/-- `expect`. -/
def expect (expected : UInt8) : Text → Option Text
  | [] => none
  | byte :: rest => if byte = expected then some rest else none

/-- The fraction of a second may have one to nine digits. -/
def skipFraction : Text → Option Text
  | 46 :: rest =>
      let digits := rest.takeWhile isDigit
      if digits.length < 1 ∨ 9 < digits.length then none else some (rest.dropWhile isDigit)
  | text => some text

/-- The hours and minutes of the offset. -/
def readOffset : Text → Option ((ℕ × ℕ) × Text)
  | 90 :: rest => some ((0, 0), rest)
  | sign :: rest =>
      if sign = 43 ∨ sign = 45 then do
        let (hour, rest) ← readDigits 2 rest
        let rest ← expect 58 rest
        let (minute, rest) ← readDigits 2 rest
        some ((hour, minute), rest)
      else none
  | [] => none

/-- The fields that `IsValidIsoDateTime` checks, with what is left of the text. -/
structure IsoFields where
  year : ℕ
  month : ℕ
  day : ℕ
  hour : ℕ
  minute : ℕ
  second : ℕ
  offsetHour : ℕ
  offsetMinute : ℕ
  rest : Text

/-- The first part of `IsValidIsoDateTime`: it reads the text. -/
def readIsoFields (input : Text) : Option IsoFields := do
  let (year, rest) ← readDigits 4 input
  let rest ← expect 45 rest
  let (month, rest) ← readDigits 2 rest
  let rest ← expect 45 rest
  let (day, rest) ← readDigits 2 rest
  let rest ← expect 84 rest
  let (hour, rest) ← readDigits 2 rest
  let rest ← expect 58 rest
  let (minute, rest) ← readDigits 2 rest
  let rest ← expect 58 rest
  let (second, rest) ← readDigits 2 rest
  let rest ← skipFraction rest
  let ((offsetHour, offsetMinute), rest) ← readOffset rest
  some ⟨year, month, day, hour, minute, second, offsetHour, offsetMinute, rest⟩

/-- `kDaysInMonth`. -/
def kDaysInMonth : List ℕ := [31, 28, 31, 30, 31, 30, 31, 31, 30, 31, 30, 31]

/-- The second part of `IsValidIsoDateTime`: it checks the fields. -/
def IsoFields.inRange (fields : IsoFields) : Bool :=
  if fields.rest ≠ [] ∨ fields.month < 1 ∨ 12 < fields.month then false
  else
    let leapYear := fields.year % 4 = 0 ∧ (fields.year % 100 ≠ 0 ∨ fields.year % 400 = 0)
    let maxDay := if fields.month = 2 ∧ leapYear then 29 else kDaysInMonth.getD (fields.month - 1) 0
    decide (1 ≤ fields.day ∧ fields.day ≤ maxDay ∧ fields.hour ≤ 23 ∧ fields.minute ≤ 59 ∧
      fields.second ≤ 59 ∧ fields.offsetHour ≤ 23 ∧ fields.offsetMinute ≤ 59)

/-- `IsValidIsoDateTime`. -/
def isValidIsoDateTime (input : Text) : Bool :=
  match readIsoFields input with
  | none => false
  | some fields => fields.inRange

/-- The `number` of `IsoDateTimeMillis`. -/
def number (input : Text) (offset count : ℕ) : ℤ :=
  decimal (field input offset count)

/-- The days since the epoch that `IsoDateTimeMillis` counts, with its unsigned arithmetic. -/
def isoDays (year month day : ℤ) : ℤ :=
  let year := if month ≤ 2 then year - 1 else year
  let era := (if year ≥ 0 then year else year - 399).tdiv 400
  let yearOfEra := CInt.toUnsigned (year - era * 400)
  let shiftedMonth := CInt.toUnsigned (month + if month > 2 then -3 else 9)
  let dayOfYear := CInt.toUnsigned ((153 * shiftedMonth + 2) / 5 + day - 1)
  let dayOfEra := CInt.toUnsigned (yearOfEra * 365 + yearOfEra / 4 - yearOfEra / 100 + dayOfYear)
  era * 146097 + dayOfEra - 719468

/-- `IsoDateTimeMillis`. -/
def isoDateTimeMillis (input : Text) : Option ℤ :=
  if isValidIsoDateTime input then
    let days := isoDays (number input 0 4) (number input 5 2) (number input 8 2)
    let seconds := days * 86400 + number input 11 2 * 3600 + number input 14 2 * 60 + number input 17 2
    let digits := if input[19]? = some 46 then (input.drop 20).takeWhile isDigit else []
    let milliseconds : ℤ := decimal (digits.take 3) * 10 ^ (3 - digits.length)
    let pos := if input[19]? = some 46 then 20 + digits.length else 19
    let offset := if input[pos]? = some 90 then 0
      else
        let offset := number input (pos + 1) 2 * 60 + number input (pos + 4) 2
        if input[pos]? = some 43 then offset else -offset
    some ((seconds - offset * 60) * 1000 + milliseconds)
  else none

/-! ## Date-times -/

/-- The offset from UTC. -/
inductive Zone where
  | utc
  | offset (east : Bool) (hour minute : ℕ)

namespace Zone

/-- The offset as it is written. -/
def text : Zone → Text
  | utc => [90]
  | offset east hour minute =>
      (if east then 43 else 45) :: (fixedDigits 2 hour ++ 58 :: fixedDigits 2 minute)

/-- The minutes that the zone is east of UTC. -/
def minutes : Zone → ℤ
  | utc => 0
  | offset east hour minute => if east then hour * 60 + minute else -(hour * 60 + minute)

/-- The hours of the offset. -/
def hour : Zone → ℕ
  | utc => 0
  | offset _ hour _ => hour

/-- The minutes of the offset past its hours. -/
def minute : Zone → ℕ
  | utc => 0
  | offset _ _ minute => minute

/-- The hours and minutes of an offset are those of a clock. -/
def Valid (zone : Zone) : Prop :=
  zone.hour ≤ 23 ∧ zone.minute ≤ 59

end Zone

/-- The digits of a fraction of a second as they are written. -/
def fractionText (fraction : Text) : Text :=
  if fraction = [] then [] else 46 :: fraction

/-- A date-time, with the digits of its fraction of a second. -/
structure IsoTime where
  year : ℕ
  month : ℕ
  day : ℕ
  hour : ℕ
  minute : ℕ
  second : ℕ
  fraction : Text
  zone : Zone

namespace IsoTime

/-- The local date. -/
def date (time : IsoTime) : Gregorian.Date :=
  ⟨time.year, time.month, time.day⟩

/-- The day exists, and the other fields have their ranges. -/
structure Valid (time : IsoTime) : Prop where
  date : time.date.Valid
  year : time.year ≤ 9999
  hour : time.hour ≤ 23
  minute : time.minute ≤ 59
  second : time.second ≤ 59
  digits : ∀ byte ∈ time.fraction, isDigit byte = true
  fraction : time.fraction.length ≤ 9
  zone : time.zone.Valid

/-- The date-time as it is written. -/
def text (time : IsoTime) : Text :=
  fixedDigits 4 time.year ++ 45 :: (fixedDigits 2 time.month ++ 45 :: (fixedDigits 2 time.day ++
    84 :: (fixedDigits 2 time.hour ++ 58 :: (fixedDigits 2 time.minute ++
      58 :: (fixedDigits 2 time.second ++ (fractionText time.fraction ++ time.zone.text))))))

/-- The seconds from the epoch, without the fraction. -/
def instantSeconds (time : IsoTime) : ℤ :=
  Gregorian.dayNumber time.date * 86400 + time.hour * 3600 + time.minute * 60 + time.second -
    time.zone.minutes * 60

/-- The fraction, truncated to the millisecond. -/
def millisecond (time : IsoTime) : ℕ :=
  decimal time.fraction * 1000 / 10 ^ time.fraction.length

/-- The instant, truncated to the millisecond. -/
def instantMillis (time : IsoTime) : ℤ :=
  time.instantSeconds * 1000 + time.millisecond

end IsoTime

/-! ## What the readers read -/

theorem readDigits_eq_some_iff {count value : ℕ} {text rest : Text} :
    readDigits count text = some (value, rest) ↔
      value < 10 ^ count ∧ text = fixedDigits count value ++ rest := by
  constructor
  · intro h
    simp only [readDigits] at h
    split at h
    · rename_i hdigits
      obtain ⟨hlength, hall⟩ := hdigits
      obtain ⟨hvalue, hrest⟩ := Prod.mk.inj (Option.some.inj h)
      have hall' : ∀ byte ∈ text.take count, isDigit byte = true := List.all_eq_true.1 hall
      have hlt := decimal_lt hall'
      have hfixed := fixedDigits_decimal hall'
      rw [hlength, hvalue] at hlt hfixed
      refine ⟨hlt, ?_⟩
      rw [hfixed, ← hrest, List.take_append_drop]
    · cases h
  · rintro ⟨hvalue, rfl⟩
    have hlength := length_fixedDigits count value
    have htake : (fixedDigits count value ++ rest).take count = fixedDigits count value :=
      List.take_left' hlength
    have hdrop : (fixedDigits count value ++ rest).drop count = rest := List.drop_left' hlength
    have hall : (fixedDigits count value).all isDigit = true :=
      List.all_eq_true.2 fun byte hbyte => isDigit_of_mem_fixedDigits hbyte
    simp only [readDigits, htake, hdrop]
    rw [if_pos ⟨hlength, hall⟩, decimal_fixedDigits, Nat.mod_eq_of_lt hvalue]

theorem expect_eq_some_iff {expected : UInt8} {text rest : Text} :
    expect expected text = some rest ↔ text = expected :: rest := by
  cases text with
  | nil => simp [expect]
  | cons byte text =>
      simp only [expect, List.cons.injEq]
      split
      · rename_i heq
        simp [heq]
      · rename_i hne
        simp [hne]

theorem takeWhile_digits {digits rest : Text} (hdigits : ∀ byte ∈ digits, isDigit byte = true)
    (hrest : EndsNumber rest) : (digits ++ rest).takeWhile isDigit = digits ∧
      (digits ++ rest).dropWhile isDigit = rest := by
  have hnone : rest.takeWhile isDigit = [] ∧ rest.dropWhile isDigit = rest := by
    cases rest with
    | nil => exact ⟨rfl, rfl⟩
    | cons byte rest =>
        have hbyte := hrest byte rfl
        simp [hbyte]
  rw [List.takeWhile_append_of_pos hdigits, List.dropWhile_append_of_pos hdigits, hnone.1, hnone.2,
    List.append_nil]
  exact ⟨rfl, rfl⟩

theorem skipFraction_fractionText {fraction rest : Text}
    (hdigits : ∀ byte ∈ fraction, isDigit byte = true) (hlength : fraction.length ≤ 9)
    (hrest : EndsNumber rest) (hpoint : rest.head? ≠ some 46) :
    skipFraction (fractionText fraction ++ rest) = some rest := by
  by_cases hnil : fraction = []
  · rw [fractionText, if_pos hnil]
    show skipFraction rest = some rest
    unfold skipFraction
    split
    · exact absurd rfl hpoint
    · rfl
  · obtain ⟨htake, hdrop⟩ := takeWhile_digits hdigits hrest
    have hpos := List.length_pos_iff.2 hnil
    rw [fractionText, if_neg hnil]
    simp only [List.cons_append, skipFraction, htake, hdrop]
    rw [if_neg (by omega)]

theorem exists_fraction_of_skipFraction {text rest : Text} (h : skipFraction text = some rest) :
    ∃ fraction : Text, (∀ byte ∈ fraction, isDigit byte = true) ∧ fraction.length ≤ 9 ∧
      text = fractionText fraction ++ rest := by
  unfold skipFraction at h
  split at h
  · rename_i text
    simp only at h
    split at h
    · cases h
    · rename_i hlength
      refine ⟨text.takeWhile isDigit, fun byte hbyte => List.mem_takeWhile_imp hbyte, by omega, ?_⟩
      have hne : text.takeWhile isDigit ≠ [] := by
        rw [← List.length_pos_iff]
        omega
      rw [fractionText, if_neg hne, ← Option.some.inj h, List.cons_append,
        List.takeWhile_append_dropWhile]
  · refine ⟨[], fun byte hbyte => absurd hbyte List.not_mem_nil, Nat.zero_le _, ?_⟩
    rw [← Option.some.inj h]
    rfl

namespace Zone

/-- An offset begins with neither a digit nor a point. -/
theorem text_head (zone : Zone) : EndsNumber zone.text ∧ zone.text.head? ≠ some 46 := by
  cases zone with
  | utc => exact ⟨fun byte hbyte => by cases hbyte; rfl, by decide⟩
  | offset east hour minute =>
      cases east
      · exact ⟨fun byte hbyte => by cases hbyte; rfl, by simp [text]⟩
      · exact ⟨fun byte hbyte => by cases hbyte; rfl, by simp [text]⟩

theorem readOffset_text {zone : Zone} (h : zone.Valid) :
    readOffset zone.text = some ((zone.hour, zone.minute), []) := by
  cases zone with
  | utc => rfl
  | offset east hour minute =>
      obtain ⟨hhour, hminute⟩ := h
      have hread : readDigits 2 (fixedDigits 2 hour ++ 58 :: fixedDigits 2 minute) =
          some (hour, 58 :: fixedDigits 2 minute) :=
        readDigits_eq_some_iff.2 ⟨by simp only [Zone.hour] at hhour; omega, rfl⟩
      have hread' : readDigits 2 (fixedDigits 2 minute) = some (minute, []) :=
        readDigits_eq_some_iff.2
          ⟨by simp only [Zone.minute] at hminute; omega, (List.append_nil _).symm⟩
      cases east
      all_goals simp [readOffset, text, hread, hread', expect, Zone.hour, Zone.minute]

theorem exists_of_readOffset {text rest : Text} {hour minute : ℕ}
    (h : readOffset text = some ((hour, minute), rest)) :
    ∃ zone : Zone, zone.hour = hour ∧ zone.minute = minute ∧ text = zone.text ++ rest := by
  unfold readOffset at h
  split at h
  · cases h
    exact ⟨.utc, rfl, rfl, rfl⟩
  · split at h
    · rename_i hsign
      obtain ⟨⟨hour', afterHour⟩, hhour, h⟩ := Option.bind_eq_some_iff.1 h
      obtain ⟨afterColon, hcolon, h⟩ := Option.bind_eq_some_iff.1 h
      obtain ⟨⟨minute', afterMinute⟩, hminute, h⟩ := Option.bind_eq_some_iff.1 h
      cases h
      obtain ⟨-, rfl⟩ := readDigits_eq_some_iff.1 hhour
      obtain rfl := expect_eq_some_iff.1 hcolon
      obtain ⟨-, rfl⟩ := readDigits_eq_some_iff.1 hminute
      rcases hsign with rfl | rfl
      · exact ⟨.offset true hour minute, rfl, rfl, by simp [Zone.text]⟩
      · exact ⟨.offset false hour minute, rfl, rfl, by simp [Zone.text]⟩
    · cases h
  · cases h

end Zone

/-! ## The accepted texts -/

theorem maxDay_eq {year month : ℕ} (h1 : 1 ≤ month) (h2 : month ≤ 12) :
    ((if month = 2 ∧ (year % 4 = 0 ∧ (year % 100 ≠ 0 ∨ year % 400 = 0)) then 29
      else kDaysInMonth.getD (month - 1) 0 : ℕ) : ℤ) = Gregorian.monthLength year month := by
  have hleap : Gregorian.IsLeap (year : ℤ) ↔ year % 4 = 0 ∧ (year % 100 ≠ 0 ∨ year % 400 = 0) := by
    unfold Gregorian.IsLeap
    omega
  unfold Gregorian.monthLength
  simp only [← hleap]
  by_cases hyear : Gregorian.IsLeap (year : ℤ)
  all_goals
    unfold kDaysInMonth
    interval_cases month <;> simp [hyear]

namespace IsoTime

/-- What `IsValidIsoDateTime` reads from the text of a date-time. -/
def fields (time : IsoTime) : IsoFields :=
  ⟨time.year, time.month, time.day, time.hour, time.minute, time.second, time.zone.hour,
    time.zone.minute, []⟩

theorem Valid.month_bounds {time : IsoTime} (h : time.Valid) : 1 ≤ time.month ∧ time.month ≤ 12 := by
  obtain ⟨h1, h2, -, -⟩ := h.date
  have h1' : (1 : ℤ) ≤ time.month := h1
  have h2' : (time.month : ℤ) ≤ 12 := h2
  omega

theorem Valid.day_bounds {time : IsoTime} (h : time.Valid) : 1 ≤ time.day ∧ time.day ≤ 31 := by
  obtain ⟨-, -, h1, h2⟩ := h.date
  have h1' : (1 : ℤ) ≤ time.day := h1
  have h2' : (time.day : ℤ) ≤ 31 := le_trans h2 (Gregorian.monthLength_le _ _)
  omega

theorem readIsoFields_text {time : IsoTime} (h : time.Valid) :
    readIsoFields time.text = some time.fields := by
  have hmonth := h.month_bounds
  have hday := h.day_bounds
  obtain ⟨hend, hpoint⟩ := time.zone.text_head
  have hread : ∀ {count value : ℕ} (rest : Text), value < 10 ^ count →
      readDigits count (fixedDigits count value ++ rest) = some (value, rest) :=
    fun rest hvalue => readDigits_eq_some_iff.2 ⟨hvalue, rfl⟩
  have hexpect : ∀ (byte : UInt8) (rest : Text), expect byte (byte :: rest) = some rest :=
    fun byte rest => expect_eq_some_iff.2 rfl
  have hhour := h.hour
  have hminute := h.minute
  have hsecond := h.second
  have hyear := h.year
  unfold readIsoFields text
  refine Option.bind_eq_some_iff.2 ⟨_, hread _ (by omega), ?_⟩
  refine Option.bind_eq_some_iff.2 ⟨_, hexpect 45 _, ?_⟩
  refine Option.bind_eq_some_iff.2 ⟨_, hread _ (by omega), ?_⟩
  refine Option.bind_eq_some_iff.2 ⟨_, hexpect 45 _, ?_⟩
  refine Option.bind_eq_some_iff.2 ⟨_, hread _ (by omega), ?_⟩
  refine Option.bind_eq_some_iff.2 ⟨_, hexpect 84 _, ?_⟩
  refine Option.bind_eq_some_iff.2 ⟨_, hread _ (by omega), ?_⟩
  refine Option.bind_eq_some_iff.2 ⟨_, hexpect 58 _, ?_⟩
  refine Option.bind_eq_some_iff.2 ⟨_, hread _ (by omega), ?_⟩
  refine Option.bind_eq_some_iff.2 ⟨_, hexpect 58 _, ?_⟩
  refine Option.bind_eq_some_iff.2 ⟨_, hread _ (by omega), ?_⟩
  refine Option.bind_eq_some_iff.2 ⟨_, skipFraction_fractionText h.digits h.fraction hend hpoint, ?_⟩
  exact Option.bind_eq_some_iff.2 ⟨_, Zone.readOffset_text h.zone, rfl⟩

/-- The checks of the fields are those of the date-time. -/
theorem inRange_fields_iff (time : IsoTime) : time.fields.inRange = true ↔
    time.date.Valid ∧ time.hour ≤ 23 ∧ time.minute ≤ 59 ∧ time.second ≤ 59 ∧ time.zone.Valid := by
  unfold IsoFields.inRange
  by_cases hmonth : 1 ≤ time.month ∧ time.month ≤ 12
  · have hmax := @maxDay_eq time.year time.month hmonth.1 hmonth.2
    rw [if_neg (by show ¬ ([] ≠ [] ∨ time.month < 1 ∨ 12 < time.month); simp; omega), decide_eq_true_iff]
    rw [Gregorian.Date.valid_iff]
    show 1 ≤ time.day ∧ time.day ≤ _ ∧ time.hour ≤ 23 ∧ time.minute ≤ 59 ∧ time.second ≤ 59 ∧
      time.zone.hour ≤ 23 ∧ time.zone.minute ≤ 59 ↔
        ((1 : ℤ) ≤ time.month ∧ (time.month : ℤ) ≤ 12 ∧ (1 : ℤ) ≤ time.day ∧
          (time.day : ℤ) ≤ Gregorian.monthLength time.year time.month) ∧ _
    rw [← hmax]
    unfold Zone.Valid
    have h1 : (1 : ℤ) ≤ time.month := by omega
    have h2 : (time.month : ℤ) ≤ 12 := by omega
    simp only [h1, h2, true_and, Nat.cast_le, Nat.one_le_cast]
    exact and_assoc.symm
  · rw [if_pos (by show [] ≠ [] ∨ time.month < 1 ∨ 12 < time.month; simp; omega)]
    constructor
    · intro h
      cases h
    · rintro ⟨⟨h1, h2, -, -⟩, -⟩
      have h1' : (1 : ℤ) ≤ time.month := h1
      have h2' : (time.month : ℤ) ≤ 12 := h2
      omega

theorem exists_of_readIsoFields {input : Text} {fields : IsoFields}
    (h : readIsoFields input = some fields) (hrest : fields.rest = []) :
    ∃ time : IsoTime, time.fields = fields ∧ time.text = input ∧ time.year ≤ 9999 ∧
      (∀ byte ∈ time.fraction, isDigit byte = true) ∧ time.fraction.length ≤ 9 := by
  unfold readIsoFields at h
  obtain ⟨⟨year, text⟩, hyear, h⟩ := Option.bind_eq_some_iff.1 h
  obtain ⟨text, hdash, h⟩ := Option.bind_eq_some_iff.1 h
  obtain ⟨⟨month, text⟩, hmonth, h⟩ := Option.bind_eq_some_iff.1 h
  obtain ⟨text, hdash', h⟩ := Option.bind_eq_some_iff.1 h
  obtain ⟨⟨day, text⟩, hday, h⟩ := Option.bind_eq_some_iff.1 h
  obtain ⟨text, hT, h⟩ := Option.bind_eq_some_iff.1 h
  obtain ⟨⟨hour, text⟩, hhour, h⟩ := Option.bind_eq_some_iff.1 h
  obtain ⟨text, hcolon, h⟩ := Option.bind_eq_some_iff.1 h
  obtain ⟨⟨minute, text⟩, hminute, h⟩ := Option.bind_eq_some_iff.1 h
  obtain ⟨text, hcolon', h⟩ := Option.bind_eq_some_iff.1 h
  obtain ⟨⟨second, text⟩, hsecond, h⟩ := Option.bind_eq_some_iff.1 h
  obtain ⟨text, hfraction, h⟩ := Option.bind_eq_some_iff.1 h
  obtain ⟨⟨⟨offsetHour, offsetMinute⟩, text⟩, hoffset, h⟩ := Option.bind_eq_some_iff.1 h
  cases h
  obtain ⟨fraction, hdigits, hlength, rfl⟩ := exists_fraction_of_skipFraction hfraction
  obtain ⟨zone, rfl, rfl, rfl⟩ := Zone.exists_of_readOffset hoffset
  obtain ⟨hrange, rfl⟩ := readDigits_eq_some_iff.1 hyear
  obtain rfl := expect_eq_some_iff.1 hdash
  obtain ⟨-, rfl⟩ := readDigits_eq_some_iff.1 hmonth
  obtain rfl := expect_eq_some_iff.1 hdash'
  obtain ⟨-, rfl⟩ := readDigits_eq_some_iff.1 hday
  obtain rfl := expect_eq_some_iff.1 hT
  obtain ⟨-, rfl⟩ := readDigits_eq_some_iff.1 hhour
  obtain rfl := expect_eq_some_iff.1 hcolon
  obtain ⟨-, rfl⟩ := readDigits_eq_some_iff.1 hminute
  obtain rfl := expect_eq_some_iff.1 hcolon'
  obtain ⟨-, rfl⟩ := readDigits_eq_some_iff.1 hsecond
  have hnil : text = [] := hrest
  subst hnil
  refine ⟨⟨year, month, day, hour, minute, second, fraction, zone⟩, rfl, ?_, Nat.le_of_lt_succ hrange,
    hdigits, hlength⟩
  rw [text, List.append_nil]

end IsoTime

open IsoTime

/-- The accepted texts are those of the valid date-times. -/
theorem isValidIsoDateTime_iff (input : Text) :
    isValidIsoDateTime input = true ↔ ∃ time : IsoTime, time.Valid ∧ time.text = input := by
  constructor
  · intro h
    unfold isValidIsoDateTime at h
    split at h
    · cases h
    · rename_i fields hread
      have hrest : fields.rest = [] := by
        by_contra hne
        rw [IsoFields.inRange, if_pos (Or.inl hne)] at h
        cases h
      obtain ⟨time, rfl, htext, hyear, hdigits, hlength⟩ := exists_of_readIsoFields hread hrest
      obtain ⟨hdate, hhour, hminute, hsecond, hzone⟩ := (inRange_fields_iff time).1 h
      exact ⟨time, ⟨hdate, hyear, hhour, hminute, hsecond, hdigits, hlength, hzone⟩, htext⟩
  · rintro ⟨time, htime, rfl⟩
    rw [isValidIsoDateTime, readIsoFields_text htime]
    exact (inRange_fields_iff time).2
      ⟨htime.date, htime.hour, htime.minute, htime.second, htime.zone⟩

/-! ## The instant -/

/-- On existing dates the formula is the calendar's day count. -/
theorem isoDays_eq {date : Gregorian.Date} (h : date.Valid) :
    isoDays date.year date.month date.day = Gregorian.dayNumber date := by
  rw [← daysFromCivil_eq_dayNumber h]
  have hmonth := marchMonth_bounds h
  have hshift : CInt.toUnsigned (date.month + if date.month > 2 then -3 else 9) =
      date.month + if date.month > 2 then -3 else 9 := by
    unfold marchMonth at hmonth
    exact CInt.toUnsigned_eq hmonth.1 (by omega)
  have hdiv : (153 * (date.month + if date.month > 2 then -3 else 9) + 2).tdiv 5 =
      (153 * (date.month + if date.month > 2 then -3 else 9) + 2) / 5 := by
    unfold marchMonth at hmonth
    exact Int.tdiv_eq_ediv_of_nonneg (by omega)
  have hyear : (if date.month ≤ 2 then date.year - 1 else date.year) =
      date.year - (if date.month ≤ 2 then 1 else 0) := by
    by_cases hm : date.month ≤ 2
    · rw [if_pos hm, if_pos hm]
    · rw [if_neg hm, if_neg hm, sub_zero]
  simp only [isoDays, daysFromCivil, hshift, hdiv, hyear, ge_iff_le]

/-- The first three digits, padded with zeros, are the milliseconds. -/
theorem decimal_take_three {fraction : Text} (h : ∀ byte ∈ fraction, isDigit byte = true) :
    decimal (fraction.take 3) * 10 ^ (3 - fraction.length) =
      decimal fraction * 1000 / 10 ^ fraction.length := by
  by_cases hshort : fraction.length ≤ 3
  · rw [List.take_of_length_le hshort]
    have hsplit : (1000 : ℕ) = 10 ^ (3 - fraction.length) * 10 ^ fraction.length := by
      rw [← pow_add, Nat.sub_add_cancel hshort]
      rfl
    rw [show decimal fraction * 1000 = decimal fraction * 10 ^ (3 - fraction.length) *
      10 ^ fraction.length by rw [mul_assoc, ← hsplit], Nat.mul_div_cancel _ (by positivity)]
  · have hlong : 3 ≤ fraction.length := by omega
    have hsplit : decimal fraction =
        decimal (fraction.take 3) * 10 ^ (fraction.length - 3) + decimal (fraction.drop 3) := by
      have happend := decimal_append (fraction.take 3) (fraction.drop 3)
      rwa [List.take_append_drop, List.length_drop] at happend
    have hrest : decimal (fraction.drop 3) < 10 ^ (fraction.drop 3).length :=
      decimal_lt fun byte hbyte => h byte (List.mem_of_mem_drop hbyte)
    rw [List.length_drop] at hrest
    have hpow : 10 ^ fraction.length = 10 ^ (fraction.length - 3) * 1000 := by
      rw [show (1000 : ℕ) = 10 ^ 3 by rfl, ← pow_add, Nat.sub_add_cancel hlong]
    rw [Nat.sub_eq_zero_of_le hlong, pow_zero, mul_one, hpow,
      Nat.mul_div_mul_right _ _ (by norm_num), hsplit, Nat.mul_comm, Nat.mul_add_div (by positivity),
      Nat.div_eq_of_lt hrest, add_zero]

namespace IsoTime

/-- A number stands at a position of a text. -/
def HoldsAt (input : Text) (offset count value : ℕ) : Prop :=
  value < 10 ^ count ∧ ∃ after : Text, input.drop offset = fixedDigits count value ++ after

theorem HoldsAt.number_eq {input : Text} {offset count value : ℕ}
    (h : HoldsAt input offset count value) : number input offset count = value := by
  obtain ⟨hvalue, after, hdrop⟩ := h
  rw [number, field, hdrop, List.take_left' (length_fixedDigits count value), decimal_fixedDigits,
    Nat.mod_eq_of_lt hvalue]

theorem drop_next {input rest : Text} {offset count value : ℕ} {byte : UInt8}
    (h : input.drop offset = fixedDigits count value ++ byte :: rest) :
    input.drop (offset + (count + 1)) = rest := by
  rw [← List.drop_drop, h, List.drop_append, length_fixedDigits, List.drop_of_length_le (by simp),
    Nat.add_sub_cancel_left]
  rfl

/-- What stands behind the seconds. -/
def endText (time : IsoTime) : Text :=
  fractionText time.fraction ++ time.zone.text

/-- The position of the offset. -/
def zonePos (time : IsoTime) : ℕ :=
  19 + (fractionText time.fraction).length

/-- The text up to the seconds. -/
def startText (time : IsoTime) : Text :=
  fixedDigits 4 time.year ++ 45 :: (fixedDigits 2 time.month ++ 45 :: (fixedDigits 2 time.day ++
    84 :: (fixedDigits 2 time.hour ++ 58 :: (fixedDigits 2 time.minute ++
      58 :: fixedDigits 2 time.second))))

theorem text_eq (time : IsoTime) : time.text = time.startText ++ time.endText := by
  simp [text, startText, endText]

theorem length_startText (time : IsoTime) : time.startText.length = 19 := by
  simp [startText]

theorem length_text (time : IsoTime) : time.text.length = time.zonePos + time.zone.text.length := by
  rw [text_eq, List.length_append, length_startText, endText, List.length_append, zonePos, add_assoc]

theorem getElem?_nineteen (time : IsoTime) : time.text[19]? = some 46 ↔ time.fraction ≠ [] := by
  have hlength := time.length_startText
  rw [text_eq, List.getElem?_append_right hlength.le, hlength, Nat.sub_self, endText, fractionText]
  by_cases hnil : time.fraction = []
  · rw [if_pos hnil, List.nil_append, ← List.head?_eq_getElem?]
    exact iff_of_false time.zone.text_head.2 (not_not.2 hnil)
  · rw [if_neg hnil]
    exact iff_of_true rfl hnil

/-- The digits behind the point are the fraction. -/
theorem digits_text {time : IsoTime} (h : time.Valid) :
    (if time.text[19]? = some 46 then (time.text.drop 20).takeWhile isDigit else []) =
      time.fraction := by
  by_cases hnil : time.fraction = []
  · rw [if_neg (mt (getElem?_nineteen time).1 (not_not.2 hnil)), hnil]
  · have hdrop : time.text.drop 20 = time.fraction ++ time.zone.text := by
      have hlength := time.length_startText
      rw [text_eq, endText, fractionText, if_neg hnil, List.drop_append, hlength,
        List.drop_of_length_le (by omega)]
      rfl
    rw [if_pos ((getElem?_nineteen time).2 hnil), hdrop]
    exact (takeWhile_digits h.digits time.zone.text_head.1).1

theorem pos_eq_zonePos (time : IsoTime) :
    (if time.text[19]? = some 46 then 20 + time.fraction.length else 19) = time.zonePos := by
  unfold zonePos fractionText
  by_cases hnil : time.fraction = []
  · rw [if_neg (mt (getElem?_nineteen time).1 (not_not.2 hnil)), if_pos hnil]
    rfl
  · rw [if_pos ((getElem?_nineteen time).2 hnil), if_neg hnil, List.length_cons]
    omega

theorem getElem?_zone (time : IsoTime) (i : ℕ) :
    time.text[time.zonePos + i]? = time.zone.text[i]? := by
  have hlength : (time.startText ++ fractionText time.fraction).length = time.zonePos := by
    rw [List.length_append, length_startText, zonePos]
  rw [text_eq, endText, ← List.append_assoc, List.getElem?_append_right (by omega), hlength,
    Nat.add_sub_cancel_left]

/-- The numbers of a text stand where the readers look for them. -/
structure Laid (time : IsoTime) : Prop where
  year : HoldsAt time.text 0 4 time.year
  month : HoldsAt time.text 5 2 time.month
  day : HoldsAt time.text 8 2 time.day
  hour : HoldsAt time.text 11 2 time.hour
  minute : HoldsAt time.text 14 2 time.minute
  second : HoldsAt time.text 17 2 time.second
  zone : ∀ {east hour minute}, time.zone = .offset east hour minute →
    HoldsAt time.text (time.zonePos + 1) 2 hour ∧ HoldsAt time.text (time.zonePos + 4) 2 minute

theorem Valid.laid {time : IsoTime} (h : time.Valid) : time.Laid := by
  have hmonth := h.month_bounds
  have hday := h.day_bounds
  have hyear := h.year
  have hhour := h.hour
  have hminute := h.minute
  have hsecond := h.second
  have hmonthAt := @drop_next time.text _ 0 4 time.year 45 rfl
  have hdayAt := drop_next hmonthAt
  have hhourAt := drop_next hdayAt
  have hminuteAt := drop_next hhourAt
  have hsecondAt := drop_next hminuteAt
  refine ⟨⟨by omega, _, rfl⟩, ⟨by omega, _, hmonthAt⟩, ⟨by omega, _, hdayAt⟩, ⟨by omega, _, hhourAt⟩,
    ⟨by omega, _, hminuteAt⟩, ⟨by omega, _, hsecondAt⟩, ?_⟩
  intro east hour minute hzone
  obtain ⟨hoffset, hoffset'⟩ := h.zone
  rw [hzone] at hoffset hoffset'
  have hoffset23 : hour ≤ 23 := hoffset
  have hoffset59 : minute ≤ 59 := hoffset'
  have hlength : (time.startText ++ fractionText time.fraction ++ [if east then 43 else 45]).length =
      time.zonePos + 1 := by
    simp [zonePos, length_startText]
    omega
  have htext : time.text = (time.startText ++ fractionText time.fraction ++
      [if east then 43 else 45]) ++ (fixedDigits 2 hour ++ 58 :: (fixedDigits 2 minute ++ [])) := by
    simp [text_eq, endText, hzone, Zone.text]
  have hhourZone : time.text.drop (time.zonePos + 1) =
      fixedDigits 2 hour ++ 58 :: (fixedDigits 2 minute ++ []) := by
    rw [htext]
    exact List.drop_left' hlength
  have hminuteZone := drop_next hhourZone
  exact ⟨⟨by omega, _, hhourZone⟩, ⟨by omega, _, hminuteZone⟩⟩

/-- The minutes of the offset, read at its place. -/
theorem offset_text {time : IsoTime} (h : time.Valid) :
    (if time.text[time.zonePos]? = some 90 then 0
      else
        if time.text[time.zonePos]? = some 43 then
          number time.text (time.zonePos + 1) 2 * 60 + number time.text (time.zonePos + 4) 2
        else -(number time.text (time.zonePos + 1) 2 * 60 + number time.text (time.zonePos + 4) 2)) =
      time.zone.minutes := by
  have hfirst := time.getElem?_zone 0
  rw [Nat.add_zero] at hfirst
  rw [hfirst]
  cases hzone : time.zone with
  | utc => rfl
  | offset east hour minute =>
      obtain ⟨hhour, hminute⟩ := h.laid.zone hzone
      rw [hhour.number_eq, hminute.number_eq]
      cases east
      · rfl
      · rfl

theorem isoDateTimeMillis_text {time : IsoTime} (h : time.Valid) :
    isoDateTimeMillis time.text = some time.instantMillis := by
  have hvalid : isValidIsoDateTime time.text = true := (isValidIsoDateTime_iff _).2 ⟨time, h, rfl⟩
  have hlaid := h.laid
  have hdays := isoDays_eq h.date
  have hoffset := offset_text h
  have hmillis := decimal_take_three h.digits
  simp only [isoDateTimeMillis, hvalid, if_true, digits_text h, pos_eq_zonePos, hoffset,
    hlaid.year.number_eq, hlaid.month.number_eq, hlaid.day.number_eq, hlaid.hour.number_eq,
    hlaid.minute.number_eq, hlaid.second.number_eq]
  have hdays' : isoDays time.year time.month time.day = Gregorian.dayNumber time.date := hdays
  have hmillis' : ((decimal (time.fraction.take 3) : ℤ)) * 10 ^ (3 - time.fraction.length) =
      time.millisecond := by
    unfold millisecond
    exact_mod_cast hmillis
  rw [hdays', hmillis']
  rfl

end IsoTime

end VoiceLife.Contracts
