import VoiceLife.Contracts.IsoDateTime
import VoiceLife.Im.ActionChannel
import VoiceLife.Im.PairingController

/-! # The three readers of date-times

The contracts, the pairing controller and the action channel each read the accepted date-times with
code of their own. The first two return the instant; the last one takes the first digits of a fraction
for milliseconds, however few they are.
-/

open DecimalText VoiceLife.Contracts

namespace VoiceLife.Im

/-! ## The pairing controller -/

theorem daysFromCivil_eq_isoDays (year month day : ℤ) :
    daysFromCivil year month day = isoDays year month day := rfl

theorem isoDigits_of_holdsAt {input : Text} {offset count value : ℕ}
    (h : IsoTime.HoldsAt input offset count value) : isoDigits input offset count = some (value : ℤ) := by
  obtain ⟨hvalue, after, hdrop⟩ := h
  have hlength := length_fixedDigits count value
  have hall : (fixedDigits count value).all isDigit = true :=
    List.all_eq_true.2 fun byte hbyte => isDigit_of_mem_fixedDigits hbyte
  simp only [isoDigits, hdrop, List.take_left' hlength]
  rw [if_pos ⟨hlength, hall⟩, decimal_fixedDigits, Nat.mod_eq_of_lt hvalue]

theorem isoFraction_text {time : IsoTime} (h : time.Valid) :
    isoFraction time.text = (time.millisecond, time.zonePos) := by
  have hdigits := IsoTime.digits_text h
  have hpos := time.pos_eq_zonePos
  have hmillis := decimal_take_three h.digits
  unfold isoFraction
  by_cases hpoint : time.text[19]? = some 46
  · rw [if_pos hpoint] at hdigits hpos ⊢
    simp only [hdigits, hpos, hmillis, IsoTime.millisecond]
  · have hnil : time.fraction = [] := by
      rw [if_neg hpoint] at hdigits
      exact hdigits.symm
    rw [if_neg hpoint] at hpos ⊢
    rw [← hpos, IsoTime.millisecond, hnil]
    rfl

theorem isoOffset_text {time : IsoTime} (h : time.Valid) :
    isoOffset time.text time.zonePos = some (time.zone.minutes, time.text.length) := by
  have hlength := time.length_text
  have hbyte := time.getElem?_zone
  have hfirst := hbyte 0
  rw [Nat.add_zero] at hfirst
  unfold isoOffset
  rw [hfirst, hbyte 3]
  cases hzone : time.zone with
  | utc =>
      rw [hzone] at hlength
      have hZ : Zone.utc.text[0]? = some 90 := rfl
      rw [if_pos hZ, hlength]
      rfl
  | offset east hour minute =>
      obtain ⟨hhour, hminute⟩ := h.laid.zone hzone
      have hsix : (Zone.offset east hour minute).text.length = 6 := by
        simp [Zone.text]
      rw [hzone, hsix] at hlength
      have hcolon : (Zone.offset east hour minute).text[3]? = some 58 := by
        cases east
        · rfl
        · rfl
      rw [isoDigits_of_holdsAt hhour, isoDigits_of_holdsAt hminute, hcolon, hlength]
      cases east
      all_goals simp [Zone.text, Zone.minutes]

/-- `ParseIsoMillis` returns the instants from the epoch on. -/
theorem parseIsoMillis_text {time : IsoTime} (h : time.Valid) : parseIsoMillis time.text =
    if time.instantSeconds < 0 then none
    else some (time.instantSeconds.toNat * 1000 + time.millisecond) := by
  have hlaid := h.laid
  have hlength : 20 ≤ time.text.length := by
    have hzone : 1 ≤ time.zone.text.length := by
      cases time.zone with
      | utc => exact le_rfl
      | offset east hour minute => simp [Zone.text]
    have := time.length_text
    unfold IsoTime.zonePos at this
    omega
  have hdays := isoDays_eq h.date
  unfold parseIsoMillis
  rw [if_neg (by omega), isoDigits_of_holdsAt hlaid.year, isoDigits_of_holdsAt hlaid.month,
    isoDigits_of_holdsAt hlaid.day, isoDigits_of_holdsAt hlaid.hour, isoDigits_of_holdsAt hlaid.minute,
    isoDigits_of_holdsAt hlaid.second, isoFraction_text h]
  simp only [Option.bind_eq_bind, Option.bind_some, isoOffset_text h, daysFromCivil_eq_isoDays, ne_eq,
    not_true, false_or]
  rw [show isoDays time.year time.month time.day = Gregorian.dayNumber time.date from hdays]
  rfl

/-! ## The action channel -/

/-- A byte as a character; the accepted texts are ASCII. -/
def byteChar (byte : UInt8) : Char :=
  Char.ofNat byte.toNat

/-- The string of an ASCII text. -/
def ofBytes (text : Text) : String :=
  String.ofList (text.map byteChar)

theorem toNat_byteChar (byte : UInt8) : (byteChar byte).toNat = byte.toNat := by
  have hlt := byte.toNat_lt
  rw [byteChar, Char.toNat_ofNat, if_pos (Or.inl (by omega))]

theorem byteChar_dash : byteChar 45 = '-' := rfl

theorem byteChar_T : byteChar 84 = 'T' := rfl

theorem byteChar_colon : byteChar 58 = ':' := rfl

theorem byteChar_injective {byte byte' : UInt8} (h : byteChar byte = byteChar byte') : byte = byte' := by
  apply UInt8.toNat_inj.1
  rw [← toNat_byteChar, h, toNat_byteChar]

theorem isDigit_byteChar (byte : UInt8) : (byteChar byte).isDigit = isDigit byte := by
  rw [Bool.eq_iff_iff, isDigit_iff]
  unfold Char.isDigit
  rw [Bool.and_eq_true, decide_eq_true_iff, decide_eq_true_iff, ge_iff_le, UInt32.le_iff_toNat_le,
    UInt32.le_iff_toNat_le]
  show 48 ≤ (byteChar byte).toNat ∧ (byteChar byte).toNat ≤ 57 ↔ _
  rw [toNat_byteChar]

theorem foldl_byteChar {digits : Text} (h : ∀ byte ∈ digits, isDigit byte = true) :
    (digits.map byteChar).foldl (fun value digit => value * 10 + ((digit.toNat : ℤ) - 48)) 0 =
      decimal digits := by
  induction digits using List.reverseRecOn with
  | nil => rfl
  | append_singleton digits byte ih =>
      have hbyte := (isDigit_iff byte).1 (h byte (by simp))
      rw [List.map_append, List.foldl_append, ih fun other hother => h other (List.mem_append_left _ hother),
        decimal_concat]
      simp only [List.map_cons, List.map_nil, List.foldl_cons, List.foldl_nil, toNat_byteChar, digitValue]
      omega

theorem readDigits_map {count value : ℕ} (rest : Text) (h : value < 10 ^ count) :
    Im.readDigits count ((fixedDigits count value ++ rest).map byteChar) =
      some ((value : ℤ), rest.map byteChar) := by
  have hlength : ((fixedDigits count value).map byteChar).length = count := by
    rw [List.length_map, length_fixedDigits]
  have hdigits : ∀ byte ∈ fixedDigits count value, isDigit byte = true :=
    fun byte hbyte => isDigit_of_mem_fixedDigits hbyte
  have hall : ((fixedDigits count value).map byteChar).all Char.isDigit = true := by
    rw [List.all_map, List.all_eq_true]
    intro byte hbyte
    exact (isDigit_byteChar byte).trans (hdigits byte hbyte)
  simp only [Im.readDigits, List.map_append, List.take_left' hlength, List.drop_left' hlength]
  rw [if_pos ⟨hlength, hall⟩, foldl_byteChar hdigits, decimal_fixedDigits, Nat.mod_eq_of_lt h]

theorem expect_map {byte : UInt8} {expected : Char} (h : byteChar byte = expected) (rest : Text) :
    Im.expect expected ((byte :: rest).map byteChar) = some (rest.map byteChar) := by
  rw [List.map_cons, Im.expect, if_pos h]

/-- The first three digits are the milliseconds, also when there are fewer. -/
theorem readFraction_map {time : IsoTime} (h : time.Valid) :
    Im.readFraction (time.endText.map byteChar) =
      some ((decimal (time.fraction.take 3) : ℤ), time.zone.text.map byteChar) := by
  obtain ⟨hend, hpoint⟩ := time.zone.text_head
  by_cases hnil : time.fraction = []
  · have hother : time.endText.map byteChar = time.zone.text.map byteChar := by
      rw [IsoTime.endText, fractionText, if_pos hnil, List.nil_append]
    have hhead : ∀ rest, time.zone.text.map byteChar ≠ '.' :: rest := by
      intro rest heq
      cases hzone : time.zone.text with
      | nil =>
          rw [hzone] at heq
          cases heq
      | cons byte bytes =>
          rw [hzone] at heq hpoint
          have hbyte : byteChar byte = byteChar 46 := (List.cons.inj heq).1
          exact hpoint (congrArg some (byteChar_injective hbyte))
    rw [hother, hnil]
    unfold Im.readFraction
    split
    · rename_i heq
      exact absurd heq (hhead _)
    · rfl
  · obtain ⟨htake, hdrop⟩ := takeWhile_digits h.digits hend
    have hpredicate : Char.isDigit ∘ byteChar = isDigit := funext isDigit_byteChar
    have htext : time.endText.map byteChar =
        '.' :: (time.fraction ++ time.zone.text).map byteChar := by
      rw [IsoTime.endText, fractionText, if_neg hnil]
      rfl
    rw [htext, Im.readFraction, List.takeWhile_map, List.dropWhile_map, hpredicate, htake, hdrop,
      if_neg (by simpa using hnil), ← List.map_take,
      foldl_byteChar fun byte hbyte => h.digits byte (List.mem_of_mem_take hbyte)]

theorem readOffset_map {zone : Zone} (h : zone.Valid) :
    Im.readOffset (zone.text.map byteChar) = some (zone.minutes, []) := by
  cases zone with
  | utc => rfl
  | offset east hour minute =>
      obtain ⟨hhour, hminute⟩ := h
      have hhour' : hour ≤ 23 := hhour
      have hminute' : minute ≤ 59 := hminute
      have hread := @readDigits_map 2 hour (58 :: fixedDigits 2 minute) (by omega)
      have hcolon := expect_map byteChar_colon (fixedDigits 2 minute)
      have hread' := @readDigits_map 2 minute [] (by omega)
      rw [List.append_nil] at hread'
      have htext : (Zone.offset east hour minute).text.map byteChar =
          (if east then '+' else '-') ::
            (fixedDigits 2 hour ++ 58 :: fixedDigits 2 minute).map byteChar := by
        cases east
        · rfl
        · rfl
      have hsign : (if east then '+' else '-') ≠ 'Z' := by
        cases east
        · decide
        · decide
      rw [htext]
      unfold Im.readOffset
      split
      · rename_i heq
        exact absurd (List.cons.inj heq).1 hsign
      · rename_i heq
        obtain ⟨rfl, rfl⟩ := List.cons.inj heq
        rw [hread]
        simp only [Option.bind_eq_bind, Option.bind_some, hcolon, hread']
        cases east
        · rfl
        · rfl
      · rename_i heq
        cases heq

/-- The day count of the action channel is that of the contracts. -/
theorem epochDays_eq_isoDays (year : ℤ) {month day : ℤ} (h : 1 ≤ month) (h' : month ≤ 12) :
    epochDays year month day = isoDays year month day := by
  have hshift : CInt.toUnsigned (month + if month > 2 then -3 else 9) =
      (if month ≤ 2 then month + 12 else month) - 3 := by
    by_cases hm : month ≤ 2
    · rw [if_neg (not_lt.2 hm), if_pos hm, CInt.toUnsigned_eq (by omega) (by omega)]
      ring
    · rw [if_pos (not_le.1 hm), if_neg hm, CInt.toUnsigned_eq (by omega) (by omega)]
      ring
  simp only [epochDays, isoDays, hshift]

theorem bind_of_eq_some {α β : Type} {x : Option α} {a : α} {f : α → Option β} (h : x = some a) :
    x >>= f = f a := by
  rw [h]
  rfl

/-- `IsoToEpochMillis` takes the first digits of the fraction for milliseconds. -/
theorem isoToEpochMillis_text {time : IsoTime} (h : time.Valid) :
    isoToEpochMillis (ofBytes time.text) =
      some (time.instantSeconds * 1000 + decimal (time.fraction.take 3)) := by
  have hmonth := h.month_bounds
  have hday := h.day_bounds
  have hyear := h.year
  have hhour := h.hour
  have hminute := h.minute
  have hsecond := h.second
  have hchannel : epochDays time.year time.month time.day = isoDays time.year time.month time.day :=
    epochDays_eq_isoDays _ (by omega) (by omega)
  have hdays : isoDays time.date.year time.date.month time.date.day =
      Gregorian.dayNumber time.date := isoDays_eq h.date
  simp only [IsoTime.date] at hdays
  have hfraction := readFraction_map h
  rw [IsoTime.endText] at hfraction
  unfold isoToEpochMillis ofBytes IsoTime.text
  rw [String.toList_ofList]
  refine (bind_of_eq_some (readDigits_map _ (show time.year < 10 ^ 4 by omega))).trans ?_
  refine (bind_of_eq_some (expect_map byteChar_dash _)).trans ?_
  refine (bind_of_eq_some (readDigits_map _ (show time.month < 10 ^ 2 by omega))).trans ?_
  refine (bind_of_eq_some (expect_map byteChar_dash _)).trans ?_
  refine (bind_of_eq_some (readDigits_map _ (show time.day < 10 ^ 2 by omega))).trans ?_
  refine (bind_of_eq_some (expect_map byteChar_T _)).trans ?_
  refine (bind_of_eq_some (readDigits_map _ (show time.hour < 10 ^ 2 by omega))).trans ?_
  refine (bind_of_eq_some (expect_map byteChar_colon _)).trans ?_
  refine (bind_of_eq_some (readDigits_map _ (show time.minute < 10 ^ 2 by omega))).trans ?_
  refine (bind_of_eq_some (expect_map byteChar_colon _)).trans ?_
  refine (bind_of_eq_some (readDigits_map _ (show time.second < 10 ^ 2 by omega))).trans ?_
  refine (bind_of_eq_some hfraction).trans ?_
  refine (bind_of_eq_some (readOffset_map h.zone)).trans ?_
  refine (if_pos rfl).trans ?_
  apply congrArg some
  rw [hchannel, hdays]
  unfold IsoTime.instantSeconds IsoTime.date
  ring

/-! ## Where the readers agree -/

/-- All three readers return an instant. -/
structure ReadersReturn (input : Text) (millis : ℤ) : Prop where
  contracts : isoDateTimeMillis input = some millis
  pairing : (parseIsoMillis input).map Nat.cast = some millis
  channel : isoToEpochMillis (ofBytes input) = some millis

/-- A fraction whose first three digits are its milliseconds as they stand. -/
def InMilliseconds (fraction : Text) : Prop :=
  fraction.length = 0 ∨ 3 ≤ fraction.length ∨ ∀ byte ∈ fraction, byte = 48

theorem decimal_eq_zero_iff {fraction : Text} (h : ∀ byte ∈ fraction, isDigit byte = true) :
    decimal fraction = 0 ↔ ∀ byte ∈ fraction, byte = 48 := by
  constructor
  · intro hzero
    have hfixed := fixedDigits_decimal h
    rw [hzero, fixedDigits_zero] at hfixed
    intro byte hbyte
    rw [← hfixed] at hbyte
    exact List.eq_of_mem_replicate hbyte
  · intro hall
    rw [List.eq_replicate_of_mem hall, ← fixedDigits_zero, decimal_fixedDigits, Nat.zero_mod]

theorem decimal_take_three_eq_iff {fraction : Text} (h : ∀ byte ∈ fraction, isDigit byte = true) :
    decimal (fraction.take 3) = decimal fraction * 1000 / 10 ^ fraction.length ↔
      InMilliseconds fraction := by
  have hzero := decimal_eq_zero_iff h
  rw [← decimal_take_three h]
  unfold InMilliseconds
  by_cases hshort : fraction.length < 3
  · rw [List.take_of_length_le hshort.le, ← hzero]
    have hpow : fraction.length = 0 ∨ 10 ≤ 10 ^ (3 - fraction.length) := by
      right
      exact Nat.le_self_pow (by omega) 10
    constructor
    · intro heq
      right
      right
      rcases hpow with hnil | hpow
      · rw [List.length_eq_zero_iff.1 hnil]
        rfl
      · by_contra hne
        have := Nat.mul_le_mul_left (decimal fraction) hpow
        omega
    · rintro (hnil | hlong | hdecimal)
      · rw [List.length_eq_zero_iff.1 hnil]
        rfl
      · omega
      · rw [hdecimal, Nat.zero_mul]
  · rw [Nat.sub_eq_zero_of_le (by omega), pow_zero, mul_one]
    exact iff_of_true rfl (Or.inr (Or.inl (by omega)))

/-- On the accepted date-times from the epoch on, the three readers return the instant if and only if
the digits of the fraction are milliseconds as they stand. -/
theorem iso_readers_agree_iff (input : Text) (hvalid : isValidIsoDateTime input = true) :
    ∃ time : IsoTime, time.Valid ∧ time.text = input ∧
      (0 ≤ time.instantMillis →
        (ReadersReturn input time.instantMillis ↔ InMilliseconds time.fraction)) := by
  obtain ⟨time, htime, rfl⟩ := (isValidIsoDateTime_iff input).1 hvalid
  refine ⟨time, htime, rfl, fun hepoch => ?_⟩
  have hmillis : time.millisecond < 1000 := by
    unfold IsoTime.millisecond
    rw [Nat.div_lt_iff_lt_mul (by positivity), Nat.mul_comm]
    exact Nat.mul_lt_mul_of_pos_left (decimal_lt htime.digits) (by norm_num)
  have hseconds : ¬ time.instantSeconds < 0 := by
    unfold IsoTime.instantMillis at hepoch
    omega
  have hcontracts := IsoTime.isoDateTimeMillis_text htime
  have hpairing : (parseIsoMillis time.text).map Nat.cast = some time.instantMillis := by
    rw [parseIsoMillis_text htime, if_neg hseconds]
    show some (((time.instantSeconds.toNat * 1000 + time.millisecond : ℕ)) : ℤ) = _
    unfold IsoTime.instantMillis
    congr 1
    omega
  rw [← decimal_take_three_eq_iff htime.digits]
  constructor
  · intro h
    have hchannel := Option.some.inj ((isoToEpochMillis_text htime).symm.trans h.channel)
    unfold IsoTime.instantMillis at hchannel
    have hcast : ((decimal (time.fraction.take 3) : ℕ) : ℤ) = time.millisecond := by omega
    exact_mod_cast hcast
  · intro h
    refine ⟨hcontracts, hpairing, ?_⟩
    rw [isoToEpochMillis_text htime, h]
    rfl

/-- Half a second past noon. -/
theorem iso_readers_agree_iff_half : ∃ time : IsoTime, time.Valid ∧
    time.text = ascii "2026-05-04T12:00:00.5Z" ∧ (0 ≤ time.instantMillis →
      (ReadersReturn (ascii "2026-05-04T12:00:00.5Z") time.instantMillis ↔
        InMilliseconds time.fraction)) :=
  iso_readers_agree_iff _ (by decide)

/-- The action channel reads half a second as five milliseconds. -/
theorem half_second_read_as_five_milliseconds :
    ∃ input : Text, isValidIsoDateTime input = true ∧
      isoDateTimeMillis input = some 1777896000500 ∧ parseIsoMillis input = some 1777896000500 ∧
      isoToEpochMillis (ofBytes input) = some 1777896000005 :=
  ⟨ascii "2026-05-04T12:00:00.5Z", by decide, by decide, by decide, by decide⟩

end VoiceLife.Im
