import VoiceLife.Lib.DecimalText
import VoiceLife.Schedule.NextOccurrence

/-! # `schedule_tool_output.h`: the texts of dates and times

A local date and time travels through the tools as `YYYY-MM-DD HH:mm:ss`. `NamesDateTime` says which
strings name an existing date and clock time; the parser accepts these and no others, and the
formatter writes them back except for most instants before 1970, where it divides a negative local
second count.
-/

namespace VoiceLife.Mcp

open CInt DecimalText Gregorian

/-! ### schedule_tool_output.h::IsAsciiDigits -/

def isAsciiDigits (text : Text) (start count : ℕ) : Bool :=
  if start + count > text.length then false else (field text start count).all isDigit

/-! ### schedule_tool_output.h::FormatDate, FormatTime, FormatDateTime -/

/-- `"%04d-%02d-%02d"`. -/
def printDate (date : LocalDate) : Text :=
  printInt 4 date.year ++ 45 :: printInt 2 date.month ++ 45 :: printInt 2 date.day

/-- `"%02d:%02d:%02d"`. -/
def printTime (time : LocalTime) : Text :=
  printInt 2 time.hour ++ 58 :: printInt 2 time.minute ++ 58 :: printInt 2 time.second

/-- `FormatDate`; `snprintf` keeps what fits into its buffer. -/
def formatDate (value : LocalDate) : Text :=
  (printDate value).take 15

def formatTime (value : LocalTime) : Text :=
  (printTime value).take 15

/-- `FormatDateTime`; the header's own `kTimezoneOffsetSeconds` is that of the planner. -/
def formatDateTime (value : ℤ) : Text :=
  let localSeconds := value + kTimezoneOffsetSeconds
  let date := civilFromDays (localSeconds.tdiv 86400)
  let tod := localSeconds.tmod 86400
  let hour := toInt (tod.tdiv 3600)
  let minute := toInt ((tod.tmod 3600).tdiv 60)
  let second := toInt (tod.tmod 60)
  (printDate date ++ 32 :: printTime ⟨hour, minute, second⟩).take 23

/-! ### schedule_tool_output.h::ParseLocalDate, ParseLocalTime, ParseDateTime -/

/-- `"%d-%d-%d"`. -/
def dateDirectives : List Directive := [.int, .literal 45, .int, .literal 45, .int]

/-- `"%d:%d:%d"`. -/
def timeDirectives : List Directive := [.int, .literal 58, .int, .literal 58, .int]

def parseLocalDate (text : Text) : Option LocalDate :=
  if text.length ≠ 10 ∨ text[4]? ≠ some 45 ∨ text[7]? ≠ some 45 ∨ ¬ isAsciiDigits text 0 4 ∨
      ¬ isAsciiDigits text 5 2 ∨ ¬ isAsciiDigits text 8 2 then none
  else match sscanf dateDirectives text with
    | [year, month, day] =>
      if year < 1 ∨ month < 1 ∨ month > 12 ∨ day < 1 ∨ day > daysInMonth year month then none
      else some ⟨year, month, day⟩
    | _ => none

def parseLocalTime (text : Text) : Option LocalTime :=
  if text.length ≠ 8 ∨ text[2]? ≠ some 58 ∨ text[5]? ≠ some 58 ∨ ¬ isAsciiDigits text 0 2 ∨
      ¬ isAsciiDigits text 3 2 ∨ ¬ isAsciiDigits text 6 2 then none
  else match sscanf timeDirectives text with
    | [hour, minute, second] =>
      if hour < 0 ∨ hour > 23 ∨ minute < 0 ∨ minute > 59 ∨ second < 0 ∨ second > 59 then none
      else some ⟨hour, minute, second⟩
    | _ => none

def parseDateTime (text : Text) : Option ℤ :=
  if text.length ≠ 19 ∨ text[4]? ≠ some 45 ∨ text[7]? ≠ some 45 ∨ text[10]? ≠ some 32 ∨
      text[13]? ≠ some 58 ∨ text[16]? ≠ some 58 ∨ ¬ isAsciiDigits text 0 4 ∨
      ¬ isAsciiDigits text 5 2 ∨ ¬ isAsciiDigits text 8 2 ∨ ¬ isAsciiDigits text 11 2 ∨
      ¬ isAsciiDigits text 14 2 ∨ ¬ isAsciiDigits text 17 2 then none
  else match sscanf (dateDirectives ++ .space :: timeDirectives) text with
    | [year, month, day, hour, minute, second] =>
      if year < 1 ∨ month < 1 ∨ month > 12 ∨ day < 1 ∨ day > daysInMonth year month ∨ hour < 0 ∨
          hour > 23 ∨ minute < 0 ∨ minute > 59 ∨ second < 0 ∨ second > 59 then none
      else
        let days := daysFromCivil year month day
        some (days * 86400 + hour * 3600 + minute * 60 + second - kTimezoneOffsetSeconds)
    | _ => none

/-! ### Which strings name a date or a time -/

/-- The text `YYYY-MM-DD`. -/
def dateText (d : LocalDate) : Text :=
  fixedDigits 4 d.year.toNat ++ 45 :: fixedDigits 2 d.month.toNat ++ 45 :: fixedDigits 2 d.day.toNat

/-- The text `HH:mm:ss`. -/
def timeText (t : LocalTime) : Text :=
  fixedDigits 2 t.hour.toNat ++ 58 :: fixedDigits 2 t.minute.toNat ++
    58 :: fixedDigits 2 t.second.toNat

/-- The text `YYYY-MM-DD HH:mm:ss`. -/
def dateTimeText (d : LocalDate) (t : LocalTime) : Text :=
  dateText d ++ 32 :: timeText t

/-- An existing date with a year of four digits. -/
structure Writable (d : LocalDate) : Prop where
  valid : d.Valid
  one_le_year : 1 ≤ d.year
  year_le : d.year ≤ 9999

theorem writable_iff (d : LocalDate) : Writable d ↔ d.Valid ∧ 1 ≤ d.year ∧ d.year ≤ 9999 :=
  ⟨fun h => ⟨h.1, h.2, h.3⟩, fun h => ⟨h.1, h.2.1, h.2.2⟩⟩

instance (d : LocalDate) : Decidable (Writable d) := decidable_of_iff _ (writable_iff d).symm

/-- The string is the text of an existing date and clock time. -/
structure NamesDateTime (s : Text) (d : LocalDate) (t : LocalTime) : Prop where
  date : Writable d
  clock : t.InClockRange
  text : s = dateTimeText d t

@[simp] theorem length_dateText (d : LocalDate) : (dateText d).length = 10 := by
  simp [dateText]

@[simp] theorem length_timeText (t : LocalTime) : (timeText t).length = 8 := by
  simp [timeText]

@[simp] theorem length_dateTimeText (d : LocalDate) (t : LocalTime) :
    (dateTimeText d t).length = 19 := by
  simp [dateTimeText]

theorem isAsciiDigits_iff (text : Text) (start count : ℕ) :
    isAsciiDigits text start count = true ↔ IsNumberAt text start count := by
  unfold isAsciiDigits IsNumberAt
  split_ifs with h
  · simp only [false_iff, not_and]
    omega
  · rw [List.all_eq_true]
    exact ⟨fun hd => ⟨by omega, hd⟩, fun hd => hd.2⟩

/-! ### The separators and digits of a date, and of a time -/

/-- `YYYY-MM-DD` stands at position `i`, whatever its digits. -/
structure HasDateAt (s : Text) (i : ℕ) : Prop where
  year : IsNumberAt s i 4
  dash₁ : s[i + 4]? = some 45
  month : IsNumberAt s (i + 5) 2
  dash₂ : s[i + 7]? = some 45
  day : IsNumberAt s (i + 8) 2

/-- `HH:mm:ss` stands at position `i`, whatever its digits. -/
structure HasTimeAt (s : Text) (i : ℕ) : Prop where
  hour : IsNumberAt s i 2
  colon₁ : s[i + 2]? = some 58
  minute : IsNumberAt s (i + 3) 2
  colon₂ : s[i + 5]? = some 58
  second : IsNumberAt s (i + 6) 2

/-- The numbers of the date at position `i`. -/
def dateAt (s : Text) (i : ℕ) : LocalDate :=
  ⟨decimal (field s i 4), decimal (field s (i + 5) 2), decimal (field s (i + 8) 2)⟩

/-- The numbers of the time at position `i`. -/
def timeAt (s : Text) (i : ℕ) : LocalTime :=
  ⟨decimal (field s i 2), decimal (field s (i + 3) 2), decimal (field s (i + 6) 2)⟩

variable {s : Text}

theorem HasDateAt.dateText_eq {i : ℕ} (h : HasDateAt s i) : dateText (dateAt s i) = field s i 10 := by
  have hy := h.year.fixedDigits_eq
  have hm := h.month.fixedDigits_eq
  have hd := h.day.fixedDigits_eq
  have e₁ := drop_eq_field_append h.dash₁
  have e₂ := drop_eq_field_append (i := i + 5) (w := 2) h.dash₂
  have l₁ := h.year.length
  have l₂ := h.month.length
  have hfield : field s i 10 = field s i 4 ++ 45 :: field s (i + 5) 2 ++ 45 :: field s (i + 8) 2 := by
    show (s.drop i).take 10 = _
    rw [e₁, List.take_append, l₁, List.take_of_length_le (by omega)]
    show _ ++ 45 :: (s.drop (i + 5)).take 5 = _
    rw [e₂, List.take_append, l₂, List.take_of_length_le (by omega)]
    simp [field]
  rw [hfield, dateText, dateAt]
  simp only [Int.toNat_natCast, hy, hm, hd]

theorem HasTimeAt.timeText_eq {i : ℕ} (h : HasTimeAt s i) : timeText (timeAt s i) = field s i 8 := by
  have hh := h.hour.fixedDigits_eq
  have hm := h.minute.fixedDigits_eq
  have hs := h.second.fixedDigits_eq
  have e₁ := drop_eq_field_append h.colon₁
  have e₂ := drop_eq_field_append (i := i + 3) (w := 2) h.colon₂
  have l₁ := h.hour.length
  have l₂ := h.minute.length
  have hfield : field s i 8 = field s i 2 ++ 58 :: field s (i + 3) 2 ++ 58 :: field s (i + 6) 2 := by
    show (s.drop i).take 8 = _
    rw [e₁, List.take_append, l₁, List.take_of_length_le (by omega)]
    show _ ++ 58 :: (s.drop (i + 3)).take 5 = _
    rw [e₂, List.take_append, l₂, List.take_of_length_le (by omega)]
    simp [field]
  rw [hfield, timeText, timeAt]
  simp only [Int.toNat_natCast, hh, hm, hs]

/-! ### What the parsers read -/

theorem sscanf_date {i : ℕ} (h : HasDateAt s i) (hlen : s.length = i + 10) :
    sscanf dateDirectives (s.drop i) =
      [(dateAt s i).year, (dateAt s i).month, (dateAt s i).day] := by
  rw [dateDirectives, sscanf_field h.year (by omega) h.dash₁ (by decide),
    sscanf_field h.month (by omega) h.dash₂ (by decide), sscanf_last h.day (by omega) hlen]
  rfl

theorem sscanf_time {i : ℕ} (h : HasTimeAt s i) (hlen : s.length = i + 8) :
    sscanf timeDirectives (s.drop i) =
      [(timeAt s i).hour, (timeAt s i).minute, (timeAt s i).second] := by
  rw [timeDirectives, sscanf_field h.hour (by omega) h.colon₁ (by decide),
    sscanf_field h.minute (by omega) h.colon₂ (by decide), sscanf_last h.second (by omega) hlen]
  rfl

theorem sscanf_dateTime (hd : HasDateAt s 0) (hspace : s[10]? = some 32)
    (ht : HasTimeAt s 11) (hlen : s.length = 19) :
    sscanf (dateDirectives ++ .space :: timeDirectives) s =
      [(dateAt s 0).year, (dateAt s 0).month, (dateAt s 0).day, (timeAt s 11).hour,
        (timeAt s 11).minute, (timeAt s 11).second] := by
  show sscanf (.int :: .literal 45 :: .int :: .literal 45 :: .int :: .space :: timeDirectives)
    (s.drop 0) = _
  rw [sscanf_field hd.year (by omega) hd.dash₁ (by decide), sscanf_field hd.month (by omega) hd.dash₂ (by decide),
    sscanf_field_space hd.day (by omega) hspace, dropWhile_isSpace_drop ht.hour (by omega),
    sscanf_time ht hlen]
  rfl

theorem HasDateAt.year_le {i : ℕ} (h : HasDateAt s i) : (dateAt s i).year ≤ 9999 := by
  have hlt := h.year.decimal_lt
  show (decimal (field s i 4) : ℤ) ≤ 9999
  omega

/-- The text of a date has the shape of one, whatever stands around it. -/
theorem hasDateAt_append (before after : Text) (d : LocalDate) :
    HasDateAt (before ++ (dateText d ++ after)) before.length := by
  have hm := isNumberAt_append (before ++ fixedDigits 4 d.year.toNat ++ [45])
    (45 :: fixedDigits 2 d.day.toNat ++ after) 2 d.month.toNat
  have hd := isNumberAt_append
    (before ++ fixedDigits 4 d.year.toNat ++ 45 :: fixedDigits 2 d.month.toNat ++ [45]) after 2
    d.day.toNat
  refine ⟨?_, ?_, ?_, ?_, ?_⟩
  · simpa [dateText] using isNumberAt_append before
      (45 :: fixedDigits 2 d.month.toNat ++ 45 :: fixedDigits 2 d.day.toNat ++ after) 4 d.year.toNat
  · simp [dateText]
  · simpa [dateText] using hm
  · simp [dateText, List.getElem?_append]
  · simpa [dateText] using hd

theorem hasTimeAt_append (before after : Text) (t : LocalTime) :
    HasTimeAt (before ++ (timeText t ++ after)) before.length := by
  have hm := isNumberAt_append (before ++ fixedDigits 2 t.hour.toNat ++ [58])
    (58 :: fixedDigits 2 t.second.toNat ++ after) 2 t.minute.toNat
  have hs := isNumberAt_append
    (before ++ fixedDigits 2 t.hour.toNat ++ 58 :: fixedDigits 2 t.minute.toNat ++ [58]) after 2
    t.second.toNat
  refine ⟨?_, ?_, ?_, ?_, ?_⟩
  · simpa [timeText] using isNumberAt_append before
      (58 :: fixedDigits 2 t.minute.toNat ++ 58 :: fixedDigits 2 t.second.toNat ++ after) 2
      t.hour.toNat
  · simp [timeText]
  · simpa [timeText] using hm
  · simp [timeText, List.getElem?_append]
  · simpa [timeText] using hs

/-- The text of a date reads back as that date. -/
theorem dateAt_append {d : LocalDate} (hd : Writable d) (before after : Text) :
    dateAt (before ++ (dateText d ++ after)) before.length = d := by
  obtain ⟨⟨h₁, h₂, h₃, h₄⟩, h₅, h₆⟩ := hd
  have hlen := monthLength_le d.year d.month
  have hy := decimal_field_append (w := 4) (n := d.year.toNat) before
    (45 :: fixedDigits 2 d.month.toNat ++ 45 :: fixedDigits 2 d.day.toNat ++ after) (by omega)
  have hm := decimal_field_append (w := 2) (n := d.month.toNat)
    (before ++ fixedDigits 4 d.year.toNat ++ [45]) (45 :: fixedDigits 2 d.day.toNat ++ after)
    (by omega)
  have hday := decimal_field_append (w := 2) (n := d.day.toNat)
    (before ++ fixedDigits 4 d.year.toNat ++ 45 :: fixedDigits 2 d.month.toNat ++ [45]) after
    (by omega)
  simp only [List.append_assoc, List.cons_append, List.nil_append, List.length_append,
    length_fixedDigits, List.length_cons, List.length_nil] at hy hm hday
  have ey : ((d.year.toNat : ℕ) : ℤ) = d.year := by omega
  have em : ((d.month.toNat : ℕ) : ℤ) = d.month := by omega
  have ed : ((d.day.toNat : ℕ) : ℤ) = d.day := by omega
  simp only [dateAt, dateText, List.append_assoc, List.cons_append, hy, hm, hday, ey, em, ed]

theorem timeAt_append {t : LocalTime} (ht : t.InClockRange) (before after : Text) :
    timeAt (before ++ (timeText t ++ after)) before.length = t := by
  obtain ⟨h₁, h₂, h₃, h₄, h₅, h₆⟩ := ht
  have hh := decimal_field_append (w := 2) (n := t.hour.toNat) before
    (58 :: fixedDigits 2 t.minute.toNat ++ 58 :: fixedDigits 2 t.second.toNat ++ after) (by omega)
  have hm := decimal_field_append (w := 2) (n := t.minute.toNat)
    (before ++ fixedDigits 2 t.hour.toNat ++ [58]) (58 :: fixedDigits 2 t.second.toNat ++ after)
    (by omega)
  have hs := decimal_field_append (w := 2) (n := t.second.toNat)
    (before ++ fixedDigits 2 t.hour.toNat ++ 58 :: fixedDigits 2 t.minute.toNat ++ [58]) after
    (by omega)
  simp only [List.append_assoc, List.cons_append, List.nil_append, List.length_append,
    length_fixedDigits, List.length_cons, List.length_nil] at hh hm hs
  have eh : ((t.hour.toNat : ℕ) : ℤ) = t.hour := by omega
  have em : ((t.minute.toNat : ℕ) : ℤ) = t.minute := by omega
  have es : ((t.second.toNat : ℕ) : ℤ) = t.second := by omega
  simp only [timeAt, timeText, List.append_assoc, List.cons_append, hh, hm, hs, eh, em, es]

/-- The parsers' range check on the date fields, given that the year has four digits. -/
theorem writable_iff_ranges {d : LocalDate} (hle : d.year ≤ 9999) :
    Writable d ↔ ¬ (d.year < 1 ∨ d.month < 1 ∨ d.month > 12 ∨ d.day < 1 ∨
      d.day > daysInMonth d.year d.month) := by
  rw [writable_iff, Date.valid_iff]
  by_cases hm : 1 ≤ d.month ∧ d.month ≤ 12
  · rw [daysInMonth_eq hm.1 hm.2]
    omega
  · omega

theorem parseLocalDate_of_shape (h : HasDateAt s 0) (hlen : s.length = 10) :
    parseLocalDate s = if Writable (dateAt s 0) then some (dateAt s 0) else none := by
  have hscan := sscanf_date h hlen
  rw [List.drop_zero] at hscan
  have hshape : ¬ (s.length ≠ 10 ∨ s[4]? ≠ some 45 ∨ s[7]? ≠ some 45 ∨ ¬ isAsciiDigits s 0 4 ∨
      ¬ isAsciiDigits s 5 2 ∨ ¬ isAsciiDigits s 8 2) := by
    simp only [isAsciiDigits_iff]
    have := h.dash₁
    have := h.dash₂
    have := h.year
    have := h.month
    have := h.day
    simp_all
  rw [parseLocalDate, if_neg hshape, hscan]
  dsimp only
  simp only [writable_iff_ranges h.year_le]
  split_ifs <;> simp_all

theorem inClockRange_iff_ranges (t : LocalTime) :
    t.InClockRange ↔ ¬ (t.hour < 0 ∨ t.hour > 23 ∨ t.minute < 0 ∨ t.minute > 59 ∨ t.second < 0 ∨
      t.second > 59) := by
  unfold LocalTime.InClockRange
  omega

theorem parseLocalTime_of_shape (h : HasTimeAt s 0) (hlen : s.length = 8) :
    parseLocalTime s = if (timeAt s 0).InClockRange then some (timeAt s 0) else none := by
  have hscan := sscanf_time h hlen
  rw [List.drop_zero] at hscan
  have hshape : ¬ (s.length ≠ 8 ∨ s[2]? ≠ some 58 ∨ s[5]? ≠ some 58 ∨ ¬ isAsciiDigits s 0 2 ∨
      ¬ isAsciiDigits s 3 2 ∨ ¬ isAsciiDigits s 6 2) := by
    simp only [isAsciiDigits_iff]
    have := h.colon₁
    have := h.colon₂
    have := h.hour
    have := h.minute
    have := h.second
    simp_all
  rw [parseLocalTime, if_neg hshape, hscan]
  dsimp only
  simp only [inClockRange_iff_ranges]
  split_ifs <;> simp_all

theorem parseDateTime_of_shape (hd : HasDateAt s 0) (hspace : s[10]? = some 32)
    (ht : HasTimeAt s 11) (hlen : s.length = 19) :
    parseDateTime s =
      if Writable (dateAt s 0) ∧ (timeAt s 11).InClockRange then
        some (unixFromLocal (dateAt s 0) (timeAt s 11).hour (timeAt s 11).minute
          (timeAt s 11).second)
      else none := by
  have hscan := sscanf_dateTime hd hspace ht hlen
  have hshape : ¬ (s.length ≠ 19 ∨ s[4]? ≠ some 45 ∨ s[7]? ≠ some 45 ∨ s[10]? ≠ some 32 ∨
      s[13]? ≠ some 58 ∨ s[16]? ≠ some 58 ∨ ¬ isAsciiDigits s 0 4 ∨ ¬ isAsciiDigits s 5 2 ∨
      ¬ isAsciiDigits s 8 2 ∨ ¬ isAsciiDigits s 11 2 ∨ ¬ isAsciiDigits s 14 2 ∨
      ¬ isAsciiDigits s 17 2) := by
    simp only [isAsciiDigits_iff]
    have := hd.dash₁
    have := hd.dash₂
    have := hd.year
    have := hd.month
    have := hd.day
    have := ht.colon₁
    have := ht.colon₂
    have := ht.hour
    have := ht.minute
    have := ht.second
    simp_all
  rw [parseDateTime, if_neg hshape, hscan]
  dsimp only
  simp only [writable_iff_ranges hd.year_le, inClockRange_iff_ranges, unixFromLocal]
  split_ifs with hbad hgood hgood
  · omega
  · rfl
  · rfl
  · omega

/-! ### The parsers accept exactly the texts -/

theorem parseLocalDate_eq_some_iff {d : LocalDate} :
    parseLocalDate s = some d ↔ Writable d ∧ s = dateText d := by
  constructor
  · intro h
    have hshape : s.length = 10 ∧ HasDateAt s 0 := by
      unfold parseLocalDate at h
      split_ifs at h with hs
      simp only [not_or, not_not, isAsciiDigits_iff] at hs
      obtain ⟨hlen, h₁, h₂, hy, hm, hd⟩ := hs
      exact ⟨hlen, hy, h₁, hm, h₂, hd⟩
    obtain ⟨hlen, hs⟩ := hshape
    rw [parseLocalDate_of_shape hs hlen] at h
    split_ifs at h with hw
    obtain rfl := Option.some.inj h
    refine ⟨hw, ?_⟩
    rw [hs.dateText_eq, ← drop_eq_field hlen, List.drop_zero]
  · rintro ⟨hd, rfl⟩
    have hs := hasDateAt_append [] [] d
    have hat := dateAt_append hd [] []
    simp only [List.nil_append, List.append_nil, List.length_nil] at hs hat
    rw [parseLocalDate_of_shape hs (length_dateText d), hat, if_pos hd]

theorem parseLocalTime_eq_some_iff {t : LocalTime} :
    parseLocalTime s = some t ↔ t.InClockRange ∧ s = timeText t := by
  constructor
  · intro h
    have hshape : s.length = 8 ∧ HasTimeAt s 0 := by
      unfold parseLocalTime at h
      split_ifs at h with hs
      simp only [not_or, not_not, isAsciiDigits_iff] at hs
      obtain ⟨hlen, h₁, h₂, hh, hm, hsec⟩ := hs
      exact ⟨hlen, hh, h₁, hm, h₂, hsec⟩
    obtain ⟨hlen, hs⟩ := hshape
    rw [parseLocalTime_of_shape hs hlen] at h
    split_ifs at h with hr
    obtain rfl := Option.some.inj h
    refine ⟨hr, ?_⟩
    rw [hs.timeText_eq, ← drop_eq_field hlen, List.drop_zero]
  · rintro ⟨ht, rfl⟩
    have hs := hasTimeAt_append [] [] t
    have hat := timeAt_append ht [] []
    simp only [List.nil_append, List.append_nil, List.length_nil] at hs hat
    rw [parseLocalTime_of_shape hs (length_timeText t), hat, if_pos ht]

/-- `ParseDateTime` accepts the text of an existing date and clock time, as that instant. -/
theorem parseDateTime_eq_some_iff {v : ℤ} :
    parseDateTime s = some v ↔
      ∃ d t, NamesDateTime s d t ∧ v = unixFromLocal d t.hour t.minute t.second := by
  constructor
  · intro h
    have hshape : s.length = 19 ∧ HasDateAt s 0 ∧ s[10]? = some 32 ∧ HasTimeAt s 11 := by
      unfold parseDateTime at h
      split_ifs at h with hs
      simp only [not_or, not_not, isAsciiDigits_iff] at hs
      obtain ⟨hlen, h₁, h₂, h₃, h₄, h₅, hy, hm, hd, hh, hmin, hsec⟩ := hs
      exact ⟨hlen, ⟨hy, h₁, hm, h₂, hd⟩, h₃, ⟨hh, h₄, hmin, h₅, hsec⟩⟩
    obtain ⟨hlen, hd, hspace, ht⟩ := hshape
    rw [parseDateTime_of_shape hd hspace ht hlen] at h
    split_ifs at h with hw
    refine ⟨dateAt s 0, timeAt s 11, ⟨hw.1, hw.2, ?_⟩, (Option.some.inj h).symm⟩
    have hsplit := drop_eq_field_append (i := 0) (w := 10) hspace
    have hlast := drop_eq_field (s := s) (i := 11) (w := 8) hlen
    rw [dateTimeText, hd.dateText_eq, ht.timeText_eq, ← hlast]
    simpa using hsplit
  · rintro ⟨d, t, ⟨hd, ht, rfl⟩, rfl⟩
    have hdate := hasDateAt_append [] (32 :: timeText t) d
    have hatd := dateAt_append hd [] (32 :: timeText t)
    have htime := hasTimeAt_append (dateText d ++ [32]) [] t
    have hatt := timeAt_append ht (dateText d ++ [32]) []
    simp only [List.append_nil, List.length_append, length_dateText, List.length_singleton,
      List.append_assoc, List.cons_append, List.nil_append] at htime hatt
    have hspace : (dateTimeText d t)[10]? = some 32 := by simp [dateTimeText]
    rw [List.nil_append, List.length_nil, ← dateTimeText] at hdate hatd
    rw [← dateTimeText] at htime hatt
    rw [parseDateTime_of_shape hdate hspace htime (length_dateTimeText d t), hatd, hatt,
      if_pos ⟨hd, ht⟩]

/-! ### What the formatter writes -/

theorem printDate_eq {d : LocalDate} (hd : Writable d) : printDate d = dateText d := by
  obtain ⟨⟨h₁, h₂, h₃, h₄⟩, h₅, h₆⟩ := hd
  have hlen := monthLength_le d.year d.month
  have ey : ((d.year.toNat : ℕ) : ℤ) = d.year := by omega
  have em : ((d.month.toNat : ℕ) : ℤ) = d.month := by omega
  have ed : ((d.day.toNat : ℕ) : ℤ) = d.day := by omega
  rw [printDate, dateText, ← ey, ← em, ← ed, printInt_eq_fixedDigits (by omega) (by omega),
    printInt_eq_fixedDigits (by omega) (by omega), printInt_eq_fixedDigits (by omega) (by omega)]
  rfl

theorem printTime_eq {t : LocalTime} (ht : t.InClockRange) : printTime t = timeText t := by
  obtain ⟨h₁, h₂, h₃, h₄, h₅, h₆⟩ := ht
  have eh : ((t.hour.toNat : ℕ) : ℤ) = t.hour := by omega
  have em : ((t.minute.toNat : ℕ) : ℤ) = t.minute := by omega
  have es : ((t.second.toNat : ℕ) : ℤ) = t.second := by omega
  rw [printTime, timeText, ← eh, ← em, ← es, printInt_eq_fixedDigits (by omega) (by omega),
    printInt_eq_fixedDigits (by omega) (by omega), printInt_eq_fixedDigits (by omega) (by omega)]
  rfl

theorem dateText_injective {d d' : LocalDate} (hd : Writable d) (hd' : Writable d')
    (h : dateText d = dateText d') : d = d' := by
  have hat := dateAt_append hd [] []
  rw [h, dateAt_append hd' [] []] at hat
  exact hat.symm

/-- The local second count of a date and clock time. -/
theorem unixFromLocal_add_offset {d : LocalDate} (hd : d.Valid) (t : LocalTime) :
    unixFromLocal d t.hour t.minute t.second + kTimezoneOffsetSeconds =
      dayNumber d * 86400 + localTimeToSeconds t := by
  rw [unixFromLocal, daysFromCivil_eq_dayNumber hd, localTimeToSeconds]
  omega

/-- The clock fields taken out of the second count of a clock time. -/
theorem clock_of_localTimeToSeconds {t : LocalTime} (ht : t.InClockRange) :
    toInt ((localTimeToSeconds t).tdiv 3600) = t.hour ∧
      toInt (((localTimeToSeconds t).tmod 3600).tdiv 60) = t.minute ∧
      toInt ((localTimeToSeconds t).tmod 60) = t.second := by
  have hrange := localTimeToSeconds_range ht
  obtain ⟨h₁, h₂, h₃, h₄, h₅, h₆⟩ := ht
  have hmod : 0 ≤ localTimeToSeconds t % 3600 := Int.emod_nonneg _ (by decide)
  rw [Int.tdiv_eq_ediv_of_nonneg hrange.1, Int.tmod_eq_emod_of_nonneg hrange.1,
    Int.tmod_eq_emod_of_nonneg hrange.1, Int.tdiv_eq_ediv_of_nonneg hmod]
  unfold localTimeToSeconds at *
  refine ⟨?_, ?_, ?_⟩
  · rw [toInt_eq (by omega) (by unfold intMax; omega)]
    omega
  · rw [toInt_eq (by omega) (by unfold intMax; omega)]
    omega
  · rw [toInt_eq (by omega) (by unfold intMax; omega)]
    omega

/-- From 1970 on, and at midnight before, the formatter writes the local date and clock time. -/
theorem formatDateTime_unixFromLocal {d : LocalDate} {t : LocalTime} (hd : Writable d)
    (ht : t.InClockRange) (h : 1970 ≤ d.year ∨ t = ⟨0, 0, 0⟩) :
    formatDateTime (unixFromLocal d t.hour t.minute t.second) = dateTimeText d t := by
  have hrange := localTimeToSeconds_range ht
  have hsplit : (dayNumber d * 86400 + localTimeToSeconds t).tdiv 86400 = dayNumber d ∧
      (dayNumber d * 86400 + localTimeToSeconds t).tmod 86400 = localTimeToSeconds t := by
    rcases h with hyear | rfl
    · have hday := (dayNumber_nonneg_iff hd.valid).2 hyear
      have h0 : 0 ≤ dayNumber d * 86400 + localTimeToSeconds t := by omega
      rw [Int.tdiv_eq_ediv_of_nonneg h0, Int.tmod_eq_emod_of_nonneg h0]
      omega
    · show (dayNumber d * 86400 + 0).tdiv 86400 = _ ∧ (dayNumber d * 86400 + 0).tmod 86400 = 0
      rw [add_zero]
      exact ⟨Int.mul_tdiv_cancel _ (by decide), Int.mul_tmod_left _ _⟩
  have hyear := hd.one_le_year
  have hyear' := hd.year_le
  have hcivil := civilFromDays_dayNumber hd.valid (by omega) (by unfold intMax; omega)
  obtain ⟨hhour, hminute, hsecond⟩ := clock_of_localTimeToSeconds ht
  unfold formatDateTime
  rw [unixFromLocal_add_offset hd.valid]
  dsimp only
  rw [hsplit.1, hsplit.2, hcivil, hhour, hminute, hsecond, printDate_eq hd, printTime_eq ht]
  apply List.take_of_length_le
  simp

/-- Before 1970 the quotient rounds up, so any other clock time is written with the day after. -/
theorem formatDateTime_ne {d : LocalDate} {t : LocalTime} (hd : Writable d) (ht : t.InClockRange)
    (hyear : d.year < 1970) (hne : t ≠ ⟨0, 0, 0⟩) :
    formatDateTime (unixFromLocal d t.hour t.minute t.second) ≠ dateTimeText d t := by
  have hrange := localTimeToSeconds_range ht
  have hpos : localTimeToSeconds t ≠ 0 := fun h => hne (localTimeToSeconds_eq_zero ht h)
  have hday : dayNumber d < 0 := by
    by_contra h
    have := (dayNumber_nonneg_iff hd.valid).1 (by omega)
    omega
  have hquot : (dayNumber d * 86400 + localTimeToSeconds t).tdiv 86400 = dayNumber d.next := by
    rw [dayNumber_next hd.valid, ← neg_neg (dayNumber d * 86400 + localTimeToSeconds t),
      Int.neg_tdiv, Int.tdiv_eq_ediv_of_nonneg (by omega)]
    omega
  have hnext : Writable d.next := by
    have hy₁ := hd.one_le_year
    refine ⟨hd.valid.next, ?_, ?_⟩
    · unfold Date.next
      split_ifs <;> dsimp only <;> omega
    · unfold Date.next
      split_ifs <;> dsimp only <;> omega
  have hyn := hnext.one_le_year
  have hyn' := hnext.year_le
  have hcivil := civilFromDays_dayNumber hnext.valid (by omega) (by unfold intMax; omega)
  intro heq
  -- the first ten bytes of both texts are dates
  have hprefix := congrArg (List.take 10) heq
  unfold formatDateTime at hprefix
  rw [unixFromLocal_add_offset hd.valid] at hprefix
  dsimp only at hprefix
  rw [hquot, hcivil, printDate_eq hnext, List.take_take, dateTimeText,
    List.take_append_of_le_length (by simp), List.take_append_of_le_length (by simp),
    List.take_of_length_le (by simp), List.take_of_length_le (by simp)] at hprefix
  have hsame := dateText_injective hnext hd hprefix
  have := dayNumber_next hd.valid
  rw [hsame] at this
  omega

/-! ### The round trip -/

/-- The parser accepts the string just when it names a date and time, and what it accepts the
formatter writes back. -/
def RoundTrips (s : Text) : Prop :=
  ((parseDateTime s).isSome ↔ ∃ d t, NamesDateTime s d t) ∧
    ∀ v, parseDateTime s = some v → formatDateTime v = s

theorem parseDateTime_isSome_iff (s : Text) :
    (parseDateTime s).isSome ↔ ∃ d t, NamesDateTime s d t := by
  rw [Option.isSome_iff_exists]
  constructor
  · rintro ⟨v, hv⟩
    obtain ⟨d, t, h, -⟩ := parseDateTime_eq_some_iff.1 hv
    exact ⟨d, t, h⟩
  · rintro ⟨d, t, h⟩
    exact ⟨_, parseDateTime_eq_some_iff.2 ⟨d, t, h, rfl⟩⟩

/-- The text of a date and time round-trips just when it lies in 1970 or later, or at midnight. -/
theorem roundTrips_iff (s : Text) :
    RoundTrips s ↔ ∀ d t, NamesDateTime s d t → 1970 ≤ d.year ∨ t = ⟨0, 0, 0⟩ := by
  constructor
  · rintro ⟨-, hback⟩ d t h
    have hv := hback _ (parseDateTime_eq_some_iff.2 ⟨d, t, h, rfl⟩)
    by_contra hcond
    push Not at hcond
    apply formatDateTime_ne h.date h.clock hcond.1 hcond.2
    rw [hv, h.text]
  · intro hcond
    refine ⟨parseDateTime_isSome_iff s, ?_⟩
    intro v hv
    obtain ⟨d, t, h, rfl⟩ := parseDateTime_eq_some_iff.1 hv
    rw [formatDateTime_unixFromLocal h.date h.clock (hcond d t h), h.text]

/-- Nine in the morning of the first day of 1960 comes back as the second day with a negative hour. -/
theorem not_roundTrips_1960 :
    parseDateTime (ascii "1960-01-01 09:00:00") = some (-315615600) ∧
      formatDateTime (-315615600) = ascii "1960-01-02 -15:00:00" ∧
      ¬ RoundTrips (ascii "1960-01-01 09:00:00") := by
  have hparse : parseDateTime (ascii "1960-01-01 09:00:00") = some (-315615600) := by decide
  have hformat : formatDateTime (-315615600) = ascii "1960-01-02 -15:00:00" := by decide
  refine ⟨hparse, hformat, ?_⟩
  rintro ⟨-, hback⟩
  have h := hback _ hparse
  rw [hformat] at h
  revert h
  decide

end VoiceLife.Mcp
