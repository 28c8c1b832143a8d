import VoiceLife.Schedule.Commands

/-! # `schedule_query_score.h` and the text helpers of the service

Texts are valid UTF-8 here. The source works on bytes: its character classes only contain ASCII, and
a byte search for valid UTF-8 text finds what a character search finds.
-/

namespace VoiceLife

/-- `std::isspace` in the C locale. -/
def isSpace (character : Char) : Bool :=
  character == ' ' || character == '\t' || character == '\n' || character == '\x0b' ||
    character == '\x0c' || character == '\r'

/-- `NormalizeKeywordTextForScore`: ASCII letters in lower case. -/
def normalizeKeywordText (value : String) : List Char :=
  value.toList.map Char.toLower

/-- `ScoreScheduleKeyword`: 100 for the whole title, 80 for a prefix, 60 for a part. -/
def scoreScheduleKeyword (event keyword : String) : ℤ :=
  let normalizedEvent := normalizeKeywordText event
  let normalizedKeyword := normalizeKeywordText keyword
  if normalizedKeyword.isEmpty then 0
  else if normalizedEvent = normalizedKeyword then 100
  else if normalizedKeyword <+: normalizedEvent then 80
  else if normalizedKeyword <:+: normalizedEvent then 60
  else 0

/-- `TrimScheduleText`. -/
def trimScheduleText (value : String) : String :=
  String.ofList ((value.toList.dropWhile isSpace).reverse.dropWhile isSpace).reverse

/-- `ScheduleTextLength`: bytes that do not continue a character. -/
def scheduleTextLength (value : String) : ℕ :=
  value.toList.length

/-- The words that `operator>>` reads from a text. -/
def tokens (text : List Char) : List (List Char) :=
  (text.splitBy fun left right => isSpace left == isSpace right).filter fun word =>
    !word.any isSpace

end VoiceLife
