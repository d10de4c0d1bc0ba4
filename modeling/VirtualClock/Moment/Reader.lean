import VirtualClock.Moment.Basic

/-!
# Reading moments

Moments are read from the forms of ISO 8601: a date by month and day or by week
and day, with hyphens or without, then any one character, then a time of day
with colons or without, then an offset when there is one.  A date alone means
its first midnight.

The reading is generous with times of day: a fraction of a second can follow any
part, further digits count as one, and before an offset one character too many is
passed over.  It is strict with digits, which are the ASCII ones, and with dates:
the forms that leave out parts of a date, and the hour twenty-four, are not read.

Places in a text are counted in units of its encoding: a character beyond ASCII
takes as many places as its encoding has bytes.
-/

namespace VirtualClock

namespace IsoForm

/-- A character as often as it has units. -/
def unitsOf (character : Char) : List Char := List.replicate character.utf8Size character

def units (text : String) : List Char := text.toList.flatMap unitsOf

/-! ## Dates -/

/-- How many characters the date takes at the start of a text.  After a week with
hyphens a further hyphen begins the day, unless digits of a time follow it; after
a week without hyphens a digit is the day when it leaves pairs of digits behind. -/
def dateLength (text : List Char) : Nat :=
  if text.length = 7 then 7
  else
    match text[4]? with
    | some '-' =>
      if text[5]? = some 'W' then
        if text[8]? = some '-' ∧ !((text[10]?.map Char.isDigit).getD false) then 10 else 8
      else 10
    | some 'W' =>
      let stop := 7 + ((text.drop 7).takeWhile Char.isDigit).length
      if stop < 9 then stop else if stop % 2 = 0 then 7 else 8
    | _ => 8

/-- The day of a week: Monday when it is left out. -/
def readWeekDay (hyphens : Bool) : List Char → Option Nat
  | [] => some 1
  | '-' :: rest => if hyphens then (Text.takeDigits 1 rest).map fun taken => taken.1 else none
  | rest => if hyphens then none else (Text.takeDigits 1 rest).map fun taken => taken.1

def readMonthDay (hyphens : Bool) (text : List Char) : Option (Nat × Nat) := do
  let (month, rest) ← Text.takeDigits 2 text
  let rest ←
    match rest with
    | '-' :: rest => if hyphens then some rest else none
    | rest => if hyphens then none else some rest
  let (day, rest) ← Text.takeDigits 2 rest
  if rest.isEmpty then some (month, day) else none

/-- A date of a year in a week of it. -/
def readWeekDate (year : Nat) (hyphens : Bool) (text : List Char) : Option CivilDate := do
  let (week, rest) ← Text.takeDigits 2 text
  let day ← readWeekDay hyphens rest
  CivilDate.ofWeek? year week day

def readDate (text : List Char) : Option CivilDate := do
  let (year, rest) ← Text.takeDigits 4 text
  match rest with
  | '-' :: 'W' :: rest => readWeekDate year true rest
  | 'W' :: rest => readWeekDate year false rest
  | '-' :: rest =>
    let (month, day) ← readMonthDay true rest
    CivilDate.ofParts? year month day
  | rest =>
    let (month, day) ← readMonthDay false rest
    CivilDate.ofParts? year month day

/-! ## Times of day -/

/-- Hours, minutes, seconds and microseconds, as they are written. -/
structure ClockParts where
  hour : Nat
  minute : Nat
  second : Nat
  microsecond : Nat
  deriving DecidableEq, Repr

/-- A time of day that was read off a text.  The reading is clean when nothing
foreign stands at the end of the text. -/
structure ClockReading where
  parts : ClockParts
  isClean : Bool
  deriving DecidableEq, Repr

/-- Nothing is left; a zero character ends a text and hides what is behind it. -/
def endsCleanly : List Char → Bool
  | [] => true
  | mark :: _ => mark == '\x00'

/-- The places of a fraction that count. -/
def fractionPlaces : Nat := 6

/-- A fraction in microseconds, and whether the text ends after it.  Digits beyond
the places that count are passed over. -/
def readFraction (text : List Char) : Option (Nat × Bool) := do
  let places := min fractionPlaces text.length
  let (value, rest) ← Text.takeDigits places text
  some (value * tenTo (fractionPlaces - places), endsCleanly (rest.dropWhile Char.isDigit))

/-- What comes after a part of a time of day. -/
inductive Continuation where
  /-- Nothing, or one last character. -/
  | finish (isClean : Bool)
  | part (rest : List Char)
  | fraction (rest : List Char)

/-- Tells what comes after a part.  Colons stand between all parts or between none;
the last character is not looked at. -/
def continuation (colons : Bool) : List Char → Option Continuation
  | [] => some (.finish true)
  | [mark] => some (.finish (mark == '\x00'))
  | mark :: rest =>
    if colons && mark == ':' then some (.part rest)
    else if mark == '.' || mark == ',' then some (.fraction rest)
    else if colons then none
    else some (.part (mark :: rest))

/-- The parts after the hour, at most `count` of them, with the fraction and whether
the text ends after it.  Where one part more would follow its digits are a fraction. -/
def readParts (colons : Bool) (count : Nat) (text : List Char) :
    Option (List Nat × Nat × Bool) := do
  match ← continuation colons text with
  | .finish isClean => some ([], 0, isClean)
  | .fraction rest =>
    let (microsecond, isClean) ← readFraction rest
    some ([], microsecond, isClean)
  | .part rest =>
    match count with
    | 0 =>
      let (microsecond, isClean) ← readFraction rest
      some ([], microsecond, isClean)
    | count + 1 =>
      let (part, rest) ← Text.takeDigits 2 rest
      let (parts, microsecond, isClean) ← readParts colons count rest
      some (part :: parts, microsecond, isClean)

/-- Hours, then minutes and seconds when there are any, then a fraction when there
is one. -/
def readClock (text : List Char) : Option ClockReading := do
  let (hour, rest) ← Text.takeDigits 2 text
  let (parts, microsecond, isClean) ← readParts (rest.head? == some ':') 2 rest
  some ⟨⟨hour, parts[0]?.getD 0, parts[1]?.getD 0, microsecond⟩, isClean⟩

/-! ## Offsets -/

def dayMicros : Nat := 86400000000

/-- The zone of an offset that is less than a day.  Less than a second is no offset
at all. -/
def zoneOfOffset (negative : Bool) (parts : ClockParts) : Option Zone :=
  let seconds := parts.hour * 3600 + parts.minute * 60 + parts.second
  let size := seconds * 1000000 + parts.microsecond
  if dayMicros ≤ size then none
  else if seconds = 0 then some .utc
  else some (Zone.ofOffset (Binary64.withSign negative size) none)

/-- The character begins the zone after a time of day. -/
def beginsZone (character : Char) : Bool :=
  character == '+' || character == '-' || character == 'Z'

/-- The zone after a time of day: a `Z` for universal time, or a signed offset with
nothing after it. -/
def readZone : List Char → Option Zone
  | [] => none
  | 'Z' :: rest => if endsCleanly rest then some .utc else none
  | sign :: rest => do
    let reading ← readClock rest
    if reading.isClean then zoneOfOffset (sign == '-') reading.parts else none

/-! ## Moments -/

/-- A date at the time of day and in the zone that a text gives.  Without a zone
the time of day must end the text. -/
def readTimeOf (date : CivilDate) (text : List Char) : Option Moment := do
  let front := text.takeWhile (!beginsZone ·)
  let reading ← readClock front
  let zone : Option Zone ←
    match text.drop front.length with
    | [] => if reading.isClean then some none else none
    | zoneText => (readZone zoneText).map some
  let parts := reading.parts
  let wall ← WallTime.ofParts? date parts.hour parts.minute parts.second parts.microsecond
  some ⟨.plain, wall, zone, false⟩

end IsoForm

namespace Moment

def ofIsoText? (text : String) : Option Moment := do
  let characters := IsoForm.units text
  let length := IsoForm.dateLength characters
  let date ← IsoForm.readDate (characters.take length)
  match characters.drop length with
  | [] =>
    let wall ← WallTime.midnight? date
    some ⟨.plain, wall, none, false⟩
  | separator :: rest => IsoForm.readTimeOf date (rest.drop (separator.utf8Size - 1))

end Moment

end VirtualClock
