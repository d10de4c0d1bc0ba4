import VirtualClock.Calendar.WallTime
import VirtualClock.Text.Digits

/-!
# Yearly zone rules

A rule gives the offset of a zone in every year: a standard offset and, in
some zones, a daylight offset between two dates of the year.  The dates are
weekdays of a month, counted from its start or taken as its last, at a wall
time that may lie outside the day.

Offsets and seconds count east of and since the first midnight of 1970.  The
text form of a rule counts offsets to the west.
-/

namespace VirtualClock

/-- A weekday of a month at a wall time: the `week`-th such weekday, or the
last one for week five.  Sunday is weekday zero. -/
structure RuleDate where
  month : Nat
  week : Nat
  weekday : Nat
  time : Int
  deriving DecidableEq, Repr

/-- The part of the year with another offset. -/
structure DaylightRule where
  label : String
  offset : Int
  start : RuleDate
  finish : RuleDate
  deriving DecidableEq, Repr

structure ZoneRule where
  label : String
  offset : Int
  daylight : Option DaylightRule
  deriving DecidableEq, Repr

/-- The year in which a second since 1970 falls, read as wall time.  Seconds
before year one count to year one. -/
def yearOfSecond (second : Int) : Nat :=
  (CivilDate.yearOfDay ((second + WallTime.epochSeconds) / 86400).toNat).1

namespace RuleDate

/-- The day of the month, counted from zero, on which the date falls. -/
def dayIndex (date : RuleDate) (year : Nat) : Nat :=
  let opening := (CivilDate.dayNumber ⟨year, date.month, 1⟩ + 1) % 7
  let earliest := (date.weekday + 7 - opening) % 7
  let index := earliest + (date.week - 1) * 7
  if index < CivilDate.daysInMonth year date.month then index else index - 7

/-- The wall second of the date in a year. -/
def secondIn (date : RuleDate) (year : Nat) : Int :=
  ((CivilDate.dayNumber ⟨year, date.month, 1⟩ + date.dayIndex year : Nat) : Int) * 86400 -
    WallTime.epochSeconds + date.time

end RuleDate

/-- A second lies between two dates of a year; when the first is the later
one, the time between them spans the turn of the year. -/
def isBetween (start finish second : Int) : Bool :=
  if start < finish then start ≤ second && second < finish
  else second < finish || start ≤ second

namespace ZoneRule

def utc : ZoneRule := ⟨"UTC", 0, none⟩

/-! ## The offset at a UTC second -/

/-- Daylight time is in force at a UTC second. -/
def isDaylight (rule : ZoneRule) (daylight : DaylightRule) (second : Int) : Bool :=
  let year := yearOfSecond second
  isBetween (daylight.start.secondIn year - rule.offset)
    (daylight.finish.secondIn year - daylight.offset) second

/-- The wall time of a UTC second occurs for the second time: it lies within
the step back of the later of the two changes of its year. -/
def isRepeated (rule : ZoneRule) (daylight : DaylightRule) (second : Int) : Bool :=
  let year := yearOfSecond second
  let gain := daylight.offset - rule.offset
  let start := daylight.start.secondIn year - rule.offset
  let finish := daylight.finish.secondIn year - daylight.offset
  if 0 < gain then finish ≤ second && second < finish + gain
  else start ≤ second && second < start - gain

/-- The offset in force at a UTC second, and whether its wall time is a repeated one. -/
def atUtc (rule : ZoneRule) (second : Int) : Int × Bool :=
  match rule.daylight with
  | none => (rule.offset, false)
  | some daylight =>
    (if rule.isDaylight daylight second then daylight.offset else rule.offset,
      rule.isRepeated daylight second)

/-- The label of the offset in force at a UTC second. -/
def labelAtUtc (rule : ZoneRule) (second : Int) : String :=
  match rule.daylight with
  | none => rule.label
  | some daylight => if rule.isDaylight daylight second then daylight.label else rule.label

/-! ## The offset at a wall second -/

/-- The offset of a wall second.  Of the two readings of a repeated or skipped
second, `fold` picks the later. -/
def atWall (rule : ZoneRule) (second : Int) (fold : Bool) : Int :=
  match rule.daylight with
  | none => rule.offset
  | some daylight =>
    let year := yearOfSecond second
    let gain := daylight.offset - rule.offset
    let start := daylight.start.secondIn year
    let finish := daylight.finish.secondIn year
    let movesFinish := fold == decide (0 ≤ gain)
    let inDaylight :=
      if movesFinish then isBetween start (finish - gain) second
      else isBetween (start + gain) finish second
    if inDaylight then daylight.offset else rule.offset

/-! ## The text form -/

/-- A label: letters, or any text between angle brackets. -/
def takeLabel : List Char → Option (String × List Char)
  | '<' :: rest =>
    match rest.dropWhile (· != '>') with
    | [] => none
    | _ :: after => some (String.ofList (rest.takeWhile (· != '>')), after)
  | text =>
    let letters := text.takeWhile Char.isAlpha
    if letters.isEmpty then none else some (String.ofList letters, text.drop letters.length)

/-- Digits off the front of a text, as a number. -/
def takeNumber (text : List Char) : Option (Nat × List Char) :=
  let digits := text.takeWhile Char.isDigit
  if digits.isEmpty then none
  else some (Text.digitsValue digits, text.drop digits.length)

/-- A colon and a number, when they are there. -/
def takeColonNumber : List Char → Nat × List Char
  | ':' :: rest => (takeNumber rest).getD (0, ':' :: rest)
  | text => (0, text)

/-- Hours, and minutes and seconds when given, with an optional sign. -/
def takeTime (text : List Char) : Option (Int × List Char) := do
  let (negative, text) :=
    match text with
    | '-' :: rest => (true, rest)
    | '+' :: rest => (false, rest)
    | rest => (false, rest)
  let (hours, text) ← takeNumber text
  let (minutes, text) := takeColonNumber text
  let (seconds, text) := takeColonNumber text
  let total : Int := ((hours * 3600 + minutes * 60 + seconds : Nat) : Int)
  some (if negative then -total else total, text)

/-- A date of the form `,Mm.w.d` with an optional time, which is two in the
morning when left out. -/
def takeDate (text : List Char) : Option (RuleDate × List Char) :=
  match text with
  | ',' :: 'M' :: text => do
    let (month, text) ← takeNumber text
    match text with
    | '.' :: text =>
      let (week, text) ← takeNumber text
      match text with
      | '.' :: text =>
        let (weekday, text) ← takeNumber text
        match text with
        | '/' :: text =>
          let (time, text) ← takeTime text
          some (⟨month, week, weekday, time⟩, text)
        | text => some (⟨month, week, weekday, 7200⟩, text)
      | _ => none
    | _ => none
  | _ => none

/-- The daylight part of a rule after its standard offset. -/
def takeDaylight (offset : Int) (text : List Char) : Option DaylightRule := do
  let (label, text) ← takeLabel text
  let (daylightOffset, text) :=
    match takeTime text with
    | some (west, rest) => (-west, rest)
    | none => (offset + 3600, text)
  let (start, text) ← takeDate text
  let (finish, text) ← takeDate text
  if text.isEmpty then some ⟨label, daylightOffset, start, finish⟩ else none

/-- The rule that a text such as `CET-1CEST,M3.5.0,M10.5.0/3` writes. -/
def ofText? (text : String) : Option ZoneRule := do
  let (label, rest) ← takeLabel text.toList
  let (west, rest) ← takeTime rest
  if rest.isEmpty then some ⟨label, -west, none⟩
  else
    let daylight ← takeDaylight (-west) rest
    some ⟨label, -west, some daylight⟩

end ZoneRule

end VirtualClock
