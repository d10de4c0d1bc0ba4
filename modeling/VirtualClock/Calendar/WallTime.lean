import VirtualClock.Calendar.CivilDate
import VirtualClock.Fault

/-!
# Wall times

A wall time is what a calendar and a clock on the wall show together: a date of
the years 1 to 9999 and a time of day to the microsecond.  It is kept as the
count of microseconds since the first midnight of year one, and that count
never leaves the calendar.

Which instant a wall time means depends on a zone and is decided elsewhere.
-/

namespace VirtualClock

/-- A date and a time of day, as microseconds since the first midnight of year one. -/
structure WallTime where
  ticks : Int
  nonneg : 0 ≤ ticks
  bounded : ticks < 315537897600000000
  deriving DecidableEq

namespace WallTime

def ticksPerSecond : Int := 1000000

def ticksPerDay : Int := 86400000000

/-- Ticks in the calendar: every day of the years 1 to 9999. -/
def limit : Int := 315537897600000000

/-- Seconds between the first midnight of year one and that of 1970. -/
def epochSeconds : Int := 62135596800

/-- The wall time with the given count of ticks, when the calendar holds it. -/
def ofTicks? (ticks : Int) : Option WallTime :=
  if inCalendar : 0 ≤ ticks ∧ ticks < limit then some ⟨ticks, inCalendar.1, inCalendar.2⟩
  else none

/-- The first midnight of year one. -/
def first : WallTime := ⟨0, by decide, by decide⟩

instance : Inhabited WallTime := ⟨first⟩

/-- Moves a wall time by microseconds; leaving the calendar is a fault. -/
def shift (wall : WallTime) (micros : Int) : Except Fault WallTime :=
  match ofTicks? (wall.ticks + micros) with
  | some moved => .ok moved
  | none => .error .dateOutOfRange

/-! ## Parts -/

/-- Whole seconds since the first midnight of 1970, counted as if the wall time were UTC. -/
def seconds (wall : WallTime) : Int := wall.ticks / ticksPerSecond - epochSeconds

def dayNumber (wall : WallTime) : Nat := (wall.ticks / ticksPerDay).toNat

def date (wall : WallTime) : CivilDate := .ofDayNumber wall.dayNumber

/-- Microseconds since midnight. -/
def tickOfDay (wall : WallTime) : Nat := (wall.ticks % ticksPerDay).toNat

def hour (wall : WallTime) : Nat := wall.tickOfDay / 3600000000

def minute (wall : WallTime) : Nat := wall.tickOfDay / 60000000 % 60

def second (wall : WallTime) : Nat := wall.tickOfDay / 1000000 % 60

def microsecond (wall : WallTime) : Nat := wall.tickOfDay % 1000000

/-- Ticks of a date at a time of day. -/
def ticksAt (date : CivilDate) (hour minute second microsecond : Nat) : Int :=
  date.dayNumber * ticksPerDay +
    ((hour * 3600 + minute * 60 + second) * 1000000 + microsecond : Nat)

/-- The wall time with the given parts, when all of them are in range. -/
def ofParts? (date : CivilDate) (hour minute second microsecond : Nat) : Option WallTime :=
  if date.IsValid ∧ hour < 24 ∧ minute < 60 ∧ second < 60 ∧ microsecond < 1000000 then
    ofTicks? (ticksAt date hour minute second microsecond)
  else none

def midnight? (date : CivilDate) : Option WallTime := ofParts? date 0 0 0 0

def wholeSecond (wall : WallTime) : WallTime where
  ticks := wall.ticks - wall.ticks % 1000000
  nonneg := by
    have := wall.nonneg
    omega
  bounded := by
    have := wall.bounded
    omega

end WallTime

end VirtualClock
