import VirtualClock.Moment.Text

/-!
# Days

A day is a date as a value of its own, plain or as the view that a travelling
clock gives.  Kinds derived from the view keep its behaviour under their own
name.
-/

namespace VirtualClock

/-- What a day is called, and whether it is a view. -/
structure DayKind where
  isView : Bool
  name : String
  deriving DecidableEq, Repr

namespace DayKind

def plain : DayKind := ⟨false, "date"⟩

def calendarDate : DayKind := ⟨true, "CalendarDate"⟩

/-- The name with its module, which only the plain kind shows. -/
def qualifiedName (kind : DayKind) : String :=
  if kind.isView then kind.name else "datetime.date"

end DayKind

structure Day where
  kind : DayKind
  date : CivilDate
  deriving DecidableEq, Repr

namespace Day

/-- The form a program would build the day with. -/
def constructorText (day : Day) : String :=
  day.kind.qualifiedName ++ "(" ++ toString day.date.year ++ ", " ++ toString day.date.month ++
    ", " ++ toString day.date.day ++ ")"

end Day

def Moment.day (moment : Moment) (kind : DayKind) : Day := ⟨kind, moment.wall.date⟩

end VirtualClock
