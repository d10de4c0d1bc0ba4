import VirtualClock.Moment.Basic

/-!
# Texts of moments

The ISO 8601 texts of dates and moments, with the fraction of a second only
where there is one and the offset where the zone gives one; the form a program
would build a moment with; and the form for databases, which names no zone.
-/

namespace VirtualClock

namespace CivilDate

/-- Year, month and day with hyphens; the year always has four digits. -/
def isoText (date : CivilDate) : String :=
  String.ofList (Text.fixedDigits 4 date.year ++ '-' :: Text.fixedDigits 2 date.month ++
    '-' :: Text.fixedDigits 2 date.day)

end CivilDate

namespace WallTime

def clockDigits (wall : WallTime) : List Char :=
  Text.fixedDigits 2 wall.hour ++ ':' :: Text.fixedDigits 2 wall.minute ++
    ':' :: Text.fixedDigits 2 wall.second

/-- Date and time around a separator, with the fraction of a second where there is one. -/
def isoText (separator : Char) (wall : WallTime) : String :=
  wall.date.isoText ++ separator.toString ++ String.ofList wall.clockDigits ++
    if wall.microsecond = 0 then ""
    else "." ++ String.ofList (Text.fixedDigits 6 wall.microsecond)

/-- Date and time to the second, the year without padding. -/
def databaseText (wall : WallTime) : String :=
  let date := wall.date
  toString date.year ++ String.ofList ('-' :: Text.fixedDigits 2 date.month ++
    '-' :: Text.fixedDigits 2 date.day ++ ' ' :: wall.clockDigits)

end WallTime

namespace Moment

def textWith (separator : Char) (moment : Moment) : String :=
  moment.wall.isoText separator ++
    match moment.offset? with
    | none => ""
    | some offset => offsetText offset

def isoText (moment : Moment) : String := moment.textWith 'T'

/-- The form a program would build the moment with. -/
def constructorText (moment : Moment) : String :=
  let wall := moment.wall
  let date := wall.date
  let parts := [date.year, date.month, date.day, wall.hour, wall.minute] ++
    (if wall.second = 0 ∧ wall.microsecond = 0 then [] else [wall.second]) ++
    if wall.microsecond = 0 then [] else [wall.microsecond]
  moment.kind.qualifiedName ++ "(" ++ String.intercalate ", " (parts.map toString) ++
    (if moment.fold then ", fold=1" else "") ++
    (match moment.zone with
      | none => ""
      | some zone => ", tzinfo=" ++ zone.constructorText) ++ ")"

/-- The text for a database: the UTC wall time to the second. -/
def databaseText (system : ZoneRule) (moment : Moment) : Except Fault String := do
  let utc ← moment.inUtc system
  pure utc.wall.databaseText

end Moment

end VirtualClock
