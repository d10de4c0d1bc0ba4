import VirtualClock.Traveler.Ambient

/-!
# The views of the current time

The current time of a traveler in all three shapes at once, and the laws of
agreement between them as checks that a program can run.
-/

namespace VirtualClock

variable [Atlas] {Memory : Type}

/-- The current time as a timestamp, a date and a date-time, in their ISO forms. -/
structure Views where
  timestamp : String
  date : String
  dateTime : String
  deriving DecidableEq, Repr

/-- What a program finds when it compares the three shapes of one reading. -/
structure Agreement where
  sameDate : Bool
  backToTimestamp : Bool
  backToDateTime : Bool
  sameInstant : Bool
  distinctMembers : Nat
  deriving DecidableEq, Repr

namespace Traveler

def readViews (traveler : Traveler) (zone : Value) : Run Memory Views := do
  let timestamp ← traveler.currentMoment .timestamp zone
  let date ← traveler.currentDay .calendarDate zone
  let dateTime ← traveler.currentMoment .dateTime zone
  pure ⟨timestamp.isoText, date.date.isoText, dateTime.isoText⟩

/-- The count of members in a set of three moments. -/
def distinctCount (first second third : Moment) : Except Fault Nat := do
  let isSame := fun (left right : Moment) => do
    let leftKey ← left.hashKey
    let rightKey ← right.hashKey
    if leftKey = rightKey then left.equal right else pure false
  let secondIsNew := !(← isSame first second)
  let thirdIsNew := !(← isSame first third) && !(← isSame second third)
  pure (1 + secondIsNew.toNat + thirdIsNew.toNat)

/-- Compares the three shapes of the current reading with each other. -/
def checkAgreement (traveler : Traveler) (zone : Value) : Run Memory Agreement := do
  let world ← Run.world
  let timestamp ← traveler.currentMoment .timestamp zone
  let dateTime ← traveler.currentMoment .dateTime zone
  let date ← traveler.currentDay .calendarDate zone
  let asTimestamp ← Run.ofExcept (dateTime.toTimestamp world.system none)
  let asDateTime ← Run.ofExcept (timestamp.toDateTime world.system)
  let backToTimestamp ← Run.ofExcept (asTimestamp.equal timestamp)
  let backToDateTime ← Run.ofExcept (asDateTime.equal dateTime)
  let instant ← traveler.instant
  let sameInstant ← Run.ofExcept (timestamp.equal instant)
  let distinctMembers ← Run.ofExcept (distinctCount timestamp dateTime asTimestamp)
  pure ⟨date.date == dateTime.wall.date, backToTimestamp, backToDateTime, sameInstant,
    distinctMembers⟩

end Traveler

end VirtualClock
