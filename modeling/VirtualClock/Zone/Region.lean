import VirtualClock.Zone.Rule

/-!
# Regions

A region is a named zone with a history: the offset before its first recorded
change, the changes in order, and a yearly rule that takes over after the last
one.  A region answers two questions that are kept apart: which offset is in
force at a UTC second, and which offset a wall second is read with.

The two answers agree for regions with an orderly history, but nothing in the type
asks for it.
-/

namespace VirtualClock

/-- Offsets to the east and to the west of universal time, in seconds. -/
def east (seconds : Nat) : Int := seconds

def west (seconds : Nat) : Int := -seconds

/-- A change on record: the UTC second, counted from the first midnight of year one,
and the offset from then on. -/
structure RecordedChange where
  second : Nat
  offset : Int
  deriving DecidableEq, Repr

/-- A named zone: its offset before all changes, the changes in order, and the rule
after the last change. -/
structure Region where
  name : String
  initialOffset : Int
  changes : List RecordedChange
  rule : ZoneRule
  deriving DecidableEq, Repr

/-- A change of offset at a UTC second, counted from the first midnight of 1970. -/
structure OffsetChange where
  second : Int
  before : Int
  after : Int
  deriving DecidableEq, Repr

namespace OffsetChange

/-- The wall second at which a reading passes the change: after a step back
the first reading passes late and the second one early. -/
def wallSecond (fold : Bool) (change : OffsetChange) : Int :=
  change.second + if fold then min change.before change.after else max change.before change.after

/-- Pairs each change with the offset before it. -/
def listFrom (before : Int) : List RecordedChange → List OffsetChange
  | [] => []
  | change :: rest =>
    ⟨change.second - WallTime.epochSeconds, before, change.offset⟩ ::
      listFrom change.offset rest

/-- The last change of an ordered list that is passed by a second. -/
def lastPassed (position : OffsetChange → Int) (second : Int) (changes : List OffsetChange) :
    Option OffsetChange :=
  (changes.takeWhile fun change => position change ≤ second).getLast?

end OffsetChange

namespace Region

def changeList (region : Region) : List OffsetChange :=
  OffsetChange.listFrom region.initialOffset region.changes

/-- The offset in force at a UTC second, and whether its wall time is a repeated one. -/
def atUtc (region : Region) (second : Int) : Int × Bool :=
  match region.changeList.getLast? with
  | none => region.rule.atUtc second
  | some final =>
    if final.second < second ∧ region.rule.daylight.isSome then region.rule.atUtc second
    else
      match OffsetChange.lastPassed OffsetChange.second second region.changeList with
      | none => (region.initialOffset, false)
      | some change =>
        (if final.second < second then region.rule.offset else change.after,
          decide (second - change.second < change.before - change.after))

/-- The offset that a wall second is read with.  Of the two readings of a
repeated or skipped second, `fold` picks the later. -/
def atWall (region : Region) (second : Int) (fold : Bool) : Int :=
  match region.changeList.getLast? with
  | none => region.rule.atWall second fold
  | some final =>
    if final.wallSecond fold < second then region.rule.atWall second fold
    else
      match OffsetChange.lastPassed (OffsetChange.wallSecond fold) second region.changeList with
      | none => region.initialOffset
      | some change => change.after

end Region

end VirtualClock
