import VirtualClock.World

/-!
# Clocks

The sources of real time: the clock of the machine, which tells universal time,
and clocks whose reading is set and moved by hand.  A settable clock keeps its
reading in the zone it was given and moves its wall time there.
-/

namespace VirtualClock

/-- What a traveler may be handed as its clock. -/
inductive ClockSource where
  | settable
  | machine
  /-- Something that cannot be asked for the time. -/
  | other
  deriving DecidableEq, Repr

namespace ClockSource

def tellsTime : ClockSource → Bool
  | .settable | .machine => true
  | .other => false

/-- The zone that a source always reads in, when there is one. -/
def zone? : ClockSource → Option Zone
  | .machine => some .utc
  | .settable | .other => none

end ClockSource

namespace Clock

variable {Memory : Type}

/-- Sets a clock to a moment with a zone. -/
def set (clock : ClockKey) (reading : Value) : Run Memory Unit :=
  match reading with
  | .moment moment =>
    if moment.zone.isNone then Run.fail .clockNeedsZone
    else Run.modifyWorld fun world => world.setReading clock moment
  | value => Run.fail (value.lacks "tzinfo")

/-- Moves a clock by a duration or by a number of seconds. -/
def advance (clock : ClockKey) (amount : Value) : Run Memory Unit := do
  let span ← Run.ofExcept amount.toSpan
  let world ← Run.world
  let moved ← Run.ofExcept ((world.reading clock).shift span)
  Run.modifyWorld fun world => world.setReading clock moved

end Clock

end VirtualClock
