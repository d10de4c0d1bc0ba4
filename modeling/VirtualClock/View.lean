import VirtualClock.Value

/-!
# Views of an instant

The three shapes in which a travelling clock shows the current time: a
timestamp keeps the zone it was read in, a date-time keeps only the offset in
force, a calendar date keeps the date.  Kinds derived from them are shown in
the same way, and any other kind that can be built from an instant takes part.

The conversions between the shapes are given here as well; each is computed
anew and none is kept.
-/

namespace VirtualClock

inductive ReadingKind where
  | moment (kind : MomentKind)
  | day (kind : DayKind)
  /-- Records the instant and the zone it is given. -/
  | probe
  /-- Cannot be built from an instant. -/
  | unsupported (qualifiedName : String)
  deriving DecidableEq, Repr

/-- The current time in the shape that was asked for. -/
inductive Reading where
  | moment (content : Moment)
  | day (content : Day)
  | probe (instant : Moment) (zone : Option Zone)
  deriving DecidableEq

/-! ## Projection -/

/-- An instant as a moment of the kind, in a zone or in the local one.  Date-times
keep of the zone only the offset in force. -/
def MomentKind.ofInstant (system : ZoneRule) (kind : MomentKind) (instant : Moment)
    (zone : Option Zone) : Except Fault Moment :=
  (instant.inOptionalZone system zone).map fun shown =>
    match kind.family with
    | .dateTime => shown.withFixedOffset.withKind kind
    | _ => shown.withKind kind

/-- The date of an instant in a zone or in the local one. -/
def DayKind.ofInstant (system : ZoneRule) (kind : DayKind) (instant : Moment)
    (zone : Option Zone) : Except Fault Day :=
  (instant.inOptionalZone system zone).map fun shown => shown.day kind

namespace ReadingKind

def isSupported : ReadingKind → Bool
  | .unsupported _ => false
  | _ => true

/-- An instant in the shape of a kind, shown in a zone or in the local one. -/
def ofInstant (system : ZoneRule) (kind : ReadingKind) (instant : Moment) (zone : Option Zone) :
    Except Fault Reading :=
  match kind with
  | .moment kind => (kind.ofInstant system instant zone).map .moment
  | .day kind => (kind.ofInstant system instant zone).map .day
  | .probe => .ok (.probe instant zone)
  | .unsupported name => .error (.missingClassAttribute name "from_instant")

end ReadingKind

/-! ## Conversions -/

namespace Moment

def toDate (moment : Moment) : Day := moment.day .calendarDate

/-- A timestamp as the date-time of the same instant. -/
def toDateTime (system : ZoneRule) (moment : Moment) : Except Fault Moment := do
  let aware ← if moment.isAware then pure moment else moment.inLocalZone system
  pure (aware.withFixedOffset.withKind .dateTime)

/-- A date-time as the timestamp of the same instant.  Without a zone argument
it stays in its own zone, or is read in the local zone when it has none. -/
def toTimestamp (system : ZoneRule) (moment : Moment) (zone : Option Zone) :
    Except Fault Moment :=
  match zone with
  | some zone => MomentKind.timestamp.ofInstant system moment (some zone)
  | none =>
    if moment.zone.isSome then .ok (moment.withKind .timestamp)
    else MomentKind.timestamp.ofInstant system moment none

end Moment

/-- The day itself is the calendar date of a day. -/
def Day.toDate (day : Day) : Day := day

end VirtualClock
