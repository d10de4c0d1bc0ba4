import VirtualClock.Zone.Local

/-!
# Moments

A moment is a wall time with the zone it is read in, if it has one, and the
fold that tells the two readings of a repeated wall time apart.  Plain moments
and the two kinds of views, timestamps and date-times, share this form; kinds
derived from a view keep its behaviour under a name of their own.

The module holds the offsets of moments and their conversion between zones.
Comparison and the texts of moments follow in their own modules.
-/

namespace VirtualClock

inductive MomentFamily where
  | plain
  | timestamp
  | dateTime
  deriving DecidableEq, Repr

/-- What a moment is called and how it behaves. -/
structure MomentKind where
  family : MomentFamily
  name : String
  deriving DecidableEq, Repr

namespace MomentKind

def plain : MomentKind := ⟨.plain, "datetime"⟩

/-- Absolute points in time that keep the zone they were read in. -/
def timestamp : MomentKind := ⟨.timestamp, "Timestamp"⟩

/-- Dates and times that keep only the offset in force. -/
def dateTime : MomentKind := ⟨.dateTime, "DateTime"⟩

/-- The kind is one of the views or derived from one. -/
def isView (kind : MomentKind) : Bool := kind.family != .plain

/-- The name with its module, which only the plain kind shows. -/
def qualifiedName (kind : MomentKind) : String :=
  match kind.family with
  | .plain => "datetime.datetime"
  | _ => kind.name

end MomentKind

structure Moment where
  kind : MomentKind
  wall : WallTime
  zone : Option Zone
  fold : Bool
  deriving DecidableEq

namespace Zone

/-- The offset a wall time is read with; a floating zone has none. -/
def offsetAt (zone : Zone) (wall : WallTime) (fold : Bool) : Option Int :=
  match zone with
  | .utc => some 0
  | .fixed offset _ => some offset
  | .region place => some (place.atWall wall.seconds fold * 1000000)
  | .floating => none

/-- The wall time, and its fold, at which a zone shows a UTC wall time. -/
def showUtc (zone : Zone) (utc : WallTime) : Except Fault (WallTime × Bool) :=
  match zone with
  | .utc => .ok (utc, false)
  | .fixed offset _ => (utc.shift offset).map fun wall => (wall, false)
  | .region place =>
    let (offset, fold) := place.atUtc utc.seconds
    (utc.shift (offset * 1000000)).map fun wall => (wall, fold)
  | .floating => .error .zoneWithoutOffset

end Zone

namespace Moment

/-- A plain moment in universal time. -/
def atUtc (wall : WallTime) : Moment := ⟨.plain, wall, some .utc, false⟩

/-- The offset of a moment, when it has a zone that gives one. -/
def offset? (moment : Moment) : Option Int :=
  moment.zone.bind fun zone => zone.offsetAt moment.wall moment.fold

def isAware (moment : Moment) : Bool := moment.offset?.isSome

/-- The UTC wall time of a moment.  Without an offset it is read in the local zone. -/
def utcWall (system : ZoneRule) (moment : Moment) : Except Fault WallTime := do
  match moment.offset? with
  | some offset => moment.wall.shift (-offset)
  | none =>
    let offset ← system.offsetOfWall moment.wall.seconds moment.fold
    moment.wall.shift (-offset)

/-- The moment in another zone.  In its own zone it stays as it is, fold included. -/
def inZone (system : ZoneRule) (moment : Moment) (zone : Zone) : Except Fault Moment :=
  if zone.isShared ∧ moment.zone = some zone then .ok moment
  else do
    let utc ← moment.utcWall system
    let (wall, fold) ← zone.showUtc utc
    pure ⟨moment.kind, wall, some zone, fold⟩

/-- The moment in the local zone, which becomes a fixed offset under its label. -/
def inLocalZone (system : ZoneRule) (moment : Moment) : Except Fault Moment := do
  let utc ← moment.utcWall system
  let zone := system.zoneAt utc.seconds
  let (wall, fold) ← zone.showUtc utc
  pure ⟨moment.kind, wall, some zone, fold⟩

/-- The moment in a zone, or in the local zone when none is given. -/
def inOptionalZone (system : ZoneRule) (moment : Moment) : Option Zone → Except Fault Moment
  | some zone => moment.inZone system zone
  | none => moment.inLocalZone system

def inUtc (system : ZoneRule) (moment : Moment) : Except Fault Moment :=
  moment.inZone system .utc

/-- The same wall time with only the offset in force as its zone. -/
def withFixedOffset (moment : Moment) : Moment :=
  match moment.offset? with
  | some offset => { moment with zone := some (Zone.ofOffset offset none) }
  | none => moment

def withKind (moment : Moment) (kind : MomentKind) : Moment := { moment with kind }

def wholeSecond (moment : Moment) : Moment := { moment with wall := moment.wall.wholeSecond }

/-- Moves the wall time of a moment, in whatever zone it has; the fold is lost. -/
def shift (moment : Moment) (span : Duration) : Except Fault Moment :=
  (moment.wall.shift span.micros).map fun wall => { moment with wall, fold := false }

end Moment

end VirtualClock
