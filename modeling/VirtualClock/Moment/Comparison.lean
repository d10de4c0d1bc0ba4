import VirtualClock.Moment.Basic

/-!
# Comparing moments

Plain moments of one zone compare by their wall times, others by the instants
they denote; where a wall time is repeated or skipped, plain moments of
different zones are never equal.  Views compare and hash by their instants
wherever both sides have one.

Order is never redefined by the views: it follows the rule of plain moments.
-/

namespace VirtualClock

/-- What equal values share and unequal ones do not: the wall time of a moment
without an offset, the instant of a moment with one. -/
inductive HashKey where
  | wall (ticks : Int)
  | instant (ticks : Int)
  | date (date : CivilDate)
  | number (value : Int)
  | fraction (value : Binary64)
  | text (text : String)
  | duration (micros : Int)
  | zone (name : String)
  | nothing
  deriving DecidableEq, Repr

namespace Moment

/-- Both moments mention one and the same zone, or both have none. -/
def sharesZone (left right : Moment) : Bool :=
  match left.zone, right.zone with
  | none, none => true
  | some leftZone, some rightZone => leftZone.isShared && leftZone == rightZone
  | _, _ => false

/-- The offset depends on the fold: the wall time is a repeated or a skipped one. -/
def isAmbiguous (moment : Moment) : Bool :=
  ({ moment with fold := !moment.fold } : Moment).offset? != moment.offset?

def plainEqual (left right : Moment) : Bool :=
  if left.sharesZone right then left.wall.ticks == right.wall.ticks
  else
    match left.offset?, right.offset? with
    | none, none => left.wall.ticks == right.wall.ticks
    | some leftOffset, some rightOffset =>
      left.wall.ticks - leftOffset == right.wall.ticks - rightOffset &&
        !left.isAmbiguous && !right.isAmbiguous
    | _, _ => false

/-- Equality of moments; with a view on either side it asks for the same
instant, and fails where an instant lies outside the calendar. -/
def equal (left right : Moment) : Except Fault Bool :=
  if left.kind.isView || right.kind.isView then
    match left.offset?, right.offset? with
    | some leftOffset, some rightOffset => do
      let leftUtc ← left.wall.shift (-leftOffset)
      let rightUtc ← right.wall.shift (-rightOffset)
      pure (leftUtc.ticks == rightUtc.ticks)
    | _, _ => pure (left.plainEqual right)
  else pure (left.plainEqual right)

/-- Order of moments: by wall time in one zone or at one offset, by instant otherwise. -/
def less (left right : Moment) : Except Fault Bool :=
  if left.sharesZone right then pure (left.wall.ticks < right.wall.ticks)
  else
    match left.offset?, right.offset? with
    | none, none => pure (left.wall.ticks < right.wall.ticks)
    | some leftOffset, some rightOffset =>
      pure (left.wall.ticks - leftOffset < right.wall.ticks - rightOffset)
    | _, _ => .error .mixedAwareness

/-- The key of a plain moment, which looks up its offset without the fold. -/
def plainHashKey (moment : Moment) : HashKey :=
  match ({ moment with fold := false } : Moment).offset? with
  | none => .wall moment.wall.ticks
  | some offset => .instant (moment.wall.ticks - offset)

/-- The key of a moment; views look up their offset with their own fold. -/
def hashKey (moment : Moment) : Except Fault HashKey :=
  if moment.kind.isView then
    match moment.offset? with
    | some offset => do
      let utc ← moment.wall.shift (-offset)
      pure (.instant utc.ticks)
    | none => pure moment.plainHashKey
  else pure moment.plainHashKey

end Moment

end VirtualClock
