import VirtualClock.Zone.Basic

/-!
# Reading wall times in the local zone

The local zone of the system is a yearly rule.  A wall second without a zone is
read there by a search for the UTC second that shows it: two candidate offsets
are tried, a repeated second has two answers and a skipped one none, and the
fold says which answer counts.

The dates of the rule count from 1970 on.  All seconds count from the first midnight of 1970.
-/

namespace VirtualClock.ZoneRule

/-- The offset of the local zone at a UTC second.  Until 1970 it is the one with
which that year opens. -/
def localOffset (system : ZoneRule) (second : Int) : Int :=
  (system.atUtc (max second 0)).1

/-- The wall second that the local zone shows at a UTC second; it must stay in
the years 1 to 9999. -/
def shownAt (system : ZoneRule) (second : Int) : Except Fault Int :=
  let shown := second + system.localOffset second
  if shown < -WallTime.epochSeconds then .error (.yearOutOfRange 0)
  else if 253402300800 ≤ shown then .error (.yearOutOfRange 10000)
  else .ok shown

/-- The longest step back that the search for a second reading allows for. -/
def longestFold : Int := 86400

/-- Decides between a candidate, which shows `shown`, and the UTC second that a
second offset gives.  When neither shows the wall second, it is a skipped one. -/
def settle (system : ZoneRule) (wall : Int) (fold : Bool) (candidate shown offset : Int) :
    Except Fault Int := do
  let other := wall - offset
  let otherShown ← system.shownAt other
  if otherShown = wall then pure other
  else if shown = wall then pure candidate
  else pure (if fold then min candidate other else max candidate other)

/-- The UTC second at which the local zone shows a wall second.  In a repeated
second the fold picks the later reading, in a skipped one the earlier instant. -/
def utcSecondOf (system : ZoneRule) (wall : Int) (fold : Bool) : Except Fault Int := do
  let offset := (← system.shownAt wall) - wall
  let candidate := wall - offset
  let shown ← system.shownAt candidate
  if shown = wall then
    let probe := if fold then candidate + longestFold else candidate - longestFold
    let probeOffset := (← system.shownAt probe) - probe
    if probeOffset = offset then pure candidate
    else system.settle wall fold candidate shown probeOffset
  else system.settle wall fold candidate shown (shown - candidate)

/-- The local offset, in microseconds, that a wall second is read with. -/
def offsetOfWall (system : ZoneRule) (wall : Int) (fold : Bool) : Except Fault Int := do
  let second ← system.utcSecondOf wall fold
  pure (system.localOffset second * 1000000)

/-- The local zone at a UTC second: its offset then under its label then. -/
def zoneAt (system : ZoneRule) (second : Int) : Zone :=
  .fixed (system.localOffset second * 1000000) (some (system.labelAtUtc (max second 0)))

end VirtualClock.ZoneRule
