import Mathlib.Order.Bounds.Defs
import VirtualClock.Proofs.Projection
import VirtualClock.Proofs.TravelerOperations

/-!
# The instant that an override pins

An override pins the instant that was given, or the one that its departure led
to.  Departures count from the real time and never from the overrides that are
open, and only an offset keeps the fraction of a second.
-/

namespace VirtualClock

open Session (Departure)

variable {Memory : Type}

/-- The whole seconds not after an instant, in ticks. -/
def wholeSecondsUpTo (ticks : Int) : Set Int :=
  {second | 1000000 ∣ second ∧ second ≤ ticks}

theorem WallTime.wholeSecond_isGreatest (wall : WallTime) :
    IsGreatest (wholeSecondsUpTo wall.ticks) wall.wholeSecond.ticks := by
  have ticks : wall.wholeSecond.ticks = wall.ticks - wall.ticks % 1000000 := rfl
  rw [ticks]
  refine ⟨⟨?_, ?_⟩, fun second member => ?_⟩
  · omega
  · omega
  · obtain ⟨⟨whole, rfl⟩, notAfter⟩ := member
    omega

namespace Moment

variable {system : ZoneRule} {moment shown : Moment}

theorem exists_instant_of_isAware (aware : moment.isAware) :
    ∃ instant, moment.instant? = some instant := by
  obtain ⟨offset, known⟩ := Option.isSome_iff_exists.mp aware
  exact ⟨_, instant?_eq_some_iff.mpr ⟨offset, known, rfl⟩⟩

end Moment

/-- What an override was installed for. -/
inductive Cause where
  /-- An anchor that was given. -/
  | given (anchor : Moment)
  | departure (departure : Departure)

/-- The anchor is in universal time at the instant that the cause settles for a traveler in the
world of the call. -/
def Cause.Fixes (cause : Cause) (traveler : Traveler) (call : World Memory) (anchor : Moment) :
    Prop :=
  anchor.zone = some .utc ∧
    match cause with
    | .given moment => moment.instant? = some anchor.wall.ticks
    | .departure (.by offset) =>
      ∃ now span, (traveler.realNow call).1 = .ok now ∧ offset.toOffset = .ok span ∧
        anchor.wall.ticks = now.wall.ticks + span.micros
    | .departure (.to target) =>
      ∃ moment utc, traveler.placedTarget call.system target = .ok moment ∧
        moment.utcWall call.system = .ok utc ∧
          IsGreatest (wholeSecondsUpTo utc.ticks) anchor.wall.ticks
    | .departure .stop =>
      ∃ now, (traveler.realNow call).1 = .ok now ∧
        IsGreatest (wholeSecondsUpTo now.wall.ticks) anchor.wall.ticks

namespace Cause

variable {traveler : Traveler} {world : World Memory}

theorem given_fixes {anchor pinned : Moment} (aware : anchor.isAware)
    (converted : anchor.inUtc world.system = .ok pinned) :
    (Cause.given anchor).Fixes traveler world pinned := by
  obtain ⟨instant, denotes⟩ := Moment.exists_instant_of_isAware aware
  refine ⟨Moment.zone_of_inUtc converted, ?_⟩
  show anchor.instant? = some pinned.wall.ticks
  rw [Moment.ticks_of_inUtc denotes converted, denotes]

theorem departure_fixes {departure : Departure} {anchor : Moment}
    (led : (traveler.destination departure world).1 = .ok anchor) :
    (Cause.departure departure).Fixes traveler world anchor := by
  refine ⟨Traveler.zone_of_destination led, ?_⟩
  cases departure with
  | «by» offset =>
      rw [Traveler.destination, Traveler.anchorAfter_apply] at led
      obtain ⟨span, spanned, led⟩ := Outcome.bind_eq_ok_iff.mp led
      obtain ⟨now, read, shifted⟩ := Outcome.bind_eq_ok_iff.mp led
      obtain ⟨wall, moved, rfl⟩ := Outcome.map_eq_ok_iff.mp shifted
      exact ⟨now, span, read, spanned, (WallTime.shift_eq_ok_iff _ _ _).mp moved⟩
  | «to» target =>
      rw [Traveler.destination, Traveler.anchorAt_apply] at led
      obtain ⟨instant, found, rfl⟩ := Outcome.map_eq_ok_iff.mp led
      rw [Traveler.targetInstant_eq] at found
      obtain ⟨moment, placed, converted⟩ := Outcome.bind_eq_ok_iff.mp found
      exact ⟨moment, instant.wall, placed, (Moment.inUtc_eq_ok converted).2,
        instant.wall.wholeSecond_isGreatest⟩
  | stop =>
      rw [Traveler.destination_stop_apply] at led
      obtain ⟨now, read, rfl⟩ := Outcome.map_eq_ok_iff.mp led
      exact ⟨now, read, now.wall.wholeSecond_isGreatest⟩

end Cause

end VirtualClock
