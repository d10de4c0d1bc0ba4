import VirtualClock.Proofs.Conversions
import VirtualClock.Proofs.TravelTargets

/-!
# Travelling to what was read

A reading is the instant of a traveler, shown in a zone and put into the shape of a kind, and
it may be converted to the other kind after that.  Each of these steps keeps the instant, so
a travel to the reading finds it again and pins its whole second, in whatever zone the
traveler shows the time.
-/

namespace VirtualClock

open Session (Departure depart)

variable {Memory Result : Type} {system : ZoneRule} {utc : WallTime}

/-! ## Regions that were handed over -/

namespace Traveler

/-- The regions among the zone of the traveler and the zones that are asked for read back every
instant.  A zone that is asked for by its name is not among them. -/
def RegionsReadBack (traveler : Traveler) (zone asked : Value) : Prop :=
  ∀ place : Region,
    traveler.zone = some (.region place) ∨ zone = .zone (.region place) ∨
      asked = .zone (.region place) →
    ∀ utc, (Zone.region place).ReadsBack utc

end Traveler

/-- A region that a value stands for was handed over, or its name was found in the atlas. -/
theorem Value.readsBack_of_toZone [Atlas] (orderly : Atlas.IsOrderly) {value : Value} {place : Region}
    (found : value.toZone = .ok (some (.region place)))
    (given : value = .zone (.region place) → ∀ utc, (Zone.region place).ReadsBack utc)
    (utc : WallTime) : (Zone.region place).ReadsBack utc := by
  cases value with
  | text name =>
      obtain ⟨region, named, same⟩ := Outcome.map_eq_ok_iff.mp found
      cases same
      exact Zone.readsBack_of_isOrderly (Atlas.isOrderly_of_find orderly named) utc
  | zone content =>
      cases found
      exact given rfl utc
  | _ => cases found

namespace Traveler

variable {traveler : Traveler} {zone asked : Value} {place : Region}

theorem displayZone_cases [Atlas] (shown : traveler.displayZone zone = .ok (some (.region place))) :
    traveler.zone = some (.region place) ∨ zone.toZone = .ok (some (.region place)) := by
  obtain ⟨chosen, found, same⟩ := Outcome.map_eq_ok_iff.mp shown
  cases chosen with
  | none => exact .inl same
  | some other =>
      cases same
      exact .inr found

theorem RegionsReadBack.displayZone [Atlas] (orderly : Atlas.IsOrderly)
    (genuine : traveler.RegionsReadBack zone asked)
    (shown : traveler.displayZone zone = .ok (some (.region place))) (utc : WallTime) :
    (Zone.region place).ReadsBack utc := by
  rcases displayZone_cases shown with own | found
  · exact genuine place (.inl own) utc
  · exact Value.readsBack_of_toZone orderly found (fun same => genuine place (.inr (.inl same))) utc

theorem RegionsReadBack.toZone [Atlas] (orderly : Atlas.IsOrderly)
    (genuine : traveler.RegionsReadBack zone asked) {chosen : Zone}
    (found : asked.toZone = .ok (some chosen)) (utc : WallTime) : chosen.ReadsBack utc := by
  apply Zone.readsBack_of_region
  rintro place rfl
  exact Value.readsBack_of_toZone orderly found (fun same => genuine place (.inr (.inr same))) utc

end Traveler

/-! ## Readings and their conversions -/

/-- What the traveler reads in the zone that is asked for, and what becomes of a timestamp or a
date-time that is read there when it is converted to the other kind.  A conversion to a timestamp
may ask for another zone. -/
inductive Traveler.IsReading [Atlas] (traveler : Traveler) (world : World Memory) (zone asked : Value) :
    Moment → Prop where
  | read {kind : MomentKind} {reading : Moment} :
      (traveler.currentMoment kind zone world).1 = .ok reading →
      IsReading traveler world zone asked reading
  | toDateTime {kind : MomentKind} {stamp reading : Moment} : kind.family = .timestamp →
      (traveler.currentMoment kind zone world).1 = .ok stamp →
      stamp.toDateTime world.system = .ok reading →
      IsReading traveler world zone asked reading
  | toTimestamp {kind : MomentKind} {place : Option Zone} {dateTime reading : Moment} :
      kind.family = .dateTime →
      (traveler.currentMoment kind zone world).1 = .ok dateTime →
      asked.toZone = .ok place → dateTime.toTimestamp world.system place = .ok reading →
      IsReading traveler world zone asked reading

namespace Moment

variable {moment converted : Moment}

theorem isAware_of_denotes (denotes : moment.Denotes utc) : moment.isAware := by
  obtain ⟨offset, known, _⟩ := denotes_iff.mp denotes
  simp [isAware, known]

/-- Another zone keeps the instant of a moment when it reads back what it shows. -/
theorem denotes_of_inZone {zone : Zone} (denotes : moment.Denotes utc) (reads : zone.ReadsBack utc)
    (made : moment.inZone system zone = .ok converted) : converted.Denotes utc := by
  by_cases stays : zone.isShared ∧ moment.zone = some zone
  · unfold inZone at made
    rw [if_pos stays] at made
    cases made
    exact denotes
  · rw [inZone_of_denotes system denotes stays] at made
    obtain ⟨⟨wall, fold⟩, shows, rfl⟩ := Outcome.map_eq_ok_iff.mp made
    exact denotes_of_showUtc reads shows moment.kind

theorem denotes_of_toDateTime (denotes : moment.Denotes utc)
    (made : moment.toDateTime system = .ok converted) : converted.Denotes utc := by
  rw [toDateTime_of_isAware system (isAware_of_denotes denotes)] at made
  cases made
  exact denotes_withFixedOffset_iff.mpr denotes

theorem denotes_of_toTimestamp {place : Option Zone} (denotes : moment.Denotes utc)
    (reads : ∀ zone, place = some zone → zone.ReadsBack utc)
    (made : moment.toTimestamp system place = .ok converted) : converted.Denotes utc := by
  cases place with
  | none =>
      obtain ⟨zone, zoned⟩ := exists_zone_of_denotes denotes
      rw [toTimestamp_of_zone system zoned] at made
      cases made
      exact denotes
  | some zone =>
      unfold toTimestamp at made
      rw [MomentKind.ofInstant_eq] at made
      obtain ⟨shown, shows, rfl⟩ := Outcome.map_eq_ok_iff.mp made
      exact MomentKind.timestamp.denotes_shape_iff.mpr
        (denotes_of_inZone denotes (reads zone rfl) shows)

end Moment

namespace Traveler

variable {traveler : Traveler} {world : World Memory} {zone asked : Value} {reading : Moment}

theorem exists_instant_of_currentMoment [Atlas] (orderly : Atlas.IsOrderly) {kind : MomentKind}
    (reachable : world.Reachable)
    (genuine : traveler.RegionsReadBack zone asked)
    (read : (traveler.currentMoment kind zone world).1 = .ok reading) :
    ∃ instant, traveler.instant world = (.ok instant, world) ∧ reading.Denotes instant.wall := by
  rw [currentMoment_eq, Run.bind_pure_apply] at read
  obtain ⟨shown, shows, rfl⟩ := Outcome.map_eq_ok_iff.mp read
  obtain ⟨instant, known, _, denotes⟩ := exists_instant_of_showing reachable
    (fun place instant displayed _ => genuine.displayZone orderly displayed instant.wall) shows
  exact ⟨instant, known, kind.denotes_shape_iff.mpr denotes⟩

/-- Converted or not, a reading denotes the instant of the traveler. -/
theorem IsReading.exists_instant [Atlas] (orderly : Atlas.IsOrderly) (reachable : world.Reachable)
    (genuine : traveler.RegionsReadBack zone asked)
    (isReading : traveler.IsReading world zone asked reading) :
    ∃ instant, traveler.instant world = (.ok instant, world) ∧ reading.Denotes instant.wall := by
  cases isReading with
  | read found => exact exists_instant_of_currentMoment orderly reachable genuine found
  | toDateTime _ found made =>
      obtain ⟨instant, known, denotes⟩ :=
        exists_instant_of_currentMoment orderly reachable genuine found
      exact ⟨instant, known, Moment.denotes_of_toDateTime denotes made⟩
  | toTimestamp _ found chosen made =>
      obtain ⟨instant, known, denotes⟩ :=
        exists_instant_of_currentMoment orderly reachable genuine found
      refine ⟨instant, known, Moment.denotes_of_toTimestamp denotes ?_ made⟩
      rintro zone rfl
      exact genuine.toZone orderly chosen instant.wall

/-! ## The travel to a reading -/

/-- Whatever its zone, a traveler that is sent to a moment arrives at the whole second of the
instant that the moment denotes. -/
theorem exists_destination_of_denotes (visitor : Traveler) (world : World Memory)
    (denotes : reading.Denotes utc) :
    ∃ anchor, (visitor.destination (.to (.moment reading)) world).1 = .ok anchor ∧
      anchor.zone = some .utc ∧ anchor.wall = utc.wholeSecond := by
  obtain ⟨shown, converted, rfl⟩ := Moment.inUtc_of_denotes world.system denotes
  have placed := visitor.placedTarget_of_isAware world.system (Moment.isAware_of_denotes denotes)
  have found : visitor.targetInstant world.system (.moment reading) = .ok shown := by
    rw [targetInstant_eq, placed]
    exact converted
  have zoned : shown.zone = some .utc := Moment.zone_of_inUtc converted
  refine ⟨shown.wholeSecond, ?_, zoned, rfl⟩
  show (visitor.anchorAt (.moment reading) world).1 = _
  rw [anchorAt_apply, found]
  rfl

theorem travelTo_of_destination {visitor : Traveler} {target : Value} {anchor : Moment}
    (led : (visitor.destination (.to target) world).1 = .ok anchor) :
    visitor.travelTo target (.absent : TravelBody Memory Result) world =
      (.ok (.opened (visitor.nextScope anchor world)), visitor.pinned anchor world) := by
  have departed : depart visitor (.to target) (.absent : TravelBody Memory Result) world = _ :=
    visitor.depart_absent_apply (.to target) world
  rw [led] at departed
  exact departed

/-- The travel opens a scope whose override pins the greatest whole second not after the instant,
and that is the time of the traveler from then on.  With a body the same override is pinned. -/
structure PinsSecondOf (visitor : Traveler) (target : Moment) (world : World Memory) (ticks : Int)
    (scope : TravelScope) (after : World Memory) : Prop where
  opens : ∀ Result : Type,
    visitor.travelTo (.moment target) (.absent : TravelBody Memory Result) world =
      (.ok (.opened scope), after)
  pushes : after.entries visitor.stack = world.entries visitor.stack ++ [scope.override]
  greatest : IsGreatest (wholeSecondsUpTo ticks) scope.override.anchor.wall.ticks
  inUtc : scope.override.anchor.zone = some .utc
  instant : visitor.instant after = (.ok scope.override.anchor, after)
  withBody : (visitor.opening (.to (.moment target)) world).2 = after

theorem exists_pinsSecondOf (visitor : Traveler) (world : World Memory)
    (denotes : reading.Denotes utc) :
    ∃ scope after, visitor.PinsSecondOf reading world utc.ticks scope after ∧
      scope.override.anchor.wall = utc.wholeSecond := by
  obtain ⟨anchor, led, zoned, whole⟩ := visitor.exists_destination_of_denotes world denotes
  have greatest := utc.wholeSecond_isGreatest
  rw [← whole] at greatest
  have opened := opening_of_destination led
  refine ⟨visitor.nextScope anchor world, visitor.pinned anchor world, ?_, whole⟩
  exact {
    opens := fun _ => travelTo_of_destination led
    pushes := visitor.entries_pinned anchor world
    greatest := greatest
    inUtc := zoned
    instant := visitor.instant_pinned anchor world
    withBody := congrArg Prod.snd opened }

end Traveler

theorem WallTime.wholeSecond_wholeSecond (wall : WallTime) :
    wall.wholeSecond.wholeSecond = wall.wholeSecond := by
  rw [eq_iff_ticks]
  show wall.ticks - wall.ticks % 1000000 - (wall.ticks - wall.ticks % 1000000) % 1000000 =
    wall.ticks - wall.ticks % 1000000
  omega

namespace WallTime

/-- A quarter of a second after the later half past two of Berlin, in UTC. -/
def quarterSecondLater : WallTime := ⟨63865589400250000, by decide, by decide⟩

end WallTime

/-- What a timestamp in Berlin shows then, for the second time. -/
def Moment.quarterSecondLater : Moment :=
  { kind := .timestamp
    wall := ⟨63865593000250000, by decide, by decide⟩
    zone := some (.region Atlas.berlin)
    fold := true }

theorem berlin_showUtc_quarterSecondLater :
    (Zone.region Atlas.berlin).showUtc .quarterSecondLater =
      .ok (Moment.quarterSecondLater.wall, true) := by
  have winter : Atlas.berlin.atUtc WallTime.quarterSecondLater.seconds = (3600, true) := by
    decide +kernel
  simp only [Zone.showUtc, winter]
  exact Outcome.map_eq_ok_iff.mpr ⟨_, (WallTime.shift_eq_ok_iff _ _ _).mpr rfl, rfl⟩

/-- A world in which nothing has happened, a quarter of a second after the later half past two. -/
def justAfterRepeat : World Unit := World.start .utc [(1, .atUtc .quarterSecondLater)] ()

theorem currentMoment_justAfterRepeat :
    (hourEast.currentMoment .timestamp (.text "Europe/Berlin") justAfterRepeat).1 =
      .ok Moment.quarterSecondLater := by
  have asked : hourEast.displayZone (.text "Europe/Berlin") =
      .ok (some (.region Atlas.berlin)) := by
    rfl
  have read : hourEast.instant justAfterRepeat =
      (.ok (.atUtc .quarterSecondLater), justAfterRepeat) := by
    rfl
  unfold Traveler.currentMoment
  rw [asked, Run.ofExcept_bind]
  simp only [Run.bind_of_ok read, Run.world_bind, Run.ofExcept_apply]
  rw [MomentKind.ofInstant_eq]
  refine Outcome.map_eq_ok_iff.mpr ⟨Moment.quarterSecondLater.withKind .plain, ?_, rfl⟩
  show (Moment.atUtc _).inZone _ (.region Atlas.berlin) = _
  rw [Moment.inZone_of_utc _ rfl (by simp), Moment.atUtc, berlin_showUtc_quarterSecondLater]
  rfl

end VirtualClock
