import VirtualClock.Proofs.Journeys
import VirtualClock.Proofs.WholeSecondViews

/-!
# Targets without an offset, from the travel to the reading

A target without an offset is read in the zone of the traveler, or in the local one, and
that reading decides which instant is pinned.  What the readings show after the travel is
what the zone shows at the whole second of that instant.
-/

namespace VirtualClock

open Session (depart)

variable {Memory Result : Type} {system : ZoneRule} {zone : Option Zone}
  {utc wall early late : WallTime} {offset : Int}

namespace WallTime

theorem seconds_add {wall utc : WallTime} {seconds : Int}
    (apart : wall.ticks = utc.ticks + seconds * 1000000) :
    wall.seconds = utc.seconds + seconds := by
  unfold WallTime.seconds ticksPerSecond
  omega

theorem wholeSecond_eq_of_seconds (same : early.seconds = late.seconds) :
    early.wholeSecond = late.wholeSecond := by
  rw [eq_iff_ticks]
  show early.ticks - early.ticks % 1000000 = late.ticks - late.ticks % 1000000
  unfold WallTime.seconds ticksPerSecond at same
  omega

end WallTime

namespace Zone

/-! ## Showing and reading -/

/-- The zone, or the local one, shows the wall time at an instant. -/
def ShowsAs (system : ZoneRule) (zone : Option Zone) (utc wall : WallTime) : Prop :=
  ∃ shown, (Moment.atUtc utc).inOptionalZone system zone = .ok shown ∧ shown.wall = wall

/-- The zone, or the local one, reads the wall time with an offset. -/
def Reads (system : ZoneRule) (zone : Option Zone) (wall : WallTime) (fold : Bool) (offset : Int) :
    Prop :=
  match zone with
  | some zone => zone.offsetAt wall fold = some offset
  | none => system.offsetOfWall wall.seconds fold = .ok offset

theorem shownOffset?_wholeSecond (system : ZoneRule) (zone : Option Zone) (utc : WallTime) :
    shownOffset? system zone utc.wholeSecond = shownOffset? system zone utc := by
  unfold shownOffset?
  rw [utc.seconds_wholeSecond]

/-- A zone shows a wall time at the distance of its offset. -/
theorem ticks_of_showUtc (system : ZoneRule) {place : Zone} {fold : Bool}
    (shows : place.showUtc utc = .ok (wall, fold)) :
    ∃ offset, shownOffset? system (some place) utc = some offset ∧
      wall.ticks = utc.ticks + offset := by
  cases place with
  | utc =>
      cases shows
      exact ⟨0, rfl, (Int.add_zero _).symm⟩
  | fixed offset label =>
      obtain ⟨moved, shifted, same⟩ := Outcome.map_eq_ok_iff.mp shows
      cases same
      exact ⟨offset, rfl, (WallTime.shift_eq_ok_iff _ _ _).mp shifted⟩
  | region place =>
      obtain ⟨moved, shifted, same⟩ := Outcome.map_eq_ok_iff.mp shows
      cases same
      exact ⟨_, rfl, (WallTime.shift_eq_ok_iff _ _ _).mp shifted⟩
  | floating => cases shows

theorem ticks_of_inOptionalZone {anchor shown : Moment} (zoned : anchor.zone = some .utc)
    (shows : anchor.inOptionalZone system zone = .ok shown) :
    ∃ offset, shownOffset? system zone anchor.wall = some offset ∧
      shown.wall.ticks = anchor.wall.ticks + offset := by
  cases zone with
  | none =>
      have made : anchor.inLocalZone system = .ok shown := shows
      rw [Moment.inLocalZone_of_utc system zoned] at made
      obtain ⟨⟨wall, fold⟩, found, rfl⟩ := Outcome.map_eq_ok_iff.mp made
      exact ticks_of_showUtc system found
  | some place =>
      by_cases isUtc : place = .utc
      · subst isUtc
        have kept := Moment.inUtc_of_utc anchor system zoned
        rw [Moment.inUtc] at kept
        have made : anchor.inZone system .utc = .ok shown := shows
        rw [made] at kept
        cases kept
        exact ⟨0, rfl, (Int.add_zero _).symm⟩
      · have made : anchor.inZone system place = .ok shown := shows
        rw [Moment.inZone_of_utc system zoned isUtc] at made
        obtain ⟨⟨wall, fold⟩, found, rfl⟩ := Outcome.map_eq_ok_iff.mp made
        exact ticks_of_showUtc system found

/-- An anchor is shown at the distance of the offset when the calendar has room for that. -/
theorem exists_inOptionalZone_of_ticks {anchor : Moment} (zoned : anchor.zone = some .utc)
    (known : shownOffset? system zone anchor.wall = some offset)
    (apart : wall.ticks = anchor.wall.ticks + offset) :
    ∃ shown, anchor.inOptionalZone system zone = .ok shown ∧ shown.wall = wall := by
  have inCalendar : Zone.Shows system zone anchor.wall := by
    refine ⟨offset, known, ?_⟩
    rw [← apart]
    exact ⟨wall.nonneg, wall.bounded⟩
  obtain ⟨shown, shows⟩ := (Moment.exists_inOptionalZone_iff system zone zoned).mpr inCalendar
  obtain ⟨same, sameKnown, shownApart⟩ := ticks_of_inOptionalZone zoned shows
  rw [known] at sameKnown
  cases sameKnown
  refine ⟨shown, shows, ?_⟩
  rw [WallTime.eq_iff_ticks, shownApart, apart]

theorem showsAs_iff :
    ShowsAs system zone utc wall ↔
      ∃ offset, shownOffset? system zone utc = some offset ∧ wall.ticks = utc.ticks + offset := by
  have zoned : (Moment.atUtc utc).zone = some .utc := rfl
  have placed : (Moment.atUtc utc).wall = utc := rfl
  constructor
  · rintro ⟨shown, shows, rfl⟩
    have found := ticks_of_inOptionalZone zoned shows
    rw [placed] at found
    exact found
  · rintro ⟨offset, known, apart⟩
    rw [← placed] at known apart
    exact exists_inOptionalZone_of_ticks zoned known apart

end Zone

/-! ## The instant of a target -/

namespace Moment

/-- A moment that is put into the local zone denotes the instant that it was read as. -/
theorem denotes_of_inLocalZone {moment placed : Moment}
    (made : moment.inLocalZone system = .ok placed) :
    ∃ utc, moment.utcWall system = .ok utc ∧ placed.Denotes utc := by
  unfold inLocalZone at made
  obtain ⟨utc, read, made⟩ := Outcome.bind_eq_ok_iff.mp made
  obtain ⟨⟨wall, fold⟩, shows, made⟩ := Outcome.bind_eq_ok_iff.mp made
  cases made
  exact ⟨utc, read, denotes_of_showUtc (Zone.readsBack_fixed _ _ _) shows moment.kind⟩

end Moment

namespace Traveler

variable {traveler : Traveler} {world after : World Memory} {target : Value}
  {moment instant anchor shown : Moment}

theorem placedTarget_of_moment (system : ZoneRule) (read : targetMoment target = .ok moment) :
    traveler.placedTarget system target = traveler.placedTarget system (.moment moment) := by
  unfold placedTarget
  rw [read]
  rfl

/-- The instant of a target without an offset lies the offset that it is read with before it. -/
theorem reads_of_targetInstant (read : targetMoment target = .ok moment)
    (naive : moment.isAware = false) (grounded : traveler.zone ≠ some .floating)
    (found : traveler.targetInstant system target = .ok instant) :
    ∃ offset, Zone.Reads system traveler.zone moment.wall moment.fold offset ∧
      moment.wall.ticks = instant.wall.ticks + offset := by
  have unaware : ¬moment.isAware := by simp [naive]
  rw [targetInstant_eq, placedTarget_of_moment system read] at found
  obtain ⟨placed, made, converted⟩ := Outcome.bind_eq_ok_iff.mp found
  cases zoned : traveler.zone with
  | some zone =>
      rw [placedTarget_of_zone system unaware zoned] at made
      cases made
      rw [zoned] at grounded
      have aware : ({ moment with zone := some zone } : Moment).isAware := by
        cases zone with
        | floating => exact absurd rfl grounded
        | utc => rfl
        | fixed offset label => rfl
        | region place => rfl
      exact Moment.denotes_iff.mp (Moment.denotes_of_inUtc aware converted)
  | none =>
      rw [placedTarget_of_local system unaware zoned] at made
      obtain ⟨utc, read, denotes⟩ := Moment.denotes_of_inLocalZone made
      obtain ⟨same, kept, rfl⟩ := Moment.inUtc_of_denotes system denotes
      rw [converted] at kept
      cases kept
      have unknown : moment.offset? = none := by simpa [Moment.isAware] using naive
      unfold Moment.utcWall at read
      rw [unknown] at read
      obtain ⟨offset, searched, shifted⟩ := Outcome.bind_eq_ok_iff.mp read
      have apart := (WallTime.shift_eq_ok_iff _ _ _).mp shifted
      exact ⟨offset, searched, by omega⟩

/-! ## After the travel -/

/-- A travel without a body pins the whole second of its target. -/
theorem pinned_of_travelTo {trip : Trip Result}
    (travelled : traveler.travelTo target (.absent : TravelBody Memory Result) world =
      (.ok trip, after)) :
    ∃ instant, traveler.targetInstant world.system target = .ok instant ∧
      after = traveler.pinned instant.wholeSecond world := by
  have departed : depart traveler (.to target) (.absent : TravelBody Memory Result) world = _ :=
    traveler.depart_absent_apply (.to target) world
  have led : (traveler.destination (.to target) world).1 =
      (traveler.targetInstant world.system target).map Moment.wholeSecond :=
    traveler.anchorAt_apply target world
  rw [led] at departed
  change traveler.travelTo target (.absent : TravelBody Memory Result) world = _ at departed
  rw [travelled] at departed
  cases found : traveler.targetInstant world.system target with
  | error fault =>
      rw [found] at departed
      cases departed
  | ok instant =>
      rw [found] at departed
      exact ⟨instant, rfl, congrArg Prod.snd departed⟩

theorem instant_pinned (traveler : Traveler) (anchor : Moment) (world : World Memory) :
    traveler.instant (traveler.pinned anchor world) =
      (.ok anchor, traveler.pinned anchor world) := by
  have top : ((traveler.pinned anchor world).entries traveler.stack).getLast? =
      some (traveler.nextScope anchor world).override := by
    rw [traveler.entries_pinned, List.getLast?_concat]
  exact instant_of_getLast? top

/-- Right after the anchor is pinned, it is what is shown. -/
theorem showing_pinned [Atlas] (shows : anchor.inOptionalZone world.system traveler.zone = .ok shown) :
    traveler.showing .nothing (traveler.pinned anchor world) =
      (.ok shown, traveler.pinned anchor world) := by
  have reads := (traveler.showing_onlyReads .nothing).apply (traveler.pinned anchor world)
  rw [showing_nothing (traveler.instant_pinned anchor world)] at reads
  have same : (traveler.pinned anchor world).system = world.system := rfl
  rw [same] at reads
  exact reads.trans (congrArg (·, traveler.pinned anchor world) shows)

theorem currentMoment_pinned [Atlas] (kind : MomentKind)
    (shows : anchor.inOptionalZone world.system traveler.zone = .ok shown) :
    traveler.currentMoment kind .nothing (traveler.pinned anchor world) =
      (.ok (kind.shape shown), traveler.pinned anchor world) := by
  rw [currentMoment_eq, Run.bind_of_ok (showing_pinned shows)]
  rfl

theorem currentDay_pinned [Atlas] (kind : DayKind)
    (shows : anchor.inOptionalZone world.system traveler.zone = .ok shown) :
    traveler.currentDay kind .nothing (traveler.pinned anchor world) =
      (.ok (shown.day kind), traveler.pinned anchor world) := by
  rw [currentDay_eq, Run.bind_of_ok (showing_pinned shows)]
  rfl

end Traveler

end VirtualClock
