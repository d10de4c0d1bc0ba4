import VirtualClock.Proofs.JourneyFaults
import VirtualClock.Proofs.OrderlyRegions
import VirtualClock.Proofs.WholeSecondTexts

/-!
# Views of whole seconds

Zones count their offsets in whole seconds.  So a zone shows the whole second of an
instant at the whole second of what it shows for the instant, with the same offset,
and the views of the two differ in the fraction alone.
-/

namespace VirtualClock

theorem WallTime.shift_wholeSecond {utc wall : WallTime} {seconds : Int}
    (shifted : utc.shift (seconds * 1000000) = .ok wall) :
    utc.wholeSecond.shift (seconds * 1000000) = .ok wall.wholeSecond := by
  have ticks := (shift_eq_ok_iff utc wall _).mp shifted
  rw [shift_eq_ok_iff]
  show wall.ticks - wall.ticks % 1000000 = utc.ticks - utc.ticks % 1000000 + seconds * 1000000
  omega

namespace Zone

/-- A zone whose offset is a whole number of seconds, less than a day, or changes in an orderly
way. -/
inductive KeepsSeconds : Zone → Prop where
  | fixed {seconds : Int} (within : IsWithinDay seconds) (label : Option String) :
      KeepsSeconds (.fixed (seconds * 1000000) label)
  | region {place : Region} (orderly : place.IsOrderly) : KeepsSeconds (.region place)

variable {zone : Zone} {utc wall : WallTime} {fold : Bool}

theorem KeepsSeconds.ne_utc (keeps : zone.KeepsSeconds) : zone ≠ .utc := by
  cases keeps with
  | fixed => simp
  | region => simp

theorem KeepsSeconds.shows (keeps : zone.KeepsSeconds) (shows : zone.showUtc utc = .ok (wall, fold)) :
    ∃ seconds, IsWithinDay seconds ∧ zone.offsetAt wall fold = some (seconds * 1000000) ∧
      wall.ticks = utc.ticks + seconds * 1000000 ∧
      zone.showUtc utc.wholeSecond = .ok (wall.wholeSecond, fold) := by
  cases keeps with
  | @fixed seconds within label =>
      obtain ⟨moved, shifted, same⟩ := Outcome.map_eq_ok_iff.mp shows
      obtain ⟨rfl, rfl⟩ := Prod.mk.inj same
      refine ⟨seconds, within, rfl, (WallTime.shift_eq_ok_iff _ _ _).mp shifted, ?_⟩
      exact Outcome.map_eq_ok_iff.mpr ⟨_, WallTime.shift_wholeSecond shifted, rfl⟩
  | @region place orderly =>
      have back := readsBack_of_isOrderly orderly utc wall fold shows
      obtain ⟨moved, shifted, same⟩ := Outcome.map_eq_ok_iff.mp shows
      obtain ⟨rfl, rfl⟩ := Prod.mk.inj same
      have ticks : moved.ticks = utc.ticks + (place.atUtc utc.seconds).1 * 1000000 :=
        (WallTime.shift_eq_ok_iff _ _ _).mp shifted
      have between : moved.ticks - utc.ticks = (place.atUtc utc.seconds).1 * 1000000 := by
        omega
      rw [between] at back
      refine ⟨(place.atUtc utc.seconds).1, Region.isWithinDay_atUtc orderly utc.seconds, back,
        ticks, ?_⟩
      unfold showUtc
      dsimp only
      rw [utc.seconds_wholeSecond]
      exact Outcome.map_eq_ok_iff.mpr ⟨_, WallTime.shift_wholeSecond shifted, rfl⟩

theorem offsetAt_wholeSecond (zone : Zone) (wall : WallTime) (fold : Bool) :
    zone.offsetAt wall.wholeSecond fold = zone.offsetAt wall fold := by
  cases zone with
  | region place =>
      unfold offsetAt
      rw [wall.seconds_wholeSecond]
  | utc => rfl
  | fixed offset label => rfl
  | floating => rfl

end Zone

namespace Moment

variable {system : ZoneRule} {instant early shown : Moment}

/-- What a zone shows of an instant is a whole number of seconds away from it, and for the whole
second of the instant the zone shows the whole second, with the same offset. -/
structure ShowsWhole (system : ZoneRule) (zone : Option Zone) (instant shown : Moment)
    (seconds : Int) : Prop where
  within : IsWithinDay seconds
  offset : shown.offset? = some (seconds * 1000000)
  placed : shown.wall.ticks = instant.wall.ticks + seconds * 1000000
  truncated : ∀ early : Moment, early.zone = some .utc → early.wall = instant.wall.wholeSecond →
    ∃ whole, early.inOptionalZone system zone = .ok whole ∧
      whole.wall = shown.wall.wholeSecond ∧ whole.offset? = some (seconds * 1000000)

/-- It is enough that one zone is behind what is shown of all instants of the second. -/
theorem showsWhole_of_place {zone : Option Zone} {place : Zone} (keeps : place.KeepsSeconds)
    (leads : ∀ early : Moment, early.zone = some .utc →
      early.wall.seconds = instant.wall.seconds →
      early.inOptionalZone system zone = (place.showUtc early.wall).map fun shown =>
        ⟨early.kind, shown.1, some place, shown.2⟩)
    (zoned : instant.zone = some .utc) (shows : instant.inOptionalZone system zone = .ok shown) :
    ∃ seconds, ShowsWhole system zone instant shown seconds := by
  rw [leads instant zoned rfl] at shows
  obtain ⟨⟨wall, fold⟩, found, rfl⟩ := Outcome.map_eq_ok_iff.mp shows
  obtain ⟨seconds, within, offset, placed, whole⟩ := keeps.shows found
  refine ⟨seconds, within, offset, placed, fun early utc truncated => ?_⟩
  refine ⟨⟨early.kind, wall.wholeSecond, some place, fold⟩, ?_, rfl, ?_⟩
  · have same : early.wall.seconds = instant.wall.seconds := by
      rw [truncated, instant.wall.seconds_wholeSecond]
    rw [leads early utc same, truncated, whole]
    rfl
  · show place.offsetAt wall.wholeSecond fold = _
    rw [Zone.offsetAt_wholeSecond, offset]

theorem showsWhole_of_region {place : Zone} (keeps : place.KeepsSeconds)
    (zoned : instant.zone = some .utc) (shows : instant.inZone system place = .ok shown) :
    ∃ seconds, ShowsWhole system (some place) instant shown seconds :=
  showsWhole_of_place keeps (fun _ utc _ => inZone_of_utc system utc keeps.ne_utc) zoned shows

/-- The local zone of a whole second is that of its seconds. -/
theorem showsWhole_of_local (within : system.IsWithinDay) (zoned : instant.zone = some .utc)
    (shows : instant.inLocalZone system = .ok shown) :
    ∃ seconds, ShowsWhole system none instant shown seconds := by
  have keeps : (system.zoneAt instant.wall.seconds).KeepsSeconds :=
    .fixed (ZoneRule.isWithinDay_atUtc within _) _
  refine showsWhole_of_place keeps (fun early utc same => ?_) zoned shows
  rw [← same]
  exact inLocalZone_of_utc system utc

end Moment

/-! ## The views of what is shown -/

namespace Views

/-- The views without the fraction of the second. -/
def withoutFraction (views : Views) : Views :=
  ⟨Text.withoutFraction views.timestamp, views.date, Text.withoutFraction views.dateTime⟩

theorem withoutFraction_ofShown {shown whole : Moment} {seconds : Int}
    (offset : shown.offset? = some (seconds * 1000000))
    (sameOffset : whole.offset? = some (seconds * 1000000))
    (truncated : whole.wall = shown.wall.wholeSecond) :
    (ofShown shown).withoutFraction = ofShown whole := by
  have shaped : ∀ kind : MomentKind, Text.withoutFraction (kind.shape shown).isoText =
      (kind.shape whole).isoText := by
    intro kind
    have known : (kind.shape shown).offset? = some (seconds * 1000000) := by
      rw [MomentKind.offset?_shape, offset]
    have knownToo : (kind.shape whole).offset? = some (seconds * 1000000) := by
      rw [MomentKind.offset?_shape, sameOffset]
    refine Moment.withoutFraction_isoText known knownToo ?_
    rw [MomentKind.wall_shape, MomentKind.wall_shape, truncated]
  have dated : shown.wall.date.isoText = whole.wall.date.isoText := by
    rw [truncated, WallTime.date_wholeSecond]
  unfold withoutFraction ofShown
  rw [shaped, shaped, dated]

end Views

/-! ## Travelling back to what was printed -/

namespace Traveler

/-- A traveler that is sent to a timestamp that it would print itself arrives at the whole second
of the instant that the timestamp was printed for. -/
theorem anchorAt_printed {Memory : Type} (traveler : Traveler) {system : ZoneRule}
    {zone : Option Zone} {instant shown : Moment} {seconds : Int}
    (whole : Moment.ShowsWhole system zone instant shown seconds) (world : World Memory) :
    ∃ target anchor, Moment.ofIsoText? (Views.ofShown shown).timestamp = some target ∧
      (traveler.anchorAt (.moment target) world).1 = .ok anchor ∧
      anchor.zone = some .utc ∧ anchor.wall = instant.wall.wholeSecond := by
  have short : seconds.natAbs < 86400 := by
    obtain ⟨west, east⟩ := whole.within
    omega
  have known : (MomentKind.timestamp.shape shown).offset? = some (seconds * 1000000) := by
    rw [MomentKind.offset?_shape, whole.offset]
  have read := Moment.ofIsoText?_isoText known short
  rw [MomentKind.wall_shape] at read
  obtain ⟨target, written⟩ : ∃ target : Moment, target =
      ⟨.plain, shown.wall, some (Zone.ofOffset (seconds * 1000000) none), false⟩ := ⟨_, rfl⟩
  have offset : target.offset? = some (seconds * 1000000) := by
    rw [written]
    exact Zone.offsetAt_ofOffset (seconds * 1000000) shown.wall false
  have denotes : target.Denotes instant.wall := by
    refine Moment.denotes_iff.mpr ⟨_, offset, ?_⟩
    rw [written]
    exact whole.placed
  have aware : target.isAware := by
    unfold Moment.isAware
    rw [offset]
    rfl
  obtain ⟨utc, converted, same⟩ := Moment.inUtc_of_denotes world.system denotes
  have zoned := Moment.zone_of_inUtc converted
  refine ⟨target, utc.wholeSecond, ?_, ?_, zoned, ?_⟩
  · rw [written]
    exact read
  · rw [anchorAt_apply, targetInstant_eq, traveler.placedTarget_of_isAware world.system aware]
    show (target.inUtc world.system).map Moment.wholeSecond = _
    rw [converted]
    rfl
  · show utc.wall.wholeSecond = _
    rw [same]

end Traveler

end VirtualClock
