import VirtualClock.CommandLine.Run
import VirtualClock.Proofs.Agreement

/-!
# What a journey of the command line shows

Every journey leads to one instant: the real time, a target to the whole second,
or the real time moved by an offset.  The views are the three shapes of what the
zone of the traveler shows of that instant.  A journey gives them when there is
such an instant and the zone shows it, and the fault in the way otherwise.
-/

namespace VirtualClock

variable {Memory : Type}

/-! ## The views of a shown moment -/

/-- The three views of a moment that a zone shows. -/
def Views.ofShown (shown : Moment) : Views :=
  ⟨(MomentKind.timestamp.shape shown).isoText, shown.wall.date.isoText,
    (MomentKind.dateTime.shape shown).isoText⟩

namespace Traveler

variable [Atlas]

theorem currentMoment_eq (traveler : Traveler) (kind : MomentKind) (zone : Value) :
    (traveler.currentMoment kind zone : Run Memory Moment) =
      traveler.showing zone >>= fun shown => pure (kind.shape shown) := by
  simp only [currentMoment, showing, MomentKind.ofInstant_eq, Run.ofExcept_map, bind_assoc]

theorem currentDay_eq (traveler : Traveler) (kind : DayKind) (zone : Value) :
    (traveler.currentDay kind zone : Run Memory Day) =
      traveler.showing zone >>= fun shown => pure (shown.day kind) := by
  simp only [currentDay, showing, DayKind.ofInstant, Run.ofExcept_map, bind_assoc]

theorem readViews_apply (traveler : Traveler) (zone : Value) (world : World Memory) :
    traveler.readViews zone world =
      ((traveler.showing zone world).1.map Views.ofShown, world) := by
  have shows := (traveler.showing_onlyReads zone).apply world
  have stamped : traveler.currentMoment .timestamp zone world =
      ((traveler.showing zone world).1.map MomentKind.timestamp.shape, world) := by
    rw [currentMoment_eq, Run.bind_pure_apply, traveler.showing_onlyReads zone world]
  have dated : traveler.currentDay .calendarDate zone world =
      ((traveler.showing zone world).1.map fun shown => shown.day .calendarDate, world) := by
    rw [currentDay_eq, Run.bind_pure_apply, traveler.showing_onlyReads zone world]
  have timed : traveler.currentMoment .dateTime zone world =
      ((traveler.showing zone world).1.map MomentKind.dateTime.shape, world) := by
    rw [currentMoment_eq, Run.bind_pure_apply, traveler.showing_onlyReads zone world]
  unfold readViews
  cases found : (traveler.showing zone world).1 with
  | error fault =>
      rw [found] at stamped
      exact Run.bind_of_error stamped
  | ok shown =>
      rw [found] at stamped dated timed
      rw [Run.bind_of_ok stamped, Run.bind_of_ok dated, Run.bind_of_ok timed]
      rfl

/-- Without a zone of its own a reading is shown in the zone of the traveler. -/
theorem showing_nothing {traveler : Traveler} {world : World Memory}
    {outcome : Except Fault Moment} (read : traveler.instant world = (outcome, world)) :
    (traveler.showing .nothing world).1 =
      outcome >>= fun instant => instant.inOptionalZone world.system traveler.zone := by
  have zoned : traveler.displayZone .nothing = .ok traveler.zone := by
    rfl
  unfold showing
  rw [zoned, Run.ofExcept_bind]
  cases outcome with
  | error fault => simp only [Run.bind_of_error read]; rfl
  | ok instant => simp only [Run.bind_of_ok read, Run.world_bind, Run.ofExcept_apply]; rfl

/-- A visit reads the views of its anchor. -/
theorem visit_readViews (traveler : Traveler) {anchor : Moment} (world : World Memory)
    (utc : anchor.zone = some .utc) :
    (traveler.visit anchor (traveler.readViews .nothing) world).1 =
      (anchor.inOptionalZone world.system traveler.zone).map Views.ofShown := by
  have installed : traveler.install anchor world =
      (.ok (traveler.nextScope anchor world).override, traveler.pinned anchor world) :=
    traveler.install_of_utc world utc
  have entered : (traveler.nextScope anchor world).anchor (traveler.pinned anchor world) =
      ((anchor.inOptionalZone world.system traveler.zone).map MomentKind.timestamp.shape,
        traveler.pinned anchor world) :=
    rfl
  have read : traveler.instant (traveler.pinned anchor world) =
      (.ok anchor, traveler.pinned anchor world) := by
    have top : ((traveler.pinned anchor world).entries traveler.stack).getLast? =
        some (traveler.nextScope anchor world).override := by
      rw [traveler.entries_pinned, List.getLast?_concat]
    exact instant_of_getLast? top
  have viewed : traveler.readViews .nothing (traveler.pinned anchor world) =
      ((anchor.inOptionalZone world.system traveler.zone).map Views.ofShown,
        traveler.pinned anchor world) := by
    rw [readViews_apply, showing_nothing read]
    rfl
  have placed : 0 ≤ (traveler.nextScope anchor world).override.depth :=
    Int.natCast_nonneg _
  obtain ⟨after, closed⟩ := traveler.exists_release (traveler.pinned anchor world) placed
  unfold visit
  rw [Run.bind_of_ok installed]
  show ((traveler.nextScope anchor world).within _ _).1 = _
  unfold TravelScope.within
  cases shown : anchor.inOptionalZone world.system traveler.zone with
  | error fault =>
      rw [shown] at entered
      rw [Run.bind_of_error entered]
      rfl
  | ok moment =>
      rw [shown] at entered viewed
      rw [Run.bind_of_ok entered]
      exact congrArg Prod.fst (Run.ensuring_of_ok viewed closed)

/-- So does a visit whose anchor has to be worked out first. -/
theorem bind_visit_readViews (traveler : Traveler) {working : Run Memory Moment}
    (reads : Run.OnlyReads working) {world : World Memory}
    (utc : ∀ anchor, (working world).1 = .ok anchor → anchor.zone = some .utc) :
    ((working >>= fun anchor => traveler.visit anchor (traveler.readViews .nothing)) world).1 =
      (working world).1 >>= fun anchor =>
        (anchor.inOptionalZone world.system traveler.zone).map Views.ofShown := by
  have worked := reads.apply world
  cases found : (working world).1 with
  | error fault =>
      rw [found] at worked
      rw [Run.bind_of_error worked]
      rfl
  | ok anchor =>
      rw [found] at worked
      rw [Run.bind_of_ok worked]
      exact traveler.visit_readViews world (utc anchor found)

end Traveler

/-! ## Journeys -/

namespace CommandLine

/-- The instant that a journey leads to. -/
def Journey.instant (journey : Journey) (traveler : Traveler) : Run Memory Moment :=
  match journey with
  | .stay => traveler.realNow
  | .to _ target => traveler.anchorAt (.moment target)
  | .by offset => traveler.anchorAfter (.float offset)

namespace Journey

variable {journey : Journey} {traveler : Traveler}

theorem zone_of_instant {world : World Memory} {instant : Moment}
    (led : (journey.instant traveler world).1 = .ok instant) : instant.zone = some .utc := by
  cases journey with
  | stay => exact Traveler.zone_of_realNow led
  | «to» written target =>
      have departed : (traveler.destination (.to (.moment target)) world).1 = .ok instant := led
      exact Traveler.zone_of_destination departed
  | «by» offset =>
      have departed : (traveler.destination (.by (.float offset)) world).1 = .ok instant := led
      exact Traveler.zone_of_destination departed

end Journey

/-- A journey shows the instant that it leads to. -/
theorem viewsOn_outcome [Atlas] (journey : Journey) (traveler : Traveler) {world : World Unit}
    (untouched : world.entries traveler.stack = []) :
    (viewsOn journey traveler world).1 =
      (journey.instant traveler world).1 >>= fun instant =>
        (instant.inOptionalZone world.system traveler.zone).map Views.ofShown := by
  cases journey with
  | stay =>
      have read : traveler.instant world = ((traveler.realNow world).1, world) := by
        rw [Traveler.instant_of_empty untouched, traveler.realNow_onlyReads.apply world]
      show (traveler.readViews .nothing world).1 = (traveler.realNow world).1 >>= _
      rw [Traveler.readViews_apply, Traveler.showing_nothing read]
      cases (traveler.realNow world).1 <;> rfl
  | «to» written target =>
      exact traveler.bind_visit_readViews (traveler.anchorAt_onlyReads (.moment target))
        fun _ => (Journey.to written target).zone_of_instant
  | «by» offset =>
      exact traveler.bind_visit_readViews (traveler.anchorAfter_onlyReads (.float offset))
        fun _ => (Journey.by offset).zone_of_instant

end CommandLine

end VirtualClock
