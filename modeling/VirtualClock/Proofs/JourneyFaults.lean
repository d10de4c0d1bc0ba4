import VirtualClock.Proofs.Journeys

/-!
# Faults on a journey

The faults that a journey of the command line can meet.  Nearly all of them come
from times and spans that cannot be represented, and those are put down to the
option that asked for the journey.  The few others, and what happens to a reading
without a journey, are listed here: they stray past the options.
-/

namespace VirtualClock

/-! ## Leaving the calendar -/

/-- If there is a fault, then a time has left the calendar. -/
def Outcome.OnlyLeavesCalendar {Result : Type} (outcome : Except Fault Result) : Prop :=
  ∀ fault, outcome = .error fault → fault = .dateOutOfRange

namespace Outcome

variable {First Second : Type} {outcome : Except Fault First}

theorem onlyLeavesCalendar_ok (result : First) :
    OnlyLeavesCalendar (.ok result : Except Fault First) := by
  intro fault failed
  cases failed

theorem OnlyLeavesCalendar.map (leaves : OnlyLeavesCalendar outcome) (change : First → Second) :
    OnlyLeavesCalendar (outcome.map change) := by
  intro fault failed
  exact leaves fault (map_eq_error_iff.mp failed)

theorem OnlyLeavesCalendar.bind {next : First → Except Fault Second}
    (leaves : OnlyLeavesCalendar outcome)
    (nextLeaves : ∀ first, outcome = .ok first → OnlyLeavesCalendar (next first)) :
    OnlyLeavesCalendar (outcome >>= next) := by
  intro fault failed
  rcases bind_eq_error_iff.mp failed with early | ⟨first, found, late⟩
  · exact leaves fault early
  · exact nextLeaves first found fault late

end Outcome

open Outcome (OnlyLeavesCalendar onlyLeavesCalendar_ok)

theorem WallTime.shift_onlyLeavesCalendar (wall : WallTime) (micros : Int) :
    OnlyLeavesCalendar (wall.shift micros) := by
  intro fault failed
  unfold shift at failed
  cases moved : ofTicks? (wall.ticks + micros) with
  | some shifted =>
      rw [moved] at failed
      cases failed
  | none =>
      rw [moved] at failed
      cases failed
      rfl

theorem Zone.showUtc_onlyLeavesCalendar {zone : Zone} (grounded : zone ≠ .floating)
    (utc : WallTime) : OnlyLeavesCalendar (zone.showUtc utc) := by
  cases zone with
  | utc => exact onlyLeavesCalendar_ok _
  | fixed offset label => exact (utc.shift_onlyLeavesCalendar offset).map _
  | region place => exact (utc.shift_onlyLeavesCalendar _).map _
  | floating => exact absurd rfl grounded

namespace Moment

variable {moment instant : Moment}

theorem inUtc_onlyLeavesCalendar (system : ZoneRule) (aware : moment.isAware) :
    OnlyLeavesCalendar (moment.inUtc system) := by
  by_cases utc : moment.zone = some .utc
  · rw [inUtc_of_utc moment system utc]
    exact onlyLeavesCalendar_ok moment
  · obtain ⟨offset, known⟩ := Option.isSome_iff_exists.mp aware
    rw [inUtc_of_ne moment system utc, utcWall_of_offset system known]
    exact (moment.wall.shift_onlyLeavesCalendar (-offset)).map _

theorem inOptionalZone_onlyLeavesCalendar (system : ZoneRule) {zone : Option Zone}
    (grounded : zone ≠ some .floating) (utc : instant.zone = some .utc) :
    OnlyLeavesCalendar (instant.inOptionalZone system zone) := by
  cases zone with
  | none =>
      show OnlyLeavesCalendar (instant.inLocalZone system)
      rw [inLocalZone_of_utc system utc]
      exact (Zone.showUtc_onlyLeavesCalendar (by simp [ZoneRule.zoneAt]) _).map _
  | some zone =>
      show OnlyLeavesCalendar (instant.inZone system zone)
      by_cases same : zone = .utc
      · rw [same]
        exact inUtc_onlyLeavesCalendar system (isAware_of_utc utc)
      · rw [inZone_of_utc system utc same]
        have floats : zone ≠ .floating := fun float => grounded (by rw [float])
        exact (Zone.showUtc_onlyLeavesCalendar floats _).map _

/-- A moment without an offset goes through the local zone; once it is placed there, it can only
leave the calendar. -/
theorem inLocalZone_onlyLeavesCalendar (system : ZoneRule) (naive : ¬moment.isAware)
    {offset : Int} (placed : system.offsetOfWall moment.wall.seconds moment.fold = .ok offset) :
    OnlyLeavesCalendar (moment.inLocalZone system) := by
  have unknown : moment.offset? = none := by
    simpa [isAware] using naive
  have read : moment.utcWall system = moment.wall.shift (-offset) := by
    unfold utcWall
    rw [unknown, placed]
    rfl
  unfold inLocalZone
  rw [read]
  refine (moment.wall.shift_onlyLeavesCalendar (-offset)).bind fun utc _ => ?_
  exact (Zone.showUtc_onlyLeavesCalendar (by simp [ZoneRule.zoneAt]) utc).bind
    fun shown _ => onlyLeavesCalendar_ok _

/-- A moment that the local zone cannot place goes no further. -/
theorem inLocalZone_of_unplaced {system : ZoneRule} {fault : Fault} (naive : ¬moment.isAware)
    (unplaced : system.offsetOfWall moment.wall.seconds moment.fold = .error fault) :
    moment.inLocalZone system = .error fault := by
  have unknown : moment.offset? = none := by
    simpa [isAware] using naive
  unfold inLocalZone utcWall
  rw [unknown, unplaced]
  rfl

theorem isAware_of_inLocalZone {system : ZoneRule} {shown : Moment}
    (placed : moment.inLocalZone system = .ok shown) : shown.isAware := by
  unfold inLocalZone at placed
  obtain ⟨utc, _, placed⟩ := Outcome.bind_eq_ok_iff.mp placed
  obtain ⟨pair, _, placed⟩ := Outcome.bind_eq_ok_iff.mp placed
  cases placed
  rfl

end Moment

theorem ZoneRule.fault_of_offsetOfWall {system : ZoneRule} {wall : Int} {fold : Bool}
    {fault : Fault} (unplaced : system.offsetOfWall wall fold = .error fault) :
    ∃ year, fault = .yearOutOfRange year := by
  have shown : ∀ second, system.shownAt second = .error fault →
      ∃ year, fault = .yearOutOfRange year := by
    intro second failed
    unfold shownAt at failed
    dsimp only at failed
    split at failed
    · cases failed
      exact ⟨0, rfl⟩
    · split at failed
      · cases failed
        exact ⟨10000, rfl⟩
      · cases failed
  have settled : ∀ candidate seen offset,
      system.settle wall fold candidate seen offset = .error fault →
        ∃ year, fault = .yearOutOfRange year := by
    intro candidate seen offset failed
    unfold settle at failed
    rcases Outcome.bind_eq_error_iff.mp failed with early | ⟨other, _, late⟩
    · exact shown _ early
    · split at late
      · cases late
      · split at late
        · cases late
        · cases late
  have chosen : ∀ (agrees : Prop) [Decidable agrees] (candidate seen offset : Int),
      (if agrees then pure candidate else system.settle wall fold candidate seen offset) =
        .error fault → ∃ year, fault = .yearOutOfRange year := by
    intro agrees _ candidate seen offset failed
    split at failed
    · cases failed
    · exact settled candidate seen offset failed
  unfold offsetOfWall at unplaced
  rcases Outcome.bind_eq_error_iff.mp unplaced with lost | ⟨second, _, placed⟩
  · unfold utcSecondOf at lost
    rcases Outcome.bind_eq_error_iff.mp lost with early | ⟨first, _, lost⟩
    · exact shown _ early
    rcases Outcome.bind_eq_error_iff.mp lost with early | ⟨seen, _, lost⟩
    · exact shown _ early
    split at lost
    · rcases Outcome.bind_eq_error_iff.mp lost with early | ⟨probe, _, lost⟩
      · exact shown _ early
      · exact chosen _ _ _ _ lost
    · exact settled _ _ _ lost
  · cases placed

theorem Duration.isOverflow_of_ofFloatSeconds {seconds : Binary64} {fault : Fault}
    (isNumber : seconds ≠ .nan) (failed : ofFloatSeconds seconds = .error fault) :
    fault.isOverflow := by
  cases seconds with
  | nan => exact absurd rfl isNumber
  | infinite negative =>
      cases failed
      rfl
  | finite negative significand exponent =>
      unfold ofFloatSeconds ofMicros at failed
      dsimp only at failed
      split at failed
      · cases failed
        rfl
      · split at failed
        · cases failed
          rfl
        · cases failed

/-! ## Faults that no option answers for -/

namespace CommandLine

/-- A journey meets a fault that is not put down to an option: the real time cannot be shown in
the zone, the offset is no number, or the local zone cannot place a target without an offset. -/
inductive Journey.Strays (system : ZoneRule) (reading : Moment) (zone : Option Zone) :
    Journey → Fault → Prop where
  | hidden (unseen : ∀ utc, reading.Denotes utc → ¬Zone.Shows system zone utc) :
      Strays system reading zone .stay .dateOutOfRange
  | noNumber : Strays system reading zone (.by .nan) .notANumber
  | unplaced {written : String} {target : Moment} {fault : Fault} (naive : ¬target.isAware)
      (isLocal : zone = none)
      (lost : system.offsetOfWall target.wall.seconds target.fold = .error fault) :
      Strays system reading zone (.to written target) fault

section Straying

variable {traveler : Traveler} {world : World Unit} {fault : Fault}

theorem instant_to_apply (written : String) (target : Moment) :
    ((Journey.to written target).instant traveler world).1 =
      (traveler.placedTarget world.system (.moment target) >>= fun placed =>
        placed.inUtc world.system).map Moment.wholeSecond := by
  rw [Journey.instant, Traveler.anchorAt_apply, Traveler.targetInstant_eq]

theorem instant_by_apply (aware : (world.reading traveler.clock).isAware) (offset : Binary64) :
    ((Journey.by offset).instant traveler world).1 =
      Duration.ofFloatSeconds offset >>= fun span =>
        (world.reading traveler.clock).inUtc world.system >>= fun now => now.shift span := by
  rw [Journey.instant, Traveler.anchorAfter_apply, Traveler.realNow_of_aware aware]
  rfl

variable [Atlas]

/-- The real time can be shown exactly when the reading denotes an instant that the zone shows. -/
theorem exists_views_iff (aware : (world.reading traveler.clock).isAware)
    (untouched : world.entries traveler.stack = []) :
    (∃ views, (viewsOn .stay traveler world).1 = .ok views) ↔
      ∃ utc, (world.reading traveler.clock).Denotes utc ∧
        Zone.Shows world.system traveler.zone utc := by
  rw [viewsOn_outcome .stay traveler untouched, Journey.instant, Traveler.realNow_of_aware aware]
  constructor
  · rintro ⟨views, viewed⟩
    obtain ⟨instant, converted, viewed⟩ := Outcome.bind_eq_ok_iff.mp viewed
    obtain ⟨shown, found, _⟩ := Outcome.map_eq_ok_iff.mp viewed
    have shows := (Moment.exists_inOptionalZone_iff world.system traveler.zone
      (Moment.zone_of_inUtc converted)).mp ⟨shown, found⟩
    exact ⟨instant.wall, Moment.denotes_of_inUtc aware converted, shows⟩
  · rintro ⟨utc, denotes, shows⟩
    obtain ⟨instant, converted, rfl⟩ := Moment.inUtc_of_denotes world.system denotes
    obtain ⟨shown, found⟩ := (Moment.exists_inOptionalZone_iff world.system traveler.zone
      (Moment.zone_of_inUtc converted)).mpr shows
    rw [converted]
    exact ⟨Views.ofShown shown, Outcome.map_eq_ok_iff.mpr ⟨shown, found, rfl⟩⟩

/-- Once the instant of a journey is known, only showing it can leave the calendar. -/
theorem viewsOn_onlyLeavesCalendar (journey : Journey)
    (untouched : world.entries traveler.stack = []) (grounded : traveler.zone ≠ some .floating)
    (leaves : OnlyLeavesCalendar (journey.instant traveler world).1) :
    OnlyLeavesCalendar (viewsOn journey traveler world).1 := by
  rw [viewsOn_outcome journey traveler untouched]
  refine leaves.bind fun instant led => ?_
  exact (Moment.inOptionalZone_onlyLeavesCalendar world.system grounded
    (Journey.zone_of_instant led)).map _

theorem strays_stay_iff (aware : (world.reading traveler.clock).isAware)
    (untouched : world.entries traveler.stack = [])
    (grounded : traveler.zone ≠ some .floating) :
    (viewsOn .stay traveler world).1 = .error fault ↔
      Journey.stay.Strays world.system (world.reading traveler.clock) traveler.zone fault := by
  have leaves : OnlyLeavesCalendar (Journey.stay.instant traveler world).1 := by
    rw [Journey.instant, Traveler.realNow_of_aware aware]
    exact Moment.inUtc_onlyLeavesCalendar world.system aware
  have failsOnly := viewsOn_onlyLeavesCalendar .stay untouched grounded leaves
  have shows := exists_views_iff aware untouched
  constructor
  · intro failed
    rw [failsOnly fault failed]
    refine .hidden fun utc denotes seen => ?_
    obtain ⟨views, viewed⟩ := shows.mpr ⟨utc, denotes, seen⟩
    rw [failed] at viewed
    cases viewed
  · rintro ⟨unseen⟩
    cases outcome : (viewsOn .stay traveler world).1 with
    | error reason => rw [failsOnly reason outcome]
    | ok views =>
        obtain ⟨utc, denotes, seen⟩ := shows.mp ⟨views, outcome⟩
        exact absurd seen (unseen utc denotes)

/-- A journey to a target that leaves the calendar at most has no fault of its own. -/
theorem not_stops_of_onlyLeavesCalendar {written : String} {target : Moment}
    (untouched : world.entries traveler.stack = [])
    (grounded : traveler.zone ≠ some .floating)
    (leaves : OnlyLeavesCalendar ((Journey.to written target).instant traveler world).1) :
    ¬∃ reason, (viewsOn (.to written target) traveler world).1 = .error reason ∧
      (Journey.to written target).stop reason = .fault fault := by
  rintro ⟨reason, failed, stopped⟩
  rw [viewsOn_onlyLeavesCalendar _ untouched grounded leaves reason failed] at stopped
  cases stopped

/-- Without a zone of its own a traveler leaves it to the local zone to place a target, and that
zone can lose it. -/
theorem strays_to_local_iff {written : String} {target : Moment}
    (untouched : world.entries traveler.stack = []) (naive : ¬target.isAware)
    (zoned : traveler.zone = none) :
    (∃ reason, (viewsOn (.to written target) traveler world).1 = .error reason ∧
        (Journey.to written target).stop reason = .fault fault) ↔
      (Journey.to written target).Strays world.system (world.reading traveler.clock)
        none fault := by
  have grounded : traveler.zone ≠ some .floating := by
    rw [zoned]
    exact nofun
  have placed := Traveler.placedTarget_of_local world.system naive zoned
  cases found : world.system.offsetOfWall target.wall.seconds target.fold with
  | ok offset =>
      refine iff_of_false (not_stops_of_onlyLeavesCalendar untouched grounded ?_) ?_
      · rw [instant_to_apply, placed]
        have leaves := Moment.inLocalZone_onlyLeavesCalendar world.system naive found
        exact (leaves.bind fun shown made => Moment.inUtc_onlyLeavesCalendar world.system
          (Moment.isAware_of_inLocalZone made)).map _
      · intro strays
        cases strays with
        | unplaced _ _ lost =>
            rw [found] at lost
            cases lost
  | error reason =>
      have failed : (viewsOn (.to written target) traveler world).1 = .error reason := by
        rw [viewsOn_outcome _ traveler untouched, instant_to_apply, placed,
          Moment.inLocalZone_of_unplaced naive found]
        rfl
      have unblamed : (Journey.to written target).stop reason = .fault reason := by
        obtain ⟨year, rfl⟩ := ZoneRule.fault_of_offsetOfWall found
        rfl
      constructor
      · rintro ⟨other, same, stopped⟩
        rw [failed] at same
        cases same
        rw [unblamed] at stopped
        cases stopped
        exact .unplaced naive rfl found
      · intro strays
        cases strays with
        | unplaced _ _ lost =>
            rw [found] at lost
            cases lost
            exact ⟨fault, failed, unblamed⟩

theorem strays_to_iff {written : String} {target : Moment}
    (untouched : world.entries traveler.stack = [])
    (grounded : traveler.zone ≠ some .floating) :
    (∃ reason, (viewsOn (.to written target) traveler world).1 = .error reason ∧
        (Journey.to written target).stop reason = .fault fault) ↔
      (Journey.to written target).Strays world.system (world.reading traveler.clock)
        traveler.zone fault := by
  by_cases aware : target.isAware
  · refine iff_of_false (not_stops_of_onlyLeavesCalendar untouched grounded ?_) ?_
    · rw [instant_to_apply, traveler.placedTarget_of_isAware world.system aware]
      exact (Moment.inUtc_onlyLeavesCalendar world.system aware).map _
    · rintro ⟨⟩
      contradiction
  · cases zoned : traveler.zone with
    | some zone =>
        have settled : ({ target with zone := some zone } : Moment).isAware := by
          cases zone with
          | floating => exact absurd zoned grounded
          | _ => rfl
        refine iff_of_false (not_stops_of_onlyLeavesCalendar untouched grounded ?_) ?_
        · rw [instant_to_apply, Traveler.placedTarget_of_zone world.system aware zoned]
          exact (Moment.inUtc_onlyLeavesCalendar world.system settled).map _
        · rintro ⟨⟩
          contradiction
    | none => exact strays_to_local_iff untouched aware zoned

/-- A journey by a number of seconds can fail only where a span or a time is too large. -/
theorem isOverflow_of_viewsOn_by {offset : Binary64} {reason : Fault}
    (aware : (world.reading traveler.clock).isAware)
    (untouched : world.entries traveler.stack = [])
    (grounded : traveler.zone ≠ some .floating) (isNumber : offset ≠ .nan)
    (failed : (viewsOn (.by offset) traveler world).1 = .error reason) : reason.isOverflow := by
  rw [viewsOn_outcome _ traveler untouched, instant_by_apply aware] at failed
  rcases Outcome.bind_eq_error_iff.mp failed with failed | ⟨instant, found, hidden⟩
  · rcases Outcome.bind_eq_error_iff.mp failed with early | ⟨span, _, late⟩
    · exact Duration.isOverflow_of_ofFloatSeconds isNumber early
    · have leaves : OnlyLeavesCalendar
          ((world.reading traveler.clock).inUtc world.system >>= fun now => now.shift span) :=
        (Moment.inUtc_onlyLeavesCalendar world.system aware).bind fun now _ =>
          (now.wall.shift_onlyLeavesCalendar span.micros).map _
      rw [leaves reason late]
      rfl
  · rw [← instant_by_apply aware] at found
    have leaves := (Moment.inOptionalZone_onlyLeavesCalendar world.system grounded
      (Journey.zone_of_instant found)).map Views.ofShown
    rw [leaves reason hidden]
    rfl

theorem strays_by_iff {offset : Binary64} (aware : (world.reading traveler.clock).isAware)
    (untouched : world.entries traveler.stack = [])
    (grounded : traveler.zone ≠ some .floating) :
    (∃ reason, (viewsOn (.by offset) traveler world).1 = .error reason ∧
        (Journey.by offset).stop reason = .fault fault) ↔
      (Journey.by offset).Strays world.system (world.reading traveler.clock)
        traveler.zone fault := by
  by_cases isNumber : offset = .nan
  · subst isNumber
    have failed : (viewsOn (.by .nan) traveler world).1 = .error .notANumber := by
      rw [viewsOn_outcome _ traveler untouched, instant_by_apply aware]
      rfl
    constructor
    · rintro ⟨reason, same, stopped⟩
      rw [failed] at same
      cases same
      cases stopped
      exact .noNumber
    · rintro ⟨⟩
      exact ⟨.notANumber, failed, rfl⟩
  · refine iff_of_false ?_ ?_
    -- what is too large is put down to the option, and nothing else goes wrong
    · rintro ⟨reason, failed, stopped⟩
      have overflows := isOverflow_of_viewsOn_by aware untouched grounded isNumber failed
      unfold Journey.stop at stopped
      rw [if_pos overflows] at stopped
      cases stopped
    · rintro ⟨⟩
      exact isNumber rfl

/-- A journey ends with a fault of its own exactly when it strays past the options. -/
theorem viewsOn_strays_iff (journey : Journey)
    (aware : (world.reading traveler.clock).isAware)
    (untouched : world.entries traveler.stack = [])
    (grounded : traveler.zone ≠ some .floating) :
    (∃ reason, (viewsOn journey traveler world).1 = .error reason ∧
        journey.stop reason = .fault fault) ↔
      journey.Strays world.system (world.reading traveler.clock) traveler.zone fault := by
  cases journey with
  | stay =>
      rw [← strays_stay_iff aware untouched grounded]
      have unblamed : ∀ reason, Journey.stay.stop reason = .fault reason := by
        intro reason
        unfold Journey.stop
        split <;> rfl
      constructor
      · rintro ⟨reason, failed, stopped⟩
        rw [unblamed] at stopped
        cases stopped
        exact failed
      · intro failed
        exact ⟨fault, failed, unblamed fault⟩
  | «to» written target => exact strays_to_iff untouched grounded
  | «by» offset => exact strays_by_iff aware untouched grounded

end Straying

end CommandLine

end VirtualClock
