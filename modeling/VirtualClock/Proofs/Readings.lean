import VirtualClock.Log.System
import VirtualClock.Proofs.TravelerOperations
import VirtualClock.Traveler.Views

/-!
# Readings

To read the time, in whatever shape, and to stamp or write a log record leaves
the world as it is.
-/

namespace VirtualClock

variable {Memory : Type}

/-! ## Travelers and scopes -/

namespace Traveler

theorem currentMoment_onlyReads [Atlas] (traveler : Traveler) (kind : MomentKind) (zone : Value) :
    Run.OnlyReads (traveler.currentMoment kind zone : Run Memory Moment) :=
  (Run.onlyReads_ofExcept _).bind fun _ => traveler.instant_onlyReads.bind fun _ =>
    Run.onlyReads_world.bind fun _ => Run.onlyReads_ofExcept _

theorem currentDay_onlyReads [Atlas] (traveler : Traveler) (kind : DayKind) (zone : Value) :
    Run.OnlyReads (traveler.currentDay kind zone : Run Memory Day) :=
  (Run.onlyReads_ofExcept _).bind fun _ => traveler.instant_onlyReads.bind fun _ =>
    Run.onlyReads_world.bind fun _ => Run.onlyReads_ofExcept _

theorem current_onlyReads [Atlas] (traveler : Traveler) (kind : ReadingKind) (zone : Value) :
    Run.OnlyReads (traveler.current kind zone : Run Memory Reading) := by
  cases kind with
  | moment kind =>
      exact (traveler.currentMoment_onlyReads kind zone).bind fun _ => Run.onlyReads_pure _
  | day kind =>
      exact (traveler.currentDay_onlyReads kind zone).bind fun _ => Run.onlyReads_pure _
  | probe =>
      exact (Run.onlyReads_ofExcept _).bind fun _ =>
        traveler.instant_onlyReads.bind fun _ => Run.onlyReads_pure _
  | unsupported name =>
      exact (Run.onlyReads_ofExcept _).bind fun _ => Run.onlyReads_ofExcept _

theorem depth_onlyReads (traveler : Traveler) :
    Run.OnlyReads (traveler.depth : Run Memory Nat) :=
  fun _ => rfl

theorem currentOverride_onlyReads (traveler : Traveler) :
    Run.OnlyReads (traveler.currentOverride : Run Memory (Option Override)) :=
  fun _ => rfl

theorem readViews_onlyReads [Atlas] (traveler : Traveler) (zone : Value) :
    Run.OnlyReads (traveler.readViews zone : Run Memory Views) :=
  (traveler.currentMoment_onlyReads _ zone).bind fun _ =>
    (traveler.currentDay_onlyReads _ zone).bind fun _ =>
      (traveler.currentMoment_onlyReads _ zone).bind fun _ => Run.onlyReads_pure _

theorem checkAgreement_onlyReads [Atlas] (traveler : Traveler) (zone : Value) :
    Run.OnlyReads (traveler.checkAgreement zone : Run Memory Agreement) := by
  refine Run.onlyReads_world.bind fun world => ?_
  refine (traveler.currentMoment_onlyReads _ zone).bind fun timestamp => ?_
  refine (traveler.currentMoment_onlyReads _ zone).bind fun dateTime => ?_
  refine (traveler.currentDay_onlyReads _ zone).bind fun date => ?_
  refine (Run.onlyReads_ofExcept _).bind fun asTimestamp => ?_
  refine (Run.onlyReads_ofExcept _).bind fun asDateTime => ?_
  refine (Run.onlyReads_ofExcept _).bind fun backToTimestamp => ?_
  refine (Run.onlyReads_ofExcept _).bind fun backToDateTime => ?_
  refine traveler.instant_onlyReads.bind fun instant => ?_
  refine (Run.onlyReads_ofExcept _).bind fun sameInstant => ?_
  exact (Run.onlyReads_ofExcept _).bind fun distinctMembers => Run.onlyReads_pure _

end Traveler

theorem Ambient.traveler_onlyReads : Run.OnlyReads (Ambient.traveler : Run Memory Traveler) :=
  fun _ => rfl

theorem TravelScope.isActive_onlyReads (scope : TravelScope) :
    Run.OnlyReads (scope.isActive : Run Memory Bool) :=
  fun _ => rfl

/-! ## The log -/

theorem TravelStamp.ofTraveler_onlyReads (traveler : Traveler) :
    Run.OnlyReads (TravelStamp.ofTraveler traveler : Run Memory TravelStamp) := by
  refine traveler.currentOverride_onlyReads.bind fun override => ?_
  cases override with
  | none => exact Run.onlyReads_pure _
  | some override => exact traveler.depth_onlyReads.bind fun _ => Run.onlyReads_pure _

namespace Record

theorem stamp_onlyReads (record : Record) (traveler : Traveler) :
    Run.OnlyReads (record.stamp traveler : Run Memory Record) :=
  (TravelStamp.ofTraveler_onlyReads traveler).bind fun _ => Run.onlyReads_pure _

theorem travelStamp_onlyReads (record : Record) :
    Run.OnlyReads (record.travelStamp : Run Memory TravelStamp) := by
  have ambient : Run.OnlyReads
      (Ambient.traveler >>= TravelStamp.ofTraveler : Run Memory TravelStamp) :=
    Ambient.traveler_onlyReads.bind TravelStamp.ofTraveler_onlyReads
  unfold travelStamp
  cases record.depth with
  | none => exact ambient
  | some depth =>
      by_cases null : depth.isNull
      · simp only [if_pos null]
        exact ambient
      · simp only [if_neg null]
        exact Run.onlyReads_pure _

theorem line_onlyReads (record : Record) (format : LineFormat) :
    Run.OnlyReads (record.line format : Run Memory String) := by
  cases format with
  | json service version =>
      exact (Run.onlyReads_ofExcept _).bind fun _ => (Run.onlyReads_ofExcept _).bind fun _ =>
        record.travelStamp_onlyReads.bind fun _ => Run.onlyReads_pure _
  | text =>
      exact Run.onlyReads_world.bind fun _ => (Run.onlyReads_ofExcept _).bind fun _ =>
        record.travelStamp_onlyReads.bind fun _ => Run.onlyReads_pure _

end Record

namespace LogSystem

theorem handle_onlyReads (record : Record) (logs : LogSystem) (handler : Handler) :
    Run.OnlyReads (handle record logs handler : Run Memory (Record × LogSystem)) := by
  cases handler with
  | silent => exact Run.onlyReads_pure _
  | stream format =>
      exact Ambient.traveler_onlyReads.bind fun _ => (record.stamp_onlyReads _).bind fun stamped =>
        (stamped.line_onlyReads format).bind fun _ => Run.onlyReads_pure _
  | file path format _ _ =>
      exact Ambient.traveler_onlyReads.bind fun _ => (record.stamp_onlyReads _).bind fun stamped =>
        (stamped.line_onlyReads format).bind fun _ => Run.onlyReads_pure _

theorem handleAll_onlyReads (handlers : List Handler) (record : Record) (logs : LogSystem) :
    Run.OnlyReads (handleAll record logs handlers : Run Memory (Record × LogSystem)) := by
  induction handlers generalizing record logs with
  | nil => exact Run.onlyReads_pure _
  | cons handler rest inductionHypothesis =>
      exact (handle_onlyReads record logs handler).bind fun handled =>
        inductionHypothesis handled.1 handled.2

theorem emit_onlyReads (record : Record) (logs : LogSystem) :
    Run.OnlyReads (logs.emit record : Run Memory (Record × LogSystem)) := by
  unfold emit
  by_cases enabled : logs.isEnabled record.levelNumber
  · by_cases unhandled : logs.handlers.isEmpty
    · by_cases shown : levelNumber lastResortLevel ≤ record.levelNumber
      · simp only [enabled, unhandled, shown]
        exact (Run.onlyReads_ofExcept _).bind fun _ => Run.onlyReads_pure _
      · simp only [enabled, unhandled, shown]
        exact Run.onlyReads_pure _
    · simp only [enabled, unhandled]
      exact handleAll_onlyReads logs.handlers record logs
  · simp only [enabled]
    exact Run.onlyReads_pure _

end LogSystem

end VirtualClock
