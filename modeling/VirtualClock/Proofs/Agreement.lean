import VirtualClock.Proofs.EffectiveInstant
import VirtualClock.Proofs.Ordering
import VirtualClock.Proofs.ShownInstants
import VirtualClock.Proofs.StackInvariant
import VirtualClock.Value.Comparison
import VirtualClock.Zone.Atlas

/-!
# The agreement of views

A timestamp, a date-time and a calendar date of one reading are three shapes of
one moment: the instant of the traveler, shown in the zone that is asked for.
Either that moment cannot be had, and every reading meets the same fault, or all
views of it agree with each other and with the instant.
-/

namespace VirtualClock

variable {Memory : Type}

theorem Run.ofExcept_map {First Second : Type} (outcome : Except Fault First)
    (form : First → Second) :
    (Run.ofExcept (outcome.map form) : Run Memory Second) =
      Run.ofExcept outcome >>= fun first => pure (form first) := by
  cases outcome <;> rfl

/-! ## One moment behind all readings -/

namespace Traveler

/-- In a world that can be reached, the instant of a traveler is in universal time. -/
theorem zone_of_instant {traveler : Traveler} {world : World Memory} {instant : Moment}
    (reachable : world.Reachable) (read : (traveler.instant world).1 = .ok instant) :
    instant.zone = some .utc := by
  cases top : (world.entries traveler.stack).getLast? with
  | none =>
      rw [instant_of_empty (List.getLast?_eq_none_iff.mp top)] at read
      exact zone_of_realNow read
  | some override =>
      rw [instant_of_getLast? top] at read
      cases read
      exact (reachable.wellStacked traveler.stack).pinned override (List.mem_of_getLast? top)

variable [Atlas]

/-- The instant of the traveler as the zone that is asked for shows it. -/
def showing (traveler : Traveler) (zone : Value) : Run Memory Moment := do
  let zone ← Run.ofExcept (traveler.displayZone zone)
  let instant ← traveler.instant
  let world ← Run.world
  Run.ofExcept (instant.inOptionalZone world.system zone)

theorem showing_onlyReads (traveler : Traveler) (zone : Value) :
    Run.OnlyReads (traveler.showing zone : Run Memory Moment) :=
  (Run.onlyReads_ofExcept _).bind fun _ => traveler.instant_onlyReads.bind fun _ =>
    Run.onlyReads_world.bind fun _ => Run.onlyReads_ofExcept _

theorem current_moment_eq (traveler : Traveler) (kind : MomentKind) (zone : Value) :
    (traveler.current (.moment kind) zone : Run Memory Reading) =
      traveler.showing zone >>= fun shown => pure (.moment (kind.shape shown)) := by
  simp only [current, currentMoment, showing, MomentKind.ofInstant_eq, Run.ofExcept_map,
    bind_assoc, pure_bind]

theorem current_day_eq (traveler : Traveler) (kind : DayKind) (zone : Value) :
    (traveler.current (.day kind) zone : Run Memory Reading) =
      traveler.showing zone >>= fun shown => pure (.day (shown.day kind)) := by
  simp only [current, currentDay, showing, DayKind.ofInstant, Run.ofExcept_map, bind_assoc,
    pure_bind]

/-- Every reading has the outcome of the one showing, in its own shape. -/
theorem current_moment_apply (traveler : Traveler) (kind : MomentKind) (zone : Value)
    (world : World Memory) :
    traveler.current (.moment kind) zone world =
      ((traveler.showing zone world).1.map fun shown => .moment (kind.shape shown), world) := by
  rw [current_moment_eq, Run.bind_pure_apply, traveler.showing_onlyReads zone world]

theorem current_day_apply (traveler : Traveler) (kind : DayKind) (zone : Value)
    (world : World Memory) :
    traveler.current (.day kind) zone world =
      ((traveler.showing zone world).1.map fun shown => .day (shown.day kind), world) := by
  rw [current_day_eq, Run.bind_pure_apply, traveler.showing_onlyReads zone world]

/-- What the zone that is asked for shows is the instant of the traveler. -/
theorem exists_instant_of_showing {traveler : Traveler} {world : World Memory} {zone : Value}
    {shown : Moment} (reachable : world.Reachable)
    (reads : ∀ place instant, traveler.displayZone zone = .ok (some (.region place)) →
      (traveler.instant world).1 = .ok instant → (Zone.region place).ReadsBack instant.wall)
    (shows : (traveler.showing zone world).1 = .ok shown) :
    ∃ instant, traveler.instant world = (.ok instant, world) ∧ instant.zone = some .utc ∧
      shown.Denotes instant.wall := by
  have whole := traveler.instant_onlyReads.apply world
  unfold showing at shows
  rw [Run.ofExcept_bind] at shows
  cases asked : traveler.displayZone zone with
  | error fault =>
      rw [asked] at shows
      cases shows
  | ok place =>
      rw [asked] at shows
      cases read : (traveler.instant world).1 with
      | error fault =>
          rw [read] at whole
          simp only [Run.bind_of_error whole] at shows
          cases shows
      | ok instant =>
          rw [read] at whole
          simp only [Run.bind_of_ok whole, Run.world_bind, Run.ofExcept_apply] at shows
          have utc := zone_of_instant reachable read
          refine ⟨instant, whole, utc, Moment.denotes_of_inOptionalZone utc ?_ shows⟩
          rintro named rfl
          refine Zone.readsBack_of_region ?_
          rintro region rfl
          exact reads region instant asked read

end Traveler

/-! ## The views of one reading -/

/-- The three views of a reading agree with each other, with the instant and with what they are
converted to. -/
structure ViewsAgree (system : ZoneRule) (instant stamp dateTime : Moment) (day : Day) : Prop where
  stamp_dateTime : stamp.equal dateTime = .ok true ∧ dateTime.equal stamp = .ok true
  stamp_instant : stamp.equal instant = .ok true ∧ instant.equal stamp = .ok true
  dateTime_instant : dateTime.equal instant = .ok true ∧ instant.equal dateTime = .ok true
  sameHash : ∃ key, stamp.hashKey = .ok key ∧ dateTime.hashKey = .ok key ∧ instant.hashKey = .ok key
  sameWall : stamp.wall = dateTime.wall
  sameOffset : ∃ offset, stamp.offset? = some offset ∧ dateTime.offset? = some offset
  toTimestamp : ∃ back, dateTime.toTimestamp system none = .ok back ∧ back.kind = .timestamp ∧
    back.equal stamp = .ok true
  toDateTime : ∃ back, stamp.toDateTime system = .ok back ∧ back.kind = .dateTime ∧
    back.equal dateTime = .ok true
  stamp_day : Value.equal (.day day) (.day stamp.toDate) = .ok true
  dateTime_day : Value.equal (.day day) (.day dateTime.toDate) = .ok true

namespace Moment

variable {shown instant moment : Moment} {utc : WallTime}

theorem exists_zone_of_denotes (denotes : moment.Denotes utc) :
    ∃ zone, moment.zone = some zone := by
  obtain ⟨offset, known, _⟩ := denotes_iff.mp denotes
  obtain ⟨zone, zoned, _⟩ := Option.bind_eq_some_iff.mp known
  exact ⟨zone, zoned⟩

/-- A date-time with an offset becomes the timestamp of its instant. -/
theorem exists_toTimestamp (system : ZoneRule) (denotes : moment.Denotes utc) :
    ∃ back, moment.toTimestamp system none = .ok back ∧ back.kind = .timestamp ∧
      back.Denotes utc := by
  obtain ⟨zone, zoned⟩ := exists_zone_of_denotes denotes
  refine ⟨moment.withKind .timestamp, ?_, rfl, denotes⟩
  simp [toTimestamp, zoned]

/-- A timestamp with an offset becomes the date-time of its instant. -/
theorem exists_toDateTime (system : ZoneRule) (denotes : moment.Denotes utc) :
    ∃ back, moment.toDateTime system = .ok back ∧ back.kind = .dateTime ∧ back.Denotes utc := by
  obtain ⟨offset, known, _⟩ := denotes_iff.mp denotes
  have aware : moment.isAware := by
    simp [isAware, known]
  refine ⟨moment.withFixedOffset.withKind .dateTime, ?_, rfl,
    denotes_withFixedOffset_iff.mpr denotes⟩
  unfold toDateTime
  rw [if_pos aware]
  rfl

end Moment

theorem Day.equal_of_date {left right : Day} (same : left.date = right.date) :
    Value.equal (.day left) (.day right) = .ok true := by
  simp [Value.equal, Value.scalarEqual, same, pure, Except.pure]

/-- Whatever denotes the instant gives views that agree. -/
theorem viewsAgree_of_denotes (system : ZoneRule) {instant shown : Moment}
    {stamps dateTimes : MomentKind} (days : DayKind) (stampView : stamps.isView)
    (dateTimeView : dateTimes.isView) (zoned : instant.zone = some .utc)
    (denotes : shown.Denotes instant.wall) :
    ViewsAgree system instant (stamps.shape shown) (dateTimes.shape shown) (shown.day days) := by
  have stampIsView : (stamps.shape shown).kind.isView := by
    rwa [MomentKind.kind_shape]
  have dateTimeIsView : (dateTimes.shape shown).kind.isView := by
    rwa [MomentKind.kind_shape]
  have stampDenotes := (stamps.denotes_shape_iff).mpr denotes
  have dateTimeDenotes := (dateTimes.denotes_shape_iff).mpr denotes
  have instantDenotes := Moment.denotes_of_utc zoned
  have sameInstant {left right : Moment} (view : left.kind.isView ∨ right.kind.isView)
      (leftDenotes : left.Denotes instant.wall) (rightDenotes : right.Denotes instant.wall) :
      left.equal right = .ok true ∧ right.equal left = .ok true :=
    ⟨Moment.equal_of_same_instant view leftDenotes rightDenotes,
      Moment.equal_of_same_instant view.symm rightDenotes leftDenotes⟩
  obtain ⟨offset, known, _⟩ := denotes.exists_offset
  exact {
    stamp_dateTime := sameInstant (.inl stampIsView) stampDenotes dateTimeDenotes
    stamp_instant := sameInstant (.inl stampIsView) stampDenotes instantDenotes
    dateTime_instant := sameInstant (.inl dateTimeIsView) dateTimeDenotes instantDenotes
    sameHash := ⟨_, Moment.hashKey_of_denotes stampIsView stampDenotes,
      Moment.hashKey_of_denotes dateTimeIsView dateTimeDenotes, Moment.hashKey_of_utc zoned⟩
    sameWall := by rw [MomentKind.wall_shape, MomentKind.wall_shape]
    sameOffset := ⟨offset, by rw [MomentKind.offset?_shape, known],
      by rw [MomentKind.offset?_shape, known]⟩
    toTimestamp := by
      obtain ⟨back, made, named, backDenotes⟩ := Moment.exists_toTimestamp system dateTimeDenotes
      exact ⟨back, made, named, (sameInstant (.inr stampIsView) backDenotes stampDenotes).1⟩
    toDateTime := by
      obtain ⟨back, made, named, backDenotes⟩ := Moment.exists_toDateTime system stampDenotes
      exact ⟨back, made, named, (sameInstant (.inr dateTimeIsView) backDenotes dateTimeDenotes).1⟩
    stamp_day := Day.equal_of_date (by simp [Moment.day, Moment.toDate])
    dateTime_day := Day.equal_of_date (by simp [Moment.day, Moment.toDate]) }

/-- A view of what is shown equals every other shape of it. -/
theorem MomentKind.equal_shape {first second : MomentKind} {shown : Moment} {utc : WallTime}
    (view : first.isView) (denotes : shown.Denotes utc) :
    (first.shape shown).equal (second.shape shown) = .ok true := by
  refine Moment.equal_of_same_instant (.inl ?_) ((first.denotes_shape_iff).mpr denotes)
    ((second.denotes_shape_iff).mpr denotes)
  rwa [kind_shape]

/-- The three readings of a traveler in a zone either all meet the same fault, whatever their
kinds, or all succeed: each has exactly the kind that was asked for, they agree with each other
and with the instant, and a derived kind reads what its base reads.  Where the zone is a region, it
has to read back the instant that it shows. -/
theorem readings_agree [Atlas] {traveler : Traveler} {zone : Value} {world : World Memory}
    {stamps dateTimes : MomentKind} (days : DayKind) (reachable : world.Reachable)
    (reads : ∀ place instant, traveler.displayZone zone = .ok (some (.region place)) →
      (traveler.instant world).1 = .ok instant → (Zone.region place).ReadsBack instant.wall)
    (stampFamily : stamps.family = .timestamp) (dateTimeFamily : dateTimes.family = .dateTime) :
    (∃ fault,
      (∀ kind, traveler.current (.moment kind) zone world = (.error fault, world)) ∧
      ∀ kind, traveler.current (.day kind) zone world = (.error fault, world)) ∨
    ∃ instant stamp dateTime day baseStamp baseDateTime baseDay,
      traveler.instant world = (.ok instant, world) ∧
      traveler.current (.moment stamps) zone world = (.ok (.moment stamp), world) ∧
      traveler.current (.moment dateTimes) zone world = (.ok (.moment dateTime), world) ∧
      traveler.current (.day days) zone world = (.ok (.day day), world) ∧
      stamp.kind = stamps ∧ dateTime.kind = dateTimes ∧ day.kind = days ∧
      ViewsAgree world.system instant stamp dateTime day ∧
      traveler.current (.moment .timestamp) zone world = (.ok (.moment baseStamp), world) ∧
      traveler.current (.moment .dateTime) zone world = (.ok (.moment baseDateTime), world) ∧
      traveler.current (.day .calendarDate) zone world = (.ok (.day baseDay), world) ∧
      stamp.equal baseStamp = .ok true ∧ dateTime.equal baseDateTime = .ok true ∧
      Value.equal (.day day) (.day baseDay) = .ok true := by
  have stampView : stamps.isView := by
    rw [MomentKind.isView, stampFamily]
    rfl
  have dateTimeView : dateTimes.isView := by
    rw [MomentKind.isView, dateTimeFamily]
    rfl
  simp only [Traveler.current_moment_apply, Traveler.current_day_apply]
  cases shows : (traveler.showing zone world).1 with
  | error fault => exact .inl ⟨fault, fun _ => rfl, fun _ => rfl⟩
  | ok shown =>
      obtain ⟨instant, read, zoned, denotes⟩ :=
        Traveler.exists_instant_of_showing reachable reads shows
      refine .inr ⟨instant, stamps.shape shown, dateTimes.shape shown, shown.day days,
        MomentKind.timestamp.shape shown, MomentKind.dateTime.shape shown,
        shown.day .calendarDate, read, rfl, rfl, rfl, stamps.kind_shape shown,
        dateTimes.kind_shape shown, rfl, ?_, rfl, rfl, rfl, ?_, ?_, ?_⟩
      · exact viewsAgree_of_denotes world.system days stampView dateTimeView zoned denotes
      · exact MomentKind.equal_shape stampView denotes
      · exact MomentKind.equal_shape dateTimeView denotes
      · exact Day.equal_of_date rfl

/-- A world in which nothing has happened, within an hour that clocks in Berlin repeat. -/
def repeatedHour : World Unit := World.start .utc [(1, .atUtc Moment.secondHalfPastTwo)] ()

theorem berlin_showUtc :
    (Zone.region Atlas.berlin).showUtc Moment.secondHalfPastTwo =
      .ok ((Moment.halfPastTwo true).wall, true) := by
  have winter : Atlas.berlin.atUtc Moment.secondHalfPastTwo.seconds = (3600, true) := by
    decide +kernel
  simp only [Zone.showUtc, winter]
  exact Outcome.map_eq_ok_iff.mpr ⟨_, (WallTime.shift_eq_ok_iff _ _ _).mpr rfl, rfl⟩

theorem berlin_readsBack :
    (Zone.region Atlas.berlin).ReadsBack Moment.secondHalfPastTwo := by
  intro wall fold shows
  rw [berlin_showUtc] at shows
  cases shows
  decide +kernel

theorem showing_in_repeated_hour :
    (hourEast.showing (.text "Europe/Berlin") repeatedHour).1 =
      .ok ((Moment.halfPastTwo true).withKind .plain) := by
  have asked : hourEast.displayZone (.text "Europe/Berlin") =
      .ok (some (.region Atlas.berlin)) := by
    rfl
  have read : hourEast.instant repeatedHour =
      (.ok (.atUtc Moment.secondHalfPastTwo), repeatedHour) := by
    rfl
  unfold Traveler.showing
  rw [asked, Run.ofExcept_bind]
  simp only [Run.bind_of_ok read, Run.world_bind, Run.ofExcept_apply]
  show (Moment.atUtc Moment.secondHalfPastTwo).inZone _ (.region Atlas.berlin) = _
  rw [Moment.inZone_of_utc _ rfl (by simp), Moment.atUtc, berlin_showUtc]
  rfl

/-- A traveler that is asked for Berlin there reads half past two, for the second time. -/
theorem readings_agree_in_repeated_hour :
    ∃ instant stamp dateTime day,
      hourEast.instant repeatedHour = (.ok instant, repeatedHour) ∧
      hourEast.current (.moment ⟨.timestamp, "AuditStamp"⟩) (.text "Europe/Berlin") repeatedHour =
        (.ok (.moment stamp), repeatedHour) ∧
      hourEast.current (.moment ⟨.dateTime, "LedgerTime"⟩) (.text "Europe/Berlin") repeatedHour =
        (.ok (.moment dateTime), repeatedHour) ∧
      hourEast.current (.day ⟨true, "BillingDate"⟩) (.text "Europe/Berlin") repeatedHour =
        (.ok (.day day), repeatedHour) ∧
      stamp.wall = (Moment.halfPastTwo true).wall ∧ stamp.fold = true ∧
      ViewsAgree .utc instant stamp dateTime day := by
  have reachable : repeatedHour.Reachable :=
    ⟨Process.start .utc [(1, .atUtc Moment.secondHalfPastTwo)] (), Context.empty 0,
      ⟨.utc, _, (), [], rfl⟩, List.mem_singleton.mpr rfl, rfl⟩
  have stamped :
      hourEast.current (.moment ⟨.timestamp, "AuditStamp"⟩) (.text "Europe/Berlin") repeatedHour =
        (.ok (.moment ((Moment.halfPastTwo true).withKind ⟨.timestamp, "AuditStamp"⟩)),
          repeatedHour) := by
    rw [Traveler.current_moment_apply, showing_in_repeated_hour]
    rfl
  have reads : ∀ place instant,
      hourEast.displayZone (.text "Europe/Berlin") = .ok (some (.region place)) →
      (hourEast.instant repeatedHour).1 = .ok instant →
        (Zone.region place).ReadsBack instant.wall := by
    intro place instant zoned known
    cases zoned
    cases known
    exact berlin_readsBack
  rcases readings_agree ⟨true, "BillingDate"⟩ reachable reads
      (rfl : (⟨.timestamp, "AuditStamp"⟩ : MomentKind).family = .timestamp)
      (rfl : (⟨.dateTime, "LedgerTime"⟩ : MomentKind).family = .dateTime) with
    ⟨fault, fails, _⟩ | ⟨instant, stamp, dateTime, day, _, _, _, known, stampRead, dateTimeRead,
      dayRead, _, _, _, agree, _⟩
  · have failed := fails ⟨.timestamp, "AuditStamp"⟩
    rw [stamped] at failed
    cases failed
  · have same := stampRead
    rw [stamped] at same
    cases same
    exact ⟨instant, _, dateTime, day, known, stampRead, dateTimeRead, dayRead, rfl, rfl, agree⟩

end VirtualClock
