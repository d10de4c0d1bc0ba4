import VirtualClock.Proofs.NaiveTargets

/-!
# The day after a travel to a date

A date stands for its midnight.  The reading of a skipped midnight is pinned all the same,
at an instant that the zone shows later on, and as no zone skips more than a day at once,
it is shown on the same day: unless the whole day is skipped, and then no instant shows
the date at all.
-/

namespace VirtualClock

variable {Memory Result : Type} {system : ZoneRule} {zone : Option Zone}
  {midnight utc wall : WallTime} {date : CivilDate}

/-! ## Midnights and changes -/

namespace OffsetChange

/-- The last second of the calendar. -/
def lastSecond : Int := 253402300799

/-- The change skips less than a day, or exactly one, from its midnight to the next, which the
calendar still holds. -/
def KeepsDays (change : OffsetChange) : Prop :=
  change.after - change.before < 86400 ∨
    (change.after = change.before + 86400 ∧ 86400 ∣ change.second + change.before ∧
      change.second + change.after ≤ lastSecond)

instance (change : OffsetChange) : Decidable change.KeepsDays := by
  unfold KeepsDays
  infer_instance

/-- The second at which a midnight is shown when it is read without the fold. -/
def shownMidnight (change : OffsetChange) (wall : Int) : Int :=
  wall - change.readingAt wall false +
    change.offsetAt (wall - change.readingAt wall false)

/-- A midnight is shown on its day, or a day later and then nothing is shown on its day. -/
theorem KeepsDays.shownMidnight_cases {change : OffsetChange} (keeps : change.KeepsDays)
    {wall : Int} (isMidnight : 86400 ∣ wall) :
    (wall ≤ change.shownMidnight wall ∧ change.shownMidnight wall < wall + 86400) ∨
      (change.shownMidnight wall = wall + 86400 ∧ change.shownMidnight wall ≤ lastSecond ∧
        ∀ second, ¬(wall ≤ second + change.offsetAt second ∧
          second + change.offsetAt second < wall + 86400)) := by
  have late := change.wallSecond_false
  unfold KeepsDays at keeps
  unfold shownMidnight readingAt
  by_cases passed : change.wallSecond false ≤ wall
  · rw [if_pos passed, offsetAt_of_le (by omega)]
    omega
  · rw [if_neg passed]
    by_cases skipped : change.second ≤ wall - change.before
    · -- the midnight is skipped, and what is shown there comes after the change
      rw [offsetAt_of_le skipped]
      rcases keeps with short | ⟨whole, aligned, inCalendar⟩
      · omega
      · refine .inr ⟨by omega, by omega, fun second => ?_⟩
        unfold offsetAt
        split
        · omega
        · omega
    · rw [offsetAt_of_lt (by omega)]
      omega

end OffsetChange

/-! ## Regions -/

namespace Region

variable {region : Region} {wallSecond : Int}

/-- The rule reads the midnights in the two days after the last change as the history does. -/
def SettlesMidnights (region : Region) : Prop :=
  ∀ final ∈ region.changeList.getLast?, ∀ day ∈ ([0, 1, 2] : List Int), ∀ fold ∈ [false, true],
    final.wallSecond fold < (final.second / 86400 + day) * 86400 →
      region.rule.atWall ((final.second / 86400 + day) * 86400) fold = final.after

instance (region : Region) : Decidable region.SettlesMidnights := by
  unfold SettlesMidnights
  infer_instance

/-- The region is calm, also at midnights, and none of its changes breaks the days. -/
structure KeepsDays (region : Region) : Prop where
  calm : region.IsCalm
  mild : region.rule.IsMild
  recorded : ∀ change ∈ region.changeList, change.KeepsDays
  midnights : region.SettlesMidnights

instance (region : Region) : Decidable region.KeepsDays :=
  decidable_of_iff
    (region.IsCalm ∧ region.rule.IsMild ∧ (∀ change ∈ region.changeList, change.KeepsDays) ∧
      region.SettlesMidnights)
    ⟨fun ⟨calm, mild, recorded, midnights⟩ => ⟨calm, mild, recorded, midnights⟩,
      fun keeps => ⟨keeps.calm, keeps.mild, keeps.recorded, keeps.midnights⟩⟩

theorem KeepsDays.isSettled (keeps : region.KeepsDays) (isMidnight : 86400 ∣ wallSecond) :
    region.IsSettled wallSecond := by
  intro final isFinal soon fold later
  have within := isWithinDay_of_mem keeps.calm.orderly (List.mem_of_getLast? isFinal)
  have onWall := OffsetChange.wallSecond_within within fold
  obtain ⟨day, rfl⟩ := isMidnight
  obtain ⟨count, isCount⟩ : ∃ count, count = day - final.second / 86400 := ⟨_, rfl⟩
  have same : 86400 * day = (final.second / 86400 + count) * 86400 := by omega
  have listed : count ∈ ([0, 1, 2] : List Int) := by
    have few : count = 0 ∨ count = 1 ∨ count = 2 := by omega
    simpa using few
  have foldListed : fold ∈ [false, true] := by
    cases fold <;> simp
  rw [same] at later ⊢
  exact keeps.midnights final isFinal count listed fold foldListed later

/-- The change that governs a midnight does not break the days either. -/
theorem KeepsDays.exists_governing (keeps : region.KeepsDays) (isMidnight : 86400 ∣ wallSecond) :
    ∃ change, region.IsGovernedBy wallSecond change ∧ change.KeepsDays := by
  obtain ⟨change, governed⟩ := Region.exists_governing keeps.calm (keeps.isSettled isMidnight)
  refine ⟨change, governed, ?_⟩
  rcases governed.origin with (listed | steady) | ⟨before, after⟩
  · exact keeps.recorded change listed
  · exact .inl (by omega)
  · exact .inl (keeps.mild.difference before after).2

end Region

theorem Atlas.keepsDays_of_mem_excerpt : ∀ place ∈ excerptRegions, place.KeepsDays := by
  decide +kernel

/-! ## Travelling to a date -/

open Zone (ShowsAs Reads)

/-- Some instant shows the date in the zone, or in the local one. -/
def Zone.ShowsDate (system : ZoneRule) (zone : Option Zone) (date : CivilDate) : Prop :=
  ∃ utc wall, ShowsAs system zone utc wall ∧ wall.date = date

/-- The zone is universal time, counts its offset in whole seconds, or is a region that keeps
days. -/
def Zone.KeepsDays : Zone → Prop
  | .utc => True
  | .fixed offset _ => 1000000 ∣ offset
  | .region place => place.KeepsDays
  | .floating => False

/-- A wall time has the date of a midnight when its second lies in the day that follows. -/
theorem WallTime.date_eq_iff_seconds (opens : WallTime.midnight? date = some midnight) :
    wall.date = date ↔
      midnight.seconds ≤ wall.seconds ∧ wall.seconds < midnight.seconds + 86400 := by
  have begins := (WallTime.midnight?_eq_some opens).2
  rw [WallTime.date_eq_iff opens]
  unfold WallTime.seconds ticksPerSecond
  unfold ticksPerDay at *
  omega

theorem WallTime.seconds_of_midnight (opens : WallTime.midnight? date = some midnight) :
    86400 ∣ midnight.seconds ∧ midnight.ticks = (midnight.seconds + epochSeconds) * 1000000 := by
  have begins := (WallTime.midnight?_eq_some opens).2
  unfold WallTime.seconds ticksPerSecond epochSeconds
  unfold ticksPerDay at begins
  omega

namespace Traveler

variable {traveler : Traveler} {world after : World Memory} {day : Day} {anchor : Moment}

/-- A travel to a date pins the instant that its midnight is read as. -/
theorem pinned_of_day {trip : Trip Result} (grounded : traveler.zone ≠ some .floating)
    (travelled : traveler.travelTo (.day day) (.absent : TravelBody Memory Result) world =
      (.ok trip, after)) :
    ∃ (midnight : WallTime) (offset : Int) (instant : Moment),
      WallTime.midnight? day.date = some midnight ∧
      Reads world.system traveler.zone midnight false offset ∧
      midnight.ticks = instant.wall.ticks + offset ∧ instant.zone = some .utc ∧
      after = traveler.pinned instant.wholeSecond world := by
  obtain ⟨instant, found, rfl⟩ := pinned_of_travelTo travelled
  have zoned := zone_of_targetInstant found
  cases opens : WallTime.midnight? day.date with
  | none =>
      have missing : targetMoment (.day day) = .error .dateOutOfRange := by
        simp [targetMoment, opens]
      rw [targetInstant_eq, placedTarget, missing] at found
      cases found
  | some midnight =>
      have read : targetMoment (.day day) = .ok ⟨.plain, midnight, none, false⟩ := by
        simp [targetMoment, opens]
      obtain ⟨offset, reading, apart⟩ := reads_of_targetInstant read rfl grounded found
      exact ⟨midnight, offset, instant, rfl, reading, apart, zoned, rfl⟩

/-- The current date is that of the wall time that is shown at the anchor. -/
theorem today_pinned [Atlas] (zoned : anchor.zone = some .utc)
    (shows : ShowsAs world.system traveler.zone anchor.wall wall) :
    ∃ today, traveler.currentDay .calendarDate .nothing (traveler.pinned anchor world) =
      (.ok today, traveler.pinned anchor world) ∧ today.date = wall.date := by
  obtain ⟨offset, known, apart⟩ := Zone.showsAs_iff.mp shows
  obtain ⟨shown, shownThere, rfl⟩ := Zone.exists_inOptionalZone_of_ticks zoned known apart
  exact ⟨_, currentDay_pinned .calendarDate shownThere, rfl⟩

end Traveler

/-! ## What is shown after a midnight is read -/

namespace Zone

variable {offset : Int} {instant : WallTime}

/-- The instant shows a wall time that has the date exactly if some instant shows the date. -/
def ShowsIfAny (system : ZoneRule) (zone : Option Zone) (date : CivilDate) (instant : WallTime) :
    Prop :=
  ∃ wall, ShowsAs system zone instant wall ∧ (wall.date = date ↔ ShowsDate system zone date)

theorem showsIfAny_of_midnight (opens : WallTime.midnight? date = some midnight)
    (shows : ShowsAs system zone instant midnight) : ShowsIfAny system zone date instant := by
  have within : midnight.date = date := by
    rw [WallTime.date_eq_iff opens]
    unfold WallTime.ticksPerDay
    omega
  exact ⟨midnight, shows, iff_of_true within ⟨instant, midnight, shows, within⟩⟩

/-- The whole second of an instant that lies a midnight less whole seconds is that instant. -/
theorem wholeSecond_of_midnight {seconds : Int} (opens : WallTime.midnight? date = some midnight)
    (apart : midnight.ticks = instant.ticks + seconds * 1000000) :
    midnight.ticks = instant.wholeSecond.ticks + seconds * 1000000 := by
  have whole := (WallTime.seconds_of_midnight opens).2
  show midnight.ticks = instant.ticks - instant.ticks % 1000000 + seconds * 1000000
  omega

/-- A constant offset shows the midnight again. -/
theorem showsIfAny_of_constant (seconds : Int) (opens : WallTime.midnight? date = some midnight)
    (known : ∀ utc, shownOffset? system zone utc = some (seconds * 1000000))
    (apart : midnight.ticks = instant.ticks + seconds * 1000000) :
    ShowsIfAny system zone date instant.wholeSecond := by
  apply showsIfAny_of_midnight opens
  rw [showsAs_iff]
  exact ⟨_, known _, wholeSecond_of_midnight opens apart⟩

/-- If a midnight is not shown on its day, no instant shows its date. -/
theorem not_showsDate_of_governs {change : OffsetChange} {offsetOf : Int → Int}
    (opens : WallTime.midnight? date = some midnight)
    (governs : change.Governs offsetOf midnight.seconds)
    (within : ∀ second, IsWithinDay (offsetOf second))
    (known : ∀ utc, shownOffset? system zone utc = some (offsetOf utc.seconds * 1000000))
    (skipped : ∀ second, ¬(midnight.seconds ≤ second + change.offsetAt second ∧
      second + change.offsetAt second < midnight.seconds + 86400)) :
    ¬ShowsDate system zone date := by
  rintro ⟨utc, wall, shows, dated⟩
  obtain ⟨offset, same, apart⟩ := showsAs_iff.mp shows
  rw [known] at same
  cases same
  have shown := WallTime.seconds_add apart
  obtain ⟨begun, notOver⟩ := (WallTime.date_eq_iff_seconds opens).mp dated
  obtain ⟨west, east⟩ := within utc.seconds
  have offset := governs.offset utc.seconds (by omega) (by omega)
  apply skipped utc.seconds
  rw [← offset, ← shown]
  exact ⟨begun, notOver⟩

/-- The change that governs the midnight of a date decides which second is shown instead. -/
theorem showsIfAny_of_governs {change : OffsetChange} {offsetOf : Int → Int}
    (opens : WallTime.midnight? date = some midnight)
    (governs : change.Governs offsetOf midnight.seconds) (keeps : change.KeepsDays)
    (within : ∀ second, IsWithinDay (offsetOf second))
    (known : ∀ utc, shownOffset? system zone utc = some (offsetOf utc.seconds * 1000000))
    (apart : midnight.ticks =
      instant.ticks + change.readingAt midnight.seconds false * 1000000) :
    ShowsIfAny system zone date instant.wholeSecond := by
  obtain ⟨aligned, ticks⟩ := WallTime.seconds_of_midnight opens
  have dayEnds := WallTime.midnight_add_day_le opens
  have begins := midnight.nonneg
  have whole := wholeSecond_of_midnight opens apart
  have placed := WallTime.seconds_add whole
  obtain ⟨readWest, readEast⟩ := governs.isWithinDay_readingAt false
  have offset := governs.offset instant.wholeSecond.seconds (by omega) (by omega)
  -- the second that is shown, as the change has it
  have isShown : change.shownMidnight midnight.seconds = instant.wholeSecond.seconds +
      offsetOf instant.wholeSecond.seconds := by
    have second : midnight.seconds - change.readingAt midnight.seconds false =
        instant.wholeSecond.seconds := by
      omega
    rw [OffsetChange.shownMidnight, second, offset]
  have outcome := keeps.shownMidnight_cases aligned
  rw [isShown] at outcome
  have inCalendar : ∃ wall : WallTime, wall.ticks = instant.wholeSecond.ticks +
      offsetOf instant.wholeSecond.seconds * 1000000 := by
    unfold WallTime.ticksPerDay WallTime.limit at dayEnds
    unfold WallTime.epochSeconds at ticks
    unfold OffsetChange.lastSecond at outcome
    exact ⟨⟨_, by omega, by omega⟩, rfl⟩
  obtain ⟨wall, wallTicks⟩ := inCalendar
  have shows : ShowsAs system zone instant.wholeSecond wall :=
    showsAs_iff.mpr ⟨_, known _, wallTicks⟩
  have wallSeconds := WallTime.seconds_add wallTicks
  refine ⟨wall, shows, ?_⟩
  rcases outcome with onDay | ⟨dayLater, _, skipped⟩
  · have within : wall.date = date := by
      rw [WallTime.date_eq_iff_seconds opens, wallSeconds]
      exact onDay
    exact iff_of_true within ⟨_, wall, shows, within⟩
  · refine iff_of_false ?_ (not_showsDate_of_governs opens governs within known skipped)
    rw [WallTime.date_eq_iff_seconds opens, wallSeconds, dayLater]
    omega

/-- In a zone that keeps days the instant that a midnight is read as shows its date if any instant
does. -/
theorem KeepsDays.showsIfAny {place : Zone} (keeps : place.KeepsDays)
    (opens : WallTime.midnight? date = some midnight)
    (reading : Reads system (some place) midnight false offset)
    (apart : midnight.ticks = instant.ticks + offset) :
    ShowsIfAny system (some place) date instant.wholeSecond := by
  have read : place.offsetAt midnight false = some offset := reading
  cases place with
  | utc =>
      cases read
      exact showsIfAny_of_constant 0 opens (fun _ => rfl) apart
  | fixed micros label =>
      cases read
      obtain ⟨seconds, rfl⟩ := keeps
      rw [Int.mul_comm] at apart
      exact showsIfAny_of_constant seconds opens (fun _ => by rw [Int.mul_comm seconds]; rfl) apart
  | region place =>
      have keeps : place.KeepsDays := keeps
      obtain ⟨aligned, -⟩ := WallTime.seconds_of_midnight opens
      obtain ⟨change, governed, kept⟩ := keeps.exists_governing aligned
      have isRead : place.atWall midnight.seconds false * 1000000 = offset := Option.some.inj read
      rw [← isRead, governed.reads] at apart
      exact showsIfAny_of_governs opens governed.governs kept
        (fun second => Region.isWithinDay_atUtc keeps.calm.orderly second) (fun _ => rfl) apart
  | floating => cases keeps

/-- In the local zone a midnight that is shown is shown again. -/
theorem showsIfAny_of_local (opens : WallTime.midnight? date = some midnight)
    (shown : ShowsAs system none utc midnight)
    (reading : Reads system none midnight false offset)
    (apart : midnight.ticks = instant.ticks + offset) :
    ShowsIfAny system none date instant.wholeSecond := by
  have read : system.offsetOfWall midnight.seconds false = .ok offset := reading
  obtain ⟨second, found, same⟩ := Outcome.bind_eq_ok_iff.mp read
  obtain rfl : system.localOffset second * 1000000 = offset := Except.ok.inj same
  obtain ⟨known, isKnown, knownApart⟩ := showsAs_iff.mp shown
  cases isKnown
  have knownShows : system.ShowsLocally utc.seconds midnight.seconds :=
    (WallTime.seconds_add knownApart).symm
  have shows : second + system.localOffset second = midnight.seconds :=
    ZoneRule.showsLocally_of_utcSecondOf knownShows found
  have whole := wholeSecond_of_midnight opens apart
  have placed := WallTime.seconds_add whole
  have isSecond : instant.wholeSecond.seconds = second := by omega
  apply showsIfAny_of_midnight opens
  refine showsAs_iff.mpr ⟨_, rfl, ?_⟩
  rw [isSecond]
  exact whole

/-- The zone keeps days, or it is the local one and shows the midnight of the date. -/
def TakesDate (system : ZoneRule) (zone : Option Zone) (date : CivilDate) : Prop :=
  match zone with
  | some place => place.KeepsDays
  | none =>
    ∃ utc midnight, WallTime.midnight? date = some midnight ∧ ShowsAs system none utc midnight

theorem TakesDate.not_floating (takes : TakesDate system zone date) : zone ≠ some .floating := by
  rintro rfl
  cases takes

theorem TakesDate.showsIfAny (takes : TakesDate system zone date)
    (opens : WallTime.midnight? date = some midnight)
    (reading : Reads system zone midnight false offset)
    (apart : midnight.ticks = instant.ticks + offset) :
    ShowsIfAny system zone date instant.wholeSecond := by
  cases zone with
  | some place => exact KeepsDays.showsIfAny takes opens reading apart
  | none =>
      obtain ⟨utc, same, opensSame, shown⟩ := takes
      rw [opens] at opensSame
      cases opensSame
      exact showsIfAny_of_local opens shown reading apart

end Zone

/-- The current date right after a travel to a date. -/
def Traveler.todayAfter [Atlas] (traveler : Traveler) (day : Day) (world : World Unit) : Except Fault Day :=
  ((traveler.travelTo (.day day) (.absent : TravelBody Unit Unit) >>= fun _ =>
    traveler.currentDay .calendarDate .nothing) world).1

/-- A traveler in Samoa. -/
def inApia : Traveler := ⟨1, 1, some (.region Atlas.apia)⟩

/-- The 30th of December 2011, which Samoa skipped when it changed sides of the date line. -/
def skippedDay : Day := ⟨.plain, ⟨2011, 12, 30⟩⟩

/-- A traveler in Egypt. -/
def inCairo : Traveler := ⟨1, 1, some (.region Atlas.cairo)⟩

/-- The 26th of April 2024, which began at one in the morning in Egypt. -/
def lateDay : Day := ⟨.plain, ⟨2024, 4, 26⟩⟩

/-- When clocks in Egypt went from midnight to one in the morning. -/
def lateMorning : WallTime := ⟨63849679200000000, by decide, by decide⟩

theorem lateDay_isShown : Zone.ShowsDate .utc inCairo.zone lateDay.date := by
  have one : ∃ wall : WallTime, wall.ticks = lateMorning.ticks + 10800000000 ∧
      wall.date = lateDay.date :=
    ⟨⟨63849690000000000, by decide, by decide⟩, rfl, by decide +kernel⟩
  obtain ⟨wall, apart, dated⟩ := one
  exact ⟨lateMorning, wall, Zone.showsAs_iff.mpr ⟨_, by decide +kernel, apart⟩, dated⟩

end VirtualClock
