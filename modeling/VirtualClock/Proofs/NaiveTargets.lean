import VirtualClock.Proofs.CalmRegions
import VirtualClock.Proofs.LocalReadings
import VirtualClock.Proofs.TravelTargets

/-!
# Wall times are read back as they were written

A travel to a wall time without an offset shows that wall time again, to the whole
second, when the zone follows one timeline in what it shows and in what it reads and some
instant shows the wall time at all.  If two instants show it, the fold of the target says
which of them is pinned.

Calm regions follow a timeline, away from the days after their last change, and so does
the local zone wherever it shows a wall time.
-/

namespace VirtualClock

variable {Memory Result : Type} {system : ZoneRule} {zone : Option Zone} {wall : WallTime}

namespace Zone

/-! ## Zones that follow a timeline -/

/-- The zone goes by the timeline for a wall time: it has the offset of the timeline at every
instant at which either of them shows the wall time, and reads it as the timeline does. -/
structure Follows (system : ZoneRule) (zone : Option Zone) (line : Timeline) (wall : WallTime) :
    Prop where
  shows : ∀ utc, line.Shows utc.seconds wall.seconds ∨ ShowsAs system zone utc wall →
    shownOffset? system zone utc = some (line.offsetAt utc.seconds * 1000000)
  reads : ∀ fold offset, Reads system zone wall fold offset →
    offset = line.readingAt wall.seconds fold * 1000000

/-- The offsets of the zone are whole seconds.  A region and the local zone go by a timeline for
the wall time, in what they show and in what they read. -/
def KeepsTimeline (system : ZoneRule) (zone : Option Zone) (wall : WallTime) : Prop :=
  match zone with
  | some .utc => True
  | some (.fixed offset _) => 1000000 ∣ offset
  | some (.region _) | none => ∃ line, Follows system zone line wall
  | some .floating => False

/-- A fixed offset is a timeline on which nothing changes. -/
theorem follows_of_constant (seconds : Int)
    (shown : ∀ utc, shownOffset? system zone utc = some (seconds * 1000000))
    (read : ∀ fold offset, Reads system zone wall fold offset → offset = seconds * 1000000) :
    Follows system zone (.single (.steady seconds)) wall where
  shows := by
    intro utc _
    rw [shown, Timeline.offsetAt_single, OffsetChange.offsetAt_steady]
  reads := by
    intro fold offset reading
    rw [Timeline.readingAt_single, OffsetChange.readingAt_steady]
    exact read fold offset reading

theorem KeepsTimeline.exists_follows (keeps : KeepsTimeline system zone wall) :
    ∃ line, Follows system zone line wall := by
  cases zone with
  | none => exact keeps
  | some place =>
      cases place with
      | region place => exact keeps
      | floating => cases keeps
      | utc =>
          refine ⟨_, follows_of_constant 0 (fun _ => rfl) fun fold offset reading => ?_⟩
          cases reading
          exact (Int.zero_mul 1000000).symm
      | fixed micros label =>
          obtain ⟨seconds, rfl⟩ := keeps
          refine ⟨_, follows_of_constant seconds (fun _ => ?_) fun fold offset reading => ?_⟩
          · rw [Int.mul_comm]
            rfl
          · cases reading
            exact Int.mul_comm _ _

theorem KeepsTimeline.not_floating (keeps : KeepsTimeline system zone wall) :
    zone ≠ some .floating := by
  rintro rfl
  cases keeps

variable {line : Timeline} {utc : WallTime}

/-- What the zone shows at the wall time, the timeline shows at its second. -/
theorem Follows.line_shows (follows : Follows system zone line wall)
    (shown : ShowsAs system zone utc wall) :
    line.Shows utc.seconds wall.seconds ∧
      wall.ticks = utc.ticks + line.offsetAt utc.seconds * 1000000 := by
  have known := follows.shows utc (.inr shown)
  obtain ⟨offset, same, apart⟩ := showsAs_iff.mp shown
  rw [known] at same
  cases same
  exact ⟨(WallTime.seconds_add apart).symm, apart⟩

/-- An instant that is found by reading a shown wall time shows it. -/
theorem Follows.reading_shows {fold : Bool} {offset : Int} {instant known : WallTime}
    (follows : Follows system zone line wall) (shown : ShowsAs system zone known wall)
    (reading : Reads system zone wall fold offset) (apart : wall.ticks = instant.ticks + offset) :
    instant.seconds = wall.seconds - line.readingAt wall.seconds fold ∧
      shownOffset? system zone instant = some offset := by
  have read := follows.reads fold offset reading
  rw [read] at apart ⊢
  have placed := WallTime.seconds_add apart
  have back := Timeline.shows_reading (follows.line_shows shown).1 fold
  have found : instant.seconds = wall.seconds - line.readingAt wall.seconds fold := by omega
  rw [← found] at back
  refine ⟨found, ?_⟩
  have offset : line.offsetAt instant.seconds = line.readingAt wall.seconds fold := by
    unfold Timeline.Shows at back
    omega
  rw [follows.shows instant (.inl back), offset]

/-- If the wall time is shown twice, reading it finds the instant that the fold asks for. -/
theorem Follows.reading_of_twice {fold : Bool} {instant earlier later : WallTime}
    (follows : Follows system zone line wall)
    (found : instant.seconds = wall.seconds - line.readingAt wall.seconds fold)
    (order : earlier.ticks < later.ticks) (first : ShowsAs system zone earlier wall)
    (again : ShowsAs system zone later wall) :
    instant.wholeSecond = (if fold then later else earlier).wholeSecond := by
  obtain ⟨firstShows, firstApart⟩ := follows.line_shows first
  obtain ⟨againShows, againApart⟩ := follows.line_shows again
  have secondOrder : earlier.seconds < later.seconds := by
    unfold Timeline.Shows at firstShows againShows
    omega
  have picked := Timeline.reading_of_twice secondOrder firstShows againShows fold
  apply WallTime.wholeSecond_eq_of_seconds
  rw [found, picked]
  cases fold <;> rfl

/-! ## What follows a timeline -/

/-- A zone that one change governs goes by the timeline of that change. -/
theorem follows_of_governs {change : OffsetChange} {offsetOf : Int → Int}
    (governs : change.Governs offsetOf wall.seconds)
    (within : ∀ second, IsWithinDay (offsetOf second))
    (shown : ∀ utc, shownOffset? system zone utc = some (offsetOf utc.seconds * 1000000))
    (read : ∀ fold offset, Reads system zone wall fold offset →
      offset = change.readingAt wall.seconds fold * 1000000) :
    Follows system zone (.single change) wall where
  shows := by
    intro utc either
    have showsIff := governs.shows_iff (within utc.seconds)
    have shows : utc.seconds + offsetOf utc.seconds = wall.seconds := by
      rcases either with onLine | shows
      · exact showsIff.mpr onLine
      · obtain ⟨offset, known, apart⟩ := showsAs_iff.mp shows
        rw [shown] at known
        cases known
        exact (WallTime.seconds_add apart).symm
    have same : offsetOf utc.seconds = change.offsetAt utc.seconds := by
      have shownBy := showsIff.mp shows
      omega
    rw [shown, same, Timeline.offsetAt_single]
  reads := read

theorem keepsTimeline_of_isCalm (system : ZoneRule) {place : Region} (calm : place.IsCalm)
    (settled : place.IsSettled wall.seconds) :
    KeepsTimeline system (some (.region place)) wall := by
  obtain ⟨change, governed⟩ := Region.exists_governing calm settled
  refine ⟨_, follows_of_governs governed.governs
    (fun second => Region.isWithinDay_atUtc calm.orderly second) (fun _ => rfl)
    fun fold offset reading => ?_⟩
  have read : place.atWall wall.seconds fold * 1000000 = offset := Option.some.inj reading
  rw [← read, governed.reads]

/-- The local zone keeps to a timeline wherever it shows the wall time. -/
theorem keepsTimeline_of_isMild (mild : system.IsMild)
    (shown : ∃ utc, ShowsAs system none utc wall) : KeepsTimeline system none wall := by
  obtain ⟨change, governed⟩ := ZoneRule.exists_locally_governing mild.orderly wall.seconds
  have within : ∀ second, IsWithinDay (system.localOffset second) :=
    fun second => ZoneRule.isWithinDay_atUtc mild.orderly.1 _
  have difference := mild.difference governed.after governed.before
  obtain ⟨utc, shows⟩ := shown
  refine ⟨_, follows_of_governs governed.governs within (fun _ => rfl)
    fun fold offset reading => ?_⟩
  obtain ⟨known, same, apart⟩ := showsAs_iff.mp shows
  cases same
  have showsLocally : system.ShowsLocally utc.seconds wall.seconds :=
    (WallTime.seconds_add apart).symm
  exact ZoneRule.offsetOfWall_of_governs mild.orderly.1 governed.governs (by
    obtain ⟨west, east⟩ := difference
    omega) showsLocally reading

end Zone

/-! ## Travelling to a wall time -/

open Zone (ShowsAs KeepsTimeline)

/-- A traveler that shows the time of the local zone. -/
def localTraveler : Traveler := ⟨1, 1, none⟩

/-- A traveler in Berlin. -/
def inBerlin : Traveler := ⟨1, 1, some (.region Atlas.berlin)⟩

/-- Half past two and half a second on the day on which summer time ended in 2024, read for the
second time. -/
def secondOfTwo : Moment := ⟨.plain, ⟨63865593000500000, by decide, by decide⟩, none, true⟩

/-- The two instants that show it in central Europe, an hour apart. -/
def summerInstant : WallTime := ⟨63865585800500000, by decide, by decide⟩

def winterInstant : WallTime := ⟨63865589400500000, by decide, by decide⟩

/-- Both instants show the second half past two. -/
def ShowsTwice (system : ZoneRule) (zone : Option Zone) : Prop :=
  ShowsAs system zone summerInstant secondOfTwo.wall ∧
    ShowsAs system zone winterInstant secondOfTwo.wall

theorem showsTwice_in_central_europe :
    ShowsTwice Atlas.berlin.rule none ∧ ShowsTwice .utc inBerlin.zone := by
  refine ⟨⟨?_, ?_⟩, ?_, ?_⟩
  · rw [Zone.showsAs_iff]
    exact ⟨7200000000, by decide +kernel, rfl⟩
  · rw [Zone.showsAs_iff]
    exact ⟨3600000000, by decide +kernel, rfl⟩
  · rw [Zone.showsAs_iff]
    exact ⟨7200000000, by decide +kernel, rfl⟩
  · rw [Zone.showsAs_iff]
    exact ⟨3600000000, by decide +kernel, rfl⟩

/-- The traveler goes to the second half past two, and that is what it shows there. -/
def ReadsSecondOfTwo [Atlas] (traveler : Traveler) (world : World Unit) : Prop :=
  ∃ (trip : Trip Unit) (after : World Unit) (anchor now : Moment),
    traveler.travelTo (.moment secondOfTwo) .absent world = (.ok trip, after) ∧
    traveler.instant after = (.ok anchor, after) ∧
    traveler.currentMoment .timestamp .nothing after = (.ok now, after) ∧
    now.wall = secondOfTwo.wall.wholeSecond ∧ anchor.wall = winterInstant.wholeSecond

end VirtualClock
