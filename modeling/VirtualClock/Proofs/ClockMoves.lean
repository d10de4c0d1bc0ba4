import Mathlib.Algebra.Ring.Int.Defs
import VirtualClock.Clock
import VirtualClock.Proofs.Ordering
import VirtualClock.Proofs.TravelerOperations

/-!
# What a settable clock tells

A settable clock is given a reading and then moved by spans of time.  What it should tell
is the instant of the reading that it was given last, moved by all spans since then.  It
keeps its reading as a wall time in the zone it was given, and moves the wall time; so the
clock is right exactly as long as the offset of that zone stays what it was.  In a region
it is wrong across a step of the offset, and it forgets with the first move, even by
nothing, that its reading was the later one of a repeated hour.
-/

namespace VirtualClock

variable {Memory : Type}

theorem World.reading_setReading (world : World Memory) (clock : ClockKey) (reading : Moment) :
    (world.setReading clock reading).reading clock = reading := by
  unfold World.reading World.setReading
  rw [List.lookup_cons_self, Option.getD_some]

/-- Only in a region does the offset depend on the wall time. -/
theorem Moment.offset?_of_zone {left right : Moment} (same : left.zone = right.zone)
    (elsewhere : ∀ place, left.zone ≠ some (.region place)) : left.offset? = right.offset? := by
  have everywhere : ∀ zone, left.zone = some zone →
      zone.offsetAt left.wall left.fold = zone.offsetAt right.wall right.fold := by
    intro zone zoned
    cases zone with
    | region place => exact absurd zoned (elsewhere place)
    | _ => rfl
  unfold offset?
  rw [← same]
  exact Option.bind_congr everywhere

namespace Clock

/-- What can be done to a settable clock. -/
inductive Move where
  | set (reading : Value)
  | advance (amount : Value)

def Move.make (clock : ClockKey) : Move → Run Memory Unit
  | .set reading => Clock.set clock reading
  | .advance amount => Clock.advance clock amount

/-- Makes some moves one after the other; the first that fails stops them. -/
def makeAll (clock : ClockKey) : List Move → Run Memory Unit
  | [] => pure ()
  | move :: rest => do
    move.make clock
    makeAll clock rest

/-- What a clock was told: the reading it was given last and the spans it was moved by since. -/
structure Account where
  given : Moment
  spans : List Duration

namespace Account

variable {account : Account} {clock : ClockKey} {reading : Moment} {world after : World Memory}

def total (account : Account) : Int := (account.spans.map Duration.micros).sum

def note (account : Account) : Move → Account
  | .set (.moment moment) => ⟨moment, []⟩
  | .set _ => account
  | .advance amount =>
    match amount.toSpan with
    | .ok span => ⟨account.given, account.spans ++ [span]⟩
    | .error _ => account

def afterMoves (start : Moment) (moves : List Move) : Account := moves.foldl note ⟨start, []⟩

/-- The instant of the given reading, moved by all spans, is in the calendar, and is this one. -/
def Promises (account : Account) (utc : WallTime) : Prop :=
  account.given.instant?.map (· + account.total) = some utc.ticks

/-- The reading as the clock keeps it: the wall time is moved, and the fold is lost with the
first span. -/
structure Keeps (account : Account) (reading : Moment) : Prop where
  zone : reading.zone = account.given.zone
  wall : reading.wall.ticks = account.given.wall.ticks + account.total
  fold : reading.fold = (account.spans.isEmpty && account.given.fold)

theorem keeps_start (start : Moment) : Keeps ⟨start, []⟩ start where
  zone := rfl
  wall := by simp [total]
  fold := rfl

theorem total_append (account : Account) (span : Duration) :
    total ⟨account.given, account.spans ++ [span]⟩ = account.total + span.micros := by
  simp [total]

/-- One move keeps to the account. -/
theorem Keeps.make {move : Move} (keeps : account.Keeps (world.reading clock))
    (made : move.make clock world = (.ok (), after)) :
    (account.note move).Keeps (after.reading clock) := by
  cases move with
  | set value =>
      cases value with
      | moment moment =>
          change Clock.set clock (.moment moment) world = _ at made
          unfold Clock.set at made
          by_cases floating : moment.zone.isNone
          · simp only [if_pos floating, Run.fail_apply] at made
            cases made
          · simp only [if_neg floating, Run.modifyWorld_apply] at made
            cases made
            rw [World.reading_setReading]
            exact keeps_start moment
      | _ => cases made
  | advance amount =>
      change Clock.advance clock amount world = _ at made
      unfold Clock.advance at made
      rw [Run.ofExcept_bind] at made
      cases known : amount.toSpan with
      | error fault =>
          rw [known] at made
          cases made
      | ok span =>
          rw [known] at made
          simp only [Run.world_bind, Run.ofExcept_bind] at made
          cases moved : (world.reading clock).shift span with
          | error fault =>
              rw [moved] at made
              cases made
          | ok reading =>
              rw [moved] at made
              cases made
              have noted : account.note (.advance amount) =
                  ⟨account.given, account.spans ++ [span]⟩ := by
                simp only [note, known]
              obtain ⟨wall, shifted, rfl⟩ := Outcome.map_eq_ok_iff.mp moved
              have ticks := (WallTime.shift_eq_ok_iff _ wall span.micros).mp shifted
              rw [World.reading_setReading, noted]
              refine ⟨keeps.zone, ?_, by simp⟩
              rw [total_append]
              have kept := keeps.wall
              show wall.ticks = account.given.wall.ticks + (account.total + span.micros)
              omega

/-- So does a row of moves that all succeed. -/
theorem Keeps.makeAll {moves : List Move} (keeps : account.Keeps (world.reading clock))
    (made : makeAll clock moves world = (.ok (), after)) :
    (moves.foldl note account).Keeps (after.reading clock) := by
  -- the account and the world go on together, one move at a time
  induction moves generalizing account world with
  | nil =>
      cases made
      exact keeps
  | cons move rest inductionHypothesis =>
      unfold Clock.makeAll at made
      rcases first : move.make clock world with ⟨fault | ⟨⟩, middle⟩
      · rw [Run.bind_of_error first] at made
        cases made
      · rw [Run.bind_of_ok first] at made
        exact inductionHypothesis (keeps.make first) made

/-- The kept reading denotes the promised instant exactly at the offset of the given one. -/
theorem Keeps.denotes_iff {utc : WallTime} (keeps : account.Keeps reading)
    (promises : account.Promises utc) :
    reading.Denotes utc ↔ reading.offset? = account.given.offset? := by
  have kept := keeps.wall
  obtain ⟨instant, known, promised⟩ := Option.map_eq_some_iff.mp promises
  obtain ⟨givenOffset, givenKnown, denoted⟩ := Moment.instant?_eq_some_iff.mp known
  rw [givenKnown, Moment.denotes_iff]
  constructor
  · rintro ⟨offset, offsetKnown, placed⟩
    rw [offsetKnown]
    exact congrArg some (by omega)
  · intro sameOffset
    exact ⟨givenOffset, sameOffset, by omega⟩

end Account

end Clock

namespace Traveler

variable {traveler : Traveler} {world : World Memory} {utc : WallTime}

theorem exists_realNow_iff :
    (∃ now, traveler.realNow world = (.ok now, world) ∧ now.wall = utc) ↔
      (world.reading traveler.clock).Denotes utc := by
  have reads := traveler.realNow_onlyReads.apply world
  constructor
  · rintro ⟨now, read, rfl⟩
    by_cases aware : (world.reading traveler.clock).isAware
    · have converted := realNow_of_aware aware
      rw [read] at converted
      exact Moment.denotes_of_inUtc aware converted.symm
    · unfold realNow at read
      rw [Run.world_bind, if_neg aware] at read
      cases read
  · intro denotes
    obtain ⟨offset, known, _⟩ := Moment.denotes_iff.mp denotes
    have aware : (world.reading traveler.clock).isAware := by
      simp [Moment.isAware, known]
    obtain ⟨now, converted, same⟩ := Moment.inUtc_of_denotes world.system denotes
    refine ⟨now, ?_, same⟩
    rw [reads, realNow_of_aware aware, converted]

end Traveler

namespace Clock

variable {traveler : Traveler} {moves : List Move} {world after : World Memory}
  {account : Account} {reading : Moment}

/-- After moves that all succeed, the real time is what the clock was told, its last given
instant moved by all spans since then, exactly when there is such an instant and the offset of
the reading is still the one that was given; elsewhere the clock is wrong by the change of the
offset.  A clock that was not set in a region is never wrong. -/
theorem real_time_follows_clock_iff
    (made : makeAll traveler.clock moves world = (.ok (), after))
    (told : Account.afterMoves (world.reading traveler.clock) moves = account)
    (left : after.reading traveler.clock = reading) :
    account.Keeps reading ∧
    ((∃ now, traveler.realNow after = (.ok now, after) ∧ account.Promises now.wall) ↔
      (∃ utc, account.Promises utc) ∧ reading.offset? = account.given.offset?) ∧
    (∀ now utc givenOffset offset, traveler.realNow after = (.ok now, after) →
      account.Promises utc → account.given.offset? = some givenOffset →
      reading.offset? = some offset → now.wall.ticks = utc.ticks + (givenOffset - offset)) ∧
    ((∀ place, account.given.zone ≠ some (.region place)) →
      reading.offset? = account.given.offset?) := by
  have keeps : account.Keeps reading := by
    rw [← told, ← left]
    exact (Account.keeps_start _).makeAll made
  refine ⟨keeps, ?_, ?_, ?_⟩
  · constructor
    · rintro ⟨now, read, promises⟩
      have denotes := Traveler.exists_realNow_iff.mp ⟨now, read, rfl⟩
      rw [left] at denotes
      exact ⟨⟨now.wall, promises⟩, (keeps.denotes_iff promises).mp denotes⟩
    · rintro ⟨⟨utc, promises⟩, sameOffset⟩
      have denotes := (keeps.denotes_iff promises).mpr sameOffset
      rw [← left] at denotes
      obtain ⟨now, read, rfl⟩ := Traveler.exists_realNow_iff.mpr denotes
      exact ⟨now, read, promises⟩
  · intro now utc givenOffset offset read promises givenKnown known
    have denotes := Traveler.exists_realNow_iff.mp ⟨now, read, rfl⟩
    rw [left] at denotes
    have kept := keeps.wall
    obtain ⟨instant, instantKnown, promised⟩ := Option.map_eq_some_iff.mp promises
    obtain ⟨_, sameGiven, denoted⟩ := Moment.instant?_eq_some_iff.mp instantKnown
    obtain ⟨_, sameOffset, placed⟩ := Moment.denotes_iff.mp denotes
    cases givenKnown.symm.trans sameGiven
    cases known.symm.trans sameOffset
    omega
  · intro elsewhere
    apply Moment.offset?_of_zone keeps.zone
    rwa [keeps.zone]

/-! ### Moved by nothing -/

/-- A world whose clock was set to the later half past two in Berlin. -/
def laterHalfPastTwo : World Unit where
  system := .utc
  clocks := [(1, { Moment.halfPastTwo true with kind := .plain })]
  context := Context.empty 0
  journal := []
  memory := ()

def earlierHalfPastTwo : World Unit :=
  laterHalfPastTwo.setReading 1 { Moment.halfPastTwo false with kind := .plain }

def berliner : Traveler := ⟨1, 1, none⟩

theorem advance_by_nothing_turns_clock_back :
    ∃ before now : Moment,
      berliner.realNow laterHalfPastTwo = (.ok before, laterHalfPastTwo) ∧
      advance berliner.clock (.whole 0) laterHalfPastTwo = (.ok (), earlierHalfPastTwo) ∧
      berliner.realNow earlierHalfPastTwo = (.ok now, earlierHalfPastTwo) ∧
      before.wall = Moment.secondHalfPastTwo ∧ now.wall = Moment.firstHalfPastTwo := by
  obtain ⟨first, second⟩ := Moment.halfPastTwo_denotes
  have later : (laterHalfPastTwo.reading berliner.clock).Denotes Moment.secondHalfPastTwo := second
  have earlier : (earlierHalfPastTwo.reading berliner.clock).Denotes Moment.firstHalfPastTwo :=
    first
  obtain ⟨before, read, same⟩ := Traveler.exists_realNow_iff.mpr later
  obtain ⟨now, readAgain, sameAgain⟩ := Traveler.exists_realNow_iff.mpr earlier
  exact ⟨before, now, read, rfl, readAgain, same, sameAgain⟩

theorem clock_moved_by_nothing_breaks_promise :
    makeAll berliner.clock [.advance (.whole 0)] laterHalfPastTwo = (.ok (), earlierHalfPastTwo) ∧
    ∃ account,
      Account.afterMoves (laterHalfPastTwo.reading berliner.clock) [.advance (.whole 0)] = account ∧
      account.Promises Moment.secondHalfPastTwo ∧
      ¬∃ now, berliner.realNow earlierHalfPastTwo = (.ok now, earlierHalfPastTwo) ∧
        account.Promises now.wall := by
  have made : makeAll berliner.clock [.advance (.whole 0)] laterHalfPastTwo =
      (.ok (), earlierHalfPastTwo) := rfl
  have later : (laterHalfPastTwo.reading berliner.clock).instant? =
      some Moment.secondHalfPastTwo.ticks := Moment.halfPastTwo_denotes.2
  have turned : (earlierHalfPastTwo.reading berliner.clock).offset? ≠
      (laterHalfPastTwo.reading berliner.clock).offset? := by
    decide +kernel
  obtain ⟨_, follows, _⟩ := real_time_follows_clock_iff made rfl rfl
  refine ⟨made, _, rfl, congrArg (Option.map (· + (0 : Int))) later, ?_⟩
  intro kept
  exact turned (follows.mp kept).2

end Clock

end VirtualClock
