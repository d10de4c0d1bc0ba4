import VirtualClock.Proofs.GoverningChanges
import VirtualClock.Zone.Local

/-!
# Readings in the local zone

A wall second is read in the local zone by a search with two candidate offsets.  As the
local zone alternates between two offsets at most, the search finds a second that shows
the wall second whenever there is one.  Where one change governs the wall second, and
steps back by no more than a day, it finds the second that the fold asks for.
-/

namespace VirtualClock

namespace ZoneRule

variable {system : ZoneRule} {wall second : Int} {fold : Bool}

/-- The local zone shows the wall second at the UTC second. -/
def ShowsLocally (system : ZoneRule) (second wall : Int) : Prop :=
  second + system.localOffset second = wall

theorem eq_of_shownAt {shown : Int} (shows : system.shownAt second = .ok shown) :
    shown = second + system.localOffset second := by
  unfold shownAt at shows
  dsimp only at shows
  split_ifs at shows
  cases shows
  rfl

/-! ## What the search finds -/

/-- The second candidate counts when it shows the wall second, then the first one when that does. -/
theorem settle_cases {candidate shown offset : Int}
    (settled : system.settle wall fold candidate shown offset = .ok second) :
    (system.ShowsLocally (wall - offset) wall ∧ second = wall - offset) ∨
      (¬system.ShowsLocally (wall - offset) wall ∧ (shown = wall → second = candidate)) := by
  unfold settle at settled
  obtain ⟨otherShown, shows, chosen⟩ := Outcome.bind_eq_ok_iff.mp settled
  have other := eq_of_shownAt shows
  unfold ShowsLocally
  rw [← other]
  by_cases found : otherShown = wall
  · rw [if_pos found] at chosen
    exact .inl ⟨found, (Except.ok.inj chosen).symm⟩
  · rw [if_neg found] at chosen
    refine .inr ⟨found, fun first => ?_⟩
    rw [if_pos first] at chosen
    exact (Except.ok.inj chosen).symm

/-- The second that is probed for another offset. -/
def probeOf (candidate : Int) (fold : Bool) : Int :=
  if fold then candidate + longestFold else candidate - longestFold

/-- The outcomes of the search.  The first candidate has the offset of the wall second itself.
If it shows the wall second, a probe a day away may give a second candidate; otherwise the
offset at the first candidate does. -/
theorem utcSecondOf_cases (found : system.utcSecondOf wall fold = .ok second) :
    ∃ candidate, candidate = wall - system.localOffset wall ∧
      ((system.ShowsLocally candidate wall ∧ ∃ other,
          other = wall - system.localOffset (probeOf candidate fold) ∧
          ((system.ShowsLocally other wall ∧ second = other) ∨
            (¬system.ShowsLocally other wall ∧ second = candidate))) ∨
        (¬system.ShowsLocally candidate wall ∧ ∃ other,
          other = wall - system.localOffset candidate ∧
          (system.ShowsLocally other wall → second = other))) := by
  unfold utcSecondOf at found
  obtain ⟨first, firstShows, found⟩ := Outcome.bind_eq_ok_iff.mp found
  have offset : first - wall = system.localOffset wall := by
    have isFirst := eq_of_shownAt firstShows
    omega
  dsimp only at found
  rw [offset] at found
  refine ⟨_, rfl, ?_⟩
  generalize isCandidate : wall - system.localOffset wall = candidate at found ⊢
  obtain ⟨shown, candidateShows, found⟩ := Outcome.bind_eq_ok_iff.mp found
  have isShown := eq_of_shownAt candidateShows
  by_cases shows : shown = wall
  · have showsCandidate : system.ShowsLocally candidate wall := isShown.symm.trans shows
    rw [if_pos shows] at found
    obtain ⟨probed, probeShows, found⟩ := Outcome.bind_eq_ok_iff.mp found
    change system.shownAt (probeOf candidate fold) = _ at probeShows
    have probeOffset : probed - probeOf candidate fold =
        system.localOffset (probeOf candidate fold) := by
      have isProbed := eq_of_shownAt probeShows
      omega
    change (if probed - probeOf candidate fold = _ then _ else
      system.settle wall fold candidate shown (probed - probeOf candidate fold)) = _ at found
    rw [probeOffset] at found
    refine .inl ⟨showsCandidate, _, rfl, ?_⟩
    by_cases same : system.localOffset (probeOf candidate fold) = system.localOffset wall
    · rw [if_pos same] at found
      obtain rfl : candidate = second := Except.ok.inj found
      rw [same, isCandidate]
      exact .inl ⟨showsCandidate, rfl⟩
    · rw [if_neg same] at found
      exact (settle_cases found).imp id fun ⟨other, first⟩ => ⟨other, first shows⟩
  · have hidden : ¬system.ShowsLocally candidate wall := by
      intro showsCandidate
      exact shows (isShown.trans showsCandidate)
    have candidateOffset : shown - candidate = system.localOffset candidate := by
      omega
    rw [if_neg shows, candidateOffset] at found
    refine .inr ⟨hidden, _, rfl, fun showsOther => ?_⟩
    rcases settle_cases found with ⟨_, same⟩ | ⟨other, _⟩
    · exact same
    · exact absurd showsOther other

/-! ## Shown wall seconds are found -/

theorem hasOffset_localOffset (system : ZoneRule) (second : Int) :
    system.HasOffset (system.localOffset second) :=
  system.hasOffset_atUtc _

/-- Of three offsets of a rule two are the same. -/
theorem HasOffset.two_of_three {first other third : Int} (firstKnown : system.HasOffset first)
    (otherKnown : system.HasOffset other) (thirdKnown : system.HasOffset third) :
    first = other ∨ first = third ∨ other = third := by
  unfold HasOffset at *
  cases changing : system.daylight with
  | none =>
      simp only [changing, Option.mem_def, reduceCtorEq, false_and, exists_false, or_false] at *
      exact .inl (firstKnown.trans otherKnown.symm)
  | some daylight =>
      simp only [changing, Option.mem_def, Option.some.injEq, exists_eq_left'] at *
      omega

/-- A wall second that is shown at all is found. -/
theorem showsLocally_of_utcSecondOf {known : Int} (shown : system.ShowsLocally known wall)
    (found : system.utcSecondOf wall fold = .ok second) : system.ShowsLocally second wall := by
  obtain ⟨candidate, isCandidate, ⟨shows, other, -, found⟩ | ⟨hidden, other, isOther, finds⟩⟩ :=
    utcSecondOf_cases found
  · rcases found with ⟨showsOther, rfl⟩ | ⟨_, rfl⟩
    · exact showsOther
    · exact shows
  · -- the offset that shows the wall second is not that of the wall second itself
    have offsets := HasOffset.two_of_three (system.hasOffset_localOffset wall)
      (system.hasOffset_localOffset candidate) (system.hasOffset_localOffset known)
    have isKnown : known = other := by
      unfold ShowsLocally at shown hidden
      rcases offsets with same | same | same
      · omega
      · have first : known = candidate := by omega
        rw [first] at shown
        exact absurd shown hidden
      · omega
    rw [isKnown] at shown
    rw [finds shown]
    exact shown

/-! ## Governed readings -/

/-- The rule changes in an orderly way, and by less than a day at a time. -/
structure IsMild (rule : ZoneRule) : Prop where
  orderly : rule.IsOrderly
  short : ∀ daylight ∈ rule.daylight, VirtualClock.IsWithinDay (daylight.offset - rule.offset)

instance (rule : ZoneRule) : Decidable rule.IsMild :=
  decidable_of_iff
    (rule.IsOrderly ∧
      ∀ daylight ∈ rule.daylight, VirtualClock.IsWithinDay (daylight.offset - rule.offset))
    ⟨fun ⟨orderly, short⟩ => ⟨orderly, short⟩, fun mild => ⟨mild.orderly, mild.short⟩⟩

theorem IsMild.difference {before after : Int} (mild : system.IsMild)
    (beforeKnown : system.HasOffset before) (afterKnown : system.HasOffset after) :
    VirtualClock.IsWithinDay (after - before) := by
  have short := mild.short
  unfold VirtualClock.IsWithinDay at *
  unfold HasOffset at *
  cases changing : system.daylight with
  | none =>
      simp only [changing, Option.mem_def, reduceCtorEq, false_and, exists_false, or_false] at *
      omega
  | some daylight =>
      simp only [changing, Option.mem_def, Option.some.injEq, exists_eq_left', forall_eq'] at *
      omega

/-- What is known of a change that governs a wall second of the local zone. -/
structure IsLocallyGovernedBy (system : ZoneRule) (wall : Int) (change : OffsetChange) : Prop where
  governs : change.Governs system.localOffset wall
  before : system.HasOffset change.before
  after : system.HasOffset change.after

/-- Each wall second of the local zone has a change that governs it.  Until 1970 there is none,
and the offset stays that of the first second of 1970. -/
theorem exists_locally_governing (orderly : system.IsOrderly) (wall : Int) :
    ∃ change, system.IsLocallyGovernedBy wall change := by
  obtain ⟨center, isCenter⟩ : ∃ center, center = max wall (2 * 86400 - 1) := ⟨_, rfl⟩
  have inCalendar : -WallTime.epochSeconds + 2 * 86400 ≤ center := by
    unfold WallTime.epochSeconds
    omega
  obtain ⟨change, ⟨governs, -⟩, before, after⟩ := exists_governing orderly inCalendar
  have offset : ∀ second, wall - 2 * 86400 < second → second < wall + 2 * 86400 →
      system.localOffset second = change.offsetAt (max second 0) := by
    intro second early late
    exact governs.offset (max second 0) (by omega) (by omega)
  by_cases begun : change.second ≤ 0
  · have steady : (OffsetChange.steady change.after).Governs system.localOffset wall := by
      apply OffsetChange.governs_steady governs.after
      intro second early late
      rw [offset second early late, OffsetChange.offsetAt_of_le (by omega)]
    exact ⟨_, steady, after, after⟩
  · refine ⟨change, ⟨governs.before, governs.after, fun second early late => ?_⟩, before, after⟩
    rw [offset second early late]
    unfold OffsetChange.offsetAt
    refine if_congr ?_ rfl rfl
    omega

/-- From a second at either side of a change, and no more than a day away from it, the probe
finds the offset at the side that the fold asks for. -/
theorem localOffset_probeOf {change : OffsetChange} (candidate : Int)
    (governs : change.Governs system.localOffset wall)
    (close : wall - 86400 < candidate ∧ candidate < wall + 86400)
    (near : change.second ≤ candidate + 86400 ∧ candidate < change.second + 86400) (fold : Bool) :
    system.localOffset (probeOf candidate fold) = if fold then change.after else change.before := by
  cases fold with
  | true =>
      have probe : probeOf candidate true = candidate + 86400 := rfl
      rw [probe, governs.offset _ (by omega) (by omega), OffsetChange.offsetAt_of_le (by omega)]
      rfl
  | false =>
      have probe : probeOf candidate false = candidate - 86400 := rfl
      rw [probe, governs.offset _ (by omega) (by omega), OffsetChange.offsetAt_of_lt (by omega)]
      rfl

/-- If a wall second is shown twice, the search finds the second that the fold asks for. -/
theorem utcSecondOf_of_twice {change : OffsetChange} {earlier late : Int}
    (governs : change.Governs system.localOffset wall)
    (short : change.before - change.after ≤ 86400) (order : earlier < late)
    (first : earlier + change.offsetAt earlier = wall) (again : late + change.offsetAt late = wall)
    (found : system.utcSecondOf wall fold = .ok second) :
    second = if fold then late else earlier := by
  obtain ⟨ahead, reached, isEarlier, isLate⟩ := OffsetChange.sides_of_twice order first again
  obtain ⟨beforeWest, beforeEast⟩ := governs.before
  obtain ⟨afterWest, afterEast⟩ := governs.after
  obtain ⟨candidate, isCandidate, outcome⟩ := utcSecondOf_cases found
  have isEither : candidate = earlier ∨ candidate = late := by
    rw [governs.offset wall (by omega) (by omega)] at isCandidate
    unfold OffsetChange.offsetAt at isCandidate
    split_ifs at isCandidate
    · exact .inr (isCandidate.trans isLate.symm)
    · exact .inl (isCandidate.trans isEarlier.symm)
  have shown : ∀ either, either = earlier ∨ either = late → system.ShowsLocally either wall := by
    rintro either (rfl | rfl)
    · unfold ShowsLocally
      rw [governs.offset _ (by omega) (by omega)]
      exact first
    · unfold ShowsLocally
      rw [governs.offset _ (by omega) (by omega)]
      exact again
  have probed := localOffset_probeOf candidate governs (by omega) (by omega) fold
  rcases outcome with ⟨_, other, isOther, found⟩ | ⟨hidden, _⟩
  · have wanted : other = if fold then late else earlier := by
      rw [isOther, probed, isLate, isEarlier]
      cases fold <;> rfl
    have showsOther : system.ShowsLocally other wall := by
      apply shown
      rw [wanted]
      cases fold with
      | true => exact .inr rfl
      | false => exact .inl rfl
    rcases found with ⟨_, rfl⟩ | ⟨hidden, _⟩
    · exact wanted
    · exact absurd showsOther hidden
  · exact absurd (shown candidate isEither) hidden

/-- A wall second that is shown is read as the change that governs it says. -/
theorem utcSecondOf_of_governs {change : OffsetChange} {known : Int}
    (within : system.IsWithinDay) (governs : change.Governs system.localOffset wall)
    (short : change.before - change.after ≤ 86400) (shown : system.ShowsLocally known wall)
    (found : system.utcSecondOf wall fold = .ok second) :
    second = wall - change.readingAt wall fold := by
  have offsetWithin : ∀ second, VirtualClock.IsWithinDay (system.localOffset second) :=
    fun second => isWithinDay_atUtc within _
  have shownBy := (governs.shows_iff (offsetWithin known)).mp shown
  have foundBy := (governs.shows_iff (offsetWithin second)).mp
    (showsLocally_of_utcSecondOf shown found)
  have again := OffsetChange.offsetAt_readingAt shownBy fold
  obtain ⟨wanted, isWanted⟩ : ∃ wanted, wanted = wall - change.readingAt wall fold := ⟨_, rfl⟩
  have wantedBy : wanted + change.offsetAt wanted = wall := by
    rw [isWanted, again]
    omega
  rw [← isWanted]
  -- two different seconds would be the two that the fold tells apart
  rcases Int.lt_trichotomy second wanted with before | same | after
  · have reading := OffsetChange.readingAt_of_twice before foundBy wantedBy fold
    have searched := utcSecondOf_of_twice governs short before foundBy wantedBy found
    exact searched.trans (isWanted.trans reading).symm
  · exact same
  · have reading := OffsetChange.readingAt_of_twice after wantedBy foundBy fold
    have searched := utcSecondOf_of_twice governs short after wantedBy foundBy found
    exact searched.trans (isWanted.trans reading).symm

/-- So the offset that it is read with is the one that the change says. -/
theorem offsetOfWall_of_governs {change : OffsetChange} {known offset : Int}
    (within : system.IsWithinDay) (governs : change.Governs system.localOffset wall)
    (short : change.before - change.after ≤ 86400) (shown : system.ShowsLocally known wall)
    (read : system.offsetOfWall wall fold = .ok offset) :
    offset = change.readingAt wall fold * 1000000 := by
  obtain ⟨second, found, same⟩ := Outcome.bind_eq_ok_iff.mp read
  obtain rfl : system.localOffset second * 1000000 = offset := Except.ok.inj same
  have shows : second + system.localOffset second = wall := showsLocally_of_utcSecondOf shown found
  have placed := utcSecondOf_of_governs within governs short shown found
  have offset : system.localOffset second = change.readingAt wall fold := by omega
  rw [offset]

end ZoneRule

end VirtualClock
