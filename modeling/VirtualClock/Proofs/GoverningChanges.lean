import VirtualClock.Proofs.Timelines

/-!
# The change that governs a wall second

Changes of offset are rare: within two days of a wall second a yearly rule has one at
most, and so has a region whose history is calm.  That change alone decides which
offset is in force around the wall second and which one it is read with.
-/

namespace VirtualClock

variable {wall second : Int}

namespace OffsetChange

variable {change : OffsetChange} {offsetOf : Int → Int} {offset : Int}

/-- Both offsets of the change are shorter than a day. -/
def IsWithinDay (change : OffsetChange) : Prop :=
  VirtualClock.IsWithinDay change.before ∧ VirtualClock.IsWithinDay change.after

theorem wallSecond_within (within : change.IsWithinDay) (fold : Bool) :
    change.second - 86400 < change.wallSecond fold ∧
      change.wallSecond fold < change.second + 86400 := by
  obtain ⟨⟨beforeWest, beforeEast⟩, afterWest, afterEast⟩ := within
  cases fold with
  | true =>
      rw [wallSecond_true]
      omega
  | false =>
      rw [wallSecond_false]
      omega

/-- Within two days of the wall second the offsets are those before and after one change, and
shorter than a day. -/
structure Governs (change : OffsetChange) (offsetOf : Int → Int) (wall : Int) : Prop where
  before : VirtualClock.IsWithinDay change.before
  after : VirtualClock.IsWithinDay change.after
  offset : ∀ second, wall - 2 * 86400 < second → second < wall + 2 * 86400 →
    offsetOf second = change.offsetAt second

theorem governs_steady (within : VirtualClock.IsWithinDay offset)
    (same : ∀ second, wall - 2 * 86400 < second → second < wall + 2 * 86400 →
      offsetOf second = offset) : (steady offset).Governs offsetOf wall where
  before := within
  after := within
  offset := by
    intro second early late
    rw [offsetAt_steady]
    exact same second early late

theorem Governs.isWithinDay (governs : change.Governs offsetOf wall) (second : Int) :
    VirtualClock.IsWithinDay (change.offsetAt second) := by
  unfold offsetAt
  split
  · exact governs.after
  · exact governs.before

theorem Governs.isWithinDay_readingAt (governs : change.Governs offsetOf wall) (fold : Bool) :
    VirtualClock.IsWithinDay (change.readingAt wall fold) := by
  unfold readingAt
  split
  · exact governs.after
  · exact governs.before

/-- The seconds that show the wall second are those that the change shows it at. -/
theorem Governs.shows_iff (governs : change.Governs offsetOf wall)
    (within : VirtualClock.IsWithinDay (offsetOf second)) :
    second + offsetOf second = wall ↔ second + change.offsetAt second = wall := by
  obtain ⟨west, east⟩ := within
  obtain ⟨changeWest, changeEast⟩ := governs.isWithinDay second
  constructor
  · intro shows
    rw [← governs.offset second (by omega) (by omega)]
    exact shows
  · intro shows
    rw [governs.offset second (by omega) (by omega)]
    exact shows

end OffsetChange

/-! ## Between two dates

Of the two dates in a year one is that on which daylight time begins.  The offset turns close
to each date, but not just then: a date is a wall time.
-/

/-- Less than two days lie between each turn and its date. -/
def TurnsNear (turns dates : Bool → Int) : Prop :=
  ∀ begins, dates begins - 2 * 86400 < turns begins ∧ turns begins < dates begins + 2 * 86400

/-- The two dates lie far apart. -/
def FarApart (dates : Bool → Int) : Prop :=
  dates true + 20 * 86400 ≤ dates false ∨ dates false + 20 * 86400 ≤ dates true

/-- Less than four days lie between a wall second and a date. -/
def IsNear (wall date : Int) : Prop := date - 4 * 86400 < wall ∧ wall < date + 4 * 86400

/-- Near a date only the turn of that date decides what is between the turns. -/
theorem isBetween_of_near {turns dates : Bool → Int} (apart : FarApart dates)
    (turning : TurnsNear turns dates) {begins : Bool} (near : IsNear wall (dates begins))
    (close : wall - 2 * 86400 < second ∧ second < wall + 2 * 86400) :
    isBetween (turns true) (turns false) second = begins ↔ turns begins ≤ second := by
  have opening := turning true
  have closing := turning false
  unfold FarApart at apart
  unfold IsNear at near
  cases begins with
  | true =>
      rw [isBetween_iff]
      split <;> omega
  | false =>
      rw [← Bool.not_eq_true, isBetween_iff]
      split <;> omega

/-- Away from both dates it does not matter where exactly the turns and the second lie. -/
theorem isBetween_of_away {turns others dates : Bool → Int} (apart : FarApart dates)
    (turning : TurnsNear turns dates) (otherTurning : TurnsNear others dates)
    (away : ∀ begins, ¬IsNear wall (dates begins))
    (close : wall - 2 * 86400 < second ∧ second < wall + 2 * 86400) :
    isBetween (turns true) (turns false) second = isBetween (others true) (others false) wall := by
  have opening := turning true
  have closing := turning false
  have otherOpening := otherTurning true
  have otherClosing := otherTurning false
  have start := away true
  have finish := away false
  unfold FarApart at apart
  unfold IsNear at start finish
  rw [Bool.eq_iff_iff, isBetween_iff, isBetween_iff]
  split_ifs <;> omega

/-! ## Changes of a yearly rule -/

/-- The second in a year at which daylight time begins on the wall, or at which it ends. -/
def DaylightRule.dateIn (daylight : DaylightRule) (year : Nat) : Bool → Int
  | true => daylight.start.secondIn year
  | false => daylight.finish.secondIn year

namespace ZoneRule

variable {rule : ZoneRule} {daylight : DaylightRule}

/-- The offset is one of those that the rule alternates between. -/
def HasOffset (rule : ZoneRule) (offset : Int) : Prop :=
  offset = rule.offset ∨ ∃ daylight ∈ rule.daylight, offset = daylight.offset

theorem HasOffset.isWithinDay {offset : Int} (known : rule.HasOffset offset)
    (within : rule.IsWithinDay) : VirtualClock.IsWithinDay offset := by
  rcases known with rfl | ⟨daylight, changing, rfl⟩
  · exact within.1
  · exact within.2 daylight changing

theorem hasOffset_atUtc (rule : ZoneRule) (second : Int) :
    rule.HasOffset (rule.atUtc second).1 := by
  cases changing : rule.daylight with
  | none =>
      rw [atUtc_of_steady changing]
      exact .inl rfl
  | some daylight =>
      rw [atUtc_of_daylight changing]
      dsimp only
      split
      · exact .inr ⟨daylight, changing, rfl⟩
      · exact .inl rfl

/-- The change in a year with which daylight time begins, or with which it ends. -/
def changeIn (rule : ZoneRule) (daylight : DaylightRule) (year : Nat) : Bool → OffsetChange
  | true => ⟨daylight.start.secondIn year - rule.offset, rule.offset, daylight.offset⟩
  | false => ⟨daylight.finish.secondIn year - daylight.offset, daylight.offset, rule.offset⟩

theorem hasOffset_changeIn (changing : rule.daylight = some daylight) (year : Nat)
    (begins : Bool) :
    rule.HasOffset (rule.changeIn daylight year begins).before ∧
      rule.HasOffset (rule.changeIn daylight year begins).after := by
  have known : rule.HasOffset daylight.offset := .inr ⟨daylight, changing, rfl⟩
  cases begins with
  | true => exact ⟨.inl rfl, known⟩
  | false => exact ⟨known, .inl rfl⟩

/-- Daylight time is in force between the two changes. -/
theorem isDaylight_eq (rule : ZoneRule) (daylight : DaylightRule) (second : Int) :
    rule.isDaylight daylight second =
      isBetween (rule.changeIn daylight (yearOfSecond second) true).second
        (rule.changeIn daylight (yearOfSecond second) false).second second :=
  rfl

/-- Daylight time is read between the two changes as they stand on the wall. -/
theorem isWallDaylight_eq (rule : ZoneRule) (daylight : DaylightRule) (wall : Int) (fold : Bool) :
    rule.isWallDaylight daylight wall fold =
      isBetween ((rule.changeIn daylight (yearOfSecond wall) true).wallSecond fold)
        ((rule.changeIn daylight (yearOfSecond wall) false).wallSecond fold) wall := by
  rw [Bool.eq_iff_iff, isWallDaylight_iff]
  unfold changeIn
  generalize daylight.start.secondIn (yearOfSecond wall) = start
  generalize daylight.finish.secondIn (yearOfSecond wall) = finish
  generalize rule.offset = standard
  generalize daylight.offset = saving
  cases fold with
  | true =>
      rw [OffsetChange.wallSecond_true, OffsetChange.wallSecond_true]
      dsimp only
      by_cases gains : 0 ≤ saving - standard
      · have opens : start - standard + min standard saving = start := by omega
        have closes : finish - saving + min saving standard =
            finish - (saving - standard) := by omega
        rw [if_pos (iff_of_true rfl gains), opens, closes]
      · have opens : start - standard + min standard saving =
            start + (saving - standard) := by omega
        have closes : finish - saving + min saving standard = finish := by omega
        rw [if_neg (fun agrees => gains (agrees.mp rfl)), opens, closes]
  | false =>
      rw [OffsetChange.wallSecond_false, OffsetChange.wallSecond_false]
      dsimp only
      by_cases gains : 0 ≤ saving - standard
      · have opens : start - standard + max standard saving =
            start + (saving - standard) := by omega
        have closes : finish - saving + max saving standard = finish := by omega
        rw [if_neg (fun agrees => Bool.false_ne_true (agrees.mpr gains)), opens, closes]
      · have opens : start - standard + max standard saving = start := by omega
        have closes : finish - saving + max saving standard =
            finish - (saving - standard) := by omega
        rw [if_pos (iff_of_false Bool.false_ne_true gains), opens, closes]

/-! ## Where the changes of a rule lie -/

theorem farApart_dates (orderly : daylight.IsOrderly) (year : Nat) :
    FarApart (daylight.dateIn year) :=
  DaylightRule.secondIn_order orderly year

/-- Both changes of a year come close to their dates, in universal time and on the wall. -/
theorem turnsNear_changeIn (within : rule.IsWithinDay) (changing : rule.daylight = some daylight)
    (year : Nat) :
    TurnsNear (fun begins => (rule.changeIn daylight year begins).second) (daylight.dateIn year) ∧
      ∀ fold, TurnsNear (fun begins => (rule.changeIn daylight year begins).wallSecond fold)
        (daylight.dateIn year) := by
  have close : ∀ begins,
      daylight.dateIn year begins - 86400 < (rule.changeIn daylight year begins).second ∧
        (rule.changeIn daylight year begins).second < daylight.dateIn year begins + 86400 := by
    obtain ⟨standardWest, standardEast⟩ := within.1
    obtain ⟨daylightWest, daylightEast⟩ := within.2 daylight changing
    intro begins
    unfold changeIn DaylightRule.dateIn
    cases begins with
    | true =>
        dsimp only
        omega
    | false =>
        dsimp only
        omega
  constructor
  · intro begins
    have second := close begins
    dsimp only
    omega
  · intro fold begins
    have second := close begins
    obtain ⟨before, after⟩ := hasOffset_changeIn changing year begins
    have onWall := OffsetChange.wallSecond_within
      ⟨before.isWithinDay within, after.isWithinDay within⟩ fold
    dsimp only
    omega

/-- Near a date all seconds belong to the year of the date. -/
theorem yearOfSecond_of_near (orderly : daylight.IsOrderly) {year : Nat} (positive : 1 ≤ year)
    {begins : Bool} (near : IsNear wall (daylight.dateIn year begins))
    (close : wall - 2 * 86400 < second ∧ second < wall + 2 * 86400) :
    yearOfSecond second = year := by
  have bounds : yearStart year + 30 * 86400 ≤ daylight.dateIn year begins ∧
      daylight.dateIn year begins + 30 * 86400 ≤ yearStart (year + 1) := by
    cases begins with
    | true => exact RuleDate.secondIn_bounds orderly.1 positive
    | false => exact RuleDate.secondIn_bounds orderly.2.1 positive
  unfold IsNear at near
  exact yearOfSecond_eq (by omega) (by omega)

/-! ## The governing change of a rule -/

/-- A change governs a wall second of the rule and the reading of that wall second. -/
def IsGovernedBy (rule : ZoneRule) (wall : Int) (change : OffsetChange) : Prop :=
  change.Governs (fun second => (rule.atUtc second).1) wall ∧
    ∀ fold, rule.atWall wall fold = change.readingAt wall fold

/-- Where daylight time has begun, or ended, exactly once the change is reached, the offset is
that of the change. -/
theorem offset_of_turned {year : Nat} {begins isDaylight : Bool} {reached : Prop}
    [Decidable reached] (turned : isDaylight = begins ↔ reached) :
    (if isDaylight then daylight.offset else rule.offset) =
      if reached then (rule.changeIn daylight year begins).after
      else (rule.changeIn daylight year begins).before := by
  by_cases passed : reached
  · rw [if_pos passed, turned.mpr passed]
    cases begins <;> rfl
  · have other : isDaylight = !begins := Bool.eq_not_of_ne fun same => passed (turned.mp same)
    rw [if_neg passed, other]
    cases begins <;> rfl

/-- Near one of its dates the rule is governed by the change of that date. -/
theorem isGovernedBy_changeIn (within : rule.IsWithinDay)
    (changing : rule.daylight = some daylight) (orderly : daylight.IsOrderly)
    (inCalendar : -WallTime.epochSeconds ≤ wall) {begins : Bool}
    (near : IsNear wall (daylight.dateIn (yearOfSecond wall) begins)) :
    rule.IsGovernedBy wall (rule.changeIn daylight (yearOfSecond wall) begins) := by
  obtain ⟨positive, -, -⟩ := yearOfSecond_spec inCalendar
  obtain ⟨before, after⟩ := hasOffset_changeIn changing (yearOfSecond wall) begins
  have apart := farApart_dates orderly (yearOfSecond wall)
  obtain ⟨inForce, onWall⟩ := turnsNear_changeIn within changing (yearOfSecond wall)
  refine ⟨⟨before.isWithinDay within, after.isWithinDay within, fun second early late => ?_⟩,
    fun fold => ?_⟩
  · have sameYear := yearOfSecond_of_near orderly positive near ⟨early, late⟩
    rw [atUtc_of_daylight changing, isDaylight_eq, sameYear]
    exact offset_of_turned (isBetween_of_near apart inForce near ⟨early, late⟩)
  · rw [atWall_of_daylight changing, isWallDaylight_eq]
    exact offset_of_turned (isBetween_of_near apart (onWall fold) near (by omega))

/-- Away from both dates a second close to the wall second has the offset of the wall second. -/
theorem isDaylight_of_away (within : rule.IsWithinDay)
    (changing : rule.daylight = some daylight) (orderly : daylight.IsOrderly)
    (inCalendar : -WallTime.epochSeconds ≤ wall)
    (secondInCalendar : -WallTime.epochSeconds ≤ second)
    (away : ∀ begins, ¬IsNear wall (daylight.dateIn (yearOfSecond wall) begins))
    (close : wall - 2 * 86400 < second ∧ second < wall + 2 * 86400) :
    rule.isDaylight daylight second = rule.isDaylight daylight wall := by
  have apart := farApart_dates orderly (yearOfSecond wall)
  obtain ⟨inForce, -⟩ := turnsNear_changeIn within changing (yearOfSecond wall)
  by_cases sameYear : yearOfSecond second = yearOfSecond wall
  · rw [isDaylight_eq, isDaylight_eq, sameYear]
    exact isBetween_of_away apart inForce inForce away close
  -- the turn of a year lies between the two seconds, and no date is near it
  · have turn := isAtTurn_of_other_year inCalendar secondInCalendar sameYear close
    have secondTurn := isAtTurn_of_other_year secondInCalendar inCalendar (Ne.symm sameYear)
      (by omega)
    have inForceThere := (turnsNear_changeIn within changing (yearOfSecond second)).1
    have wallOffset : rule.isDaylight daylight wall =
        decide (daylight.finish.month < daylight.start.month) :=
      isBetween_of_isAtTurn orderly inCalendar turn (inForce true) (inForce false)
    rw [wallOffset]
    exact isBetween_of_isAtTurn orderly secondInCalendar secondTurn (inForceThere true)
      (inForceThere false)

theorem isWallDaylight_of_away (within : rule.IsWithinDay)
    (changing : rule.daylight = some daylight) (orderly : daylight.IsOrderly)
    (away : ∀ begins, ¬IsNear wall (daylight.dateIn (yearOfSecond wall) begins)) (fold : Bool) :
    rule.isWallDaylight daylight wall fold = rule.isDaylight daylight wall := by
  obtain ⟨inForce, onWall⟩ := turnsNear_changeIn within changing (yearOfSecond wall)
  rw [isWallDaylight_eq, isDaylight_eq]
  exact isBetween_of_away (farApart_dates orderly _) (onWall fold) inForce away (by omega)

/-- Two days into the calendar every wall second has a change that governs it. -/
theorem exists_governing (orderly : rule.IsOrderly)
    (inCalendar : -WallTime.epochSeconds + 2 * 86400 ≤ wall) :
    ∃ change, rule.IsGovernedBy wall change ∧ rule.HasOffset change.before ∧
      rule.HasOffset change.after := by
  obtain ⟨within, dates⟩ := orderly
  cases changing : rule.daylight with
  | none =>
      refine ⟨.steady rule.offset, ⟨OffsetChange.governs_steady within.1 ?_, ?_⟩, .inl rfl,
        .inl rfl⟩
      · intro second early late
        rw [atUtc_of_steady changing]
      · intro fold
        rw [atWall_of_steady changing, OffsetChange.readingAt_steady]
  | some daylight =>
      have ordered := dates daylight changing
      by_cases near : ∃ begins, IsNear wall (daylight.dateIn (yearOfSecond wall) begins)
      · obtain ⟨begins, near⟩ := near
        exact ⟨_, isGovernedBy_changeIn within changing ordered (by omega) near,
          hasOffset_changeIn changing _ begins⟩
      -- no date is near, so nothing changes
      have offset := rule.hasOffset_atUtc wall
      refine ⟨.steady (rule.atUtc wall).1, ⟨OffsetChange.governs_steady
        (offset.isWithinDay within) ?_, ?_⟩, offset, offset⟩
      · intro second early late
        have same := isDaylight_of_away within changing ordered (by omega) (by omega)
          (not_exists.mp near) ⟨early, late⟩
        rw [atUtc_of_daylight changing, atUtc_of_daylight changing, same]
      · intro fold
        have same := isWallDaylight_of_away within changing ordered (not_exists.mp near) fold
        rw [OffsetChange.readingAt_steady, atWall_of_daylight changing,
          atUtc_of_daylight changing, same]

end ZoneRule

end VirtualClock
