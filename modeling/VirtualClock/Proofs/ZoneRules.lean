import VirtualClock.Proofs.Calendar
import VirtualClock.Zone.Rule

/-!
# Yearly rules read back what they show

A rule gives an offset to every UTC second and, with the fold, to every wall
second.  The two agree when its dates keep away from the turn of the year and from
each other: the wall second that is shown may belong to another year, but then both
dates are far off in either year, and near a date both seconds belong to one year.
-/

namespace VirtualClock

/-- The second with which a year begins. -/
def yearStart (year : Nat) : Int :=
  (CivilDate.daysBeforeYear year : Int) * 86400 - WallTime.epochSeconds

theorem yearStart_mono {earlier later : Nat} (upTo : earlier ≤ later) :
    yearStart earlier ≤ yearStart later := by
  have days := CivilDate.daysBeforeYear_mono upTo
  unfold yearStart
  omega

theorem yearOfSecond_spec {second : Int} (inCalendar : -WallTime.epochSeconds ≤ second) :
    1 ≤ yearOfSecond second ∧ yearStart (yearOfSecond second) ≤ second ∧
      second < yearStart (yearOfSecond second + 1) := by
  obtain ⟨positive, placed, within⟩ :=
    CivilDate.yearOfDay_spec ((second + WallTime.epochSeconds) / 86400).toNat
  have next := CivilDate.daysBeforeYear_succ positive
  refine ⟨positive, ?_, ?_⟩
  · unfold yearStart yearOfSecond
    omega
  · unfold yearStart yearOfSecond
    rw [next]
    omega

theorem yearOfSecond_eq {second : Int} {year : Nat} (begun : yearStart year ≤ second)
    (notOver : second < yearStart (year + 1)) : yearOfSecond second = year := by
  unfold yearStart at begun notOver
  refine CivilDate.yearOfDay_unique ?_ ?_
  · omega
  · omega

/-- Two seconds lie in one year, or the year of one is over when the other's begins. -/
theorem yearOfSecond_cases (second other : Int) :
    yearOfSecond other = yearOfSecond second ∨
      yearStart (yearOfSecond other + 1) ≤ yearStart (yearOfSecond second) ∨
      yearStart (yearOfSecond second + 1) ≤ yearStart (yearOfSecond other) := by
  rcases Nat.lt_trichotomy (yearOfSecond other) (yearOfSecond second) with before | same | after
  · exact .inr (.inl (yearStart_mono before))
  · exact .inl same
  · exact .inr (.inr (yearStart_mono after))

/-- The second lies within two days of the turn of a year. -/
def IsAtTurn (second : Int) : Prop :=
  second < yearStart (yearOfSecond second) + 2 * 86400 ∨
    yearStart (yearOfSecond second + 1) ≤ second + 2 * 86400

theorem isAtTurn_of_other_year {second other : Int} (inCalendar : -WallTime.epochSeconds ≤ second)
    (otherInCalendar : -WallTime.epochSeconds ≤ other)
    (otherYear : yearOfSecond other ≠ yearOfSecond second)
    (near : second - 2 * 86400 < other ∧ other < second + 2 * 86400) : IsAtTurn second := by
  obtain ⟨-, begun, notOver⟩ := yearOfSecond_spec inCalendar
  obtain ⟨-, otherBegun, otherNotOver⟩ := yearOfSecond_spec otherInCalendar
  unfold IsAtTurn
  rcases yearOfSecond_cases second other with same | before | after
  · exact absurd same otherYear
  · omega
  · omega

/-! ## Dates away from the turn of the year -/

namespace RuleDate

/-- The date lies in the months from February to November, at a time within a day of midnight. -/
def IsMidyear (date : RuleDate) : Prop :=
  2 ≤ date.month ∧ date.month ≤ 11 ∧ date.week ≤ 5 ∧ -86400 ≤ date.time ∧ date.time ≤ 86400

instance (date : RuleDate) : Decidable date.IsMidyear := by
  unfold IsMidyear
  infer_instance

variable {date : RuleDate}

theorem dayIndex_le (weeks : date.week ≤ 5) (year : Nat) : date.dayIndex year ≤ 30 := by
  have long := CivilDate.daysInMonth_bounds year date.month
  unfold dayIndex
  dsimp only
  split
  · omega
  · omega

theorem secondIn_eq (date : RuleDate) (year : Nat) :
    date.secondIn year = yearStart year +
      ((CivilDate.daysBeforeMonth year date.month : Int) + date.dayIndex year) * 86400 +
      date.time := by
  unfold secondIn yearStart CivilDate.dayNumber
  dsimp only
  omega

/-- A month lies between the date and either end of its year. -/
theorem secondIn_bounds (midyear : date.IsMidyear) {year : Nat} (positive : 1 ≤ year) :
    yearStart year + 30 * 86400 ≤ date.secondIn year ∧
      date.secondIn year + 30 * 86400 ≤ yearStart (year + 1) := by
  obtain ⟨lower, upper, weeks, early, late⟩ := midyear
  have months := CivilDate.daysBeforeMonth_midyear year lower upper
  have days := dayIndex_le weeks year
  have next : yearStart (year + 1) = yearStart year + CivilDate.daysInYear year * 86400 := by
    unfold yearStart
    rw [CivilDate.daysBeforeYear_succ positive]
    omega
  rw [next, secondIn_eq]
  constructor
  · omega
  · omega

theorem secondIn_apart {later : RuleDate} (midyear : date.IsMidyear)
    (laterMidyear : later.IsMidyear) (apart : date.month + 2 ≤ later.month) (year : Nat) :
    date.secondIn year + 20 * 86400 ≤ later.secondIn year := by
  obtain ⟨lower, upper, weeks, early, late⟩ := midyear
  obtain ⟨laterLower, laterUpper, laterWeeks, laterEarly, laterLate⟩ := laterMidyear
  have months := CivilDate.daysBeforeMonth_add_two_le year
    (Nat.le_trans (by decide) lower) apart
  have days := dayIndex_le weeks year
  rw [secondIn_eq, secondIn_eq]
  omega

end RuleDate

/-! ## Orderly rules -/

/-- The offset, in seconds, is shorter than a day. -/
def IsWithinDay (offset : Int) : Prop := -86400 < offset ∧ offset < 86400

instance (offset : Int) : Decidable (IsWithinDay offset) := by
  unfold IsWithinDay
  infer_instance

/-- Both dates keep away from the turn of the year and from each other. -/
def DaylightRule.IsOrderly (daylight : DaylightRule) : Prop :=
  daylight.start.IsMidyear ∧ daylight.finish.IsMidyear ∧
    (daylight.start.month + 2 ≤ daylight.finish.month ∨
      daylight.finish.month + 2 ≤ daylight.start.month)

instance (daylight : DaylightRule) : Decidable daylight.IsOrderly := by
  unfold DaylightRule.IsOrderly
  infer_instance

theorem DaylightRule.secondIn_order {daylight : DaylightRule} (orderly : daylight.IsOrderly)
    (year : Nat) :
    daylight.start.secondIn year + 20 * 86400 ≤ daylight.finish.secondIn year ∨
      daylight.finish.secondIn year + 20 * 86400 ≤ daylight.start.secondIn year := by
  obtain ⟨startMidyear, finishMidyear, north | south⟩ := orderly
  · exact .inl (RuleDate.secondIn_apart startMidyear finishMidyear north year)
  · exact .inr (RuleDate.secondIn_apart finishMidyear startMidyear south year)

theorem isBetween_iff (start finish second : Int) :
    isBetween start finish second = true ↔
      if start < finish then start ≤ second ∧ second < finish
      else second < finish ∨ start ≤ second := by
  unfold isBetween
  split
  · simp
  · simp

namespace ZoneRule

def IsWithinDay (rule : ZoneRule) : Prop :=
  VirtualClock.IsWithinDay rule.offset ∧
    ∀ daylight ∈ rule.daylight, VirtualClock.IsWithinDay daylight.offset

instance (rule : ZoneRule) : Decidable rule.IsWithinDay := by
  unfold IsWithinDay
  infer_instance

def IsOrderly (rule : ZoneRule) : Prop :=
  rule.IsWithinDay ∧ ∀ daylight ∈ rule.daylight, daylight.IsOrderly

instance (rule : ZoneRule) : Decidable rule.IsOrderly := by
  unfold IsOrderly
  infer_instance

variable {rule : ZoneRule} {daylight : DaylightRule}

theorem atUtc_of_daylight (changing : rule.daylight = some daylight) (second : Int) :
    rule.atUtc second =
      (if rule.isDaylight daylight second then daylight.offset else rule.offset,
        rule.isRepeated daylight second) := by
  unfold atUtc
  rw [changing]

theorem atUtc_of_steady (steady : rule.daylight = none) (second : Int) :
    rule.atUtc second = (rule.offset, false) := by
  unfold atUtc
  rw [steady]

theorem atWall_of_steady (steady : rule.daylight = none) (second : Int) (fold : Bool) :
    rule.atWall second fold = rule.offset := by
  unfold atWall
  rw [steady]

theorem isWithinDay_atUtc (within : rule.IsWithinDay) (second : Int) :
    VirtualClock.IsWithinDay (rule.atUtc second).1 := by
  cases changing : rule.daylight with
  | none =>
      rw [atUtc_of_steady changing]
      exact within.1
  | some daylight =>
      rw [atUtc_of_daylight changing]
      dsimp only
      split
      · exact within.2 daylight changing
      · exact within.1

/-- Daylight time is in force at a wall second, read with the fold. -/
def isWallDaylight (rule : ZoneRule) (daylight : DaylightRule) (second : Int) (fold : Bool) :
    Bool :=
  if fold == decide (0 ≤ daylight.offset - rule.offset) then
    isBetween (daylight.start.secondIn (yearOfSecond second))
      (daylight.finish.secondIn (yearOfSecond second) - (daylight.offset - rule.offset)) second
  else
    isBetween (daylight.start.secondIn (yearOfSecond second) + (daylight.offset - rule.offset))
      (daylight.finish.secondIn (yearOfSecond second)) second

theorem atWall_of_daylight (changing : rule.daylight = some daylight) (second : Int)
    (fold : Bool) :
    rule.atWall second fold =
      if rule.isWallDaylight daylight second fold then daylight.offset else rule.offset := by
  unfold atWall
  rw [changing]
  rfl

theorem isDaylight_iff (rule : ZoneRule) (daylight : DaylightRule) (second : Int) :
    rule.isDaylight daylight second = true ↔
      if daylight.start.secondIn (yearOfSecond second) - rule.offset <
          daylight.finish.secondIn (yearOfSecond second) - daylight.offset then
        daylight.start.secondIn (yearOfSecond second) - rule.offset ≤ second ∧
          second < daylight.finish.secondIn (yearOfSecond second) - daylight.offset
      else
        second < daylight.finish.secondIn (yearOfSecond second) - daylight.offset ∨
          daylight.start.secondIn (yearOfSecond second) - rule.offset ≤ second :=
  isBetween_iff _ _ _

theorem isRepeated_iff (rule : ZoneRule) (daylight : DaylightRule) (second : Int) :
    rule.isRepeated daylight second = true ↔
      if 0 < daylight.offset - rule.offset then
        daylight.finish.secondIn (yearOfSecond second) - daylight.offset ≤ second ∧
          second < daylight.finish.secondIn (yearOfSecond second) - daylight.offset +
            (daylight.offset - rule.offset)
      else
        daylight.start.secondIn (yearOfSecond second) - rule.offset ≤ second ∧
          second < daylight.start.secondIn (yearOfSecond second) - rule.offset -
            (daylight.offset - rule.offset) := by
  unfold isRepeated
  dsimp only
  split
  · simp
  · simp

theorem isWallDaylight_iff (rule : ZoneRule) (daylight : DaylightRule) (second : Int)
    (fold : Bool) :
    rule.isWallDaylight daylight second fold = true ↔
      if fold = true ↔ 0 ≤ daylight.offset - rule.offset then
        isBetween (daylight.start.secondIn (yearOfSecond second))
          (daylight.finish.secondIn (yearOfSecond second) - (daylight.offset - rule.offset))
          second = true
      else
        isBetween
          (daylight.start.secondIn (yearOfSecond second) + (daylight.offset - rule.offset))
          (daylight.finish.secondIn (yearOfSecond second)) second = true := by
  have moves : (fold == decide (0 ≤ daylight.offset - rule.offset)) = true ↔
      (fold = true ↔ 0 ≤ daylight.offset - rule.offset) := by
    rw [beq_iff_eq, Bool.eq_iff_iff, decide_eq_true_iff]
  unfold isWallDaylight
  by_cases agrees : fold = true ↔ 0 ≤ daylight.offset - rule.offset
  · rw [if_pos agrees, if_pos (moves.mpr agrees)]
  · rw [if_neg agrees, if_neg (mt moves.mp agrees)]

/-! ## Reading back -/

/-- Within the year of a second the shown second is read with the offset that shows it: it is
on the same side of both dates, and the fold tells the two readings of a step back apart. -/
theorem isWallDaylight_of_same_year (within : rule.IsWithinDay)
    (changing : rule.daylight = some daylight) (orderly : daylight.IsOrderly)
    {second shown : Int} (sameYear : yearOfSecond shown = yearOfSecond second)
    (shows : shown = second +
      if rule.isDaylight daylight second then daylight.offset else rule.offset) :
    rule.isWallDaylight daylight shown (rule.isRepeated daylight second) =
      rule.isDaylight daylight second := by
  obtain ⟨standardWest, standardEast⟩ := within.1
  obtain ⟨daylightWest, daylightEast⟩ := within.2 daylight changing
  have order := DaylightRule.secondIn_order orderly (yearOfSecond second)
  have inForce := isDaylight_iff rule daylight second
  have repeated := isRepeated_iff rule daylight second
  have onWall := isWallDaylight_iff rule daylight shown (rule.isRepeated daylight second)
  rw [isBetween_iff, isBetween_iff, sameYear] at onWall
  -- in one year the two dates are two numbers far apart, and the rest is their order
  generalize daylight.start.secondIn (yearOfSecond second) = start at *
  generalize daylight.finish.secondIn (yearOfSecond second) = finish at *
  rw [Bool.eq_iff_iff, onWall]
  by_cases isIn : rule.isDaylight daylight second = true
  · rw [if_pos isIn] at shows
    have between := inForce.mp isIn
    refine iff_of_true ?_ isIn
    simp only [repeated]
    split_ifs at * <;> omega
  · rw [if_neg isIn] at shows
    have outside := mt inForce.mpr isIn
    refine iff_of_false ?_ isIn
    simp only [repeated]
    split_ifs at * <;> omega

/-- At the turn of a year both dates are far off, whichever offset they are counted in. -/
theorem isBetween_of_isAtTurn (orderly : daylight.IsOrderly) {second opening closing : Int}
    (inCalendar : -WallTime.epochSeconds ≤ second) (turn : IsAtTurn second)
    (openingNear : daylight.start.secondIn (yearOfSecond second) - 2 * 86400 < opening ∧
      opening < daylight.start.secondIn (yearOfSecond second) + 2 * 86400)
    (closingNear : daylight.finish.secondIn (yearOfSecond second) - 2 * 86400 < closing ∧
      closing < daylight.finish.secondIn (yearOfSecond second) + 2 * 86400) :
    isBetween opening closing second = decide (daylight.finish.month < daylight.start.month) := by
  obtain ⟨positive, begun, notOver⟩ := yearOfSecond_spec inCalendar
  obtain ⟨startMidyear, finishMidyear, apart⟩ := orderly
  have start := RuleDate.secondIn_bounds startMidyear positive
  have finish := RuleDate.secondIn_bounds finishMidyear positive
  unfold IsAtTurn at turn
  rw [Bool.eq_iff_iff, isBetween_iff, decide_eq_true_iff]
  rcases apart with north | south
  · have order := RuleDate.secondIn_apart startMidyear finishMidyear north (yearOfSecond second)
    rw [if_pos (by omega)]
    omega
  · have order := RuleDate.secondIn_apart finishMidyear startMidyear south (yearOfSecond second)
    rw [if_neg (by omega)]
    omega

/-- A second that is shown in another year lies, as what is shown, at the turn of a year. -/
theorem isWallDaylight_of_other_year (within : rule.IsWithinDay)
    (changing : rule.daylight = some daylight) (orderly : daylight.IsOrderly)
    {second shown : Int} (inCalendar : -WallTime.epochSeconds ≤ second)
    (shownInCalendar : -WallTime.epochSeconds ≤ shown)
    (otherYear : yearOfSecond shown ≠ yearOfSecond second)
    (near : second - 2 * 86400 < shown ∧ shown < second + 2 * 86400) (fold : Bool) :
    rule.isWallDaylight daylight shown fold = rule.isDaylight daylight second := by
  obtain ⟨standardWest, standardEast⟩ := within.1
  obtain ⟨daylightWest, daylightEast⟩ := within.2 daylight changing
  have turn := isAtTurn_of_other_year inCalendar shownInCalendar otherYear near
  have shownTurn := isAtTurn_of_other_year shownInCalendar inCalendar otherYear.symm (by omega)
  have atUtc : rule.isDaylight daylight second =
      decide (daylight.finish.month < daylight.start.month) :=
    isBetween_of_isAtTurn orderly inCalendar turn (by omega) (by omega)
  rw [atUtc]
  unfold isWallDaylight
  split
  · exact isBetween_of_isAtTurn orderly shownInCalendar shownTurn (by omega) (by omega)
  · exact isBetween_of_isAtTurn orderly shownInCalendar shownTurn (by omega) (by omega)

/-- An orderly rule reads what it shows with the offset that shows it. -/
theorem atWall_atUtc (orderly : rule.IsOrderly) {second : Int}
    (inCalendar : -WallTime.epochSeconds ≤ second)
    (shownInCalendar : -WallTime.epochSeconds ≤ second + (rule.atUtc second).1) :
    rule.atWall (second + (rule.atUtc second).1) (rule.atUtc second).2 =
      (rule.atUtc second).1 := by
  obtain ⟨within, dates⟩ := orderly
  have offsetWithin := isWithinDay_atUtc within second
  cases changing : rule.daylight with
  | none =>
      rw [atUtc_of_steady changing, atWall_of_steady changing]
  | some daylight =>
      have offset := atUtc_of_daylight changing second
      have same : rule.isWallDaylight daylight (second + (rule.atUtc second).1)
          (rule.isRepeated daylight second) = rule.isDaylight daylight second := by
        by_cases sameYear :
            yearOfSecond (second + (rule.atUtc second).1) = yearOfSecond second
        · refine isWallDaylight_of_same_year within changing (dates daylight changing) sameYear ?_
          rw [offset]
        · obtain ⟨west, east⟩ := offsetWithin
          exact isWallDaylight_of_other_year within changing (dates daylight changing) inCalendar
            shownInCalendar sameYear (by omega) _
      have fold : (rule.atUtc second).2 = rule.isRepeated daylight second := by
        rw [offset]
      rw [fold, atWall_of_daylight changing, same, offset]

end ZoneRule

end VirtualClock
