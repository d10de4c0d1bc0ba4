import Mathlib.Order.Monotone.Basic
import Mathlib.Data.Nat.Init
import VirtualClock.Calendar.WallTime

/-!
# The calendar and the numbers of its days

Every day number of the calendar belongs to one date, and every wall time is put
together again from its parts.  The years are found by cycles of four centuries,
centuries, olympiads and single years; the months by going down from December.
-/

namespace VirtualClock

namespace CivilDate

/-! ## Years -/

theorem isLeapYear_iff (year : Nat) :
    isLeapYear year ↔ year % 4 = 0 ∧ (year % 100 ≠ 0 ∨ year % 400 = 0) := by
  simp [isLeapYear]

def daysInYear (year : Nat) : Nat := if isLeapYear year then 366 else 365

theorem daysBeforeYear_succ {year : Nat} (positive : 1 ≤ year) :
    daysBeforeYear (year + 1) = daysBeforeYear year + daysInYear year := by
  obtain ⟨past, rfl⟩ : ∃ past, year = past + 1 := ⟨year - 1, by omega⟩
  have rule := isLeapYear_iff (past + 1)
  have fours : (past + 1) / 4 = past / 4 + (if 4 ∣ past + 1 then 1 else 0) :=
    Nat.succ_div
  have hundreds : (past + 1) / 100 = past / 100 + (if 100 ∣ past + 1 then 1 else 0) :=
    Nat.succ_div
  have fourHundreds : (past + 1) / 400 = past / 400 + (if 400 ∣ past + 1 then 1 else 0) :=
    Nat.succ_div
  unfold daysBeforeYear daysInYear
  dsimp only
  rw [Nat.add_sub_cancel, Nat.add_sub_cancel, fours, hundreds, fourHundreds]
  by_cases four : 4 ∣ past + 1
  · by_cases hundred : 100 ∣ past + 1
    · by_cases fourHundred : 400 ∣ past + 1
      · have leap : isLeapYear (past + 1) := rule.mpr (by omega)
        rw [if_pos four, if_pos hundred, if_pos fourHundred, if_pos leap]
        omega
      · have common : ¬isLeapYear (past + 1) := mt rule.mp (by omega)
        rw [if_pos four, if_pos hundred, if_neg fourHundred, if_neg common]
        omega
    · have leap : isLeapYear (past + 1) := rule.mpr (by omega)
      have fourHundred : ¬400 ∣ past + 1 := by
        omega
      rw [if_pos four, if_neg hundred, if_neg fourHundred, if_pos leap]
      omega
  · have common : ¬isLeapYear (past + 1) := mt rule.mp (by omega)
    have hundred : ¬100 ∣ past + 1 := by
      omega
    have fourHundred : ¬400 ∣ past + 1 := by
      omega
    rw [if_neg four, if_neg hundred, if_neg fourHundred, if_neg common]
    omega

theorem daysBeforeYear_mono : Monotone daysBeforeYear := by
  refine monotone_nat_of_le_succ fun year => ?_
  cases year with
  | zero => decide
  | succ past =>
      rw [daysBeforeYear_succ (Nat.succ_le_succ (Nat.zero_le past))]
      exact Nat.le_add_right _ _

/-- The year that holds a day begins by that day and is not over. -/
theorem yearOfDay_spec (number : Nat) :
    1 ≤ (yearOfDay number).1 ∧
    daysBeforeYear (yearOfDay number).1 + (yearOfDay number).2 = number ∧
    (yearOfDay number).2 < daysInYear (yearOfDay number).1 := by
  -- the parts of the number, with the bounds that keep them apart
  obtain ⟨inCycle, inCycleIs⟩ : ∃ inCycle, inCycle = number % 146097 := ⟨_, rfl⟩
  obtain ⟨cycle, cycleIs⟩ : ∃ cycle, cycle = number / 146097 := ⟨_, rfl⟩
  obtain ⟨century, centuryIs⟩ : ∃ century, century = min 3 (inCycle / 36524) := ⟨_, rfl⟩
  obtain ⟨inCentury, inCenturyIs⟩ : ∃ inCentury, inCentury = inCycle - century * 36524 :=
    ⟨_, rfl⟩
  obtain ⟨olympiad, olympiadIs⟩ : ∃ olympiad, olympiad = inCentury / 1461 := ⟨_, rfl⟩
  obtain ⟨inOlympiad, inOlympiadIs⟩ : ∃ inOlympiad, inOlympiad = inCentury % 1461 := ⟨_, rfl⟩
  obtain ⟨single, singleIs⟩ : ∃ single, single = min 3 (inOlympiad / 365) := ⟨_, rfl⟩
  have whole : number = cycle * 146097 + inCycle := by
    omega
  have shape : yearOfDay number =
      (cycle * 400 + century * 100 + olympiad * 4 + single + 1, inOlympiad - single * 365) := by
    simp only [yearOfDay, ← inCycleIs, ← cycleIs, ← centuryIs, ← inCenturyIs, ← olympiadIs,
      ← inOlympiadIs, ← singleIs]
  have before : daysBeforeYear (cycle * 400 + century * 100 + olympiad * 4 + single + 1) =
      cycle * 146097 + century * 36524 + olympiad * 1461 + single * 365 := by
    have olympiads : (cycle * 400 + century * 100 + olympiad * 4 + single) / 4 =
        cycle * 100 + century * 25 + olympiad := by
      omega
    have centuries : (cycle * 400 + century * 100 + olympiad * 4 + single) / 100 =
        cycle * 4 + century := by
      omega
    have cycles : (cycle * 400 + century * 100 + olympiad * 4 + single) / 400 = cycle := by
      omega
    unfold daysBeforeYear
    dsimp only
    rw [Nat.add_sub_cancel, olympiads, centuries, cycles]
    omega
  rw [shape]
  dsimp only
  rw [before]
  refine ⟨by omega, by omega, ?_⟩
  unfold daysInYear
  by_cases leap : isLeapYear (cycle * 400 + century * 100 + olympiad * 4 + single + 1)
  · rw [if_pos leap]
    omega
  · rw [if_neg leap]
    have rule := mt (isLeapYear_iff _).mpr leap
    omega

theorem yearOfDay_unique {number year : Nat} (begun : daysBeforeYear year ≤ number)
    (notOver : number < daysBeforeYear (year + 1)) : (yearOfDay number).1 = year := by
  obtain ⟨foundPositive, placed, within⟩ := yearOfDay_spec number
  have next := daysBeforeYear_succ foundPositive
  rcases Nat.lt_trichotomy (yearOfDay number).1 year with earlier | same | later
  · have apart : daysBeforeYear ((yearOfDay number).1 + 1) ≤ daysBeforeYear year :=
      daysBeforeYear_mono earlier
    omega
  · exact same
  · have apart : daysBeforeYear (year + 1) ≤ daysBeforeYear (yearOfDay number).1 :=
      daysBeforeYear_mono later
    omega

/-! ## Months -/

theorem daysBeforeMonth_succ (year : Nat) {month : Nat} (positive : 1 ≤ month) :
    daysBeforeMonth year (month + 1) = daysBeforeMonth year month + daysInMonth year month := by
  cases month with
  | zero => cases positive
  | succ past => rfl

theorem daysBeforeMonth_thirteen (year : Nat) : daysBeforeMonth year 13 = daysInYear year := by
  simp only [daysBeforeMonth, daysInMonth, daysInYear]
  by_cases leap : isLeapYear year
  · rw [if_pos leap, if_pos leap]
  · rw [if_neg leap, if_neg leap]

theorem daysInMonth_bounds (year month : Nat) :
    28 ≤ daysInMonth year month ∧ daysInMonth year month ≤ 31 := by
  unfold daysInMonth
  split
  · split
    · decide
    · decide
  all_goals decide

theorem daysBeforeMonth_mono (year : Nat) : Monotone (daysBeforeMonth year) := by
  refine monotone_nat_of_le_succ fun month => ?_
  cases month with
  | zero => exact Nat.le_refl 0
  | succ past =>
      rw [daysBeforeMonth_succ year (Nat.succ_le_succ (Nat.zero_le past))]
      exact Nat.le_add_right _ _

theorem daysBeforeMonth_add_two_le (year : Nat) {earlier later : Nat} (positive : 1 ≤ earlier)
    (apart : earlier + 2 ≤ later) :
    daysBeforeMonth year earlier + 56 ≤ daysBeforeMonth year later := by
  have first := daysBeforeMonth_succ year positive
  have second := daysBeforeMonth_succ year (Nat.le_add_left 1 earlier)
  have firstLength := daysInMonth_bounds year earlier
  have secondLength := daysInMonth_bounds year (earlier + 1)
  have upTo : daysBeforeMonth year (earlier + 1 + 1) ≤ daysBeforeMonth year later :=
    daysBeforeMonth_mono year apart
  omega

/-- The months from February to November begin a month after the year does, and a month and a
day before December is over. -/
theorem daysBeforeMonth_midyear (year : Nat) {month : Nat} (lower : 2 ≤ month)
    (upper : month ≤ 11) :
    31 ≤ daysBeforeMonth year month ∧ daysBeforeMonth year month + 61 ≤ daysInYear year := by
  have january : daysBeforeMonth year 2 = 31 := rfl
  have december : daysBeforeMonth year 13 = daysBeforeMonth year 11 + 30 + 31 := rfl
  have whole := daysBeforeMonth_thirteen year
  have fromFebruary := daysBeforeMonth_mono year lower
  have toNovember := daysBeforeMonth_mono year upper
  omega

/-- Going down from a month finds the one that holds the day, or stays at the first. -/
theorem monthOfDay_spec (year dayOfYear : Nat) {month : Nat} (positive : 1 ≤ month) :
    1 ≤ monthOfDay year dayOfYear month ∧
    monthOfDay year dayOfYear month ≤ month ∧
    daysBeforeMonth year (monthOfDay year dayOfYear month) ≤ dayOfYear ∧
    (monthOfDay year dayOfYear month = month ∨
      dayOfYear < daysBeforeMonth year (monthOfDay year dayOfYear month + 1)) := by
  induction month with
  | zero => cases positive
  | succ lower inductionHypothesis =>
      unfold monthOfDay
      by_cases begun : daysBeforeMonth year (lower + 1) ≤ dayOfYear
      · rw [if_pos begun]
        exact ⟨positive, Nat.le_refl _, begun, .inl rfl⟩
      · rw [if_neg begun]
        cases lower with
        | zero => exact absurd (Nat.zero_le dayOfYear) begun
        | succ past =>
            obtain ⟨first, upTo, before, last⟩ :=
              inductionHypothesis (Nat.succ_le_succ (Nat.zero_le past))
            refine ⟨first, Nat.le_succ_of_le upTo, before, .inr ?_⟩
            rcases last with same | within
            · rw [same]
              exact Nat.lt_of_not_le begun
            · exact within

/-! ## Dates -/

/-- The date of a day has its year and its month begun and neither of them over. -/
theorem ofDayNumber_spec (number : Nat) :
    1 ≤ (ofDayNumber number).year ∧
    1 ≤ (ofDayNumber number).month ∧ (ofDayNumber number).month ≤ 12 ∧
    1 ≤ (ofDayNumber number).day ∧
    (ofDayNumber number).day ≤
      daysInMonth (ofDayNumber number).year (ofDayNumber number).month ∧
    (ofDayNumber number).dayNumber = number := by
  obtain ⟨yearPositive, placed, within⟩ := yearOfDay_spec number
  obtain ⟨monthPositive, upTo, before, last⟩ :=
    monthOfDay_spec (yearOfDay number).1 (yearOfDay number).2 (show 1 ≤ 12 by decide)
  have shape : ofDayNumber number =
      ⟨(yearOfDay number).1, monthOfDay (yearOfDay number).1 (yearOfDay number).2 12,
        (yearOfDay number).2 - daysBeforeMonth (yearOfDay number).1
          (monthOfDay (yearOfDay number).1 (yearOfDay number).2 12) + 1⟩ := rfl
  have next := daysBeforeMonth_succ (yearOfDay number).1 monthPositive
  have notOver : (yearOfDay number).2 < daysBeforeMonth (yearOfDay number).1
      (monthOfDay (yearOfDay number).1 (yearOfDay number).2 12 + 1) := by
    rcases last with december | earlier
    · rw [december, daysBeforeMonth_thirteen]
      exact within
    · exact earlier
  rw [shape]
  unfold dayNumber
  dsimp only
  refine ⟨yearPositive, monthPositive, upTo, ?_, ?_, ?_⟩
  · omega
  · omega
  · omega

theorem ofDayNumber_isValid {number : Nat} (bounded : number < dayCount) :
    (ofDayNumber number).IsValid := by
  obtain ⟨yearPositive, monthPositive, upTo, dayPositive, within, placed⟩ :=
    ofDayNumber_spec number
  refine ⟨yearPositive, ?_, monthPositive, upTo, dayPositive, within⟩
  have begun : daysBeforeYear (ofDayNumber number).year ≤ number := by
    unfold dayNumber at placed
    omega
  have total : daysBeforeYear (lastYear + 1) = dayCount := by
    decide
  rcases Nat.lt_or_ge lastYear (ofDayNumber number).year with beyond | inCalendar
  · have apart : daysBeforeYear (lastYear + 1) ≤ daysBeforeYear (ofDayNumber number).year :=
      daysBeforeYear_mono beyond
    omega
  · exact inCalendar

/-- A date of the calendar is the date of its day. -/
theorem ofDayNumber_dayNumber {date : CivilDate} (valid : date.IsValid) :
    ofDayNumber date.dayNumber = date := by
  obtain ⟨yearPositive, _, monthPositive, upTo, dayPositive, within⟩ := valid
  obtain ⟨rest, isRest⟩ : ∃ rest, rest = daysBeforeMonth date.year date.month + (date.day - 1) :=
    ⟨_, rfl⟩
  have number : date.dayNumber = daysBeforeYear date.year + rest := by
    rw [isRest, dayNumber, Nat.add_assoc]
  have next := daysBeforeMonth_succ date.year monthPositive
  have monthEnds : rest < daysBeforeMonth date.year (date.month + 1) := by
    omega
  have yearEnds : rest < daysInYear date.year := by
    have ordered : daysBeforeMonth date.year (date.month + 1) ≤ daysBeforeMonth date.year 13 :=
      daysBeforeMonth_mono date.year (by omega)
    rw [daysBeforeMonth_thirteen] at ordered
    omega
  have year : (yearOfDay date.dayNumber).1 = date.year := by
    refine yearOfDay_unique ?_ ?_
    · omega
    · rw [daysBeforeYear_succ yearPositive]
      omega
  have inYear : (yearOfDay date.dayNumber).2 = rest := by
    have placed := (yearOfDay_spec date.dayNumber).2.1
    rw [year] at placed
    omega
  obtain ⟨_, found, begun, last⟩ := monthOfDay_spec date.year rest (show 1 ≤ 12 by decide)
  have month : monthOfDay date.year rest 12 = date.month := by
    rcases Nat.lt_trichotomy (monthOfDay date.year rest 12) date.month with before | same | after
    · have ordered := daysBeforeMonth_mono date.year (Nat.succ_le_of_lt before)
      rw [Nat.succ_eq_add_one] at ordered
      omega
    · exact same
    · have ordered := daysBeforeMonth_mono date.year (Nat.succ_le_of_lt after)
      rw [Nat.succ_eq_add_one] at ordered
      omega
  have shape : ofDayNumber date.dayNumber =
      ⟨(yearOfDay date.dayNumber).1,
        monthOfDay (yearOfDay date.dayNumber).1 (yearOfDay date.dayNumber).2 12,
        (yearOfDay date.dayNumber).2 - daysBeforeMonth (yearOfDay date.dayNumber).1
          (monthOfDay (yearOfDay date.dayNumber).1 (yearOfDay date.dayNumber).2 12) + 1⟩ := rfl
  rw [shape, year, inYear, month]
  obtain ⟨_, _, day⟩ := date
  simp only [mk.injEq, true_and]
  dsimp only at isRest dayPositive
  omega

end CivilDate

/-! ## Wall times -/

namespace WallTime

theorem dayNumber_lt (wall : WallTime) : wall.dayNumber < CivilDate.dayCount := by
  have below := wall.bounded
  unfold dayNumber ticksPerDay CivilDate.dayCount
  omega

theorem ticksAt_parts (wall : WallTime) :
    ticksAt wall.date wall.hour wall.minute wall.second wall.microsecond = wall.ticks := by
  have start := wall.nonneg
  have placed : wall.date.dayNumber = wall.dayNumber :=
    (CivilDate.ofDayNumber_spec wall.dayNumber).2.2.2.2.2
  have day : (wall.dayNumber : Int) = wall.ticks / 86400000000 := by
    unfold dayNumber ticksPerDay
    omega
  have rest : (wall.tickOfDay : Int) = wall.ticks % 86400000000 := by
    unfold tickOfDay ticksPerDay
    omega
  unfold ticksAt hour minute second microsecond ticksPerDay
  rw [placed]
  omega

theorem parts_lt (wall : WallTime) :
    wall.hour < 24 ∧ wall.minute < 60 ∧ wall.second < 60 ∧ wall.microsecond < 1000000 := by
  have ofDay : wall.tickOfDay < 86400000000 := by
    unfold tickOfDay ticksPerDay
    omega
  unfold hour minute second microsecond
  omega

theorem date_isValid (wall : WallTime) : wall.date.IsValid :=
  CivilDate.ofDayNumber_isValid wall.dayNumber_lt

/-- A wall time is put together again from its parts. -/
theorem ofParts?_parts (wall : WallTime) :
    ofParts? wall.date wall.hour wall.minute wall.second wall.microsecond = some wall := by
  have inCalendar : 0 ≤ wall.ticks ∧ wall.ticks < limit := ⟨wall.nonneg, wall.bounded⟩
  unfold ofParts? ofTicks?
  rw [if_pos ⟨wall.date_isValid, wall.parts_lt⟩, ticksAt_parts, dif_pos inCalendar]

/-- The midnight of a date opens the day of the date. -/
theorem midnight?_eq_some {date : CivilDate} {midnight : WallTime}
    (opens : midnight? date = some midnight) :
    date.IsValid ∧ midnight.ticks = date.dayNumber * ticksPerDay := by
  unfold midnight? ofParts? at opens
  split at opens
  next known =>
    unfold ofTicks? at opens
    split at opens
    · cases opens
      refine ⟨known.1, ?_⟩
      unfold ticksAt
      simp
    · cases opens
  next unknown => cases opens

/-- A wall time has a date when it lies in the day that the midnight of the date opens. -/
theorem date_eq_iff {date : CivilDate} {midnight wall : WallTime}
    (opens : midnight? date = some midnight) :
    wall.date = date ↔
      midnight.ticks ≤ wall.ticks ∧ wall.ticks < midnight.ticks + ticksPerDay := by
  obtain ⟨valid, begins⟩ := midnight?_eq_some opens
  have start := wall.nonneg
  have day : wall.date = date ↔ wall.dayNumber = date.dayNumber := by
    constructor
    · rintro rfl
      exact (CivilDate.ofDayNumber_spec wall.dayNumber).2.2.2.2.2.symm
    · intro same
      unfold WallTime.date
      rw [same, CivilDate.ofDayNumber_dayNumber valid]
  rw [day, begins]
  unfold dayNumber ticksPerDay
  omega

/-- The day of a date lies in the calendar as a whole. -/
theorem midnight_add_day_le {date : CivilDate} {midnight : WallTime}
    (opens : midnight? date = some midnight) : midnight.ticks + ticksPerDay ≤ limit := by
  have begins := (midnight?_eq_some opens).2
  have inCalendar := midnight.bounded
  unfold ticksPerDay at *
  unfold limit
  omega

end WallTime

end VirtualClock
