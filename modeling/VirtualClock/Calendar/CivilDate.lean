/-!
# Civil dates

Dates of the proleptic Gregorian calendar and the numbering of their days.
Day zero is the first of January of year one, a Monday.  The calendar is
used for the years 1 to 9999; nothing here depends on the upper end except
`IsValid`.

Times of day and time zones are kept elsewhere.
-/

namespace VirtualClock

structure CivilDate where
  year : Nat
  month : Nat
  day : Nat
  deriving DecidableEq, Repr, Inhabited

namespace CivilDate

def lastYear : Nat := 9999

/-- Every fourth year is a leap year, but of the centuries only every fourth one. -/
def isLeapYear (year : Nat) : Bool :=
  year % 4 == 0 && (year % 100 != 0 || year % 400 == 0)

def daysInMonth (year month : Nat) : Nat :=
  match month with
  | 2 => if isLeapYear year then 29 else 28
  | 4 | 6 | 9 | 11 => 30
  | _ => 31

/-- Days between the first of January and the first of `month`. -/
def daysBeforeMonth (year : Nat) : Nat → Nat
  | 0 => 0
  | 1 => 0
  | month + 2 => daysBeforeMonth year (month + 1) + daysInMonth year (month + 1)

/-- Days between the start of year one and the start of `year`. -/
def daysBeforeYear (year : Nat) : Nat :=
  let past := year - 1
  past * 365 + past / 4 - past / 100 + past / 400

/-- The date exists in the calendar of years 1 to 9999. -/
def IsValid (date : CivilDate) : Prop :=
  1 ≤ date.year ∧ date.year ≤ lastYear ∧ 1 ≤ date.month ∧ date.month ≤ 12 ∧
    1 ≤ date.day ∧ date.day ≤ daysInMonth date.year date.month

instance (date : CivilDate) : Decidable date.IsValid := by
  unfold IsValid
  infer_instance

/-- The date with the given parts, when there is one. -/
def ofParts? (year month day : Nat) : Option CivilDate :=
  let date : CivilDate := ⟨year, month, day⟩
  if date.IsValid then some date else none

/-- Days since the first of January of year one. -/
def dayNumber (date : CivilDate) : Nat :=
  daysBeforeYear date.year + daysBeforeMonth date.year date.month + (date.day - 1)

/-- Days of the years 1 to 9999. -/
def dayCount : Nat := 3652059

/-- The year that holds a day, and the day's place in that year.  A cycle of
four centuries has 146097 days; the last day of a leap cycle belongs to the
year before the next cycle. -/
def yearOfDay (number : Nat) : Nat × Nat :=
  let inCycle := number % 146097
  let century := min 3 (inCycle / 36524)
  let inCentury := inCycle - century * 36524
  let olympiad := inCentury / 1461
  let inOlympiad := inCentury % 1461
  let single := min 3 (inOlympiad / 365)
  (number / 146097 * 400 + century * 100 + olympiad * 4 + single + 1,
    inOlympiad - single * 365)

/-- The greatest month up to the given one that begins by the given day of the year. -/
def monthOfDay (year dayOfYear : Nat) : Nat → Nat
  | 0 => 1
  | month + 1 =>
    if daysBeforeMonth year (month + 1) ≤ dayOfYear then month + 1
    else monthOfDay year dayOfYear month

def ofDayNumber (number : Nat) : CivilDate :=
  let (year, dayOfYear) := yearOfDay number
  let month := monthOfDay year dayOfYear 12
  ⟨year, month, dayOfYear - daysBeforeMonth year month + 1⟩

/-! ## Weeks -/

/-- The day of the week, counted from Monday. -/
def weekday (number : Nat) : Nat := number % 7

/-- The day number of the Monday that begins week one of `year`: the week that
holds the year's first Thursday. -/
def firstWeekStart (year : Nat) : Nat :=
  let newYear := daysBeforeYear year
  let start := newYear - weekday newYear
  if weekday newYear > 3 then start + 7 else start

/-- Weeks of a year: fifty-three when it begins on a Thursday, or is a leap
year beginning on a Wednesday. -/
def weeksInYear (year : Nat) : Nat :=
  let opening := weekday (daysBeforeYear year)
  if opening == 3 || (opening == 2 && isLeapYear year) then 53 else 52

/-- The date of a day (1 to 7) in a week of a year, when all three exist. -/
def ofWeek? (year week day : Nat) : Option CivilDate :=
  if 1 ≤ year ∧ year ≤ lastYear ∧ 1 ≤ week ∧ week ≤ weeksInYear year ∧ 1 ≤ day ∧ day ≤ 7 then
    let number := firstWeekStart year + (week - 1) * 7 + (day - 1)
    if number < dayCount then some (ofDayNumber number) else none
  else none

end CivilDate

end VirtualClock
