import VirtualClock.Proofs.Destinations
import VirtualClock.Proofs.DigitOrder
import VirtualClock.Proofs.Ordering
import VirtualClock.Proofs.WholeSecondTexts

/-!
# Texts for databases

The text of a moment for a database shows its instant in universal time, to the second.  Two
moments have the same text exactly when their instants fall into the same second, whatever
their zones and kinds.

The year is written without leading zeros.  Before the year 1000 the text is therefore shorter
than its form, it cannot be read by that form, and texts can be in another order than the times
that they stand for.
-/

namespace VirtualClock

open Text (fixedDigits decimalWidth)

/-! ## The order of dates and wall times -/

namespace CivilDate

theorem dayNumber_lt_nextYear {date : CivilDate} (valid : date.IsValid) :
    date.dayNumber < daysBeforeYear (date.year + 1) := by
  obtain ⟨yearPositive, _, monthPositive, december, dayPositive, lastDay⟩ := valid
  have nextYear := daysBeforeYear_succ yearPositive
  have nextMonth := daysBeforeMonth_succ date.year monthPositive
  have upTo : daysBeforeMonth date.year (date.month + 1) ≤ daysBeforeMonth date.year 13 :=
    daysBeforeMonth_mono date.year (Nat.succ_le_succ december)
  rw [daysBeforeMonth_thirteen] at upTo
  unfold dayNumber
  omega

theorem dayNumber_lt_of_year_lt {early late : CivilDate} (valid : early.IsValid)
    (earlier : early.year < late.year) : early.dayNumber < late.dayNumber := by
  have inYear := dayNumber_lt_nextYear valid
  have begun : daysBeforeYear (early.year + 1) ≤ daysBeforeYear late.year :=
    daysBeforeYear_mono earlier
  have onward : daysBeforeYear late.year ≤ late.dayNumber := by
    unfold dayNumber
    omega
  omega

theorem dayNumber_lt_of_month_lt {early late : CivilDate} (valid : early.IsValid)
    (sameYear : early.year = late.year) (earlier : early.month < late.month) :
    early.dayNumber < late.dayNumber := by
  obtain ⟨_, _, monthPositive, _, dayPositive, lastDay⟩ := valid
  have nextMonth := daysBeforeMonth_succ early.year monthPositive
  have begun : daysBeforeMonth early.year (early.month + 1) ≤
      daysBeforeMonth early.year late.month :=
    daysBeforeMonth_mono early.year earlier
  unfold dayNumber
  rw [← sameYear]
  omega

/-- Days are numbered in the order of year, month and day. -/
theorem dayNumber_lt_iff {left right : CivilDate} (leftValid : left.IsValid)
    (rightValid : right.IsValid) :
    left.dayNumber < right.dayNumber ↔
      left.year < right.year ∨ left.year = right.year ∧
        (left.month < right.month ∨ left.month = right.month ∧ left.day < right.day) := by
  have leftDay := leftValid.2.2.2.2.1
  have rightDay := rightValid.2.2.2.2.1
  rcases Nat.lt_trichotomy left.year right.year with earlier | sameYear | later
  · simp only [dayNumber_lt_of_year_lt leftValid earlier, earlier, true_or]
  · rcases Nat.lt_trichotomy left.month right.month with earlier | sameMonth | later
    · simp only [dayNumber_lt_of_month_lt leftValid sameYear earlier, sameYear, earlier, true_or,
        and_self, or_true]
    · unfold dayNumber
      rw [sameYear, sameMonth]
      omega
    · have reversed := dayNumber_lt_of_month_lt rightValid sameYear.symm later
      omega
  · have reversed := dayNumber_lt_of_year_lt rightValid later
    omega

end CivilDate

namespace WallTime

/-- The clock shows the earlier of two times of day. -/
def ClockLt (left right : WallTime) : Prop :=
  left.hour < right.hour ∨ left.hour = right.hour ∧
    (left.minute < right.minute ∨ left.minute = right.minute ∧ left.second < right.second)

theorem ticks_wholeSecond (wall : WallTime) :
    wall.wholeSecond.ticks = wall.date.dayNumber * 86400000000 +
      ((wall.hour * 3600 + wall.minute * 60 + wall.second) * 1000000 : Nat) := by
  have parts := wall.ticksAt_parts
  obtain ⟨_, _, _, micros⟩ := wall.parts_lt
  unfold ticksAt ticksPerDay at parts
  show wall.ticks - wall.ticks % 1000000 = _
  omega

theorem wholeSecond_lt_iff (left right : WallTime) :
    left.wholeSecond.ticks < right.wholeSecond.ticks ↔
      left.date.dayNumber < right.date.dayNumber ∨
        left.date.dayNumber = right.date.dayNumber ∧ left.ClockLt right := by
  have leftParts := left.parts_lt
  have rightParts := right.parts_lt
  rw [ticks_wholeSecond, ticks_wholeSecond]
  unfold ClockLt
  omega

end WallTime

/-! ## The parts of the text -/

namespace DatabaseForm

/-- Two digits after a mark. -/
def field (mark : Char) (number : Nat) (rest : List Char) : List Char :=
  mark :: (fixedDigits 2 number ++ rest)

theorem field_lt_field_iff (mark : Char) {left right : Nat} (leftFits : left < 100)
    (rightFits : right < 100) (leftRest rightRest : List Char) :
    field mark left leftRest < field mark right rightRest ↔
      left < right ∨ left = right ∧ leftRest < rightRest := by
  have length : (fixedDigits 2 left).length = (fixedDigits 2 right).length := by
    rw [Text.length_fixedDigits, Text.length_fixedDigits]
  unfold field
  rw [List.cons_lt_cons_iff, Text.append_lt_append_iff length,
    Text.fixedDigits_lt_iff leftFits rightFits, Text.fixedDigits_inj leftFits rightFits]
  simp only [Char.lt_irrefl, false_or, true_and]

/-- Everything after the year: month, day, hour, minute and second. -/
def afterYear (date : CivilDate) (hour minute second : Nat) : List Char :=
  field '-' date.month (field '-' date.day (field ' ' hour (field ':' minute
    (field ':' second []))))

theorem length_afterYear (date : CivilDate) (hour minute second : Nat) :
    (afterYear date hour minute second).length = 15 := by
  simp [afterYear, field, Text.length_fixedDigits]

/-- Reads two digits after a mark. -/
def readField (mark : Char) : List Char → Option (Nat × List Char)
  | [] => none
  | first :: rest => if first = mark then Text.takeDigits 2 rest else none

theorem readField_field (mark : Char) {number : Nat} (fits : number < 100) (rest : List Char) :
    readField mark (field mark number rest) = some (number, rest) := by
  unfold readField field
  exact (if_pos rfl).trans (Text.takeDigits_fixedDigits fits rest)

end DatabaseForm

open DatabaseForm

namespace WallTime

/-- Everything in the text of a wall time after its year. -/
def afterYear (wall : WallTime) : List Char :=
  DatabaseForm.afterYear wall.date wall.hour wall.minute wall.second

theorem databaseText_toList (wall : WallTime) :
    wall.databaseText.toList =
      fixedDigits (decimalWidth wall.date.year) wall.date.year ++ wall.afterYear := by
  unfold databaseText afterYear DatabaseForm.afterYear field clockDigits
  simp only [String.toList_append, String.toList_ofList, Text.toString_toList, List.append_assoc,
    List.cons_append, List.append_nil]

/-- The parts after the year have at most two digits. -/
theorem parts_fit (wall : WallTime) :
    wall.date.month < 100 ∧ wall.date.day < 100 ∧ wall.hour < 100 ∧ wall.minute < 100 ∧
      wall.second < 100 := by
  obtain ⟨_, _, _, december, _, lastDay⟩ := wall.date_isValid
  have long := CivilDate.daysInMonth_bounds wall.date.year wall.date.month
  have parts := wall.parts_lt
  omega

theorem afterYear_lt_iff (left right : WallTime) :
    left.afterYear < right.afterYear ↔
      left.date.month < right.date.month ∨ left.date.month = right.date.month ∧
        (left.date.day < right.date.day ∨ left.date.day = right.date.day ∧
          left.ClockLt right) := by
  obtain ⟨leftMonth, leftDay, leftHour, leftMinute, leftSecond⟩ := left.parts_fit
  obtain ⟨rightMonth, rightDay, rightHour, rightMinute, rightSecond⟩ := right.parts_fit
  unfold afterYear DatabaseForm.afterYear ClockLt
  rw [field_lt_field_iff '-' leftMonth rightMonth, field_lt_field_iff '-' leftDay rightDay,
    field_lt_field_iff ' ' leftHour rightHour, field_lt_field_iff ':' leftMinute rightMinute,
    field_lt_field_iff ':' leftSecond rightSecond]
  simp only [List.lt_irrefl, and_false, or_false]

/-- Within a year the texts are in the order of the seconds. -/
theorem afterYear_lt_iff_wholeSecond {left right : WallTime}
    (sameYear : left.date.year = right.date.year) :
    left.afterYear < right.afterYear ↔ left.wholeSecond.ticks < right.wholeSecond.ticks := by
  have days := CivilDate.dayNumber_lt_iff left.date_isValid right.date_isValid
  have daysBack := CivilDate.dayNumber_lt_iff right.date_isValid left.date_isValid
  have sameDay : left.date.dayNumber = right.date.dayNumber ↔
      left.date.month = right.date.month ∧ left.date.day = right.date.day := by
    omega
  rw [afterYear_lt_iff, wholeSecond_lt_iff, days, sameDay]
  simp only [sameYear, Nat.lt_irrefl, false_or, true_and, and_or_left, or_assoc, and_assoc]

/-! ## The order of the texts -/

/-- The later year begins, as a text, with less than the earlier one: the texts are in the other
order than the seconds. -/
def Overtakes (late early : WallTime) : Prop :=
  early.wholeSecond.ticks < late.wholeSecond.ticks ∧
    late.date.year / tenTo (decimalWidth late.date.year - decimalWidth early.date.year) <
      early.date.year

theorem year_le_of_wholeSecond_lt {early late : WallTime}
    (earlier : early.wholeSecond.ticks < late.wholeSecond.ticks) :
    early.date.year ≤ late.date.year := by
  have days := CivilDate.dayNumber_lt_iff late.date_isValid early.date_isValid
  have seconds := (wholeSecond_lt_iff early late).mp earlier
  by_contra later
  have sooner : late.date.dayNumber < early.date.dayNumber := days.mpr (.inl (by omega))
  omega

/-- The first digits of the later year, as many as the earlier year has, decide. -/
theorem toList_split {early late : WallTime} (le : early.date.year ≤ late.date.year) :
    late.databaseText.toList =
      fixedDigits (decimalWidth early.date.year)
          (late.date.year / tenTo (decimalWidth late.date.year - decimalWidth early.date.year)) ++
        (fixedDigits (decimalWidth late.date.year - decimalWidth early.date.year) late.date.year ++
          late.afterYear) := by
  have wider := Text.decimalWidth_mono le
  have split := Text.fixedDigits_add (decimalWidth early.date.year)
    (decimalWidth late.date.year - decimalWidth early.date.year) late.date.year
  rw [Nat.add_sub_cancel' wider] at split
  rw [databaseText_toList, split, List.append_assoc]

theorem hyphen_lt_fixedDigits {width number : Nat} (some : 0 < width) (hyphens rest : List Char) :
    '-' :: hyphens < fixedDigits width number ++ rest := by
  have digits : ∀ value < 10, '-' < Text.decimalDigit value := by
    decide
  cases written : fixedDigits width number with
  | nil =>
      have length := Text.length_fixedDigits width number
      rw [written] at length
      exact absurd length.symm (Nat.ne_of_gt some)
  | cons first others =>
      have member : first ∈ fixedDigits width number := by
        rw [written]
        exact List.mem_cons_self
      obtain ⟨value, small, rfl⟩ := Text.exists_of_mem_fixedDigits member
      rw [List.cons_append, List.cons_lt_cons_iff]
      exact .inl (digits value small)

/-- Of two texts in different seconds the earlier one comes first, unless it is overtaken. -/
theorem databaseText_order {early late : WallTime}
    (earlier : early.wholeSecond.ticks < late.wholeSecond.ticks) :
    (¬late.Overtakes early → early.databaseText < late.databaseText) ∧
      (late.Overtakes early → late.databaseText < early.databaseText) := by
  have le := year_le_of_wholeSecond_lt earlier
  have split := toList_split le
  have wider := Text.decimalWidth_mono le
  unfold Overtakes
  rw [String.lt_iff, String.lt_iff, split, databaseText_toList]
  have earlyFits := Text.lt_tenTo_decimalWidth early.date.year
  have firstFits : late.date.year /
      tenTo (decimalWidth late.date.year - decimalWidth early.date.year) <
        tenTo (decimalWidth early.date.year) := by
    have lateFits := Text.lt_tenTo_decimalWidth late.date.year
    refine Nat.div_lt_of_lt_mul ?_
    show _ < 10 ^ _ * 10 ^ _
    rw [← Nat.pow_add, Nat.sub_add_cancel wider]
    exact lateFits
  generalize decimalWidth early.date.year = width at *
  generalize decimalWidth late.date.year - width = more at *
  have length : ∀ left right : Nat,
      (fixedDigits width left).length = (fixedDigits width right).length := by
    intro left right
    rw [Text.length_fixedDigits, Text.length_fixedDigits]
  rw [Text.append_lt_append_iff (length _ _), Text.append_lt_append_iff (length _ _),
    Text.fixedDigits_lt_iff earlyFits firstFits, Text.fixedDigits_lt_iff firstFits earlyFits,
    Text.fixedDigits_inj earlyFits firstFits]
  constructor
  · intro notOvertaken
    rcases Nat.lt_trichotomy early.date.year (late.date.year / tenTo more) with less | same | more
    · exact .inl less
    · refine .inr ⟨same, ?_⟩
      rcases Nat.eq_zero_or_pos more with rfl | longer
      · rw [Text.tenTo_zero, Nat.div_one] at same
        exact (afterYear_lt_iff_wholeSecond same).mpr earlier
      · exact hyphen_lt_fixedDigits longer _ _
    · exact absurd ⟨earlier, more⟩ notOvertaken
  · exact fun overtaken => .inl overtaken.2

theorem decimalWidth_year (wall : WallTime) :
    decimalWidth wall.date.year = 4 ↔ 1000 ≤ wall.date.year := by
  obtain ⟨_, inCalendar, _⟩ := wall.date_isValid
  have below : wall.date.year < 10 ^ 4 := Nat.lt_of_le_of_lt inCalendar (by decide)
  have log := Nat.log_eq_iff (b := 10) (m := 3) (n := wall.date.year) (.inl (by decide))
  unfold decimalWidth
  constructor
  · intro width
    exact (log.mp (Nat.succ.inj width)).1
  · intro fourDigits
    rw [log.mpr ⟨fourDigits, below⟩]

/-- A year of four digits is never overtaken. -/
theorem not_overtakes_of_four_digits {early late : WallTime} (fourDigits : 1000 ≤ early.date.year) :
    ¬late.Overtakes early := by
  rintro ⟨earlier, overtaken⟩
  have le := year_le_of_wholeSecond_lt earlier
  have earlyWidth := early.decimalWidth_year.mpr fourDigits
  have lateWidth := late.decimalWidth_year.mpr (Nat.le_trans fourDigits le)
  rw [earlyWidth, lateWidth, Nat.sub_self, Text.tenTo_zero, Nat.div_one] at overtaken
  omega

theorem databaseText_wholeSecond (wall : WallTime) :
    wall.wholeSecond.databaseText = wall.databaseText := by
  unfold databaseText
  rw [date_wholeSecond, clockDigits_wholeSecond]

/-- The text of a wall time is that of its second and of no other. -/
theorem databaseText_eq_iff (left right : WallTime) :
    left.databaseText = right.databaseText ↔ left.wholeSecond = right.wholeSecond := by
  have differs : ∀ early late : WallTime, early.wholeSecond.ticks < late.wholeSecond.ticks →
      early.databaseText ≠ late.databaseText := by
    intro early late earlier same
    obtain ⟨inOrder, reversed⟩ := databaseText_order earlier
    rw [same] at inOrder reversed
    by_cases overtaken : late.Overtakes early
    · exact String.lt_irrefl _ (reversed overtaken)
    · exact String.lt_irrefl _ (inOrder overtaken)
  constructor
  · intro same
    rw [eq_iff_ticks]
    rcases Int.lt_trichotomy left.wholeSecond.ticks right.wholeSecond.ticks with less | equal | more
    · exact absurd same (differs left right less)
    · exact equal
    · exact absurd same.symm (differs right left more)
  · intro same
    rw [← databaseText_wholeSecond, same, databaseText_wholeSecond]

/-- Two texts are in the order of their seconds unless one of them overtakes the other. -/
theorem databaseText_lt_iff (left right : WallTime) :
    (left.databaseText < right.databaseText ↔
        left.wholeSecond.ticks < right.wholeSecond.ticks) ↔
      ¬left.Overtakes right ∧ ¬right.Overtakes left := by
  rcases Int.lt_trichotomy left.wholeSecond.ticks right.wholeSecond.ticks with less | same | more
  · obtain ⟨inOrder, reversed⟩ := databaseText_order less
    have behind : ¬left.Overtakes right := fun overtaken => Int.lt_asymm less overtaken.1
    by_cases overtaken : right.Overtakes left
    · have after := String.lt_asymm (reversed overtaken)
      simp only [less, after, overtaken, iff_true, not_true_eq_false, and_false]
    · simp only [less, inOrder overtaken, behind, overtaken, not_false_eq_true, and_self]
  · have text := (left.databaseText_eq_iff right).mpr (eq_iff_ticks.mpr same)
    have level : ¬left.Overtakes right := fun overtaken => Int.ne_of_lt overtaken.1 same.symm
    have levelBack : ¬right.Overtakes left := fun overtaken => Int.ne_of_lt overtaken.1 same
    simp only [text, same, Int.lt_irrefl, String.lt_irrefl, level, levelBack, not_false_eq_true,
      and_self]
  · obtain ⟨inOrder, reversed⟩ := databaseText_order more
    have behind : ¬right.Overtakes left := fun overtaken => Int.lt_asymm more overtaken.1
    have notLess := Int.lt_asymm more
    by_cases overtaken : left.Overtakes right
    · simp only [notLess, reversed overtaken, overtaken, iff_false, not_true_eq_false, false_and]
    · have after := String.lt_asymm (inOrder overtaken)
      simp only [notLess, after, overtaken, behind, not_false_eq_true, and_self]

/-! ## The form and its reader -/

theorem length_databaseText (wall : WallTime) :
    wall.databaseText.length = decimalWidth wall.date.year + 15 := by
  rw [← String.length_toList, databaseText_toList, List.length_append, Text.length_fixedDigits,
    afterYear, length_afterYear]

/-- Reads a text that has the form of a wall time in a database. -/
def ofDatabaseText? (text : String) : Option WallTime := do
  let (year, rest) ← Text.takeDigits 4 text.toList
  let (month, rest) ← readField '-' rest
  let (day, rest) ← readField '-' rest
  let (hour, rest) ← readField ' ' rest
  let (minute, rest) ← readField ':' rest
  let (second, rest) ← readField ':' rest
  if rest.isEmpty then ofParts? ⟨year, month, day⟩ hour minute second 0 else none

theorem ofDatabaseText?_databaseText {wall : WallTime} (fourDigits : 1000 ≤ wall.date.year) :
    ofDatabaseText? wall.databaseText = some wall.wholeSecond := by
  obtain ⟨monthFits, dayFits, hourFits, minuteFits, secondFits⟩ := wall.parts_fit
  have width := wall.decimalWidth_year.mpr fourDigits
  have yearFits := Text.lt_tenTo_decimalWidth wall.date.year
  rw [width] at yearFits
  have whole := wall.wholeSecond.ofParts?_parts
  rw [date_wholeSecond, hour_wholeSecond, minute_wholeSecond, second_wholeSecond,
    microsecond_wholeSecond] at whole
  unfold ofDatabaseText?
  rw [databaseText_toList, width]
  unfold afterYear DatabaseForm.afterYear
  simp only [Option.bind_eq_bind, Option.bind_some, Text.takeDigits_fixedDigits yearFits,
    readField_field '-' monthFits, readField_field '-' dayFits, readField_field ' ' hourFits,
    readField_field ':' minuteFits, readField_field ':' secondFits]
  rw [if_pos List.isEmpty_nil]
  exact whole

/-- A shorter year ends before its fourth digit. -/
theorem takeDigits_of_short {width : Nat} (short : width < 4) (number : Nat) (rest : List Char) :
    Text.takeDigits 4 (fixedDigits width number ++ '-' :: rest) = none := by
  have hyphen : '-' ∈ (fixedDigits width number ++ '-' :: rest).take 4 := by
    rw [List.take_append, Text.length_fixedDigits]
    obtain ⟨more, rests⟩ : ∃ more, 4 - width = more + 1 := ⟨3 - width, by omega⟩
    rw [rests, List.take_succ_cons]
    exact List.mem_append_right _ List.mem_cons_self
  unfold Text.takeDigits
  refine if_neg fun read => ?_
  have digit := List.all_eq_true.mp read.2 '-' hyphen
  cases digit

theorem ofDatabaseText?_of_short {wall : WallTime} (short : wall.date.year < 1000) :
    ofDatabaseText? wall.databaseText = none := by
  have width : decimalWidth wall.date.year < 4 := by
    have log := Nat.log_lt_of_lt_pow (b := 10) (x := 3) (Nat.ne_of_gt wall.date_isValid.1) short
    unfold decimalWidth
    omega
  unfold ofDatabaseText?
  rw [databaseText_toList]
  show Text.takeDigits 4 (_ ++ '-' :: _) >>= _ = _
  rw [takeDigits_of_short width]
  rfl

end WallTime

/-- Four digits of a year and two of month, day, hour, minute and second, between their marks. -/
def HasDatabaseForm (text : String) : Prop :=
  ∃ (date : CivilDate) (hour minute second : Nat),
    text.toList = fixedDigits 4 date.year ++ DatabaseForm.afterYear date hour minute second

namespace WallTime

theorem hasDatabaseForm_iff (wall : WallTime) :
    HasDatabaseForm wall.databaseText ↔ 1000 ≤ wall.date.year := by
  rw [← decimalWidth_year]
  constructor
  · rintro ⟨date, hour, minute, second, written⟩
    have length := congrArg List.length written
    rw [String.length_toList, length_databaseText, List.length_append, Text.length_fixedDigits,
      length_afterYear] at length
    omega
  · intro width
    refine ⟨wall.date, wall.hour, wall.minute, wall.second, ?_⟩
    rw [databaseText_toList, width]
    rfl

end WallTime

namespace Moment

theorem databaseText_of_denotes {moment : Moment} {utc : WallTime} (system : ZoneRule)
    (denotes : moment.Denotes utc) : moment.databaseText system = .ok utc.databaseText := by
  obtain ⟨shown, converted, rfl⟩ := inUtc_of_denotes system denotes
  unfold databaseText
  rw [converted]
  rfl

end Moment

/-- The text of a moment has its form, its length and its meaning exactly from the year 1000 on.
Two texts are the same exactly in the same second, and they are in the order of their seconds
unless the later one is overtaken by the earlier one, which never happens from the year 1000 on. -/
theorem database_text_is_faithful_iff (system : ZoneRule) {left right : Moment}
    {leftUtc rightUtc : WallTime} (leftDenotes : left.Denotes leftUtc)
    (rightDenotes : right.Denotes rightUtc) :
    ∃ leftText rightText,
      left.databaseText system = .ok leftText ∧ right.databaseText system = .ok rightText ∧
      (HasDatabaseForm leftText ↔ 1000 ≤ leftUtc.date.year) ∧
      (leftText.length = 19 ↔ 1000 ≤ leftUtc.date.year) ∧
      ((∃ second, WallTime.ofDatabaseText? leftText = some second ∧
          IsGreatest (wholeSecondsUpTo leftUtc.ticks) second.ticks) ↔
        1000 ≤ leftUtc.date.year) ∧
      (leftText = rightText ↔ leftUtc.wholeSecond = rightUtc.wholeSecond) ∧
      ((leftText < rightText ↔ leftUtc.wholeSecond.ticks < rightUtc.wholeSecond.ticks) ↔
        ¬leftUtc.Overtakes rightUtc ∧ ¬rightUtc.Overtakes leftUtc) ∧
      (1000 ≤ leftUtc.date.year → 1000 ≤ rightUtc.date.year →
        ¬leftUtc.Overtakes rightUtc ∧ ¬rightUtc.Overtakes leftUtc) := by
  refine ⟨_, _, Moment.databaseText_of_denotes system leftDenotes,
    Moment.databaseText_of_denotes system rightDenotes, leftUtc.hasDatabaseForm_iff, ?_, ?_,
    leftUtc.databaseText_eq_iff rightUtc, ?_, ?_⟩
  · rw [WallTime.length_databaseText, ← WallTime.decimalWidth_year]
    omega
  · constructor
    · rintro ⟨second, read, _⟩
      by_contra short
      rw [WallTime.ofDatabaseText?_of_short (Nat.not_le.mp short)] at read
      cases read
    · intro fourDigits
      exact ⟨_, WallTime.ofDatabaseText?_databaseText fourDigits,
        leftUtc.wholeSecond_isGreatest⟩
  · exact leftUtc.databaseText_lt_iff rightUtc
  · intro leftDigits rightDigits
    exact ⟨WallTime.not_overtakes_of_four_digits rightDigits,
      WallTime.not_overtakes_of_four_digits leftDigits⟩

/-- The second half past two of Berlin sorts after the first one, whose wall time it shares. -/
theorem half_past_two_sorts_by_instant :
    (Moment.halfPastTwo false).wall = (Moment.halfPastTwo true).wall ∧
    ∃ first second,
      (Moment.halfPastTwo false).databaseText .utc = .ok first ∧
      (Moment.halfPastTwo true).databaseText .utc = .ok second ∧
      HasDatabaseForm first ∧ first.length = 19 ∧ first ≠ second ∧ first < second := by
  obtain ⟨firstDenotes, secondDenotes⟩ := Moment.halfPastTwo_denotes
  have firstDigits : 1000 ≤ Moment.firstHalfPastTwo.date.year := by decide +kernel
  have secondDigits : 1000 ≤ Moment.secondHalfPastTwo.date.year := by decide +kernel
  have later : Moment.firstHalfPastTwo.wholeSecond.ticks <
      Moment.secondHalfPastTwo.wholeSecond.ticks := by
    decide
  obtain ⟨first, second, written, writtenLater, form, length, _, same, order, never⟩ :=
    database_text_is_faithful_iff .utc firstDenotes secondDenotes
  refine ⟨rfl, first, second, written, writtenLater, form.mpr firstDigits, length.mpr firstDigits,
    fun equal => ?_, (order.mpr (never firstDigits secondDigits)).mpr later⟩
  rw [same.mp equal] at later
  exact Int.lt_irrefl _ later

/-- The last second of the year 999 and the first one of the year 1000. -/
def endOfYear999 : WallTime := ⟨31525372799000000, by decide, by decide⟩

def startOfYear1000 : WallTime := ⟨31525372800000000, by decide, by decide⟩

/-- The last second of the year 999 has a text of eighteen characters that cannot be read, and
it sorts after the first second of the year 1000. -/
theorem year_999_sorts_after_year_1000 :
    endOfYear999.wholeSecond.ticks < startOfYear1000.wholeSecond.ticks ∧
    (Moment.mk .timestamp endOfYear999 (some .utc) false).databaseText .utc =
      .ok "999-12-31 23:59:59" ∧
    (Moment.mk .timestamp startOfYear1000 (some .utc) false).databaseText .utc =
      .ok "1000-01-01 00:00:00" ∧
    "999-12-31 23:59:59".length ≠ 19 ∧
    WallTime.ofDatabaseText? "999-12-31 23:59:59" = none ∧
    "1000-01-01 00:00:00" < "999-12-31 23:59:59" := by
  refine ⟨by decide, by rfl, by rfl, by decide, by rfl, by decide⟩

end VirtualClock
