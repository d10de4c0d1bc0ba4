import VirtualClock.Moment.Reader
import VirtualClock.Moment.Text
import VirtualClock.Proofs.Calendar

/-!
# Printed moments are read back

The ISO form of a moment whose offset is a whole number of seconds, less than a day,
is read as the moment that was printed, with nothing but the offset as its zone.  The
parts are read one by one, each off the front of what is left.
-/

namespace VirtualClock

namespace WallTime

/-- The fraction of a second as it is printed. -/
def fractionDigits (wall : WallTime) : List Char :=
  if wall.microsecond = 0 then [] else '.' :: Text.fixedDigits 6 wall.microsecond

end WallTime

/-! ## Digits -/

namespace Text

theorem length_fixedDigits (width number : Nat) : (fixedDigits width number).length = width := by
  induction width generalizing number with
  | zero => rfl
  | succ width inductionHypothesis =>
      rw [fixedDigits, List.length_append, inductionHypothesis, List.length_singleton]

theorem exists_of_mem_fixedDigits {width number : Nat} {digit : Char}
    (written : digit ∈ fixedDigits width number) : ∃ value < 10, digit = decimalDigit value := by
  induction width generalizing number with
  | zero => cases written
  | succ width inductionHypothesis =>
      rcases List.mem_append.mp written with higher | last
      · exact inductionHypothesis higher
      · exact ⟨number % 10, Nat.mod_lt number (by decide), List.mem_singleton.mp last⟩

theorem isDigit_of_mem_fixedDigits {width number : Nat} {digit : Char}
    (written : digit ∈ fixedDigits width number) : digit.isDigit = true := by
  have digits : ∀ value < 10, (decimalDigit value).isDigit = true := by
    decide
  obtain ⟨value, small, rfl⟩ := exists_of_mem_fixedDigits written
  exact digits value small

theorem digitsValue_fixedDigits (width number : Nat) :
    digitsValue (fixedDigits width number) = number % tenTo width := by
  induction width generalizing number with
  | zero => exact (Nat.mod_one number).symm
  | succ width inductionHypothesis =>
      have value : ∀ digit < 10, digitValue (decimalDigit digit) = digit := by
        decide
      have next : tenTo (width + 1) = 10 * tenTo width := Nat.mul_comm (tenTo width) 10
      have higher := inductionHypothesis (number / 10)
      unfold digitsValue at higher ⊢
      rw [fixedDigits, List.foldl_append, higher]
      show number / 10 % tenTo width * 10 + digitValue (decimalDigit (number % 10)) = _
      rw [value _ (Nat.mod_lt number (by decide)), next, Nat.mod_mul]
      omega

theorem takeDigits_fixedDigits {width number : Nat} (fits : number < tenTo width)
    (rest : List Char) :
    takeDigits width (fixedDigits width number ++ rest) = some (number, rest) := by
  have length := length_fixedDigits width number
  have front : (fixedDigits width number ++ rest).take width = fixedDigits width number :=
    List.take_left' length
  have behind : (fixedDigits width number ++ rest).drop width = rest :=
    List.drop_left' length
  have digits : (fixedDigits width number).all Char.isDigit = true :=
    List.all_eq_true.mpr fun digit written => isDigit_of_mem_fixedDigits written
  unfold takeDigits
  dsimp only
  rw [front, behind, digitsValue_fixedDigits, Nat.mod_eq_of_lt fits]
  exact if_pos ⟨length, digits⟩

end Text

namespace IsoForm

open Text

/-! ## Times of day -/

theorem readParts_nil (count : Nat) : readParts true count [] = some ([], 0, true) := by
  unfold readParts
  rfl

theorem readParts_part {count part : Nat} {rest : List Char} {read : List Nat × Nat × Bool}
    (fits : part < tenTo 2) (following : readParts true count rest = some read) :
    readParts true (count + 1) (':' :: (fixedDigits 2 part ++ rest)) =
      some (part :: read.1, read.2) := by
  have goesOn : continuation true (':' :: (fixedDigits 2 part ++ rest)) =
      some (.part (fixedDigits 2 part ++ rest)) := rfl
  unfold readParts
  rw [goesOn]
  show takeDigits 2 (fixedDigits 2 part ++ rest) >>= _ = _
  rw [takeDigits_fixedDigits fits]
  show readParts true count rest >>= _ = _
  rw [following]
  rfl

theorem readParts_fraction {microsecond : Nat} (count : Nat) (fits : microsecond < tenTo 6) :
    readParts true count ('.' :: fixedDigits 6 microsecond) = some ([], microsecond, true) := by
  have goesOn : continuation true ('.' :: fixedDigits 6 microsecond) =
      some (.fraction (fixedDigits 6 microsecond)) := rfl
  have taken := takeDigits_fixedDigits fits []
  rw [List.append_nil] at taken
  have read : readFraction (fixedDigits 6 microsecond) = some (microsecond, true) := by
    have places : min fractionPlaces (fixedDigits 6 microsecond).length = 6 := rfl
    unfold readFraction
    dsimp only
    rw [places, taken]
    show some (microsecond * 1, true) = _
    rw [Nat.mul_one]
  unfold readParts
  rw [goesOn]
  show readFraction (fixedDigits 6 microsecond) >>= _ = _
  rw [read]
  rfl

theorem readClock_eq {hour : Nat} {rest : List Char} {read : List Nat × Nat × Bool}
    (fits : hour < tenTo 2) (colon : rest.head? = some ':')
    (following : readParts true 2 rest = some read) :
    readClock (fixedDigits 2 hour ++ rest) =
      some ⟨⟨hour, read.1[0]?.getD 0, read.1[1]?.getD 0, read.2.1⟩, read.2.2⟩ := by
  unfold readClock
  rw [takeDigits_fixedDigits fits]
  show readParts (rest.head? == some ':') 2 rest >>= _ = _
  rw [colon]
  show readParts true 2 rest >>= _ = _
  rw [following]
  rfl

/-- The time of day is read to its last part, with its fraction where it has one. -/
theorem readClock_clockDigits (wall : WallTime) :
    readClock (wall.clockDigits ++ wall.fractionDigits) =
      some ⟨⟨wall.hour, wall.minute, wall.second, wall.microsecond⟩, true⟩ := by
  obtain ⟨hours, minutes, seconds, micros⟩ := wall.parts_lt
  have fraction : readParts true 0 wall.fractionDigits = some ([], wall.microsecond, true) := by
    unfold WallTime.fractionDigits
    by_cases whole : wall.microsecond = 0
    · rw [if_pos whole, whole]
      exact readParts_nil 0
    · rw [if_neg whole]
      exact readParts_fraction 0 micros
  have parts := readParts_part (Nat.lt_trans minutes (by decide))
    (readParts_part (Nat.lt_trans seconds (by decide)) fraction)
  have clock := readClock_eq (Nat.lt_trans hours (by decide)) rfl parts
  have written : wall.clockDigits ++ wall.fractionDigits =
      fixedDigits 2 wall.hour ++ ':' :: (fixedDigits 2 wall.minute ++
        ':' :: (fixedDigits 2 wall.second ++ wall.fractionDigits)) := by
    simp [WallTime.clockDigits]
  rw [written, clock]
  rfl

/-! ## Offsets -/

/-- Hours and minutes of a count of seconds, and the seconds where there are any. -/
def spanDigits (seconds : Nat) : List Char :=
  fixedDigits 2 (seconds / 3600) ++ ':' :: (fixedDigits 2 (seconds / 60 % 60) ++
    if seconds % 60 = 0 then [] else ':' :: fixedDigits 2 (seconds % 60))

def offsetDigits (seconds : Int) : List Char :=
  (if seconds < 0 then '-' else '+') :: spanDigits seconds.natAbs

theorem offsetText_toList (seconds : Int) :
    (offsetText (seconds * 1000000)).toList = offsetDigits seconds := by
  have size : (seconds * 1000000).natAbs / 1000000 = seconds.natAbs := by
    omega
  have fraction : (seconds * 1000000).natAbs % 1000000 = 0 := by
    omega
  have negative : seconds * 1000000 < 0 ↔ seconds < 0 := by
    omega
  unfold offsetText offsetDigits spanDigits
  dsimp only
  rw [size, fraction]
  simp only [negative]
  by_cases west : seconds < 0
  · by_cases whole : seconds.natAbs % 60 = 0
    · simp [west, whole]
    · simp [west, whole]
  · by_cases whole : seconds.natAbs % 60 = 0
    · simp [west, whole]
    · simp [west, whole]

theorem readClock_spanDigits {seconds : Nat} (short : seconds < 86400) :
    readClock (spanDigits seconds) =
      some ⟨⟨seconds / 3600, seconds / 60 % 60, seconds % 60, 0⟩, true⟩ := by
  have hours : seconds / 3600 < tenTo 2 := by
    show seconds / 3600 < 100
    omega
  have minutes : seconds / 60 % 60 < tenTo 2 :=
    Nat.lt_trans (Nat.mod_lt _ (by decide)) (by decide)
  unfold spanDigits
  by_cases whole : seconds % 60 = 0
  · rw [if_pos whole, whole]
    rw [readClock_eq hours rfl (readParts_part minutes (readParts_nil 1))]
    rfl
  · have odd : seconds % 60 < tenTo 2 :=
      Nat.lt_trans (Nat.mod_lt _ (by decide)) (by decide)
    have last := readParts_part odd (readParts_nil 0)
    rw [List.append_nil] at last
    rw [if_neg whole, readClock_eq hours rfl (readParts_part minutes last)]
    rfl

/-- The parts of a span of seconds give the zone of the span back, under either sign. -/
theorem zoneOfOffset_span {span : Nat} (short : span < 86400) (negative : Bool) :
    zoneOfOffset negative ⟨span / 3600, span / 60 % 60, span % 60, 0⟩ =
      some (Zone.ofOffset (Binary64.withSign negative (span * 1000000)) none) := by
  have total : span / 3600 * 3600 + span / 60 % 60 * 60 + span % 60 = span := by
    omega
  have inDay : ¬dayMicros ≤ span * 1000000 := by
    unfold dayMicros
    omega
  unfold zoneOfOffset
  dsimp only
  rw [total, Nat.add_zero, if_neg inDay]
  by_cases nothing : span = 0
  · rw [if_pos nothing, nothing]
    cases negative <;> rfl
  · rw [if_neg nothing]

theorem withSign_natAbs (seconds : Int) :
    Binary64.withSign (decide (seconds < 0)) (seconds.natAbs * 1000000) = seconds * 1000000 := by
  unfold Binary64.withSign
  by_cases west : seconds < 0
  · rw [decide_eq_true west, if_pos rfl]
    omega
  · rw [decide_eq_false west, if_neg Bool.false_ne_true]
    omega

theorem readZone_signed {sign : Char} {rest : List Char} {parts : ClockParts} (signed : sign ≠ 'Z')
    (read : readClock rest = some ⟨parts, true⟩) :
    readZone (sign :: rest) = zoneOfOffset (sign == '-') parts := by
  unfold readZone
  split
  · rename_i nothing
    cases nothing
  · rename_i letter
    exact absurd (List.cons.inj letter).1 signed
  · rename_i same
    obtain ⟨rfl, rfl⟩ := List.cons.inj same
    rw [read, Option.bind_eq_bind, Option.bind_some]
    exact if_pos rfl

/-- A written offset that is less than a day is read as the zone of that offset. -/
theorem readZone_offsetDigits {seconds : Int} (short : seconds.natAbs < 86400) :
    readZone (offsetDigits seconds) = some (Zone.ofOffset (seconds * 1000000) none) := by
  have clock := readClock_spanDigits short
  have zone := zoneOfOffset_span short (decide (seconds < 0))
  rw [withSign_natAbs] at zone
  unfold offsetDigits
  by_cases west : seconds < 0
  · rw [decide_eq_true west] at zone
    rw [if_pos west, readZone_signed (by decide) clock]
    exact zone
  · rw [decide_eq_false west] at zone
    rw [if_neg west, readZone_signed (by decide) clock]
    exact zone

/-! ## Dates -/

/-- The date in its printed form. -/
def dateDigits (date : CivilDate) : List Char :=
  fixedDigits 4 date.year ++ '-' :: (fixedDigits 2 date.month ++ '-' :: fixedDigits 2 date.day)

theorem isoText_toList (date : CivilDate) : date.isoText.toList = dateDigits date := by
  simp [CivilDate.isoText, dateDigits]

theorem length_dateDigits (date : CivilDate) : (dateDigits date).length = 10 := by
  simp [dateDigits, length_fixedDigits]

theorem readDate_dateDigits {date : CivilDate} (valid : date.IsValid) :
    readDate (dateDigits date) = some date := by
  have ⟨_, inCalendar, _, december, _, lastDay⟩ := valid
  have long := CivilDate.daysInMonth_bounds date.year date.month
  have year : date.year < tenTo 4 := Nat.lt_of_le_of_lt inCalendar (by decide)
  have month : date.month < tenTo 2 := Nat.lt_of_le_of_lt december (by decide)
  have day : date.day < tenTo 2 :=
    Nat.lt_of_le_of_lt (Nat.le_trans lastDay long.2) (by decide)
  have monthDay : readMonthDay true (fixedDigits 2 date.month ++ '-' :: fixedDigits 2 date.day) =
      some (date.month, date.day) := by
    have lastTaken := takeDigits_fixedDigits day []
    rw [List.append_nil] at lastTaken
    unfold readMonthDay
    rw [takeDigits_fixedDigits month]
    show takeDigits 2 (fixedDigits 2 date.day) >>= _ = _
    rw [lastTaken]
    rfl
  unfold readDate dateDigits
  rw [takeDigits_fixedDigits year]
  dsimp only [bind, Option.bind]
  -- after the year a week would begin with its letter, and a month begins with a digit
  split
  · rename_i rest isWeek
    have letter : ∀ value < 10, decimalDigit value ≠ 'W' := by
      decide
    have first : decimalDigit (date.month / 10 % 10) = 'W' :=
      (List.cons.inj (List.cons.inj isWeek).2).1
    exact absurd first (letter _ (Nat.mod_lt _ (by decide)))
  · rename_i rest isWeek
    cases (List.cons.inj isWeek).1
  · rename_i rest _ isMonth
    rw [← (List.cons.inj isMonth).2, monthDay]
    dsimp only
    unfold CivilDate.ofParts?
    exact if_pos valid
  · rename_i noMonth
    exact absurd rfl (noMonth _)

/-- A printed date with something after it is taken for a date by month and day. -/
theorem dateLength_dateDigits (date : CivilDate) (separator : Char) (rest : List Char) :
    dateLength (dateDigits date ++ separator :: rest) = 10 := by
  have long : (dateDigits date ++ separator :: rest).length ≠ 7 := by
    rw [List.length_append, length_dateDigits]
    omega
  have hyphen : (dateDigits date ++ separator :: rest)[4]? = some '-' := rfl
  have letter : ∀ value < 10, some (decimalDigit value) ≠ some 'W' := by
    decide
  have digit : (dateDigits date ++ separator :: rest)[5]? =
      some (decimalDigit (date.month / 10 % 10)) := rfl
  have noWeek := letter (date.month / 10 % 10) (Nat.mod_lt _ (by decide))
  unfold dateLength
  rw [if_neg long, hyphen, digit, if_neg noWeek]
  rfl

/-! ## Characters -/

/-- What times of day and the sizes of offsets are written with. -/
def IsClockMark (character : Char) : Prop :=
  (∃ value < 10, character = decimalDigit value) ∨ character = ':' ∨ character = '.'

theorem isClockMark_of_digits {width number : Nat} {digit : Char}
    (written : digit ∈ fixedDigits width number) : IsClockMark digit :=
  .inl (exists_of_mem_fixedDigits written)

theorem size_of_isClockMark {character : Char} (mark : IsClockMark character) :
    character.utf8Size = 1 := by
  have digits : ∀ value < 10, (decimalDigit value).utf8Size = 1 := by
    decide
  rcases mark with ⟨value, small, rfl⟩ | rfl | rfl
  · exact digits value small
  · rfl
  · rfl

theorem beginsZone_of_isClockMark {character : Char} (mark : IsClockMark character) :
    beginsZone character = false := by
  have digits : ∀ value < 10, beginsZone (decimalDigit value) = false := by
    decide
  rcases mark with ⟨value, small, rfl⟩ | rfl | rfl
  · exact digits value small
  · rfl
  · rfl

theorem isClockMark_of_clock {wall : WallTime} {character : Char}
    (written : character ∈ wall.clockDigits ++ wall.fractionDigits) : IsClockMark character := by
  rcases List.mem_append.mp written with clock | fraction
  · simp only [WallTime.clockDigits, List.mem_append, List.mem_cons] at clock
    rcases clock with (digit | rfl | digit) | rfl | digit
    · exact isClockMark_of_digits digit
    · exact .inr (.inl rfl)
    · exact isClockMark_of_digits digit
    · exact .inr (.inl rfl)
    · exact isClockMark_of_digits digit
  · unfold WallTime.fractionDigits at fraction
    by_cases whole : wall.microsecond = 0
    · rw [if_pos whole] at fraction
      cases fraction
    · rw [if_neg whole] at fraction
      rcases List.mem_cons.mp fraction with rfl | digit
      · exact .inr (.inr rfl)
      · exact isClockMark_of_digits digit

theorem isClockMark_of_span {seconds : Nat} {character : Char}
    (written : character ∈ spanDigits seconds) : IsClockMark character := by
  unfold spanDigits at written
  by_cases whole : seconds % 60 = 0
  · rw [if_pos whole, List.append_nil] at written
    simp only [List.mem_append, List.mem_cons] at written
    rcases written with digit | rfl | digit
    · exact isClockMark_of_digits digit
    · exact .inr (.inl rfl)
    · exact isClockMark_of_digits digit
  · rw [if_neg whole] at written
    simp only [List.mem_append, List.mem_cons] at written
    rcases written with digit | rfl | digit | rfl | digit
    · exact isClockMark_of_digits digit
    · exact .inr (.inl rfl)
    · exact isClockMark_of_digits digit
    · exact .inr (.inl rfl)
    · exact isClockMark_of_digits digit

theorem units_eq {text : String} (single : ∀ character ∈ text.toList, character.utf8Size = 1) :
    units text = text.toList := by
  unfold units
  generalize text.toList = characters at single ⊢
  induction characters with
  | nil => rfl
  | cons first rest inductionHypothesis =>
      have alone : unitsOf first = [first] := by
        unfold unitsOf
        rw [single first List.mem_cons_self]
        rfl
      rw [List.flatMap_cons, alone,
        inductionHypothesis fun character later => single character (List.mem_cons_of_mem _ later)]
      rfl

theorem size_of_mem_offsetDigits {seconds : Int} {character : Char}
    (written : character ∈ offsetDigits seconds) : character.utf8Size = 1 := by
  unfold offsetDigits at written
  rcases List.mem_cons.mp written with sign | span
  · by_cases west : seconds < 0
    · rw [sign, if_pos west]
      rfl
    · rw [sign, if_neg west]
      rfl
  · exact size_of_isClockMark (isClockMark_of_span span)

theorem size_of_mem_dateDigits {date : CivilDate} {character : Char}
    (written : character ∈ dateDigits date) : character.utf8Size = 1 := by
  simp only [dateDigits, List.mem_append, List.mem_cons] at written
  rcases written with digit | rfl | digit | rfl | digit
  · exact size_of_isClockMark (isClockMark_of_digits digit)
  · rfl
  · exact size_of_isClockMark (isClockMark_of_digits digit)
  · rfl
  · exact size_of_isClockMark (isClockMark_of_digits digit)

end IsoForm

/-! ## Moments -/

namespace WallTime

open IsoForm

/-- Date and time as they are printed. -/
def isoDigits (wall : WallTime) : List Char :=
  dateDigits wall.date ++ 'T' :: (wall.clockDigits ++ wall.fractionDigits)

theorem isoText_toList (wall : WallTime) : (wall.isoText 'T').toList = wall.isoDigits := by
  unfold isoText isoDigits fractionDigits
  by_cases whole : wall.microsecond = 0
  · simp [whole, IsoForm.isoText_toList]
  · simp [whole, IsoForm.isoText_toList]

theorem size_of_mem_isoDigits {wall : WallTime} {character : Char}
    (written : character ∈ wall.isoDigits) : character.utf8Size = 1 := by
  unfold isoDigits at written
  rcases List.mem_append.mp written with date | behind
  · exact size_of_mem_dateDigits date
  · rcases List.mem_cons.mp behind with rfl | clock
    · rfl
    · exact size_of_isClockMark (isClockMark_of_clock clock)

end WallTime

namespace Moment

open IsoForm

variable {moment : Moment} {seconds : Int}

theorem isoText_toList (known : moment.offset? = some (seconds * 1000000)) :
    moment.isoText.toList = moment.wall.isoDigits ++ offsetDigits seconds := by
  unfold isoText textWith
  rw [known, String.toList_append, moment.wall.isoText_toList, offsetText_toList]

theorem units_isoText (known : moment.offset? = some (seconds * 1000000)) :
    units moment.isoText = moment.wall.isoDigits ++ offsetDigits seconds := by
  have single : ∀ character ∈ moment.isoText.toList, character.utf8Size = 1 := by
    intro character written
    rw [isoText_toList known] at written
    rcases List.mem_append.mp written with onWall | offset
    · exact WallTime.size_of_mem_isoDigits onWall
    · exact size_of_mem_offsetDigits offset
  rw [units_eq single, isoText_toList known]

theorem readTimeOf_digits (wall : WallTime) (short : seconds.natAbs < 86400) :
    readTimeOf wall.date (wall.clockDigits ++ wall.fractionDigits ++ offsetDigits seconds) =
      some ⟨.plain, wall, some (Zone.ofOffset (seconds * 1000000) none), false⟩ := by
  have noZone : ∀ character ∈ wall.clockDigits ++ wall.fractionDigits,
      (!beginsZone character) = true := by
    intro character written
    rw [beginsZone_of_isClockMark (isClockMark_of_clock written)]
    rfl
  have zoneBegins : (offsetDigits seconds).takeWhile (!beginsZone ·) = [] := by
    unfold offsetDigits
    by_cases west : seconds < 0
    · rw [if_pos west]
      rfl
    · rw [if_neg west]
      rfl
  have front : (wall.clockDigits ++ wall.fractionDigits ++ offsetDigits seconds).takeWhile
      (!beginsZone ·) = wall.clockDigits ++ wall.fractionDigits := by
    rw [List.takeWhile_append_of_pos noZone, zoneBegins, List.append_nil]
  have behind : (wall.clockDigits ++ wall.fractionDigits ++ offsetDigits seconds).drop
      (wall.clockDigits ++ wall.fractionDigits).length = offsetDigits seconds :=
    List.drop_left
  unfold readTimeOf
  dsimp only
  rw [front, behind, readClock_clockDigits]
  show (readZone (offsetDigits seconds)).map some >>= _ = _
  rw [readZone_offsetDigits short]
  show WallTime.ofParts? wall.date wall.hour wall.minute wall.second wall.microsecond >>= _ = _
  rw [wall.ofParts?_parts]
  rfl

/-- The printed form of a moment is read as the same wall time at the same offset. -/
theorem ofIsoText?_isoText (known : moment.offset? = some (seconds * 1000000))
    (short : seconds.natAbs < 86400) :
    ofIsoText? moment.isoText =
      some ⟨.plain, moment.wall, some (Zone.ofOffset (seconds * 1000000) none), false⟩ := by
  have length := length_dateDigits moment.wall.date
  have written : units moment.isoText = dateDigits moment.wall.date ++
      'T' :: (moment.wall.clockDigits ++ moment.wall.fractionDigits ++ offsetDigits seconds) := by
    rw [units_isoText known]
    unfold WallTime.isoDigits
    rw [List.append_assoc, List.cons_append]
  unfold ofIsoText?
  dsimp only
  rw [written, dateLength_dateDigits, List.take_left' length, List.drop_left' length,
    readDate_dateDigits moment.wall.date_isValid]
  exact readTimeOf_digits moment.wall short

end Moment

end VirtualClock
