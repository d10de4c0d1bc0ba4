import Mathlib.Data.List.TakeWhile
import VirtualClock.Proofs.IsoTexts

/-!
# Printed moments without their fraction

Taking the fraction of a second out of a printed moment gives the print of the whole
second: nothing else in the text changes, and where there is no fraction the text
stays as it is.
-/

namespace VirtualClock

namespace Text

/-- What is left of some characters when their first point goes, with the digits after it. -/
def dropFraction (characters : List Char) : List Char :=
  characters.takeWhile (· != '.') ++
    ((characters.dropWhile (· != '.')).drop 1).dropWhile Char.isDigit

/-- A text without the fraction that is written in it. -/
def withoutFraction (text : String) : String := String.ofList (dropFraction text.toList)

theorem dropFraction_of_not_mem {characters : List Char} (noPoint : '.' ∉ characters) :
    dropFraction characters = characters := by
  have plain : ∀ character ∈ characters, (character != '.') = true := by
    intro character written
    rw [bne_iff_ne]
    rintro rfl
    exact noPoint written
  unfold dropFraction
  rw [List.takeWhile_eq_self_iff.mpr plain, List.dropWhile_eq_nil_iff.mpr plain]
  exact List.append_nil characters

theorem dropFraction_append {front behind : List Char} (width number : Nat) (noPoint : '.' ∉ front)
    (stops : behind.dropWhile Char.isDigit = behind) :
    dropFraction (front ++ '.' :: (fixedDigits width number ++ behind)) = front ++ behind := by
  have plain : ∀ character ∈ front, (character != '.') = true := by
    intro character written
    rw [bne_iff_ne]
    rintro rfl
    exact noPoint written
  have digits : ∀ digit ∈ fixedDigits width number, digit.isDigit = true :=
    fun digit written => isDigit_of_mem_fixedDigits written
  unfold dropFraction
  rw [List.takeWhile_append_of_pos plain, List.dropWhile_append_of_pos plain]
  show front ++ [] ++ (fixedDigits width number ++ behind).dropWhile Char.isDigit = _
  rw [List.dropWhile_append_of_pos digits, stops, List.append_nil]

end Text

namespace WallTime

open IsoForm

theorem microsecond_wholeSecond (wall : WallTime) : wall.wholeSecond.microsecond = 0 := by
  unfold microsecond tickOfDay wholeSecond ticksPerDay
  dsimp only
  omega

theorem date_wholeSecond (wall : WallTime) : wall.wholeSecond.date = wall.date := by
  have sameDay : wall.wholeSecond.dayNumber = wall.dayNumber := by
    unfold dayNumber wholeSecond ticksPerDay
    dsimp only
    omega
  unfold date
  rw [sameDay]

theorem hour_wholeSecond (wall : WallTime) : wall.wholeSecond.hour = wall.hour := by
  unfold hour tickOfDay wholeSecond ticksPerDay
  dsimp only
  omega

theorem minute_wholeSecond (wall : WallTime) : wall.wholeSecond.minute = wall.minute := by
  unfold minute tickOfDay wholeSecond ticksPerDay
  dsimp only
  omega

theorem second_wholeSecond (wall : WallTime) : wall.wholeSecond.second = wall.second := by
  unfold second tickOfDay wholeSecond ticksPerDay
  dsimp only
  omega

theorem clockDigits_wholeSecond (wall : WallTime) :
    wall.wholeSecond.clockDigits = wall.clockDigits := by
  unfold clockDigits
  rw [hour_wholeSecond, minute_wholeSecond, second_wholeSecond]

theorem seconds_wholeSecond (wall : WallTime) : wall.wholeSecond.seconds = wall.seconds := by
  unfold seconds wholeSecond ticksPerSecond
  dsimp only
  omega

theorem isoDigits_wholeSecond (wall : WallTime) :
    wall.wholeSecond.isoDigits = dateDigits wall.date ++ 'T' :: wall.clockDigits := by
  unfold isoDigits fractionDigits
  rw [date_wholeSecond, clockDigits_wholeSecond, microsecond_wholeSecond, if_pos rfl,
    List.append_nil]

end WallTime

namespace IsoForm

open Text

theorem point_not_mem_fixedDigits (width number : Nat) : '.' ∉ fixedDigits width number := by
  intro written
  have digit := isDigit_of_mem_fixedDigits written
  cases digit

theorem point_not_mem_isoDigits (wall : WallTime) : '.' ∉ wall.wholeSecond.isoDigits := by
  rw [wall.isoDigits_wholeSecond]
  simp [dateDigits, WallTime.clockDigits, point_not_mem_fixedDigits]

theorem point_not_mem_offsetDigits (seconds : Int) : '.' ∉ offsetDigits seconds := by
  unfold offsetDigits spanDigits
  by_cases west : seconds < 0
  · by_cases whole : seconds.natAbs % 60 = 0
    · simp [west, whole, point_not_mem_fixedDigits]
    · simp [west, whole, point_not_mem_fixedDigits]
  · by_cases whole : seconds.natAbs % 60 = 0
    · simp [west, whole, point_not_mem_fixedDigits]
    · simp [west, whole, point_not_mem_fixedDigits]

end IsoForm

open IsoForm

/-- Without its fraction the printed moment is the print of the whole second. -/
theorem Moment.withoutFraction_isoText {moment whole : Moment} {seconds : Int}
    (known : moment.offset? = some (seconds * 1000000))
    (sameOffset : whole.offset? = some (seconds * 1000000))
    (truncated : whole.wall = moment.wall.wholeSecond) :
    Text.withoutFraction moment.isoText = whole.isoText := by
  have stops : (offsetDigits seconds).dropWhile Char.isDigit =
      offsetDigits seconds := by
    unfold offsetDigits
    by_cases west : seconds < 0
    · rw [if_pos west]
      rfl
    · rw [if_neg west]
      rfl
  have written : Text.dropFraction (moment.wall.isoDigits ++ offsetDigits seconds) =
      moment.wall.wholeSecond.isoDigits ++ offsetDigits seconds := by
    have front := point_not_mem_isoDigits moment.wall
    have behind := point_not_mem_offsetDigits seconds
    by_cases whole : moment.wall.microsecond = 0
    · have printed : moment.wall.isoDigits = moment.wall.wholeSecond.isoDigits := by
        rw [WallTime.isoDigits_wholeSecond]
        unfold WallTime.isoDigits WallTime.fractionDigits
        rw [if_pos whole, List.append_nil]
      rw [printed]
      exact Text.dropFraction_of_not_mem (List.not_mem_append front behind)
    · have printed : moment.wall.isoDigits =
          moment.wall.wholeSecond.isoDigits ++ '.' :: Text.fixedDigits 6 moment.wall.microsecond := by
        rw [WallTime.isoDigits_wholeSecond]
        unfold WallTime.isoDigits WallTime.fractionDigits
        rw [if_neg whole, List.append_assoc, List.cons_append]
      rw [printed, List.append_assoc, List.cons_append]
      exact Text.dropFraction_append 6 moment.wall.microsecond front stops
  unfold Text.withoutFraction
  rw [isoText_toList known, written, ← truncated, ← isoText_toList sameOffset, String.ofList_toList]

end VirtualClock
