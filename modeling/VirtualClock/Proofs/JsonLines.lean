import VirtualClock.Proofs.DigitOrder
import VirtualClock.Proofs.JsonTexts

/-!
# JSON on one line

Texts, whole numbers and the objects made from them are written without a line end,
and are read back from the line that they stand on.  A whole number is read back as
long as it has no more digits than the reader takes; it has no leading zero, so its
digits are all taken, and whatever can follow a value is no part of a number.
-/

namespace VirtualClock

/-! ## Digits of whole numbers -/

namespace Text

/-- The first digit of a number is a zero in the number zero alone. -/
theorem exists_first_digit (number : Nat) :
    ∃ first others, fixedDigits (decimalWidth number) number = decimalDigit first :: others ∧
      first < 10 ∧ (first = 0 → number = 0 ∧ others = []) := by
  have split : fixedDigits (decimalWidth number) number =
      fixedDigits 1 (number / tenTo (Nat.log 10 number)) ++
        fixedDigits (Nat.log 10 number) number := by
    rw [← fixedDigits_add, decimalWidth, Nat.add_comm]
  have positive : 0 < tenTo (Nat.log 10 number) := Nat.pow_pos (by decide)
  have small : number / tenTo (Nat.log 10 number) < 10 :=
    Nat.div_lt_of_lt_mul (lt_tenTo_decimalWidth number)
  refine ⟨number / tenTo (Nat.log 10 number), fixedDigits (Nat.log 10 number) number, ?_, small,
    fun zero => ?_⟩
  · rw [split]
    simp only [fixedDigits, List.nil_append, List.singleton_append, Nat.mod_eq_of_lt small]
  · have below : number < tenTo (Nat.log 10 number) := (Nat.div_eq_zero_iff_lt positive).mp zero
    have none : number = 0 := by
      by_contra some
      exact absurd (Nat.pow_log_le_self 10 some) (Nat.not_le.mpr below)
    subst none
    exact ⟨rfl, rfl⟩

end Text

namespace Json

open Text

section Numbers

variable {number : Nat} {rest : List Char}

theorem takeWhile_isDigit_of_delimits (delimits : Delimits rest) :
    rest.takeWhile Char.isDigit = [] := by
  cases rest with
  | nil => rfl
  | cons mark others =>
      have marks : ∀ mark ∈ [',', ']', '\x7d', '\n'], mark.isDigit = false := by
        simp only [List.forall_mem_cons]
        exact ⟨rfl, rfl, rfl, rfl, nofun⟩
      rw [List.takeWhile_cons, marks mark (delimits mark rfl)]
      rfl

theorem takeWholeDigits_digits (number : Nat) (delimits : Delimits rest) :
    takeWholeDigits (fixedDigits (decimalWidth number) number ++ rest) =
      some (fixedDigits (decimalWidth number) number, rest) := by
  obtain ⟨first, others, written, small, leading⟩ := exists_first_digit number
  by_cases zero : first = 0
  · obtain ⟨_, rfl⟩ := leading zero
    rw [written, zero]
    rfl
  · have noZero : ∀ value < 10, value ≠ 0 → decimalDigit value ≠ '0' := by
      decide
    have digits : ∀ digit ∈ fixedDigits (decimalWidth number) number, digit.isDigit = true :=
      fun digit member => isDigit_of_mem_fixedDigits member
    have taken : (fixedDigits (decimalWidth number) number ++ rest).takeWhile Char.isDigit =
        fixedDigits (decimalWidth number) number := by
      rw [List.takeWhile_append_of_pos digits, takeWhile_isDigit_of_delimits delimits,
        List.append_nil]
    rw [written] at taken ⊢
    rw [List.cons_append] at taken ⊢
    rw [takeWholeDigits]
    · simp only [taken]
      simp
    · intro _ same
      exact absurd (List.cons.inj same).1 (noZero first small zero)

theorem takeFraction_of_delimits (delimits : Delimits rest) : takeFraction rest = (none, rest) := by
  cases rest with
  | nil => rfl
  | cons mark others =>
      have noPoint : '.' ∉ [',', ']', '\x7d', '\n'] := by
        decide
      rw [takeFraction]
      rintro _ same
      rw [(List.cons.inj same).1] at delimits
      exact noPoint (delimits '.' rfl)

theorem takeExponent_of_delimits (delimits : Delimits rest) : takeExponent rest = (none, rest) := by
  cases rest with
  | nil => rfl
  | cons mark others =>
      have noExponent : ∀ mark ∈ [',', ']', '\x7d', '\n'], ¬(mark = 'e' ∨ mark = 'E') := by
        simp
      rw [takeExponent, if_neg (noExponent mark (delimits mark rfl))]

theorem readNumber_digits (short : decimalWidth number ≤ longestWhole) (delimits : Delimits rest) :
    readNumber false (fixedDigits (decimalWidth number) number ++ rest) =
      some (.whole number, rest) := by
  have value : digitsValue (fixedDigits (decimalWidth number) number) = number := by
    rw [digitsValue_fixedDigits, Nat.mod_eq_of_lt (lt_tenTo_decimalWidth number)]
  have fits : ¬longestWhole < (fixedDigits (decimalWidth number) number).length := by
    rw [length_fixedDigits]
    exact Nat.not_lt.mpr short
  unfold readNumber
  rw [takeWholeDigits_digits number delimits]
  simp only [Option.bind_eq_bind, Option.bind_some, takeFraction_of_delimits delimits,
    takeExponent_of_delimits delimits, Option.isNone_none, and_self, if_true, if_neg fits, value]
  rfl

/-- No word begins with a digit. -/
theorem afterWord?_of_digit {first : Char} (digit : first.isDigit = true) (others : List Char)
    {word : String × Json} (listed : word ∈ words) :
    afterWord? word.1.toList (first :: others) = none := by
  have heads : ∀ name ∈ words.map Prod.fst, ∃ letter behind,
      name.toList = letter :: behind ∧ letter.isDigit = false := by
    simp [words]
  obtain ⟨letter, behind, spelled, noDigit⟩ := heads word.1 (List.mem_map_of_mem listed)
  have apart : (letter == first) = false := by
    rw [beq_eq_false_iff_ne]
    rintro rfl
    rw [digit] at noDigit
    cases noDigit
  rw [spelled, afterWord?, List.isPrefixOf, apart]
  rfl

theorem readPlain_of_digit {first : Char} (digit : first.isDigit = true) (others : List Char) :
    readPlain (first :: others) = readNumber false (first :: others) := by
  unfold readPlain
  dsimp only
  split
  case h_1 found same =>
    obtain ⟨⟨word, value⟩, listed, taken⟩ := List.exists_of_findSome?_eq_some same
    have missing : afterWord? word.toList (first :: others) = none :=
      afterWord?_of_digit digit others listed
    rw [missing] at taken
    cases taken
  case h_2 =>
    split
    case h_1 _ same =>
      rw [(List.cons.inj same).1] at digit
      cases digit
    case h_2 => rfl

end Numbers

theorem readsBack_whole {number : Nat} (short : decimalWidth number ≤ longestWhole) :
    ReadsBack (.whole number) := by
  have written : renderChars (.whole number) = fixedDigits (decimalWidth number) number :=
    toString_toList number
  obtain ⟨first, others, digits, small, _⟩ := exists_first_digit number
  have isDigit : (decimalDigit first).isDigit = true :=
    isDigit_of_mem_fixedDigits (digits ▸ List.mem_cons_self)
  refine ⟨fun rest => ?_, fun fuel rest enough delimits => ?_⟩
  · have visible : ∀ value < 10, isSpace (decimalDigit value) = false := by
      decide
    rw [written, digits, List.cons_append, skipSpace, List.dropWhile_cons, visible first small]
    rfl
  · have number := readNumber_digits short delimits
    rw [written] at enough ⊢
    rw [digits] at enough number ⊢
    cases fuel with
    | zero => cases enough
    | succ fuel =>
        rw [List.cons_append] at number ⊢
        rw [readValue, readPlain_of_digit isDigit, number]
        all_goals
          rintro _ same
          rw [(List.cons.inj same).1] at isDigit
          cases isDigit

/-! ## Lines -/

theorem lineEnd_not_mem_escapedUnit (unit : Nat) : '\n' ∉ escapedUnit unit := by
  have digit : ∀ value < 16, '\n' ≠ hexDigit value := by
    decide
  have digits : ∀ number, '\n' ≠ hexDigit (number % 16) :=
    fun number => digit _ (Nat.mod_lt number (by decide))
  simp [escapedUnit, hexDigits, digits]

theorem lineEnd_not_mem_escapedChar (character : Char) : '\n' ∉ escapedChar character := by
  unfold escapedChar
  split
  case h_8 noLineEnd _ _ _ _ =>
    dsimp only
    split
    · exact fun written => noLineEnd (List.mem_singleton.mp written).symm
    split
    · exact lineEnd_not_mem_escapedUnit _
    · exact List.not_mem_append (lineEnd_not_mem_escapedUnit _) (lineEnd_not_mem_escapedUnit _)
  all_goals decide

/-- The value is written without a line end and is read back. -/
structure FitsLine (value : Json) : Prop extends ReadsBack value where
  unbroken : '\n' ∉ renderChars value

theorem fitsLine_text (content : String) : FitsLine (.text content) where
  toReadsBack := readsBack_text content
  unbroken := by
    simp [renderChars, renderText, lineEnd_not_mem_escapedChar]

theorem fitsLine_whole {number : Nat} (short : decimalWidth number ≤ longestWhole) :
    FitsLine (.whole number) where
  toReadsBack := readsBack_whole short
  unbroken := by
    have written : renderChars (.whole number) = fixedDigits (decimalWidth number) number :=
      toString_toList number
    rw [written]
    intro lineEnd
    cases isDigit_of_mem_fixedDigits lineEnd

theorem lineEnd_not_mem_fieldChars {fields : List (String × Json)}
    (unbroken : ∀ field ∈ fields, '\n' ∉ renderChars field.2) : '\n' ∉ fieldChars fields := by
  induction fields with
  | nil => decide
  | cons field others inductionHypothesis =>
      have value := unbroken field List.mem_cons_self
      have later := inductionHypothesis fun member written =>
        unbroken member (List.mem_cons_of_mem field written)
      have behind : '\n' ∉ renderFields others := by
        cases others with
        | nil => decide
        | cons next others => simpa [renderFields_cons] using later
      simp [fieldChars, value, behind, lineEnd_not_mem_escapedChar]

theorem fitsLine_object {fields : List (String × Json)}
    (fit : ∀ field ∈ fields, FitsLine field.2) (distinct : (fields.map Prod.fst).Nodup) :
    FitsLine (.object fields) where
  toReadsBack := readsBack_object (fun field member => (fit field member).toReadsBack) distinct
  unbroken := by
    rw [renderChars_object]
    have inside := lineEnd_not_mem_fieldChars fun field member => (fit field member).unbroken
    simpa using inside

end Json

end VirtualClock
