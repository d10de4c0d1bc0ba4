import Mathlib.Data.Nat.Log
import VirtualClock.Proofs.IsoTexts

/-!
# The order of decimal numbers as texts

Digits of a fixed width are ordered as the numbers that they write.  Without a fixed width the
first digits decide: a number comes after a longer one as a text as soon as it is greater than
what the longer one begins with.
-/

namespace VirtualClock.Text

/-- What comes first decides, unless it is the same. -/
theorem append_lt_append_iff {left right : List Char} (same : left.length = right.length)
    (leftRest rightRest : List Char) :
    left ++ leftRest < right ++ rightRest ↔
      left < right ∨ left = right ∧ leftRest < rightRest := by
  induction left generalizing right with
  | nil =>
      cases List.length_eq_zero_iff.mp same.symm
      simp
  | cons first left inductionHypothesis =>
      cases right with
      | nil => cases same
      | cons second right =>
          have shorter := inductionHypothesis (Nat.succ.inj same)
          simp only [List.cons_append, List.cons_lt_cons_iff, shorter, List.cons.injEq,
            and_or_left, or_assoc, and_assoc]

theorem decimalDigit_lt_iff {left right : Nat} (leftSmall : left < 10) (rightSmall : right < 10) :
    decimalDigit left < decimalDigit right ↔ left < right := by
  have digits : ∀ left < 10, ∀ right < 10,
      (decimalDigit left < decimalDigit right ↔ left < right) := by
    decide
  exact digits left leftSmall right rightSmall

theorem fixedDigits_inj {width left right : Nat} (leftFits : left < tenTo width)
    (rightFits : right < tenTo width) :
    fixedDigits width left = fixedDigits width right ↔ left = right := by
  constructor
  · intro same
    have value := congrArg digitsValue same
    rwa [digitsValue_fixedDigits, digitsValue_fixedDigits, Nat.mod_eq_of_lt leftFits,
      Nat.mod_eq_of_lt rightFits] at value
  · rintro rfl
    rfl

theorem tenTo_zero : tenTo 0 = 1 :=
  rfl

theorem tenTo_succ (width : Nat) : tenTo (width + 1) = tenTo width * 10 :=
  rfl

theorem fixedDigits_lt_iff {width left right : Nat} (leftFits : left < tenTo width)
    (rightFits : right < tenTo width) :
    fixedDigits width left < fixedDigits width right ↔ left < right := by
  induction width generalizing left right with
  | zero =>
      have first : left < 1 := leftFits
      have second : right < 1 := rightFits
      simp only [fixedDigits, List.lt_irrefl, false_iff]
      omega
  | succ width inductionHypothesis =>
      rw [tenTo_succ] at leftFits rightFits
      have leftHigher : left / 10 < tenTo width := by omega
      have rightHigher : right / 10 < tenTo width := by omega
      have length : (fixedDigits width (left / 10)).length =
          (fixedDigits width (right / 10)).length := by
        rw [length_fixedDigits, length_fixedDigits]
      have last : [decimalDigit (left % 10)] < [decimalDigit (right % 10)] ↔
          left % 10 < right % 10 := by
        rw [← decimalDigit_lt_iff (Nat.mod_lt left (by decide)) (Nat.mod_lt right (by decide))]
        simp [List.cons_lt_cons_iff]
      rw [fixedDigits, fixedDigits, append_lt_append_iff length,
        inductionHypothesis leftHigher rightHigher, fixedDigits_inj leftHigher rightHigher, last]
      omega

/-- The digits of a number begin with those of its higher part. -/
theorem fixedDigits_add (width more number : Nat) :
    fixedDigits (width + more) number =
      fixedDigits width (number / tenTo more) ++ fixedDigits more number := by
  induction more generalizing number with
  | zero =>
      rw [tenTo_zero, Nat.div_one, Nat.add_zero, fixedDigits, List.append_nil]
  | succ more inductionHypothesis =>
      show fixedDigits (width + more) (number / 10) ++ [decimalDigit (number % 10)] = _
      rw [inductionHypothesis, fixedDigits, List.append_assoc, Nat.div_div_eq_div_mul,
        Nat.mul_comm 10, tenTo_succ]

/-- The count of digits that a number is written with. -/
def decimalWidth (number : Nat) : Nat := Nat.log 10 number + 1

theorem lt_tenTo_decimalWidth (number : Nat) : number < tenTo (decimalWidth number) :=
  Nat.lt_pow_succ_log_self (by decide) number

theorem decimalWidth_mono {left right : Nat} (le : left ≤ right) :
    decimalWidth left ≤ decimalWidth right :=
  Nat.succ_le_succ (Nat.log_mono_right le)

/-- Numbers are written without leading zeros. -/
theorem toString_toList (number : Nat) :
    (toString number).toList = fixedDigits (decimalWidth number) number := by
  have written : (toString number).toList = Nat.toDigits 10 number :=
    String.toList_ofList
  rw [written]
  clear written
  induction number using Nat.strongRecOn with
  | ind number inductionHypothesis =>
      have digit : ∀ value < 10, Nat.digitChar value = decimalDigit value := by
        decide
      rw [Nat.toDigits_eq_if (by decide)]
      unfold decimalWidth
      by_cases single : number < 10
      · rw [if_pos single, Nat.log_of_lt single, digit number single]
        show _ = [decimalDigit (number % 10)]
        rw [Nat.mod_eq_of_lt single]
      · have smaller : number / 10 < number := by omega
        have higher := inductionHypothesis (number / 10) smaller
        unfold decimalWidth at higher
        rw [if_neg single, higher, digit _ (Nat.mod_lt number (by decide)),
          Nat.log_of_one_lt_of_le (by decide) (Nat.not_lt.mp single)]
        rfl

end VirtualClock.Text
