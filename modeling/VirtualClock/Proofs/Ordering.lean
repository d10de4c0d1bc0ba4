import VirtualClock.Proofs.Instants
import VirtualClock.Zone.Atlas

/-!
# The order of views

Views are equal by their instants, but their order is that of plain moments:
within one zone it looks at the wall times alone.  The two part ways where a
zone changes its offset between two moments by at least what their wall times
are apart, as it does within the hour that a clock turned back repeats.
Everywhere else the order is the order of the instants.
-/

namespace VirtualClock.Moment

variable {left right : Moment} {leftUtc rightUtc : WallTime}

/-- In a zone of both moments the offset changes from the left one to the right one, and their
wall times differ in the same direction by no more than the offsets do. -/
def CrossesStep (left right : Moment) : Prop :=
  left.sharesZone right ∧
    ∃ leftOffset rightOffset, left.offset? = some leftOffset ∧ right.offset? = some rightOffset ∧
      leftOffset ≠ rightOffset ∧
      (left.wall.ticks ≤ right.wall.ticks ∧
          right.wall.ticks - left.wall.ticks ≤ rightOffset - leftOffset ∨
        right.wall.ticks ≤ left.wall.ticks ∧
          rightOffset - leftOffset ≤ right.wall.ticks - left.wall.ticks)

theorem crossesStep_iff {leftOffset rightOffset : Int} (leftKnown : left.offset? = some leftOffset)
    (rightKnown : right.offset? = some rightOffset) :
    left.CrossesStep right ↔
      left.sharesZone right ∧ leftOffset ≠ rightOffset ∧
        (left.wall.ticks ≤ right.wall.ticks ∧
            right.wall.ticks - left.wall.ticks ≤ rightOffset - leftOffset ∨
          right.wall.ticks ≤ left.wall.ticks ∧
            rightOffset - leftOffset ≤ right.wall.ticks - left.wall.ticks) := by
  simp only [CrossesStep, leftKnown, rightKnown, Option.some.injEq, exists_and_left,
    exists_eq_left']

theorem sharesZone_iff :
    left.sharesZone right ↔
      left.zone = right.zone ∧ ∀ zone, left.zone = some zone → zone.isShared := by
  unfold sharesZone
  cases left.zone with
  | none =>
      cases right.zone with
      | none => simp
      | some rightZone => simp
  | some leftZone =>
      cases right.zone with
      | none => simp
      | some rightZone => simp [and_comm]

theorem sharesZone_comm (left right : Moment) :
    left.sharesZone right = right.sharesZone left := by
  rw [Bool.eq_iff_iff, sharesZone_iff, sharesZone_iff]
  constructor
  · rintro ⟨same, shared⟩
    exact ⟨same.symm, same ▸ shared⟩
  · rintro ⟨same, shared⟩
    exact ⟨same.symm, same ▸ shared⟩

/-- Only a region has more than one offset. -/
theorem CrossesStep.exists_region (crosses : left.CrossesStep right) :
    ∃ place, left.zone = some (.region place) ∧ right.zone = some (.region place) := by
  obtain ⟨shared, leftOffset, rightOffset, leftKnown, rightKnown, different, _⟩ := crosses
  have same := (sharesZone_iff.mp shared).1
  unfold offset? at leftKnown rightKnown
  rw [← same] at rightKnown
  rw [← same]
  cases zoned : left.zone with
  | none =>
      rw [zoned] at leftKnown
      cases leftKnown
  | some zone =>
      rw [zoned] at leftKnown rightKnown
      -- every other zone gives both moments one and the same offset, or none
      cases zone with
      | region place => exact ⟨place, rfl, rfl⟩
      | utc =>
          cases leftKnown
          cases rightKnown
          exact absurd rfl different
      | fixed offset label =>
          cases leftKnown
          cases rightKnown
          exact absurd rfl different
      | floating => cases leftKnown

/-- Order by wall time in a shared zone, and by instant elsewhere. -/
theorem less_of_denotes (leftDenotes : left.Denotes leftUtc)
    (rightDenotes : right.Denotes rightUtc) :
    left.less right =
      .ok (if left.sharesZone right then decide (left.wall.ticks < right.wall.ticks)
        else decide (leftUtc.ticks < rightUtc.ticks)) := by
  obtain ⟨leftOffset, leftKnown, leftPlaced⟩ := denotes_iff.mp leftDenotes
  obtain ⟨rightOffset, rightKnown, rightPlaced⟩ := denotes_iff.mp rightDenotes
  have leftInstant : left.wall.ticks - leftOffset = leftUtc.ticks := by
    omega
  have rightInstant : right.wall.ticks - rightOffset = rightUtc.ticks := by
    omega
  unfold less
  by_cases shared : left.sharesZone right
  · rw [if_pos shared, if_pos shared]
    rfl
  · rw [if_neg shared, if_neg shared, leftKnown, rightKnown]
    simp only [leftInstant, rightInstant]
    rfl

/-! ## Order against instants -/

def ExactlyOne (first second third : Prop) : Prop :=
  first ∧ ¬second ∧ ¬third ∨ ¬first ∧ second ∧ ¬third ∨ ¬first ∧ ¬second ∧ third

/-- Two views with instants in the calendar are always ordered without a fault, and equal exactly
at one instant.  Both ways round they are ordered as their instants are exactly when they do not
cross a step, which only moments of one region can do.  Exactly one of before, equal and after
holds, except across a step with the same wall time or the same instant on both sides. -/
theorem order_follows_instants_iff (view : left.kind.isView ∨ right.kind.isView)
    (leftDenotes : left.Denotes leftUtc) (rightDenotes : right.Denotes rightUtc) :
    ∃ before equal after : Bool,
      left.less right = .ok before ∧ left.equal right = .ok equal ∧ right.less left = .ok after ∧
      (equal ↔ leftUtc = rightUtc) ∧
      ((before ↔ leftUtc.ticks < rightUtc.ticks) ∧ (after ↔ rightUtc.ticks < leftUtc.ticks) ↔
        ¬left.CrossesStep right) ∧
      (ExactlyOne before equal after ↔
        ¬(left.CrossesStep right ∧ (left.wall = right.wall ∨ leftUtc = rightUtc))) ∧
      (left.CrossesStep right →
        ∃ place, left.zone = some (.region place) ∧ right.zone = some (.region place)) := by
  obtain ⟨leftOffset, leftKnown, leftPlaced⟩ := denotes_iff.mp leftDenotes
  obtain ⟨rightOffset, rightKnown, rightPlaced⟩ := denotes_iff.mp rightDenotes
  have crosses := crossesStep_iff leftKnown rightKnown
  refine ⟨_, _, _, less_of_denotes leftDenotes rightDenotes,
    equal_of_denotes view leftDenotes rightDenotes,
    less_of_denotes rightDenotes leftDenotes, ?_, ?_, ?_, CrossesStep.exists_region⟩
  · rw [beq_iff_eq, WallTime.eq_iff_ticks]
  · rw [sharesZone_comm right left, crosses]
    by_cases shared : left.sharesZone right
    · simp only [shared, if_true, decide_eq_true_eq, true_and]
      omega
    · simp [shared]
  · rw [sharesZone_comm right left, crosses, WallTime.eq_iff_ticks, WallTime.eq_iff_ticks]
    by_cases shared : left.sharesZone right
    · simp only [shared, if_true, decide_eq_true_eq, beq_iff_eq, true_and, ExactlyOne]
      omega
    · simp only [shared, Bool.false_eq_true, if_false, decide_eq_true_eq, beq_iff_eq, false_and,
        not_false_eq_true, iff_true, ExactlyOne]
      omega

/-! ### In a repeated hour -/

/-- Half past two on the twenty-seventh of October of 2024, when clocks were turned back from
three to two, read for the first or for the second time. -/
def halfPastTwo (fold : Bool) : Moment :=
  ⟨.timestamp, ⟨63865593000000000, by decide, by decide⟩, some (.region Atlas.berlin), fold⟩

/-- The two instants at which clocks showed it, an hour apart. -/
def firstHalfPastTwo : WallTime := ⟨63865585800000000, by decide, by decide⟩

def secondHalfPastTwo : WallTime := ⟨63865589400000000, by decide, by decide⟩

theorem halfPastTwo_denotes :
    (halfPastTwo false).Denotes firstHalfPastTwo ∧ (halfPastTwo true).Denotes secondHalfPastTwo := by
  constructor
  · unfold Denotes
    decide +kernel
  · unfold Denotes
    decide +kernel

/-- The earlier half past two is neither before nor after nor equal to the later one. -/
theorem repeated_hour_is_unordered :
    (halfPastTwo false).Denotes firstHalfPastTwo ∧ (halfPastTwo true).Denotes secondHalfPastTwo ∧
      firstHalfPastTwo.ticks < secondHalfPastTwo.ticks ∧
      (halfPastTwo false).less (halfPastTwo true) = .ok false ∧
      (halfPastTwo false).equal (halfPastTwo true) = .ok false ∧
      (halfPastTwo true).less (halfPastTwo false) = .ok false := by
  obtain ⟨first, second⟩ := halfPastTwo_denotes
  refine ⟨first, second, by decide, by rfl, ?_, by rfl⟩
  exact equal_of_denotes (Or.inl rfl) first second

/-- The clocks went back by an hour between the two, while their wall time stood still. -/
theorem halfPastTwo_crossesStep : (halfPastTwo false).CrossesStep (halfPastTwo true) := by
  have summer : (halfPastTwo false).offset? = some 7200000000 := by
    decide +kernel
  have winter : (halfPastTwo true).offset? = some 3600000000 := by
    decide +kernel
  rw [crossesStep_iff summer winter]
  exact ⟨by decide, by decide, Or.inr (by decide)⟩

theorem order_fails_across_the_repeated_hour :
    (halfPastTwo false).kind.isView ∧
    (halfPastTwo false).Denotes firstHalfPastTwo ∧ (halfPastTwo true).Denotes secondHalfPastTwo ∧
    ∃ before equal after : Bool,
      (halfPastTwo false).less (halfPastTwo true) = .ok before ∧
      (halfPastTwo false).equal (halfPastTwo true) = .ok equal ∧
      (halfPastTwo true).less (halfPastTwo false) = .ok after ∧
      ¬((before ↔ firstHalfPastTwo.ticks < secondHalfPastTwo.ticks) ∧
        (after ↔ secondHalfPastTwo.ticks < firstHalfPastTwo.ticks)) ∧
      ¬ExactlyOne before equal after := by
  obtain ⟨first, second⟩ := halfPastTwo_denotes
  obtain ⟨before, equal, after, less, same, greater, _, ordered, exclusive, _⟩ :=
    order_follows_instants_iff (Or.inl (rfl : (halfPastTwo false).kind.isView)) first second
  refine ⟨rfl, first, second, before, equal, after, less, same, greater, ?_, ?_⟩
  · exact fun agrees => ordered.mp agrees halfPastTwo_crossesStep
  · exact fun one => exclusive.mp one ⟨halfPastTwo_crossesStep, Or.inl rfl⟩

end VirtualClock.Moment
