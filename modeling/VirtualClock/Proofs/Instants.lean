import VirtualClock.Moment.Comparison
import VirtualClock.Proofs.Anchors

/-!
# The instants of moments

A moment with an offset denotes an instant.  When the calendar holds that
instant too, a view is equal to exactly those moments that denote it and hashes
by it, without a fault.
-/

namespace VirtualClock

namespace WallTime

theorem eq_iff_ticks {left right : WallTime} : left = right ↔ left.ticks = right.ticks := by
  obtain ⟨leftTicks, _, _⟩ := left
  obtain ⟨rightTicks, _, _⟩ := right
  simp

end WallTime

namespace Moment

/-- The moment has an offset, and less that offset it stands at a wall time of universal time. -/
def Denotes (moment : Moment) (utc : WallTime) : Prop := moment.instant? = some utc.ticks

variable {moment left right : Moment} {utc leftUtc rightUtc : WallTime}

theorem denotes_iff :
    moment.Denotes utc ↔
      ∃ offset, moment.offset? = some offset ∧ moment.wall.ticks = utc.ticks + offset := by
  unfold Denotes
  rw [instant?_eq_some_iff]
  constructor
  · rintro ⟨offset, known, denoted⟩
    exact ⟨offset, known, by omega⟩
  · rintro ⟨offset, known, placed⟩
    exact ⟨offset, known, by omega⟩

theorem denotes_of_utc (zoned : moment.zone = some .utc) : moment.Denotes moment.wall :=
  instant?_of_utc zoned

/-- Taking the offset off such a moment stays in the calendar. -/
theorem Denotes.exists_offset (denotes : moment.Denotes utc) :
    ∃ offset, moment.offset? = some offset ∧ moment.wall.ticks = utc.ticks + offset ∧
      moment.wall.shift (-offset) = .ok utc := by
  obtain ⟨offset, known, placed⟩ := denotes_iff.mp denotes
  refine ⟨offset, known, placed, ?_⟩
  rw [WallTime.shift_eq_ok_iff]
  omega

/-- Universal time has room for a moment exactly when it denotes an instant of the calendar. -/
theorem inUtc_of_denotes (system : ZoneRule) (denotes : moment.Denotes utc) :
    ∃ shown, moment.inUtc system = .ok shown ∧ shown.wall = utc := by
  by_cases zoned : moment.zone = some .utc
  · refine ⟨moment, inUtc_of_utc moment system zoned, WallTime.eq_iff_ticks.mpr ?_⟩
    have known := instant?_of_utc zoned
    rw [denotes] at known
    exact (Option.some.inj known).symm
  · obtain ⟨offset, known, _, shifted⟩ := denotes.exists_offset
    refine ⟨⟨moment.kind, utc, some .utc, false⟩, ?_, rfl⟩
    rw [inUtc_of_ne moment system zoned, utcWall_of_offset system known, shifted]
    rfl

theorem denotes_of_inUtc {system : ZoneRule} {shown : Moment} (aware : moment.isAware)
    (converted : moment.inUtc system = .ok shown) : moment.Denotes shown.wall := by
  obtain ⟨offset, known⟩ := Option.isSome_iff_exists.mp aware
  have denotes : moment.instant? = some (moment.wall.ticks - offset) :=
    instant?_eq_some_iff.mpr ⟨offset, known, rfl⟩
  rw [Denotes, ticks_of_inUtc denotes converted, denotes]

/-- With a view on either side, equality asks for the instants alone. -/
theorem equal_of_denotes (view : left.kind.isView ∨ right.kind.isView)
    (leftDenotes : left.Denotes leftUtc) (rightDenotes : right.Denotes rightUtc) :
    left.equal right = .ok (leftUtc.ticks == rightUtc.ticks) := by
  obtain ⟨leftOffset, leftKnown, _, leftShifted⟩ := leftDenotes.exists_offset
  obtain ⟨rightOffset, rightKnown, _, rightShifted⟩ := rightDenotes.exists_offset
  have asked : (left.kind.isView || right.kind.isView) = true := by
    simpa using view
  unfold equal
  rw [if_pos asked, leftKnown, rightKnown]
  simp only [leftShifted, rightShifted]
  rfl

theorem equal_of_same_instant (view : left.kind.isView ∨ right.kind.isView)
    (leftDenotes : left.Denotes utc) (rightDenotes : right.Denotes utc) :
    left.equal right = .ok true := by
  rw [equal_of_denotes view leftDenotes rightDenotes, beq_self_eq_true]

theorem hashKey_of_denotes (view : moment.kind.isView) (denotes : moment.Denotes utc) :
    moment.hashKey = .ok (.instant utc.ticks) := by
  obtain ⟨offset, known, _, shifted⟩ := denotes.exists_offset
  unfold hashKey
  rw [if_pos view, known]
  simp only [shifted]
  rfl

/-- In universal time there is no fold to look up, so plain moments hash by their instant too. -/
theorem hashKey_of_utc (zoned : moment.zone = some .utc) :
    moment.hashKey = .ok (.instant moment.wall.ticks) := by
  by_cases view : moment.kind.isView
  · exact hashKey_of_denotes view (denotes_of_utc zoned)
  · have unfolded : ({ moment with fold := false } : Moment).offset? = some 0 :=
      offset?_of_utc zoned
    have key : moment.plainHashKey = .instant moment.wall.ticks := by
      simp only [plainHashKey, unfolded, Int.sub_zero]
    unfold hashKey
    rw [if_neg view, key]
    rfl

end Moment

end VirtualClock
