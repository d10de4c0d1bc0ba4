import VirtualClock.Proofs.Runs

/-!
# Anchors in universal time

A moment with an offset denotes one instant: its wall time less the offset.
Showing it in universal time keeps that instant, and a moment that is there
already stays as it is.
-/

namespace VirtualClock

namespace WallTime

theorem shift_eq_ok_iff (wall moved : WallTime) (micros : Int) :
    wall.shift micros = .ok moved ↔ moved.ticks = wall.ticks + micros := by
  unfold shift ofTicks?
  constructor
  · intro shifted
    split at shifted
    · rename_i found
      split at found
      · cases found
        cases shifted
        rfl
      · cases found
    · cases shifted
  · intro same
    have inCalendar : 0 ≤ wall.ticks + micros ∧ wall.ticks + micros < limit := by
      rw [← same]
      exact ⟨moved.nonneg, moved.bounded⟩
    rw [dif_pos inCalendar]
    obtain ⟨ticks, _, _⟩ := moved
    cases same
    rfl

end WallTime

namespace Moment

variable {system : ZoneRule} {moment shown : Moment}

theorem inUtc_of_utc (moment : Moment) (system : ZoneRule) (utc : moment.zone = some .utc) :
    moment.inUtc system = .ok moment := by
  unfold inUtc inZone
  rw [if_pos ⟨rfl, utc⟩]

theorem isAware_of_utc (utc : moment.zone = some .utc) : moment.isAware := by
  simp [isAware, offset?, utc, Zone.offsetAt]

theorem offset?_of_utc (utc : moment.zone = some .utc) : moment.offset? = some 0 := by
  simp [offset?, utc, Zone.offsetAt]

/-- What conversion to universal time does to a moment that is not there yet. -/
theorem inUtc_of_ne (moment : Moment) (system : ZoneRule) (elsewhere : moment.zone ≠ some .utc) :
    moment.inUtc system =
      (moment.utcWall system).map fun wall => ⟨moment.kind, wall, some .utc, false⟩ := by
  unfold inUtc inZone
  rw [if_neg (fun both => elsewhere both.2)]
  cases moment.utcWall system <;> rfl

theorem utcWall_of_offset {offset : Int} (system : ZoneRule)
    (known : moment.offset? = some offset) :
    moment.utcWall system = moment.wall.shift (-offset) := by
  simp only [utcWall, known]

theorem utcWall_of_utc (system : ZoneRule) (utc : moment.zone = some .utc) :
    moment.utcWall system = .ok moment.wall := by
  rw [utcWall_of_offset system (offset?_of_utc utc), WallTime.shift_eq_ok_iff]
  omega

/-- Conversion to universal time shows the wall time there. -/
theorem inUtc_eq_ok (converted : moment.inUtc system = .ok shown) :
    shown.zone = some .utc ∧ moment.utcWall system = .ok shown.wall := by
  by_cases utc : moment.zone = some .utc
  · rw [inUtc_of_utc moment system utc] at converted
    cases converted
    exact ⟨utc, utcWall_of_utc system utc⟩
  · rw [inUtc_of_ne moment system utc] at converted
    obtain ⟨wall, known, rfl⟩ := Outcome.map_eq_ok_iff.mp converted
    exact ⟨rfl, known⟩

theorem zone_of_inUtc (converted : moment.inUtc system = .ok shown) :
    shown.zone = some .utc :=
  (inUtc_eq_ok converted).1

/-- The anchor that a moment is pinned to, which must have an offset. -/
def asAnchor (moment : Moment) (system : ZoneRule) : Except Fault Moment :=
  if moment.isAware then moment.inUtc system else .error (.naiveAnchor moment.constructorText)

theorem asAnchor_of_utc (moment : Moment) (system : ZoneRule) (utc : moment.zone = some .utc) :
    moment.asAnchor system = .ok moment := by
  unfold asAnchor
  rw [if_pos (isAware_of_utc utc), inUtc_of_utc moment system utc]

theorem asAnchor_eq_ok {pinned : Moment} (converted : moment.asAnchor system = .ok pinned) :
    moment.isAware ∧ moment.inUtc system = .ok pinned := by
  unfold asAnchor at converted
  by_cases aware : moment.isAware
  · rw [if_pos aware] at converted
    exact ⟨aware, converted⟩
  · rw [if_neg aware] at converted
    cases converted

/-- The instant of a moment with an offset, in ticks of universal time. -/
def instant? (moment : Moment) : Option Int :=
  moment.offset?.map fun offset => moment.wall.ticks - offset

theorem instant?_of_utc (utc : moment.zone = some .utc) :
    moment.instant? = some moment.wall.ticks := by
  simp [instant?, offset?_of_utc utc]

theorem instant?_eq_some_iff {instant : Int} :
    moment.instant? = some instant ↔
      ∃ offset, moment.offset? = some offset ∧ moment.wall.ticks - offset = instant := by
  simp [instant?]

/-- Conversion to universal time keeps the instant of a moment. -/
theorem ticks_of_inUtc {instant : Int} (denotes : moment.instant? = some instant)
    (converted : moment.inUtc system = .ok shown) : shown.wall.ticks = instant := by
  obtain ⟨offset, known, denoted⟩ := instant?_eq_some_iff.mp denotes
  have shifted := (inUtc_eq_ok converted).2
  rw [utcWall_of_offset system known, WallTime.shift_eq_ok_iff] at shifted
  omega

end Moment

end VirtualClock
