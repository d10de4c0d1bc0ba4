import VirtualClock.Proofs.Anchors
import VirtualClock.View

/-!
# When an instant can be shown

A zone shows an instant at the wall time that lies its offset further on.  That
works exactly when the zone has an offset at that instant and the wall time
stays in the calendar; every other projection meets a fault.
-/

namespace VirtualClock

/-- The offset with which a zone, or the local zone, shows a wall time of universal time. -/
def Zone.shownOffset? (system : ZoneRule) (zone : Option Zone) (utc : WallTime) : Option Int :=
  match zone with
  | some .utc => some 0
  | some (.fixed offset _) => some offset
  | some (.region place) => some ((place.atUtc utc.seconds).1 * 1000000)
  | some .floating => none
  | none => some (system.localOffset utc.seconds * 1000000)

/-- The zone, or the local one, has an offset at the wall time of universal time, and what it
shows there lies in the calendar. -/
def Zone.Shows (system : ZoneRule) (zone : Option Zone) (utc : WallTime) : Prop :=
  ∃ offset, Zone.shownOffset? system zone utc = some offset ∧
    0 ≤ utc.ticks + offset ∧ utc.ticks + offset < WallTime.limit

namespace WallTime

theorem exists_shift_iff (wall : WallTime) (micros : Int) :
    (∃ moved, wall.shift micros = .ok moved) ↔
      0 ≤ wall.ticks + micros ∧ wall.ticks + micros < limit := by
  constructor
  · rintro ⟨moved, shifted⟩
    have same := (shift_eq_ok_iff wall moved micros).mp shifted
    rw [← same]
    exact ⟨moved.nonneg, moved.bounded⟩
  · intro inCalendar
    exact ⟨⟨wall.ticks + micros, inCalendar.1, inCalendar.2⟩,
      (shift_eq_ok_iff wall _ micros).mpr rfl⟩

end WallTime

namespace Moment

variable {system : ZoneRule} {anchor : Moment}

/-- Out of universal time a moment is shown as its zone shows the wall time. -/
theorem inZone_of_utc {zone : Zone} (system : ZoneRule) (utc : anchor.zone = some .utc)
    (elsewhere : zone ≠ .utc) :
    anchor.inZone system zone =
      (zone.showUtc anchor.wall).map fun shown =>
        ⟨anchor.kind, shown.1, some zone, shown.2⟩ := by
  have different : ¬(zone.isShared ∧ anchor.zone = some zone) := by
    rintro ⟨_, same⟩
    rw [utc] at same
    exact elsewhere (Option.some.inj same).symm
  unfold inZone
  rw [if_neg different, utcWall_of_utc system utc]
  show (zone.showUtc anchor.wall >>= fun shown => _) = _
  cases zone.showUtc anchor.wall <;> rfl

theorem inLocalZone_of_utc (system : ZoneRule) (utc : anchor.zone = some .utc) :
    anchor.inLocalZone system =
      ((system.zoneAt anchor.wall.seconds).showUtc anchor.wall).map fun shown =>
        ⟨anchor.kind, shown.1, some (system.zoneAt anchor.wall.seconds), shown.2⟩ := by
  unfold inLocalZone
  rw [utcWall_of_utc system utc]
  show ((system.zoneAt anchor.wall.seconds).showUtc anchor.wall >>= fun shown => _) = _
  cases (system.zoneAt anchor.wall.seconds).showUtc anchor.wall <;> rfl

private theorem exists_map_shift_iff (wall : WallTime) (offset : Int) (fold : Bool) :
    (∃ pair, ((wall.shift offset).map fun moved => (moved, fold)) = .ok pair) ↔
      0 ≤ wall.ticks + offset ∧ wall.ticks + offset < WallTime.limit := by
  rw [← WallTime.exists_shift_iff]
  constructor
  · rintro ⟨pair, mapped⟩
    obtain ⟨moved, shifted, _⟩ := Outcome.map_eq_ok_iff.mp mapped
    exact ⟨moved, shifted⟩
  · rintro ⟨moved, shifted⟩
    exact ⟨(moved, fold), Outcome.map_eq_ok_iff.mpr ⟨moved, shifted, rfl⟩⟩

theorem exists_showUtc_iff (system : ZoneRule) (zone : Zone) (wall : WallTime) :
    (∃ pair, zone.showUtc wall = .ok pair) ↔ Zone.Shows system (some zone) wall := by
  cases zone with
  | utc =>
      have inCalendar : 0 ≤ wall.ticks + 0 ∧ wall.ticks + 0 < WallTime.limit := by
        rw [Int.add_zero]
        exact ⟨wall.nonneg, wall.bounded⟩
      exact iff_of_true ⟨_, rfl⟩ ⟨0, rfl, inCalendar⟩
  | fixed offset label =>
      simp only [Zone.Shows, Zone.shownOffset?, Option.some.injEq, exists_eq_left']
      exact exists_map_shift_iff wall offset false
  | region place =>
      simp only [Zone.Shows, Zone.shownOffset?, Option.some.injEq, exists_eq_left']
      exact exists_map_shift_iff wall _ (place.atUtc wall.seconds).2
  | floating =>
      simp [Zone.Shows, Zone.shownOffset?, Zone.showUtc]

/-- An anchor in universal time can be put into a zone exactly when the zone shows it. -/
theorem exists_inOptionalZone_iff (system : ZoneRule) (zone : Option Zone)
    (utc : anchor.zone = some .utc) :
    (∃ shown, anchor.inOptionalZone system zone = .ok shown) ↔
      Zone.Shows system zone anchor.wall := by
  have mapped : ∀ (pair : Except Fault (WallTime × Bool)) (build : WallTime × Bool → Moment),
      (∃ shown, pair.map build = .ok shown) ↔ ∃ wall, pair = .ok wall := by
    intro pair build
    cases pair <;> simp [Except.map]
  cases zone with
  | none =>
      show (∃ shown, anchor.inLocalZone system = .ok shown) ↔ _
      rw [inLocalZone_of_utc system utc, mapped, exists_showUtc_iff system]
      rfl
  | some zone =>
      rw [← exists_showUtc_iff]
      by_cases same : zone = .utc
      · subst same
        exact iff_of_true ⟨anchor, inUtc_of_utc anchor system utc⟩ ⟨_, rfl⟩
      · show (∃ shown, anchor.inZone system zone = .ok shown) ↔ _
        rw [inZone_of_utc system utc same, mapped]

end Moment

/-- A view of an anchor exists exactly when the zone shows the anchor. -/
theorem MomentKind.exists_ofInstant_iff (system : ZoneRule) (kind : MomentKind)
    {anchor : Moment} (zone : Option Zone) (utc : anchor.zone = some .utc) :
    (∃ shown, kind.ofInstant system anchor zone = .ok shown) ↔
      Zone.Shows system zone anchor.wall := by
  rw [← Moment.exists_inOptionalZone_iff system zone utc]
  unfold ofInstant
  cases anchor.inOptionalZone system zone <;> simp [Except.map]

end VirtualClock
