import VirtualClock.Proofs.Instants
import VirtualClock.Proofs.Projection

/-!
# Instants shown in a zone

A zone that reads back what it shows keeps the instant: the shown moment has an
offset again and denotes the instant it was made from.  Universal time, fixed
offsets and the local zone always do.  What is done to a shown moment to give it
the shape of a view, to freeze its offset or to give it another name, keeps the
instant as well.
-/

namespace VirtualClock

/-- The wall time that the zone shows for a wall time of universal time is read in it with the
very offset by which the two differ. -/
def Zone.ReadsBack (zone : Zone) (utc : WallTime) : Prop :=
  ∀ wall fold, zone.showUtc utc = .ok (wall, fold) →
    zone.offsetAt wall fold = some (wall.ticks - utc.ticks)

namespace Zone

theorem readsBack_utc (wall : WallTime) : Zone.utc.ReadsBack wall := by
  intro shown fold shows
  cases shows
  rw [Int.sub_self]
  rfl

theorem readsBack_fixed (offset : Int) (label : Option String) (utc : WallTime) :
    (Zone.fixed offset label).ReadsBack utc := by
  intro wall fold shows
  obtain ⟨moved, shifted, same⟩ := Outcome.map_eq_ok_iff.mp shows
  cases same
  have ticks := (WallTime.shift_eq_ok_iff utc wall offset).mp shifted
  have between : wall.ticks - utc.ticks = offset := by
    omega
  rw [between]
  rfl

/-- A zone that is no region reads back whatever it shows. -/
theorem readsBack_of_region {zone : Zone} {utc : WallTime}
    (reads : ∀ place, zone = .region place → zone.ReadsBack utc) : zone.ReadsBack utc := by
  cases zone with
  | utc => exact readsBack_utc utc
  | fixed offset label => exact readsBack_fixed offset label utc
  | region place => exact reads place rfl
  | floating =>
      intro wall fold shows
      cases shows

theorem offsetAt_ofOffset (offset : Int) (wall : WallTime) (fold : Bool) :
    (ofOffset offset none).offsetAt wall fold = some offset := by
  unfold ofOffset
  by_cases zero : offset = 0
  · simp [zero, offsetAt]
  · simp [zero, offsetAt]

end Zone

namespace Moment

variable {system : ZoneRule} {instant shown moment : Moment} {utc : WallTime}

theorem withFixedOffset_of_offset {offset : Int} (known : moment.offset? = some offset) :
    moment.withFixedOffset = { moment with zone := some (Zone.ofOffset offset none) } := by
  simp only [withFixedOffset, known]

theorem offset?_withFixedOffset (moment : Moment) :
    moment.withFixedOffset.offset? = moment.offset? := by
  cases known : moment.offset? with
  | none => simp only [withFixedOffset, known]
  | some offset =>
      rw [withFixedOffset_of_offset known]
      exact Zone.offsetAt_ofOffset offset moment.wall moment.fold

theorem wall_withFixedOffset (moment : Moment) : moment.withFixedOffset.wall = moment.wall := by
  unfold withFixedOffset
  cases moment.offset? <;> rfl

theorem denotes_withFixedOffset_iff :
    moment.withFixedOffset.Denotes utc ↔ moment.Denotes utc := by
  simp only [denotes_iff, offset?_withFixedOffset, wall_withFixedOffset]

theorem denotes_of_showUtc {zone : Zone} {wall : WallTime} {fold : Bool}
    (reads : zone.ReadsBack utc) (shows : zone.showUtc utc = .ok (wall, fold))
    (kind : MomentKind) : (⟨kind, wall, some zone, fold⟩ : Moment).Denotes utc := by
  rw [denotes_iff]
  refine ⟨wall.ticks - utc.ticks, reads wall fold shows, ?_⟩
  show wall.ticks = utc.ticks + (wall.ticks - utc.ticks)
  omega

/-- In a zone that reads it back, the shown moment denotes the instant that is shown. -/
theorem denotes_of_inOptionalZone {zone : Option Zone} (zoned : instant.zone = some .utc)
    (reads : ∀ place, zone = some place → place.ReadsBack instant.wall)
    (shows : instant.inOptionalZone system zone = .ok shown) : shown.Denotes instant.wall := by
  cases zone with
  | none =>
      have made : instant.inLocalZone system = .ok shown := shows
      rw [inLocalZone_of_utc system zoned] at made
      obtain ⟨⟨wall, fold⟩, found, rfl⟩ := Outcome.map_eq_ok_iff.mp made
      exact denotes_of_showUtc (Zone.readsBack_fixed _ _ _) found instant.kind
  | some place =>
      have made : instant.inZone system place = .ok shown := shows
      by_cases same : place = .utc
      · rw [same] at made
        have kept := inUtc_of_utc instant system zoned
        rw [inUtc, made] at kept
        cases kept
        exact denotes_of_utc zoned
      · rw [inZone_of_utc system zoned same] at made
        obtain ⟨⟨wall, fold⟩, found, rfl⟩ := Outcome.map_eq_ok_iff.mp made
        exact denotes_of_showUtc (reads place rfl) found instant.kind

end Moment

/-! ## The shapes of views -/

/-- The shape that a kind gives to a shown moment. -/
def MomentKind.shape (kind : MomentKind) (shown : Moment) : Moment :=
  match kind.family with
  | .dateTime => shown.withFixedOffset.withKind kind
  | _ => shown.withKind kind

namespace MomentKind

variable {utc : WallTime} {shown : Moment}

theorem ofInstant_eq (system : ZoneRule) (kind : MomentKind) (instant : Moment)
    (zone : Option Zone) :
    kind.ofInstant system instant zone =
      (instant.inOptionalZone system zone).map kind.shape :=
  rfl

@[simp]
theorem kind_shape (kind : MomentKind) (shown : Moment) : (kind.shape shown).kind = kind := by
  unfold shape
  cases kind.family <;> rfl

@[simp]
theorem wall_shape (kind : MomentKind) (shown : Moment) : (kind.shape shown).wall = shown.wall := by
  unfold shape
  cases kind.family with
  | dateTime => exact shown.wall_withFixedOffset
  | _ => rfl

@[simp]
theorem offset?_shape (kind : MomentKind) (shown : Moment) :
    (kind.shape shown).offset? = shown.offset? := by
  unfold shape
  cases kind.family with
  | dateTime => exact shown.offset?_withFixedOffset
  | _ => rfl

theorem denotes_shape_iff (kind : MomentKind) :
    (kind.shape shown).Denotes utc ↔ shown.Denotes utc := by
  simp only [Moment.denotes_iff, offset?_shape, wall_shape]

end MomentKind

end VirtualClock
