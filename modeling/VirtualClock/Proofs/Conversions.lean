import VirtualClock.Proofs.Agreement

/-!
# What conversions between views keep

A timestamp and the date-time made of it differ in the zone alone: the date-time has
only the offset that was in force.  Going back finds the same instant, wall time and
offset again, and a date-time that is put into the zone it was read in becomes the
timestamp that is read there at once.
-/

namespace VirtualClock

namespace Moment

variable {system : ZoneRule} {instant moment shown left right : Moment} {utc : WallTime}

/-- Two moments that agree in everything but the kind and the zone. -/
structure SameReading (left right : Moment) : Prop where
  instant : left.instant? = right.instant?
  wall : left.wall = right.wall
  offset : left.offset? = right.offset?
  fold : left.fold = right.fold

/-- The zone of the moment is its offset and has no name. -/
def HasFixedOffset (moment : Moment) : Prop :=
  ∃ offset, moment.offset? = some offset ∧ moment.zone = some (Zone.ofOffset offset none)

theorem sameReading_of_offset (wall : left.wall = right.wall)
    (offset : left.offset? = right.offset?) (fold : left.fold = right.fold) : left.SameReading right where
  instant := by
    simp only [instant?, offset, wall]
  wall := wall
  offset := offset
  fold := fold

theorem fold_withFixedOffset (moment : Moment) : moment.withFixedOffset.fold = moment.fold := by
  cases known : moment.offset? with
  | none => simp [withFixedOffset, known]
  | some offset => simp [withFixedOffset, known]

/-! ## Freezing the offset -/

theorem withFixedOffset_sameReading (moment : Moment) (kind : MomentKind) :
    (moment.withFixedOffset.withKind kind).SameReading moment := by
  apply sameReading_of_offset
  · exact moment.wall_withFixedOffset
  · exact moment.offset?_withFixedOffset
  · exact moment.fold_withFixedOffset

theorem withFixedOffset_hasFixedOffset (kind : MomentKind) (aware : moment.isAware) :
    (moment.withFixedOffset.withKind kind).HasFixedOffset := by
  obtain ⟨offset, known⟩ := Option.isSome_iff_exists.mp aware
  have frozen := withFixedOffset_of_offset known
  refine ⟨offset, ?_, ?_⟩
  · have kept := moment.offset?_withFixedOffset
    rw [known] at kept
    exact kept
  · simp [withKind, frozen]

/-- In universal time there is nothing to freeze. -/
theorem withFixedOffset_of_utc (zoned : moment.zone = some .utc) :
    moment.withFixedOffset = moment := by
  have frozen := withFixedOffset_of_offset (offset?_of_utc zoned)
  have same : Zone.ofOffset 0 none = .utc := by
    simp [Zone.ofOffset]
  rw [frozen, same, ← zoned]

/-! ## The two conversions -/

theorem toDateTime_of_isAware (system : ZoneRule) (aware : moment.isAware) :
    moment.toDateTime system = .ok (moment.withFixedOffset.withKind .dateTime) := by
  unfold toDateTime
  rw [if_pos aware]
  rfl

theorem toTimestamp_of_zone (system : ZoneRule) {zone : Zone} (zoned : moment.zone = some zone) :
    moment.toTimestamp system none = .ok (moment.withKind .timestamp) := by
  simp [toTimestamp, zoned]

/-! ## Back into a zone -/

/-- A moment that denotes an instant is shown elsewhere as the instant is. -/
theorem inZone_of_denotes (system : ZoneRule) {zone : Zone} (denotes : moment.Denotes utc)
    (elsewhere : ¬(zone.isShared ∧ moment.zone = some zone)) :
    moment.inZone system zone =
      (zone.showUtc utc).map fun shown => ⟨moment.kind, shown.1, some zone, shown.2⟩ := by
  obtain ⟨offset, known, _, shifted⟩ := denotes.exists_offset
  have placed : moment.utcWall system = .ok utc := by
    rw [utcWall_of_offset system known, shifted]
  unfold inZone
  rw [if_neg elsewhere, placed]
  show (zone.showUtc utc >>= fun shown => _) = _
  cases zone.showUtc utc <;> rfl

/-- An offset without a name is one of the zones that exist once only in universal time. -/
theorem eq_utc_of_ofOffset {zone : Zone} {offset : Int} (shared : zone.isShared)
    (same : Zone.ofOffset offset none = zone) : zone = .utc := by
  unfold Zone.ofOffset at same
  split at same
  · exact same.symm
  · subst same
    cases shared

/-- What a zone shows of an instant is found again from its offset alone. -/
theorem inZone_withFixedOffset {zone : Zone} (zoned : instant.zone = some .utc)
    (reads : zone.ReadsBack instant.wall) (shows : instant.inZone system zone = .ok shown)
    (kind : MomentKind) :
    (shown.withFixedOffset.withKind kind).inZone system zone = .ok (shown.withKind kind) := by
  by_cases isUtc : zone = .utc
  · subst isUtc
    have kept := inUtc_of_utc instant system zoned
    rw [inUtc, shows] at kept
    obtain rfl : shown = instant := Except.ok.inj kept
    rw [withFixedOffset_of_utc zoned]
    exact inUtc_of_utc (shown.withKind kind) system zoned
  · have made : instant.inOptionalZone system (some zone) = .ok shown := shows
    have denotes : shown.Denotes instant.wall := by
      apply denotes_of_inOptionalZone zoned _ made
      intro place same
      cases same
      exact reads
    have frozenDenotes : (shown.withFixedOffset.withKind kind).Denotes instant.wall :=
      denotes_withFixedOffset_iff.mpr denotes
    have elsewhere :
        ¬(zone.isShared ∧ (shown.withFixedOffset.withKind kind).zone = some zone) := by
      rintro ⟨shared, same⟩
      obtain ⟨offset, known, _⟩ := denotes_iff.mp denotes
      have frozen := withFixedOffset_of_offset known
      simp only [withKind, frozen, Option.some.injEq] at same
      exact isUtc (eq_utc_of_ofOffset shared same)
    rw [inZone_of_utc system zoned isUtc] at shows
    obtain ⟨⟨wall, fold⟩, found, rfl⟩ := Outcome.map_eq_ok_iff.mp shows
    rw [inZone_of_denotes system frozenDenotes elsewhere, found]
    rfl

end Moment

/-! ## The law -/

/-- A moment with an offset becomes a date-time that has the offset for its zone and agrees with
the moment otherwise, and so does the timestamp made of that date-time.  An instant that is read
as a date-time and then put into the zone it was read in gives the timestamp that is read there,
with its wall time, fold and zone, if the zone reads back what it shows of the instant. -/
theorem conversions_lose_only_zone_name (system : ZoneRule) :
    (∀ stamp : Moment, stamp.isAware → ∃ dateTime back,
      stamp.toDateTime system = .ok dateTime ∧ dateTime.kind = .dateTime ∧
      dateTime.SameReading stamp ∧ dateTime.HasFixedOffset ∧
      dateTime.toTimestamp system none = .ok back ∧ back.kind = .timestamp ∧
      back.SameReading stamp) ∧
    ∀ (kind : MomentKind) (zone : Zone) (instant dateTime : Moment), kind.family = .dateTime →
      instant.zone = some .utc → zone.ReadsBack instant.wall →
      kind.ofInstant system instant (some zone) = .ok dateTime →
      ∃ stamp, MomentKind.timestamp.ofInstant system instant (some zone) = .ok stamp ∧
        dateTime.toTimestamp system (some zone) = .ok stamp := by
  constructor
  · intro stamp aware
    obtain ⟨dateTime, made⟩ : ∃ dateTime,
        dateTime = stamp.withFixedOffset.withKind .dateTime := ⟨_, rfl⟩
    have same : dateTime.SameReading stamp := by
      rw [made]
      exact stamp.withFixedOffset_sameReading .dateTime
    have fixed : dateTime.HasFixedOffset := by
      rw [made]
      exact Moment.withFixedOffset_hasFixedOffset .dateTime aware
    obtain ⟨offset, known, zoned⟩ := fixed
    refine ⟨dateTime, dateTime.withKind .timestamp, ?_, ?_, same, ⟨offset, known, zoned⟩, ?_, rfl,
      ?_⟩
    · rw [made]
      exact Moment.toDateTime_of_isAware system aware
    · rw [made]
      rfl
    · exact Moment.toTimestamp_of_zone system zoned
    · exact ⟨same.instant, same.wall, same.offset, same.fold⟩
  · intro kind zone instant dateTime family zoned reads projected
    rw [MomentKind.ofInstant_eq] at projected
    obtain ⟨shown, shows, shaped⟩ := Outcome.map_eq_ok_iff.mp projected
    have frozen : dateTime = shown.withFixedOffset.withKind kind := by
      rw [← shaped, MomentKind.shape, family]
    have again := Moment.inZone_withFixedOffset zoned reads shows kind
    rw [← frozen] at again
    refine ⟨MomentKind.timestamp.shape shown, ?_, ?_⟩
    · rw [MomentKind.ofInstant_eq, shows]
      rfl
    · have back : dateTime.inOptionalZone system (some zone) = .ok (shown.withKind kind) := again
      unfold Moment.toTimestamp
      dsimp only
      rw [MomentKind.ofInstant_eq, back]
      rfl

/-- Half past two in Berlin, for the second time, stays the second one through a date-time: as a
timestamp that is frozen and taken back, and as an instant that is read either way. -/
theorem later_half_past_two_is_converted_back :
    (∃ dateTime back,
      (Moment.halfPastTwo true).isAware ∧
      (Moment.halfPastTwo true).toDateTime .utc = .ok dateTime ∧
      dateTime.zone = some (.fixed 3600000000 none) ∧
      dateTime.toTimestamp .utc none = .ok back ∧
      back.SameReading (Moment.halfPastTwo true)) ∧
    ∃ dateTime stamp,
      MomentKind.dateTime.ofInstant .utc (.atUtc Moment.secondHalfPastTwo)
        (some (.region Atlas.berlin)) = .ok dateTime ∧
      MomentKind.timestamp.ofInstant .utc (.atUtc Moment.secondHalfPastTwo)
        (some (.region Atlas.berlin)) = .ok stamp ∧
      dateTime.toTimestamp .utc (some (.region Atlas.berlin)) = .ok stamp ∧
      stamp.wall = (Moment.halfPastTwo true).wall ∧ stamp.fold = true := by
  obtain ⟨keeps, finds⟩ := conversions_lose_only_zone_name .utc
  constructor
  · have aware : (Moment.halfPastTwo true).isAware := by rfl
    have offset : (Moment.halfPastTwo true).offset? = some 3600000000 := by decide +kernel
    obtain ⟨dateTime, back, frozen, -, reading, ⟨known, same, zoned⟩, again, -, kept⟩ :=
      keeps _ aware
    refine ⟨dateTime, back, aware, frozen, ?_, again, kept⟩
    rw [reading.offset, offset] at same
    cases same
    exact zoned
  have shows : (Moment.atUtc Moment.secondHalfPastTwo).inOptionalZone .utc
      (some (.region Atlas.berlin)) = .ok ((Moment.halfPastTwo true).withKind .plain) := by
    show (Moment.atUtc Moment.secondHalfPastTwo).inZone _ (.region Atlas.berlin) = _
    rw [Moment.inZone_of_utc _ rfl (by simp), Moment.atUtc, berlin_showUtc]
    rfl
  have projected : MomentKind.dateTime.ofInstant .utc (.atUtc Moment.secondHalfPastTwo)
      (some (.region Atlas.berlin)) =
        .ok (MomentKind.dateTime.shape ((Moment.halfPastTwo true).withKind .plain)) := by
    rw [MomentKind.ofInstant_eq, shows]
    rfl
  obtain ⟨stamp, read, back⟩ := finds .dateTime
    (.region Atlas.berlin) (.atUtc Moment.secondHalfPastTwo) _ rfl rfl berlin_readsBack projected
  refine ⟨_, stamp, projected, read, back, ?_, ?_⟩
  · rw [MomentKind.ofInstant_eq, shows] at read
    cases read
    rfl
  · rw [MomentKind.ofInstant_eq, shows] at read
    cases read
    rfl

end VirtualClock
