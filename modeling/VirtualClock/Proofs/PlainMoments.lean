import VirtualClock.Proofs.EqualViews

/-!
# Views beside plain moments

A view equals a plain moment, either way round, when both denote one instant.  Their hash
keys need not follow: a view hashes by its instant, while a plain moment looks up its offset
as if its wall time were read for the first time.  The two keys differ where that first
reading has another offset, which happens to the second reading of a wall time that a region
repeats or skips.
-/

namespace VirtualClock

namespace Moment

variable {moment plain : Moment} {utc : WallTime}

/-- The same wall time in the same zone, read for the first time. -/
def firstReading (moment : Moment) : Moment := { moment with fold := false }

/-- The moment is the second reading of its wall time, and the first one has another offset. -/
def IsLateReading (moment : Moment) : Prop := moment.fold = true ∧ moment.isAmbiguous = true

instance (moment : Moment) : Decidable moment.IsLateReading :=
  inferInstanceAs (Decidable (moment.fold = true ∧ moment.isAmbiguous = true))

theorem isLateReading_iff :
    moment.IsLateReading ↔ moment.firstReading.offset? ≠ moment.offset? := by
  obtain ⟨kind, wall, zone, fold⟩ := moment
  cases fold with
  | false => simp [IsLateReading, firstReading]
  | true => simp [IsLateReading, firstReading, isAmbiguous]

/-- Only a region reads a wall time with more than one offset. -/
theorem IsLateReading.exists_region (late : moment.IsLateReading) :
    ∃ place, moment.zone = some (.region place) := by
  have differs := isLateReading_iff.mp late
  unfold offset? firstReading at differs
  cases zoned : moment.zone with
  | none => simp [zoned] at differs
  | some zone =>
      cases zone with
      | region place => exact ⟨place, rfl⟩
      | _ => simp [zoned, Zone.offsetAt] at differs

theorem exists_offset_of_firstReading {offset : Int} (known : moment.offset? = some offset) :
    ∃ first, moment.firstReading.offset? = some first := by
  obtain ⟨zone, zoned, _⟩ := Option.bind_eq_some_iff.mp known
  have shared : moment.firstReading.offset? = zone.offsetAt moment.wall false := by
    simp [offset?, firstReading, zoned]
  rw [shared]
  cases zone with
  | floating => simp [offset?, zoned, Zone.offsetAt] at known
  | _ => exact ⟨_, rfl⟩

/-- A plain moment hashes by the instant of its first reading. -/
theorem exists_hashKey_of_plain (isPlain : ¬plain.kind.isView) (denotes : plain.Denotes utc) :
    ∃ instant, plain.hashKey = .ok (.instant instant) ∧
      (instant = utc.ticks ↔ ¬plain.IsLateReading) := by
  obtain ⟨offset, known, placed⟩ := denotes_iff.mp denotes
  obtain ⟨first, firstKnown⟩ := exists_offset_of_firstReading known
  -- the key is made with the offset of the first reading, the instant with that of the moment
  have key : plain.plainHashKey = .instant (plain.wall.ticks - first) := by
    unfold firstReading at firstKnown
    simp only [plainHashKey, firstKnown]
  refine ⟨plain.wall.ticks - first, ?_, ?_⟩
  · unfold hashKey
    rw [if_neg isPlain, key]
    rfl
  · rw [isLateReading_iff, firstKnown, known, not_not, Option.some.injEq]
    omega

/-- Two moments are one member of a set when they share their key and are equal besides. -/
theorem setSize_of_keys {left right : Moment} {leftKey rightKey : HashKey} {same : Bool}
    (leftHash : left.hashKey = .ok leftKey) (rightHash : right.hashKey = .ok rightKey)
    (compared : left.equal right = .ok same) :
    Value.setSize (.moment left) (.moment right) =
      .ok (if leftKey = rightKey ∧ same = true then 1 else 2) := by
  simp only [Value.setSize, Value.hashKey, Value.equal, leftHash, rightHash, compared]
  by_cases shared : leftKey = rightKey
  · cases same with
    | false => simp [shared, bind, Except.bind, pure, Except.pure]
    | true => simp [shared, bind, Except.bind, pure, Except.pure]
  · simp [shared, bind, Except.bind, pure, Except.pure]

end Moment

/-- A view and a plain moment, both with an instant in the calendar, are equal exactly when their
instants are, and that either way round.  If they are, then they have one hash key exactly when
the plain moment is no late reading, which it can only be in a region; and they are one member of
a set when they are equal and have one key. -/
theorem view_and_plain_share_key_iff (view : DatedView) {plain : Moment} {utc : WallTime}
    (isPlain : ¬plain.kind.isView) (denotes : plain.Denotes utc) :
    ∃ viewKey plainKey,
      view.moment.equal plain = .ok (decide (view.instant = utc)) ∧
      plain.equal view.moment = .ok (decide (view.instant = utc)) ∧
      view.moment.hashKey = .ok viewKey ∧ plain.hashKey = .ok plainKey ∧
      (view.instant = utc → (viewKey = plainKey ↔ ¬plain.IsLateReading)) ∧
      (plain.IsLateReading → ∃ place, plain.zone = some (.region place)) ∧
      Value.setSize (.moment view.moment) (.moment plain) =
        .ok (if view.instant = utc ∧ ¬plain.IsLateReading then 1 else 2) ∧
      Value.setSize (.moment plain) (.moment view.moment) =
        .ok (if view.instant = utc ∧ ¬plain.IsLateReading then 1 else 2) := by
  obtain ⟨instant, plainHash, late⟩ := Moment.exists_hashKey_of_plain isPlain denotes
  have viewHash := view.hashKey_moment
  have asked : (view.instant.ticks == utc.ticks) = decide (view.instant = utc) := by
    simp only [WallTime.eq_iff_ticks]
    rfl
  have forth : view.moment.equal plain = .ok (decide (view.instant = utc)) := by
    rw [Moment.equal_of_denotes (.inl view.isView) view.denotes denotes, asked]
  have back : plain.equal view.moment = .ok (decide (view.instant = utc)) := by
    rw [Moment.equal_of_denotes (.inr view.isView) denotes view.denotes, Bool.beq_comm, asked]
  have keys : view.instant = utc →
      (HashKey.instant view.instant.ticks = .instant instant ↔ ¬plain.IsLateReading) := by
    rintro rfl
    rw [← late, HashKey.instant.injEq, eq_comm]
  have counted : (HashKey.instant view.instant.ticks = .instant instant ∧
      decide (view.instant = utc) = true) ↔ (view.instant = utc ∧ ¬plain.IsLateReading) := by
    rw [decide_eq_true_iff, and_comm]
    exact and_congr_right keys
  have counted' : (HashKey.instant instant = .instant view.instant.ticks ∧
      decide (view.instant = utc) = true) ↔ (view.instant = utc ∧ ¬plain.IsLateReading) := by
    rw [← counted]
    exact and_congr_left' eq_comm
  refine ⟨_, _, forth, back, viewHash, plainHash, keys, fun isLate => isLate.exists_region, ?_, ?_⟩
  · rw [Moment.setSize_of_keys viewHash plainHash forth]
    simp only [counted]
  · rw [Moment.setSize_of_keys plainHash viewHash back]
    simp only [counted']

/-! ### In a repeated hour -/

def plainHalfPastTwo : Moment := (Moment.halfPastTwo true).withKind .plain

theorem plainHalfPastTwo_denotes : plainHalfPastTwo.Denotes Moment.secondHalfPastTwo :=
  Moment.halfPastTwo_denotes.2

theorem isLateReading_plainHalfPastTwo : plainHalfPastTwo.IsLateReading := by
  decide +kernel

theorem equal_later_half_past_two_is_two_members :
    (Moment.halfPastTwo true).equal plainHalfPastTwo = .ok true ∧
    plainHalfPastTwo.equal (Moment.halfPastTwo true) = .ok true ∧
    (Moment.halfPastTwo true).hashKey = .ok (.instant Moment.secondHalfPastTwo.ticks) ∧
    plainHalfPastTwo.hashKey = .ok (.instant Moment.firstHalfPastTwo.ticks) ∧
    Value.setSize (.moment (Moment.halfPastTwo true)) (.moment plainHalfPastTwo) = .ok 2 := by
  have later := Moment.halfPastTwo_denotes.2
  have forth := Moment.equal_of_denotes (.inl rfl) later plainHalfPastTwo_denotes
  have back := Moment.equal_of_denotes (.inr rfl) plainHalfPastTwo_denotes later
  have viewHash := Moment.hashKey_of_denotes rfl later
  have plainHash : plainHalfPastTwo.hashKey = .ok (.instant Moment.firstHalfPastTwo.ticks) := by
    decide +kernel
  refine ⟨forth, back, viewHash, plainHash, ?_⟩
  rw [Moment.setSize_of_keys viewHash plainHash forth]
  rfl

theorem later_half_past_two_keeps_no_common_key :
    ¬plainHalfPastTwo.kind.isView ∧ plainHalfPastTwo.Denotes Moment.secondHalfPastTwo ∧
    ∃ viewKey plainKey, (Moment.halfPastTwo true).hashKey = .ok viewKey ∧
      plainHalfPastTwo.hashKey = .ok plainKey ∧ viewKey ≠ plainKey := by
  have isPlain : ¬plainHalfPastTwo.kind.isView := by
    decide
  let view : DatedView :=
    ⟨Moment.halfPastTwo true, Moment.secondHalfPastTwo, rfl, Moment.halfPastTwo_denotes.2⟩
  obtain ⟨viewKey, plainKey, _, _, viewHash, plainHash, shared, _⟩ :=
    view_and_plain_share_key_iff view isPlain plainHalfPastTwo_denotes
  refine ⟨isPlain, plainHalfPastTwo_denotes, viewKey, plainKey, viewHash, plainHash, ?_⟩
  intro same
  exact (shared rfl).mp same isLateReading_plainHalfPastTwo

end VirtualClock
