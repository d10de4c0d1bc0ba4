import Mathlib.Data.Finset.Card
import Mathlib.Data.Finset.Dedup
import VirtualClock.Proofs.Ordering
import VirtualClock.Value.Comparison

/-!
# Equality of views

Views are equal exactly when they denote one instant, whatever their kinds, zones
and folds.  They hash by that instant as well, so a set of views keeps one member
for each instant that is viewed.  A moment without an offset denotes no instant
and equals no moment that has one.
-/

namespace VirtualClock

namespace Moment

/-- Inequality of moments; a view differs from what it is not equal to. -/
def differs (left right : Moment) : Except Fault Bool := (left.equal right).map (!·)

/-! ## Moments without an offset -/

section Awareness

variable {left right : Moment}

theorem offset?_of_not_isAware {moment : Moment} (naive : ¬moment.isAware) :
    moment.offset? = none := by
  simpa [isAware] using naive

/-- A zone that both moments share gives an offset to both. -/
theorem not_sharesZone_of_isAware (aware : left.isAware) (naive : ¬right.isAware) :
    ¬left.sharesZone right := by
  intro shared
  obtain ⟨same, isShared⟩ := sharesZone_iff.mp shared
  have unknown := offset?_of_not_isAware naive
  cases zoned : left.zone with
  | none => simp [isAware, offset?, zoned] at aware
  | some zone =>
      have whole := isShared zone zoned
      rw [zoned] at same
      cases zone with
      | floating => cases whole
      | fixed offset label => cases whole
      | utc => simp [offset?, ← same, Zone.offsetAt] at unknown
      | region place => simp [offset?, ← same, Zone.offsetAt] at unknown

/-- Nothing with an offset equals anything without one. -/
theorem equal_of_isAware_of_not_isAware (aware : left.isAware) (naive : ¬right.isAware) :
    left.equal right = .ok false ∧ right.equal left = .ok false := by
  have apart := not_sharesZone_of_isAware aware naive
  have apart' : ¬right.sharesZone left := by
    rwa [sharesZone_comm]
  have unknown := offset?_of_not_isAware naive
  obtain ⟨offset, known⟩ := Option.isSome_iff_exists.mp aware
  constructor
  · simp [equal, plainEqual, known, unknown, apart, pure, Except.pure]
  · simp [equal, plainEqual, known, unknown, apart', pure, Except.pure]

end Awareness

/-! ## Sets of moments -/

/-- Adds a moment to the members of a set, which are kept with their hash keys.  Only members with
the key of the moment are asked whether they equal it. -/
def addTo (members : List (HashKey × Moment)) (moment : Moment) :
    Except Fault (List (HashKey × Moment)) := do
  let key ← moment.hashKey
  let isMember ← members.anyM fun member =>
    if member.1 = key then member.2.equal moment else pure false
  if isMember then pure members else pure (members ++ [(key, moment)])

/-- The set of some moments, which keeps the first of those that are equal. -/
def setOf (moments : List Moment) : Except Fault (List (HashKey × Moment)) :=
  moments.foldlM addTo []

/-- The set of two moments that programs ask for is such a set. -/
theorem setSize_eq (left right : Moment) :
    Value.setSize (.moment left) (.moment right) = (setOf [left, right]).map List.length := by
  unfold Value.setSize
  simp only [Value.hashKey, Value.equal, setOf, addTo, List.foldlM_cons, List.foldlM_nil]
  cases left.hashKey with
  | error fault => rfl
  | ok leftKey =>
      cases right.hashKey with
      | error fault => rfl
      | ok rightKey =>
          by_cases same : leftKey = rightKey
          · cases equal : left.equal right with
            | error fault =>
                simp [same, equal, bind, Except.bind, pure, Except.pure, Except.map]
            | ok isEqual =>
                cases isEqual with
                | false => simp [same, equal, bind, Except.bind, pure, Except.pure, Except.map]
                | true => simp [same, equal, bind, Except.bind, pure, Except.pure, Except.map]
          · simp [same, bind, Except.bind, pure, Except.pure, Except.map]

end Moment

/-! ## Views with an instant -/

/-- A view with an offset whose instant the calendar holds. -/
structure DatedView where
  moment : Moment
  instant : WallTime
  isView : moment.kind.isView
  denotes : moment.Denotes instant

namespace DatedView

/-- The left view is found equal to the right one. -/
def Equals (left right : DatedView) : Prop := left.moment.equal right.moment = .ok true

theorem equal_moment (left right : DatedView) :
    left.moment.equal right.moment = .ok (decide (left.instant = right.instant)) := by
  rw [Moment.equal_of_denotes (.inl left.isView) left.denotes right.denotes]
  simp only [WallTime.eq_iff_ticks]
  rfl

theorem equals_iff (left right : DatedView) :
    left.Equals right ↔ left.instant = right.instant := by
  simp [Equals, equal_moment]

theorem equals_equivalence : Equivalence Equals where
  refl view := (equals_iff view view).mpr rfl
  symm {left right} same := (equals_iff right left).mpr ((equals_iff left right).mp same).symm
  trans {first second third} same further :=
    (equals_iff first third).mpr
      (((equals_iff first second).mp same).trans ((equals_iff second third).mp further))

theorem hashKey_moment (view : DatedView) :
    view.moment.hashKey = .ok (.instant view.instant.ticks) :=
  Moment.hashKey_of_denotes view.isView view.denotes

/-! ### Sets of views -/

/-- A view as a member of a set. -/
def member (view : DatedView) : HashKey × Moment := (.instant view.instant.ticks, view.moment)

/-- The views that a set keeps when one more is added. -/
def keep (kept : List DatedView) (view : DatedView) : List DatedView :=
  if view.instant ∈ kept.map instant then kept else kept ++ [view]

theorem anyM_members (kept : List DatedView) (view : DatedView) :
    ((kept.map member).anyM fun known =>
        if known.1 = .instant view.instant.ticks then known.2.equal view.moment else pure false) =
      (.ok (decide (view.instant ∈ kept.map instant)) : Except Fault Bool) := by
  induction kept with
  | nil => rfl
  | cons first rest inductionHypothesis =>
      rw [List.map_cons, List.anyM_cons, inductionHypothesis]
      by_cases same : first.instant = view.instant
      · have found : first.moment.equal view.moment = .ok true := (first.equals_iff view).mpr same
        simp [member, same, found, bind, Except.bind, pure, Except.pure]
      · have apart : ¬first.instant.ticks = view.instant.ticks := by
          rwa [← WallTime.eq_iff_ticks]
        simp [member, apart, Ne.symm same, bind, Except.bind, pure, Except.pure]

theorem addTo_members (kept : List DatedView) (view : DatedView) :
    Moment.addTo (kept.map member) view.moment = .ok ((keep kept view).map member) := by
  have asked : Moment.addTo (kept.map member) view.moment =
      (Except.ok (decide (view.instant ∈ kept.map instant)) >>= fun isMember =>
        if isMember then pure (kept.map member) else pure (kept.map member ++ [view.member])) := by
    rw [← anyM_members, Moment.addTo, hashKey_moment]
    rfl
  rw [asked]
  by_cases known : view.instant ∈ kept.map instant
  · simp only [keep, known, if_true]
    rfl
  · simp only [keep, known, if_false, List.map_append]
    rfl

theorem foldlM_addTo (views kept : List DatedView) :
    (views.map moment).foldlM Moment.addTo (kept.map member) =
      .ok ((views.foldl keep kept).map member) := by
  induction views generalizing kept with
  | nil => rfl
  | cons view rest inductionHypothesis =>
      rw [List.map_cons, List.foldlM_cons, addTo_members]
      exact inductionHypothesis (keep kept view)

/-- What a set keeps of some views: no instant twice, and every instant once. -/
theorem instants_keep (kept : List DatedView) (view : DatedView)
    (distinct : (kept.map instant).Nodup) :
    ((keep kept view).map instant).Nodup ∧
      ((keep kept view).map instant).toFinset =
        insert view.instant (kept.map instant).toFinset := by
  unfold keep
  by_cases known : view.instant ∈ kept.map instant
  · rw [if_pos known]
    exact ⟨distinct, (Finset.insert_eq_of_mem (List.mem_toFinset.mpr known)).symm⟩
  · rw [if_neg known, List.map_append, List.map_singleton]
    refine ⟨List.nodup_append.mpr ⟨distinct, List.nodup_singleton _, ?_⟩, ?_⟩
    · rintro instant member other single rfl
      rw [List.mem_singleton.mp single] at member
      exact known member
    · ext instant
      simp

theorem instants_foldl_keep (views kept : List DatedView)
    (distinct : (kept.map instant).Nodup) :
    ((views.foldl keep kept).map instant).Nodup ∧
      ((views.foldl keep kept).map instant).toFinset =
        (kept.map instant).toFinset ∪ (views.map instant).toFinset := by
  induction views generalizing kept with
  | nil => simpa using distinct
  | cons view rest inductionHypothesis =>
      obtain ⟨still, grown⟩ := instants_keep kept view distinct
      obtain ⟨nodup, covered⟩ := inductionHypothesis (keep kept view) still
      refine ⟨nodup, ?_⟩
      rw [List.foldl_cons, covered, grown]
      ext instant
      simp

/-- The set of some views has one member for each of their instants. -/
theorem length_setOf (views : List DatedView) :
    (Moment.setOf (views.map moment)).map List.length =
      .ok (views.map instant).toFinset.card := by
  obtain ⟨distinct, covered⟩ := instants_foldl_keep views [] List.nodup_nil
  unfold Moment.setOf
  rw [show ([] : List (HashKey × Moment)) = ([] : List DatedView).map member from rfl,
    foldlM_addTo]
  simp only [Except.map, List.length_map]
  rw [← List.length_map (f := instant), ← List.toFinset_card_of_nodup distinct, covered]
  simp

/-- A set of two views, as programs build it, has one member or two. -/
theorem setSize_moment (left right : DatedView) :
    Value.setSize (.moment left.moment) (.moment right.moment) =
      .ok (if left.instant = right.instant then 1 else 2) := by
  rw [Moment.setSize_eq]
  refine (length_setOf [left, right]).trans ?_
  by_cases same : left.instant = right.instant
  · simp [same]
  · simp [same]

end DatedView

/-- Views with an instant in the calendar are equal exactly when their instants are, either way
round, and differ when they are not; so equality is reflexive, symmetric and transitive.  Their hash
keys are the same exactly when they are equal, and a set of views has one member for each of their
instants.  No moment with an offset equals one without. -/
theorem equality_of_views_is_by_instant :
    Equivalence DatedView.Equals ∧
    (∀ left right : DatedView,
      left.moment.equal right.moment = .ok (decide (left.instant = right.instant)) ∧
      left.moment.differs right.moment = .ok (decide (left.instant ≠ right.instant)) ∧
      ∃ leftKey rightKey,
        left.moment.hashKey = .ok leftKey ∧ right.moment.hashKey = .ok rightKey ∧
        (leftKey = rightKey ↔ left.Equals right) ∧
        Value.setSize (.moment left.moment) (.moment right.moment) =
          .ok (if left.instant = right.instant then 1 else 2)) ∧
    (∀ views : List DatedView,
      (Moment.setOf (views.map DatedView.moment)).map List.length =
        .ok (views.map DatedView.instant).toFinset.card) ∧
    ∀ aware naive : Moment, aware.isAware → ¬naive.isAware →
      aware.equal naive = .ok false ∧ naive.equal aware = .ok false ∧
      aware.differs naive = .ok true ∧ naive.differs aware = .ok true := by
  refine ⟨DatedView.equals_equivalence, fun left right => ⟨left.equal_moment right, ?_, ?_⟩,
    DatedView.length_setOf, fun aware naive offset none => ?_⟩
  · rw [Moment.differs, left.equal_moment right, decide_not]
    rfl
  · refine ⟨_, _, left.hashKey_moment, right.hashKey_moment, ?_, left.setSize_moment right⟩
    rw [left.equals_iff right, WallTime.eq_iff_ticks]
    simp
  · obtain ⟨forth, back⟩ := Moment.equal_of_isAware_of_not_isAware offset none
    refine ⟨forth, back, ?_, ?_⟩
    · rw [Moment.differs, forth]
      rfl
    · rw [Moment.differs, back]
      rfl

/-! ### In a repeated hour -/

/-- The later half past two as a timestamp in Berlin, as a date-time at the offset then in force,
and as an audit stamp in universal time. -/
def viewsOfLaterHalfPastTwo : List DatedView :=
  [⟨Moment.halfPastTwo true, Moment.secondHalfPastTwo, rfl, Moment.halfPastTwo_denotes.2⟩,
    ⟨⟨.dateTime, (Moment.halfPastTwo true).wall, some (.fixed 3600000000 none), false⟩,
      Moment.secondHalfPastTwo, rfl, rfl⟩,
    ⟨⟨⟨.timestamp, "AuditStamp"⟩, Moment.secondHalfPastTwo, some .utc, true⟩,
      Moment.secondHalfPastTwo, rfl, rfl⟩]

theorem later_half_past_two_is_one_member :
    (Moment.setOf (viewsOfLaterHalfPastTwo.map DatedView.moment)).map List.length = .ok 1 ∧
    (Moment.halfPastTwo true).equal { Moment.halfPastTwo true with zone := none } = .ok false := by
  obtain ⟨_, _, members, apart⟩ := equality_of_views_is_by_instant
  have aware : (Moment.halfPastTwo true).isAware := by
    decide +kernel
  have naive : ¬({ Moment.halfPastTwo true with zone := none } : Moment).isAware := by
    decide
  exact ⟨members viewsOfLaterHalfPastTwo, (apart _ _ aware naive).1⟩

end VirtualClock
