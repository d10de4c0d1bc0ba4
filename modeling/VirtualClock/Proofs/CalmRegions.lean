import VirtualClock.Proofs.GoverningChanges

/-!
# Calm regions

The history of a region is a timeline of its own, which the region follows until a few
days after the last change.  Where changes keep four days apart, one of them governs a
wall second; later on it is a change of the yearly rule.

Shortly after the last change the wall is already read by the rule, whose dates may say
something else than the history.  So the change also governs the reading of a wall second
there only if the rule reads it with the offset of the last change.
-/

namespace VirtualClock

variable {wall second : Int}

/-! ## Rare changes -/

namespace OffsetChange

variable {change : OffsetChange} {changes : List OffsetChange} {opening : Int}

/-- The later change comes four days after the earlier one. -/
def IsWellBefore (earlier later : OffsetChange) : Prop :=
  earlier.second + 4 * 86400 ≤ later.second

instance (earlier later : OffsetChange) : Decidable (earlier.IsWellBefore later) := by
  unfold IsWellBefore
  infer_instance

/-- The change is one of a list or changes nothing. -/
def IsFrom (change : OffsetChange) (changes : List OffsetChange) : Prop :=
  change ∈ changes ∨ change.before = change.after

/-- Among changes that keep four days apart one governs the wall second and its readings. -/
theorem exists_governing (within : VirtualClock.IsWithinDay opening)
    (shorter : ∀ change ∈ changes, change.IsWithinDay)
    (opens : ∀ first ∈ changes.head?, first.before = opening)
    (chain : changes.IsChain Precedes) (sparse : changes.IsChain IsWellBefore) (wall : Int) :
    ∃ single : OffsetChange,
      single.Governs (offsetFrom OffsetChange.second opening changes) wall ∧
      single.IsFrom changes ∧
      ∀ fold, offsetFrom (wallSecond fold) opening changes wall = single.readingAt wall fold := by
  induction changes generalizing opening with
  | nil =>
      refine ⟨steady opening, governs_steady within fun _ _ _ => rfl, .inr rfl, fun fold => ?_⟩
      rw [readingAt_steady]
      rfl
  | cons change later inductionHypothesis =>
      obtain ⟨changeWithin, laterWithin⟩ := List.forall_mem_cons.mp shorter
      obtain ⟨precedes, laterChain⟩ := List.isChain_cons.mp chain
      obtain ⟨farAhead, laterSparse⟩ := List.isChain_cons.mp sparse
      have before : change.before = opening := opens change rfl
      have onWall := wallSecond_within changeWithin
      by_cases past : change.second ≤ wall - 2 * 86400
      -- the change is passed wherever it could count
      · obtain ⟨single, governs, listed, reads⟩ := inductionHypothesis changeWithin.2 laterWithin
          (fun next isNext => (precedes next isNext).1.symm) laterChain laterSparse
        refine ⟨single, ⟨governs.before, governs.after, fun second early late => ?_⟩, ?_,
          fun fold => ?_⟩
        · rw [offsetFrom_of_le (by omega)]
          exact governs.offset second early late
        · exact listed.imp (List.mem_cons_of_mem change) id
        · have passed := onWall fold
          rw [offsetFrom_of_le (by omega)]
          exact reads fold
      by_cases ahead : wall + 2 * 86400 ≤ change.second
      -- nothing has changed yet wherever it could count
      · refine ⟨steady opening, governs_steady within fun second early late => ?_, .inr rfl,
          fun fold => ?_⟩
        · apply offsetFrom_of_lt
          intro next isNext
          cases isNext
          omega
        · rw [readingAt_steady]
          apply offsetFrom_of_lt
          intro next isNext
          cases isNext
          have notYet := onWall fold
          omega
      -- the change counts, and the next one is too far ahead
      · have beyond : ∀ next ∈ later.head?, wall + 2 * 86400 < next.second := by
          intro next isNext
          have apart : change.second + 4 * 86400 ≤ next.second := farAhead next isNext
          omega
        refine ⟨change, ⟨changeWithin.1, changeWithin.2, fun second early late => ?_⟩,
          .inl List.mem_cons_self, fun fold => ?_⟩
        · by_cases reached : change.second ≤ second
          · rw [offsetFrom_of_le reached, offsetAt_of_le reached]
            apply offsetFrom_of_lt
            intro next isNext
            have far := beyond next isNext
            omega
          · rw [offsetFrom_of_lt (by simpa using reached),
              offsetAt_of_lt (Int.not_le.mp reached), before]
        · unfold readingAt
          by_cases passed : change.wallSecond fold ≤ wall
          · rw [offsetFrom_of_le passed, if_pos passed]
            apply offsetFrom_of_lt
            intro next isNext
            have far := beyond next isNext
            have nextWithin := wallSecond_within
              (laterWithin next (List.mem_of_mem_head? isNext)) fold
            omega
          · rw [offsetFrom_of_lt (by simpa using passed), if_neg passed, before]

end OffsetChange

/-! ## Calm histories -/

namespace Region

variable {region : Region} {final : OffsetChange}

/-- The changes of an orderly region keep four days apart, and for four days after the last of
them the rule has the offset of that change.  A region without changes has a steady rule. -/
structure IsCalm (region : Region) : Prop where
  orderly : region.IsOrderly
  sparse : region.changeList.IsChain OffsetChange.IsWellBefore
  settles : ∀ final ∈ region.changeList.getLast?,
    (region.rule.atUtc (final.second + 1)).1 = final.after ∧
      (region.rule.atUtc (final.second + 4 * 86400 - 1)).1 = final.after
  steady : region.changeList = [] → region.rule.daylight = none

instance (region : Region) : Decidable region.IsCalm :=
  decidable_of_iff
    (region.IsOrderly ∧ region.changeList.IsChain OffsetChange.IsWellBefore ∧
      (∀ final ∈ region.changeList.getLast?,
        (region.rule.atUtc (final.second + 1)).1 = final.after ∧
          (region.rule.atUtc (final.second + 4 * 86400 - 1)).1 = final.after) ∧
      (region.changeList = [] → region.rule.daylight = none))
    ⟨fun ⟨orderly, sparse, settles, steady⟩ => ⟨orderly, sparse, settles, steady⟩,
      fun calm => ⟨calm.orderly, calm.sparse, calm.settles, calm.steady⟩⟩

theorem before_of_head (region : Region) :
    ∀ first ∈ region.changeList.head?, first.before = region.initialOffset := by
  intro first isFirst
  unfold changeList at isFirst
  cases records : region.changes with
  | nil =>
      rw [records] at isFirst
      cases isFirst
  | cons record later =>
      rw [records] at isFirst
      cases isFirst
      rfl

/-- The history of a region as a timeline. -/
def history (orderly : region.IsOrderly) : Timeline where
  opening := region.initialOffset
  changes := region.changeList
  opens := region.before_of_head
  inOrder := orderly.chain

theorem history_offsetAt (orderly : region.IsOrderly) (second : Int) :
    (history orderly).offsetAt second =
      ((OffsetChange.lastPassed OffsetChange.second second region.changeList).map
        OffsetChange.after).getD region.initialOffset :=
  OffsetChange.offsetFrom_eq _ _ _ _

theorem history_readingAt (orderly : region.IsOrderly) (wall : Int) (fold : Bool) :
    (history orderly).readingAt wall fold =
      ((OffsetChange.lastPassed (OffsetChange.wallSecond fold) wall region.changeList).map
        OffsetChange.after).getD region.initialOffset :=
  OffsetChange.offsetFrom_eq _ _ _ _

theorem lastPassed_of_later (orderly : region.IsOrderly)
    (isFinal : region.changeList.getLast? = some final) (later : final.second < second) :
    OffsetChange.lastPassed OffsetChange.second second region.changeList = some final := by
  have allPassed : ∀ change ∈ region.changeList, change.second ≤ second := by
    intro change listed
    have upTo := OffsetChange.le_final (fun precedes => precedes.second_le) orderly.chain isFinal
      listed
    omega
  rw [OffsetChange.lastPassed_of_forall allPassed, isFinal]

theorem history_readingAt_of_final (orderly : region.IsOrderly) {fold : Bool}
    (isFinal : region.changeList.getLast? = some final) (later : final.wallSecond fold < wall) :
    (history orderly).readingAt wall fold = final.after := by
  have allPassed : ∀ change ∈ region.changeList, change.wallSecond fold ≤ wall := by
    intro change listed
    have upTo := OffsetChange.le_final (fun precedes => precedes.wallSecond_le fold)
      orderly.chain isFinal listed
    omega
  rw [history_readingAt, OffsetChange.lastPassed_of_forall allPassed, isFinal]
  rfl

/-- After the last change the rule decides, whether it has daylight time or not. -/
theorem atUtc_of_later (orderly : region.IsOrderly)
    (isFinal : region.changeList.getLast? = some final) (later : final.second < second) :
    (region.atUtc second).1 = (region.rule.atUtc second).1 := by
  by_cases byRule : final.second < second ∧ region.rule.daylight.isSome
  · rw [atUtc_of_rule isFinal byRule]
  · have steady := steady_of_recorded byRule later
    rw [ZoneRule.atUtc_of_steady steady,
      atUtc_of_some isFinal byRule (lastPassed_of_later orderly isFinal later)]
    exact if_pos later

/-- For four days the rule keeps the offset of the last change. -/
theorem atUtc_of_settling (calm : region.IsCalm) (isFinal : region.changeList.getLast? = some final)
    (later : final.second < second) (soon : second < final.second + 4 * 86400) :
    (region.rule.atUtc second).1 = final.after := by
  obtain ⟨begins, ends⟩ := calm.settles final isFinal
  have inCalendar := inCalendar_of_mem (List.mem_of_getLast? isFinal)
  -- one change at most lies between the two seconds that are known to agree
  have middle : -WallTime.epochSeconds + 2 * 86400 ≤ final.second + 2 * 86400 := by omega
  obtain ⟨change, ⟨governs, -⟩, -, -⟩ := ZoneRule.exists_governing calm.orderly.rule middle
  have first := governs.offset (final.second + 1) (by omega) (by omega)
  have last := governs.offset (final.second + 4 * 86400 - 1) (by omega) (by omega)
  have between := governs.offset second (by omega) (by omega)
  rw [begins] at first
  rw [ends] at last
  rw [between]
  unfold OffsetChange.offsetAt at first last ⊢
  split_ifs at * <;> omega

/-- Until four days after its last change a region follows its history. -/
theorem atUtc_eq_history (calm : region.IsCalm) (isFinal : region.changeList.getLast? = some final)
    (soon : second < final.second + 4 * 86400) :
    (region.atUtc second).1 = (history calm.orderly).offsetAt second := by
  by_cases later : final.second < second
  · rw [atUtc_of_later calm.orderly isFinal later, atUtc_of_settling calm isFinal later soon,
      history_offsetAt, lastPassed_of_later calm.orderly isFinal later]
    rfl
  · have recorded : ¬(final.second < second ∧ region.rule.daylight.isSome) :=
      fun both => later both.1
    rw [history_offsetAt]
    cases found : OffsetChange.lastPassed OffsetChange.second second region.changeList with
    | none =>
        rw [atUtc_of_none isFinal recorded found]
        rfl
    | some change =>
        rw [atUtc_of_some isFinal recorded found]
        exact if_neg later

/-- A wall second is read by the history, where the rule does not read it otherwise. -/
theorem atWall_eq_history (orderly : region.IsOrderly) {fold : Bool}
    (isFinal : region.changeList.getLast? = some final)
    (settled : final.wallSecond fold < wall → region.rule.atWall wall fold = final.after) :
    region.atWall wall fold = (history orderly).readingAt wall fold := by
  by_cases later : final.wallSecond fold < wall
  · rw [atWall_of_rule isFinal later, settled later,
      history_readingAt_of_final orderly isFinal later]
  · rw [history_readingAt]
    cases found : OffsetChange.lastPassed (OffsetChange.wallSecond fold) wall region.changeList with
    | none => exact atWall_of_none isFinal later found
    | some change => exact atWall_of_some isFinal later found

/-- The wall second comes two days after the last change, or the rule reads it as the history
does. -/
def IsSettled (region : Region) (wall : Int) : Prop :=
  ∀ final ∈ region.changeList.getLast?, wall < final.second + 2 * 86400 →
    ∀ fold, final.wallSecond fold < wall → region.rule.atWall wall fold = final.after

theorem isSettled_of_far (far : ∀ final ∈ region.changeList.getLast?,
    wall ≤ final.wallSecond true ∨ final.second + 2 * 86400 ≤ wall) : region.IsSettled wall := by
  intro final isFinal soon fold later
  have bounds := final.wallSecond_bounds fold
  have away := far final isFinal
  omega

/-- What is known of a change that governs a wall second of a region. -/
structure IsGovernedBy (region : Region) (wall : Int) (change : OffsetChange) : Prop where
  governs : change.Governs (fun second => (region.atUtc second).1) wall
  reads : ∀ fold, region.atWall wall fold = change.readingAt wall fold
  origin : change.IsFrom region.changeList ∨
    (region.rule.HasOffset change.before ∧ region.rule.HasOffset change.after)

theorem isGovernedBy_of_rule {change : OffsetChange}
    (governed : region.rule.IsGovernedBy wall change)
    (known : region.rule.HasOffset change.before ∧ region.rule.HasOffset change.after)
    (atUtc : ∀ second, wall - 2 * 86400 < second →
      (region.atUtc second).1 = (region.rule.atUtc second).1)
    (atWall : ∀ fold, region.atWall wall fold = region.rule.atWall wall fold) :
    region.IsGovernedBy wall change where
  governs :=
    { before := governed.1.before
      after := governed.1.after
      offset := by
        intro second early late
        rw [atUtc second early]
        exact governed.1.offset second early late }
  reads := by
    intro fold
    rw [atWall fold]
    exact governed.2 fold
  origin := .inr known

/-- In a calm region one change governs each wall second, shortly after the last change of the
history if the rule agrees with it. -/
theorem exists_governing (calm : region.IsCalm) (settled : region.IsSettled wall) :
    ∃ change, region.IsGovernedBy wall change := by
  cases isFinal : region.changeList.getLast? with
  | none =>
      have steady := calm.steady (List.getLast?_eq_none_iff.mp isFinal)
      have atUtc : ∀ second, region.atUtc second = region.rule.atUtc second := by
        intro second
        unfold Region.atUtc
        rw [isFinal]
      have atWall : ∀ fold, region.atWall wall fold = region.rule.atWall wall fold := by
        intro fold
        unfold Region.atWall
        rw [isFinal]
      refine ⟨.steady region.rule.offset, isGovernedBy_of_rule
        ⟨OffsetChange.governs_steady calm.orderly.rule.1.1 ?_, ?_⟩ ⟨.inl rfl, .inl rfl⟩ ?_ atWall⟩
      · intro second _ _
        rw [ZoneRule.atUtc_of_steady steady]
      · intro fold
        rw [ZoneRule.atWall_of_steady steady, OffsetChange.readingAt_steady]
      · intro second _
        rw [atUtc]
  | some final =>
      have listed : final ∈ region.changeList := List.mem_of_getLast? isFinal
      have within := isWithinDay_of_mem calm.orderly listed
      have inCalendar := inCalendar_of_mem listed
      by_cases past : final.second + 2 * 86400 ≤ wall
      · have late : -WallTime.epochSeconds + 2 * 86400 ≤ wall := by omega
        obtain ⟨change, governed, known⟩ := ZoneRule.exists_governing calm.orderly.rule late
        refine ⟨change, isGovernedBy_of_rule governed known (fun second early => ?_) fun fold => ?_⟩
        · exact atUtc_of_later calm.orderly isFinal (by omega)
        · have onWall := OffsetChange.wallSecond_within within fold
          exact atWall_of_rule isFinal (by omega)
      · obtain ⟨change, governs, origin, reads⟩ := OffsetChange.exists_governing
          calm.orderly.initial (fun change listed => isWithinDay_of_mem calm.orderly listed)
          region.before_of_head calm.orderly.chain calm.sparse wall
        refine ⟨change, ⟨⟨governs.before, governs.after, fun second early late => ?_⟩,
          fun fold => ?_, .inl origin⟩⟩
        · rw [atUtc_eq_history calm isFinal (by omega)]
          exact governs.offset second early late
        · rw [atWall_eq_history calm.orderly isFinal (settled final isFinal (by omega) fold)]
          exact reads fold

end Region

theorem Atlas.isCalm_of_mem_excerpt : ∀ place ∈ excerptRegions, place.IsCalm := by
  decide +kernel

end VirtualClock
