import Mathlib.Data.List.Chain
import VirtualClock.Proofs.Atlases
import VirtualClock.Proofs.ShownInstants
import VirtualClock.Proofs.ZoneRules

/-!
# Regions read back what they show

A region answers two questions that are kept apart, and for the regions of an orderly
atlas the answers agree.  What makes them agree is checked on the tables: changes that
follow one another do not overlap on the wall, and the yearly rule goes on where the
last change stops.

The fold of a shown wall time tells whether the last change repeats it.  With that
fold the change is passed on the wall as it is in universal time, and the next one is
not.
-/

namespace VirtualClock

namespace OffsetChange

variable {earlier later change next : OffsetChange} {changes passed ahead : List OffsetChange}

/-! ## Changes in a row -/

/-- The later change takes over the offset of the earlier one, and on the wall it is passed only
after that one, whichever of their readings are taken. -/
def Precedes (earlier later : OffsetChange) : Prop :=
  earlier.after = later.before ∧ earlier.wallSecond false ≤ later.wallSecond true

instance (earlier later : OffsetChange) : Decidable (earlier.Precedes later) := by
  unfold Precedes
  infer_instance

theorem wallSecond_true (change : OffsetChange) :
    change.wallSecond true = change.second + min change.before change.after :=
  rfl

theorem wallSecond_false (change : OffsetChange) :
    change.wallSecond false = change.second + max change.before change.after :=
  rfl

theorem wallSecond_bounds (change : OffsetChange) (fold : Bool) :
    change.wallSecond true ≤ change.wallSecond fold ∧
      change.wallSecond fold ≤ change.wallSecond false := by
  cases fold with
  | true =>
      rw [wallSecond_true, wallSecond_false]
      omega
  | false =>
      rw [wallSecond_true, wallSecond_false]
      omega

theorem Precedes.wallSecond_le (precedes : earlier.Precedes later) (fold : Bool) :
    earlier.wallSecond fold ≤ later.wallSecond fold := by
  have passed := precedes.2
  have upTo := earlier.wallSecond_bounds fold
  have onward := later.wallSecond_bounds fold
  omega

theorem Precedes.second_le (precedes : earlier.Precedes later) :
    earlier.second ≤ later.second := by
  obtain ⟨takesOver, passed⟩ := precedes
  rw [wallSecond_true, wallSecond_false] at passed
  omega

/-- What grows from each change to the next is greatest at the last. -/
theorem le_final {position : OffsetChange → Int} {final : OffsetChange}
    (grows : ∀ {earlier later}, Precedes earlier later → position earlier ≤ position later)
    (chain : changes.IsChain Precedes) (isFinal : changes.getLast? = some final)
    (listed : change ∈ changes) : position change ≤ position final := by
  have transitive : Trans (fun earlier later => position earlier ≤ position later)
      (fun earlier later => position earlier ≤ position later)
      (fun earlier later => position earlier ≤ position later) := ⟨Int.le_trans⟩
  have ordered := (chain.imp fun _ _ precedes => grows precedes).pairwise
  obtain ⟨before, rfl⟩ := List.getLast?_eq_some_iff.mp isFinal
  rcases List.mem_append.mp listed with early | last
  · exact (List.pairwise_append.mp ordered).2.2 change early final (List.mem_singleton_self final)
  · rw [List.mem_singleton.mp last]

/-! ## The last change that is passed -/

/-- A list falls into the changes that are passed, up to the first that is not, and the rest. -/
theorem exists_passed (position : OffsetChange → Int) (second : Int)
    (changes : List OffsetChange) :
    ∃ passed ahead, changes = passed ++ ahead ∧ (∀ change ∈ passed, position change ≤ second) ∧
      ∀ change ∈ ahead.head?, second < position change := by
  induction changes with
  | nil => exact ⟨[], [], rfl, by simp, by simp⟩
  | cons first rest inductionHypothesis =>
      by_cases reached : position first ≤ second
      · obtain ⟨passed, ahead, split, isPassed, isAhead⟩ := inductionHypothesis
        refine ⟨first :: passed, ahead, ?_, ?_, isAhead⟩
        · rw [split, List.cons_append]
        · exact List.forall_mem_cons.mpr ⟨reached, isPassed⟩
      · refine ⟨[], first :: rest, rfl, by simp, ?_⟩
        intro change isFirst
        cases isFirst
        exact Int.not_le.mp reached

theorem lastPassed_append {position : OffsetChange → Int} {second : Int}
    (isPassed : ∀ change ∈ passed, position change ≤ second)
    (isAhead : ∀ change ∈ ahead.head?, second < position change) :
    lastPassed position second (passed ++ ahead) = passed.getLast? := by
  have none : (ahead.takeWhile fun change => position change ≤ second) = [] := by
    cases ahead with
    | nil => rfl
    | cons next rest =>
        have notYet : ¬position next ≤ second := Int.not_le.mpr (isAhead next rfl)
        simp [notYet]
  unfold lastPassed
  rw [List.takeWhile_append_of_pos fun change isIn => decide_eq_true (isPassed change isIn), none,
    List.append_nil]

theorem lastPassed_of_forall {position : OffsetChange → Int} {second : Int}
    (isPassed : ∀ change ∈ changes, position change ≤ second) :
    lastPassed position second changes = changes.getLast? := by
  have nothingAhead : ∀ change ∈ ([] : List OffsetChange).head?, second < position change := by
    simp
  have found := lastPassed_append isPassed nothingAhead
  rwa [List.append_nil] at found

/-- The fold that goes with the offset after a change. -/
def repeats (change : OffsetChange) (second : Int) : Bool :=
  decide (second - change.second < change.before - change.after)

theorem wallSecond_repeats_le {second : Int} (reached : change.second ≤ second) :
    change.wallSecond (change.repeats second) ≤ second + change.after := by
  by_cases again : second - change.second < change.before - change.after
  · rw [repeats, decide_eq_true again, wallSecond_true]
    omega
  · rw [repeats, decide_eq_false again, wallSecond_false]
    omega

theorem le_wallSecond_repeats {second : Int} (reached : change.second ≤ second) :
    change.second + change.after ≤ change.wallSecond (change.repeats second) := by
  by_cases again : second - change.second < change.before - change.after
  · rw [repeats, decide_eq_true again, wallSecond_true]
    omega
  · rw [repeats, decide_eq_false again, wallSecond_false]
    omega

theorem lt_wallSecond_repeats {second : Int} (precedes : change.Precedes next)
    (ahead : second < next.second) :
    second + change.after < next.wallSecond (change.repeats second) := by
  obtain ⟨takesOver, before⟩ := precedes
  by_cases again : second - change.second < change.before - change.after
  · have early := change.wallSecond_false
    rw [repeats, decide_eq_true again]
    omega
  · rw [repeats, decide_eq_false again, wallSecond_false]
    omega

/-- The changes passed on the wall are those passed in universal time. -/
theorem lastPassed_shown {second : Int} {earliest : List OffsetChange}
    (chain : ((earliest ++ [change]) ++ ahead).IsChain Precedes)
    (reached : change.second ≤ second) (isAhead : ∀ next ∈ ahead.head?, second < next.second) :
    lastPassed (wallSecond (change.repeats second)) (second + change.after)
      ((earliest ++ [change]) ++ ahead) = some change := by
  have reachedOnWall := wallSecond_repeats_le reached
  have passedOnWall : ∀ earlier ∈ earliest ++ [change],
      earlier.wallSecond (change.repeats second) ≤ second + change.after := by
    intro earlier isIn
    have upTo := le_final (fun precedes => precedes.wallSecond_le (change.repeats second))
      (List.isChain_append.mp chain).1 List.getLast?_concat isIn
    exact Int.le_trans upTo reachedOnWall
  have isLast : change ∈ (earliest ++ [change]).getLast? := by
    rw [List.getLast?_concat]
    rfl
  have aheadOnWall : ∀ next ∈ ahead.head?,
      second + change.after < next.wallSecond (change.repeats second) := by
    intro next isNext
    have precedes : change.Precedes next :=
      (List.isChain_append.mp chain).2.2 change isLast next isNext
    exact lt_wallSecond_repeats precedes (isAhead next isNext)
  rw [lastPassed_append passedOnWall aheadOnWall, List.getLast?_concat]

/-! ## Changes on record -/

theorem exists_recorded {initial : Int} {records : List RecordedChange}
    (listed : change ∈ listFrom initial records) :
    ∃ record ∈ records, change.second = record.second - WallTime.epochSeconds ∧
      change.after = record.offset ∧
      (change.before = initial ∨ ∃ previous ∈ records, change.before = previous.offset) := by
  induction records generalizing initial with
  | nil => cases listed
  | cons first rest inductionHypothesis =>
      rcases List.mem_cons.mp listed with rfl | later
      · exact ⟨first, List.mem_cons_self, rfl, rfl, .inl rfl⟩
      · obtain ⟨record, recorded, placed, after, before⟩ := inductionHypothesis later
        refine ⟨record, List.mem_cons_of_mem first recorded, placed, after, .inr ?_⟩
        rcases before with afterFirst | ⟨previous, earlier, same⟩
        · exact ⟨first, List.mem_cons_self, afterFirst⟩
        · exact ⟨previous, List.mem_cons_of_mem first earlier, same⟩

end OffsetChange

/-! ## Where the rule takes over -/

namespace ZoneRule

/-- Neither date of the year falls into the two days after a second. -/
def RestsAfter (rule : ZoneRule) (daylight : DaylightRule) (second : Int) : Prop :=
  second + 2 * 86400 < yearStart (yearOfSecond second + 1) ∧
  (daylight.start.secondIn (yearOfSecond second) - rule.offset ≤ second ∨
    second + 2 * 86400 ≤ daylight.start.secondIn (yearOfSecond second) - rule.offset) ∧
  (daylight.finish.secondIn (yearOfSecond second) - daylight.offset ≤ second ∨
    second + 2 * 86400 ≤ daylight.finish.secondIn (yearOfSecond second) - daylight.offset)

instance (rule : ZoneRule) (daylight : DaylightRule) (second : Int) :
    Decidable (rule.RestsAfter daylight second) := by
  unfold RestsAfter
  infer_instance

/-- From the last change on the rule has the offset of that change for two days, and it knows
the wall times that the change repeats. -/
def TakesOver (rule : ZoneRule) (final : OffsetChange) : Prop :=
  (rule.atUtc final.second).1 = final.after ∧
  ∀ daylight ∈ rule.daylight, rule.RestsAfter daylight final.second ∧
    (final.after < final.before →
      rule.isRepeated daylight final.second ∧
        rule.isRepeated daylight (final.second + (final.before - final.after) - 1))

instance (rule : ZoneRule) (final : OffsetChange) : Decidable (rule.TakesOver final) := by
  unfold TakesOver
  infer_instance

variable {rule : ZoneRule} {daylight : DaylightRule} {final : OffsetChange} {second : Int}

theorem yearOfSecond_of_restsAfter (rests : rule.RestsAfter daylight second) {later : Int}
    (inCalendar : -WallTime.epochSeconds ≤ second) (after : second ≤ later)
    (near : later ≤ second + 2 * 86400) : yearOfSecond later = yearOfSecond second := by
  obtain ⟨-, begun, -⟩ := yearOfSecond_spec inCalendar
  have sameYear := rests.1
  exact yearOfSecond_eq (by omega) (by omega)

theorem isDaylight_of_restsAfter (rests : rule.RestsAfter daylight second) {later : Int}
    (inCalendar : -WallTime.epochSeconds ≤ second) (after : second ≤ later)
    (near : later < second + 2 * 86400) :
    rule.isDaylight daylight later = rule.isDaylight daylight second := by
  have sameYear := yearOfSecond_of_restsAfter rests inCalendar after (Int.le_of_lt near)
  obtain ⟨-, start, finish⟩ := rests
  rw [Bool.eq_iff_iff, isDaylight_iff, isDaylight_iff, sameYear]
  split
  · omega
  · omega

theorem isRepeated_of_restsAfter (rests : rule.RestsAfter daylight second) {later last : Int}
    (inCalendar : -WallTime.epochSeconds ≤ second) (after : second ≤ later) (upTo : later ≤ last)
    (near : last ≤ second + 2 * 86400) (first : rule.isRepeated daylight second)
    (still : rule.isRepeated daylight last) : rule.isRepeated daylight later := by
  have sameYear := yearOfSecond_of_restsAfter rests inCalendar after (by omega)
  have lastYear := yearOfSecond_of_restsAfter rests inCalendar (by omega) near
  rw [isRepeated_iff] at first still ⊢
  rw [lastYear] at still
  rw [sameYear]
  split_ifs at *
  · omega
  · omega

theorem atUtc_of_takesOver (takesOver : rule.TakesOver final)
    (changing : rule.daylight = some daylight) (inCalendar : -WallTime.epochSeconds ≤ final.second)
    (after : final.second ≤ second) (near : second < final.second + 2 * 86400) :
    (rule.atUtc second).1 = final.after := by
  obtain ⟨atOnce, resting⟩ := takesOver
  have same := isDaylight_of_restsAfter (resting daylight changing).1 inCalendar after near
  rw [atUtc_of_daylight changing] at atOnce ⊢
  rw [same]
  exact atOnce

theorem repeated_of_takesOver (takesOver : rule.TakesOver final)
    (changing : rule.daylight = some daylight) (inCalendar : -WallTime.epochSeconds ≤ final.second)
    (after : final.second ≤ second) (again : second < final.second + (final.before - final.after))
    (short : final.before - final.after ≤ 2 * 86400) : (rule.atUtc second).2 = true := by
  obtain ⟨rests, stepsBack⟩ := takesOver.2 daylight changing
  obtain ⟨first, still⟩ := stepsBack (by omega)
  rw [atUtc_of_daylight changing]
  exact isRepeated_of_restsAfter rests inCalendar after (by omega) (by omega) first still

end ZoneRule

/-! ## Orderly regions -/

namespace Region

/-- The changes follow one another without overlapping on the wall, the rule takes over after
the last of them, and all offsets are shorter than a day. -/
structure IsOrderly (region : Region) : Prop where
  rule : region.rule.IsOrderly
  initial : IsWithinDay region.initialOffset
  recorded : ∀ change ∈ region.changes, IsWithinDay change.offset
  chain : region.changeList.IsChain OffsetChange.Precedes
  takesOver : ∀ final ∈ region.changeList.getLast?, region.rule.TakesOver final

instance (region : Region) : Decidable region.IsOrderly :=
  decidable_of_iff
    (region.rule.IsOrderly ∧ IsWithinDay region.initialOffset ∧
      (∀ change ∈ region.changes, IsWithinDay change.offset) ∧
      region.changeList.IsChain OffsetChange.Precedes ∧
      ∀ final ∈ region.changeList.getLast?, region.rule.TakesOver final)
    ⟨fun ⟨rule, initial, recorded, chain, takesOver⟩ =>
        ⟨rule, initial, recorded, chain, takesOver⟩,
      fun orderly =>
        ⟨orderly.rule, orderly.initial, orderly.recorded, orderly.chain, orderly.takesOver⟩⟩

variable {region : Region} {change final : OffsetChange} {second : Int}

theorem isWithinDay_of_mem (orderly : region.IsOrderly) (listed : change ∈ region.changeList) :
    IsWithinDay change.before ∧ IsWithinDay change.after := by
  obtain ⟨record, recorded, -, after, before⟩ := OffsetChange.exists_recorded listed
  refine ⟨?_, ?_⟩
  · rcases before with first | ⟨previous, earlier, same⟩
    · rw [first]
      exact orderly.initial
    · rw [same]
      exact orderly.recorded previous earlier
  · rw [after]
    exact orderly.recorded record recorded

theorem inCalendar_of_mem (listed : change ∈ region.changeList) :
    -WallTime.epochSeconds ≤ change.second := by
  obtain ⟨record, -, placed, -⟩ := OffsetChange.exists_recorded listed
  omega

/-! ### The two questions, case by case -/

theorem atUtc_of_rule (isFinal : region.changeList.getLast? = some final)
    (later : final.second < second ∧ region.rule.daylight.isSome) :
    region.atUtc second = region.rule.atUtc second := by
  unfold atUtc
  rw [isFinal]
  exact if_pos later

theorem atUtc_of_none (isFinal : region.changeList.getLast? = some final)
    (recorded : ¬(final.second < second ∧ region.rule.daylight.isSome))
    (found : OffsetChange.lastPassed OffsetChange.second second region.changeList = none) :
    region.atUtc second = (region.initialOffset, false) := by
  unfold atUtc
  rw [isFinal]
  dsimp only
  rw [if_neg recorded, found]

theorem atUtc_of_some (isFinal : region.changeList.getLast? = some final)
    (recorded : ¬(final.second < second ∧ region.rule.daylight.isSome))
    (found : OffsetChange.lastPassed OffsetChange.second second region.changeList = some change) :
    region.atUtc second =
      (if final.second < second then region.rule.offset else change.after,
        change.repeats second) := by
  unfold atUtc
  rw [isFinal]
  dsimp only
  rw [if_neg recorded, found]
  rfl

theorem atWall_of_rule {fold : Bool} (isFinal : region.changeList.getLast? = some final)
    (later : final.wallSecond fold < second) :
    region.atWall second fold = region.rule.atWall second fold := by
  unfold atWall
  rw [isFinal]
  exact if_pos later

theorem atWall_of_none {fold : Bool} (isFinal : region.changeList.getLast? = some final)
    (recorded : ¬final.wallSecond fold < second)
    (found : OffsetChange.lastPassed (OffsetChange.wallSecond fold) second region.changeList =
      none) :
    region.atWall second fold = region.initialOffset := by
  unfold atWall
  rw [isFinal]
  dsimp only
  rw [if_neg recorded, found]

theorem atWall_of_some {fold : Bool} (isFinal : region.changeList.getLast? = some final)
    (recorded : ¬final.wallSecond fold < second)
    (found : OffsetChange.lastPassed (OffsetChange.wallSecond fold) second region.changeList =
      some change) :
    region.atWall second fold = change.after := by
  unfold atWall
  rw [isFinal]
  dsimp only
  rw [if_neg recorded, found]

/-! ### Reading back -/

/-- Before the first change the offset is the initial one, for the wall as well. -/
theorem atWall_of_ahead (orderly : region.IsOrderly)
    (isFinal : region.changeList.getLast? = some final)
    (isAhead : ∀ next ∈ region.changeList.head?, second < next.second) :
    region.atWall (second + region.initialOffset) false = region.initialOffset := by
  have aheadOnWall : ∀ next ∈ region.changeList.head?,
      second + region.initialOffset < next.wallSecond false := by
    intro next isNext
    have ahead := isAhead next isNext
    have before : next.before = region.initialOffset := by
      unfold changeList at isNext
      cases records : region.changes with
      | nil =>
          rw [records] at isNext
          cases isNext
      | cons first rest =>
          rw [records] at isNext
          cases isNext
          rfl
    rw [OffsetChange.wallSecond_false]
    omega
  have nothingPassed : ∀ change ∈ ([] : List OffsetChange),
      OffsetChange.wallSecond false change ≤ second + region.initialOffset := by
    simp
  have found := OffsetChange.lastPassed_append nothingPassed aheadOnWall
  rw [List.nil_append] at found
  refine atWall_of_none isFinal ?_ found
  cases listed : region.changeList with
  | nil =>
      rw [listed] at isFinal
      cases isFinal
  | cons first rest =>
      have ahead := aheadOnWall first (by rw [listed]; rfl)
      have upTo := OffsetChange.le_final (fun precedes => precedes.wallSecond_le false)
        orderly.chain isFinal (by rw [listed]; exact List.mem_cons_self)
      omega

theorem steady_of_recorded (recorded : ¬(final.second < second ∧ region.rule.daylight.isSome))
    (later : final.second < second) : region.rule.daylight = none := by
  cases changing : region.rule.daylight with
  | none => rfl
  | some daylight => exact absurd ⟨later, by rw [changing]; rfl⟩ recorded

theorem offset_of_steady (orderly : region.IsOrderly)
    (isFinal : region.changeList.getLast? = some final) (steady : region.rule.daylight = none) :
    region.rule.offset = final.after := by
  have atOnce := (orderly.takesOver final isFinal).1
  rw [ZoneRule.atUtc_of_steady steady] at atOnce
  exact atOnce

/-- After a recorded change and before the next one the wall is read with the offset of the
change, unless the rule has taken over with that same offset. -/
theorem atWall_of_passed (orderly : region.IsOrderly)
    (isFinal : region.changeList.getLast? = some final)
    (recorded : ¬(final.second < second ∧ region.rule.daylight.isSome))
    {earliest ahead : List OffsetChange}
    (split : region.changeList = (earliest ++ [change]) ++ ahead)
    (reached : change.second ≤ second) (isAhead : ∀ next ∈ ahead.head?, second < next.second) :
    region.atWall (second + change.after) (change.repeats second) = change.after := by
  have chain := orderly.chain
  rw [split] at chain
  have found := OffsetChange.lastPassed_shown chain reached isAhead
  rw [← split] at found
  -- past the last change on the wall the rule is asked, and then it must be a steady one
  by_cases later : final.wallSecond (change.repeats second) < second + change.after
  · have allPassed : ∀ earlier ∈ region.changeList,
        earlier.wallSecond (change.repeats second) ≤ second + change.after := by
      intro earlier listed
      have upTo := OffsetChange.le_final
        (fun precedes => precedes.wallSecond_le (change.repeats second))
        orderly.chain isFinal listed
      omega
    rw [OffsetChange.lastPassed_of_forall allPassed, isFinal] at found
    obtain rfl : final = change := Option.some.inj found
    have passed : final.second < second := by
      have upTo := OffsetChange.le_wallSecond_repeats reached
      omega
    have steady := steady_of_recorded recorded passed
    rw [atWall_of_rule isFinal later, ZoneRule.atWall_of_steady steady,
      offset_of_steady orderly isFinal steady]
  · exact atWall_of_some isFinal later found

/-- While the history of a region lasts, what it shows is read back. -/
theorem atWall_atUtc_of_recorded (orderly : region.IsOrderly)
    (isFinal : region.changeList.getLast? = some final)
    (recorded : ¬(final.second < second ∧ region.rule.daylight.isSome)) :
    region.atWall (second + (region.atUtc second).1) (region.atUtc second).2 =
      (region.atUtc second).1 := by
  obtain ⟨passed, ahead, split, isPassed, isAhead⟩ :=
    OffsetChange.exists_passed OffsetChange.second second region.changeList
  have found := OffsetChange.lastPassed_append isPassed isAhead
  rw [← split] at found
  -- either no change has passed yet or there is a latest one that has
  rcases List.eq_nil_or_concat' passed with rfl | ⟨earliest, change, rfl⟩
  · rw [atUtc_of_none isFinal recorded found]
    rw [List.nil_append] at split
    rw [← split] at isAhead
    exact atWall_of_ahead orderly isFinal isAhead
  · rw [List.getLast?_concat] at found
    have reached : change.second ≤ second :=
      isPassed change (List.mem_append_right _ (List.mem_singleton_self change))
    have offset : (if final.second < second then region.rule.offset else change.after) =
        change.after := by
      by_cases later : final.second < second
      · have allPassed : ∀ earlier ∈ region.changeList, earlier.second ≤ second := by
          intro earlier listed
          have upTo := OffsetChange.le_final (fun precedes => precedes.second_le)
            orderly.chain isFinal listed
          omega
        rw [OffsetChange.lastPassed_of_forall allPassed, isFinal] at found
        obtain rfl : final = change := Option.some.inj found
        rw [if_pos later]
        exact offset_of_steady orderly isFinal (steady_of_recorded recorded later)
      · exact if_neg later
    rw [atUtc_of_some isFinal recorded found, offset]
    exact atWall_of_passed orderly isFinal recorded split reached isAhead

/-- Once the rule has taken over, what it shows is read back, also where the last change still
counts on the wall. -/
theorem atWall_atUtc_of_rule (orderly : region.IsOrderly)
    (isFinal : region.changeList.getLast? = some final) (later : final.second < second)
    {daylight : DaylightRule} (changing : region.rule.daylight = some daylight)
    (inCalendar : -WallTime.epochSeconds ≤ second)
    (shownInCalendar : -WallTime.epochSeconds ≤ second + (region.rule.atUtc second).1) :
    region.atWall (second + (region.rule.atUtc second).1) (region.rule.atUtc second).2 =
      (region.rule.atUtc second).1 := by
  have listed : final ∈ region.changeList := List.mem_of_getLast? isFinal
  have finalInCalendar := inCalendar_of_mem listed
  have takesOver := orderly.takesOver final isFinal
  by_cases onWall : final.wallSecond (region.rule.atUtc second).2 <
      second + (region.rule.atUtc second).1
  · rw [atWall_of_rule isFinal onWall]
    exact ZoneRule.atWall_atUtc orderly.rule inCalendar shownInCalendar
  · -- the shown wall second is the very last one that the last change repeats
    obtain ⟨⟨beforeWest, beforeEast⟩, afterWest, afterEast⟩ := isWithinDay_of_mem orderly listed
    obtain ⟨west, east⟩ := ZoneRule.isWithinDay_atUtc orderly.rule.1 second
    have bounds := final.wallSecond_bounds (region.rule.atUtc second).2
    have early := final.wallSecond_false
    have offset : (region.rule.atUtc second).1 = final.after :=
      ZoneRule.atUtc_of_takesOver takesOver changing finalInCalendar (Int.le_of_lt later)
        (by omega)
    cases fold : (region.rule.atUtc second).2 with
    | true =>
        rw [fold, offset, OffsetChange.wallSecond_true] at onWall
        omega
    | false =>
        rw [fold, offset] at onWall
        have lastRepeated : second = final.second + (final.before - final.after) := by
          rcases Int.lt_or_le second (final.second + (final.before - final.after)) with
            again | past
          · have repeated := ZoneRule.repeated_of_takesOver takesOver changing finalInCalendar
              (Int.le_of_lt later) again (by omega)
            rw [fold] at repeated
            cases repeated
          · omega
        have allPassed : ∀ earlier ∈ region.changeList,
            earlier.wallSecond false ≤ second + final.after := by
          intro earlier isIn
          have upTo := OffsetChange.le_final (fun precedes => precedes.wallSecond_le false)
            orderly.chain isFinal isIn
          omega
        have found := OffsetChange.lastPassed_of_forall allPassed
        rw [isFinal] at found
        rw [offset]
        exact atWall_of_some isFinal onWall found

/-- An orderly region reads what it shows with the offset that shows it. -/
theorem atWall_atUtc (orderly : region.IsOrderly) (inCalendar : -WallTime.epochSeconds ≤ second)
    (shownInCalendar : -WallTime.epochSeconds ≤ second + (region.atUtc second).1) :
    region.atWall (second + (region.atUtc second).1) (region.atUtc second).2 =
      (region.atUtc second).1 := by
  cases isFinal : region.changeList.getLast? with
  | none =>
      have atUtc : region.atUtc second = region.rule.atUtc second := by
        unfold Region.atUtc
        rw [isFinal]
      have atWall : ∀ wall fold, region.atWall wall fold = region.rule.atWall wall fold := by
        intro wall fold
        unfold Region.atWall
        rw [isFinal]
      rw [atUtc] at shownInCalendar ⊢
      rw [atWall]
      exact ZoneRule.atWall_atUtc orderly.rule inCalendar shownInCalendar
  | some final =>
      by_cases byRule : final.second < second ∧ region.rule.daylight.isSome
      · obtain ⟨daylight, changing⟩ := Option.isSome_iff_exists.mp byRule.2
        rw [atUtc_of_rule isFinal byRule] at shownInCalendar ⊢
        exact atWall_atUtc_of_rule orderly isFinal byRule.1 changing inCalendar shownInCalendar
      · exact atWall_atUtc_of_recorded orderly isFinal byRule

theorem isWithinDay_atUtc (orderly : region.IsOrderly) (second : Int) :
    IsWithinDay (region.atUtc second).1 := by
  cases isFinal : region.changeList.getLast? with
  | none =>
      have atUtc : region.atUtc second = region.rule.atUtc second := by
        unfold Region.atUtc
        rw [isFinal]
      rw [atUtc]
      exact ZoneRule.isWithinDay_atUtc orderly.rule.1 second
  | some final =>
      by_cases byRule : final.second < second ∧ region.rule.daylight.isSome
      · rw [atUtc_of_rule isFinal byRule]
        exact ZoneRule.isWithinDay_atUtc orderly.rule.1 second
      · cases found :
            OffsetChange.lastPassed OffsetChange.second second region.changeList with
        | none =>
            rw [atUtc_of_none isFinal byRule found]
            exact orderly.initial
        | some change =>
            have listed : change ∈ region.changeList :=
              (List.takeWhile_sublist _).subset (List.mem_of_getLast? found)
            rw [atUtc_of_some isFinal byRule found]
            dsimp only
            split
            · exact orderly.rule.1.1
            · exact (isWithinDay_of_mem orderly listed).2

end Region

/-! ## Showing and reading back -/

theorem Zone.readsBack_of_isOrderly {place : Region} (orderly : place.IsOrderly)
    (utc : WallTime) : (Zone.region place).ReadsBack utc := by
  intro wall fold shows
  obtain ⟨moved, shifted, same⟩ := Outcome.map_eq_ok_iff.mp shows
  obtain ⟨rfl, rfl⟩ := Prod.mk.inj same
  have ticks : moved.ticks = utc.ticks + (place.atUtc utc.seconds).1 * 1000000 :=
    (WallTime.shift_eq_ok_iff utc moved _).mp shifted
  have begun := utc.nonneg
  have shownBegun := moved.nonneg
  have inCalendar : -WallTime.epochSeconds ≤ utc.seconds := by
    unfold WallTime.seconds WallTime.ticksPerSecond
    omega
  have shown : moved.seconds = utc.seconds + (place.atUtc utc.seconds).1 := by
    generalize (place.atUtc utc.seconds).1 = offset at ticks ⊢
    unfold WallTime.seconds WallTime.ticksPerSecond
    omega
  have shownInCalendar : -WallTime.epochSeconds ≤ utc.seconds + (place.atUtc utc.seconds).1 := by
    rw [← shown]
    unfold WallTime.seconds WallTime.ticksPerSecond
    omega
  have back := Region.atWall_atUtc orderly inCalendar shownInCalendar
  rw [← shown] at back
  show some (place.atWall moved.seconds (place.atUtc utc.seconds).2 * 1000000) = _
  rw [back]
  congr 1
  omega

/-! ## Orderly atlases -/

/-- All regions of the atlas are orderly. -/
def Atlas.IsOrderly [Atlas] : Prop := ∀ place ∈ Atlas.regions, place.IsOrderly

theorem Atlas.isOrderly_of_find [Atlas] (orderly : Atlas.IsOrderly) {name : String} {place : Region}
    (found : find name = .ok place) : place.IsOrderly :=
  orderly place (mem_of_find found)

theorem Atlas.excerpt_isOrderly : excerpt.IsOrderly := by
  show ∀ place ∈ excerptRegions, place.IsOrderly
  decide +kernel

end VirtualClock
