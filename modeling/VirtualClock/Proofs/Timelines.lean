import VirtualClock.Proofs.OrderlyRegions

/-!
# Timelines

One row of changes can answer both questions about an offset: which one is in force at
a UTC second, and which one a wall second is read with.  For a wall second a single
change of the row counts.  With a single change the two answers fit together: a
second that is found by reading shows what was read, and of two seconds that show the
same, the fold picks the one that is found.
-/

namespace VirtualClock

namespace OffsetChange

variable {change next : OffsetChange} {changes later : List OffsetChange}
  {opening second wall : Int}

/-! ## A single change -/

/-- The offset at a UTC second when no other change counts. -/
def offsetAt (change : OffsetChange) (second : Int) : Int :=
  if change.second ≤ second then change.after else change.before

/-- The offset that a wall second is read with when no other change counts. -/
def readingAt (change : OffsetChange) (wall : Int) (fold : Bool) : Int :=
  if change.wallSecond fold ≤ wall then change.after else change.before

theorem offsetAt_of_le (reached : change.second ≤ second) :
    change.offsetAt second = change.after :=
  if_pos reached

theorem offsetAt_of_lt (ahead : second < change.second) :
    change.offsetAt second = change.before :=
  if_neg (Int.not_le.mpr ahead)

/-- A change that changes nothing. -/
def steady (offset : Int) : OffsetChange := ⟨0, offset, offset⟩

@[simp]
theorem offsetAt_steady (offset second : Int) : (steady offset).offsetAt second = offset :=
  ite_self offset

@[simp]
theorem readingAt_steady (offset wall : Int) (fold : Bool) :
    (steady offset).readingAt wall fold = offset :=
  ite_self offset

/-- A wall second that is shown at all is shown by the second that reading it finds. -/
theorem offsetAt_readingAt (shows : second + change.offsetAt second = wall) (fold : Bool) :
    change.offsetAt (wall - change.readingAt wall fold) = change.readingAt wall fold := by
  have early := change.wallSecond_true
  have late := change.wallSecond_false
  unfold offsetAt at shows
  cases fold with
  | true =>
      unfold readingAt offsetAt
      split_ifs at * <;> omega
  | false =>
      unfold readingAt offsetAt
      split_ifs at * <;> omega

/-- A wall second is shown twice only on both sides of the change. -/
theorem sides_of_twice {earlier late : Int} (order : earlier < late)
    (first : earlier + change.offsetAt earlier = wall)
    (again : late + change.offsetAt late = wall) :
    earlier < change.second ∧ change.second ≤ late ∧ earlier = wall - change.before ∧
      late = wall - change.after := by
  unfold offsetAt at first again
  split_ifs at * <;> omega

/-- Of two seconds that show a wall second the fold picks the one that is read. -/
theorem readingAt_of_twice {earlier late : Int} (order : earlier < late)
    (first : earlier + change.offsetAt earlier = wall)
    (again : late + change.offsetAt late = wall) (fold : Bool) :
    wall - change.readingAt wall fold = if fold then late else earlier := by
  obtain ⟨ahead, reached, isEarlier, isLate⟩ := sides_of_twice order first again
  cases fold with
  | true =>
      have passed : change.wallSecond true ≤ wall := by
        rw [wallSecond_true]
        omega
      rw [readingAt, if_pos passed, if_pos rfl, isLate]
  | false =>
      have notYet : ¬change.wallSecond false ≤ wall := by
        rw [wallSecond_false]
        omega
      rw [readingAt, if_neg notYet, if_neg Bool.false_ne_true, isEarlier]

/-! ## A row of changes -/

/-- The offset after the changes that a second passes. -/
def offsetFrom (position : OffsetChange → Int) (opening : Int) :
    List OffsetChange → Int → Int
  | [], _ => opening
  | change :: later, second =>
    if position change ≤ second then offsetFrom position change.after later second else opening

theorem offsetFrom_of_le {position : OffsetChange → Int} (reached : position change ≤ second) :
    offsetFrom position opening (change :: later) second =
      offsetFrom position change.after later second :=
  if_pos reached

theorem offsetFrom_of_lt {position : OffsetChange → Int}
    (ahead : ∀ next ∈ changes.head?, second < position next) :
    offsetFrom position opening changes second = opening := by
  cases changes with
  | nil => rfl
  | cons next later => exact if_neg (Int.not_le.mpr (ahead next rfl))

/-- It is the offset after the last change that is passed. -/
theorem offsetFrom_eq (position : OffsetChange → Int) (opening : Int)
    (changes : List OffsetChange) (second : Int) :
    offsetFrom position opening changes second =
      ((lastPassed position second changes).map OffsetChange.after).getD opening := by
  induction changes generalizing opening with
  | nil => rfl
  | cons change later inductionHypothesis =>
      by_cases reached : position change ≤ second
      · rw [offsetFrom_of_le reached, inductionHypothesis]
        have taken : lastPassed position second (change :: later) =
            some ((lastPassed position second later).getD change) := by
          simp [lastPassed, reached, List.getLast?_cons]
        rw [taken]
        cases lastPassed position second later <;> rfl
      · have none : lastPassed position second (change :: later) = none := by
          simp [lastPassed, reached]
        rw [none]
        exact if_neg reached

/-- Once a change is passed, nothing is shown that its first reading comes after. -/
theorem wallSecond_true_le_shown (precedes : ∀ next ∈ later.head?, change.Precedes next)
    (chain : later.IsChain Precedes) (reached : change.second ≤ second) :
    change.wallSecond true ≤ second + offsetFrom OffsetChange.second change.after later second := by
  induction later generalizing change with
  | nil =>
      rw [wallSecond_true]
      show _ ≤ second + change.after
      omega
  | cons next more inductionHypothesis =>
      obtain ⟨takesOver, apart⟩ := precedes next rfl
      obtain ⟨following, rest⟩ := List.isChain_cons.mp chain
      by_cases passed : next.second ≤ second
      · have upTo := inductionHypothesis following rest passed
        have bounds := change.wallSecond_bounds false
        rw [offsetFrom_of_le passed]
        omega
      · rw [offsetFrom_of_lt (by simpa using passed), wallSecond_true]
        omega

/-- A wall second that comes before the last reading of a change is shown as if no other change
followed. -/
theorem shown_iff_of_lt (precedes : ∀ next ∈ later.head?, change.Precedes next)
    (chain : later.IsChain Precedes) (early : wall < change.wallSecond false) (second : Int) :
    second + offsetFrom OffsetChange.second change.after later second = wall ↔
      second + change.after = wall := by
  cases later with
  | nil => exact Iff.rfl
  | cons next more =>
      obtain ⟨takesOver, apart⟩ := precedes next rfl
      obtain ⟨following, rest⟩ := List.isChain_cons.mp chain
      by_cases passed : next.second ≤ second
      · have upTo := wallSecond_true_le_shown following rest passed
        have onWall := next.wallSecond_true
        rw [offsetFrom_of_le passed]
        constructor
        · omega
        · omega
      · rw [offsetFrom_of_lt (by simpa using passed)]

/-- For a wall second a single change counts: the seconds that show it are the same, and so are
its readings. -/
theorem exists_single (opening wall : Int) {changes : List OffsetChange}
    (opens : ∀ first ∈ changes.head?, first.before = opening) (chain : changes.IsChain Precedes) :
    ∃ single : OffsetChange,
      (∀ second, second + offsetFrom OffsetChange.second opening changes second = wall ↔
        second + single.offsetAt second = wall) ∧
      ∀ fold, offsetFrom (wallSecond fold) opening changes wall = single.readingAt wall fold := by
  induction changes generalizing opening with
  | nil =>
      refine ⟨steady opening, fun second => ?_, fun fold => ?_⟩
      · rw [offsetAt_steady]
        exact Iff.rfl
      · rw [readingAt_steady]
        rfl
  | cons change later inductionHypothesis =>
      have before : change.before = opening := opens change rfl
      obtain ⟨precedes, rest⟩ := List.isChain_cons.mp chain
      have onWallLate := change.wallSecond_false
      by_cases past : change.wallSecond false ≤ wall
      -- the change is over for this wall second, and a later one counts
      · have takesOver : ∀ next ∈ later.head?, next.before = change.after :=
          fun next isNext => (precedes next isNext).1.symm
        obtain ⟨single, shows, reads⟩ := inductionHypothesis change.after takesOver rest
        refine ⟨single, fun second => ?_, fun fold => ?_⟩
        · by_cases reached : change.second ≤ second
          · rw [offsetFrom_of_le reached]
            exact shows second
          · have ahead : ∀ next ∈ later.head?, second < next.second := by
              intro next isNext
              have order := (precedes next isNext).second_le
              omega
            rw [← shows second, offsetFrom_of_lt ahead, offsetFrom_of_lt (by simpa using reached)]
            omega
        · have bounds := change.wallSecond_bounds fold
          rw [offsetFrom_of_le (by omega)]
          exact reads fold
      -- the change is the last that can count
      · have early : wall < change.wallSecond false := by omega
        refine ⟨change, fun second => ?_, fun fold => ?_⟩
        · by_cases reached : change.second ≤ second
          · rw [offsetFrom_of_le reached, offsetAt_of_le reached]
            exact shown_iff_of_lt precedes rest early second
          · rw [offsetFrom_of_lt (by simpa using reached),
              offsetAt_of_lt (Int.not_le.mp reached), before]
        · unfold readingAt
          by_cases passed : change.wallSecond fold ≤ wall
          · have ahead : ∀ next ∈ later.head?, wall < next.wallSecond fold := by
              intro next isNext
              have apart := (precedes next isNext).2
              have bounds := next.wallSecond_bounds fold
              omega
            rw [offsetFrom_of_le passed, offsetFrom_of_lt ahead, if_pos passed]
          · rw [offsetFrom_of_lt (by simpa using passed), if_neg passed, before]

end OffsetChange

/-- A first offset and the changes that follow it, none of which overlap on the wall. -/
structure Timeline where
  opening : Int
  changes : List OffsetChange
  opens : ∀ first ∈ changes.head?, first.before = opening
  inOrder : changes.IsChain OffsetChange.Precedes

namespace Timeline

variable {line : Timeline} {second wall : Int}

/-- The offset in force at a UTC second. -/
def offsetAt (line : Timeline) (second : Int) : Int :=
  OffsetChange.offsetFrom OffsetChange.second line.opening line.changes second

/-- The offset that a wall second is read with.  Of the two readings of a repeated or skipped
second, the fold takes the later. -/
def readingAt (line : Timeline) (wall : Int) (fold : Bool) : Int :=
  OffsetChange.offsetFrom (OffsetChange.wallSecond fold) line.opening line.changes wall

/-- The wall second is what the timeline shows at the UTC second. -/
def Shows (line : Timeline) (second wall : Int) : Prop :=
  second + line.offsetAt second = wall

theorem exists_single (line : Timeline) (wall : Int) :
    ∃ single : OffsetChange,
      (∀ second, line.Shows second wall ↔ second + single.offsetAt second = wall) ∧
      ∀ fold, line.readingAt wall fold = single.readingAt wall fold :=
  OffsetChange.exists_single line.opening wall line.opens line.inOrder

/-- Reading a wall second that is shown finds a second that shows it. -/
theorem shows_reading (shows : line.Shows second wall) (fold : Bool) :
    line.Shows (wall - line.readingAt wall fold) wall := by
  obtain ⟨single, shown, reads⟩ := line.exists_single wall
  have again := OffsetChange.offsetAt_readingAt ((shown second).mp shows) fold
  rw [shown, reads fold, again]
  omega

/-- Of two seconds that show a wall second, reading finds the earlier one or, with the fold, the
later one. -/
theorem reading_of_twice {earlier later : Int} (order : earlier < later)
    (first : line.Shows earlier wall) (again : line.Shows later wall) (fold : Bool) :
    wall - line.readingAt wall fold = if fold then later else earlier := by
  obtain ⟨single, shown, reads⟩ := line.exists_single wall
  rw [reads fold]
  exact OffsetChange.readingAt_of_twice order ((shown earlier).mp first)
    ((shown later).mp again) fold

/-- A timeline with at most one change. -/
def single (change : OffsetChange) : Timeline where
  opening := change.before
  changes := [change]
  opens := by
    intro first isFirst
    cases isFirst
    rfl
  inOrder := List.isChain_singleton change

theorem offsetAt_single (change : OffsetChange) (second : Int) :
    (single change).offsetAt second = change.offsetAt second :=
  rfl

theorem readingAt_single (change : OffsetChange) (wall : Int) (fold : Bool) :
    (single change).readingAt wall fold = change.readingAt wall fold :=
  rfl

end Timeline

end VirtualClock
