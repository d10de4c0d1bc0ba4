import VirtualClock.Proofs.Operations
import VirtualClock.Proofs.Readings

/-!
# The stacks of one context

All stacks of a context lie in one table, and an operation on one of them sets
the row of that stack in the table.  A table is tidy when every row is under a
key of its own and holds an entry.  Setting a row keeps the table tidy and all
other rows as they are, in their order.

`Run.WorksOn` collects the actions that do nothing to the table but to set the
rows of some stacks.
-/

namespace VirtualClock

open Session (Departure depart)

variable {Memory First Second Result : Type} {used : List StackKey}

namespace OverrideTable

def keys (table : OverrideTable) : List StackKey := table.map Prod.fst

/-- The table without the rows of the given stacks. -/
def outside (used : List StackKey) (table : OverrideTable) : OverrideTable :=
  table.filter fun row => row.1 ∉ used

/-! ## Tidy tables -/

structure IsTidy (table : OverrideTable) : Prop where
  nodup : table.keys.Nodup
  occupied : ∀ row ∈ table, row.2 ≠ []

theorem isTidy_nil : IsTidy [] := ⟨List.nodup_nil, nofun⟩

variable {table between after : OverrideTable} {key other : StackKey}

theorem lookup_eq_none_iff : table.lookup key = none ↔ key ∉ table.keys := by
  rw [List.lookup_eq_none_iff, keys, List.mem_map]
  simp only [bne_iff_ne]
  exact ⟨fun foreign ⟨row, member, same⟩ => foreign row member same.symm,
    fun missing row member same => missing ⟨row, member, same.symm⟩⟩

theorem entries_eq_nil_of_not_mem (missing : key ∉ table.keys) : table.entries key = [] := by
  rw [entries, lookup_eq_none_iff.mpr missing, Option.getD_none]

/-- The keys of a tidy table are those of the stacks with an entry. -/
theorem IsTidy.mem_keys_iff (tidy : table.IsTidy) :
    key ∈ table.keys ↔ table.entries key ≠ [] := by
  constructor
  · intro member
    cases found : table.lookup key with
    | none => exact absurd member (lookup_eq_none_iff.mp found)
    | some stack =>
        obtain ⟨before, rest, rfl, _⟩ := List.lookup_eq_some_iff.mp found
        rw [entries, found, Option.getD_some]
        exact tidy.occupied (key, stack) (List.mem_append_right before List.mem_cons_self)
  · intro occupied
    exact Decidable.byContradiction fun missing => occupied (entries_eq_nil_of_not_mem missing)

theorem keys_write (table : OverrideTable) (key : StackKey) (stack : List Override) :
    (write key stack table).keys = if key ∈ table.keys then table.keys else table.keys ++ [key] := by
  induction table with
  | nil => rfl
  | cons row rest inductionHypothesis =>
      obtain ⟨current, entries⟩ := row
      unfold keys at inductionHypothesis ⊢
      rw [write]
      by_cases replaced : current = key
      · simp [replaced]
      · rw [if_neg replaced, List.map_cons, inductionHypothesis]
        by_cases known : key ∈ rest.map Prod.fst
        · simp [known]
        · simp [known, Ne.symm replaced]

theorem mem_write {row : StackKey × List Override} {stack : List Override}
    (member : row ∈ write key stack table) : row = (key, stack) ∨ row ∈ table := by
  induction table with
  | nil => exact Or.inl (List.mem_singleton.mp member)
  | cons first rest inductionHypothesis =>
      obtain ⟨current, entries⟩ := first
      rw [write] at member
      by_cases replaced : current = key
      · rw [if_pos replaced] at member
        exact (List.mem_cons.mp member).imp_right (List.mem_cons_of_mem _)
      · rw [if_neg replaced] at member
        rcases List.mem_cons.mp member with same | later
        · exact Or.inr (same ▸ List.mem_cons_self)
        · exact (inductionHypothesis later).imp_right (List.mem_cons_of_mem _)

theorem IsTidy.filter (tidy : table.IsTidy) (keeps : StackKey × List Override → Bool) :
    IsTidy (table.filter keeps) where
  nodup := (List.filter_sublist.map Prod.fst).nodup tidy.nodup
  occupied row member := tidy.occupied row ((List.mem_filter.mp member).1)

theorem IsTidy.write (tidy : table.IsTidy) {stack : List Override} (occupied : stack ≠ []) :
    (write key stack table).IsTidy where
  nodup := by
    rw [keys_write]
    by_cases known : key ∈ table.keys
    · rw [if_pos known]
      exact tidy.nodup
    · rw [if_neg known]
      exact List.nodup_append.mpr ⟨tidy.nodup, by simp, by
        rintro one member _ here rfl
        exact known (List.mem_singleton.mp here ▸ member)⟩
  occupied row member := by
    rcases mem_write member with rfl | old
    · exact occupied
    · exact tidy.occupied row old

theorem IsTidy.set (tidy : table.IsTidy) (key : StackKey) (stack : List Override) :
    (table.set key stack).IsTidy := by
  unfold OverrideTable.set
  by_cases empty : stack.isEmpty
  · rw [if_pos empty]
    exact tidy.filter _
  · rw [if_neg empty]
    exact tidy.write fun none => empty (List.isEmpty_iff.mpr none)

/-- To clear a stack without a row changes nothing. -/
theorem set_nil_of_not_mem (missing : key ∉ table.keys) : table.set key [] = table := by
  unfold OverrideTable.set
  rw [if_pos List.isEmpty_nil, List.filter_eq_self]
  intro row member
  exact bne_iff_ne.mpr fun same => missing (same ▸ List.mem_map_of_mem member)

/-! ## Setting a row in a mapping -/

/-- Removes the row of a stack, which must be there. -/
def remove? (table : OverrideTable) (key : StackKey) : Option OverrideTable :=
  if key ∈ table.keys then some (table.filter fun row => row.1 != key) else none

/-- Sets a row in three cases: a stack without a row is not cleared once more, a stack with
entries is stored, and a row is removed. -/
def set? (table : OverrideTable) (key : StackKey) (stack : List Override) :
    Option OverrideTable :=
  if stack = [] ∧ key ∉ table.keys then some table
  else if stack ≠ [] then some (write key stack table)
  else table.remove? key

/-- No row is missing when it is removed, and so setting a row always succeeds. -/
theorem set?_eq (table : OverrideTable) (key : StackKey) (stack : List Override) :
    table.set? key stack = some (table.set key stack) := by
  unfold set?
  by_cases empty : stack = []
  · subst empty
    by_cases known : key ∈ table.keys
    · rw [if_neg (by simp [known]), if_neg (by simp), remove?, if_pos known]
      rfl
    · rw [if_pos ⟨rfl, known⟩, set_nil_of_not_mem known]
  · rw [if_neg (by simp [empty]), if_pos empty, OverrideTable.set,
      if_neg (by simpa using empty)]

/-! ## Setting the rows of some stacks -/

/-- The rows of given stacks are set, any number of times and in any order. -/
inductive Rewrites (used : List StackKey) (table : OverrideTable) : OverrideTable → Prop
  | refl : Rewrites used table table
  | set {between : OverrideTable} {key : StackKey} (stack : List Override) :
      Rewrites used table between → key ∈ used → Rewrites used table (between.set key stack)

namespace Rewrites

theorem single (stack : List Override) (member : key ∈ used) :
    Rewrites used table (table.set key stack) :=
  .set stack .refl member

theorem trans (first : Rewrites used table between) (second : Rewrites used between after) :
    Rewrites used table after := by
  induction second with
  | refl => exact first
  | set stack _ member inductionHypothesis => exact .set stack inductionHypothesis member

theorem mono {more : List StackKey} (rewrites : Rewrites used table after)
    (subset : used ⊆ more) : Rewrites more table after := by
  induction rewrites with
  | refl => exact .refl
  | set stack _ member inductionHypothesis => exact .set stack inductionHypothesis (subset member)

theorem isTidy (rewrites : Rewrites used table after) (tidy : table.IsTidy) :
    after.IsTidy := by
  induction rewrites with
  | refl => exact tidy
  | set stack _ member inductionHypothesis => exact inductionHypothesis.set _ stack

end Rewrites

theorem outside_write (stack : List Override) (member : key ∈ used) :
    (write key stack table).outside used = table.outside used := by
  unfold outside
  induction table with
  | nil => simp [write, member]
  | cons row rest inductionHypothesis =>
      obtain ⟨current, entries⟩ := row
      rw [write]
      by_cases replaced : current = key
      · rw [if_pos replaced, List.filter_cons, List.filter_cons, replaced]
        simp [member]
      · rw [if_neg replaced, List.filter_cons, List.filter_cons, inductionHypothesis]

theorem outside_set (stack : List Override) (member : key ∈ used) :
    (table.set key stack).outside used = table.outside used := by
  unfold OverrideTable.set
  by_cases empty : stack.isEmpty
  · rw [if_pos empty, outside, List.filter_filter]
    refine List.filter_congr fun row _ => ?_
    by_cases same : row.1 = key
    · simp [same, member]
    · simp [same]
  · rw [if_neg empty]
    exact outside_write stack member

/-- What lies outside the stacks stays, row by row. -/
theorem Rewrites.outside_eq (rewrites : Rewrites used table after) :
    after.outside used = table.outside used := by
  induction rewrites with
  | refl => rfl
  | set stack _ member inductionHypothesis => rw [outside_set stack member, inductionHypothesis]

theorem Rewrites.entries_eq (rewrites : Rewrites used table after) (foreign : other ∉ used) :
    after.entries other = table.entries other := by
  induction rewrites with
  | refl => rfl
  | @set between key stack _ member inductionHypothesis =>
      have elsewhere : other ≠ key := fun same => foreign (same ▸ member)
      rw [entries_set, if_neg elsewhere, inductionHypothesis]

theorem IsTidy.outside_eq_self (tidy : table.IsTidy)
    (empty : ∀ key ∈ used, table.entries key = []) : table.outside used = table := by
  refine List.filter_eq_self.mpr fun row member => decide_eq_true fun within => ?_
  exact tidy.mem_keys_iff.mp (List.mem_map_of_mem member) (empty row.1 within)

/-- Stacks that are empty before and after leave the table as it was, the order of its rows
included. -/
theorem Rewrites.eq_of_empty (rewrites : Rewrites used table after) (tidy : table.IsTidy)
    (before : ∀ key ∈ used, table.entries key = [])
    (emptied : ∀ key ∈ used, after.entries key = []) : after = table := by
  rw [← (rewrites.isTidy tidy).outside_eq_self emptied, rewrites.outside_eq,
    tidy.outside_eq_self before]

end OverrideTable

open OverrideTable (Rewrites)

/-! ## Actions on some stacks -/

namespace Run

/-- All that the action does to the table of its context is to set the rows of the stacks. -/
def WorksOn (used : List StackKey) (action : Run Memory Result) : Prop :=
  ∀ world, Rewrites used world.context.overrides (action world).2.context.overrides

theorem worksOn_of_overrides_eq {action : Run Memory Result}
    (keeps : ∀ world, (action world).2.context.overrides = world.context.overrides) :
    WorksOn used action := by
  intro world
  rw [keeps world]
  exact .refl

theorem OnlyReads.worksOn {action : Run Memory Result} (reads : OnlyReads action) :
    WorksOn used action :=
  worksOn_of_overrides_eq fun world => by rw [reads world]

namespace WorksOn

theorem bind {action : Run Memory First} {next : First → Run Memory Second}
    (works : WorksOn used action) (continues : ∀ first, WorksOn used (next first)) :
    WorksOn used (action >>= next) := by
  intro world
  have begun := works world
  rcases ran : action world with ⟨fault | first, after⟩
  · rw [ran] at begun
    rw [bind_of_error ran]
    exact begun
  · rw [ran] at begun
    rw [bind_of_ok ran]
    exact begun.trans (continues first after)

/-- The action with its result put into another form. -/
theorem form {action : Run Memory First} (works : WorksOn used action) (form : First → Second) :
    WorksOn used (action >>= fun first => pure (form first)) :=
  works.bind fun _ => (onlyReads_pure _).worksOn

theorem ensuring {action : Run Memory Result} {cleanup : Run Memory Unit}
    (works : WorksOn used action) (cleans : WorksOn used cleanup) :
    WorksOn used (ensuring action cleanup) := by
  intro world
  rw [ensuring_world]
  exact (works world).trans (cleans (action world).2)

theorem mono {more : List StackKey} {action : Run Memory Result} (works : WorksOn used action)
    (subset : used ⊆ more) : WorksOn more action :=
  fun world => (works world).mono subset

end WorksOn

end Run

namespace Stack

variable {stack : StackKey}

theorem push_worksOn (member : stack ∈ used) (anchor : Moment) :
    Run.WorksOn used (push stack anchor : Run Memory Override) := by
  intro world
  rw [push_apply]
  cases anchor.asAnchor world.system with
  | error fault => exact .refl
  | ok pinned => exact .single _ member

theorem pop_worksOn (member : stack ∈ used) :
    Run.WorksOn used (pop stack : Run Memory (Option Override)) := by
  intro world
  rw [pop_apply]
  cases (world.entries stack).getLast? with
  | none => exact .refl
  | some top => exact .single _ member

theorem truncate_worksOn (member : stack ∈ used) (depth : Int) :
    Run.WorksOn used (truncate stack depth : Run Memory Nat) := by
  intro world
  rw [truncate_apply]
  by_cases small : (world.entries stack).length ≤ depth.toNat
  · rw [if_pos small]
    exact .refl
  · rw [if_neg small]
    exact .single _ member

/-- Whether it has a row or not, a stack of a tidy table is cleared without a fault. -/
theorem exists_truncate_zero (stack : StackKey) {world : World Memory}
    (tidy : world.context.overrides.IsTidy) :
    ∃ left, truncate stack 0 world = (.ok (world.entries stack).length, left) ∧
      left.context.overrides = world.context.overrides.set stack [] := by
  rw [truncate_apply]
  by_cases empty : world.entries stack = []
  · have missing : stack ∉ world.context.overrides.keys :=
      fun member => tidy.mem_keys_iff.mp member empty
    rw [if_pos (by simp [empty]), empty, OverrideTable.set_nil_of_not_mem missing]
    exact ⟨world, rfl, rfl⟩
  · rw [if_neg (by simpa using empty)]
    exact ⟨_, rfl, rfl⟩

end Stack

namespace Traveler

variable {traveler : Traveler}

theorem install_worksOn (member : traveler.stack ∈ used) (anchor : Moment) :
    Run.WorksOn used (traveler.install anchor : Run Memory Override) := by
  intro world
  rw [install_context]
  exact Stack.push_worksOn member anchor world

theorem revert_worksOn (member : traveler.stack ∈ used) :
    Run.WorksOn used (traveler.revert : Run Memory (Option Override)) := by
  intro world
  rw [revert_context]
  exact Stack.pop_worksOn member world

theorem reset_worksOn (member : traveler.stack ∈ used) :
    Run.WorksOn used (traveler.reset : Run Memory Nat) := by
  intro world
  rw [reset_apply]
  by_cases empty : world.entries traveler.stack = []
  · rw [if_pos empty]
    exact .refl
  · rw [if_neg empty]
    exact (.single ((world.entries traveler.stack).take 0) member :
      Rewrites used world.context.overrides (world.context.overrides.set traveler.stack _))

theorem release_worksOn (member : traveler.stack ∈ used) (override : Override) :
    Run.WorksOn used (traveler.release override : Run Memory Unit) := by
  have asks : Run.OnlyReads (Stack.contains traveler.stack override : Run Memory Bool) :=
    fun _ => rfl
  refine asks.worksOn.bind fun found => ?_
  cases found with
  | false => exact (Run.onlyReads_pure _).worksOn
  | true =>
      exact (Stack.truncate_worksOn member _).bind fun _ =>
        Run.worksOn_of_overrides_eq fun _ => rfl

/-- A travel works on the stack of its traveler and on those that its body works on. -/
theorem depart_worksOn (member : traveler.stack ∈ used) (departure : Departure)
    {body : TravelBody Memory Result}
    (works : ∀ action, body = .run action → Run.WorksOn used action) :
    Run.WorksOn used (depart traveler departure body) := by
  rw [depart_eq]
  refine (traveler.destination_onlyReads departure).worksOn.bind fun anchor => ?_
  cases body with
  | absent => exact (install_worksOn member anchor).form _
  | notCallable found => exact (Run.onlyReads_ofExcept _).worksOn
  | run action =>
      refine Run.WorksOn.form ?_ _
      refine (install_worksOn member anchor).bind fun override => ?_
      refine (TravelScope.anchor_onlyReads ⟨traveler, override⟩).worksOn.bind fun entered => ?_
      exact (works action rfl).ensuring (release_worksOn member override)

end Traveler

theorem Ambient.restore_worksOn (binding : Binding) :
    Run.WorksOn used (restore binding : Run Memory Unit) := by
  refine Run.worksOn_of_overrides_eq fun world => ?_
  unfold restore
  rw [Run.world_bind]
  by_cases own : world.context.identity = binding.context
  · rw [if_pos own]
    rfl
  · rw [if_neg own]
    rfl

end VirtualClock
