import VirtualClock.Proofs.Anchors
import VirtualClock.Stack

/-!
# What the stack operations do

The table of a context gives back what was last written for a stack and keeps
every other stack.  On top of that each operation on a stack has one equation:
it adds one override, cuts the stack down to its lowest entries, or leaves the
world as it is.
-/

namespace VirtualClock

/-! ## Tables -/

namespace OverrideTable

theorem lookup_filter_ne (table : OverrideTable) (key other : StackKey) :
    (table.filter fun row => row.1 != key).lookup other =
      if other = key then none else table.lookup other := by
  induction table with
  | nil =>
      simp
  | cons row rest inductionHypothesis =>
      obtain ⟨current, stack⟩ := row
      by_cases removed : current = key
      · subst removed
        rw [List.filter_cons_of_neg (by simp), inductionHypothesis]
        by_cases same : other = current
        · rw [if_pos same, if_pos same]
        · rw [if_neg same, if_neg same, List.lookup_cons, beq_eq_false_iff_ne.mpr same]
      · rw [List.filter_cons_of_pos (by simpa using removed), List.lookup_cons,
          List.lookup_cons, inductionHypothesis]
        by_cases found : other = current
        · simp [found, removed]
        · simp only [beq_eq_false_iff_ne.mpr found]

theorem lookup_write (table : OverrideTable) (key other : StackKey) (stack : List Override) :
    (write key stack table).lookup other =
      if other = key then some stack else table.lookup other := by
  induction table with
  | nil =>
      by_cases same : other = key
      · rw [write, List.lookup_cons, same, beq_self_eq_true, if_pos rfl]
      · rw [write, List.lookup_cons, beq_eq_false_iff_ne.mpr same, if_neg same]
  | cons row rest inductionHypothesis =>
      obtain ⟨current, entries⟩ := row
      rw [write, List.lookup_cons]
      by_cases replaced : current = key
      · rw [if_pos replaced, List.lookup_cons, replaced]
        by_cases same : other = key
        · rw [same, beq_self_eq_true, if_pos rfl]
        · rw [beq_eq_false_iff_ne.mpr same, if_neg same]
      · rw [if_neg replaced, List.lookup_cons, inductionHypothesis]
        by_cases found : other = current
        · simp [found, replaced]
        · simp only [beq_eq_false_iff_ne.mpr found]

/-- Setting a stack is seen under its own key and nowhere else. -/
@[simp]
theorem entries_set (table : OverrideTable) (key other : StackKey) (stack : List Override) :
    (table.set key stack).entries other =
      if other = key then stack else table.entries other := by
  unfold set entries
  by_cases empty : stack.isEmpty
  · rw [if_pos empty, lookup_filter_ne]
    by_cases same : other = key
    · rw [if_pos same, if_pos same, List.isEmpty_iff.mp empty]
      rfl
    · rw [if_neg same, if_neg same]
  · rw [if_neg empty, lookup_write]
    by_cases same : other = key
    · rw [if_pos same, if_pos same]
      rfl
    · rw [if_neg same, if_neg same]

end OverrideTable

/-! ## Changes of a context -/

namespace Context

/-- The entries of a stack in a context. -/
def entries (context : Context) (stack : StackKey) : List Override :=
  context.overrides.entries stack

/-- The override that the context makes next. -/
def minted (context : Context) (anchor : Moment) (depth : Int) : Override :=
  ⟨⟨context.identity, context.serial⟩, anchor, depth⟩

/-- The context once it has made an override. -/
def counted (context : Context) : Context := { context with serial := context.serial + 1 }

def withEntries (context : Context) (stack : StackKey) (entries : List Override) : Context :=
  { context with overrides := context.overrides.set stack entries }

/-- The context with a new override, pinned to the anchor, on top of a stack. -/
def pushed (context : Context) (stack : StackKey) (anchor : Moment) : Context :=
  context.counted.withEntries stack
    (context.entries stack ++ [context.minted anchor (context.entries stack).length])

/-- The context with only the lowest entries of a stack kept. -/
def cut (context : Context) (stack : StackKey) (kept : Nat) : Context :=
  context.withEntries stack ((context.entries stack).take kept)

@[simp]
theorem entries_withEntries (context : Context) (stack other : StackKey)
    (entries : List Override) :
    (context.withEntries stack entries).entries other =
      if other = stack then entries else context.entries other :=
  OverrideTable.entries_set context.overrides stack other entries

@[simp]
theorem entries_counted (context : Context) (stack : StackKey) :
    context.counted.entries stack = context.entries stack :=
  rfl

theorem entries_pushed (context : Context) (stack other : StackKey) (anchor : Moment) :
    (context.pushed stack anchor).entries other =
      if other = stack then
        context.entries stack ++ [context.minted anchor (context.entries stack).length]
      else context.entries other := by
  simp [pushed]

theorem entries_pushed_self (context : Context) (stack : StackKey) (anchor : Moment) :
    (context.pushed stack anchor).entries stack =
      context.entries stack ++ [context.minted anchor (context.entries stack).length] := by
  simp [pushed]

theorem entries_cut (context : Context) (stack other : StackKey) (kept : Nat) :
    (context.cut stack kept).entries other =
      if other = stack then (context.entries stack).take kept else context.entries other := by
  simp [cut]

theorem entries_cut_self (context : Context) (stack : StackKey) (kept : Nat) :
    (context.cut stack kept).entries stack = (context.entries stack).take kept := by
  simp [cut]

end Context

/-! ## Operations on one stack -/

namespace World

variable {Memory : Type}

/-- The world with another context in place of the current one. -/
def withContext (world : World Memory) (context : Context) : World Memory :=
  { world with context }

theorem entries_eq (world : World Memory) (stack : StackKey) :
    world.entries stack = world.context.entries stack :=
  rfl

end World

namespace Stack

variable {Memory : Type}

theorem snapshot_apply (stack : StackKey) (world : World Memory) :
    snapshot stack world = (.ok (world.entries stack), world) :=
  rfl

theorem peek_apply (stack : StackKey) (world : World Memory) :
    peek stack world = (.ok (world.entries stack).getLast?, world) :=
  rfl

theorem depth_apply (stack : StackKey) (world : World Memory) :
    depth stack world = (.ok (world.entries stack).length, world) :=
  rfl

theorem mint_apply (anchor : Moment) (depth : Int) (world : World Memory) :
    mint anchor depth world =
      (.ok (world.context.minted anchor depth), world.withContext world.context.counted) :=
  rfl

theorem contains_apply (stack : StackKey) (override : Override) (world : World Memory) :
    contains stack override world = (override.isInstalled (world.entries stack), world) :=
  rfl

/-- A push adds a fresh override on top, or meets a fault before it changes anything. -/
theorem push_apply (stack : StackKey) (anchor : Moment) (world : World Memory) :
    push stack anchor world =
      match anchor.asAnchor world.system with
      | .ok pinned =>
        (.ok (world.context.minted pinned (world.entries stack).length),
          world.withContext (world.context.pushed stack pinned))
      | .error fault => (.error fault, world) := by
  unfold push Moment.asAnchor
  by_cases aware : anchor.isAware
  · rw [if_pos aware, if_pos aware, Run.world_bind, Run.bind_of_ok (snapshot_apply stack world),
      Run.ofExcept_bind]
    cases anchor.inUtc world.system with
    | error fault => rfl
    | ok pinned => rfl
  · rw [if_neg aware, if_neg aware, Run.fail_apply]

/-- A pop cuts the top off, or changes nothing when there is none. -/
theorem pop_apply (stack : StackKey) (world : World Memory) :
    pop stack world =
      match (world.entries stack).getLast? with
      | none => (.ok none, world)
      | some top =>
        (.ok (some top),
          world.withContext (world.context.cut stack ((world.entries stack).length - 1))) := by
  unfold pop
  rw [Run.bind_of_ok (snapshot_apply stack world)]
  cases (world.entries stack).getLast? with
  | none => rfl
  | some top =>
      simp only [Run.modifyWorld_bind, Run.pure_apply, World.setEntries, List.dropLast_eq_take]
      rfl

theorem truncate_apply (stack : StackKey) (depth : Int) (world : World Memory) :
    truncate stack depth world =
      if (world.entries stack).length ≤ depth.toNat then (.ok 0, world)
      else
        (.ok ((world.entries stack).length - depth.toNat),
          world.withContext (world.context.cut stack depth.toNat)) := by
  unfold truncate
  rw [Run.bind_of_ok (snapshot_apply stack world)]
  by_cases small : (world.entries stack).length ≤ depth.toNat
  · simp only [if_pos small, Run.pure_apply]
  · simp only [if_neg small]
    rfl

end Stack

end VirtualClock
