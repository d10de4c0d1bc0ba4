import VirtualClock.World

/-!
# Stacks of overrides

The operations on one stack of the current context.  Pushing needs an anchor
with an offset and keeps it in universal time; taking from an empty stack
gives nothing and is no fault.

Nothing here is written to the journal; that is done by the travelers.
-/

namespace VirtualClock.Stack

variable {Memory : Type}

/-- The entries of a stack from its bottom to its top. -/
def snapshot (stack : StackKey) : Run Memory (List Override) := do
  let world ← Run.world
  pure (world.entries stack)

def depth (stack : StackKey) : Run Memory Nat := do
  let entries ← snapshot stack
  pure entries.length

def peek (stack : StackKey) : Run Memory (Option Override) := do
  let entries ← snapshot stack
  pure entries.getLast?

/-- A fresh override with the given content, which lies on no stack. -/
def mint (anchor : Moment) (depth : Int) : Run Memory Override := do
  let world ← Run.world
  let context := world.context
  Run.modifyWorld fun world =>
    { world with context := { world.context with serial := context.serial + 1 } }
  pure ⟨⟨context.identity, context.serial⟩, anchor, depth⟩

def push (stack : StackKey) (anchor : Moment) : Run Memory Override := do
  if anchor.isAware then
    let world ← Run.world
    let entries ← snapshot stack
    let pinned ← Run.ofExcept (anchor.inUtc world.system)
    let override ← mint pinned entries.length
    Run.modifyWorld fun world => world.setEntries stack (entries ++ [override])
    pure override
  else Run.fail (.naiveAnchor anchor.constructorText)

def pop (stack : StackKey) : Run Memory (Option Override) := do
  let entries ← snapshot stack
  match entries.getLast? with
  | none => pure none
  | some top =>
    Run.modifyWorld fun world => world.setEntries stack entries.dropLast
    pure (some top)

/-- Drops the entries from an index upwards and counts them; a negative index
counts as zero. -/
def truncate (stack : StackKey) (depth : Int) : Run Memory Nat := do
  let entries ← snapshot stack
  let kept := depth.toNat
  if entries.length ≤ kept then pure 0
  else
    Run.modifyWorld fun world => world.setEntries stack (entries.take kept)
    pure (entries.length - kept)

/-- The override still lies on the stack. -/
def contains (stack : StackKey) (override : Override) : Run Memory Bool := do
  let entries ← snapshot stack
  Run.ofExcept (override.isInstalled entries)

end VirtualClock.Stack
