import VirtualClock.Moment.Comparison
import VirtualClock.Moment.Text

/-!
# Overrides

An override pins every reading of the time to an anchor.  The open overrides
of a traveler lie on a stack whose top is in force, and all stacks of one
context are kept in one table, by key.

An override is recognised by its identity and never by its anchor: the context
that installed it and a number that the context gives out once.  A stack
without overrides has no place in the table.
-/

namespace VirtualClock

/-- What tells an override apart from every other one. -/
structure OverrideIdentity where
  context : Nat
  serial : Nat
  deriving DecidableEq, Repr

/-- An installed override: the anchor that readings are pinned to and the index
on its stack. -/
structure Override where
  identity : OverrideIdentity
  anchor : Moment
  depth : Int
  deriving DecidableEq

/-- The key of a stack in the tables of all contexts. -/
abbrev StackKey := Nat

/-- The stacks of one context, each from its bottom to its top. -/
abbrev OverrideTable := List (StackKey × List Override)

namespace Override

/-- Equality by content: the same index and anchors that are equal as moments. -/
def sameContent (left right : Override) : Except Fault Bool := do
  if ← left.anchor.equal right.anchor then pure (left.depth == right.depth) else pure false

/-- The keys under which equal overrides are hashed. -/
def hashKey (override : Override) : Except Fault (HashKey × Int) :=
  override.anchor.hashKey.map fun key => (key, override.depth)

/-- The override still lies at its index of a stack.  A negative index counts
from the top, and reaching below the bottom is a fault. -/
def isInstalled (override : Override) (entries : List Override) : Except Fault Bool :=
  let position :=
    if override.depth < 0 then override.depth + entries.length else override.depth
  if (entries.length : Int) ≤ override.depth then pure false
  else if position < 0 then .error .indexOutOfRange
  else pure ((entries[position.toNat]?).any fun entry => entry.identity == override.identity)

end Override

namespace OverrideTable

/-- The entries of a stack; a stack without a place in the table is empty. -/
def entries (table : OverrideTable) (key : StackKey) : List Override :=
  (table.lookup key).getD []

/-- Writes the entries of a stack in its place, or at the end of the table. -/
def write (key : StackKey) (stack : List Override) : OverrideTable → OverrideTable
  | [] => [(key, stack)]
  | (other, current) :: rest =>
    if other = key then (key, stack) :: rest else (other, current) :: write key stack rest

/-- Sets the entries of a stack, which loses its place when there are none. -/
def set (table : OverrideTable) (key : StackKey) (stack : List Override) : OverrideTable :=
  if stack.isEmpty then table.filter fun row => row.1 != key else write key stack table

end OverrideTable

def stackText (depth : Nat) : String := "OverrideStack(depth=" ++ toString depth ++ ")"

end VirtualClock
