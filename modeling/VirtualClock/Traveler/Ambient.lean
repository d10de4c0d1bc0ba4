import VirtualClock.Traveler.Basic

/-!
# The ambient traveler

Every context can bind a traveler that is consulted where none is named.  A
binding remembers what it replaced and in which context, and undoing it puts
exactly that back, whatever was bound since.
-/

namespace VirtualClock.Ambient

variable {Memory Result : Type}

/-- A binding that can be undone: the context it was made in and the traveler
that was bound before. -/
structure Binding where
  context : Nat
  previous : Option Traveler
  deriving DecidableEq

/-- The traveler that is consulted in the current context. -/
def traveler : Run Memory Traveler := do
  let world ← Run.world
  pure (world.context.ambient.getD Traveler.standard)

def bind (traveler : Traveler) : Run Memory Binding := do
  let world ← Run.world
  Run.modifyWorld fun world =>
    { world with context := { world.context with ambient := some traveler } }
  pure ⟨world.context.identity, world.context.ambient⟩

/-- Puts back what a binding replaced; only its own context can do so. -/
def restore (binding : Binding) : Run Memory Unit := do
  let world ← Run.world
  if world.context.identity = binding.context then
    Run.modifyWorld fun world =>
      { world with context := { world.context with ambient := binding.previous } }
  else Run.fail .foreignBinding

/-- Runs a block with a traveler bound, and undoes the binding on every way out. -/
def during (traveler : Traveler) (block : Run Memory Result) : Run Memory Result := do
  let binding ← bind traveler
  Run.ensuring block (restore binding)

end VirtualClock.Ambient
