import VirtualClock.Override
import VirtualClock.Value

/-!
# The world a program runs in

What operations on travelling clocks can read and change: the local zone, the
real clocks, the overrides and the ambient traveler of the current context,
and the journal of what was done to overrides.  A program that runs under the
clocks keeps a memory of its own beside them.

An operation either gives a result or stops with a fault; what it changed
before a fault stays changed.
-/

namespace VirtualClock

abbrev ClockKey := Nat

/-- A traveler reads its clock, keeps its overrides on its stack and shows the
time in its zone, or in the local zone when it has none. -/
structure Traveler where
  clock : ClockKey
  stack : StackKey
  zone : Option Zone
  deriving DecidableEq

/-- The traveler that is consulted when none is bound. -/
def Traveler.standard : Traveler := ⟨0, 0, none⟩

/-- A context isolates overrides and the ambient traveler: what happens in one
context is not seen in another. -/
structure Context where
  identity : Nat
  /-- The number of overrides that the context has made so far. -/
  serial : Nat
  overrides : OverrideTable
  ambient : Option Traveler

namespace Context

/-- A context in which nothing is open or bound. -/
def empty (identity : Nat) : Context := ⟨identity, 0, [], none⟩

/-- A context that starts out with what another one holds. -/
def copy (context : Context) (identity : Nat) : Context := { context with identity, serial := 0 }

end Context

/-- What was done to the overrides of a stack. -/
inductive TravelEvent where
  | installed (anchor : Moment) (depth : Int)
  | nothingToRevert
  | reverted (anchor : Moment) (depth : Nat)
  | closed (anchor : Moment) (removed : Nat)
  | cleared (removed : Nat)
  deriving DecidableEq

namespace TravelEvent

def message : TravelEvent → String
  | .installed anchor depth =>
    "Time override installed at " ++ anchor.isoText ++ " (depth=" ++ toString depth ++ ")"
  | .nothingToRevert => "No time override to revert"
  | .reverted anchor depth =>
    "Time override at " ++ anchor.isoText ++ " reverted (depth=" ++ toString depth ++ ")"
  | .closed anchor removed =>
    "Travel scope at " ++ anchor.isoText ++ " closed (" ++ toString removed ++
      " override(s) removed)"
  | .cleared removed => "Reset " ++ toString removed ++ " time override(s)"

end TravelEvent

structure JournalEntry where
  stack : StackKey
  event : TravelEvent
  deriving DecidableEq

/-- The reading at which a settable clock starts: half a second past noon on the
first of January of 2020. -/
def defaultReading : Moment := .atUtc ⟨63713476800500000, by decide, by decide⟩

structure World (Memory : Type) where
  system : ZoneRule
  clocks : List (ClockKey × Moment)
  context : Context
  journal : List JournalEntry
  memory : Memory

namespace World

/-- The reading of a clock that nobody has set is the default one. -/
def reading {Memory : Type} (world : World Memory) (clock : ClockKey) : Moment :=
  (world.clocks.lookup clock).getD defaultReading

def setReading {Memory : Type} (world : World Memory) (clock : ClockKey) (reading : Moment) :
    World Memory :=
  { world with clocks := (clock, reading) :: world.clocks.filter fun row => row.1 != clock }

/-- The entries of a stack in the current context. -/
def entries {Memory : Type} (world : World Memory) (stack : StackKey) : List Override :=
  world.context.overrides.entries stack

/-- Sets the entries of a stack in the current context. -/
def setEntries {Memory : Type} (world : World Memory) (stack : StackKey)
    (entries : List Override) : World Memory :=
  { world with context :=
      { world.context with overrides := world.context.overrides.set stack entries } }

def record {Memory : Type} (world : World Memory) (stack : StackKey) (event : TravelEvent) :
    World Memory :=
  { world with journal := world.journal ++ [⟨stack, event⟩] }

end World

/-! ## Operations -/

/-- An operation on the world. -/
abbrev Run (Memory : Type) := ExceptT Fault (StateM (World Memory))

namespace Run

variable {Memory Result : Type}

def ofExcept (outcome : Except Fault Result) : Run Memory Result := fun world => (outcome, world)

def fail (fault : Fault) : Run Memory Result := ofExcept (.error fault)

/-- Runs an operation and gives its outcome, fault or not, as the result. -/
def attempt (action : Run Memory Result) : Run Memory (Except Fault Result) := fun world =>
  let (outcome, world) := action world
  (.ok outcome, world)

/-- Runs an operation and then another one on every way out of it.  The outcome
is that of the first, unless the second stops with a fault of its own. -/
def ensuring (action : Run Memory Result) (cleanup : Run Memory Unit) : Run Memory Result := do
  let outcome ← attempt action
  cleanup
  ofExcept outcome

def world : Run Memory (World Memory) := fun world => (.ok world, world)

def modifyWorld (change : World Memory → World Memory) : Run Memory Unit := fun world =>
  (.ok (), change world)

end Run

end VirtualClock
