import VirtualClock.Log.System
import VirtualClock.Traveler.Views

/-!
# Reports of a session

What a session tells about each of its steps: the result or the fault, the
state of the addressed traveler after it, the events that happened during it,
and the reports of the steps of its block.
-/

namespace VirtualClock.Session

/-- The state of a scope as an inspection finds it. -/
structure ScopeState where
  scope : TravelScope
  anchor : Except Fault Moment
  isActive : Bool
  /-- The override of the scope is the one in force. -/
  isInnermost : Bool

inductive Result where
  | value (content : Value)
  | reading (content : Reading)
  | override (content : Option Override)
  | scope (content : TravelScope)
  | scopeState (content : ScopeState)
  | views (content : Views)
  | agreement (content : Agreement)
  /-- The zone of a traveler and the count of entries on its stack. -/
  | wiring (zone : Option Zone) (depth : Nat)
  | names (content : List String)
  | comparison (isEqual isSame hasSameHash : Bool)
  | stamp (content : TravelStamp)
  | log (level : String) (handlers : List Handler)
  | written (errorStream : String) (file : Option String)

structure TravelerState where
  depth : Nat
  instant : Except Fault Moment

structure Report where
  outcome : Except Fault Result
  state : Option TravelerState
  events : List TravelEvent
  /-- The moment with which a scope was entered. -/
  entered : Option Moment
  /-- The reports of the block, when it was run. -/
  block : Option (List Report)
  /-- The entries of the stack that the step worked on. -/
  stack : Option (List Override)

/-- How a block went: the reports of the steps that were run, and its value or fault. -/
structure BlockRun where
  reports : List Report
  outcome : Except Fault Value

end VirtualClock.Session
