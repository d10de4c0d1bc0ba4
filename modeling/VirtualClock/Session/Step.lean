import VirtualClock.Log.Line
import VirtualClock.Settings.Schema

/-!
# Steps of a session

A session is a program that works with travelers: a row of steps, some of which
run a block of further steps within a travel, a scope, a binding, another
context or a thread.  Each step addresses a traveler.

A fault ends its step and not the session, unless the step passes its faults on
to the block around it.
-/

namespace VirtualClock.Session

inductive Subject where
  | named (name : String)
  /-- The one that is bound in the current context. -/
  | ambient
  /-- The one of the test case that the session runs in. -/
  | testCase
  | nobody
  deriving DecidableEq, Repr, Inhabited

inductive Departure where
  | by (offset : Value)
  | to (target : Value)
  | stop

/-- What a travel without a block is given as its body. -/
inductive Passenger where
  | nobody
  | thing (value : Value)
  /-- The traveler's own reading of the time, or of the date. -/
  | time
  | date

/-- How a class of views is asked for the current time. -/
inductive ReadCall where
  | now
  | today
  | utcNow
  deriving DecidableEq, Repr

inductive StackCall where
  | push (anchor : Value) (label : Option String)
  | pop (label : Option String)
  | peek
  | truncate (depth : Int)
  | contains (label : String)
  | text

/-- What a step does when it runs no block. -/
inductive Action where
  | travel (departure : Departure) (passenger : Passenger) (label : Option String)
  | travelBack
  | revert
  | reset
  | currentOverride
  | install (anchor : Value) (label : Option String)
  | close (scope : String)
  | inspect (scope : String)
  | now (zone : Value)
  | today (zone : Value)
  | current (kind : ReadingKind) (zone : Value)
  | instant
  | realNow
  | text
  | read (kind : ReadingKind) (className : String) (call : ReadCall) (zone : Option Value)
  | readViews (zone : Value)
  | checkAgreement (zone : Value)
  | inspectTraveler
  | ambientNames
  | setClock (reading : Value)
  | advanceClock (amount : Value)
  | stack (name : String) (call : StackCall)
  | makeOverride (anchor : Value) (depth : Int) (label : Option String)
  | compareOverrides (left right : String)
  | assignField (override field : String)
  | makeRecord (name : String) (record : Record)
  | filterRecord (name : String)
  | formatRecord (name : String) (format : LineFormat)
  | configureLog (settings : Fields) (service version : Json)
  | addHandler
  | inspectLog
  | emit (name : String) (file : Option String)
  deriving Inhabited

/-- How a block ends once its steps are done. -/
inductive Ending where
  | gives (value : Value)
  | raises (fault : Fault)

/-- Whom a step addresses, and whether it passes its faults on. -/
structure Manner where
  subject : Subject
  passesOn : Bool
  deriving DecidableEq, Repr, Inhabited

inductive Step where
  | act (manner : Manner) (action : Action)
  /-- Travels with a block as the body. -/
  | journey (manner : Manner) (departure : Departure) (steps : List Step) (ending : Ending)
  /-- Enters the scope of an earlier travel. -/
  | within (manner : Manner) (scope : String) (steps : List Step) (ending : Ending)
  /-- Binds a traveler. -/
  | binding (manner : Manner) (traveler : Subject) (steps : List Step) (ending : Ending)
  /-- Runs the block in a copy of the context, which is kept when it has a name. -/
  | inContext (manner : Manner) (name : Option String) (steps : List Step) (ending : Ending)
  | inThread (manner : Manner) (steps : List Step) (ending : Ending)
  deriving Inhabited

namespace Step

def manner : Step → Manner
  | .act manner _ => manner
  | .journey manner _ _ _ => manner
  | .within manner _ _ _ => manner
  | .binding manner _ _ _ => manner
  | .inContext manner _ _ _ => manner
  | .inThread manner _ _ => manner

end Step

end VirtualClock.Session
