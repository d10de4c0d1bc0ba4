import VirtualClock.Session.Report
import VirtualClock.Session.Step

/-!
# The memory of a session

What a session keeps beside the world: the travelers, stacks, scopes,
overrides and records by the names that its steps give them, the contexts that
were copied under a name, the log, and the test case that it runs in.
-/

namespace VirtualClock.Session

/-- Something that a step has kept under a label. -/
inductive Kept where
  | scope (content : TravelScope)
  | override (content : Override)

/-- A test case that gets its traveler when a step first asks for it. -/
structure TestCase where
  /-- The traveler that the case makes; without one it takes the ambient one. -/
  own : Option Traveler
  /-- The traveler and its binding, once it was asked for. -/
  bound : Option (Traveler × Ambient.Binding)

structure Memory where
  travelers : List (String × Traveler)
  stackKeys : List (String × StackKey)
  nextClock : ClockKey
  nextStack : StackKey
  nextContext : Nat
  contexts : List (String × Context)
  /-- The named contexts that are entered at the moment. -/
  enteredContexts : List String
  kept : List (String × Kept)
  records : List (String × Record)
  logs : LogSystem
  testCase : Option TestCase

abbrev Run := VirtualClock.Run Memory

def currentMemory : Run Memory := do
  let world ← Run.world
  pure world.memory

def modifyMemory (change : Memory → Memory) : Run Unit :=
  Run.modifyWorld fun world => { world with memory := change world.memory }

/-- Sets the value under a name, in its place when there is one. -/
def setNamed {Content : Type} (name : String) (content : Content) :
    List (String × Content) → List (String × Content)
  | [] => [(name, content)]
  | (other, current) :: rest =>
    if other = name then (other, content) :: rest
    else (other, current) :: setNamed name content rest

def getNamed {Content : Type} (name : String) (contents : List (String × Content)) :
    Run Content :=
  match contents.lookup name with
  | some content => pure content
  | none => Run.fail (.unknownName name)

/-- Keeps something under a label, when there is one. -/
def keep (label : Option String) (content : Kept) : Run Unit :=
  match label with
  | none => pure ()
  | some label =>
    modifyMemory fun memory => { memory with kept := setNamed label content memory.kept }

/-- The scope under a label, which is asked for a member. -/
def keptScope (label member : String) : Run TravelScope := do
  let memory ← currentMemory
  match ← getNamed label memory.kept with
  | .scope content => pure content
  | .override _ => Run.fail (.missingAttribute "ClockOverride" member)

/-- The override under a label, which is asked for a member. -/
def keptOverride (label member : String) : Run Override := do
  let memory ← currentMemory
  match ← getNamed label memory.kept with
  | .override content => pure content
  | .scope _ => Run.fail (.missingAttribute "TravelScope" member)

/-- The key of a stack by its name; a name gets its key when it is first used. -/
def stackNamed (name : String) : Run StackKey := do
  let memory ← currentMemory
  match memory.stackKeys.lookup name with
  | some stack => pure stack
  | none =>
    let stack := memory.nextStack
    modifyMemory fun memory =>
      { memory with stackKeys := memory.stackKeys ++ [(name, stack)], nextStack := stack + 1 }
    pure stack

/-- A number that no context has yet. -/
def freshContext : Run Nat := do
  let memory ← currentMemory
  modifyMemory fun memory => { memory with nextContext := memory.nextContext + 1 }
  pure memory.nextContext

def record (name : String) : Run Record := do
  let memory ← currentMemory
  getNamed name memory.records

def setRecord (name : String) (content : Record) : Run Unit :=
  modifyMemory fun memory => { memory with records := setNamed name content memory.records }

/-- The traveler of the test case; the first call makes it and binds it. -/
def testCaseTraveler : Run Traveler := do
  let memory ← currentMemory
  match memory.testCase with
  | none => Run.fail (.unknownName "case")
  | some testCase =>
    match testCase.bound with
    | some (traveler, _) => pure traveler
    | none =>
      let traveler ←
        match testCase.own with
        | some traveler => pure traveler
        | none => Ambient.traveler
      let binding ← Ambient.bind traveler
      modifyMemory fun memory =>
        { memory with testCase := some { testCase with bound := some (traveler, binding) } }
      pure traveler

/-- The traveler that a step addresses, when it addresses one. -/
def subjectTraveler : Subject → Run (Option Traveler)
  | .nobody => pure none
  | .ambient => do
    let traveler ← Ambient.traveler
    pure (some traveler)
  | .testCase => do
    let traveler ← testCaseTraveler
    pure (some traveler)
  | .named name => do
    let memory ← currentMemory
    let traveler ← getNamed name memory.travelers
    pure (some traveler)

end VirtualClock.Session
