import VirtualClock.Session.Play

/-!
# Harnesses of a session

A session runs on its own, with a fixture that makes a traveler and binds it, or
inside a test case that makes and binds its traveler when a step first asks for
it.  A harness cleans up after the session: it removes the overrides of its
traveler and undoes the binding, however the session ended.
-/

namespace VirtualClock.Session

variable [Atlas]

inductive Harness where
  | alone
  /-- A fixture makes the main traveler and binds it. -/
  | fixture
  /-- A test case that makes the main traveler its own. -/
  | testCase
  /-- A test case that takes the traveler which is ambient at the time. -/
  | plainTestCase
  deriving DecidableEq, Repr

structure TravelerPlan where
  name : String
  clock : Option Moment
  /-- The name of a stack to share; without one the traveler has its own. -/
  stack : Option String
  zone : Value

structure Plan where
  system : ZoneRule
  travelers : List TravelerPlan
  standardClock : Option Moment
  harness : Harness
  directories : List String

inductive Verdict where
  | none
  | done
  | counted (errors : Nat)
  deriving DecidableEq, Repr

/-- What is known after a session and its cleanup. -/
structure Summary where
  reports : List Report
  depths : List (String × Nat)
  ambientIsStandard : Bool
  verdict : Verdict

/-- The name of the traveler that steps address when they name none. -/
def mainName : String := "main"

/-- The name of the traveler that is consulted when none is bound. -/
def standardName : String := "default"

/-! ## Setting up -/

def emptyWorld (plan : Plan) : World Memory where
  system := plan.system
  clocks := (plan.standardClock.map fun reading => (Traveler.standard.clock, reading)).toList
  context := Context.empty 0
  journal := []
  memory :=
    { travelers := [(standardName, Traveler.standard)]
      stackKeys := []
      nextClock := Traveler.standard.clock + 1
      nextStack := Traveler.standard.stack + 1
      nextContext := 1
      contexts := []
      enteredContexts := []
      kept := []
      records := []
      logs := LogSystem.initial plan.directories
      testCase := none }

/-- A stack that no name stands for. -/
def ownStack : Run StackKey := do
  let memory ← currentMemory
  modifyMemory fun memory => { memory with nextStack := memory.nextStack + 1 }
  pure memory.nextStack

/-- A clock that no traveler reads yet. -/
def ownClock : Run ClockKey := do
  let memory ← currentMemory
  modifyMemory fun memory => { memory with nextClock := memory.nextClock + 1 }
  pure memory.nextClock

/-- Makes a traveler with a clock of its own. -/
def makeTraveler (plan : TravelerPlan) : Run Unit := do
  let zone ← Run.ofExcept plan.zone.toZone
  let clock ← ownClock
  let stack ←
    match plan.stack with
    | some name => stackNamed name
    | none => ownStack
  match plan.clock with
  | some reading => Run.modifyWorld fun world => world.setReading clock reading
  | none => pure ()
  modifyMemory fun memory =>
    { memory with travelers := setNamed plan.name ⟨clock, stack, zone⟩ memory.travelers }

def makeTravelers : List TravelerPlan → Run Unit
  | [] => pure ()
  | plan :: rest => do
    makeTraveler plan
    makeTravelers rest

/-! ## Running under a harness -/

def playSteps (steps : List Step) : Run BlockRun := playBlock steps (.gives .nothing)

/-- Plays a session with a fresh main traveler in universal time bound, unbinds it
and removes its overrides. -/
def playWithFixture (steps : List Step) : Run BlockRun := do
  let clock ← ownClock
  let stack ← ownStack
  let traveler : Traveler := ⟨clock, stack, some .utc⟩
  modifyMemory fun memory =>
    { memory with travelers := setNamed mainName traveler memory.travelers }
  let played ← Ambient.during traveler (playSteps steps)
  let _ ← traveler.reset
  pure played

/-- Removes the overrides of a test case's traveler and then undoes its binding;
gives the count of errors. -/
def cleanUp : Run Nat := do
  let memory ← currentMemory
  match memory.testCase.bind TestCase.bound with
  | none => pure 0
  | some (traveler, binding) =>
    let _ ← traveler.reset
    match ← Run.attempt (Ambient.restore binding) with
    | .ok _ => pure 0
    | .error _ => pure 1

/-- Plays a session inside a test case and counts the errors. -/
def playInTestCase (own : Option Traveler) (steps : List Step) : Run (BlockRun × Nat) := do
  modifyMemory fun memory => { memory with testCase := some ⟨own, none⟩ }
  let played ← playSteps steps
  let failed :=
    match played.outcome with
    | .ok _ => 0
    | .error _ => 1
  let unclean ← cleanUp
  pure (played, failed + unclean)

def playUnder (harness : Harness) (steps : List Step) : Run (BlockRun × Verdict) := do
  match harness with
  | .alone =>
    let played ← playSteps steps
    pure (played, .none)
  | .fixture =>
    let played ← playWithFixture steps
    pure (played, .done)
  | .testCase =>
    let memory ← currentMemory
    let (played, errors) ← playInTestCase (memory.travelers.lookup mainName) steps
    pure (played, .counted errors)
  | .plainTestCase =>
    let (played, errors) ← playInTestCase none steps
    pure (played, .counted errors)

def depthsOf : List (String × Traveler) → Run (List (String × Nat))
  | [] => pure []
  | (name, traveler) :: rest => do
    let depth ← traveler.depth
    let depths ← depthsOf rest
    pure ((name, depth) :: depths)

/-- Sets up a session, plays it and sums it up. -/
def conduct (plan : Plan) (steps : List Step) : Run Summary := do
  makeTravelers plan.travelers
  let (played, verdict) ← playUnder plan.harness steps
  let memory ← currentMemory
  let depths ← depthsOf memory.travelers
  let bound ← Ambient.traveler
  pure ⟨played.reports, depths, bound == Traveler.standard, verdict⟩

/-- A session from its plan; a traveler that cannot be made ends it before it begins. -/
def run (plan : Plan) (steps : List Step) : Except Fault Summary :=
  (conduct plan steps (emptyWorld plan)).1

end VirtualClock.Session
