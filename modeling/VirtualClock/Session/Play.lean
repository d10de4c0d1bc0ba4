import VirtualClock.Session.Action

/-!
# Playing a session

Steps are played one after the other.  A block is played within what its step
opens, and what was opened is closed on every way out; the reports of the
steps of a block come back even when the block ends with a fault.
-/

namespace VirtualClock.Session

variable [Atlas]

/-- The events of the journal from a place on. -/
def eventsSince (place : Nat) : Run (List TravelEvent) := do
  let world ← Run.world
  pure ((world.journal.drop place).map fun entry => entry.event)

def stateOf (traveler : Traveler) : Run TravelerState := do
  let depth ← traveler.depth
  let instant ← Run.attempt traveler.instant
  pure ⟨depth, instant⟩

/-- What playing a step gives beside its state: its outcome, the moment with which
a scope was entered, and the reports of its block. -/
structure Played where
  outcome : Except Fault Result
  entered : Option Moment
  block : Option (List Report)
  stack : Option (List Override)

namespace Played

def ofFault (fault : Fault) : Played := ⟨.error fault, none, none, none⟩

def ofBlock (entered : Option Moment) (block : BlockRun) : Played :=
  ⟨block.outcome.map Result.value, entered, some block.reports, none⟩

/-- A step that runs a block, by how far it came. -/
def ofAttempt (attempted : Except Fault Played) : Played :=
  match attempted with
  | .ok played => played
  | .error fault => ofFault fault

end Played

/-! ## Contexts -/

/-- Runs an operation in another context and gives its outcome and the context
after it; the current context stays as it is. -/
def inside {Outcome : Type} (context : Context) (action : Run Outcome) :
    Run (Except Fault Outcome × Context) := do
  let outer ← Run.world
  Run.modifyWorld fun world => { world with context }
  let outcome ← Run.attempt action
  let inner ← Run.world
  Run.modifyWorld fun world => { world with context := outer.context }
  pure (outcome, inner.context)

/-- Runs an operation in a copy of the current context. -/
def inCopy {Outcome : Type} (action : Run Outcome) : Run Outcome := do
  let world ← Run.world
  let identity ← freshContext
  let (outcome, _) ← inside (world.context.copy identity) action
  Run.ofExcept outcome

/-- Runs an operation in the context of a name, which is a copy of the current
context at first and is kept as the operation leaves it. -/
def inNamed {Outcome : Type} (name : String) (action : Run Outcome) : Run Outcome := do
  let memory ← currentMemory
  if memory.enteredContexts.contains name then Run.fail .contextInUse
  else
    let context ←
      match memory.contexts.lookup name with
      | some context => pure context
      | none => do
        let world ← Run.world
        let identity ← freshContext
        pure (world.context.copy identity)
    modifyMemory fun memory =>
      { memory with enteredContexts := name :: memory.enteredContexts }
    let (outcome, after) ← inside context action
    modifyMemory fun memory =>
      { memory with
        contexts := setNamed name after memory.contexts
        enteredContexts := memory.enteredContexts.erase name }
    Run.ofExcept outcome

/-- Runs an operation in a thread, whose context is empty. -/
def inNewThread {Outcome : Type} (action : Run Outcome) : Run Outcome := do
  let identity ← freshContext
  let (outcome, _) ← inside (Context.empty identity) action
  Run.ofExcept outcome

/-! ## Steps -/

/-- The traveler of a step; one that addresses nobody works with the ambient one. -/
def workingTraveler (traveler : Option Traveler) : Run Traveler :=
  match traveler with
  | some traveler => pure traveler
  | none => Ambient.traveler

def playAction (traveler : Option Traveler) (action : Action) : Run Played := do
  let working ← workingTraveler traveler
  let outcome ← Run.attempt (perform working action)
  match outcome with
  | .ok result =>
    let stack ← stackAfter action
    pure ⟨.ok result, none, none, stack⟩
  | .error fault => pure (.ofFault fault)

def playJourney (traveler : Option Traveler) (departure : Departure) (block : Run BlockRun) :
    Run Played := do
  let working ← workingTraveler traveler
  match ← depart working departure (.run block) with
  | .finished played => pure (.ofBlock none played)
  | .opened scope => pure ⟨.ok (.scope scope), none, none, none⟩

/-- Plays a block within the scope of an earlier travel. -/
def playWithin (label : String) (block : Run BlockRun) : Run Played := do
  let scope ← keptScope label "__enter__"
  scope.within fun entered => do
    let played ← block
    pure (.ofBlock (some entered) played)

def playBinding (subject : Subject) (block : Run BlockRun) : Run Played := do
  let bound ← subjectTraveler subject
  let bound ← workingTraveler bound
  let played ← Ambient.during bound block
  pure (.ofBlock none played)

def playContext (name : Option String) (block : Run BlockRun) : Run Played := do
  let played ←
    match name with
    | none => inCopy block
    | some name => inNamed name block
  pure (.ofBlock none played)

def playThread (block : Run BlockRun) : Run Played := do
  let played ← inNewThread block
  pure (.ofBlock none played)

/-- The value or the fault with which a block ends. -/
def Ending.outcome : Ending → Except Fault Value
  | .gives value => .ok value
  | .raises fault => .error fault

/-- Plays a step and reports on it.  The traveler is settled before the step and
asked for its state after it. -/
def reportOn (subject : Subject) (play : Option Traveler → Run Played) : Run Report := do
  let traveler ← Run.attempt (subjectTraveler subject)
  let before ← Run.world
  match traveler with
  | .error fault => pure ⟨.error fault, none, [], none, none, none⟩
  | .ok traveler =>
    let attempted ← Run.attempt (play traveler)
    let played := Played.ofAttempt attempted
    let state ←
      match traveler with
      | none => pure none
      | some traveler => do
        let state ← stateOf traveler
        pure (some state)
    let events ← eventsSince before.journal.length
    pure ⟨played.outcome, state, events, played.entered, played.block, played.stack⟩

mutual

def playStep : Step → Run Report
  | .act manner action =>
    reportOn manner.subject fun traveler => playAction traveler action
  | .journey manner departure steps ending =>
    reportOn manner.subject fun traveler =>
      playJourney traveler departure (playBlock steps ending)
  | .within manner label steps ending =>
    reportOn manner.subject fun _ => playWithin label (playBlock steps ending)
  | .binding manner subject steps ending =>
    reportOn manner.subject fun _ => playBinding subject (playBlock steps ending)
  | .inContext manner name steps ending =>
    reportOn manner.subject fun _ => playContext name (playBlock steps ending)
  | .inThread manner steps ending =>
    reportOn manner.subject fun _ => playThread (playBlock steps ending)

/-- Plays the steps of a block and ends it.  A step that passes its fault on ends
the block with it, and the steps after it are not played. -/
def playBlock : List Step → Ending → Run BlockRun
  | [], ending => pure ⟨[], ending.outcome⟩
  | step :: rest, ending => do
    let report ← playStep step
    match report.outcome, step.manner.passesOn with
    | .error fault, true => pure ⟨[report], .error fault⟩
    | _, _ => do
      let after ← playBlock rest ending
      pure ⟨report :: after.reports, after.outcome⟩

end

end VirtualClock.Session
