import VirtualClock.Clock
import VirtualClock.Session.Memory

/-!
# The actions of a session

What each step does that runs no block.  Values come in as any kind of
argument; an operation that needs a moment asks the value for a member that
only moments have.
-/

namespace VirtualClock.Session

variable [Atlas]

/-! ## Travels and scopes -/

/-- The result of a travel; an open scope is kept under the label. -/
def tripResult (label : Option String) : Trip Result → Run Result
  | .opened scope => do
    keep label (.scope scope)
    pure (.scope scope)
  | .finished result => pure result

def passengerBody (traveler : Traveler) : Passenger → TravelBody Memory Result
  | .nobody | .thing .nothing => .absent
  | .thing value => .notCallable value.typeName
  | .time => .run do
    let moment ← traveler.currentMoment .timestamp .nothing
    pure (.reading (.moment moment))
  | .date => .run do
    let day ← traveler.currentDay .calendarDate .nothing
    pure (.reading (.day day))

def depart {Store Outcome : Type} (traveler : Traveler) (departure : Departure)
    (body : TravelBody Store Outcome) : VirtualClock.Run Store (Trip Outcome) :=
  match departure with
  | .by offset => traveler.travel offset body
  | .to target => traveler.travelTo target body
  | .stop => traveler.freeze body

/-- The moment that a value is, where its zone is asked for. -/
def anchorOf : Value → Run Moment
  | .moment content => pure content
  | value => Run.fail (value.lacks "tzinfo")

def inspectScope (scope : TravelScope) : Run Result := do
  let anchor ← Run.attempt scope.anchor
  let isActive ← scope.isActive
  let top ← scope.traveler.currentOverride
  let isInnermost := top.any fun override => override.identity == scope.override.identity
  pure (.scopeState ⟨scope, anchor, isActive, isInnermost⟩)

/-! ## Readings by classes -/

def readClass (traveler : Traveler) (kind : ReadingKind) (className : String) (call : ReadCall)
    (zone : Option Value) : Run Result := do
  let given := zone.getD .nothing
  let member :=
    match call with
    | .now => "now"
    | .today => "today"
    | .utcNow => "utcnow"
  match kind, call with
  | .moment kind, .now =>
    let moment ← traveler.currentMoment kind given
    pure (.reading (.moment moment))
  | .moment kind, .today =>
    let moment ← traveler.currentMoment kind .nothing
    pure (.reading (.moment moment))
  | .moment kind, .utcNow =>
    let moment ← traveler.currentMoment kind (.zone .utc)
    pure (.reading (.moment moment))
  | .day kind, .today =>
    let day ← traveler.currentDay kind given
    pure (.reading (.day day))
  | _, _ => Run.fail (.missingClassAttribute className member)

/-! ## Stacks and overrides -/

def callStack (stack : StackKey) : StackCall → Run Result
  | .push anchor label => do
    let anchor ← anchorOf anchor
    let override ← Stack.push stack anchor
    keep label (.override override)
    pure (.override (some override))
  | .pop label => do
    let override ← Stack.pop stack
    match override with
    | some content => keep label (.override content)
    | none => pure ()
    pure (.override override)
  | .peek => do
    let override ← Stack.peek stack
    pure (.override override)
  | .truncate depth => do
    let removed ← Stack.truncate stack depth
    pure (.value (.whole removed))
  | .contains label => do
    let override ← keptOverride label "installed_at_depth"
    let isInstalled ← Stack.contains stack override
    pure (.value (.flag isInstalled))
  | .text => do
    let depth ← Stack.depth stack
    pure (.value (.text (stackText depth)))

/-- Compares two overrides by content, by identity and by hash. -/
def compareOverrides (left right : Override) : Run Result := do
  let isEqual ← Run.ofExcept (left.sameContent right)
  let leftKey ← Run.ofExcept left.hashKey
  let rightKey ← Run.ofExcept right.hashKey
  pure (.comparison isEqual (left.identity == right.identity) (leftKey == rightKey))

/-! ## The log -/

/-- Stamps a record by a traveler, or by the ambient one. -/
def filterRecord (name : String) (traveler : Traveler) : Run Result := do
  let content ← record name
  let stamped ← content.stamp traveler
  setRecord name stamped
  pure (.stamp ⟨stamped.depth.getD .null, stamped.virtualTime.getD .null⟩)

def configureLog (settings : Fields) (service version : Json) : Run Result := do
  match LoggingSettings.ofFields settings with
  | .error refused => Run.fail (.refusedSettings refused)
  | .ok settings =>
    let memory ← currentMemory
    let (outcome, logs) := memory.logs.configure settings service version
    modifyMemory fun memory => { memory with logs }
    Run.ofExcept outcome
    pure (.value .nothing)

/-- Logs a record and tells what it added to the error stream. -/
def emitRecord (name : String) (file : Option String) : Run Result := do
  let content ← record name
  let memory ← currentMemory
  let before := memory.logs.errorStream
  let (stamped, logs) ← memory.logs.emit content
  modifyMemory fun memory => { memory with logs }
  setRecord name stamped
  let added := String.ofList (logs.errorStream.toList.drop before.length)
  pure (.written added (file.bind fun path => logs.fileText path))

/-! ## All actions -/

def perform (traveler : Traveler) : Action → Run Result
  | .travel departure passenger label => do
    let trip ← depart traveler departure (passengerBody traveler passenger)
    tripResult label trip
  | .travelBack => do
    traveler.travelBack
    pure (.value .nothing)
  | .revert => do
    let override ← traveler.revert
    pure (.override override)
  | .reset => do
    let removed ← traveler.reset
    pure (.value (.whole removed))
  | .currentOverride => do
    let override ← traveler.currentOverride
    pure (.override override)
  | .install anchor label => do
    let anchor ← anchorOf anchor
    let override ← traveler.install anchor
    keep label (.override override)
    pure (.override (some override))
  | .close label => do
    let scope ← keptScope label "close"
    scope.close
    pure (.value .nothing)
  | .inspect label => do
    let scope ← keptScope label "anchor"
    inspectScope scope
  | .now zone => do
    let moment ← traveler.currentMoment .timestamp zone
    pure (.reading (.moment moment))
  | .today zone => do
    let day ← traveler.currentDay .calendarDate zone
    pure (.reading (.day day))
  | .current kind zone => do
    let reading ← traveler.current kind zone
    pure (.reading reading)
  | .instant => do
    let instant ← traveler.instant
    pure (.reading (.moment instant))
  | .realNow => do
    let now ← traveler.realNow
    pure (.reading (.moment now))
  | .text => do
    let depth ← traveler.depth
    pure (.value (.text (traveler.text depth)))
  | .read kind className call zone => readClass traveler kind className call zone
  | .readViews zone => do
    let zone ← Run.ofExcept zone.toZone
    let views ← traveler.readViews ((zone.map Value.zone).getD .nothing)
    pure (.views views)
  | .checkAgreement zone => do
    let agreement ← traveler.checkAgreement zone
    pure (.agreement agreement)
  | .inspectTraveler => do
    let depth ← traveler.depth
    pure (.wiring traveler.zone depth)
  | .ambientNames => do
    let bound ← Ambient.traveler
    let memory ← currentMemory
    pure (.names ((memory.travelers.filter fun row => row.2 = bound).map fun row => row.1))
  | .setClock reading => do
    Clock.set traveler.clock reading
    pure (.value .nothing)
  | .advanceClock amount => do
    Clock.advance traveler.clock amount
    pure (.value .nothing)
  | .stack name call => do
    let stack ← stackNamed name
    callStack stack call
  | .makeOverride anchor depth label => do
    let anchor ← anchorOf anchor
    let override ← Stack.mint anchor depth
    keep label (.override override)
    pure (.override (some override))
  | .compareOverrides left right => do
    let left ← keptOverride left "installed_at_depth"
    let right ← keptOverride right "installed_at_depth"
    compareOverrides left right
  | .assignField override field => do
    let _ ← keptOverride override field
    Run.fail (.frozenField field)
  | .makeRecord name content => do
    setRecord name content
    pure (.value .nothing)
  | .filterRecord name => filterRecord name traveler
  | .formatRecord name format => do
    let content ← record name
    let line ← content.line format
    pure (.value (.text line))
  | .configureLog settings service version => configureLog settings service version
  | .addHandler => do
    modifyMemory fun memory => { memory with logs := memory.logs.addHandler .silent }
    pure (.value .nothing)
  | .inspectLog => do
    let memory ← currentMemory
    pure (.log memory.logs.level memory.logs.handlers)
  | .emit name file => emitRecord name file

/-- The entries of the stack that an action works on, once it is done. -/
def stackAfter : Action → Run (Option (List Override))
  | .stack name _ => do
    let stack ← stackNamed name
    let entries ← Stack.snapshot stack
    pure (some entries)
  | _ => pure none

end VirtualClock.Session
