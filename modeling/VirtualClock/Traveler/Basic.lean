import VirtualClock.Stack
import VirtualClock.View

/-!
# Travelers

A traveler reads the current time: the anchor of the innermost override on its
stack, or its real clock when there is none.  Overrides are installed with
`travel`, which counts from the real clock, with `travelTo`, which drops the
fraction of the second, and with `freeze`, which stops at the real second.

Without a body an override stays until it is reverted.  With a body it lasts as
long as the body runs and is released on every way out of it.
-/

namespace VirtualClock

variable [Atlas] {Memory Result : Type}

/-- The handle of one installed override. -/
structure TravelScope where
  traveler : Traveler
  override : Override
  deriving DecidableEq

/-- What a travel is asked to run. -/
inductive TravelBody (Memory Result : Type) where
  | absent
  /-- Something that cannot be called, by the name of its kind. -/
  | notCallable (found : String)
  | run (action : Run Memory Result)

/-- What a travel gives: the open scope, or the result of its body. -/
inductive Trip (Result : Type) where
  | opened (scope : TravelScope)
  | finished (result : Result)

namespace Traveler

/-! ## Reading -/

/-- The reading of the real clock in universal time. -/
def realNow (traveler : Traveler) : Run Memory Moment := do
  let world ← Run.world
  let reading := world.reading traveler.clock
  if reading.isAware then Run.ofExcept (reading.inUtc world.system)
  else Run.fail .naiveClockReading

/-- The effective instant: the anchor in force, or the real time. -/
def instant (traveler : Traveler) : Run Memory Moment := do
  match ← Stack.peek traveler.stack with
  | some override => pure override.anchor
  | none => traveler.realNow

def depth (traveler : Traveler) : Run Memory Nat := Stack.depth traveler.stack

def currentOverride (traveler : Traveler) : Run Memory (Option Override) :=
  Stack.peek traveler.stack

/-- The zone in which a reading is shown: the one that is asked for, or else that
of the traveler. -/
def displayZone (traveler : Traveler) (zone : Value) : Except Fault (Option Zone) :=
  zone.toZone.map fun asked => asked <|> traveler.zone

/-- The current time as a moment of a kind. -/
def currentMoment (traveler : Traveler) (kind : MomentKind) (zone : Value) :
    Run Memory Moment := do
  let zone ← Run.ofExcept (traveler.displayZone zone)
  let instant ← traveler.instant
  let world ← Run.world
  Run.ofExcept (kind.ofInstant world.system instant zone)

/-- The current date as a day of a kind. -/
def currentDay (traveler : Traveler) (kind : DayKind) (zone : Value) : Run Memory Day := do
  let zone ← Run.ofExcept (traveler.displayZone zone)
  let instant ← traveler.instant
  let world ← Run.world
  Run.ofExcept (kind.ofInstant world.system instant zone)

/-- The current time in the shape of a kind.  A kind that cannot be built from an
instant is refused before the time is read. -/
def current (traveler : Traveler) (kind : ReadingKind) (zone : Value) : Run Memory Reading := do
  match kind with
  | .moment kind =>
    let content ← traveler.currentMoment kind zone
    pure (.moment content)
  | .day kind =>
    let content ← traveler.currentDay kind zone
    pure (.day content)
  | .probe =>
    let zone ← Run.ofExcept (traveler.displayZone zone)
    let instant ← traveler.instant
    pure (.probe instant zone)
  | .unsupported name =>
    let _ ← Run.ofExcept (traveler.displayZone zone)
    Run.fail (.missingClassAttribute name "from_instant")

def text (traveler : Traveler) (depth : Nat) : String :=
  "TimeTraveler(zone=" ++ Zone.optionalText traveler.zone ++ ", depth=" ++ toString depth ++ ")"

/-! ## Installing and removing -/

def record (traveler : Traveler) (event : TravelEvent) : Run Memory Unit :=
  Run.modifyWorld fun world => world.record traveler.stack event

def install (traveler : Traveler) (anchor : Moment) : Run Memory Override := do
  let override ← Stack.push traveler.stack anchor
  traveler.record (.installed override.anchor (override.depth + 1))
  pure override

def revert (traveler : Traveler) : Run Memory (Option Override) := do
  match ← Stack.pop traveler.stack with
  | none =>
    traveler.record .nothingToRevert
    pure none
  | some override =>
    let depth ← traveler.depth
    traveler.record (.reverted override.anchor depth)
    pure (some override)

/-- Removes every override and counts them. -/
def reset (traveler : Traveler) : Run Memory Nat := do
  let removed ← Stack.truncate traveler.stack 0
  if removed = 0 then pure 0
  else
    traveler.record (.cleared removed)
    pure removed

/-- Removes an override and everything above it, when it is still installed. -/
def release (traveler : Traveler) (override : Override) : Run Memory Unit := do
  if ← Stack.contains traveler.stack override then
    let removed ← Stack.truncate traveler.stack override.depth
    traveler.record (.closed override.anchor removed)
  else pure ()

end Traveler

/-! ## Scopes -/

namespace TravelScope

def text (scope : TravelScope) : String :=
  "TravelScope(anchor=" ++ scope.override.anchor.isoText ++ ", depth=" ++
    toString scope.override.depth ++ ")"

/-- The pinned instant in the zone of the traveler. -/
def anchor (scope : TravelScope) : Run Memory Moment := do
  let world ← Run.world
  Run.ofExcept
    (MomentKind.timestamp.ofInstant world.system scope.override.anchor scope.traveler.zone)

def isActive (scope : TravelScope) : Run Memory Bool :=
  Stack.contains scope.traveler.stack scope.override

def close (scope : TravelScope) : Run Memory Unit := scope.traveler.release scope.override

/-- Enters a scope with the pinned instant, runs a body and closes the scope.  When
the instant cannot be shown the body does not run and the scope stays open. -/
def within (scope : TravelScope) (body : Moment → Run Memory Result) : Run Memory Result := do
  let entered ← scope.anchor
  Run.ensuring (body entered) scope.close

end TravelScope

/-! ## Travelling -/

namespace Traveler

/-- Runs an action under an anchor, which is released on every way out. -/
def visit (traveler : Traveler) (anchor : Moment) (action : Run Memory Result) :
    Run Memory Result := do
  let override ← traveler.install anchor
  TravelScope.within ⟨traveler, override⟩ fun _ => action

/-- Installs an anchor and runs the body within it, when there is one. -/
def enter (traveler : Traveler) (anchor : Moment) (body : TravelBody Memory Result) :
    Run Memory (Trip Result) :=
  match body with
  | .notCallable found => Run.fail (.notCallable found)
  | .absent => do
    let override ← traveler.install anchor
    pure (.opened ⟨traveler, override⟩)
  | .run action => do
    let result ← traveler.visit anchor action
    pure (.finished result)

/-- The anchor that an offset from the real time leads to. -/
def anchorAfter (traveler : Traveler) (offset : Value) : Run Memory Moment := do
  let span ← Run.ofExcept offset.toOffset
  let now ← traveler.realNow
  Run.ofExcept (now.shift span)

def travel (traveler : Traveler) (offset : Value) (body : TravelBody Memory Result) :
    Run Memory (Trip Result) := do
  let anchor ← traveler.anchorAfter offset
  traveler.enter anchor body

/-- A target as a moment: a date stands for its first midnight. -/
def targetMoment : Value → Except Fault Moment
  | .moment content => .ok content
  | .day content =>
    match WallTime.midnight? content.date with
    | some wall => .ok ⟨.plain, wall, none, false⟩
    | none => .error .dateOutOfRange
  | value => .error (.notATarget value.typeName)

/-- The UTC moment of a target.  A target without an offset is read in the zone
of the traveler, or in the local zone. -/
def targetInstant (traveler : Traveler) (system : ZoneRule) (target : Value) :
    Except Fault Moment := do
  let moment ← targetMoment target
  let placed ←
    if moment.isAware then pure moment
    else
      match traveler.zone with
      | some zone => pure { moment with zone := some zone }
      | none => moment.inLocalZone system
  placed.inUtc system

/-- The anchor of a target: its instant to the whole second. -/
def anchorAt (traveler : Traveler) (target : Value) : Run Memory Moment := do
  let world ← Run.world
  let instant ← Run.ofExcept (traveler.targetInstant world.system target)
  pure instant.wholeSecond

/-- Travels to a target, to the whole second. -/
def travelTo (traveler : Traveler) (target : Value) (body : TravelBody Memory Result) :
    Run Memory (Trip Result) := do
  let anchor ← traveler.anchorAt target
  traveler.enter anchor body

/-- Stops the time at the current real second. -/
def freeze (traveler : Traveler) (body : TravelBody Memory Result) :
    Run Memory (Trip Result) := do
  let now ← traveler.realNow
  traveler.travelTo (.moment now) body

def travelBack (traveler : Traveler) : Run Memory Unit := do
  let _ ← traveler.revert
  pure ()

end Traveler

end VirtualClock
