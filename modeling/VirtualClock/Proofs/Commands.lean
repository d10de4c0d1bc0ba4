import VirtualClock.Proofs.Renaming
import VirtualClock.Session.Harness

/-!
# Commands of a context

The single strokes of which the activity of a context consists, each with what the
context observes of it: the value that it is given back, or the fault that stops
it.  A scoped travel is an explicit travel, the commands of its body and the
closing of its scope; a block with a traveler bound is the binding, the commands
of the block and the undoing of the binding.  In between other contexts can have
their turn.

A command that names its stacks by other keys does and shows the same under these
keys.
-/

namespace VirtualClock

open Run (Mirrors)
open Session (Departure)

variable {keys : StackKey → StackKey}

/-! ## What is observed -/

inductive Observation where
  | nothing
  | stack (key : StackKey)
  | override (content : Option Override)
  | entries (contents : List Override)
  | scope (handle : TravelScope)
  | count (amount : Nat)
  | flag (isSet : Bool)
  | reading (content : Reading)
  | traveler (content : Traveler)
  | binding (handle : Ambient.Binding)
  | text (content : String)
  deriving DecidableEq

namespace Observation

/-- Only what refers to a stack shows a key. -/
def rename (keys : StackKey → StackKey) : Observation → Observation
  | .stack key => .stack (keys key)
  | .scope handle => .scope (handle.rename keys)
  | .traveler content => .traveler (content.rename keys)
  | .binding handle => .binding (handle.rename keys)
  | other => other

def ofTrip : Trip Unit → Observation
  | .opened handle => .scope handle
  | .finished _ => .nothing

theorem ofTrip_rename (trip : Trip Unit) :
    ofTrip (trip.rename keys) = (ofTrip trip).rename keys := by
  cases trip with
  | opened handle => rfl
  | finished result => rfl

/-- What is shown in the end is shown under the new keys. -/
theorem shown (observation : Observation) :
    Mirrors keys (rename keys) (pure observation : Session.Run Observation)
      (pure (observation.rename keys)) :=
  Run.mirrors_pure (rename keys) observation

end Observation

open Observation (shown)

/-! ## Commands for a traveler -/

inductive TravelerCommand where
  | install (anchor : Value)
  /-- A travel without a body, or with one that cannot be called, by the name of its kind. -/
  | depart (departure : Departure) (uncallable : Option String)
  | revert
  | travelBack
  | reset
  | currentOverride
  | depth
  | text
  | instant
  | realNow
  | current (kind : ReadingKind) (zone : Value)

def TravelerCommand.perform [Atlas] (traveler : Traveler) : TravelerCommand → Session.Run Observation
  | .install anchor => do
    let anchor ← Session.anchorOf anchor
    let override ← traveler.install anchor
    pure (.override (some override))
  | .depart departure none => do
    let trip ← Session.depart traveler departure .absent
    pure (.ofTrip trip)
  | .depart departure (some found) => do
    let trip ← Session.depart traveler departure (.notCallable found)
    pure (.ofTrip trip)
  | .revert => do
    let override ← traveler.revert
    pure (.override override)
  | .travelBack => do
    traveler.travelBack
    pure .nothing
  | .reset => do
    let removed ← traveler.reset
    pure (.count removed)
  | .currentOverride => do
    let override ← traveler.currentOverride
    pure (.override override)
  | .depth => do
    let depth ← traveler.depth
    pure (.count depth)
  | .text => do
    let depth ← traveler.depth
    pure (.text (traveler.text depth))
  | .instant => do
    let instant ← traveler.instant
    pure (.reading (.moment instant))
  | .realNow => do
    let now ← traveler.realNow
    pure (.reading (.moment now))
  | .current kind zone => do
    let reading ← traveler.current kind zone
    pure (.reading reading)

/-- A moment as an anchor is itself, whatever the stacks are. -/
theorem Session.anchorOf_mirrors (anchor : Value) :
    Mirrors keys id (anchorOf anchor) (anchorOf anchor) := by
  cases anchor with
  | moment content => exact Run.mirrors_pure id content
  | _ => exact Run.mirrors_fail id _

theorem TravelerCommand.perform_mirrors [Atlas] (renames : RenamesStacks keys) (traveler : Traveler)
    (command : TravelerCommand) :
    Mirrors keys (Observation.rename keys) (command.perform traveler)
      (command.perform (traveler.rename keys)) := by
  cases command with
  | install anchor =>
      refine (Session.anchorOf_mirrors anchor).bind fun anchor => ?_
      exact (traveler.install_mirrors renames anchor).bind fun override =>
        shown (.override (some override))
  | depart departure uncallable =>
      have told : ∀ trip : Trip Unit, Mirrors keys (Observation.rename keys)
          (pure (.ofTrip trip) : Session.Run Observation) (pure (.ofTrip (trip.rename keys))) := by
        intro trip
        rw [Observation.ofTrip_rename]
        exact shown (.ofTrip trip)
      cases uncallable with
      | none => exact (traveler.depart_absent_mirrors renames departure).bind told
      | some found => exact (traveler.depart_notCallable_mirrors departure found).bind told
  | revert =>
      exact (traveler.revert_mirrors renames).bind fun override => shown (.override override)
  | travelBack => exact (traveler.travelBack_mirrors renames).bind fun _ => shown .nothing
  | reset => exact (traveler.reset_mirrors renames).bind fun removed => shown (.count removed)
  | currentOverride =>
      exact traveler.currentOverride_mirrors.bind fun override => shown (.override override)
  | depth => exact traveler.depth_mirrors.bind fun depth => shown (.count depth)
  | text => exact traveler.depth_mirrors.bind fun depth => shown (.text (traveler.text depth))
  | instant =>
      exact traveler.instant_mirrors.bind fun instant => shown (.reading (.moment instant))
  | realNow => exact traveler.realNow_mirrors.bind fun now => shown (.reading (.moment now))
  | current kind zone =>
      exact (traveler.current_mirrors kind zone).bind fun reading => shown (.reading reading)

/-! ## Commands for a scope -/

inductive ScopeCommand where
  /-- Enters the block of the scope, which is told the pinned instant. -/
  | enter
  | close
  | isActive

def ScopeCommand.perform (scope : TravelScope) : ScopeCommand → Session.Run Observation
  | .enter => do
    let anchor ← scope.anchor
    pure (.reading (.moment anchor))
  | .close => do
    scope.close
    pure .nothing
  | .isActive => do
    let isActive ← scope.isActive
    pure (.flag isActive)

theorem ScopeCommand.perform_mirrors (renames : RenamesStacks keys) (scope : TravelScope)
    (command : ScopeCommand) :
    Mirrors keys (Observation.rename keys) (command.perform scope)
      (command.perform (scope.rename keys)) := by
  cases command with
  | enter =>
      exact scope.anchor_mirrors.bind fun anchor =>
        shown (.reading (.moment anchor))
  | close => exact (scope.close_mirrors renames).bind fun _ => shown .nothing
  | isActive =>
      exact scope.isActive_mirrors.bind fun isActive => shown (.flag isActive)

/-! ## Commands for a stack -/

inductive StackCommand where
  | push (anchor : Value)
  | pop
  | truncate (index : Int)
  | peek
  | snapshot
  | depth
  | contains (override : Override)

def StackCommand.perform (stack : StackKey) : StackCommand → Session.Run Observation
  | .push anchor => do
    let anchor ← Session.anchorOf anchor
    let override ← Stack.push stack anchor
    pure (.override (some override))
  | .pop => do
    let override ← Stack.pop stack
    pure (.override override)
  | .truncate index => do
    let removed ← Stack.truncate stack index
    pure (.count removed)
  | .peek => do
    let override ← Stack.peek stack
    pure (.override override)
  | .snapshot => do
    let entries ← Stack.snapshot stack
    pure (.entries entries)
  | .depth => do
    let depth ← Stack.depth stack
    pure (.count depth)
  | .contains override => do
    let isInstalled ← Stack.contains stack override
    pure (.flag isInstalled)

theorem StackCommand.perform_mirrors (renames : RenamesStacks keys) (stack : StackKey)
    (command : StackCommand) :
    Mirrors keys (Observation.rename keys) (command.perform stack)
      (command.perform (keys stack)) := by
  cases command with
  | push anchor =>
      refine (Session.anchorOf_mirrors anchor).bind fun anchor => ?_
      exact (Stack.push_mirrors renames stack anchor).bind fun override =>
        shown (.override (some override))
  | pop => exact (Stack.pop_mirrors renames stack).bind fun override => shown (.override override)
  | truncate index =>
      exact (Stack.truncate_mirrors renames stack index).bind fun removed => shown (.count removed)
  | peek => exact (Stack.peek_mirrors stack).bind fun override => shown (.override override)
  | snapshot => exact (Stack.snapshot_mirrors stack).bind fun entries => shown (.entries entries)
  | depth => exact (Stack.depth_mirrors stack).bind fun depth => shown (.count depth)
  | contains override =>
      exact (Stack.contains_mirrors stack override).bind fun isInstalled =>
        shown (.flag isInstalled)

/-! ## All commands -/

inductive Command where
  /-- Makes a stack, as a new traveler does for itself. -/
  | createStack
  /-- Asks a traveler, or the ambient one when none is named. -/
  | ask (subject : Option Traveler) (command : TravelerCommand)
  | use (scope : TravelScope) (command : ScopeCommand)
  | change (stack : StackKey) (command : StackCommand)
  /-- Makes an override that lies on no stack. -/
  | makeOverride (anchor : Moment) (index : Int)
  | ambient
  | bind (traveler : Traveler)
  | restore (binding : Ambient.Binding)

namespace Command

/-- The traveler that is asked. -/
def asked : Option Traveler → Session.Run Traveler
  | some traveler => pure traveler
  | none => Ambient.traveler

def perform [Atlas] : Command → Session.Run Observation
  | .createStack => do
    let key ← Session.ownStack
    pure (.stack key)
  | .ask subject command => do
    let traveler ← asked subject
    command.perform traveler
  | .use scope command => command.perform scope
  | .change stack command => command.perform stack
  | .makeOverride anchor index => do
    let override ← Stack.mint anchor index
    pure (.override (some override))
  | .ambient => do
    let traveler ← Ambient.traveler
    pure (.traveler traveler)
  | .bind traveler => do
    let binding ← Ambient.bind traveler
    pure (.binding binding)
  | .restore binding => do
    Ambient.restore binding
    pure .nothing

/-- The stacks that a command refers to. -/
def stackKeys : Command → List StackKey
  | .createStack | .makeOverride _ _ | .ambient => []
  | .ask subject _ => subject.toList.map Traveler.stack
  | .use scope _ => [scope.traveler.stack]
  | .change stack _ => [stack]
  | .bind traveler => [traveler.stack]
  | .restore binding => binding.previous.toList.map Traveler.stack

/-- The same command for stacks under other keys. -/
def rename (keys : StackKey → StackKey) : Command → Command
  | .createStack => .createStack
  | .ask subject command => .ask (subject.map (Traveler.rename keys)) command
  | .use scope command => .use (scope.rename keys) command
  | .change stack command => .change (keys stack) command
  | .makeOverride anchor index => .makeOverride anchor index
  | .ambient => .ambient
  | .bind traveler => .bind (traveler.rename keys)
  | .restore binding => .restore (binding.rename keys)

theorem map_rename_of_fixed {traveler : Option Traveler}
    (fixed : ∀ key ∈ traveler.toList.map Traveler.stack, keys key = key) :
    traveler.map (Traveler.rename keys) = traveler := by
  cases traveler with
  | none => rfl
  | some traveler =>
      exact congrArg some (Traveler.rename_of_fixed (fixed _ (List.mem_singleton.mpr rfl)))

/-- Where the keys of its stacks stay, a command stays as it is. -/
theorem rename_of_fixed {command : Command}
    (fixed : ∀ key ∈ command.stackKeys, keys key = key) : command.rename keys = command := by
  cases command with
  | createStack => rfl
  | makeOverride anchor index => rfl
  | ambient => rfl
  | ask subject command => exact congrArg (ask · command) (map_rename_of_fixed fixed)
  | use scope command =>
      have same := Traveler.rename_of_fixed (fixed _ (List.mem_singleton.mpr rfl))
      exact congrArg (fun traveler => use ⟨traveler, scope.override⟩ command) same
  | change stack command =>
      exact congrArg (change · command) (fixed _ (List.mem_singleton.mpr rfl))
  | bind traveler =>
      exact congrArg bind (Traveler.rename_of_fixed (fixed _ (List.mem_singleton.mpr rfl)))
  | restore binding =>
      exact congrArg (fun previous => restore ⟨binding.context, previous⟩)
        (map_rename_of_fixed fixed)

theorem asked_mirrors (renames : RenamesStacks keys) (subject : Option Traveler) :
    Mirrors keys (Traveler.rename keys) (asked subject)
      (asked (subject.map (Traveler.rename keys))) := by
  cases subject with
  | none => exact Ambient.traveler_mirrors renames
  | some traveler => exact Run.mirrors_pure (Traveler.rename keys) traveler

/-- No command but the one that makes a stack depends on the keys. -/
theorem perform_mirrors [Atlas] (renames : RenamesStacks keys) {command : Command}
    (makesNone : command ≠ .createStack) :
    Mirrors keys (Observation.rename keys) command.perform (command.rename keys).perform := by
  cases command with
  | createStack => exact absurd rfl makesNone
  | ask subject command =>
      exact (asked_mirrors renames subject).bind fun traveler =>
        command.perform_mirrors renames traveler
  | use scope command => exact command.perform_mirrors renames scope
  | change stack command => exact command.perform_mirrors renames stack
  | makeOverride anchor index =>
      exact (Stack.mint_mirrors anchor index).bind fun override =>
        shown (.override (some override))
  | ambient =>
      exact (Ambient.traveler_mirrors renames).bind fun traveler =>
        shown (.traveler traveler)
  | bind traveler =>
      exact (Ambient.bind_mirrors traveler).bind fun binding =>
        shown (.binding binding)
  | restore binding =>
      exact (Ambient.restore_mirrors binding).bind fun _ =>
        shown .nothing

end Command

end VirtualClock
