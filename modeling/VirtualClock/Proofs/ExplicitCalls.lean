import VirtualClock.Proofs.JourneyFaults

/-!
# Calls that pin an anchor

An explicit travel and an install work out their anchor before they write anything.  Such a
call therefore either stops with a fault, in the very world that it was given, or it opens one
override and does nothing else.

`ExplicitCall.Refuses` lists why there can be no anchor: the argument is of the wrong kind or no
number, the real clock has no offset, or a time cannot be represented.
-/

namespace VirtualClock

open Outcome (OnlyLeavesCalendar)
open Session (Departure depart)

variable {Memory : Type}

/-- A call that is to pin an anchor and is given no body. -/
inductive ExplicitCall where
  | travel (departure : Departure)
  | install (anchor : Value)

namespace ExplicitCall

/-- The step of a session that makes the call and keeps what it gives under a label. -/
def action (label : Option String) : ExplicitCall → Session.Action
  | .travel departure => .travel departure .nobody label
  | .install anchor => .install anchor label

/-- A travel gives its open scope, an install the override. -/
def result (scope : TravelScope) : ExplicitCall → Session.Result
  | .travel _ => .scope scope
  | .install _ => .override (some scope.override)

/-- The anchor that an install of the value pins. -/
def givenAnchor (system : ZoneRule) : Value → Except Fault Moment
  | .moment given =>
    if given.isAware then given.inUtc system else .error (.naiveAnchor given.constructorText)
  | value => .error (value.lacks "tzinfo")

/-- The anchor that the call pins. -/
def anchor (traveler : Traveler) (world : World Memory) : ExplicitCall → Except Fault Moment
  | .travel departure => (traveler.destination departure world).1
  | .install value => givenAnchor world.system value

end ExplicitCall

/-! ## Why a call is refused -/

/-- The value is a duration or a number; flags are neither. -/
def Value.IsOffset : Value → Prop
  | .duration _ | .whole _ | .float _ => True
  | _ => False

/-- The value is a date or a moment. -/
def Value.IsTarget : Value → Prop
  | .day _ | .moment _ => True
  | _ => False

def Value.IsMoment : Value → Prop
  | .moment _ => True
  | _ => False

/-- The departure counts from the real clock, and its offset is a span of time. -/
def Session.Departure.CountsFromClock : Departure → Prop
  | .by offset => ∃ span, offset.toOffset = .ok span
  | .to _ => False
  | .stop => True

namespace ExplicitCall

/-- Why there is no anchor for the call, and the fault that says so. -/
inductive Refuses (traveler : Traveler) (world : World Memory) : ExplicitCall → Fault → Prop where
  | noOffset {offset : Value} (other : ¬offset.IsOffset) :
      Refuses traveler world (.travel (.by offset)) (.notAnOffset offset.typeName)
  | noNumber : Refuses traveler world (.travel (.by (.float .nan))) .notANumber
  | infinite (negative : Bool) :
      Refuses traveler world (.travel (.by (.float (.infinite negative)))) .infiniteSpan
  /-- The number of seconds is finite and no span can be as long. -/
  | tooLong {offset : Value} {fault : Fault} (isOffset : offset.IsOffset)
      (failed : offset.toOffset = .error fault) (isOverflow : fault.isOverflow)
      (finite : ∀ negative, offset ≠ .float (.infinite negative)) :
      Refuses traveler world (.travel (.by offset)) fault
  | naiveClock {departure : Departure} (reads : departure.CountsFromClock)
      (naive : ¬(world.reading traveler.clock).isAware) :
      Refuses traveler world (.travel departure) .naiveClockReading
  | clockOutside {departure : Departure} (reads : departure.CountsFromClock)
      (aware : (world.reading traveler.clock).isAware)
      (outside : (world.reading traveler.clock).inUtc world.system = .error .dateOutOfRange) :
      Refuses traveler world (.travel departure) .dateOutOfRange
  | sumOutside {offset : Value} {span : Duration} {now : Moment}
      (isSpan : offset.toOffset = .ok span) (read : (traveler.realNow world).1 = .ok now)
      (outside : ∀ wall : WallTime, wall.ticks ≠ now.wall.ticks + span.micros) :
      Refuses traveler world (.travel (.by offset)) .dateOutOfRange
  | noTarget {target : Value} (other : ¬target.IsTarget) :
      Refuses traveler world (.travel (.to target)) (.notATarget target.typeName)
  /-- The target has no first midnight, no offset or no place in the calendar of UTC. -/
  | noInstant {target : Value} {fault : Fault} (isTarget : target.IsTarget)
      (failed : traveler.targetInstant world.system target = .error fault) :
      Refuses traveler world (.travel (.to target)) fault
  | noMoment {value : Value} (other : ¬value.IsMoment) :
      Refuses traveler world (.install value) (value.lacks "tzinfo")
  | naiveAnchor {given : Moment} (naive : ¬given.isAware) :
      Refuses traveler world (.install (.moment given)) (.naiveAnchor given.constructorText)
  | anchorOutside {given : Moment} (aware : given.isAware)
      (outside : given.inUtc world.system = .error .dateOutOfRange) :
      Refuses traveler world (.install (.moment given)) .dateOutOfRange

end ExplicitCall

/-! ### The stages one by one -/

theorem WallTime.shift_eq_error_iff {wall : WallTime} {micros : Int} {fault : Fault} :
    wall.shift micros = .error fault ↔
      fault = .dateOutOfRange ∧ ∀ moved : WallTime, moved.ticks ≠ wall.ticks + micros := by
  constructor
  · intro failed
    refine ⟨wall.shift_onlyLeavesCalendar micros fault failed, fun moved same => ?_⟩
    rw [(wall.shift_eq_ok_iff moved micros).mpr same] at failed
    cases failed
  · rintro ⟨rfl, outside⟩
    cases shifted : wall.shift micros with
    | error fault => rw [wall.shift_onlyLeavesCalendar micros fault shifted]
    | ok moved => exact absurd ((wall.shift_eq_ok_iff moved micros).mp shifted) (outside moved)

theorem Moment.shift_eq_error_iff {moment : Moment} {span : Duration} {fault : Fault} :
    moment.shift span = .error fault ↔
      fault = .dateOutOfRange ∧
        ∀ moved : WallTime, moved.ticks ≠ moment.wall.ticks + span.micros :=
  Outcome.map_eq_error_iff.trans WallTime.shift_eq_error_iff

/-- A conversion to universal time fails at the ends of the calendar only. -/
theorem Moment.inUtc_eq_error_iff {system : ZoneRule} {moment : Moment} {fault : Fault}
    (aware : moment.isAware) :
    moment.inUtc system = .error fault ↔
      fault = .dateOutOfRange ∧ moment.inUtc system = .error .dateOutOfRange := by
  constructor
  · intro failed
    obtain rfl := moment.inUtc_onlyLeavesCalendar system aware fault failed
    exact ⟨rfl, failed⟩
  · rintro ⟨rfl, failed⟩
    exact failed

theorem Duration.isOverflow_of_ofMicros {micros : Int} {fault : Fault}
    (failed : ofMicros micros = .error fault) : fault.isOverflow := by
  unfold ofMicros at failed
  dsimp only at failed
  split at failed
  · cases failed
    rfl
  · split at failed
    · cases failed
      rfl
    · cases failed

theorem Value.toOffset_of_not_isOffset {offset : Value} (other : ¬offset.IsOffset) :
    offset.toOffset = .error (.notAnOffset offset.typeName) := by
  cases offset with
  | duration span => exact absurd trivial other
  | whole number => exact absurd trivial other
  | float number => exact absurd trivial other
  | _ => rfl

namespace Traveler

variable {traveler : Traveler} {world : World Memory} {fault : Fault}

theorem realNow_of_naive (naive : ¬(world.reading traveler.clock).isAware) :
    (traveler.realNow world).1 = .error .naiveClockReading := by
  unfold realNow
  rw [Run.world_bind, if_neg naive]
  rfl

theorem realNow_eq_error_iff :
    (traveler.realNow world).1 = .error fault ↔
      (¬(world.reading traveler.clock).isAware ∧ fault = .naiveClockReading) ∨
        ((world.reading traveler.clock).isAware ∧ fault = .dateOutOfRange ∧
          (world.reading traveler.clock).inUtc world.system = .error .dateOutOfRange) := by
  by_cases aware : (world.reading traveler.clock).isAware
  · rw [realNow_of_aware aware, Moment.inUtc_eq_error_iff aware]
    simp [aware]
  · rw [realNow_of_naive aware]
    simp [aware, eq_comm]

theorem targetInstant_of_not_isTarget {target : Value} (other : ¬target.IsTarget) :
    traveler.targetInstant world.system target = .error (.notATarget target.typeName) := by
  cases target with
  | day content => exact absurd trivial other
  | moment content => exact absurd trivial other
  | _ => rfl

end Traveler

namespace ExplicitCall

variable {traveler : Traveler} {world : World Memory} {fault : Fault}

theorem refuses_of_toOffset {offset : Value} (failed : offset.toOffset = .error fault) :
    Refuses traveler world (.travel (.by offset)) fault := by
  cases offset with
  | duration span => cases failed
  | whole number =>
      exact .tooLong trivial failed (Duration.isOverflow_of_ofMicros failed) nofun
  | float number =>
      cases number with
      | nan =>
          cases failed
          exact .noNumber
      | infinite negative =>
          cases failed
          exact .infinite negative
      | finite negative significand exponent =>
          exact .tooLong trivial failed (Duration.isOverflow_of_ofMicros failed) nofun
  | _ =>
      cases failed
      exact .noOffset id

theorem refuses_of_realNow {departure : Departure} (reads : departure.CountsFromClock)
    (failed : (traveler.realNow world).1 = .error fault) :
    Refuses traveler world (.travel departure) fault := by
  rcases Traveler.realNow_eq_error_iff.mp failed with ⟨naive, rfl⟩ | ⟨aware, rfl, outside⟩
  · exact .naiveClock reads naive
  · exact .clockOutside reads aware outside

theorem refuses_of_destination {departure : Departure}
    (failed : (traveler.destination departure world).1 = .error fault) :
    Refuses traveler world (.travel departure) fault := by
  cases departure with
  | «by» offset =>
      rw [Traveler.destination, Traveler.anchorAfter_apply] at failed
      rcases Outcome.bind_eq_error_iff.mp failed with noSpan | ⟨span, isSpan, failed⟩
      · exact refuses_of_toOffset noSpan
      · rcases Outcome.bind_eq_error_iff.mp failed with unread | ⟨now, read, failed⟩
        · exact refuses_of_realNow ⟨span, isSpan⟩ unread
        · obtain ⟨rfl, outside⟩ := Moment.shift_eq_error_iff.mp failed
          exact .sumOutside isSpan read outside
  | «to» target =>
      rw [Traveler.destination, Traveler.anchorAt_apply] at failed
      have lost := Outcome.map_eq_error_iff.mp failed
      by_cases isTarget : target.IsTarget
      · exact .noInstant isTarget lost
      · rw [Traveler.targetInstant_of_not_isTarget isTarget] at lost
        cases lost
        exact .noTarget isTarget
  | stop =>
      rw [Traveler.destination_stop_apply] at failed
      exact refuses_of_realNow trivial (Outcome.map_eq_error_iff.mp failed)

theorem givenAnchor_of_isAware {system : ZoneRule} {given : Moment} (aware : given.isAware) :
    givenAnchor system (.moment given) = given.inUtc system :=
  if_pos aware

theorem givenAnchor_of_naive {system : ZoneRule} {given : Moment} (naive : ¬given.isAware) :
    givenAnchor system (.moment given) = .error (.naiveAnchor given.constructorText) :=
  if_neg naive

theorem givenAnchor_of_not_isMoment {system : ZoneRule} {value : Value}
    (other : ¬value.IsMoment) : givenAnchor system value = .error (value.lacks "tzinfo") := by
  cases value with
  | moment given => exact absurd trivial other
  | _ => rfl

theorem refuses_of_givenAnchor {value : Value}
    (failed : givenAnchor world.system value = .error fault) :
    Refuses traveler world (.install value) fault := by
  cases value with
  | moment given =>
      by_cases aware : given.isAware
      · rw [givenAnchor_of_isAware aware, Moment.inUtc_eq_error_iff aware] at failed
        obtain ⟨rfl, outside⟩ := failed
        exact .anchorOutside aware outside
      · rw [givenAnchor_of_naive aware] at failed
        cases failed
        exact .naiveAnchor aware
  | _ =>
      cases failed
      exact .noMoment id

theorem destination_of_realNow {departure : Departure} (reads : departure.CountsFromClock)
    (failed : (traveler.realNow world).1 = .error fault) :
    (traveler.destination departure world).1 = .error fault := by
  cases departure with
  | «by» offset =>
      obtain ⟨span, isSpan⟩ := reads
      rw [Traveler.destination, Traveler.anchorAfter_apply, isSpan, failed]
      rfl
  | «to» target => exact absurd reads id
  | stop => rw [Traveler.destination_stop_apply, failed, Except.map]

/-- A call has no anchor exactly when it is refused, and the fault tells the reason. -/
theorem anchor_eq_error_iff {call : ExplicitCall} :
    call.anchor traveler world = .error fault ↔ Refuses traveler world call fault := by
  constructor
  · intro failed
    cases call with
    | travel departure => exact refuses_of_destination failed
    | install value => exact refuses_of_givenAnchor failed
  intro refused
  have unspanned : ∀ {offset : Value}, offset.toOffset = .error fault →
      anchor traveler world (.travel (.by offset)) = .error fault := by
    intro offset failed
    show (traveler.anchorAfter offset world).1 = _
    rw [Traveler.anchorAfter_apply, failed]
    rfl
  have lost : ∀ {target : Value}, traveler.targetInstant world.system target = .error fault →
      anchor traveler world (.travel (.to target)) = .error fault := by
    intro target failed
    show (traveler.anchorAt target world).1 = _
    rw [Traveler.anchorAt_apply, failed]
    rfl
  cases refused with
  | noOffset other => exact unspanned (Value.toOffset_of_not_isOffset other)
  | noNumber => exact unspanned rfl
  | infinite negative => exact unspanned rfl
  | tooLong isOffset failed => exact unspanned failed
  | naiveClock reads naive =>
      exact destination_of_realNow reads (Traveler.realNow_of_naive naive)
  | clockOutside reads aware outside =>
      rw [← Traveler.realNow_of_aware aware] at outside
      exact destination_of_realNow reads outside
  | sumOutside isSpan read outside =>
      show (traveler.anchorAfter _ world).1 = _
      rw [Traveler.anchorAfter_apply, isSpan, read]
      exact Moment.shift_eq_error_iff.mpr ⟨rfl, outside⟩
  | noTarget other => exact lost (Traveler.targetInstant_of_not_isTarget other)
  | noInstant isTarget failed => exact lost failed
  | noMoment other => exact givenAnchor_of_not_isMoment other
  | naiveAnchor naive => exact givenAnchor_of_naive naive
  | anchorOutside aware outside => exact (givenAnchor_of_isAware aware).trans outside

end ExplicitCall

/-! ## What a call changes -/

/-- The later world is the earlier one with the override of the scope on its stack and logged as
installed; what the program keeps for itself is not looked at. -/
structure World.OnlyPins (before : World Memory) (scope : TravelScope) (after : World Memory) :
    Prop where
  pushed : after.entries scope.traveler.stack =
    before.entries scope.traveler.stack ++ [scope.override]
  others : ∀ stack, stack ≠ scope.traveler.stack → after.entries stack = before.entries stack
  ambient : after.context.ambient = before.context.ambient
  clocks : after.clocks = before.clocks
  system : after.system = before.system
  logged : after.journal = before.journal ++
    [⟨scope.traveler.stack, .installed scope.override.anchor
      ((before.entries scope.traveler.stack).length + 1)⟩]

theorem Traveler.pinned_onlyPins (traveler : Traveler) (anchor : Moment) (world : World Memory) :
    world.OnlyPins (traveler.nextScope anchor world) (traveler.pinned anchor world) where
  pushed := traveler.entries_pinned anchor world
  others stack different := by
    show (world.context.pushed traveler.stack anchor).entries stack = _
    rw [Context.entries_pushed]
    exact if_neg different
  ambient := rfl
  clocks := rfl
  system := rfl
  logged := rfl

theorem World.OnlyPins.withMemory {before after : World Memory} {scope : TravelScope}
    (pins : before.OnlyPins scope after) (memory : Memory) :
    before.OnlyPins scope { after with memory } :=
  { pins with }

theorem Session.exists_keep (label : Option String) (content : Kept)
    (world : World Session.Memory) :
    ∃ memory, keep label content world = (.ok (), { world with memory }) := by
  cases label with
  | none => exact ⟨world.memory, rfl⟩
  | some label => exact ⟨_, rfl⟩

/-- An install in one equation, whatever anchor is given. -/
theorem Traveler.install_given (traveler : Traveler) (given : Moment) (world : World Memory) :
    traveler.install given world =
      match ExplicitCall.givenAnchor world.system (.moment given) with
      | .error fault => (.error fault, world)
      | .ok anchor =>
        (.ok (traveler.nextScope anchor world).override, traveler.pinned anchor world) := by
  have anchored : ExplicitCall.givenAnchor world.system (.moment given) =
      given.asAnchor world.system := rfl
  rw [install_apply, anchored]
  cases given.asAnchor world.system <;> rfl

namespace ExplicitCall

variable {traveler : Traveler} {call : ExplicitCall} {world : World Session.Memory}

theorem perform_of_anchor_error [Atlas] {fault : Fault} (label : Option String)
    (refused : call.anchor traveler world = .error fault) :
    Session.perform traveler (call.action label) world = (.error fault, world) := by
  cases call with
  | travel departure =>
      have led : (traveler.destination departure world).1 = .error fault := refused
      have departed : depart traveler departure
          (.absent : TravelBody Session.Memory Session.Result) world = _ :=
        traveler.depart_absent_apply departure world
      rw [led] at departed
      exact Run.bind_of_error departed
  | install value =>
      have found : givenAnchor world.system value = .error fault := refused
      cases value with
      | moment given =>
          have asked : Session.anchorOf (.moment given) world = (.ok given, world) := rfl
          have installed := traveler.install_given given world
          rw [found] at installed
          exact (Run.bind_of_ok asked).trans (Run.bind_of_error installed)
      | _ =>
          cases found
          rfl

theorem perform_of_anchor [Atlas] {anchor : Moment} (label : Option String)
    (found : call.anchor traveler world = .ok anchor) :
    ∃ memory, Session.perform traveler (call.action label) world =
      (.ok (call.result (traveler.nextScope anchor world)),
        { traveler.pinned anchor world with memory }) := by
  cases call with
  | travel departure =>
      have led : (traveler.destination departure world).1 = .ok anchor := found
      have departed : depart traveler departure
          (.absent : TravelBody Session.Memory Session.Result) world = _ :=
        traveler.depart_absent_apply departure world
      rw [led] at departed
      obtain ⟨memory, kept⟩ := Session.exists_keep label
        (.scope (traveler.nextScope anchor world)) (traveler.pinned anchor world)
      exact ⟨memory, (Run.bind_of_ok departed).trans (Run.bind_of_ok kept)⟩
  | install value =>
      have pinned : givenAnchor world.system value = .ok anchor := found
      cases value with
      | moment given =>
          have asked : Session.anchorOf (.moment given) world = (.ok given, world) := rfl
          have installed := traveler.install_given given world
          rw [pinned] at installed
          obtain ⟨memory, kept⟩ := Session.exists_keep label
            (.override (traveler.nextScope anchor world).override) (traveler.pinned anchor world)
          exact ⟨memory, (Run.bind_of_ok asked).trans
            ((Run.bind_of_ok installed).trans (Run.bind_of_ok kept))⟩
      | _ => cases pinned

end ExplicitCall

/-- Whatever its argument, an explicit travel or an install is refused and changes nothing at all,
or it pins an anchor and changes nothing else.  The reasons for a refusal are known beforehand. -/
theorem explicit_call_pins_or_changes_nothing [Atlas] (traveler : Traveler) (call : ExplicitCall)
    (label : Option String) (world : World Session.Memory) :
    (∃ fault, call.Refuses traveler world fault ∧
      Session.perform traveler (call.action label) world = (.error fault, world)) ∨
    ∃ scope after, (∀ fault, ¬call.Refuses traveler world fault) ∧
      Session.perform traveler (call.action label) world = (.ok (call.result scope), after) ∧
      scope.traveler = traveler ∧ world.OnlyPins scope after := by
  cases found : call.anchor traveler world with
  | error fault =>
      exact .inl ⟨fault, ExplicitCall.anchor_eq_error_iff.mp found,
        ExplicitCall.perform_of_anchor_error label found⟩
  | ok anchor =>
      obtain ⟨memory, ran⟩ := ExplicitCall.perform_of_anchor label found
      refine .inr ⟨traveler.nextScope anchor world, _, fun fault refused => ?_, ran, rfl,
        (traveler.pinned_onlyPins anchor world).withMemory memory⟩
      rw [ExplicitCall.anchor_eq_error_iff.mpr refused] at found
      cases found

end VirtualClock
